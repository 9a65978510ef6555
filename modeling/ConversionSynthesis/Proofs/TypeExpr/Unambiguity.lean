import ConversionSynthesis.Proofs.TypeExpr.Grammar

/-! # The grammar is unambiguous

Whatever stands behind an expression, there is one way to read it off the front of the tokens, as
long as what stands behind cannot continue it. From the left, each production is told by one token;
`global` alone takes a second one.
-/

namespace ConversionSynthesis

namespace Grammar

/-- The tokens do not start with one that continues what stands before them. -/
def Stops (continues : TokenKind → Bool) (rest : List TokenKind) : Prop :=
  ∀ k ks, rest = k :: ks → continues k = false

def continuesSegment : TokenKind → Bool
  | .openAngle => true
  | _ => false

def continuesNamed : TokenKind → Bool
  | .dot => true
  | .doubleColon => true
  | k => continuesSegment k

def continuesType : TokenKind → Bool
  | .question => true
  | .openBracket => true
  | k => continuesNamed k

def continuesElement : TokenKind → Bool
  | .ident _ => true
  | k => continuesType k

theorem stops_cons {continues : TokenKind → Bool} {k : TokenKind} {ks : List TokenKind} :
    Stops continues (k :: ks) ↔ continues k = false := by
  constructor
  · intro stops
    exact stops k ks rfl
  · rintro free k' ks' equal
    cases equal
    exact free

theorem stops_nil (continues : TokenKind → Bool) : Stops continues [] :=
  fun _ _ equal => nomatch equal

theorem Stops.mono {continues continues' : TokenKind → Bool} {rest : List TokenKind}
    (stops : Stops continues rest) (le : ∀ k, continues' k = true → continues k = true) :
    Stops continues' rest := by
  intro k ks equal
  have free := stops k ks equal
  by_cases h : continues' k = true
  · rw [le k h] at free
    cases free
  · exact Bool.eq_false_iff.mpr h

theorem Stops.named {rest : List TokenKind} (stops : Stops continuesType rest) :
    Stops continuesNamed rest :=
  stops.mono fun k h => by cases k <;> first | rfl | exact h

theorem Stops.type {rest : List TokenKind} (stops : Stops continuesElement rest) :
    Stops continuesType rest :=
  stops.mono fun k h => by cases k <;> first | rfl | exact h

/-- No other reading of `item` from tokens that start with `ks` gives anything else than `x`. -/
def Determines {α : Type} (item : List TokenKind → α → Prop) (continues : TokenKind → Bool)
    (ks : List TokenKind) (x : α) : Prop :=
  ∀ {ks' x' rest rest'}, item ks' x' → Stops continues rest → Stops continues rest' →
    ks ++ rest = ks' ++ rest' → x = x' ∧ rest = rest'

theorem Separated.determines {α : Type} {separator : TokenKind}
    {item : List TokenKind → α → Prop} {continues : TokenKind → Bool}
    (ends : continues separator = false) {ks : List TokenKind} {xs : List α}
    (determined : Separated separator (Determines item continues) ks xs) :
    Determines (Separated separator item) (fun k => continues k || k == separator) ks xs := by
  have weaken {rest : List TokenKind}
      (stops : Stops (fun k => continues k || k == separator) rest) : Stops continues rest :=
    stops.mono fun k h => by simp [h]
  induction determined with
  | one first =>
      intro ks' xs' rest rest' other stops stops' equal
      cases other with
      | one item' =>
          obtain ⟨rfl, same⟩ := first item' (weaken stops) (weaken stops') equal
          exact ⟨rfl, same⟩
      | more item' more' =>
          rw [List.append_assoc, List.cons_append] at equal
          obtain ⟨_, same⟩ := first item' (weaken stops) (stops_cons.mpr ends) equal
          have stopped := stops _ _ same
          simp at stopped
  | more first _ ih =>
      intro ks' xs' rest rest' other stops stops' equal
      rw [List.append_assoc, List.cons_append] at equal
      cases other with
      | one item' =>
          obtain ⟨_, same⟩ := first item' (stops_cons.mpr ends) (weaken stops') equal
          have stopped := stops' _ _ same.symm
          simp at stopped
      | more item' more' =>
          rw [List.append_assoc, List.cons_append] at equal
          obtain ⟨rfl, same⟩ := first item' (stops_cons.mpr ends) (stops_cons.mpr ends) equal
          obtain ⟨rfl, same⟩ := ih more' stops stops' (List.cons.inj same).2
          exact ⟨rfl, same⟩

/-! ## Suffixes -/

theorem commas_closeBracket_inj {m n : Nat} {rest rest' : List TokenKind}
    (equal : List.replicate m .comma ++ TokenKind.closeBracket :: rest =
      List.replicate n .comma ++ TokenKind.closeBracket :: rest') : m = n ∧ rest = rest' := by
  induction m generalizing n with
  | zero =>
      cases n with
      | zero => exact ⟨rfl, (List.cons.inj equal).2⟩
      | succ n => simp [List.replicate_succ] at equal
  | succ m ih =>
      cases n with
      | zero => simp [List.replicate_succ] at equal
      | succ n =>
          simp only [List.replicate_succ, List.cons_append, List.cons.injEq, true_and] at equal
          obtain ⟨rfl, same⟩ := ih equal
          exact ⟨rfl, same⟩

theorem IsSuffix.determined {ks ks' rest rest' : List TokenKind} {type inner inner' : TypeExpr}
    (suffix : IsSuffix ks type inner) (suffix' : IsSuffix ks' type inner')
    (equal : ks ++ rest = ks' ++ rest') : inner = inner' ∧ rest = rest' := by
  cases suffix with
  | question =>
      cases suffix' with
      | question => exact ⟨rfl, (List.cons.inj equal).2⟩
      | brackets => simp at equal
  | brackets _ commas =>
      cases suffix' with
      | question => simp at equal
      | brackets _ commas' =>
          simp only [List.cons_append, List.append_assoc, List.nil_append, List.cons.injEq,
            true_and] at equal
          obtain ⟨rfl, same⟩ := commas_closeBracket_inj equal
          exact ⟨rfl, same⟩

theorem IsSuffix.starts {ks : List TokenKind} {type inner : TypeExpr}
    (suffix : IsSuffix ks type inner) :
    ∃ k ks', ks = k :: ks' ∧ continuesType k = true ∧ continuesNamed k = false := by
  cases suffix with
  | question => exact ⟨.question, [], rfl, rfl, rfl⟩
  | brackets => exact ⟨.openBracket, _, rfl, rfl, rfl⟩

theorem AreSuffixes.determined {ks ks' rest rest' : List TokenKind} {type whole whole' : TypeExpr}
    (suffixes : AreSuffixes ks type whole) (suffixes' : AreSuffixes ks' type whole')
    (stops : Stops continuesType rest) (stops' : Stops continuesType rest')
    (equal : ks ++ rest = ks' ++ rest') : whole = whole' ∧ rest = rest' := by
  induction suffixes generalizing ks' with
  | none =>
      cases suffixes' with
      | none => exact ⟨rfl, equal⟩
      | more suffix' _ =>
          obtain ⟨k, ks, rfl, continues, _⟩ := suffix'.starts
          rw [stops k _ equal] at continues
          cases continues
  | more suffix _ ih =>
      cases suffixes' with
      | none =>
          obtain ⟨k, ks, rfl, continues, _⟩ := suffix.starts
          rw [stops' k _ equal.symm] at continues
          cases continues
      | more suffix' more' =>
          rw [List.append_assoc, List.append_assoc] at equal
          obtain ⟨rfl, same⟩ := suffix.determined suffix' equal
          exact ih more' same

/-- Suffixes and what stands behind a type do not continue the name before them. -/
theorem AreSuffixes.stops {ks rest : List TokenKind} {type whole : TypeExpr}
    (suffixes : AreSuffixes ks type whole) (stops : Stops continuesType rest) :
    Stops continuesNamed (ks ++ rest) := by
  cases suffixes with
  | none => exact stops.named
  | more suffix _ =>
      obtain ⟨k, ks, rfl, _, free⟩ := suffix.starts
      exact stops_cons.mpr free

/-! ## Segments and names -/

theorem IsSegment.starts {ks : List TokenKind} {segment : Segment}
    (derived : IsSegment ks segment) :
    ∃ name ks', ks = .ident name :: ks' ∧ Stops (· == .doubleColon) ks' := by
  cases derived with
  | plain name => exact ⟨name, [], rfl, stops_nil _⟩
  | generic name _ => exact ⟨name, _, rfl, stops_cons.mpr rfl⟩

theorem Stops.append {continues : TokenKind → Bool} {ks rest : List TokenKind}
    (stops : Stops continues ks) (stops' : Stops continues rest) :
    Stops continues (ks ++ rest) := by
  cases ks with
  | nil => exact stops'
  | cons k ks => exact stops_cons.mpr (stops_cons.mp stops)

/-- A path starts with a name, and `::` never follows this name inside the path. -/
theorem path_starts {ks : List TokenKind} {segments : List Segment}
    (derived : Separated .dot IsSegment ks segments) :
    ∃ name ks', ks = .ident name :: ks' ∧ Stops (· == .doubleColon) ks' := by
  cases derived with
  | one segment => exact segment.starts
  | more segment _ =>
      obtain ⟨name, ks', rfl, stops⟩ := segment.starts
      exact ⟨name, _, rfl, stops.append (stops_cons.mpr rfl)⟩

theorem path_ne_global {ks rest more : List TokenKind} {segments : List Segment} {name : String}
    (derived : Separated .dot IsSegment ks segments) (stops : Stops continuesNamed rest) :
    ks ++ rest ≠ .ident name :: .doubleColon :: more := by
  obtain ⟨name', ks', rfl, inside⟩ := path_starts derived
  have behind : Stops (· == .doubleColon) rest :=
    stops.mono fun k h => by rw [beq_iff_eq.mp h]; rfl
  intro equal
  have follows : ks' ++ rest = .doubleColon :: more := (List.cons.inj equal).2
  have stopped := inside.append behind _ _ follows
  cases stopped

theorem IsNamed.starts {ks : List TokenKind} {type : TypeExpr} (derived : IsNamed ks type) :
    ∃ name ks', ks = .ident name :: ks' := by
  cases derived with
  | plain path =>
      obtain ⟨name, ks', rfl, _⟩ := path_starts path
      exact ⟨name, ks', rfl⟩
  | global _ => exact ⟨"global", _, rfl⟩

theorem generic_determines {ks : List TokenKind} {arguments : List TypeExpr} (name : String)
    (determined : Separated .comma (Determines IsType continuesType) ks arguments) :
    Determines IsSegment continuesSegment (.ident name :: .openAngle :: (ks ++ [.closeAngle]))
      (.mk name arguments default) := by
  intro ks' segment' rest rest' other _ stops' equal
  cases other with
  | plain name' =>
      have stopped := stops' _ _ (List.cons.inj equal).2.symm
      cases stopped
  | generic name' arguments' =>
      simp only [List.cons_append, List.append_assoc, List.nil_append, List.cons.injEq,
        TokenKind.ident.injEq, true_and] at equal
      obtain ⟨rfl, same⟩ := equal
      obtain ⟨rfl, same⟩ := Separated.determines rfl determined arguments'
        (stops_cons.mpr rfl) (stops_cons.mpr rfl) same
      exact ⟨rfl, (List.cons.inj same).2⟩

theorem plain_determines (name : String) :
    Determines IsSegment continuesSegment [.ident name] (.mk name [] default) := by
  intro ks' segment' rest rest' other stops _ equal
  cases other with
  | plain name' =>
      obtain ⟨same, follows⟩ := List.cons.inj equal
      cases same
      exact ⟨rfl, follows⟩
  | generic name' _ =>
      have stopped := stops _ _ (List.cons.inj equal).2
      cases stopped

theorem Stops.path {rest : List TokenKind} (stops : Stops continuesNamed rest) :
    Stops (fun k => continuesSegment k || k == .dot) rest :=
  stops.mono fun k h => by cases k <;> first | rfl | cases h

theorem path_determines {ks : List TokenKind} {segments : List Segment}
    (derived : Separated .dot IsSegment ks segments)
    (determined : Separated .dot (Determines IsSegment continuesSegment) ks segments) :
    Determines IsNamed continuesNamed ks (.named false segments default) := by
  intro ks' type' rest rest' other stops stops' equal
  cases other with
  | plain path' =>
      obtain ⟨rfl, same⟩ :=
        Separated.determines rfl determined path' stops.path stops'.path equal
      exact ⟨rfl, same⟩
  | global _ => exact absurd equal (path_ne_global derived stops)

theorem global_determines {ks : List TokenKind} {segments : List Segment}
    (determined : Separated .dot (Determines IsSegment continuesSegment) ks segments) :
    Determines IsNamed continuesNamed (.ident "global" :: .doubleColon :: ks)
      (.named true segments default) := by
  intro ks' type' rest rest' other stops stops' equal
  cases other with
  | plain path' => exact absurd equal.symm (path_ne_global path' stops')
  | global path' =>
      simp only [List.cons_append, List.cons.injEq, true_and] at equal
      obtain ⟨rfl, same⟩ :=
        Separated.determines rfl determined path' stops.path stops'.path equal
      exact ⟨rfl, same⟩

/-! ## Types and elements -/

theorem tuple_determines {ks : List TokenKind} {elements : List Element}
    (determined : Separated .comma (Determines IsElement continuesElement) ks elements) :
    Determines IsPrimary continuesNamed (.openParen :: (ks ++ [.closeParen]))
      (.tuple elements default) := by
  intro ks' type' rest rest' other _ _ equal
  cases other with
  | tuple elements' =>
      simp only [List.cons_append, List.append_assoc, List.nil_append, List.cons.injEq,
        true_and] at equal
      obtain ⟨rfl, same⟩ := Separated.determines rfl determined elements'
        (stops_cons.mpr rfl) (stops_cons.mpr rfl) equal
      exact ⟨rfl, (List.cons.inj same).2⟩
  | named named' =>
      obtain ⟨name, ks', rfl⟩ := named'.starts
      cases equal

theorem name_determines {ks : List TokenKind} {type : TypeExpr} (derived : IsNamed ks type)
    (determined : Determines IsNamed continuesNamed ks type) :
    Determines IsPrimary continuesNamed ks type := by
  intro ks' type' rest rest' other stops stops' equal
  cases other with
  | tuple _ =>
      obtain ⟨name, ks, rfl⟩ := derived.starts
      cases equal
  | named named' => exact determined named' stops stops' equal

theorem type_determines {ks ks' : List TokenKind} {head type : TypeExpr}
    (determined : Determines IsPrimary continuesNamed ks head)
    (suffixes : AreSuffixes ks' head type) : Determines IsType continuesType (ks ++ ks') type := by
  intro other type' rest rest' derived stops stops' equal
  obtain ⟨primary', suffixes'⟩ := derived
  rw [List.append_assoc, List.append_assoc] at equal
  obtain ⟨rfl, same⟩ := determined primary' (suffixes.stops stops) (suffixes'.stops stops') equal
  exact suffixes.determined suffixes' stops stops' same

theorem element_determines {ks : List TokenKind} {type : TypeExpr}
    (determined : Determines IsType continuesType ks type) :
    Determines IsElement continuesElement ks (.mk type none) := by
  intro ks' element' rest rest' other stops stops' equal
  cases other with
  | plain type' =>
      obtain ⟨rfl, same⟩ := determined type' stops.type stops'.type equal
      exact ⟨rfl, same⟩
  | labelled label' type' =>
      rw [List.append_assoc, List.singleton_append] at equal
      obtain ⟨_, same⟩ := determined type' stops.type (stops_cons.mpr rfl) equal
      have stopped := stops _ _ same
      cases stopped

theorem labelled_determines {ks : List TokenKind} {type : TypeExpr} (label : String)
    (determined : Determines IsType continuesType ks type) :
    Determines IsElement continuesElement (ks ++ [.ident label])
      (.mk type (some (label, default))) := by
  intro ks' element' rest rest' other stops stops' equal
  rw [List.append_assoc, List.singleton_append] at equal
  cases other with
  | plain type' =>
      obtain ⟨_, same⟩ := determined type' (stops_cons.mpr rfl) stops'.type equal
      have stopped := stops' _ _ same.symm
      cases stopped
  | labelled label' type' =>
      rw [List.append_assoc, List.singleton_append] at equal
      obtain ⟨rfl, same⟩ := determined type' (stops_cons.mpr rfl) (stops_cons.mpr rfl) equal
      cases same
      exact ⟨rfl, rfl⟩

/-! ## Derivations -/

-- The induction is on the derivation; each production hands the lists it holds to the lists below.
mutual

theorem IsType.determines {ks : List TokenKind} {type : TypeExpr} :
    IsType ks type → Determines IsType continuesType ks type
  | .mk primary suffixes => type_determines primary.determines suffixes

theorem IsPrimary.determines {ks : List TokenKind} {type : TypeExpr} :
    IsPrimary ks type → Determines IsPrimary continuesNamed ks type
  | .tuple elements => tuple_determines (elementsDetermine elements)
  | .named named => name_determines named named.determines

theorem IsNamed.determines {ks : List TokenKind} {type : TypeExpr} :
    IsNamed ks type → Determines IsNamed continuesNamed ks type
  | .plain path => path_determines path (segmentsDetermine path)
  | .global path => global_determines (segmentsDetermine path)

theorem IsElement.determines {ks : List TokenKind} {element : Element} :
    IsElement ks element → Determines IsElement continuesElement ks element
  | .plain type => element_determines type.determines
  | .labelled label type => labelled_determines label type.determines

theorem IsSegment.determines {ks : List TokenKind} {segment : Segment} :
    IsSegment ks segment → Determines IsSegment continuesSegment ks segment
  | .plain name => plain_determines name
  | .generic name arguments => generic_determines name (argumentsDetermine arguments)

theorem elementsDetermine {ks : List TokenKind} {elements : List Element} :
    Separated .comma IsElement ks elements →
      Separated .comma (Determines IsElement continuesElement) ks elements
  | .one element => .one element.determines
  | .more element elements => .more element.determines (elementsDetermine elements)

theorem segmentsDetermine {ks : List TokenKind} {segments : List Segment} :
    Separated .dot IsSegment ks segments →
      Separated .dot (Determines IsSegment continuesSegment) ks segments
  | .one segment => .one segment.determines
  | .more segment segments => .more segment.determines (segmentsDetermine segments)

theorem argumentsDetermine {ks : List TokenKind} {arguments : List TypeExpr} :
    Separated .comma IsType ks arguments →
      Separated .comma (Determines IsType continuesType) ks arguments
  | .one argument => .one argument.determines
  | .more argument arguments => .more argument.determines (argumentsDetermine arguments)

end

theorem IsType.unique {ks : List TokenKind} {type type' : TypeExpr} (derived : IsType ks type)
    (derived' : IsType ks type') : type = type' := by
  have free := stops_nil continuesType
  exact (derived.determines derived' free free rfl).1

end Grammar

end ConversionSynthesis
