import ConversionSynthesis.Proofs.TypeExpr.Placement

/-! # Trees within trees, along the tokens

What an expression is made of stands along stretches of its own tokens, one behind the other.
-/

namespace ConversionSynthesis

/-! ## Items along tokens -/

/-- The items stand along stretches of the tokens, one behind the other. -/
inductive Holds {α : Type} (item : List Token → α → Prop) : List Token → List α → Prop
  | nil (tokens) : Holds item tokens []
  | cons {own x rest xs} (gap : List Token) : item own x → Holds item rest xs →
      Holds item (gap ++ (own ++ rest)) (x :: xs)

namespace Holds

variable {α β : Type} {item : List Token → α → Prop} {tokens : List Token}

theorem mono {item' : List Token → α → Prop} {xs : List α}
    (le : ∀ own x, item own x → item' own x) (holds : Holds item tokens xs) :
    Holds item' tokens xs := by
  induction holds with
  | nil => exact .nil _
  | cons gap first _ ih => exact .cons gap (le _ _ first) ih

theorem singleton {own : List Token} {x : α} (placed : item own x) : Holds item own [x] := by
  simpa using Holds.cons [] placed (.nil [])

theorem behind {xs : List α} (gap : List Token) (holds : Holds item tokens xs) :
    Holds item (gap ++ tokens) xs := by
  cases holds with
  | nil => exact .nil _
  | cons gap' first rest =>
      rw [← List.append_assoc]
      exact .cons _ first rest

theorem append {behind : List Token} {xs ys : List α} (holds : Holds item tokens xs)
    (others : Holds item behind ys) : Holds item (tokens ++ behind) (xs ++ ys) := by
  induction holds with
  | nil => exact others.behind _
  | cons gap first _ ih =>
      rw [List.append_assoc, List.append_assoc]
      exact .cons gap first ih

theorem before {xs : List α} (holds : Holds item tokens xs) (gap : List Token) :
    Holds item (tokens ++ gap) xs := by
  simpa using holds.append (.nil gap)

theorem exists_of_mem {xs : List α} {x : α} (holds : Holds item tokens xs) (mem : x ∈ xs) :
    ∃ before own behind, tokens = before ++ (own ++ behind) ∧ item own x := by
  induction holds with
  | nil => cases mem
  | @cons own y rest xs gap first _ ih =>
      rcases List.mem_cons.mp mem with rfl | later
      · exact ⟨gap, own, rest, rfl, first⟩
      · obtain ⟨before, own', behind, rfl, placed⟩ := ih later
        exact ⟨gap ++ (own ++ before), own', behind, by simp, placed⟩

theorem flatMap {placed : List Token → β → Prop} {xs : List β} {inside : β → List α}
    (holds : Holds placed tokens xs) (each : ∀ own x, placed own x → Holds item own (inside x)) :
    Holds item tokens (xs.flatMap inside) := by
  induction holds with
  | nil => exact .nil _
  | cons gap first _ ih => exact ((each _ _ first).append ih).behind gap

theorem of_listed {separator : TokenKind} {xs : List α}
    (listed : Listed separator item tokens xs) : Holds item tokens xs := by
  induction listed with
  | one first => exact .singleton first
  | more place first _ ih => exact (singleton first).append (ih.behind [_])

end Holds

/-! ## Children along the tokens -/

/-- The expressions that an expression is made of directly. -/
def TypeExpr.children : TypeExpr → List TypeExpr
  | named _ segments _ => segments.flatMap Segment.arguments
  | tuple elements _ => elements.map Element.type
  | nullable inner _ => [inner]
  | array element _ _ => [element]

section

variable {part : List Token → TypeExpr → Prop} {own : List Token}

theorem PlacedSegment.holds {segment : Segment} (placed : PlacedSegment part own segment) :
    Holds part own segment.arguments := by
  cases placed with
  | plain name place => exact .nil _
  | @generic own arguments name place opening close listed =>
      exact ((Holds.of_listed listed).before _).behind [_, _]

theorem PlacedElement.holds {element : Element} (placed : PlacedElement part own element) :
    Holds part own [element.type] := by
  cases placed with
  | plain type => exact .singleton type
  | labelled label place type => exact (Holds.singleton type).before _

theorem PlacedPrimary.holds_segments {isGlobal : Bool} {segments : List Segment} {span : Span}
    (placed : PlacedPrimary part own (.named isGlobal segments span)) :
    Holds (PlacedSegment part) own segments := by
  cases placed with
  | path first listed => exact .of_listed listed
  | global root colons listed => exact (Holds.of_listed listed).behind [_, _]

theorem PlacedPrimary.holds_elements {elements : List Element} {span : Span}
    (placed : PlacedPrimary part own (.tuple elements span)) :
    Holds (PlacedElement part) own elements := by
  cases placed with
  | tuple opening close listed _ => exact ((Holds.of_listed listed).before _).behind [_]

theorem PlacedPrimary.holds {type : TypeExpr} (placed : PlacedPrimary part own type) :
    Holds part own type.children := by
  cases type with
  | named isGlobal segments span =>
      exact placed.holds_segments.flatMap fun _ _ => PlacedSegment.holds
  | tuple elements span =>
      have inside := placed.holds_elements.flatMap fun _ _ => PlacedElement.holds
      rwa [← List.map_eq_flatMap] at inside
  | nullable | array => cases placed

end

theorem PlacedSuffixes.eq_or_last {own : List Token} {type whole : TypeExpr}
    (suffixes : PlacedSuffixes own type whole) :
    (own = [] ∧ whole = type) ∨ ∃ front mark inner, own = front ++ mark ∧
      PlacedSuffixes front type inner ∧ PlacedSuffix mark inner whole := by
  induction suffixes with
  | none => exact .inl ⟨rfl, rfl⟩
  | @more mark type inner own whole suffix _ ih =>
      rcases ih with ⟨rfl, rfl⟩ | ⟨front, last, inmost, rfl, others, lastSuffix⟩
      · exact .inr ⟨[], mark, type, by simp, .none _, suffix⟩
      · exact .inr ⟨mark ++ front, last, inmost, by simp, .more suffix others, lastSuffix⟩

theorem Placed.primary {levels : Nat} {own : List Token} {type : TypeExpr}
    (placed : Placed levels own type) (plain : type.suffixCount = 0) :
    ∃ below, PlacedPrimary (Placed below) own type := by
  cases levels with
  | zero => exact placed.elim
  | succ levels =>
      obtain ⟨front, back, head, rfl, primary, suffixes, -⟩ := placed
      rcases suffixes.eq_or_last with ⟨rfl, rfl⟩ | ⟨_, _, _, _, _, last⟩
      · rw [List.append_nil]
        exact ⟨levels, primary⟩
      · rw [last.suffixCount] at plain
        cases plain

theorem PlacedSuffix.children {mark : List Token} {type inner : TypeExpr}
    (suffix : PlacedSuffix mark type inner) : inner.children = [type] := by
  cases suffix <;> rfl

/-- The children of an expression stand along its tokens, and keep its bound. -/
theorem Placed.holds {levels : Nat} {own : List Token} {type : TypeExpr}
    (placed : Placed levels own type) : Holds (Placed levels) own type.children := by
  cases levels with
  | zero => exact placed.elim
  | succ levels =>
      obtain ⟨front, back, head, rfl, primary, suffixes, capped⟩ := placed
      rcases suffixes.eq_or_last with ⟨rfl, rfl⟩ | ⟨others, mark, inner, rfl, suffixes, last⟩
      · rw [List.append_nil]
        exact primary.holds.mono (fun _ _ inside => inside.mono (Nat.le_succ levels))
      · have counted := last.suffixCount
        have placed : Placed (levels + 1) (front ++ others) inner :=
          ⟨front, others, head, rfl, primary, suffixes, by omega⟩
        rw [last.children, ← List.append_assoc]
        exact (Holds.singleton placed).before mark

/-! ## Parts along the tokens -/

section

variable {part : List Token → TypeExpr → Prop} {own : List Token} {type whole : TypeExpr}

theorem PlacedPrimary.head (placed : PlacedPrimary part own type) : type.head = type := by
  cases placed <;> rfl

theorem PlacedPrimary.parts (placed : PlacedPrimary part own type) :
    type.parts = type.children := by
  cases placed <;> rfl

theorem PlacedSuffixes.head (suffixes : PlacedSuffixes own type whole) :
    whole.head = type.head := by
  induction suffixes with
  | none => rfl
  | more suffix _ ih => rw [ih]; cases suffix <;> rfl

end

/-- The parts of an expression stand along its tokens, and have one level less. -/
theorem Placed.holds_parts {levels : Nat} {own : List Token} {type : TypeExpr}
    (placed : Placed (levels + 1) own type) : Holds (Placed levels) own type.parts := by
  obtain ⟨front, back, head, rfl, primary, suffixes, -⟩ := placed
  have parts : type.parts = head.parts := by rw [TypeExpr.parts, suffixes.head, ← TypeExpr.parts]
  rw [parts, primary.parts]
  exact primary.holds.before back

end ConversionSynthesis
