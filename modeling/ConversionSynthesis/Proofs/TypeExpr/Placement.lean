import ConversionSynthesis.Proofs.TypeExpr.Reading

/-! # Trees with the places of their tokens

The productions of the grammar once more, this time between tokens in their places and trees with
theirs. The productions of one level are relations over what stands for a type one level further in,
so that the levels left bound the nesting. What the parser reads is placed along its tokens, and
what is placed along tokens is read from them, whatever may follow that does not continue it.
-/

namespace ConversionSynthesis

open Grammar

/-! ## Productions -/

/-- One item or more, with a separator between them, along the tokens. -/
inductive Listed {α : Type} (separator : TokenKind) (item : List Token → α → Prop) :
    List Token → List α → Prop
  | one {own x} : item own x → Listed separator item own [x]
  | more {own x others xs} (place : Span) : item own x → Listed separator item others xs →
      Listed separator item (own ++ ⟨separator, place⟩ :: others) (x :: xs)

section Level

variable (part : List Token → TypeExpr → Prop)

inductive PlacedSegment : List Token → Segment → Prop
  | plain (name : String) (place : Span) :
      PlacedSegment [⟨.ident name, place⟩] (.mk name [] place)
  | generic {own arguments} (name : String) (place opening close : Span) :
      Listed .comma part own arguments →
      PlacedSegment (⟨.ident name, place⟩ :: ⟨.openAngle, opening⟩ ::
        (own ++ [⟨.closeAngle, close⟩])) (.mk name arguments ⟨place.start, close.stop⟩)

inductive PlacedElement : List Token → Element → Prop
  | plain {own type} : part own type → PlacedElement own (.mk type none)
  | labelled {own type} (label : String) (place : Span) : part own type →
      PlacedElement (own ++ [⟨.ident label, place⟩]) (.mk type (some (label, place)))

/-- A type without suffixes of its own. -/
inductive PlacedPrimary : List Token → TypeExpr → Prop
  | path {own segments} (first : Token) : Listed .dot (PlacedSegment part) (first :: own) segments →
      PlacedPrimary (first :: own)
        (.named false segments ⟨first.span.start, TypeExpr.pathEnd first.span.start segments⟩)
  | global {own segments} (root colons : Span) : Listed .dot (PlacedSegment part) own segments →
      PlacedPrimary (⟨.ident "global", root⟩ :: ⟨.doubleColon, colons⟩ :: own)
        (.named true segments ⟨root.start, TypeExpr.pathEnd root.stop segments⟩)
  | tuple {own elements} (opening close : Span) : Listed .comma (PlacedElement part) own elements →
      2 ≤ elements.length →
      PlacedPrimary (⟨.openParen, opening⟩ :: (own ++ [⟨.closeParen, close⟩]))
        (.tuple elements ⟨opening.start, close.stop⟩)

end Level

/-- A suffix along its tokens makes one type of another. -/
inductive PlacedSuffix : List Token → TypeExpr → TypeExpr → Prop
  | question (type) (mark : Span) :
      PlacedSuffix [⟨.question, mark⟩] type (.nullable type (type.span.merge mark))
  | brackets (type) (opening close : Span) (commas : List Span) :
      PlacedSuffix (⟨.openBracket, opening⟩ ::
          (commas.map (⟨.comma, ·⟩) ++ [⟨.closeBracket, close⟩])) type
        (.array type commas.length (type.span.merge close))

inductive PlacedSuffixes : List Token → TypeExpr → TypeExpr → Prop
  | none (type) : PlacedSuffixes [] type type
  | more {mark type inner own whole} : PlacedSuffix mark type inner →
      PlacedSuffixes own inner whole → PlacedSuffixes (mark ++ own) type whole

/-- The type is spelled along the tokens, and nested in so many levels at most. -/
def Placed : Nat → List Token → TypeExpr → Prop
  | 0, _, _ => False
  | levels + 1, own, type =>
      ∃ front back head, own = front ++ back ∧ PlacedPrimary (Placed levels) front head ∧
        PlacedSuffixes back head type ∧ type.suffixCount ≤ levels

section

variable {α : Type} {part : List Token → TypeExpr → Prop} {own : List Token}

theorem Listed.ne_nil {separator : TokenKind} {placed : List Token → α → Prop}
    {xs : List α} (some : ∀ own x, placed own x → own ≠ [])
    (listed : Listed separator placed own xs) : own ≠ [] := by
  cases listed with
  | one first => exact some _ _ first
  | more => simp

theorem Listed.items_ne_nil {separator : TokenKind} {placed : List Token → α → Prop}
    {xs : List α} (listed : Listed separator placed own xs) : xs ≠ [] := by
  cases listed <;> exact List.cons_ne_nil _ _

theorem Listed.concat {separator : TokenKind} {placed : List Token → α → Prop} {xs : List α}
    {last : List Token} {x : α} (listed : Listed separator placed own xs) (place : Span)
    (ends : placed last x) :
    Listed separator placed (own ++ ⟨separator, place⟩ :: last) (xs ++ [x]) := by
  induction listed with
  | one first => exact .more place first (.one ends)
  | more place' first _ ih =>
      rw [List.append_assoc, List.cons_append]
      exact .more place' first ih

theorem PlacedSegment.ne_nil {segment : Segment}
    (placed : PlacedSegment part own segment) : own ≠ [] := by
  cases placed <;> exact List.cons_ne_nil _ _

theorem PlacedSuffix.suffixCount {mark : List Token} {type inner : TypeExpr}
    (suffix : PlacedSuffix mark type inner) : inner.suffixCount = type.suffixCount + 1 := by
  cases suffix <;> rfl

theorem PlacedSuffix.alone {mark : List Token} {type inner : TypeExpr}
    (suffix : PlacedSuffix mark type inner) : PlacedSuffixes mark type inner := by
  have whole := PlacedSuffixes.more suffix (.none inner)
  rwa [List.append_nil] at whole

theorem PlacedPrimary.paired {elements : List Element} {span : Span}
    (placed : PlacedPrimary part own (.tuple elements span)) : 2 ≤ elements.length := by
  cases placed with
  | tuple opening close listed wide => exact wide

theorem PlacedPrimary.suffixCount {type : TypeExpr}
    (placed : PlacedPrimary part own type) : type.suffixCount = 0 := by
  cases placed <;> rfl

end

/-! ## What is read is placed -/

/-- The parser takes tokens along which its value is placed. -/
def Takes {α : Type} (parser : TokenParser α) (placed : List Token → α → Prop) : Prop :=
  ∀ ⦃input value rest⦄, Reads parser input value rest →
    ∃ own, input = own ++ rest ∧ placed own value

namespace TypeExpr

variable {α : Type} {size : Nat} {inner : TokenParser TypeExpr}
  {part : List Token → TypeExpr → Prop}

theorem separated_takes {separator : TokenKind} {item : TokenParser α}
    {placed : List Token → α → Prop} (takes : Takes item placed) :
    Takes (separated separator item) (Listed separator placed) := by
  intro input values rest read
  induction values generalizing input with
  | nil =>
      rcases reads_separated.mp read with ⟨_, impossible, _⟩ | ⟨_, _, _, _, impossible, _⟩ <;>
        cases impossible
  | cons value others ih =>
      rcases reads_separated.mp read with ⟨first, same, readFirst, -⟩ |
        ⟨first, ⟨kind, place⟩, more, others', same, readFirst, rfl, readOthers⟩
      · cases same
        obtain ⟨own, rfl, spelled⟩ := takes readFirst
        exact ⟨own, rfl, .one spelled⟩
      · cases same
        obtain ⟨own, rfl, spelled⟩ := takes readFirst
        obtain ⟨behind, rfl, spelledOthers⟩ := ih readOthers
        exact ⟨_, by rw [List.append_assoc, List.cons_append], .more place spelled spelledOthers⟩

theorem segment_takes (takes : Takes inner part) :
    Takes (segment size inner) (PlacedSegment part) := by
  intro input value rest read
  rcases reads_segment.mp read with ⟨name, place, rfl, rfl, -⟩ |
    ⟨name, place, opening, more, arguments, close, rfl, rfl, readArguments⟩
  · exact ⟨[⟨.ident name, place⟩], rfl, .plain name place⟩
  · obtain ⟨own, rfl, listed⟩ := separated_takes takes readArguments
    exact ⟨_, by simp, .generic name place opening close listed⟩

theorem name_takes (takes : Takes inner part) : Takes (name size inner) (PlacedPrimary part) := by
  intro input value rest read
  rcases reads_name.mp read with ⟨segments, root, colons, more, rfl, rfl, readPath⟩ |
    ⟨segments, -, rfl, readPath⟩
  · obtain ⟨own, rfl, listed⟩ := separated_takes (segment_takes takes) readPath
    exact ⟨_, rfl, .global root colons listed⟩
  · obtain ⟨own, rfl, listed⟩ := separated_takes (segment_takes takes) readPath
    have some := listed.ne_nil fun _ _ => PlacedSegment.ne_nil
    obtain ⟨first, others, rfl⟩ := List.exists_cons_of_ne_nil some
    exact ⟨_, rfl, .path first listed⟩

theorem element_takes (takes : Takes inner part) : Takes (element inner) (PlacedElement part) := by
  intro input value rest read
  rcases reads_element.mp read with ⟨type, rfl, readType, -⟩ | ⟨type, label, place, rfl, readType⟩
  · obtain ⟨own, rfl, placed⟩ := takes readType
    exact ⟨own, rfl, .plain placed⟩
  · obtain ⟨own, rfl, placed⟩ := takes readType
    exact ⟨_, by simp, .labelled label place placed⟩

theorem primary_takes (takes : Takes inner part) :
    Takes (primary size inner) (PlacedPrimary part) := by
  intro input value rest read
  rcases reads_primary.mp read with ⟨opening, more, rfl, readTuple⟩ | ⟨-, readName⟩
  · obtain ⟨-, elements, close, rfl, wide, readElements⟩ := reads_tupleFrom.mp readTuple
    obtain ⟨own, rfl, listed⟩ := separated_takes (element_takes takes) readElements
    exact ⟨_, by simp, .tuple opening close listed wide⟩
  · exact name_takes takes readName

theorem takeCommas_spec {input rest : List Token} {count : Nat}
    (taken : takeCommas input = (count, rest)) :
    ∃ commas : List Span, input = commas.map (⟨.comma, ·⟩) ++ rest ∧ commas.length = count ∧
      ∀ place more, rest ≠ ⟨.comma, place⟩ :: more := by
  fun_induction takeCommas input generalizing count with
  | case1 place more count' after taken' ih =>
      cases taken
      obtain ⟨commas, same, rfl, free⟩ := ih taken'
      exact ⟨place :: commas, by rw [same]; rfl, rfl, free⟩
  | case2 input free =>
      cases taken
      exact ⟨[], rfl, rfl, free⟩

theorem takeCommas_commas (commas : List Span) {rest : List Token}
    (free : ∀ place more, rest ≠ ⟨.comma, place⟩ :: more) :
    takeCommas (commas.map (⟨.comma, ·⟩) ++ rest) = (commas.length, rest) := by
  induction commas with
  | nil =>
      rw [List.map_nil, List.nil_append, takeCommas]
      · rfl
      · exact free
  | cons place commas ih => rw [List.map_cons, List.cons_append, takeCommas, ih, List.length_cons]

/-- One suffix is taken after the other, as long as there is one. -/
theorem readsSuffixes_iff {room : Nat} {type whole : TypeExpr} {input rest : List Token} :
    ReadsSuffixes size room type input whole rest ↔
      (whole = type ∧ rest = input ∧ Stops startsSuffix (input.map Token.kind)) ∨
      ∃ less mark inner more, room = less + 1 ∧ input = mark ++ more ∧
        PlacedSuffix mark type inner ∧ ReadsSuffixes size less inner more whole rest := by
  constructor
  · intro read
    by_cases starts : ∃ token more, input = token :: more ∧ startsSuffix token.kind = true
    · obtain ⟨⟨kind, span⟩, more, rfl, starts⟩ := starts
      cases kind with
      | question =>
          obtain ⟨less, same, readInner⟩ := readsSuffixes_question.mp read
          exact .inr ⟨less, _, _, more, same, rfl, .question type span, readInner⟩
      | openBracket =>
          obtain ⟨less, count, close, after, same, taken, readInner⟩ :=
            readsSuffixes_openBracket.mp read
          obtain ⟨commas, rfl, rfl, -⟩ := takeCommas_spec taken
          exact .inr ⟨less, _, _, after, same, by simp, .brackets type span close commas,
            readInner⟩
      | _ => cases starts
    · have stops : Stops startsSuffix (input.map Token.kind) := by
        intro k ks equal
        obtain ⟨span, more, rfl, -⟩ := kinds_eq_cons equal
        have := not_exists.mp (not_exists.mp starts ⟨k, span⟩) more
        simpa using this
      obtain ⟨same, left⟩ := (readsSuffixes_none stops).mp read
      exact .inl ⟨same, left, stops⟩
  · rintro (⟨rfl, rfl, stops⟩ | ⟨less, mark, inner, more, rfl, rfl, suffix, readInner⟩)
    · exact (readsSuffixes_none stops).mpr ⟨rfl, rfl⟩
    · cases suffix with
      | question type span => exact readsSuffixes_question.mpr ⟨less, rfl, readInner⟩
      | brackets type opening close commas =>
          rw [List.cons_append, List.append_assoc]
          exact readsSuffixes_openBracket.mpr
            ⟨less, _, close, more, rfl, takeCommas_commas commas nofun, readInner⟩

theorem suffixes_takes {room : Nat} {type whole : TypeExpr} {input rest : List Token}
    (read : ReadsSuffixes size room type input whole rest) :
    ∃ own, input = own ++ rest ∧ PlacedSuffixes own type whole ∧
      whole.suffixCount ≤ type.suffixCount + room := by
  induction room generalizing type input with
  | zero =>
      rcases readsSuffixes_iff.mp read with ⟨rfl, rfl, -⟩ | ⟨_, _, _, _, impossible, _⟩
      · exact ⟨[], rfl, .none _, Nat.le_refl _⟩
      · cases impossible
  | succ room ih =>
      rcases readsSuffixes_iff.mp read with ⟨rfl, rfl, -⟩ |
        ⟨less, mark, inner, more, same, rfl, suffix, readInner⟩
      · exact ⟨[], rfl, .none _, Nat.le_add_right _ _⟩
      · cases same
        obtain ⟨own, rfl, suffixes, capped⟩ := ih readInner
        have := suffix.suffixCount
        exact ⟨mark ++ own, by rw [List.append_assoc], .more suffix suffixes, by omega⟩

theorem typeAt_takes (levels : Nat) : Takes (typeAt size levels) (Placed levels) := by
  -- The parser of the level below is what reads the parts.
  induction levels with
  | zero =>
      intro input value rest read
      exact absurd read not_reads_typeAt_zero
  | succ levels takes =>
      intro input value rest read
      obtain ⟨head, more, readHead, readSuffixes⟩ := reads_typeAt.mp read
      obtain ⟨front, rfl, primary⟩ := primary_takes takes readHead
      obtain ⟨back, rfl, suffixes, capped⟩ := suffixes_takes readSuffixes
      rw [primary.suffixCount, Nat.zero_add] at capped
      exact ⟨front ++ back, by rw [List.append_assoc],
        front, back, head, rfl, primary, suffixes, capped⟩

end TypeExpr

/-! ## What is placed is read -/

/-- The parser reads the value off the tokens, and leaves any that do not continue it. -/
def Gives {α : Type} (parser : TokenParser α) (continues : TokenKind → Bool) (own : List Token)
    (x : α) : Prop :=
  ∀ ⦃rest⦄, Stops continues (rest.map Token.kind) → Reads parser (own ++ rest) x rest

section

variable {part : List Token → TypeExpr → Prop} {own : List Token}

/-- A type starts with a name or a parenthesis that opens. -/
def opensType : TokenKind → Bool
  | .ident _ => true
  | .openParen => true
  | _ => false

/-- A path starts with a name, and `::` never follows this name inside the path. -/
theorem PlacedSegment.starts {segment : Segment} (placed : PlacedSegment part own segment) :
    ∃ name place more, own = ⟨.ident name, place⟩ :: more ∧
      Stops (· == .doubleColon) (more.map Token.kind) := by
  cases placed with
  | plain name place => exact ⟨name, place, [], rfl, stops_nil _⟩
  | generic name place opening close _ => exact ⟨name, place, _, rfl, stops_cons.mpr rfl⟩

theorem Listed.path_starts {segments : List Segment}
    (listed : Listed .dot (PlacedSegment part) own segments) :
    ∃ name place more, own = ⟨.ident name, place⟩ :: more ∧
      Stops (· == .doubleColon) (more.map Token.kind) := by
  cases listed with
  | one segment => exact segment.starts
  | more dot segment _ =>
      obtain ⟨name, place, more, rfl, stops⟩ := segment.starts
      refine ⟨name, place, more ++ _, rfl, ?_⟩
      rw [List.map_append]
      exact stops.append (stops_cons.mpr rfl)

theorem PlacedPrimary.starts {type : TypeExpr} (placed : PlacedPrimary part own type) :
    ∃ token more, own = token :: more ∧ opensType token.kind = true := by
  cases placed with
  | path first listed =>
      obtain ⟨name, place, more, same, -⟩ := listed.path_starts
      exact ⟨_, more, same, rfl⟩
  | global root colons _ => exact ⟨_, _, rfl, rfl⟩
  | tuple opening close _ _ => exact ⟨_, _, rfl, rfl⟩

theorem Placed.starts {levels : Nat} {type : TypeExpr} (placed : Placed levels own type) :
    ∃ token more, own = token :: more ∧ opensType token.kind = true := by
  cases levels with
  | zero => exact placed.elim
  | succ levels =>
      obtain ⟨front, back, head, rfl, primary, -⟩ := placed
      obtain ⟨token, more, rfl, opens⟩ := primary.starts
      exact ⟨token, _, rfl, opens⟩

theorem PlacedElement.starts {element : Element}
    (opens : ∀ own type, part own type → ∃ token more, own = token :: more ∧
      opensType token.kind = true) (placed : PlacedElement part own element) :
    ∃ token more, own = token :: more ∧ opensType token.kind = true := by
  cases placed with
  | plain type => exact opens _ _ type
  | labelled label place type =>
      obtain ⟨token, more, rfl, opened⟩ := opens _ _ type
      exact ⟨token, _, rfl, opened⟩

theorem Listed.mono {α : Type} {separator : TokenKind} {placed placed' : List Token → α → Prop}
    {xs : List α}
    (le : ∀ own x, placed own x → placed' own x) (listed : Listed separator placed own xs) :
    Listed separator placed' own xs := by
  induction listed with
  | one first => exact .one (le _ _ first)
  | more place first _ ih => exact .more place (le _ _ first) ih

theorem Listed.starts {α : Type} {separator : TokenKind} {placed : List Token → α → Prop}
    {xs : List α} (opens : ∀ own x, placed own x → ∃ token more, own = token :: more ∧
      opensType token.kind = true) (listed : Listed separator placed own xs) :
    ∃ token more, own = token :: more ∧ opensType token.kind = true := by
  cases listed with
  | one first => exact opens _ _ first
  | more place first _ =>
      obtain ⟨token, more, rfl, opened⟩ := opens _ _ first
      exact ⟨token, _, rfl, opened⟩

/-- Suffixes and what stands behind a type do not continue the name before them. -/
theorem PlacedSuffixes.stops {type whole : TypeExpr} {rest : List Token}
    (suffixes : PlacedSuffixes own type whole)
    (stops : Stops continuesType (rest.map Token.kind)) :
    Stops continuesNamed ((own ++ rest).map Token.kind) := by
  cases suffixes with
  | none => exact stops.named
  | more suffix _ => cases suffix <;> exact stops_cons.mpr rfl

theorem PlacedSuffixes.suffixCount_le {type whole : TypeExpr}
    (suffixes : PlacedSuffixes own type whole) : type.suffixCount ≤ whole.suffixCount := by
  induction suffixes with
  | none => exact Nat.le_refl _
  | more suffix _ ih =>
      have := suffix.suffixCount
      omega

end

namespace TypeExpr

variable {α : Type} {size : Nat} {inner : TokenParser TypeExpr}
  {part : List Token → TypeExpr → Prop} {own : List Token}

theorem listed_gives {separator : TokenKind} {item : TokenParser α} {continues : TokenKind → Bool}
    {xs : List α} (ends : continues separator = false)
    (listed : Listed separator (Gives item continues) own xs) :
    Gives (separated separator item) (fun k => continues k || k == separator) own xs := by
  induction listed with
  | one first =>
      intro rest stops
      have stopsItem : Stops continues (rest.map Token.kind) :=
        stops.mono fun k h => by simp [h]
      have stopsList : Stops (· == separator) (rest.map Token.kind) :=
        stops.mono fun k h => by rw [h, Bool.or_true]
      exact reads_separated.mpr (.inl ⟨_, rfl, first stopsItem, stopsList⟩)
  | @more own x others xs place first _ ih =>
      intro rest stops
      have read : Reads item (own ++ ⟨separator, place⟩ :: (others ++ rest)) x
          (⟨separator, place⟩ :: (others ++ rest)) := first (stops_cons.mpr ends)
      rw [List.append_assoc, List.cons_append]
      exact reads_separated.mpr (.inr ⟨_, _, _, _, rfl, read, rfl, ih stops⟩)

section

variable (gives : ∀ own type, part own type → Gives inner continuesType own type)

include gives

theorem segment_gives {segment : Segment} (placed : PlacedSegment part own segment) :
    Gives (TypeExpr.segment size inner) continuesSegment own segment := by
  intro rest stops
  cases placed with
  | plain name place => exact reads_segment.mpr (.inl ⟨name, place, rfl, rfl, stops⟩)
  | @generic own arguments name place opening close listed =>
      have read : Reads (separated .comma inner) (own ++ ⟨.closeAngle, close⟩ :: rest) arguments
          (⟨.closeAngle, close⟩ :: rest) :=
        listed_gives rfl (listed.mono gives) (stops_cons.mpr rfl)
      refine reads_segment.mpr (.inr ⟨name, place, opening, _, _, close, ?_, rfl, read⟩)
      simp

theorem path_gives {segments : List Segment}
    (listed : Listed .dot (PlacedSegment part) own segments) :
    Gives (path size inner) continuesNamed own segments := by
  intro rest stops
  have each : Listed .dot (Gives (TypeExpr.segment size inner) continuesSegment) own segments :=
    listed.mono fun _ _ => segment_gives gives
  exact listed_gives rfl each stops.path

theorem element_gives {element : Element} (placed : PlacedElement part own element) :
    Gives (TypeExpr.element inner) continuesElement own element := by
  intro rest stops
  cases placed with
  | plain type =>
      refine reads_element.mpr (.inl ⟨_, rfl, gives _ _ type stops.type, ?_⟩)
      rintro label place more rfl
      have free := stops_cons.mp stops
      cases free
  | labelled label place type =>
      rw [List.append_assoc, List.singleton_append]
      exact reads_element.mpr (.inr ⟨_, label, place, rfl, gives _ _ type (stops_cons.mpr rfl)⟩)

theorem primary_gives {type : TypeExpr}
    (opens : ∀ own type, part own type → ∃ token more, own = token :: more ∧
      opensType token.kind = true) (placed : PlacedPrimary part own type) :
    Gives (primary size inner) continuesNamed own type := by
  intro rest stops
  cases placed with
  | @path own segments first listed =>
      obtain ⟨name, place, more, same, inside⟩ := listed.path_starts
      cases same
      refine reads_primary.mpr (.inr ⟨nofun, reads_name.mpr (.inr ⟨segments, ?_, rfl, ?_⟩)⟩)
      · rintro root colons behind equal
        have follows : own.map Token.kind ++ rest.map Token.kind =
            .doubleColon :: behind.map Token.kind := by
          rw [← List.map_append]
          exact congrArg (List.map Token.kind) (List.cons.inj equal).2
        have free : Stops (· == .doubleColon) (rest.map Token.kind) :=
          stops.mono fun k h => by rw [beq_iff_eq.mp h]; rfl
        have stopped := inside.append free _ _ follows
        cases stopped
      · exact path_gives gives listed stops
  | global root colons listed =>
      refine reads_primary.mpr (.inr ⟨nofun, reads_name.mpr (.inl ?_)⟩)
      exact ⟨_, root, colons, _, rfl, rfl, path_gives gives listed stops⟩
  | @tuple own elements opening close listed wide =>
      have read : Reads (separated .comma (element inner)) (own ++ ⟨.closeParen, close⟩ :: rest)
          elements (⟨.closeParen, close⟩ :: rest) :=
        listed_gives rfl (listed.mono fun _ _ => element_gives gives) (stops_cons.mpr rfl)
      obtain ⟨token, more, rfl, opened⟩ := listed.starts fun _ _ => PlacedElement.starts opens
      have started : ∀ place after,
          token :: more ++ ⟨.closeParen, close⟩ :: rest ≠ ⟨.closeParen, place⟩ :: after := by
        rintro place after equal
        rw [(List.cons.inj equal).1] at opened
        cases opened
      have readTuple : Reads (tupleFrom size inner opening)
          (token :: more ++ ⟨.closeParen, close⟩ :: rest)
          (.tuple elements ⟨opening.start, close.stop⟩) rest :=
        reads_tupleFrom.mpr ⟨started, elements, close, rfl, wide, read⟩
      refine reads_primary.mpr (.inl ⟨opening, _, ?_, readTuple⟩)
      simp

end

theorem suffixes_gives {room : Nat} {type whole : TypeExpr}
    (suffixes : PlacedSuffixes own type whole)
    (capped : whole.suffixCount ≤ type.suffixCount + room) {rest : List Token}
    (stops : Stops continuesType (rest.map Token.kind)) :
    ReadsSuffixes size room type (own ++ rest) whole rest := by
  -- Each suffix takes one from the room, so the room is never used up before the last one.
  induction suffixes generalizing room with
  | none =>
      have free : Stops startsSuffix (rest.map Token.kind) :=
        stops.mono fun k h => by cases k <;> first | rfl | cases h
      exact readsSuffixes_iff.mpr (.inl ⟨rfl, rfl, free⟩)
  | more suffix others ih =>
      have counted := suffix.suffixCount
      have below := others.suffixCount_le
      obtain ⟨less, rfl⟩ : ∃ less, room = less + 1 := ⟨room - 1, by omega⟩
      rw [List.append_assoc]
      exact readsSuffixes_iff.mpr (.inr ⟨less, _, _, _, rfl, rfl, suffix, ih (by omega)⟩)

theorem typeAt_gives {levels : Nat} {type : TypeExpr} (placed : Placed levels own type)
    {cap : Nat} (le : levels ≤ cap) : Gives (typeAt size cap) continuesType own type := by
  induction levels generalizing cap own type with
  | zero => exact placed.elim
  | succ levels ih =>
      obtain ⟨less, rfl⟩ : ∃ less, cap = less + 1 := ⟨cap - 1, by omega⟩
      obtain ⟨front, back, head, rfl, primary, suffixes, capped⟩ := placed
      intro rest stops
      have readHead : Reads (TypeExpr.primary size (typeAt size less)) (front ++ (back ++ rest))
          head (back ++ rest) :=
        primary_gives (fun _ _ part => ih part (by omega)) (fun _ _ => Placed.starts) primary
          (suffixes.stops stops)
      have counted := primary.suffixCount
      rw [List.append_assoc]
      exact reads_typeAt.mpr ⟨head, _, readHead, suffixes_gives suffixes (by omega) stops⟩

end TypeExpr

/-! ## One tree along the tokens -/

section

open TypeExpr

variable {levels cap : Nat} {own : List Token} {type type' : TypeExpr}

theorem Placed.reads (placed : Placed levels own type) (le : levels ≤ cap) (size : Nat) :
    Reads (typeAt size cap) own type [] := by
  have read : Reads (typeAt size cap) (own ++ []) type [] := typeAt_gives placed le (stops_nil _)
  rwa [List.append_nil] at read

/-- More levels do not hurt. -/
theorem Placed.mono (placed : Placed levels own type) (le : levels ≤ cap) :
    Placed cap own type := by
  obtain ⟨own', same, placed'⟩ := typeAt_takes cap (placed.reads le 0)
  rwa [same, List.append_nil]

theorem Placed.unique (placed : Placed levels own type) (placed' : Placed levels own type') :
    type = type' :=
  ((placed.reads (Nat.le_refl _) 0).unique (placed'.reads (Nat.le_refl _) 0)).1

/-- A text is read as the tree that is placed along its tokens. -/
theorem parse_eq_ok_iff_placed {text : String} :
    parse text = .ok type ↔
      ∃ tokens, Token.lex text = .ok tokens ∧ Placed maxDepth tokens type := by
  rw [parse_eq_ok]
  refine exists_congr fun tokens => and_congr_right fun _ => ⟨fun read => ?_, fun placed => ?_⟩
  · obtain ⟨own, rfl, placed⟩ := typeAt_takes maxDepth read
    rwa [List.append_nil]
  · exact placed.reads (Nat.le_refl _) _

end

end ConversionSynthesis
