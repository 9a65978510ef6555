import ConversionSynthesis.Proofs.TypeExpr.Lexemes
import ConversionSynthesis.Proofs.TypeExpr.Placement

/-! # Texts further back

Where a text stands further back by some bytes, all its tokens do, and so does the tree that is
placed along them.
-/

namespace ConversionSynthesis

/-! ## Shifting places -/

/-- The place that lies so many bytes further back. -/
def Span.shifted (distance : Nat) (span : Span) : Span :=
  ⟨span.start + distance, span.stop + distance⟩

def Token.shifted (distance : Nat) (token : Token) : Token :=
  ⟨token.kind, token.span.shifted distance⟩

mutual

/-- The same expression, so many bytes further back. -/
def TypeExpr.shifted (distance : Nat) : TypeExpr → TypeExpr
  | .named isGlobal segments span =>
      .named isGlobal (shiftedSegments distance segments) (span.shifted distance)
  | .tuple elements span => .tuple (shiftedElements distance elements) (span.shifted distance)
  | .nullable inner span => .nullable (inner.shifted distance) (span.shifted distance)
  | .array element commas span =>
      .array (element.shifted distance) commas (span.shifted distance)

def Segment.shifted (distance : Nat) : Segment → Segment
  | .mk name arguments span =>
      .mk name (shiftedArguments distance arguments) (span.shifted distance)

def Element.shifted (distance : Nat) : Element → Element
  | .mk type label =>
      .mk (type.shifted distance) (label.map fun written => (written.1, written.2.shifted distance))

def shiftedSegments (distance : Nat) : List Segment → List Segment
  | [] => []
  | segment :: rest => segment.shifted distance :: shiftedSegments distance rest

def shiftedElements (distance : Nat) : List Element → List Element
  | [] => []
  | element :: rest => element.shifted distance :: shiftedElements distance rest

def shiftedArguments (distance : Nat) : List TypeExpr → List TypeExpr
  | [] => []
  | argument :: rest => argument.shifted distance :: shiftedArguments distance rest

end

variable (distance : Nat)

theorem shiftedSegments_eq_map (segments : List Segment) :
    shiftedSegments distance segments = segments.map (Segment.shifted distance) := by
  induction segments with
  | nil => rfl
  | cons segment rest ih => rw [shiftedSegments, ih, List.map_cons]

theorem shiftedElements_eq_map (elements : List Element) :
    shiftedElements distance elements = elements.map (Element.shifted distance) := by
  induction elements with
  | nil => rfl
  | cons element rest ih => rw [shiftedElements, ih, List.map_cons]

theorem shiftedArguments_eq_map (arguments : List TypeExpr) :
    shiftedArguments distance arguments = arguments.map (TypeExpr.shifted distance) := by
  induction arguments with
  | nil => rfl
  | cons argument rest ih => rw [shiftedArguments, ih, List.map_cons]

theorem Span.shifted_merge (a b : Span) :
    (a.merge b).shifted distance = (a.shifted distance).merge (b.shifted distance) := by
  simp [Span.shifted, Span.merge, Nat.add_min_add_right, Nat.add_max_add_right]

theorem TypeExpr.span_shifted (type : TypeExpr) :
    (type.shifted distance).span = type.span.shifted distance := by
  cases type <;> rfl

theorem Segment.span_shifted (segment : Segment) :
    (segment.shifted distance).span = segment.span.shifted distance := by
  cases segment
  rfl

theorem TypeExpr.suffixCount_shifted (type : TypeExpr) :
    (type.shifted distance).suffixCount = type.suffixCount := by
  cases type with
  | named | tuple => rfl
  | nullable inner span => exact congrArg (· + 1) inner.suffixCount_shifted
  | array element commas span => exact congrArg (· + 1) element.suffixCount_shifted

theorem TypeExpr.pathEnd_shifted (start : Nat) (segments : List Segment) :
    pathEnd (start + distance) (segments.map (Segment.shifted distance)) =
      pathEnd start segments + distance := by
  rw [pathEnd, pathEnd, List.getLast?_map, Option.map_map]
  cases segments.getLast? with
  | none => rfl
  | some last =>
      rw [Option.map_some, Option.map_some, Option.getD_some, Option.getD_some,
        Function.comp_apply, last.span_shifted distance]
      rfl

/-! ## Shifted tokens -/

variable {distance}

/-- What a text that stands further back is cut into are its tokens, shifted. -/
theorem Scans.unshifted {offset place : Nat} {text : List Char} {tokens : List Token}
    (scans : Scans place text tokens) (further : place = offset + distance) :
    ∃ own, Scans offset text own ∧ own.map (Token.shifted distance) = tokens := by
  induction scans generalizing offset with
  | nil => exact ⟨[], .nil, rfl⟩
  | @blank place c text tokens isBlank _ ih =>
      obtain ⟨own, scans, rfl⟩ := ih (by rw [further, Nat.add_right_comm])
      exact ⟨own, .blank isBlank scans, rfl⟩
  | @lexeme place chars kind text tokens isLexeme ends _ ih =>
      obtain ⟨own, scans, rfl⟩ := ih (by rw [further, Nat.add_right_comm])
      refine ⟨_, .lexeme isLexeme ends scans, ?_⟩
      rw [List.map_cons, Token.shifted, Span.shifted, further, Nat.add_right_comm]

/-! ## Shifted trees -/

variable {part : List Token → TypeExpr → Prop} {own : List Token}

theorem Listed.shifted {α : Type} {separator : TokenKind} {item item' : List Token → α → Prop}
    (move : α → α) {xs : List α}
    (each : ∀ own x, item own x → item' (own.map (Token.shifted distance)) (move x))
    (listed : Listed separator item own xs) :
    Listed separator item' (own.map (Token.shifted distance)) (xs.map move) := by
  induction listed with
  | one first => exact .one (each _ _ first)
  | more place first _ ih =>
      rw [List.map_append]
      exact .more (place.shifted distance) (each _ _ first) ih

section

variable (each : ∀ own type, part own type →
  part (own.map (Token.shifted distance)) (type.shifted distance))

include each

theorem PlacedSegment.shifted {segment : Segment} (placed : PlacedSegment part own segment) :
    PlacedSegment part (own.map (Token.shifted distance)) (segment.shifted distance) := by
  cases placed with
  | plain name place => exact .plain name (place.shifted distance)
  | generic name place opening close listed =>
      rw [List.map_cons, List.map_cons, List.map_append, Segment.shifted, shiftedArguments_eq_map]
      exact .generic name (place.shifted distance) (opening.shifted distance)
        (close.shifted distance) (listed.shifted _ each)

theorem PlacedElement.shifted {element : Element} (placed : PlacedElement part own element) :
    PlacedElement part (own.map (Token.shifted distance)) (element.shifted distance) := by
  cases placed with
  | plain type => exact .plain (each _ _ type)
  | labelled label place type =>
      rw [List.map_append]
      exact .labelled label (place.shifted distance) (each _ _ type)

theorem PlacedPrimary.shifted {type : TypeExpr} (placed : PlacedPrimary part own type) :
    PlacedPrimary part (own.map (Token.shifted distance)) (type.shifted distance) := by
  cases placed with
  | path first listed =>
      have moved := listed.shifted (Segment.shifted distance) fun _ _ => PlacedSegment.shifted each
      have placed := PlacedPrimary.path (first.shifted distance) moved
      rwa [TypeExpr.shifted, shiftedSegments_eq_map, Span.shifted, ← TypeExpr.pathEnd_shifted]
  | global root colons listed =>
      have moved := listed.shifted (Segment.shifted distance) fun _ _ => PlacedSegment.shifted each
      have placed := PlacedPrimary.global (root.shifted distance) (colons.shifted distance) moved
      rwa [TypeExpr.shifted, shiftedSegments_eq_map, Span.shifted, ← TypeExpr.pathEnd_shifted]
  | tuple opening close listed wide =>
      have moved := listed.shifted (Element.shifted distance) fun _ _ => PlacedElement.shifted each
      rw [List.map_cons, List.map_append, TypeExpr.shifted, shiftedElements_eq_map]
      exact .tuple (opening.shifted distance) (close.shifted distance) moved (by simpa using wide)

end

theorem PlacedSuffix.shifted {type inner : TypeExpr} (suffix : PlacedSuffix own type inner) :
    PlacedSuffix (own.map (Token.shifted distance)) (type.shifted distance)
      (inner.shifted distance) := by
  cases suffix with
  | question type mark =>
      rw [TypeExpr.shifted, Span.shifted_merge, ← TypeExpr.span_shifted]
      exact .question _ (mark.shifted distance)
  | brackets type opening close commas =>
      have moved := PlacedSuffix.brackets (type.shifted distance) (opening.shifted distance)
        (close.shifted distance) (commas.map (Span.shifted distance))
      rw [TypeExpr.shifted, Span.shifted_merge, ← TypeExpr.span_shifted]
      simpa [Token.shifted, Function.comp_def] using moved

theorem PlacedSuffixes.shifted {type whole : TypeExpr} (suffixes : PlacedSuffixes own type whole) :
    PlacedSuffixes (own.map (Token.shifted distance)) (type.shifted distance)
      (whole.shifted distance) := by
  induction suffixes with
  | none => exact .none _
  | more suffix _ ih =>
      rw [List.map_append]
      exact .more suffix.shifted ih

/-- A tree placed along tokens is placed along them further back, then shifted itself. -/
theorem Placed.shifted {levels : Nat} {type : TypeExpr} (placed : Placed levels own type) :
    Placed levels (own.map (Token.shifted distance)) (type.shifted distance) := by
  induction levels generalizing own type with
  | zero => exact placed.elim
  | succ levels ih =>
      obtain ⟨front, back, head, rfl, primary, suffixes, capped⟩ := placed
      rw [List.map_append]
      refine ⟨_, _, head.shifted distance, rfl, primary.shifted fun _ _ => ih, suffixes.shifted, ?_⟩
      rwa [TypeExpr.suffixCount_shifted]

end ConversionSynthesis
