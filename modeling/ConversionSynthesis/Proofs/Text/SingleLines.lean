import ConversionSynthesis.Fragment.Layout
import ConversionSynthesis.Proofs.Text.Joining

/-! # Texts made of lines

A line is a text without a newline. What is put together from lines is a line, and lines that are
each ended by a newline can be told from the whole text.
-/

namespace ConversionSynthesis.Text

/-! ## Texts without newlines -/

/-- The characters stand in one line. -/
def IsLine (text : String) : Prop :=
  '\n' ∉ text.toList

instance (text : String) : Decidable (IsLine text) :=
  inferInstanceAs (Decidable ('\n' ∉ text.toList))

theorem IsLine.append {front back : String} (first : IsLine front) (second : IsLine back) :
    IsLine (front ++ back) := by
  rw [IsLine, String.toList_append, List.mem_append, not_or]
  exact ⟨first, second⟩

theorem isLine_intercalate {separator : String} {pieces : List String}
    (single : IsLine separator) (lines : ∀ piece ∈ pieces, IsLine piece) :
    IsLine (separator.intercalate pieces) :=
  not_mem_intercalate single lines

theorem isLine_bracketed {opening separator closing name : String} {parameters : List String}
    (brackets : IsLine opening ∧ IsLine separator ∧ IsLine closing) (single : IsLine name)
    (lines : ∀ parameter ∈ parameters, IsLine parameter) :
    IsLine (bracketed opening separator closing name parameters) :=
  not_mem_bracketed single lines brackets.1 brackets.2.1 brackets.2.2

theorem isLine_toString (n : Nat) : IsLine (toString n) := by
  rw [IsLine, Nat.toString_eq_ofList_toDigits, String.toList_ofList]
  intro mem
  have digit := Nat.isDigit_of_mem_toDigits (by decide) (by decide) mem
  exact absurd digit (by decide)

/-! ## Lines put together -/

/-- The lines of a text, each of them ended by a newline. -/
def lines (text : String) : List String :=
  (pieces '\n' text).dropLast

/-- Lines put together, each with the newline that ends it. -/
def ofLines : List String → String
  | [] => ""
  | line :: rest => line ++ "\n" ++ ofLines rest

/-- A line moved to the right by so many columns; an empty one stays empty. -/
def indented (columns : Nat) (line : String) : String :=
  if line.isEmpty then line else Layout.spaces columns ++ line

theorem ofLines_append (front back : List String) :
    ofLines (front ++ back) = ofLines front ++ ofLines back := by
  induction front with
  | nil => simp [ofLines]
  | cons line front ih => simp [ofLines, ih, String.append_assoc]

theorem pieces_of_isLine {line : String} (single : IsLine line) : pieces '\n' line = [line] := by
  rw [pieces, piecesFrom_of_not_mem single]
  simp

/-- The lines of texts that are put together are those of each text, one after the other. -/
theorem lines_ofLines (texts : List String) :
    lines (ofLines texts) = texts.flatMap (pieces '\n') := by
  have cut : pieces '\n' (ofLines texts) = texts.flatMap (pieces '\n') ++ [""] := by
    induction texts with
    | nil => rfl
    | cons text rest ih =>
        have chars : (ofLines (text :: rest)).toList =
            text.toList ++ '\n' :: (ofLines rest).toList := by
          simp [ofLines]
        rw [pieces, chars, piecesFrom_append_cons, ← pieces, ← pieces, ih, List.flatMap_cons,
          List.append_assoc]
  rw [lines, cut, List.dropLast_concat]

theorem flatMap_pieces {texts : List String} (single : ∀ text ∈ texts, IsLine text) :
    texts.flatMap (pieces '\n') = texts := by
  induction texts with
  | nil => rfl
  | cons text rest ih =>
      rw [List.forall_mem_cons] at single
      rw [List.flatMap_cons, pieces_of_isLine single.1, ih single.2]
      rfl

theorem indented_zero (line : String) : indented 0 line = line := by
  unfold indented
  split
  · rfl
  · exact String.empty_append

theorem indented_indented (outer inner : Nat) (line : String) :
    indented outer (indented inner line) = indented (outer + inner) line := by
  unfold indented
  by_cases empty : line.isEmpty
  · simp only [empty, if_true]
  · have moved : ¬ (Layout.spaces inner ++ line).isEmpty := by
      simp_all
    have columns : Layout.spaces (outer + inner) = Layout.spaces outer ++ Layout.spaces inner := by
      rw [Layout.spaces, List.replicate_add, String.ofList_append]
      rfl
    rw [if_neg empty, if_neg moved, if_neg empty, columns, String.append_assoc]

theorem isLine_indented {line : String} (single : IsLine line) (columns : Nat) :
    IsLine (indented columns line) := by
  unfold indented
  split
  · exact single
  · simp_all [IsLine, Layout.spaces]

end ConversionSynthesis.Text
