import Mathlib.Data.List.Basic
import Mathlib.Data.List.TakeWhile
import ConversionSynthesis.Declaration.TypeDecl
import ConversionSynthesis.Text.Pieces

/-! # Texts put together from pieces

Pieces are joined by a separator, and a name takes its parameters between brackets. Where a
separator occurs in no piece and an opening bracket in no name, the pieces can be told from the
text.
-/

namespace ConversionSynthesis

variable {c : Char} {separator : String}

theorem not_mem_intercalate {pieces : List String} (apart : c ∉ separator.toList)
    (absent : ∀ piece ∈ pieces, c ∉ piece.toList) :
    c ∉ (separator.intercalate pieces).toList := by
  induction pieces with
  | nil => simp
  | cons first rest ih =>
      rw [List.forall_mem_cons] at absent
      cases rest with
      | nil => simpa using absent.1
      | cons second rest =>
          rw [String.intercalate_cons_cons, String.toList_append, String.toList_append,
            List.mem_append, List.mem_append, not_or, not_or]
          exact ⟨⟨absent.1, apart⟩, ih absent.2⟩

theorem mem_intercalate_of_mem {pieces : List String} {piece : String} (mem : piece ∈ pieces)
    (inPiece : c ∈ piece.toList) : c ∈ (separator.intercalate pieces).toList := by
  induction pieces with
  | nil => cases mem
  | cons first rest ih =>
      cases rest with
      | nil =>
          rw [List.mem_singleton.mp mem] at inPiece
          simpa using inPiece
      | cons second rest =>
          rw [String.intercalate_cons_cons, String.toList_append, List.mem_append]
          rcases List.mem_cons.mp mem with rfl | later
          · exact .inl (by simp [inPiece])
          · exact .inr (ih later)

/-- Pieces are told from the text that joins them, as far as the separator occurs in none. -/
theorem intercalate_injective (single : separator.toList = [c]) {xs ys : List String}
    (absentLeft : ∀ x ∈ xs, c ∉ x.toList) (absentRight : ∀ y ∈ ys, c ∉ y.toList)
    (someLeft : xs ≠ []) (someRight : ys ≠ [])
    (same : separator.intercalate xs = separator.intercalate ys) : xs = ys := by
  have split {zs : List String} (absent : ∀ z ∈ zs, c ∉ z.toList) (some : zs ≠ []) :
      (separator.intercalate zs).toList.splitOn c = zs.map String.toList := by
    rw [String.toList_intercalate, single]
    refine List.splitOn_intercalate c ?_ (by simpa using some)
    simpa using absent
  have lists := congrArg (fun text => text.toList.splitOn c) same
  simp only [split absentLeft someLeft, split absentRight someRight] at lists
  exact List.map_injective_iff.mpr (fun _ _ => String.toList_inj.mp) lists

/-- Pieces that hold no separator are those that cutting the joined text gives. -/
theorem pieces_intercalate (single : separator.toList = [c]) {pieces : List String}
    (some : pieces ≠ []) (absent : ∀ piece ∈ pieces, c ∉ piece.toList) :
    Text.pieces c (separator.intercalate pieces) = pieces := by
  induction pieces with
  | nil => exact absurd rfl some
  | cons first rest ih =>
      rw [List.forall_mem_cons] at absent
      have alone : Text.piecesFrom c [] first.toList = [first] := by
        simp [Text.piecesFrom_of_not_mem absent.1]
      cases rest with
      | nil => simpa [Text.pieces] using alone
      | cons second rest =>
          have joined : (separator.intercalate (first :: second :: rest)).toList =
              first.toList ++ c :: (separator.intercalate (second :: rest)).toList := by
            simp [String.intercalate_cons_cons, single]
          rw [Text.pieces, joined, Text.piecesFrom_append_cons, alone]
          exact congrArg (first :: ·) (ih (List.cons_ne_nil _ _) absent.2)

/-- The last piece is told from the text, whatever the pieces before it hold. -/
theorem last_eq_of_intercalate_eq (single : separator.toList = [c]) {xs ys : List String}
    {x y : String} (absentLeft : c ∉ x.toList) (absentRight : c ∉ y.toList)
    (same : separator.intercalate (xs ++ [x]) = separator.intercalate (ys ++ [y])) : x = y := by
  have back (zs : List String) {z : String} (absent : c ∉ z.toList) :
      (separator.intercalate (zs ++ [z])).toList.reverse.takeWhile (· != c) =
        z.toList.reverse := by
    have within : ∀ d ∈ z.toList.reverse, (d != c) = true := by
      intro d mem
      rw [bne_iff_ne]
      rintro rfl
      exact absent (List.mem_reverse.mp mem)
    by_cases none : zs = []
    · subst none
      have whole : (z.toList.reverse ++ []).takeWhile (· != c) = _ :=
        List.takeWhile_append_of_pos within
      simpa using whole
    · rw [String.intercalate_append_of_ne_nil none (by simp)]
      have cut : (z.toList.reverse ++ c :: (separator.intercalate zs).toList.reverse).takeWhile
          (· != c) = _ := List.takeWhile_append_of_pos within
      simpa [single] using cut
  have reversed := back ys absentRight
  rw [← same, back xs absentLeft] at reversed
  exact String.toList_inj.mp (List.reverse_injective reversed)

/-! ## Names with parameters -/

section Brackets

variable {opening closing : String}

theorem bracketed_of_some (name : String) {parameters : List String} (some : parameters ≠ []) :
    bracketed opening separator closing name parameters =
      name ++ opening ++ separator.intercalate parameters ++ closing := by
  rw [bracketed, if_neg (by simpa using some)]

/-- A character of neither the brackets nor the separator is one of a name. -/
theorem not_mem_bracketed {name : String} {parameters : List String} (inName : c ∉ name.toList)
    (inParameters : ∀ parameter ∈ parameters, c ∉ parameter.toList)
    (inOpening : c ∉ opening.toList) (inSeparator : c ∉ separator.toList)
    (inClosing : c ∉ closing.toList) :
    c ∉ (bracketed opening separator closing name parameters).toList := by
  by_cases none : parameters = []
  · rw [none]
    exact inName
  · rw [bracketed_of_some name none, String.toList_append, String.toList_append,
      String.toList_append, List.mem_append, List.mem_append, List.mem_append, not_or, not_or,
      not_or]
    exact ⟨⟨⟨inName, inOpening⟩, not_mem_intercalate inSeparator inParameters⟩, inClosing⟩

theorem mem_bracketed_of_mem_name {name : String} (inName : c ∈ name.toList)
    (parameters : List String) :
    c ∈ (bracketed opening separator closing name parameters).toList := by
  by_cases none : parameters = []
  · rw [none]
    exact inName
  · simp [bracketed_of_some name none, inName]

theorem takeWhile_bracketed (single : opening.toList = [c]) {name : String}
    (absent : c ∉ name.toList) (parameters : List String) :
    (bracketed opening separator closing name parameters).toList.takeWhile (· != c) =
      name.toList := by
  have within : ∀ d ∈ name.toList, (d != c) = true := by
    intro d mem
    rw [bne_iff_ne]
    rintro rfl
    exact absent mem
  by_cases none : parameters = []
  · rw [none]
    exact List.takeWhile_eq_self_iff.mpr within
  · have cut : (name.toList ++ c :: ((separator.intercalate parameters).toList ++
        closing.toList)).takeWhile (· != c) = _ := List.takeWhile_append_of_pos within
    rw [bracketed_of_some name none]
    simpa [single] using cut

/-- A name and its parameters are told from the text of both. -/
theorem bracketed_injective {o : Char} (singleOpening : opening.toList = [o])
    (singleSeparator : separator.toList = [c]) {name name' : String}
    {parameters parameters' : List String} (inName : o ∉ name.toList) (inName' : o ∉ name'.toList)
    (inParameters : ∀ parameter ∈ parameters, c ∉ parameter.toList)
    (inParameters' : ∀ parameter ∈ parameters', c ∉ parameter.toList)
    (same : bracketed opening separator closing name parameters =
      bracketed opening separator closing name' parameters') :
    name = name' ∧ parameters = parameters' := by
  have names : name = name' := by
    rw [← String.toList_inj, ← takeWhile_bracketed singleOpening inName parameters,
      ← takeWhile_bracketed singleOpening inName' parameters', same]
  subst names
  refine ⟨rfl, ?_⟩
  have longer {parameters : List String} (some : parameters ≠ []) :
      bracketed opening separator closing name parameters ≠ name := by
    rw [bracketed_of_some name some]
    intro short
    have lengths := congrArg (·.toList.length) short
    simp [singleOpening] at lengths
  by_cases none : parameters = []
  · by_cases none' : parameters' = []
    · rw [none, none']
    · rw [none] at same
      exact absurd same.symm (longer none')
  · by_cases none' : parameters' = []
    · rw [none'] at same
      exact absurd same (longer none)
    · rw [bracketed_of_some name none, bracketed_of_some name none', String.append_left_inj,
        String.append_right_inj] at same
      exact intercalate_injective singleSeparator inParameters inParameters' none none' same

end Brackets

end ConversionSynthesis
