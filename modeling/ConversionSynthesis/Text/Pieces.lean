/-! # Pieces between separators -/

namespace ConversionSynthesis.Text

/-- The pieces of characters between separators, when `pending` are the characters of the first
piece so far, the last one first. -/
def piecesFrom (separator : Char) (pending : List Char) : List Char → List String
  | [] => [String.ofList pending.reverse]
  | c :: rest =>
      if c = separator then String.ofList pending.reverse :: piecesFrom separator [] rest
      else piecesFrom separator (c :: pending) rest

/-- The pieces of a text between separators; there is one piece more than separators. -/
def pieces (separator : Char) (text : String) : List String :=
  piecesFrom separator [] text.toList

def behind? : (lead text : List Char) → Option (List Char)
  | [], text => some text
  | _ :: _, [] => none
  | c :: lead, d :: text => if c = d then behind? lead text else none

theorem length_piecesFrom (separator : Char) (pending text : List Char) :
    (piecesFrom separator pending text).length = text.count separator + 1 := by
  induction text generalizing pending with
  | nil => rfl
  | cons c rest ih =>
      by_cases h : c = separator
      · simp [piecesFrom, h, ih]
      · simp [piecesFrom, h, ih]

theorem intercalate_piecesFrom (separator : Char) (pending text : List Char) :
    [separator].intercalate ((piecesFrom separator pending text).map String.toList) =
      pending.reverse ++ text := by
  induction text generalizing pending with
  | nil => simp [piecesFrom]
  | cons c rest ih =>
      by_cases h : c = separator
      · have some : piecesFrom separator [] rest ≠ [] := by
          rw [← List.length_pos_iff, length_piecesFrom]
          omega
        rw [piecesFrom, if_pos h, List.map_cons,
          List.intercalate_cons_of_ne_nil (by simpa using some), ih, String.toList_ofList, h]
        simp
      · rw [piecesFrom, if_neg h, ih]
        simp

theorem piecesFrom_append_cons (separator : Char) (pending front back : List Char) :
    piecesFrom separator pending (front ++ separator :: back) =
      piecesFrom separator pending front ++ piecesFrom separator [] back := by
  induction front generalizing pending with
  | nil => simp [piecesFrom]
  | cons c front ih =>
      by_cases h : c = separator
      · simp [piecesFrom, h, ih]
      · simp [piecesFrom, h, ih]

theorem piecesFrom_of_not_mem {separator : Char} {text : List Char} (absent : separator ∉ text)
    (pending : List Char) :
    piecesFrom separator pending text = [String.ofList (pending.reverse ++ text)] := by
  induction text generalizing pending with
  | nil => simp [piecesFrom]
  | cons c rest ih =>
      rw [List.mem_cons, not_or] at absent
      rw [piecesFrom, if_neg (Ne.symm absent.1), ih absent.2]
      simp

theorem intercalate_pieces (text : String) : ".".intercalate (pieces '.' text) = text := by
  rw [← String.toList_inj, String.toList_intercalate]
  exact intercalate_piecesFrom '.' [] text.toList

theorem behind?_eq_some_iff {lead text rest : List Char} :
    behind? lead text = some rest ↔ text = lead ++ rest := by
  induction lead generalizing text with
  | nil => simp [behind?, eq_comm]
  | cons c lead ih =>
      cases text with
      | nil => simp [behind?]
      | cons d text =>
          by_cases h : c = d
          · simp [behind?, h, ih]
          · simp [behind?, h, Ne.symm h]

end ConversionSynthesis.Text
