import ConversionSynthesis.FileTree

/-! # Files of a directory

The identifier of a unit holds no separator and is no name that stays or leads upwards. So the path
of a unit leads to the directory and one name further, however the directory is spelled, and the
paths of two units in one directory are told apart by their identifiers.
-/

namespace ConversionSynthesis

/-- What makes an identifier the name of a file in any directory. -/
structure IsFileName (name : String) : Prop where
  some : name ≠ ""
  noDot : name ≠ "."
  noDots : name ≠ ".."
  separated : '/' ∉ name.toList
  terminated : '\x00' ∉ name.toList

theorem isFileName_of_isUnitIdentifier {name : String} (named : isUnitIdentifier name = true) :
    IsFileName name := by
  simp only [isUnitIdentifier, Bool.and_eq_true, Bool.not_eq_true', Bool.or_eq_false_iff,
    beq_eq_false_iff_ne, List.any_eq_false] at named
  obtain ⟨⟨⟨some, noDot⟩, noDots⟩, inside⟩ := named
  have absent (c : Char) (leaves : leavesDirectory c = true) : c ∉ name.toList :=
    fun mem => inside c mem leaves
  exact ⟨some, noDot, noDots, absent '/' (by decide), absent '\x00' (by decide)⟩

namespace IsFileName

variable {name : String}

theorem leadsOn (plain : IsFileName name) : leadsOn name = true := by
  simp [ConversionSynthesis.leadsOn, plain.some, plain.noDot]

theorem isAbsolute (plain : IsFileName name) : isAbsolute name = false := by
  rw [ConversionSynthesis.isAbsolute, beq_eq_false_iff_ne]
  intro starts
  exact plain.separated (List.mem_of_head? starts)

theorem pieces (plain : IsFileName name) : Text.pieces '/' name = [name] := by
  rw [Text.pieces, Text.piecesFrom_of_not_mem plain.separated]
  simp

end IsFileName

/-! ## The path of a name in a directory -/

/-- The pieces of a path in a directory before its last name. -/
def outerPieces (directory : String) : List String :=
  if directory.isEmpty then []
  else if directory.toList.getLast? = some '/' then (Text.pieces '/' directory).dropLast
  else Text.pieces '/' directory

section

variable {directory name other : String}

theorem pieces_of_endsInSeparator {front : List Char} (back : directory.toList = front ++ ['/']) :
    Text.pieces '/' directory = Text.piecesFrom '/' [] front ++ [""] := by
  rw [Text.pieces, back, Text.piecesFrom_append_cons]
  rfl

/-- A directory is spelled by the pieces before its files, with or without a last separator. -/
theorem pieces_directory (directory : String) :
    Text.pieces '/' directory = outerPieces directory ∨
      Text.pieces '/' directory = outerPieces directory ++ [""] := by
  unfold outerPieces
  split
  · rename_i empty
    rw [String.isEmpty_iff.mp empty]
    exact .inr rfl
  · split
    · rename_i ends
      obtain ⟨front, back⟩ := List.getLast?_eq_some_iff.mp ends
      rw [pieces_of_endsInSeparator back, List.dropLast_concat]
      exact .inr rfl
    · exact .inl rfl

theorem pieces_pathIn (plain : IsFileName name) (directory : String) :
    Text.pieces '/' (pathIn directory name) = outerPieces directory ++ [name] := by
  unfold pathIn outerPieces
  rw [plain.isAbsolute, Bool.false_or]
  split
  · exact plain.pieces
  · split
    · rename_i ends
      obtain ⟨front, back⟩ := List.getLast?_eq_some_iff.mp ends
      rw [pieces_of_endsInSeparator back, List.dropLast_concat, Text.pieces, String.toList_append,
        back, List.append_assoc, List.singleton_append, Text.piecesFrom_append_cons]
      exact congrArg _ plain.pieces
    · rw [Text.pieces, String.toList_append, String.toList_append, List.append_assoc]
      have separator : "/".toList ++ name.toList = '/' :: name.toList := rfl
      rw [separator, Text.piecesFrom_append_cons]
      exact congrArg _ plain.pieces

theorem properNames_pathIn (plain : IsFileName name) (directory : String) :
    FileTree.properNames (pathIn directory name) = FileTree.properNames directory ++ [name] := by
  have outer : (outerPieces directory).filter leadsOn = FileTree.properNames directory := by
    rcases pieces_directory directory with spelled | spelled
    · rw [FileTree.properNames, spelled]
    · rw [FileTree.properNames, spelled, List.filter_append]
      exact (List.append_nil _).symm
  rw [FileTree.properNames, pieces_pathIn plain, List.filter_append, outer,
    List.filter_cons_of_pos plain.leadsOn, List.filter_nil]

theorem isAbsolute_pathIn (plain : IsFileName name) (directory : String) :
    isAbsolute (pathIn directory name) = isAbsolute directory := by
  unfold pathIn
  rw [plain.isAbsolute, Bool.false_or]
  by_cases empty : directory.isEmpty = true
  · rw [if_pos empty, plain.isAbsolute, String.isEmpty_iff.mp empty]
    rfl
  · obtain ⟨first, rest, chars⟩ : ∃ first rest, directory.toList = first :: rest :=
      List.exists_cons_of_ne_nil (by simpa using empty)
    rw [if_neg empty]
    split <;> simp [isAbsolute, chars]

theorem head?_pieces_pathIn (plain : IsFileName name) (directory : String) :
    ((Text.pieces '/' (pathIn directory name)).head? == some ".") =
      ((Text.pieces '/' directory).head? == some ".") := by
  have some : Text.pieces '/' directory ≠ [] := by
    rw [← List.length_pos_iff, Text.pieces, Text.length_piecesFrom]
    exact Nat.succ_pos _
  rw [pieces_pathIn plain]
  cases outer : outerPieces directory with
  | nil =>
      rcases pieces_directory directory with spelled | spelled
      · exact absurd (spelled.trans outer) some
      · rw [spelled, outer]
        simp [plain.noDot]
  | cons first rest =>
      rcases pieces_directory directory with spelled | spelled <;> rw [spelled, outer] <;> rfl

theorem pathComponents_pathIn (plain : IsFileName name) (directory : String) :
    pathComponents (pathIn directory name) = pathComponents directory ++ [name] := by
  have names : (Text.pieces '/' (pathIn directory name)).filter leadsOn =
      (Text.pieces '/' directory).filter leadsOn ++ [name] := properNames_pathIn plain directory
  simp only [pathComponents, isAbsolute_pathIn plain, head?_pieces_pathIn plain, names,
    List.append_assoc]

/-- Files of one directory have one path only if they have one name. -/
theorem samePath_pathIn (plain : IsFileName name) (plain' : IsFileName other)
    (directory : String) :
    samePath (pathIn directory name) (pathIn directory other) = (name == other) := by
  rw [samePath, pathComponents_pathIn plain, pathComponents_pathIn plain', Bool.eq_iff_iff]
  simp

/-- A path that never leads upwards has no name that does. -/
theorem not_mem_pieces_of_inside (inside : leadsUpwards directory = false) :
    ".." ∉ Text.pieces '/' directory := by
  intro mem
  have listed : ".." ∈ (Text.pieces '/' directory).filter leadsOn :=
    List.mem_filter.mpr ⟨mem, by decide⟩
  rw [leadsUpwards, pathComponents, List.contains_eq_mem] at inside
  exact absurd (List.mem_append_right _ listed) (by simpa using inside)

theorem not_mem_outerPieces (inside : leadsUpwards directory = false) :
    ".." ∉ outerPieces directory := by
  have absent := not_mem_pieces_of_inside inside
  rcases pieces_directory directory with spelled | spelled
  · rwa [spelled] at absent
  · rw [spelled] at absent
    exact fun mem => absent (List.mem_append_left _ mem)

end

end ConversionSynthesis
