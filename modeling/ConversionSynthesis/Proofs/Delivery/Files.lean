import ConversionSynthesis.Proofs.Delivery.Paths

/-! # Files and directories of a tree

Writing a file changes what is at one place, and making a directory adds directories on the way to
it. Where a path leads depends on nothing but which places are directories, so that it stays the
same while files are written.
-/

namespace ConversionSynthesis

namespace FileTree

variable {tree tree' : FileTree} {place here : FilePlace} {names : List String}

/-! ## One place -/

theorem lookup_filter_ne (nodes : List (FilePlace × FileNode)) (place q : FilePlace) :
    (nodes.filter (·.1 != place)).lookup q = if q = place then none else nodes.lookup q := by
  induction nodes with
  | nil => simp
  | cons entry rest ih =>
      obtain ⟨other, node⟩ := entry
      by_cases same : other = place
      · subst same
        rw [List.filter_cons_of_neg (by simp), ih]
        by_cases here : q = other
        · rw [if_pos here, if_pos here]
        · rw [if_neg here, if_neg here, List.lookup_cons, beq_false_of_ne here]
      · rw [List.filter_cons_of_pos (by simpa using same), List.lookup_cons, List.lookup_cons, ih]
        by_cases here : q = other
        · simp only [here, beq_self_eq_true, if_neg same]
        · rw [beq_false_of_ne here]

/-- A node shows at its own place, which is not the root, and nowhere else. -/
theorem node?_insert (tree : FileTree) (below : place ≠ []) (node : FileNode) (q : FilePlace) :
    (tree.insert place node).node? q = if q = place then some node else tree.node? q := by
  by_cases root : q = []
  · simp [node?, root, below.symm]
  · simp only [node?, insert, List.isEmpty_iff, root, if_false, List.lookup_append,
      lookup_filter_ne]
    by_cases here : q = place
    · simp [here]
    · rw [if_neg here, if_neg here, List.lookup_cons, beq_false_of_ne here, List.lookup_nil,
        Option.or_none]

theorem ne_root_of_not_directory (noDirectory : tree.hasDirectory place = false) : place ≠ [] := by
  rintro rfl
  cases noDirectory

/-- A file that is written where no directory is leaves all directories as they are. -/
theorem hasDirectory_insert_file (noDirectory : tree.hasDirectory place = false)
    (contents : Contents) (q : FilePlace) :
    (tree.insert place (.file contents)).hasDirectory q = tree.hasDirectory q := by
  rw [hasDirectory, node?_insert tree (ne_root_of_not_directory noDirectory)]
  by_cases here : q = place
  · rw [if_pos here, here, noDirectory]
    rfl
  · rw [if_neg here]
    rfl

/-! ## Where paths lead -/

/-- A walk sees only which places are directories, and which of them is the current one. -/
theorem walk_congr (same : ∀ q, tree'.hasDirectory q = tree.hasDirectory q)
    (current : tree'.current? = tree.current?) :
    tree'.walk here names = tree.walk here names := by
  induction names generalizing here with
  | nil => rfl
  | cons name rest ih => simp only [walk, same, current, ih]

theorem locate_congr (same : ∀ q, tree'.hasDirectory q = tree.hasDirectory q)
    (current : tree'.current? = tree.current?) (path : String) :
    tree'.locate path = tree.locate path := by
  rw [locate, locate, walk_congr same current, isWalkable, isWalkable, start, start, current]

/-- A walk that never goes up comes to the names that lead on. -/
theorem walk_eq_some (level : ".." ∉ names) (walked : tree.walk here names = some place) :
    place = here ++ names.filter leadsOn := by
  induction names generalizing here with
  | nil =>
      cases walked
      exact (List.append_nil _).symm
  | cons name rest ih =>
      rw [List.mem_cons, not_or] at level
      rw [walk] at walked
      split at walked
      · cases walked
      split at walked
      · rename_i stays
        have skipped : leadsOn name = false := by
          rw [Bool.or_eq_true, beq_iff_eq, beq_iff_eq] at stays
          rcases stays with rfl | rfl <;> rfl
        rw [List.filter_cons_of_neg (by simp [skipped])]
        exact ih level.2 walked
      · rename_i leaves
        have kept : leadsOn name = true := by
          simpa [leadsOn] using leaves
        rw [if_neg (by simpa using Ne.symm level.1)] at walked
        rw [List.filter_cons_of_pos kept, ih level.2 walked]
        simp

theorem placeOf_pathIn (tree : FileTree) {name : String} (plain : IsFileName name)
    (directory : String) :
    tree.placeOf (pathIn directory name) = tree.placeOf directory ++ [name] := by
  rw [placeOf, placeOf, start, start, isAbsolute_pathIn plain, properNames_pathIn plain,
    List.append_assoc]

/-- The path of a file in a directory leads one name behind the directory. -/
theorem locate_pathIn {directory name : String} (inside : leadsUpwards directory = false)
    (plain : IsFileName name) (located : tree.locate (pathIn directory name) = some place) :
    place = tree.placeOf directory ++ [name] := by
  unfold locate at located
  split at located
  · have level : ".." ∉ Text.pieces '/' (pathIn directory name) := by
      rw [pieces_pathIn plain, List.mem_append, List.mem_singleton, not_or]
      exact ⟨not_mem_outerPieces inside, Ne.symm plain.noDots⟩
    rw [walk_eq_some level located, ← placeOf_pathIn tree plain]
    rfl
  · cases located

/-- An absolute path starts at the root, wherever the current directory is. -/
example :
    let tree : FileTree := { nodes := [(["a"], .directory)], current? := some ["a"] }
    tree.locate (pathIn "/a/." "b") = some ["a", "b"] ∧
      tree.locate (pathIn "." "b") = some ["a", "b"] := by
  decide +kernel

/-! ## Writing files -/

theorem write_eq_some {path text : String} :
    tree.write path text = some tree' ↔
      ∃ place, tree.locate path = some place ∧ tree.hasDirectory place = false ∧
        tree' = tree.insert place (.file (.ofText text)) := by
  rw [write]
  cases located : tree.locate path with
  | none => simp
  | some place =>
      by_cases taken : tree.hasDirectory place = true
      · simp [taken]
      · rw [Bool.not_eq_true] at taken
        simp only [taken, Bool.false_eq_true, if_false, Option.some.injEq]
        exact ⟨fun written => ⟨place, rfl, taken, written.symm⟩,
          fun ⟨_, at_place, _, written⟩ => at_place ▸ written.symm⟩

/-- Whether a file can be written at a path, whatever it is to hold. -/
def Writable (tree : FileTree) (path : String) : Prop :=
  ∀ text, (tree.write path text).isSome = true

theorem writable_iff {path : String} :
    tree.Writable path ↔
      ∃ place, tree.locate path = some place ∧ tree.hasDirectory place = false := by
  constructor
  · intro writable
    obtain ⟨_, written⟩ := Option.isSome_iff_exists.mp (writable "")
    obtain ⟨place, located, free, -⟩ := write_eq_some.mp written
    exact ⟨place, located, free⟩
  · rintro ⟨place, located, free⟩ text
    exact Option.isSome_iff_exists.mpr ⟨_, write_eq_some.mpr ⟨place, located, free, rfl⟩⟩

theorem write_pathIn {directory name : String} (inside : leadsUpwards directory = false)
    (plain : IsFileName name) (writable : tree.Writable (pathIn directory name)) (text : String) :
    tree.hasDirectory (tree.placeOf directory ++ [name]) = false ∧
      tree.write (pathIn directory name) text =
        some (tree.insert (tree.placeOf directory ++ [name]) (.file (.ofText text))) := by
  obtain ⟨place, located, free⟩ := writable_iff.mp writable
  rw [← locate_pathIn inside plain located]
  exact ⟨free, write_eq_some.mpr ⟨place, located, free, rfl⟩⟩

theorem contents?_of_located {path : String} (located : tree.locate path = some place)
    {contents : Contents} (holds : tree.node? place = some (.file contents)) :
    tree.contents? path = some contents := by
  rw [contents?, located, Option.bind_some, holds]

/-! ## Making directories -/

/-- Directories are made on the way that names lead, where nothing was. -/
theorem node?_grow (tree : FileTree) (here : FilePlace) (names : List String) (q : FilePlace) :
    (tree.grow here names).1.node? q = tree.node? q ∨
      tree.node? q = none ∧ (tree.grow here names).1.node? q = some .directory ∧
        q <+: here ++ names := by
  induction names generalizing tree here with
  | nil => exact .inl rfl
  | cons name rest ih =>
      have further : here ++ name :: rest = here ++ [name] ++ rest := by simp
      rw [further]
      unfold grow
      split
      · exact .inl rfl
      · simp only
        split
        · exact ih tree _
        · exact .inl rfl
        · rename_i absent
          have made := ih (tree.insert (here ++ [name]) .directory) (here ++ [name])
          rw [node?_insert tree (by simp)] at made
          by_cases first : q = here ++ [name]
          · subst first
            simp only [if_pos, reduceCtorEq, false_and, or_false] at made
            exact .inr ⟨absent, made, List.prefix_append _ _⟩
          · rwa [if_neg first] at made

/-- Making a directory adds directories on the way to it and changes nothing else. -/
theorem node?_makeDirectory (tree : FileTree) (path : String) (q : FilePlace) :
    (tree.makeDirectory path).1.node? q = tree.node? q ∨
      tree.node? q = none ∧ (tree.makeDirectory path).1.node? q = some .directory ∧
        q <+: tree.placeOf path := by
  simp only [makeDirectory]
  split
  · exact .inl rfl
  split
  · exact .inl rfl
  split
  · have onTheWay : tree.start path ++ (properNames path).dropLast <+: tree.placeOf path :=
      List.prefix_append_right_inj _ |>.mpr (List.dropLast_prefix _)
    exact (tree.node?_grow _ _ q).imp_right fun made =>
      ⟨made.1, made.2.1, made.2.2.trans onTheWay⟩
  · exact tree.node?_grow _ _ q

theorem current?_grow (tree : FileTree) (here : FilePlace) (names : List String) :
    (tree.grow here names).1.current? = tree.current? := by
  induction names generalizing tree here with
  | nil => rfl
  | cons name rest ih =>
      unfold grow
      split
      · rfl
      · simp only
        split
        · exact ih tree _
        · rfl
        · exact ih _ _

/-- A path leads to the same place after a directory is made. -/
theorem placeOf_makeDirectory (tree : FileTree) (made path : String) :
    (tree.makeDirectory made).1.placeOf path = tree.placeOf path := by
  have current : (tree.makeDirectory made).1.current? = tree.current? := by
    simp only [makeDirectory]
    split
    · rfl
    split
    · rfl
    split
    · exact tree.current?_grow _ _
    · exact tree.current?_grow _ _
  rw [placeOf, placeOf, start, start, current]

/-- No file comes or goes when a directory is made. -/
theorem file_makeDirectory_iff (tree : FileTree) (path : String) (q : FilePlace)
    (contents : Contents) :
    (tree.makeDirectory path).1.node? q = some (.file contents) ↔
      tree.node? q = some (.file contents) := by
  rcases tree.node?_makeDirectory path q with same | ⟨absent, made, -⟩
  · rw [same]
  · rw [absent, made]
    exact ⟨nofun, nofun⟩

/-- Nothing comes or goes behind a directory that is made. -/
theorem node?_makeDirectory_behind (tree : FileTree) (path : String) {rest : List String}
    (behind : rest ≠ []) :
    (tree.makeDirectory path).1.node? (tree.placeOf path ++ rest) =
      tree.node? (tree.placeOf path ++ rest) := by
  rcases tree.node?_makeDirectory path (tree.placeOf path ++ rest) with same | ⟨-, -, onTheWay⟩
  · exact same
  · have lengths := onTheWay.length_le
    have positive := List.length_pos_iff.mpr behind
    rw [List.length_append] at lengths
    omega

end FileTree

end ConversionSynthesis
