import ConversionSynthesis.Manifest.Declarations
import ConversionSynthesis.Proofs.Text.Joining
import ConversionSynthesis.Proofs.TypeExpr.Words

/-! # The names down to a type

A type stands below the segments of its namespace and the types around it. Each of these levels is a
name with type parameters. The texts that name the type join its levels by dots, and no dot occurs
within a level, so that the levels can be told from the text.
-/

namespace ConversionSynthesis

open Host

/-! ## Levels as text -/

/-- The levels joined by dots, each with its type parameters. -/
def levelsIdentity (levels : List Level) : String :=
  ".".intercalate (levels.map fun level => genericIdentity level.1 level.2)

theorem not_mem_of_isIdentifier {name : String} (identifier : isIdentifier name = true) {c : Char}
    (notMark : c ≠ '@') (other : continuesName c = false) : c ∉ name.toList :=
  (isWord_of_isIdentifier identifier).not_mem notMark other

theorem isEmpty_of_isIdentifier {name : String} (identifier : isIdentifier name = true) :
    name.isEmpty = false := by
  obtain ⟨c, rest, chars, -⟩ := isTokenName_of_isIdentifier identifier
  rw [← Bool.not_eq_true, String.isEmpty_iff]
  rintro rfl
  cases chars

/-- A level of identifiers. -/
structure Level.Legal (level : Level) : Prop where
  name : isIdentifier level.1 = true
  parameters : ∀ parameter ∈ level.2, isIdentifier parameter = true

theorem toList_genericIdentity (name : String) (parameters : List String) :
    (genericIdentity name parameters).toList = name.toList ++
      if parameters.isEmpty then []
      else '<' :: ([','].intercalate (parameters.map String.toList) ++ ['>']) := by
  unfold genericIdentity bracketed
  split
  · rw [List.append_nil]
  · simp [String.toList_intercalate]

/-- The levels, each with its type parameters between brackets, are told from the text that joins
them, if no name holds a character that joins or opens, and no bracket one that joins. -/
theorem joined_levels_injective {joiner opening separator closing : String} {j o c : Char}
    (singles : joiner.toList = [j] ∧ opening.toList = [o] ∧ separator.toList = [c])
    (foreign : ∀ d ∈ [j, o, c], d ≠ '@' ∧ continuesName d = false)
    (outside : j ∉ opening.toList ∧ j ∉ separator.toList ∧ j ∉ closing.toList)
    {levels levels' : List Level} (legal : ∀ level ∈ levels, level.Legal)
    (legal' : ∀ level ∈ levels', level.Legal) (some : levels ≠ []) (some' : levels' ≠ [])
    (same : joiner.intercalate
        (levels.map fun level => bracketed opening separator closing level.1 level.2) =
      joiner.intercalate
        (levels'.map fun level => bracketed opening separator closing level.1 level.2)) :
    levels = levels' := by
  have apart {d : Char} (mem : d ∈ [j, o, c]) {name : String}
      (identifier : isIdentifier name = true) : d ∉ name.toList :=
    not_mem_of_isIdentifier identifier (foreign d mem).1 (foreign d mem).2
  have absent {levels : List Level} (legal : ∀ level ∈ levels, level.Legal) :
      ∀ piece ∈ levels.map fun level => bracketed opening separator closing level.1 level.2,
        j ∉ piece.toList := by
    refine List.forall_mem_map.mpr fun level mem => ?_
    exact not_mem_bracketed (apart (by simp) (legal level mem).name)
      (fun p isParameter => apart (by simp) ((legal level mem).parameters p isParameter))
      outside.1 outside.2.1 outside.2.2
  have pieces := intercalate_injective singles.1 (absent legal) (absent legal')
    (by simpa using some) (by simpa using some') same
  clear same some some'
  induction levels generalizing levels' with
  | nil =>
      rw [List.map_nil, eq_comm, List.map_eq_nil_iff] at pieces
      rw [pieces]
  | cons level levels ih =>
      cases levels' with
      | nil => cases pieces
      | cons level' levels' =>
          rw [List.forall_mem_cons] at legal legal'
          rw [List.map_cons, List.map_cons, List.cons.injEq] at pieces
          have first := bracketed_injective singles.2.1 singles.2.2
            (apart (by simp) legal.1.name) (apart (by simp) legal'.1.name)
            (fun p mem => apart (by simp) (legal.1.parameters p mem))
            (fun p mem => apart (by simp) (legal'.1.parameters p mem)) pieces.1
          rw [Prod.ext first.1 first.2, ih legal.2 legal'.2 pieces.2]

theorem levelsIdentity_injective {levels levels' : List Level} (legal : ∀ l ∈ levels, l.Legal)
    (legal' : ∀ l ∈ levels', l.Legal) (some : levels ≠ []) (some' : levels' ≠ [])
    (same : levelsIdentity levels = levelsIdentity levels') : levels = levels' :=
  joined_levels_injective ⟨rfl, rfl, rfl⟩ (by simp; decide) (by decide) legal legal' some some' same

theorem levelsIdentity_of_plain {levels : List Level} (plain : ∀ level ∈ levels, level.2 = []) :
    levelsIdentity levels = ".".intercalate (levels.map (·.1)) := by
  rw [levelsIdentity]
  refine congrArg _ (List.map_congr_left fun level mem => ?_)
  rw [plain level mem]
  rfl

/-- One level more, with the levels above it as a whole. -/
theorem below_intercalate {above : List String} (some : ∀ name ∈ above, name.isEmpty = false)
    (name : String) : below (".".intercalate above) name = ".".intercalate (above ++ [name]) := by
  cases above with
  | nil => simp [below]
  | cons first rest =>
      have opening : (".".intercalate (first :: rest)).isEmpty = false := by
        have first := some first List.mem_cons_self
        rw [← Bool.not_eq_true, String.isEmpty_iff, ← String.toList_eq_nil_iff] at first ⊢
        cases rest with
        | nil => simpa using first
        | cons second rest => simp [String.intercalate_cons_cons, first]
      rw [below, opening, String.intercalate_append_of_ne_nil (by simp) (by simp)]
      simp

/-! ## The levels of a type -/

/-- A namespace may be taken apart at the dots before more is joined to it. -/
theorem intercalate_namespace (path : Option String) (rest : List String) :
    ".".intercalate (path.toList ++ rest) =
      ".".intercalate (path.toList.flatMap (Text.pieces '.') ++ rest) := by
  cases path with
  | none => rfl
  | some path =>
      have pieces : Text.pieces '.' path ≠ [] := by
        rw [Text.pieces, ← List.length_pos_iff, Text.length_piecesFrom]
        omega
      cases rest with
      | nil => simp [Text.intercalate_pieces]
      | cons first rest =>
          simp [String.intercalate_append_of_ne_nil pieces, Text.intercalate_pieces,
            String.intercalate_cons_cons]

/-! ## The levels of an address -/

namespace Address

/-- The levels above a type: the segments of its namespace and the types around it. -/
def outerLevels (address : Address) : List Level :=
  (address.namespacePath.toList.flatMap (Text.pieces '.')).map (fun segment => (segment, [])) ++
    address.enclosing

/-- The levels down to the type itself. -/
def levels (address : Address) : List Level :=
  address.outerLevels ++ [address.own]

theorem own_mem_nesting (address : Address) : address.own ∈ address.nesting :=
  List.mem_append_right _ (List.mem_singleton_self _)

theorem own_mem_levels (address : Address) : address.own ∈ address.levels :=
  List.mem_append_right _ (List.mem_singleton_self _)

theorem forall_mem_nesting {address : Address} {P : Level → Prop} :
    (∀ level ∈ address.nesting, P level) ↔
      (∀ level ∈ address.enclosing, P level) ∧ P address.own := by
  rw [nesting, List.forall_mem_append, List.forall_mem_singleton]

theorem forall_mem_levels {address : Address} {P : Level → Prop} :
    (∀ level ∈ address.levels, P level) ↔
      (∀ level ∈ address.outerLevels, P level) ∧ P address.own := by
  rw [levels, List.forall_mem_append, List.forall_mem_singleton]

theorem nesting_ne_nil (address : Address) : address.nesting ≠ [] :=
  List.ne_nil_of_mem address.own_mem_nesting

theorem levels_eq_nesting (address : Address) :
    address.levels = (address.namespacePath.toList.flatMap (Text.pieces '.')).map
      (fun segment => (segment, [])) ++ address.nesting := by
  rw [levels, outerLevels, nesting, List.append_assoc]

end Address

namespace TypeDecl

theorem levels_eq (type : TypeDecl) :
    type.address.levels = type.address.outerLevels ++ [(type.name, type.typeParameters)] := rfl

theorem path_eq (type : TypeDecl) {segment : String → List String → String}
    (plain : ∀ name, segment name [] = name) :
    type.path segment =
      ".".intercalate (type.address.levels.map fun level => segment level.1 level.2) := by
  rw [path, intercalate_namespace, Address.levels_eq_nesting]
  simp [plain, Function.comp_def, address]

theorem identity_eq (type : TypeDecl) : type.identity = levelsIdentity type.address.levels :=
  type.path_eq fun _ => rfl

theorem qualifiedDisplay_eq (type : TypeDecl) :
    type.qualifiedDisplay = "global::" ++
      ".".intercalate (type.address.levels.map fun level => genericDisplay level.1 level.2) := by
  rw [qualifiedDisplay, type.path_eq fun _ => rfl]

end TypeDecl

namespace TypeEntry

/-- Where the type that an entry is about is declared. -/
def address (entry : TypeEntry) : Address where
  namespacePath := entry.namespace?
  enclosing := entry.enclosing.map fun outer => (outer.name, outer.typeParameters)
  own := (entry.name, entry.typeParameters)

theorem levels_eq (entry : TypeEntry) :
    entry.address.levels = entry.address.outerLevels ++ [(entry.name, entry.typeParameters)] := rfl

theorem path_eq (entry : TypeEntry) :
    entry.declared.path = ".".intercalate (entry.address.levels.map (·.1)) := by
  rw [declared, List.append_assoc, intercalate_namespace, Address.levels_eq_nesting]
  simp [Function.comp_def, address, Address.nesting]

theorem prefixIdentity_eq (entry : TypeEntry) :
    entry.declared.prefixIdentity = levelsIdentity entry.address.outerLevels := by
  rw [declared, intercalate_namespace, levelsIdentity, Address.outerLevels]
  simp [Function.comp_def, genericIdentity, bracketed, address]

/-- The identity of the type with other type arguments, as its levels spell it. -/
theorem below_prefixIdentity {entry : TypeEntry}
    (legal : ∀ level ∈ entry.address.outerLevels, level.Legal) (arguments : List String) :
    below entry.declared.prefixIdentity (genericIdentity entry.name arguments) =
      levelsIdentity (entry.address.outerLevels ++ [(entry.name, arguments)]) := by
  rw [prefixIdentity_eq, levelsIdentity, below_intercalate, levelsIdentity, List.map_append,
    List.map_singleton]
  refine List.forall_mem_map.mpr fun level mem => ?_
  have identifier := isEmpty_of_isIdentifier (legal level mem).name
  rw [← Bool.not_eq_true, String.isEmpty_iff, ← String.toList_eq_nil_iff] at identifier ⊢
  rw [toList_genericIdentity]
  exact fun none => identifier (List.append_eq_nil_iff.mp none).1

end TypeEntry

end ConversionSynthesis
