import ConversionSynthesis.Proofs.TypeExpr.Nodes
import ConversionSynthesis.Proofs.TypeExpr.Spelling

/-! # How deep an expression may be

The parser counts the levels of nesting down to a type and the suffixes of that type, but not the
suffixes of the types around it. So a tree that is read may be deeper than the levels there are, by
as much as those suffixes; and every tree that is no deeper than the levels is read.
-/

namespace ConversionSynthesis

open Host Grammar

namespace TypeExpr

/-! ## The depth of a type and of its parts -/

theorem argumentsDepth_le {arguments : List TypeExpr} {bound : Nat}
    (le : ∀ argument ∈ arguments, argument.depth ≤ bound) : argumentsDepth arguments ≤ bound := by
  induction arguments with
  | nil => exact Nat.zero_le _
  | cons argument rest ih =>
      rw [List.forall_mem_cons] at le
      exact Nat.max_le.mpr ⟨le.1, ih le.2⟩

theorem segmentsDepth_le {segments : List Segment} {bound : Nat}
    (le : ∀ segment ∈ segments, argumentsDepth segment.arguments ≤ bound) :
    segmentsDepth segments ≤ bound := by
  induction segments with
  | nil => exact Nat.zero_le _
  | cons segment rest ih =>
      cases segment
      rw [List.forall_mem_cons] at le
      exact Nat.max_le.mpr ⟨le.1, ih le.2⟩

theorem elementsDepth_le {elements : List Element} {bound : Nat}
    (le : ∀ element ∈ elements, element.type.depth ≤ bound) : elementsDepth elements ≤ bound := by
  induction elements with
  | nil => exact Nat.zero_le _
  | cons element rest ih =>
      cases element
      rw [List.forall_mem_cons] at le
      exact Nat.max_le.mpr ⟨le.1, ih le.2⟩

/-- A type is one level around its parts, and a level more for each suffix. -/
theorem depth_le_of_parts {bound : Nat} : ∀ {type : TypeExpr},
    (∀ inner ∈ type.parts, inner.depth ≤ bound) → type.depth ≤ type.suffixCount + 1 + bound
  | named isGlobal segments span, le => by
      have inside : segmentsDepth segments ≤ bound := by
        apply segmentsDepth_le
        intro segment mem
        apply argumentsDepth_le
        intro argument isArgument
        exact le argument (List.mem_flatMap.mpr ⟨segment, mem, isArgument⟩)
      simp only [depth, suffixCount]
      omega
  | tuple elements span, le => by
      have inside : elementsDepth elements ≤ bound :=
        elementsDepth_le fun element mem => le element.type (List.mem_map_of_mem mem)
      simp only [depth, suffixCount]
      omega
  | nullable inner span, le => by
      have inside : inner.depth ≤ inner.suffixCount + 1 + bound := depth_le_of_parts le
      simp only [depth, suffixCount]
      omega
  | array element commas span, le => by
      have inside : element.depth ≤ element.suffixCount + 1 + bound := depth_le_of_parts le
      simp only [depth, suffixCount]
      omega

/-- `Enclosed whole around type`: the type occurs in the whole, and the types around it have so many
suffixes in all. -/
inductive Enclosed : TypeExpr → Nat → TypeExpr → Prop
  | whole (type) : Enclosed type 0 type
  | part {whole inner around type} : inner ∈ whole.parts → Enclosed inner around type →
      Enclosed whole (whole.suffixCount + around) type

/-- The bound on levels and suffixes bounds the depth but for the suffixes around a type. -/
theorem Within.depth_le_add {cap : Nat} {whole : TypeExpr} (within : Within cap whole)
    {excess : Nat} (enclosing : ∀ around type, Enclosed whole around type → around ≤ excess) :
    whole.depth ≤ cap + excess := by
  induction cap generalizing whole excess with
  | zero => exact absurd within (not_within_zero whole)
  | succ cap ih =>
      obtain ⟨-, capped, parts⟩ := within_succ.mp within
      by_cases leaf : whole.parts = []
      · have alone : whole.depth ≤ whole.suffixCount + 1 + 0 :=
          depth_le_of_parts (by rw [leaf]; exact nofun)
        omega
      · obtain ⟨first, isPart⟩ := List.exists_mem_of_ne_nil _ leaf
        have counted := enclosing _ _ (.part isPart (.whole first))
        have inside :
            whole.depth ≤ whole.suffixCount + 1 + (cap + (excess - whole.suffixCount)) := by
          apply depth_le_of_parts
          intro inner isPart
          apply ih (parts inner isPart)
          intro around type occurs
          have := enclosing _ _ (.part isPart occurs)
          omega
        omega

/-- At each level no more suffixes fit than there are levels left, so the depth is at most the sum
of all these numbers. -/
theorem Within.two_mul_depth_le {cap : Nat} {whole : TypeExpr} (within : Within cap whole) :
    2 * whole.depth ≤ cap * (cap + 1) := by
  induction cap generalizing whole with
  | zero => exact absurd within (not_within_zero whole)
  | succ cap ih =>
      obtain ⟨-, capped, parts⟩ := within_succ.mp within
      have inside : whole.depth ≤ whole.suffixCount + 1 + cap * (cap + 1) / 2 := by
        apply depth_le_of_parts
        intro inner isPart
        have := ih (parts inner isPart)
        omega
      have step : (cap + 1) * (cap + 1 + 1) = cap * (cap + 1) + 2 * (cap + 1) := by
        rw [← Nat.add_mul, Nat.mul_comm]
      omega

/-! ## Places and tuples -/

mutual

theorem depth_bare : ∀ type : TypeExpr, type.bare.depth = type.depth
  | named _ segments _ => by rw [bare, depth, depth, segmentsDepth_bare segments]
  | tuple elements _ => by rw [bare, depth, depth, elementsDepth_bare elements]
  | nullable inner _ => by rw [bare, depth, depth, depth_bare inner]
  | array element _ _ => by rw [bare, depth, depth, depth_bare element]

theorem segmentsDepth_bare :
    ∀ segments, segmentsDepth (bareSegments segments) = segmentsDepth segments
  | [] => rfl
  | .mk _ arguments _ :: rest => by
      rw [bareSegments, Segment.bare, segmentsDepth, segmentsDepth, argumentsDepth_bare arguments,
        segmentsDepth_bare rest]

theorem elementsDepth_bare :
    ∀ elements, elementsDepth (bareElements elements) = elementsDepth elements
  | [] => rfl
  | .mk type _ :: rest => by
      rw [bareElements, Element.bare, elementsDepth, elementsDepth, depth_bare type,
        elementsDepth_bare rest]

theorem argumentsDepth_bare :
    ∀ arguments, argumentsDepth (bareArguments arguments) = argumentsDepth arguments
  | [] => rfl
  | argument :: rest => by
      rw [bareArguments, argumentsDepth, argumentsDepth, depth_bare argument,
        argumentsDepth_bare rest]

end

/-- Places are of no matter to the suffixes around a type. -/
theorem Enclosed.of_bare {type occurring : TypeExpr} {around : Nat}
    (occurs : Enclosed type.bare around occurring) : ∃ inner, Enclosed type around inner := by
  generalize same : type.bare = whole at occurs
  induction occurs generalizing type with
  | whole => exact ⟨type, .whole type⟩
  | part isPart _ ih =>
      rw [← same, parts_bare] at isPart
      obtain ⟨inner, listed, bare⟩ := List.mem_map.mp isPart
      obtain ⟨innermost, occurs⟩ := ih bare
      rw [← same, suffixCount_bare]
      exact ⟨innermost, .part listed occurs⟩

theorem Enclosed.bare {whole type : TypeExpr} {around : Nat}
    (occurs : Enclosed whole around type) : Enclosed whole.bare around type.bare := by
  induction occurs with
  | whole type => exact .whole type.bare
  | @part whole inner around type isPart _ ih =>
      have listed : inner.bare ∈ whole.bare.parts := by
        rw [parts_bare]
        exact List.mem_map_of_mem isPart
      rw [← whole.suffixCount_bare]
      exact .part listed ih

/-- Every tuple within the tree has two elements or more. -/
def Paired (tree : TypeExpr) : Prop :=
  ∀ elements span, tuple elements span ∈ tree.nodes → 2 ≤ elements.length

/-- A tree no deeper than the bound keeps it. -/
theorem within_of_depth_le {cap : Nat} {tree : TypeExpr} (paired : tree.Paired)
    (shallow : tree.depth ≤ cap) : Within cap tree where
  paired level type occurs elements span isTuple := by
    apply paired elements span
    rw [← isTuple]
    exact occurs.nodes_subset type.head_mem_nodes
  capped level type occurs := Nat.le_trans occurs.le_depth shallow

/-! ## Trees of every depth that fits -/

/-- The type with so many array suffixes behind it. -/
def arrays : Nat → TypeExpr → TypeExpr
  | 0, type => type
  | count + 1, type => .array (arrays count type) 0 default

theorem head_arrays (count : Nat) (type : TypeExpr) : (arrays count type).head = type.head := by
  induction count with
  | zero => rfl
  | succ count ih => rw [arrays, head, ih]

theorem suffixCount_arrays (count : Nat) (type : TypeExpr) :
    (arrays count type).suffixCount = type.suffixCount + count := by
  induction count with
  | zero => rfl
  | succ count ih => rw [arrays, suffixCount, ih, Nat.add_assoc]

theorem depth_arrays (count : Nat) (type : TypeExpr) :
    (arrays count type).depth = type.depth + count := by
  induction count with
  | zero => rfl
  | succ count ih =>
      rw [arrays, depth, ih]
      omega

theorem writes_arrays {legal : String → Prop} {chars : List Char} {type : TypeExpr} (count : Nat)
    (written : Writes legal IsType chars type) :
    Writes legal IsType (chars ++ (List.replicate count ['[', ']']).flatten)
      (arrays count type) := by
  induction count with
  | zero => simpa [arrays] using written
  | succ count ih =>
      rw [List.replicate_succ', List.flatten_concat, ← List.append_assoc]
      exact ih.array 0

/-- A name with one type argument. -/
def applied (name : String) (argument : TypeExpr) : TypeExpr :=
  .named false [.mk name [argument] default] default

theorem writes_applied {legal : String → Prop} {name : String} {chars : List Char}
    {argument : TypeExpr} (isLegal : legal name) (written : Writes legal IsType chars argument) :
    Writes legal IsType (name.toList ++ '<' :: (chars ++ ['>'])) (applied name argument) :=
  .path (.one (.generic isLegal written.one))

theorem within_arrays_applied {cap count : Nat} {name : String} {argument : TypeExpr}
    (inside : Within cap argument) (fits : count ≤ cap) :
    Within (cap + 1) (arrays count (applied name argument)) := by
  have shape : (arrays count (applied name argument)).head = applied name argument :=
    head_arrays count _
  refine within_succ.mpr ⟨?_, ?_, ?_⟩
  · intro elements span isTuple
    cases shape.symm.trans isTuple
  · have plain : (applied name argument).suffixCount = 0 := rfl
    rw [suffixCount_arrays, plain, Nat.zero_add]
    exact fits
  · intro inner isPart
    rw [parts, shape] at isPart
    cases List.mem_singleton.mp isPart
    exact inside

/-- So many levels below the first, each with all the suffixes that fit. -/
def tower : Nat → TypeExpr
  | 0 => .named false [.mk "T" [] default] default
  | levels + 1 => arrays (levels + 1) (applied "T" (tower levels))

theorem within_tower (levels : Nat) : Within (levels + 1) (tower levels) := by
  induction levels with
  | zero => exact within_succ.mpr ⟨nofun, Nat.le_refl _, nofun⟩
  | succ levels ih => exact within_arrays_applied ih (Nat.le_refl _)

theorem depth_tower (levels : Nat) :
    2 * (tower levels).depth = (levels + 1) * (levels + 1 + 1) := by
  induction levels with
  | zero => rfl
  | succ levels ih =>
      have step : (levels + 1 + 1) * (levels + 1 + 1 + 1) =
          (levels + 1) * (levels + 1 + 1) + 2 * (levels + 1 + 1) := by
        rw [← Nat.add_mul, Nat.mul_comm]
      have outermost : (applied "T" (tower levels)).depth = 1 + (tower levels).depth := by
        simp [applied, depth, segmentsDepth, argumentsDepth]
      rw [tower, depth_arrays, outermost]
      omega

theorem exists_writes_tower (levels : Nat) :
    ∃ chars, Writes IsTokenName IsType chars (tower levels) := by
  have letter : IsTokenName "T" := isTokenName_of_isIdentifier (by decide)
  induction levels with
  | zero => exact ⟨_, .path (.one (.name letter))⟩
  | succ levels ih =>
      obtain ⟨chars, written⟩ := ih
      exact ⟨_, writes_arrays _ (writes_applied letter written)⟩

end TypeExpr

/-! ## Texts -/

open TypeExpr

theorem exists_parse_depth {chars : List Char} {tree : TypeExpr}
    (written : Writes IsTokenName IsType chars tree) (within : Within maxDepth tree) :
    ∃ type, parse (String.ofList chars) = .ok type ∧ type.depth = tree.depth := by
  have spells : Spells (String.ofList chars) tree :=
    .of_writes (by rwa [String.toList_ofList])
  obtain ⟨type, read, same⟩ := spells.exists_parse within
  exact ⟨type, read, by rw [← same, depth_bare]⟩

/-- Some text is read as a tree as deep as the suffixes at all levels allow. -/
theorem exists_parse_deepest :
    ∃ text type, parse text = .ok type ∧ type.depth = maxDepth * (maxDepth + 1) / 2 := by
  obtain ⟨chars, written⟩ := exists_writes_tower 127
  obtain ⟨type, read, same⟩ := exists_parse_depth written (within_tower 127)
  have depth := depth_tower 127
  refine ⟨_, type, read, ?_⟩
  rw [same, maxDepth]
  omega

/-- What is read from a text is no deeper than there are levels, but for the suffixes around a type:
these add to the depth, up to a bound. If the grammar spells the text with a tree no deeper than
there are levels, the text is read as that, as long as its tuples have two elements or more. -/
theorem depth_of_parse (text : String) :
    (∀ type, parse text = .ok type →
      (∀ excess, (∀ around inner, Enclosed type around inner → around ≤ excess) →
        type.depth ≤ maxDepth + excess) ∧
      type.depth ≤ maxDepth * (maxDepth + 1) / 2) ∧
    ∀ tree, Spells text tree → tree.Paired → tree.depth ≤ maxDepth →
      ∃ type, parse text = .ok type ∧ type.bare = tree := by
  refine ⟨?bounded, ?accepted⟩
  case bounded =>
    intro type read
    have within := (Spells.of_parse read).2
    rw [← depth_bare]
    constructor
    · intro excess enclosing
      apply within.depth_le_add
      intro around occurring occurs
      obtain ⟨inner, occursAsRead⟩ := occurs.of_bare
      exact enclosing around inner occursAsRead
    · rw [Nat.le_div_iff_mul_le Nat.two_pos, Nat.mul_comm]
      exact within.two_mul_depth_le
  case accepted =>
    intro tree spells paired shallow
    exact spells.exists_parse (within_of_depth_le paired shallow)

/-- A list of arrays, `List<int[]>`. -/
def listOfArrays : TypeExpr :=
  applied "List" (arrays 1 (.named false [.mk "int" [] default] default))

theorem writes_listOfArrays : Writes IsTokenName IsType "List<int[]>".toList listOfArrays :=
  have list : IsTokenName "List" := isTokenName_of_isIdentifier (by decide)
  have int : IsTokenName "int" := isTokenName_of_isIdentifier (by decide)
  writes_applied list (writes_arrays 1 (.path (.one (.name int))))

theorem depth_of_parse_listOfArrays :
    ∃ type, parse "List<int[]>" = .ok type ∧ type.bare = listOfArrays ∧
      (∀ around inner, Enclosed type around inner → around ≤ 0) ∧ type.depth ≤ maxDepth := by
  have paired : listOfArrays.Paired := by
    simp [listOfArrays, applied, arrays, Paired, nodes, segmentsNodes, argumentsNodes]
  obtain ⟨type, read, same⟩ := (depth_of_parse "List<int[]>").2 listOfArrays
    (.of_writes writes_listOfArrays) paired (by decide)
  -- Only the innermost type has a suffix, and nothing is inside it.
  have innermost : ∀ around inner, Enclosed listOfArrays around inner → around ≤ 0 := by
    intro around inner occurs
    cases occurs with
    | whole => exact Nat.le_refl _
    | part isPart inside =>
        cases List.mem_singleton.mp isPart
        cases inside with
        | whole => exact Nat.le_refl _
        | part isPart _ => cases isPart
  have free : ∀ around inner, Enclosed type around inner → around ≤ 0 :=
    fun around inner occurs => innermost around inner.bare (same ▸ occurs.bare)
  exact ⟨type, read, same, free, ((depth_of_parse _).1 type read).1 0 free⟩

/-- With 127 suffixes of its own the list of arrays is read, and it is more than 128 deep. -/
theorem depth_exceeds_levels :
    ∃ type, parse (String.ofList
        ("List<int[]>".toList ++ (List.replicate 127 ['[', ']']).flatten)) = .ok type ∧
      ¬ type.depth ≤ maxDepth := by
  have element : Within (126 + 1) (arrays 1 (.named false [.mk "int" [] default] default)) :=
    within_succ.mpr ⟨nofun, by decide, nofun⟩
  have within : Within maxDepth (arrays 127 listOfArrays) :=
    within_arrays_applied element (Nat.le_refl _)
  obtain ⟨type, read, same⟩ := exists_parse_depth (writes_arrays 127 writes_listOfArrays) within
  have deep : (arrays 127 listOfArrays).depth = 130 := depth_arrays 127 listOfArrays
  refine ⟨type, read, ?_⟩
  rw [same, deep]
  decide

end ConversionSynthesis
