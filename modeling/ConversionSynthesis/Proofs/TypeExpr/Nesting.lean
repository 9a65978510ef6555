import ConversionSynthesis.Proofs.TypeExpr.Grammar

/-! # One level of nesting

The bound on a whole tree, taken apart at its outermost level: what is asked of the type itself, and
the bound with one level less on each part. A tree that is not deep keeps the bound.
-/

namespace ConversionSynthesis

namespace TypeExpr

theorem not_within_zero (whole : TypeExpr) : ¬ Within 0 whole := by
  intro within
  have := within.capped 1 whole (.whole whole)
  omega

theorem within_succ {cap : Nat} {whole : TypeExpr} :
    Within (cap + 1) whole ↔
      (∀ elements span, whole.head = .tuple elements span → 2 ≤ elements.length) ∧
      whole.suffixCount ≤ cap ∧ ∀ inner ∈ whole.parts, Within cap inner := by
  constructor
  · intro within
    refine ⟨within.paired 1 whole (.whole whole), ?_, ?_⟩
    · have := within.capped 1 whole (.whole whole)
      omega
    · intro inner isPart
      constructor
      · intro level type occurs
        exact within.paired (level + 1) type (.part isPart occurs)
      · intro level type occurs
        have := within.capped (level + 1) type (.part isPart occurs)
        omega
  · rintro ⟨paired, capped, parts⟩
    constructor
    · intro level type occurs
      cases occurs with
      | whole => exact paired
      | part isPart inside => exact (parts _ isPart).paired _ _ inside
    · intro level type occurs
      cases occurs with
      | whole => omega
      | part isPart inside =>
          have := (parts _ isPart).capped _ _ inside
          omega

/-! ### Levels and depth -/

theorem suffixCount_lt_depth (type : TypeExpr) : type.suffixCount < type.depth := by
  cases type with
  | named isGlobal segments span => exact Nat.lt_add_right _ Nat.one_pos
  | tuple elements span => exact Nat.lt_add_right _ Nat.one_pos
  | nullable inner span =>
      have := suffixCount_lt_depth inner
      simp only [suffixCount, depth]
      omega
  | array element commas span =>
      have := suffixCount_lt_depth element
      simp only [suffixCount, depth]
      omega

theorem depth_le_argumentsDepth {arguments : List TypeExpr} {inner : TypeExpr}
    (mem : inner ∈ arguments) : inner.depth ≤ argumentsDepth arguments := by
  induction mem with
  | head rest => exact Nat.le_max_left _ _
  | tail _ _ ih => exact Nat.le_trans ih (Nat.le_max_right _ _)

theorem argumentsDepth_le_segmentsDepth {segments : List Segment} {segment : Segment}
    (mem : segment ∈ segments) : argumentsDepth segment.arguments ≤ segmentsDepth segments := by
  induction mem with
  | head rest =>
      cases segment
      exact Nat.le_max_left _ _
  | tail other _ ih =>
      cases other
      exact Nat.le_trans ih (Nat.le_max_right _ _)

theorem depth_le_elementsDepth {elements : List Element} {element : Element}
    (mem : element ∈ elements) : element.type.depth ≤ elementsDepth elements := by
  induction mem with
  | head rest =>
      cases element
      exact Nat.le_max_left _ _
  | tail other _ ih =>
      cases other
      exact Nat.le_trans ih (Nat.le_max_right _ _)

theorem depth_lt_of_mem_parts : ∀ {whole inner : TypeExpr}, inner ∈ whole.parts →
    inner.depth < whole.depth
  | named _ segments _, inner, isPart => by
      obtain ⟨segment, mem, argument⟩ := List.mem_flatMap.mp isPart
      have := depth_le_argumentsDepth argument
      have := argumentsDepth_le_segmentsDepth mem
      simp only [depth]
      omega
  | tuple elements _, inner, isPart => by
      obtain ⟨element, mem, rfl⟩ := List.mem_map.mp isPart
      have := depth_le_elementsDepth mem
      simp only [depth]
      omega
  | nullable type _, inner, isPart => by
      have : inner.depth < type.depth := depth_lt_of_mem_parts isPart
      simp only [depth]
      omega
  | array type _ _, inner, isPart => by
      have : inner.depth < type.depth := depth_lt_of_mem_parts isPart
      simp only [depth]
      omega

/-- No type within a tree has more levels and suffixes than the tree is deep. -/
theorem AtLevel.le_depth {whole type : TypeExpr} {level : Nat} (occurs : AtLevel whole level type) :
    level + type.suffixCount ≤ whole.depth := by
  induction occurs with
  | whole type =>
      have := type.suffixCount_lt_depth
      omega
  | part isPart _ ih =>
      have := depth_lt_of_mem_parts isPart
      omega

/-! ## Places -/

theorem head_bare : ∀ type : TypeExpr, type.bare.head = type.head.bare
  | named _ _ _ => rfl
  | tuple _ _ => rfl
  | nullable inner _ => inner.head_bare
  | array element _ _ => element.head_bare

theorem suffixCount_bare : ∀ type : TypeExpr, type.bare.suffixCount = type.suffixCount
  | named _ _ _ => rfl
  | tuple _ _ => rfl
  | nullable inner _ => congrArg (· + 1) inner.suffixCount_bare
  | array element _ _ => congrArg (· + 1) element.suffixCount_bare

theorem parts_bare (type : TypeExpr) : type.bare.parts = type.parts.map bare := by
  have arguments : ∀ segment : Segment, segment.bare.arguments = segment.arguments.map bare :=
    fun ⟨_, arguments, _⟩ => bareArguments_eq_map arguments
  have types : ∀ element : Element, element.bare.type = element.type.bare := fun ⟨_, _⟩ => rfl
  unfold parts
  rw [head_bare]
  cases type.head with
  | named isGlobal segments span =>
      simp [bare, arguments, List.flatMap_map, List.map_flatMap]
  | tuple elements span => simp [bare, types]
  | nullable inner span => rfl
  | array element commas span => rfl

end TypeExpr

namespace Grammar

open TypeExpr

theorem IsSuffix.head {ks : List TokenKind} {type inner : TypeExpr}
    (suffix : IsSuffix ks type inner) : inner.head = type.head := by
  cases suffix <;> rfl

theorem AreSuffixes.head {ks : List TokenKind} {type whole : TypeExpr}
    (suffixes : AreSuffixes ks type whole) : whole.head = type.head := by
  induction suffixes with
  | none => rfl
  | more suffix _ ih => rw [ih, suffix.head]

theorem AreSuffixes.parts {ks : List TokenKind} {type whole : TypeExpr}
    (suffixes : AreSuffixes ks type whole) : whole.parts = type.parts := by
  unfold TypeExpr.parts
  rw [suffixes.head]

theorem IsPrimary.head {ks : List TokenKind} {type : TypeExpr} (primary : IsPrimary ks type) :
    type.head = type := by
  cases primary with
  | tuple => rfl
  | named named => cases named <;> rfl

end Grammar

end ConversionSynthesis
