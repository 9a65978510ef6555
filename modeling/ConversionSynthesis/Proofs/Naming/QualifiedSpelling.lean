import ConversionSynthesis.Proofs.Manifest.Checking
import ConversionSynthesis.Proofs.Naming.Levels
import ConversionSynthesis.Proofs.Naming.Resolving
import ConversionSynthesis.Proofs.TypeExpr.Spelling

/-! # What a qualified spelling denotes

A path from the root, with names and type parameters at each of its levels, always denotes
something. Its identity is that of the type its path leads to, and else is made from its levels; the
verbatim marks of names are dropped either way.
-/

namespace ConversionSynthesis

open Host Grammar

/-! ## The qualified spelling as an expression -/

/-- A type parameter as an expression. -/
def parameterExpr (parameter : String) : TypeExpr :=
  .named false [.mk parameter [] default] default

namespace Level

def segment (level : Level) : Segment :=
  .mk level.1 (level.2.map parameterExpr) default

/-- The level with its parameters as types. -/
def resolved (level : Level) : ResolvedSegment :=
  ⟨level.1, level.2.map fun parameter => .named parameter parameter .general⟩

end Level

def levelsExpr (levels : List Level) : TypeExpr :=
  .named true (levels.map Level.segment) default

theorem writes_parameterExpr {parameter : String} (identifier : isIdentifier parameter = true) :
    Writes IsTokenName IsType parameter.toList (parameterExpr parameter) :=
  .path (.one (.name (isTokenName_of_isIdentifier identifier)))

/-- A name with its type arguments is written along a segment, whatever blanks stand behind the
commas. -/
theorem writes_bracketed {legal : String → Prop} {comma : String} (isComma : IsComma comma.toList)
    {name : String} (isLegal : legal name) {arguments : List String} {trees : List TypeExpr}
    (written : List.Forall₂ (Writes legal IsType) (arguments.map String.toList) trees) :
    Writes legal IsSegment (bracketed "<" comma ">" name arguments).toList
      (.mk name trees default) := by
  unfold bracketed
  cases arguments with
  | nil =>
      rw [List.forall₂_nil_left_iff.mp written]
      exact .name isLegal
  | cons first rest =>
      have several := Writes.generic isLegal (Writes.commas isComma written (by simp))
      simpa [String.toList_intercalate] using several

theorem writes_segment {level : Level} (legal : level.Legal) :
    Writes IsTokenName IsSegment (genericDisplay level.1 level.2).toList level.segment := by
  refine writes_bracketed isComma_spaced (isTokenName_of_isIdentifier legal.name) ?_
  rw [List.forall₂_map_left_iff, List.forall₂_map_right_iff, List.forall₂_same]
  exact fun parameter mem => writes_parameterExpr (legal.parameters parameter mem)

theorem spells_levelsExpr {levels : List Level} (legal : ∀ level ∈ levels, level.Legal)
    (some : levels ≠ []) :
    Spells ("global::" ++ ".".intercalate (levels.map fun l => genericDisplay l.1 l.2))
      (levelsExpr levels) := by
  have path : Writes IsTokenName (Separated .dot IsSegment)
      (['.'].intercalate ((levels.map fun l => genericDisplay l.1 l.2).map String.toList))
      (levels.map Level.segment) := by
    refine .dots ?_ (by simpa using some)
    rw [List.map_map, List.forall₂_map_left_iff, List.forall₂_map_right_iff, List.forall₂_same]
    exact fun level mem => writes_segment (legal level mem)
  apply Spells.of_writes
  rw [String.toList_append, String.toList_intercalate]
  exact .rooted (isTokenName_of_isIdentifier (by decide)) path

theorem within_levelsExpr (levels : List Level) :
    TypeExpr.Within TypeExpr.maxDepth (levelsExpr levels) := by
  have leaf (parameter : String) : TypeExpr.Within (126 + 1) (parameterExpr parameter) :=
    TypeExpr.within_succ.mpr ⟨nofun, Nat.zero_le _, nofun⟩
  refine TypeExpr.within_succ.mpr ⟨nofun, Nat.zero_le _, fun inner isPart => ?_⟩
  obtain ⟨segment, listed, isArgument⟩ := List.mem_flatMap.mp isPart
  obtain ⟨level, -, rfl⟩ := List.mem_map.mp listed
  obtain ⟨parameter, -, rfl⟩ := List.mem_map.mp isArgument
  exact leaf parameter

/-! ## Its resolution -/

section Resolution

variable {scope : Scope}

/-- Names that may be declared, with type parameters that are at hand. -/
structure Level.Known (scope : Scope) (level : Level) : Prop where
  declarable : isDeclarable level.1 = true
  parameters : ∀ p ∈ level.2, isDeclarable p = true ∧ p ∈ scope.typeParameters

theorem Level.Known.legal {level : Level} (known : level.Known scope) : level.Legal where
  name := (Bool.and_eq_true_iff.mp known.declarable).1
  parameters p mem := (Bool.and_eq_true_iff.mp (known.parameters p mem).1).1

theorem mayName_of_isDeclarable {name : String} (isWhole : Bool)
    (declarable : isDeclarable name = true) : Scope.mayName isWhole name = true := by
  rw [Scope.mayName, (Bool.and_eq_true_iff.mp declarable).2, Bool.true_or]

theorem resolveArguments_parameters {parameters : List String}
    (known : ∀ p ∈ parameters, isDeclarable p = true ∧ p ∈ scope.typeParameters) :
    scope.resolveArguments (parameters.map parameterExpr) =
      .ok (parameters.map fun p => .named p p .general) := by
  induction parameters with
  | nil => rfl
  | cons parameter rest ih =>
      rw [List.forall_mem_cons] at known
      obtain ⟨⟨declarable, atHand⟩, others⟩ := known
      refine Scope.resolveArguments_cons_eq_ok.mpr
        ⟨.typeParameter parameter, _, ?_, ih others, rfl⟩
      refine Scope.resolveType_named_eq_ok.mpr ⟨[⟨parameter, []⟩], ?_, ?_⟩
      · exact Scope.resolveSegments_cons_eq_ok.mpr
          ⟨mayName_of_isDeclarable _ declarable, [], [], rfl, rfl, rfl⟩
      · simp [Scope.nameType, Scope.loneName?, atHand]

theorem resolveSegments_levels (isWhole : Bool) {levels : List Level}
    (known : ∀ level ∈ levels, level.Known scope) :
    scope.resolveSegments isWhole (levels.map Level.segment) =
      .ok (levels.map Level.resolved) := by
  induction levels with
  | nil => rfl
  | cons level rest ih =>
      rw [List.forall_mem_cons] at known
      exact Scope.resolveSegments_cons_eq_ok.mpr ⟨mayName_of_isDeclarable _ known.1.declarable,
        _, _, resolveArguments_parameters known.1.parameters, ih known.2, rfl⟩

/-- The qualified spelling denotes whatever its path does. -/
theorem denotes_levels {levels : List Level} (known : ∀ level ∈ levels, level.Known scope)
    (some : levels ≠ []) :
    Denotes scope ("global::" ++ ".".intercalate (levels.map fun l => genericDisplay l.1 l.2))
      (scope.dottedName true (levels.map Level.resolved)).type := by
  have spells := spells_levelsExpr (fun level mem => (known level mem).legal) some
  obtain ⟨expr, read, same⟩ := spells.exists_parse (within_levelsExpr levels)
  refine ⟨expr, read, map_eq_ok.mpr ⟨_, ?_, rfl⟩⟩
  rw [← Scope.resolveType_bare, same]
  exact Scope.resolveType_named_eq_ok.mpr ⟨_, resolveSegments_levels _ known, rfl⟩

/-! ## The identity it comes to -/

/-- The levels without verbatim marks, as resolution sees them. -/
def bareLevels (levels : List Level) : List Level :=
  levels.map fun level => (bare level.1, level.2)

/-- The path that resolution looks up. -/
def barePath (levels : List Level) : String :=
  ".".intercalate (levels.map fun level => bare level.1)

variable {outer : List Level} {own : Level}

theorem ofCanonical?_canonical {path : String} {builtin : Builtin}
    (found : Builtin.ofCanonical? path = some builtin) : builtin.canonical = path := by
  have := List.find?_some found
  simpa using this

theorem identity_resolved (level : Level) :
    level.resolved.identity = genericIdentity (bare level.1) level.2 := by
  simp [ResolvedSegment.identity, Level.resolved, ResolvedSegment.name, Function.comp_def,
    HostType.structuralIdentity]

theorem identity?_levels :
    (scope.dottedName true ((outer ++ [own]).map Level.resolved)).type.identity? = some
      (if outer.all (·.2.isEmpty) then
        match if own.2.isEmpty then Builtin.ofCanonical? (barePath (outer ++ [own])) else none with
        | some builtin => builtin.canonical
        | none =>
            match scope.registry.lookup? (barePath (outer ++ [own])) (outer.length + 1)
              own.2.length with
            | some declared =>
                below declared.prefixIdentity (genericIdentity declared.name own.2)
            | none => levelsIdentity (bareLevels (outer ++ [own]))
      else levelsIdentity (bareLevels (outer ++ [own]))) := by
  have names : ".".intercalate (((outer ++ [own]).map Level.resolved).map (·.name)) =
      barePath (outer ++ [own]) := by
    rw [List.map_map]
    rfl
  have identities : ".".intercalate (((outer ++ [own]).map Level.resolved).map (·.identity)) =
      levelsIdentity (bareLevels (outer ++ [own])) := by
    rw [levelsIdentity, bareLevels, List.map_map, List.map_map]
    congr 2
    exact funext identity_resolved
  have arguments : ((((outer ++ [own]).map Level.resolved).getLast?.map (·.arguments)).getD []) =
      own.2.map fun parameter => .named parameter parameter .general := by
    simp [Level.resolved]
  have before : (((outer ++ [own]).map Level.resolved).dropLast.all (·.arguments.isEmpty)) =
      outer.all (·.2.isEmpty) := by
    simp [Level.resolved, Function.comp_def]
  have written : (own.2.map fun p => HostType.named p p .general).map (·.structuralIdentity) =
      own.2 := by
    simp [Function.comp_def, HostType.structuralIdentity]
  rw [Scope.identity?_dottedName, names, arguments, before]
  simp only [Scope.nameParts, identities, written, List.isEmpty_map, List.length_map,
    List.length_append, List.length_singleton]
  cases outer.all (·.2.isEmpty)
  · simp
  · simp only [Bool.and_true, if_true]
    generalize (if own.2.isEmpty = true then Builtin.ofCanonical? (barePath (outer ++ [own]))
      else none) = builtin?
    cases builtin? with
    | some builtin => rfl
    | none =>
        cases scope.registry.lookup? (barePath (outer ++ [own])) (outer.length + 1)
          own.2.length <;> rfl

theorem head?_bare {name : String} (identifier : isIdentifier name = true) :
    (bare name).toList.head? ≠ some '@' := by
  intro marked
  have continues := (isTokenName_of_isIdentifier identifier).chars_bare.2 '@'
    (List.mem_of_head? marked)
  revert continues
  decide

theorem isIdentifier_bare {name : String} (identifier : isIdentifier name = true) :
    isIdentifier (bare name) = true := by
  unfold isIdentifier bare at *
  rw [String.toList_ofList]
  generalize name.toList = chars at *
  unfold bareChars at *
  split at identifier
  · next rest =>
      cases rest with
      | nil => cases identifier
      | cons c rest =>
          -- No second mark can follow the first one, as it opens no name.
          have closed : opensName '@' = false := by decide
          split
          · next same =>
              cases same
              rw [isBareName, closed, Bool.false_and] at identifier
              cases identifier
          · exact identifier
  · next plain =>
      split
      · next rest => exact absurd rfl (plain rest)
      · exact identifier

theorem legal_bareLevels {levels : List Level} (legal : ∀ level ∈ levels, level.Legal) :
    ∀ level ∈ bareLevels levels, level.Legal := by
  rw [bareLevels, List.forall_mem_map]
  exact fun level mem => ⟨isIdentifier_bare (legal level mem).name, (legal level mem).parameters⟩

/-- Without type parameters, the identity is the path that is looked up. -/
theorem levelsIdentity_bareLevels_of_plain {levels : List Level}
    (plain : ∀ level ∈ levels, level.2 = []) :
    levelsIdentity (bareLevels levels) = barePath levels := by
  have bare : ∀ level ∈ bareLevels levels, level.2 = [] := List.forall_mem_map.mpr plain
  rw [levelsIdentity_of_plain bare, barePath, bareLevels, List.map_map]
  rfl

/-- Dropping the marks keeps the identity just if there are none. -/
theorem levelsIdentity_bareLevels {levels : List Level} (legal : ∀ level ∈ levels, level.Legal)
    (some : levels ≠ []) :
    levelsIdentity (bareLevels levels) = levelsIdentity levels ↔
      ∀ level ∈ levels, bare level.1 = level.1 := by
  constructor
  · intro same
    have names := congrArg (List.map (·.1)) (levelsIdentity_injective (legal_bareLevels legal) legal
      (by simpa [bareLevels] using some) some same)
    rw [bareLevels, List.map_map, List.map_inj_left] at names
    exact names
  · intro unmarked
    have same : bareLevels levels = levels.map id :=
      List.map_congr_left fun level mem => Prod.ext (unmarked level mem) rfl
    rw [same, List.map_id]

end Resolution

end ConversionSynthesis
