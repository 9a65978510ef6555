import ConversionSynthesis.Proofs.Manifest.OwnName
import ConversionSynthesis.Proofs.Naming.Identities
import ConversionSynthesis.Proofs.Naming.Respelling
import ConversionSynthesis.Proofs.TypeExpr.Inside

/-! # Capabilities and identities

The table of capabilities is asked for the identity of a name, for the path as written and for the
simple name. So it may give one type different capabilities if the type is declared and written in
different ways. Where it does not, types of one identity are of one capability.
-/

namespace ConversionSynthesis

open Host Grammar

/-! ## Names without dots -/

theorem ofCanonical?_of_isIdentifier {name : String} (identifier : isIdentifier name = true) :
    Builtin.ofCanonical? name = none := by
  have dotted : ∀ builtin ∈ builtins, '.' ∈ builtin.canonical.toList := by decide +kernel
  rw [Builtin.ofCanonical?, List.find?_eq_none]
  intro builtin mem same
  rw [beq_iff_eq] at same
  have dot := dotted builtin mem
  rw [same] at dot
  exact not_mem_of_isIdentifier identifier (by decide) (by decide) dot

theorem isUniversalBase_of_isIdentifier {name : String} (identifier : isIdentifier name = true) :
    isUniversalBase name = false := by
  have dotted : ∀ base ∈ universalBases, '.' ∈ base.toList := by decide +kernel
  rw [← Bool.not_eq_true]
  intro mem
  have dot := dotted name (List.contains_iff_mem.mp mem)
  exact not_mem_of_isIdentifier identifier (by decide) (by decide) dot

/-! ## Names that are read off their identities -/

/-- A level as segments have it, where its parameters are types that are not declared. -/
def Level.marked (level : Level) : ResolvedSegment :=
  .ofBare level.1 (level.2.map fun parameter => .named parameter parameter .concrete)

theorem Level.name_marked (level : Level) : level.marked.name = level.1 :=
  ResolvedSegment.name_ofBare _ _

theorem Level.identity_marked (level : Level) :
    level.marked.identity = genericIdentity level.1 level.2 := by
  simp [marked, Function.comp_def, HostType.structuralIdentity]

namespace Scope

variable {scope : Scope}

theorem identifies_parameter {parameter : String} (identifier : isIdentifier parameter = true)
    (free : scope.granted? parameter parameter parameter = none) :
    scope.Identifies (.named parameter parameter .concrete) (parameterExpr parameter) := by
  have segment : scope.IdentifiesSegment (.ofBare parameter []) (.mk parameter [] default) :=
    .mk (ResolvedSegment.name_ofBare _ _) (isWord_of_isIdentifier identifier) .nil
  refine identifies_named (.cons segment .nil) (List.cons_ne_nil _ _) ?_
  have path : pathOf [.ofBare parameter []] = parameter := by simp [pathOf]
  have notBuiltin : builtinAt? [] (.ofBare parameter []) = none := by
    rw [builtinAt?, List.nil_append, path, ofCanonical?_of_isIdentifier identifier, ite_self]
  have alone := scope.undeclared_concat [] (.ofBare parameter [])
  rw [notBuiltin, List.nil_append, path] at alone
  rw [alone]
  simp [judged, genericIdentity, bracketed, free, isUniversalBase_of_isIdentifier identifier,
    anyGeneral, ResolvedType.capabilityOf, HostType.essence]

theorem identifiesSegment_marked {level : Level} (legal : level.Legal)
    (free : ∀ parameter ∈ level.2, scope.granted? parameter parameter parameter = none) :
    scope.IdentifiesSegment level.marked level.segment := by
  refine .mk level.name_marked (isWord_of_isIdentifier legal.name) ?_
  rw [Level.marked, ResolvedSegment.arguments_ofBare, List.forall₂_map_left_iff,
    List.forall₂_map_right_iff, List.forall₂_same]
  exact fun parameter mem =>
    identifies_parameter (legal.parameters parameter mem) (free parameter mem)

theorem exists_identifies_builtin {builtin : Builtin} (known : builtin ∈ builtins)
    (display : String) :
    ∃ tree, scope.Identifies (ResolvedType.builtin builtin display).type tree := by
  obtain ⟨found, -⟩ := simpleName_of_mem known
  have names : ∀ builtin ∈ builtins, isIdentifier builtin.simpleName = true := by decide +kernel
  have root : scope.IdentifiesSegment (.ofBare "System" []) (.mk "System" [] default) :=
    .mk (ResolvedSegment.name_ofBare _ _) (isWord_of_isIdentifier (by decide)) .nil
  have own : scope.IdentifiesSegment (.ofBare builtin.simpleName [])
      (.mk builtin.simpleName [] default) :=
    .mk (ResolvedSegment.name_ofBare _ _) (isWord_of_isIdentifier (names builtin known)) .nil
  refine ⟨_, identifies_named (.cons root (.cons own .nil)) (List.cons_ne_nil _ _) ?_⟩
  have isBuiltin : builtinAt? [.ofBare "System" []] (.ofBare builtin.simpleName []) =
      some builtin := by
    simpa [builtinAt?, pathOf] using found
  have path := scope.undeclared_concat [.ofBare "System" []] (.ofBare builtin.simpleName [])
  rw [isBuiltin] at path
  exact path.symm

theorem of_targetAt?_eq_some {before : List ResolvedSegment} {last : ResolvedSegment}
    {target : DeclaredType} (found : scope.targetAt? before last = some target) :
    target ∈ scope.registry ∧ (∀ segment ∈ before, segment.arguments = []) ∧
      target.arity = last.arguments.length ∧
      (pathOf (before ++ [last]) = target.path ∨
        pathOf (before ++ [last]) = target.name ∧ last.name = target.name ∧
          scope.registry.lookup? target.name 1 target.arity = some target) := by
  unfold targetAt? at found
  split at found
  · next plain =>
      have noArguments : ∀ segment ∈ before, segment.arguments = [] := by simpa using plain
      unfold Registry.lookup? at found
      split at found
      · next declared byPath =>
          cases found
          obtain ⟨mem, path, arity⟩ := Registry.of_byPath?_eq_some byPath
          exact ⟨mem, noArguments, arity, .inl path.symm⟩
      · next notByPath =>
          split at found
          · next single =>
              obtain ⟨mem, name, arity⟩ := Registry.of_bySimpleName?_eq_some found
              have alone : before = [] := List.length_eq_zero_iff.mp (Nat.succ.inj single)
              subst alone
              have path : pathOf ([] ++ [last]) = last.name := by simp [pathOf]
              refine ⟨mem, noArguments, arity, .inr ⟨name.symm, path.symm.trans name.symm, ?_⟩⟩
              rw [name, arity, Registry.lookup?, notByPath, if_pos rfl, found]
          · cases found
  · cases found

end Scope

/-! ## What the table says of declared types -/

namespace TypeEntry

/-- The identity of the type with type arguments. -/
def identityWith (entry : TypeEntry) (arguments : List String) : String :=
  below entry.declared.prefixIdentity (genericIdentity entry.name arguments)

theorem identityWith_nil {entry : TypeEntry}
    (legal : ∀ level ∈ entry.address.outerLevels, level.Legal)
    (plain : ∀ level ∈ entry.address.outerLevels, level.2 = []) :
    entry.identityWith [] = entry.declared.path := by
  have whole : ∀ level ∈ entry.address.outerLevels ++ [(entry.name, [])], level.2 = [] :=
    List.forall_mem_append.mpr ⟨plain, List.forall_mem_singleton.mpr rfl⟩
  rw [identityWith, below_prefixIdentity legal, levelsIdentity_of_plain whole, entry.path_eq,
    levels_eq, List.map_append, List.map_append]
  rfl

/-- The simple name, with as many type arguments as there are parameters, leads to the type. -/
def HasShortName (scope : Scope) (entry : TypeEntry) : Prop :=
  scope.registry.lookup? entry.name 1 entry.typeParameters.length = some entry.declared

/-- The table tells no spelling of the type from another one, nor the type from another one with its
identity. -/
structure Coherent (scope : Scope) (entry : TypeEntry) : Prop where
  /-- The path makes no difference to a type that is written by its simple name. -/
  short : entry.HasShortName scope → ∀ arguments : List String,
    arguments.length = entry.typeParameters.length →
    scope.granted? (entry.identityWith arguments) entry.name entry.name =
      scope.granted? (entry.identityWith arguments) entry.declared.path entry.name
  /-- A type in the place of a builtin one has the capability of that, if any. -/
  builtin : entry.HasShortName scope → entry.typeParameters = [] →
    (Builtin.ofCanonical? (entry.identityWith [])).isSome →
    ∀ capability ∈ scope.granted? (entry.identityWith []) entry.name entry.name,
      capability = ResolvedType.capabilityOf (isUniversalBase (entry.identityWith []))
  /-- No type with the name of a type parameter around the type has a capability. -/
  around : ∀ level ∈ entry.address.outerLevels, ∀ parameter ∈ level.2,
    scope.granted? parameter parameter parameter = none

end TypeEntry

namespace Scope

variable {scope : Scope} {entry : TypeEntry} {before : List ResolvedSegment}
  {last : ResolvedSegment} {trees : List TypeExpr}

theorem anyGeneral_concat (plain : ∀ segment ∈ before, segment.arguments.any (·.isGeneralizable) =
    false) : anyGeneral (before ++ [last]) = last.arguments.any (·.isGeneralizable) := by
  have none : before.any (·.arguments.any (·.isGeneralizable)) = false := by
    rw [List.any_eq_false]
    intro segment mem
    rw [plain segment mem]
    exact Bool.false_ne_true
  rw [anyGeneral, List.any_append, none, Bool.false_or, List.any_cons, List.any_nil, Bool.or_false]

/-- The segments of a declared type, as its identity has them. -/
def declaredSegments (entry : TypeEntry) (arguments : List HostType) : List ResolvedSegment :=
  entry.address.outerLevels.map Level.marked ++ [.ofBare entry.name arguments]

theorem identity_declaredSegments (legal : ∀ level ∈ entry.address.outerLevels, level.Legal)
    (arguments : List HostType) :
    ".".intercalate ((declaredSegments entry arguments).map (·.identity)) =
      entry.identityWith (arguments.map (·.structuralIdentity)) := by
  rw [TypeEntry.identityWith, TypeEntry.below_prefixIdentity legal, levelsIdentity,
    declaredSegments]
  simp [Function.comp_def, Level.identity_marked]

theorem undeclared_declaredSegments (legal : ∀ level ∈ entry.address.outerLevels, level.Legal)
    (arguments : List HostType) :
    scope.undeclared (declaredSegments entry arguments) =
      match if arguments.isEmpty && entry.address.outerLevels.all (·.2.isEmpty) then
          Builtin.ofCanonical? entry.declared.path else none with
      | some builtin =>
          .named builtin.canonical ""
            (ResolvedType.capabilityOf (isUniversalBase builtin.canonical))
      | none =>
          scope.judged (entry.identityWith (arguments.map (·.structuralIdentity)))
            entry.declared.path entry.name (arguments.any (·.isGeneralizable)) := by
  have path : pathOf (declaredSegments entry arguments) = entry.declared.path := by
    rw [entry.path_eq, pathOf, declaredSegments, TypeEntry.levels_eq]
    simp [Function.comp_def, Level.name_marked]
  have general : anyGeneral (declaredSegments entry arguments) =
      arguments.any (·.isGeneralizable) := by
    apply anyGeneral_concat
    rw [List.forall_mem_map]
    intro level mem
    simp [Level.marked, HostType.isGeneralizable]
  have builtin : builtinAt? (entry.address.outerLevels.map Level.marked)
      (.ofBare entry.name arguments) =
      if arguments.isEmpty && entry.address.outerLevels.all (·.2.isEmpty) then
        Builtin.ofCanonical? entry.declared.path else none := by
    have plain : (entry.address.outerLevels.map Level.marked).all (·.arguments.isEmpty) =
        entry.address.outerLevels.all (·.2.isEmpty) := by
      rw [List.all_map]
      congr 1
      funext level
      rw [Function.comp_apply, Level.marked, ResolvedSegment.arguments_ofBare, List.isEmpty_map]
    rw [builtinAt?, ← declaredSegments, path, plain, ResolvedSegment.arguments_ofBare]
  have judgement := scope.undeclared_concat (entry.address.outerLevels.map Level.marked)
    (.ofBare entry.name arguments)
  rw [← declaredSegments, builtin, path, identity_declaredSegments legal, general,
    ResolvedSegment.name_ofBare] at judgement
  exact judgement

/-- A type in the place of a builtin one is judged as that by its simple name, too. -/
theorem judged_of_isBuiltin (coherent : entry.Coherent scope) (short : entry.HasShortName scope)
    (parameters : entry.typeParameters = []) {builtin : Builtin}
    (isBuiltin : Builtin.ofCanonical? (entry.identityWith []) = some builtin) :
    scope.judged (entry.identityWith []) entry.name entry.name false =
      .named builtin.canonical ""
        (ResolvedType.capabilityOf (isUniversalBase builtin.canonical)) := by
  have granted := coherent.builtin short parameters (by rw [isBuiltin, Option.isSome_some])
  rw [judged, Bool.or_false, ofCanonical?_canonical isBuiltin]
  cases given : scope.granted? (entry.identityWith []) entry.name entry.name with
  | none => rw [Option.getD_none]
  | some capability => rw [Option.getD_some, granted capability given]

/-- A declared type, by its path or its simple name, is what its identity comes to where nothing is
declared, as long as the table is coherent. -/
theorem essence_declared (isGlobal : Bool) (legal : ∀ level ∈ entry.address.levels, level.Legal)
    (coherent : entry.Coherent scope) (word : IsWord last.name)
    (notBuiltin : builtinAt? before last = none)
    (found : scope.targetAt? before last = some entry.declared) :
    (scope.dottedName isGlobal (before ++ [last])).type.essence =
      scope.undeclared (declaredSegments entry last.arguments) := by
  rw [TypeEntry.levels_eq, List.forall_mem_append, List.forall_mem_singleton] at legal
  obtain ⟨-, plain, arity, reached⟩ := of_targetAt?_eq_some found
  have general : anyGeneral (before ++ [last]) = last.arguments.any (·.isGeneralizable) :=
    anyGeneral_concat fun segment mem => by rw [plain segment mem, List.any_nil]
  have length : (last.arguments.map (·.structuralIdentity)).length = entry.typeParameters.length :=
    (List.length_map _).trans arity.symm
  have named : (scope.dottedName isGlobal (before ++ [last])).type.essence =
      scope.judged (entry.identityWith (last.arguments.map (·.structuralIdentity)))
        (pathOf (before ++ [last])) last.name (last.arguments.any (·.isGeneralizable)) := by
    rw [essence_type_dottedName, notBuiltin, found, general]
    rfl
  rw [named, undeclared_declaredSegments legal.1]
  have notCanonical : last.arguments.isEmpty = true →
      Builtin.ofCanonical? (pathOf (before ++ [last])) = none := by
    intro none
    have allPlain : before.all (·.arguments.isEmpty) = true := by simpa using plain
    rwa [builtinAt?, none, allPlain, Bool.and_true, if_pos rfl] at notBuiltin
  rcases reached with path | ⟨path, simple, short⟩
  case inl =>
    have isLast : last.name = entry.name := by
      have texts := path
      rw [entry.path_eq, pathOf, TypeEntry.levels_eq, List.map_append, List.map_append] at texts
      exact last_eq_of_intercalate_eq rfl (word.not_mem (by decide) (by decide))
        (not_mem_of_isIdentifier legal.2.name (by decide) (by decide)) texts
    have none :
        (if (last.arguments.isEmpty && entry.address.outerLevels.all (·.2.isEmpty)) = true then
        Builtin.ofCanonical? entry.declared.path else none) = none := by
      split
      · next empty =>
          rw [← path]
          exact notCanonical (Bool.and_eq_true_iff.mp empty).1
      · rfl
    rw [none, path, isLast]
  case inr =>
    rw [path, simple]
    split
    · next builtin isBuiltin =>
        -- The name alone does not mark the builtin type, but the path of the type is that of one.
        split at isBuiltin
        · next empty =>
            rw [Bool.and_eq_true, List.isEmpty_iff, List.all_eq_true] at empty
            have outerPlain : ∀ level ∈ entry.address.outerLevels, level.2 = [] :=
              fun level mem => List.isEmpty_iff.mp (empty.2 level mem)
            have parameters : entry.typeParameters = [] := by
              rw [empty.1] at length
              exact List.length_eq_zero_iff.mp length.symm
            rw [← TypeEntry.identityWith_nil legal.1 outerPlain] at isBuiltin
            rw [empty.1, List.map_nil, List.any_nil]
            exact judged_of_isBuiltin coherent short parameters isBuiltin
        · cases isBuiltin
    · rw [judged, judged]
      exact congrArg _ (congrArg (Option.getD · _) (coherent.short short _ length))

/-- The segments down to a declared type stand along its levels. -/
theorem segmentsAlong_declared {along : HostType → TypeExpr → Prop}
    (identifier : isIdentifier entry.name = true)
    (around : ∀ level ∈ entry.address.outerLevels, SegmentAlong along level.marked level.segment)
    {arguments : List HostType} (pairs : List.Forall₂ along arguments trees) :
    List.Forall₂ (SegmentAlong along) (declaredSegments entry arguments)
      (entry.address.outerLevels.map Level.segment ++ [.mk entry.name trees default]) := by
  have outer : List.Forall₂ (SegmentAlong along) (entry.address.outerLevels.map Level.marked)
      (entry.address.outerLevels.map Level.segment) := by
    rw [List.forall₂_map_left_iff, List.forall₂_map_right_iff, List.forall₂_same]
    exact around
  have own : SegmentAlong along (.ofBare entry.name arguments) (.mk entry.name trees default) :=
    .mk (ResolvedSegment.name_ofBare _ _) (isWord_of_isIdentifier identifier) pairs
  exact List.rel_append outer (.cons own .nil)

/-- Where the table is coherent, dotted names can be read off their identities, be they declared or
not. -/
theorem exists_identifies_dottedName {entries : List TypeEntry}
    (registry : scope.registry = entries.map (·.declared))
    (legal : ∀ entry ∈ entries, ∀ level ∈ entry.address.levels, level.Legal)
    (coherent : ∀ entry ∈ entries, entry.Coherent scope) (isGlobal : Bool)
    {segments : List ResolvedSegment} {segmentTrees : List Segment}
    (identify : List.Forall₂ scope.IdentifiesSegment segments segmentTrees)
    (some : segments ≠ []) :
    ∃ tree, scope.Identifies (scope.dottedName isGlobal segments).type tree := by
  obtain rfl | ⟨before, last, rfl⟩ := segments.eq_nil_or_concat'
  · exact absurd rfl some
  · have essence := scope.essence_type_dottedName isGlobal before last
    have plain := scope.undeclared_concat before last
    cases isBuiltin : builtinAt? before last with
    | some builtin =>
        rw [isBuiltin] at essence plain
        exact ⟨_, identifies_named identify some (essence.trans plain.symm)⟩
    | none =>
        cases found : scope.targetAt? before last with
        | none =>
            rw [isBuiltin, found] at essence
            rw [isBuiltin] at plain
            exact ⟨_, identifies_named identify some (essence.trans plain.symm)⟩
        | some target =>
            have mem := (of_targetAt?_eq_some found).1
            rw [registry] at mem
            obtain ⟨entry, listed, rfl⟩ := List.mem_map.mp mem
            obtain ⟨_, _, -, -, ending⟩ := exists_append_of_forall₂ identify
            cases ending with
            | cons identifies =>
                obtain ⟨rfl, word, arguments⟩ := identifies
                have declared := essence_declared isGlobal (legal entry listed)
                  (coherent entry listed) word isBuiltin found
                have levels := legal entry listed
                rw [TypeEntry.levels_eq, List.forall_mem_append,
                  List.forall_mem_singleton] at levels
                have segments := segmentsAlong_declared levels.2.name
                  (fun level mem => identifiesSegment_marked (levels.1 level mem)
                    ((coherent entry listed).around level mem)) arguments
                exact ⟨_, identifies_named segments (by simp [declaredSegments]) declared⟩

theorem namesIdentified_of_coherent {entries : List TypeEntry}
    (registry : scope.registry = entries.map (·.declared))
    (noTypeParameters : scope.typeParameters = [])
    (legal : ∀ entry ∈ entries, ∀ level ∈ entry.address.levels, level.Legal)
    (coherent : ∀ entry ∈ entries, entry.Coherent scope) : scope.NamesIdentified := by
  intro isGlobal segments segmentTrees identify some
  have dotted := exists_identifies_dottedName registry legal coherent isGlobal identify some
  unfold nameType
  split
  · next written =>
      cases lone : scope.loneName? written with
      | none => exact dotted
      | some resolved =>
          -- Without type parameters at hand, a lone name that is settled at once is a keyword.
          rw [loneName?, noTypeParameters] at lone
          obtain ⟨builtin, isKeyword, rfl⟩ := Option.map_eq_some_iff.mp lone
          exact exists_identifies_builtin (List.mem_of_find?_eq_some isKeyword) written
  · exact dotted

end Scope

/-- Types that are written without type parameters at hand have one capability if they have one
identity, as long as the table is coherent. That names are identifiers is checked when the manifest
is (`legal_of_declarations`). -/
theorem Manifest.capability_of_identity {manifest : Manifest}
    (legal : ∀ entry ∈ manifest.types, ∀ level ∈ entry.address.levels, level.Legal)
    (coherent : ∀ entry ∈ manifest.types, entry.Coherent manifest.scope)
    {text text' : String} {type type' : HostType} (denotes : Denotes manifest.scope text type)
    (denotes' : Denotes manifest.scope text' type')
    (same : type.structuralIdentity = type'.structuralIdentity) :
    type.isInterface = type'.isInterface ∧ type.isGeneralizable = type'.isGeneralizable := by
  have names : manifest.scope.NamesIdentified :=
    Scope.namesIdentified_of_coherent rfl rfl legal coherent
  have identified {text : String} {type : HostType} (denotes : Denotes manifest.scope text type) :
      ∃ tree, manifest.scope.Identifies type tree := by
    obtain ⟨expr, read, resolved⟩ := denotes
    obtain ⟨r, succeeds, rfl⟩ := map_eq_ok.mp resolved
    exact Scope.exists_identifies names (TypeExpr.formed_of_parse read) succeeds
  obtain ⟨tree, identifies⟩ := identified denotes
  obtain ⟨tree', identifies'⟩ := identified denotes'
  have essence := identifies.sameEssence identifies' same
  exact ⟨essence.isInterface_eq.symm, essence.isGeneralizable_eq.symm⟩

theorem exists_denotes {scope : Scope} {text : String} {α : Type} {view : HostType → α} {seen : α}
    (comes : ((TypeExpr.parse text).toOption.bind fun expr =>
      (scope.resolve expr).toOption.map view) = some seen) :
    ∃ type, Denotes scope text type ∧ view type = seen := by
  obtain ⟨expr, read, resolves⟩ := Option.bind_eq_some_iff.mp comes
  obtain ⟨type, resolved, same⟩ := toOption_map_eq_some.mp resolves
  exact ⟨type, ⟨expr, toOption_eq_some.mp read, resolved⟩, same⟩

/-- A generic type `Demo.Box`. -/
def demoBox : TypeEntry :=
  { name := "Box", namespacePath := some "Demo", typeParameters := ["T"] }

/-- With a capability for `Box`, the short spelling is as open as the long one. -/
theorem Manifest.capability_of_identity_box :
    let manifest : Manifest := { types := [demoBox], symbols := [("Box", .general)] }
    (∀ entry ∈ manifest.types, ∀ level ∈ entry.address.levels, level.Legal) ∧
      (∀ entry ∈ manifest.types, entry.Coherent manifest.scope) ∧
      ∃ type type', Denotes manifest.scope "Box<int>" type ∧
        Denotes manifest.scope "Demo.Box<int>" type' ∧
        type.structuralIdentity = type'.structuralIdentity ∧
        type'.isGeneralizable = true ∧ type.isGeneralizable = true := by
  intro manifest
  obtain ⟨types, accepted⟩ : ∃ types, manifest.declarations = .ok types :=
    ⟨_, by with_unfolding_all rfl⟩
  have legal := legal_of_declarations accepted
  have coherent : ∀ entry ∈ manifest.types, entry.Coherent manifest.scope := by
    rw [List.forall_mem_singleton]
    have general : demoBox.typeParameters ≠ [] := List.cons_ne_nil _ _
    refine ⟨fun _ arguments _ => ?_, fun _ none => absurd none general, ?_⟩
    · have path : manifest.scope.symbols.lookup? demoBox.declared.path = none := by decide +kernel
      have simple : manifest.scope.symbols.lookup? demoBox.name = some .general := by
        decide +kernel
      rw [Scope.granted?, Scope.granted?, Scope.tableCapability?, Scope.tableCapability?, path,
        simple]
      rfl
    · have outer : demoBox.address.outerLevels = [("Demo", [])] := by decide +kernel
      rw [outer, List.forall_mem_singleton]
      exact fun parameter mem => absurd mem List.not_mem_nil
  obtain ⟨type, denotes, identity⟩ : ∃ type, Denotes manifest.scope "Box<int>" type ∧
      type.structuralIdentity = "Demo.Box<System.Int32>" :=
    exists_denotes (by decide +kernel)
  obtain ⟨type', denotes', seen⟩ : ∃ type, Denotes manifest.scope "Demo.Box<int>" type ∧
      (type.structuralIdentity, type.isGeneralizable) = ("Demo.Box<System.Int32>", true) :=
    exists_denotes (by decide +kernel)
  obtain ⟨identity', isOpen⟩ := Prod.mk.inj seen
  have same := identity.trans identity'.symm
  have alike := capability_of_identity legal coherent denotes denotes' same
  exact ⟨legal, coherent, type, type', denotes, denotes', same, isOpen, alike.2.trans isOpen⟩

/-- With a capability for `Demo.Box`, the short spelling is concrete and the long one open. -/
theorem Manifest.capability_of_identity_missed :
    let manifest : Manifest := { types := [demoBox], symbols := [("Demo.Box", .general)] }
    (∃ types, manifest.declarations = .ok types) ∧
      ∃ type type', Denotes manifest.scope "Box<int>" type ∧
        Denotes manifest.scope "Demo.Box<int>" type' ∧
        type.structuralIdentity = type'.structuralIdentity ∧
        type.isGeneralizable ≠ type'.isGeneralizable := by
  intro manifest
  obtain ⟨type, denotes, seen⟩ : ∃ type, Denotes manifest.scope "Box<int>" type ∧
      (type.structuralIdentity, type.isGeneralizable) = ("Demo.Box<System.Int32>", false) :=
    exists_denotes (by decide +kernel)
  obtain ⟨type', denotes', seen'⟩ : ∃ type, Denotes manifest.scope "Demo.Box<int>" type ∧
      (type.structuralIdentity, type.isGeneralizable) = ("Demo.Box<System.Int32>", true) :=
    exists_denotes (by decide +kernel)
  obtain ⟨identity, isConcrete⟩ := Prod.mk.inj seen
  obtain ⟨identity', isOpen⟩ := Prod.mk.inj seen'
  refine ⟨⟨_, by with_unfolding_all rfl⟩, type, type', denotes, denotes',
    identity.trans identity'.symm, ?_⟩
  rw [isConcrete, isOpen]
  exact Bool.false_ne_true

end ConversionSynthesis
