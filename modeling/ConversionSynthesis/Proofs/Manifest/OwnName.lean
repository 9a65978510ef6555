import ConversionSynthesis.Proofs.Candidate.Emission
import ConversionSynthesis.Proofs.Naming.Lookup
import ConversionSynthesis.Proofs.Naming.QualifiedSpelling
import ConversionSynthesis.Proofs.SideBySide

/-! # The name of a type within the type

The qualified spelling of a type, written within the type itself, is a path from the root with the
type parameters in place. It always denotes something. That is the type itself unless a name down to
it is written with the verbatim mark, which resolution drops and the identity of the type keeps, or
the path is taken by another type.
-/

namespace ConversionSynthesis

open Host Grammar

/-! ## What entries declare -/

namespace TypeEntry.Declares

variable {scope : Scope} {entry : TypeEntry} {type : TypeDecl}

theorem address_eq (declares : entry.Declares scope type) : type.address = entry.address := by
  have around : (type.enclosing.map fun outer => (outer.name, outer.typeParameters)) =
      entry.enclosing.map fun outer => (outer.name, outer.typeParameters) :=
    map_eq_of_forall₂ declares.enclosing fun _ _ declared =>
      Prod.ext declared.name declared.typeParameters
  rw [TypeDecl.address, TypeEntry.address, declares.namespacePath, around, declares.name,
    declares.typeParameters]

theorem path_declared (declares : entry.Declares scope type) :
    entry.declared.path = ".".intercalate (type.address.levels.map (·.1)) := by
  rw [entry.path_eq, declares.address_eq]

theorem prefixIdentity_declared (declares : entry.Declares scope type) :
    entry.declared.prefixIdentity = levelsIdentity type.address.outerLevels := by
  rw [entry.prefixIdentity_eq, declares.address_eq]

theorem known (declares : entry.Declares scope type) :
    ∀ level ∈ type.address.levels, level.Known (entry.inner scope) := by
  rw [TypeDecl.levels_eq, List.forall_mem_append, List.forall_mem_singleton, Address.outerLevels,
    List.forall_mem_append]
  refine ⟨⟨List.forall_mem_map.mpr ?_, List.forall_mem_map.mpr ?_⟩, ⟨?_, ?_⟩⟩
  · intro segment mem
    rw [TypeDecl.address, declares.namespacePath] at mem
    exact ⟨declares.namespaceDeclarable segment mem, fun p none => absurd none List.not_mem_nil⟩
  · intro outer mem
    obtain ⟨enclosing, listed, declared⟩ := exists_left_of_forall₂ declares.enclosing mem
    refine ⟨declared.name ▸ declared.declarable, fun p isParameter => ?_⟩
    rw [declared.typeParameters] at isParameter
    exact ⟨declared.parameters.declarable p isParameter,
      List.mem_append_left _ (List.mem_flatMap.mpr ⟨enclosing, listed, isParameter⟩)⟩
  · exact declares.name ▸ declares.declarable
  · intro p isParameter
    rw [declares.typeParameters] at isParameter
    exact ⟨declares.parameters.declarable p isParameter, List.mem_append_right _ isParameter⟩

theorem legal (declares : entry.Declares scope type) : ∀ level ∈ type.address.levels, level.Legal :=
  fun level mem => (declares.known level mem).legal

/-- The type found under a path, with other type parameters, as its levels spell it. -/
theorem below_declared (declares : entry.Declares scope type) (parameters : List String) :
    below entry.declared.prefixIdentity (genericIdentity entry.declared.name parameters) =
      levelsIdentity (type.address.outerLevels ++ [(type.name, parameters)]) := by
  have legal := (Address.forall_mem_levels.mp declares.legal).1
  rw [declares.address_eq] at legal ⊢
  rw [declares.name]
  exact TypeEntry.below_prefixIdentity legal parameters

end TypeEntry.Declares

/-! ## When it is the type itself -/

namespace TypeDecl

/-- No name down to the type is written with the verbatim mark. -/
def IsUnmarked (type : TypeDecl) : Prop :=
  ∀ level ∈ type.address.levels, bare level.1 = level.1

/-- The dotted path of the type without type parameters. -/
def plainPath (type : TypeDecl) : String :=
  ".".intercalate (type.address.levels.map (·.1))

/-- The path of the type leads to it: a type around it has type parameters, so that the path is not
looked up, or it is that of a builtin type, or the last type declared with it and as many type
parameters stands at the same place. -/
def KeepsPath (type : TypeDecl) (registry : Registry) : Prop :=
  (∃ level ∈ type.address.outerLevels, level.2 ≠ []) ∨
    (type.typeParameters = [] ∧ (Builtin.ofCanonical? type.plainPath).isSome) ∨
    ∃ last, registry.byPath? type.plainPath type.arity = some last ∧
      last.prefixIdentity = levelsIdentity type.address.outerLevels

end TypeDecl

section

variable {manifest : Manifest} {types : List TypeDecl} {entry found : TypeEntry}
  {type foundType : TypeDecl}

theorem declares_of_mem_registry (accepted : manifest.declarations = .ok types)
    {target : DeclaredType} (mem : target ∈ manifest.scope.registry) :
    ∃ (found : TypeEntry) (foundType : TypeDecl),
      found.Declares manifest.scope foundType ∧ found.declared = target := by
  obtain ⟨found, listed, rfl⟩ := List.mem_map.mp mem
  obtain ⟨foundType, declares⟩ :=
    Manifest.exists_declarations_iff.mp ⟨types, accepted⟩ found listed
  exact ⟨found, foundType, declares, rfl⟩

/-- The names that an accepted manifest declares, and those around them, are identifiers. -/
theorem legal_of_declarations (accepted : manifest.declarations = .ok types) :
    ∀ entry ∈ manifest.types, ∀ level ∈ entry.address.levels, level.Legal := by
  intro entry listed
  obtain ⟨type, declares⟩ := Manifest.exists_declarations_iff.mp ⟨types, accepted⟩ entry listed
  rw [← declares.address_eq]
  exact declares.legal

theorem identity_bareLevels_iff (declares : entry.Declares manifest.scope type) :
    levelsIdentity (bareLevels type.address.levels) = type.identity ↔ type.IsUnmarked := by
  rw [type.identity_eq]
  exact levelsIdentity_bareLevels declares.legal (by simp [TypeDecl.levels_eq])

theorem barePath_of_isUnmarked (unmarked : type.IsUnmarked) :
    barePath type.address.levels = type.plainPath := by
  rw [barePath, TypeDecl.plainPath, List.map_congr_left unmarked]

/-- A type found with the identity of `type` has the same names, at the same place. -/
theorem of_found_identity_eq (declares : entry.Declares manifest.scope type)
    (foundDeclares : found.Declares manifest.scope foundType)
    (same : below found.declared.prefixIdentity
      (genericIdentity found.declared.name type.typeParameters) = type.identity) :
    foundType.address.levels.map (·.1) = type.address.levels.map (·.1) ∧
      found.declared.prefixIdentity = levelsIdentity type.address.outerLevels := by
  have legal := declares.legal
  have foundLegal : ∀ level ∈
      foundType.address.outerLevels ++ [(foundType.name, type.typeParameters)],
      Level.Legal level := by
    have foundLegal := foundDeclares.legal
    rw [TypeDecl.levels_eq, List.forall_mem_append, List.forall_mem_singleton] at *
    exact ⟨foundLegal.1, foundLegal.2.name, legal.2.parameters⟩
  rw [foundDeclares.below_declared, type.identity_eq] at same
  have levels :=
    levelsIdentity_injective foundLegal legal (by simp) (by simp [TypeDecl.levels_eq]) same
  constructor
  · rw [← levels, TypeDecl.levels_eq]
    simp
  · rw [TypeDecl.levels_eq] at levels
    rw [foundDeclares.prefixIdentity_declared, (List.append_inj' levels rfl).1]

/-- What is found under the path is the type itself if no name is marked and it stands at the same
place. -/
theorem found_identity_iff (declares : entry.Declares manifest.scope type)
    (foundDeclares : found.Declares manifest.scope foundType)
    (under : found.declared.path = barePath type.address.levels) :
    below found.declared.prefixIdentity
        (genericIdentity found.declared.name type.typeParameters) = type.identity ↔
      type.IsUnmarked ∧
        found.declared.prefixIdentity = levelsIdentity type.address.outerLevels := by
  have names : foundType.address.levels.map (·.1) =
      type.address.levels.map fun level => bare level.1 := by
    have dotless {name : String} (identifier : isIdentifier name = true) : '.' ∉ name.toList :=
      not_mem_of_isIdentifier identifier (by decide) (by decide)
    rw [foundDeclares.path_declared] at under
    refine intercalate_injective rfl ?_ ?_ (by simp [TypeDecl.levels_eq])
      (by simp [TypeDecl.levels_eq]) under
    · exact List.forall_mem_map.mpr fun level mem => dotless (foundDeclares.legal level mem).name
    · exact List.forall_mem_map.mpr fun level mem =>
        dotless (isIdentifier_bare (declares.legal level mem).name)
  constructor
  · intro same
    obtain ⟨sameNames, place⟩ := of_found_identity_eq declares foundDeclares same
    exact ⟨List.map_inj_left.mp (names.symm.trans sameNames), place⟩
  · rintro ⟨unmarked, place⟩
    rw [List.map_congr_left unmarked, TypeDecl.levels_eq, TypeDecl.levels_eq, List.map_append,
      List.map_append] at names
    have name : foundType.name = type.name := by simpa using (List.append_inj' names rfl).2
    have own := declares.below_declared type.typeParameters
    rw [declares.prefixIdentity_declared, ← place] at own
    rw [type.identity_eq, TypeDecl.levels_eq, ← own]
    rw [show found.declared.name = entry.declared.name from
      foundDeclares.name.symm.trans (name.trans declares.name)]

/-- A type alone under a simple name is the type itself only if that is not marked. -/
theorem unmarked_of_simple_name (declares : entry.Declares manifest.scope type)
    (foundDeclares : found.Declares manifest.scope foundType)
    (alone : type.address.outerLevels = [])
    (named : found.declared.name = barePath type.address.levels)
    (same : below found.declared.prefixIdentity
      (genericIdentity found.declared.name type.typeParameters) = type.identity) :
    type.IsUnmarked := by
  obtain ⟨names, -⟩ := of_found_identity_eq declares foundDeclares same
  rw [TypeDecl.levels_eq, TypeDecl.levels_eq, List.map_append, List.map_append] at names
  have name : foundType.name = type.name := by simpa using (List.append_inj' names rfl).2
  have foundName : found.declared.name = foundType.name := foundDeclares.name.symm
  rw [foundName, name, barePath, TypeDecl.levels_eq, alone] at named
  rw [TypeDecl.IsUnmarked, TypeDecl.levels_eq, alone]
  simpa using named.symm

/-- An unmarked type, or another one, is found under its path. -/
theorem not_unmarked_of_missed (listed : entry ∈ manifest.types)
    (declares : entry.Declares manifest.scope type)
    (missed : manifest.scope.registry.byPath? (barePath type.address.levels)
      type.typeParameters.length = none) : ¬ type.IsUnmarked := by
  intro unmarked
  obtain ⟨last, found⟩ := Registry.exists_byPath?_of_mem (List.mem_map_of_mem listed)
  rw [declares.path_declared] at found
  rw [barePath_of_isUnmarked unmarked, TypeDecl.plainPath, declares.typeParameters] at missed
  cases found.symm.trans missed

/-- Where the path is looked up, the last type declared with it decides. -/
theorem looked_up_iff (accepted : manifest.declarations = .ok types)
    (listed : entry ∈ manifest.types) (declares : entry.Declares manifest.scope type)
    (looked : ¬ ∃ level ∈ type.address.outerLevels, level.2 ≠ [])
    (notBuiltin : ¬ (type.typeParameters = [] ∧
      (Builtin.ofCanonical? (barePath type.address.levels)).isSome)) :
    (match manifest.scope.registry.lookup? (barePath type.address.levels)
        (type.address.outerLevels.length + 1) type.typeParameters.length with
      | some target =>
          below target.prefixIdentity (genericIdentity target.name type.typeParameters)
      | none => levelsIdentity (bareLevels type.address.levels)) = type.identity ↔
      type.IsUnmarked ∧ type.KeepsPath manifest.scope.registry := by
  have bareIff := identity_bareLevels_iff declares
  unfold Registry.lookup?
  cases byPath : manifest.scope.registry.byPath? (barePath type.address.levels)
      type.typeParameters.length with
  | some target =>
      obtain ⟨mem, path, -⟩ := Registry.of_byPath?_eq_some byPath
      obtain ⟨found, foundType, foundDeclares, rfl⟩ := declares_of_mem_registry accepted mem
      rw [found_identity_iff declares foundDeclares path]
      refine and_congr_right fun unmarked => ?_
      rw [barePath_of_isUnmarked unmarked] at byPath notBuiltin
      rw [TypeDecl.KeepsPath, or_iff_right looked, or_iff_right notBuiltin, TypeDecl.arity, byPath]
      simp
  | none =>
      have marked := not_unmarked_of_missed listed declares byPath
      refine iff_of_false ?_ fun both => marked both.1
      intro same
      by_cases single : type.address.outerLevels.length + 1 = 1
      · rw [if_pos single] at same
        have alone : type.address.outerLevels = [] :=
          List.length_eq_zero_iff.mp (Nat.succ.inj single)
        cases byName : manifest.scope.registry.bySimpleName? (barePath type.address.levels)
            type.typeParameters.length with
        | some target =>
            rw [byName] at same
            obtain ⟨mem, name, -⟩ := Registry.of_bySimpleName?_eq_some byName
            obtain ⟨found, foundType, foundDeclares, rfl⟩ :=
              declares_of_mem_registry accepted mem
            exact marked (unmarked_of_simple_name declares foundDeclares alone name same)
        | none =>
            rw [byName] at same
            exact marked (bareIff.mp same)
      · rw [if_neg single] at same
        exact marked (bareIff.mp same)

/-- The path that the qualified spelling of a type comes to has the identity of the type just if no
name is marked and the path leads to the type. -/
theorem own_identity_iff (accepted : manifest.declarations = .ok types)
    (listed : entry ∈ manifest.types) (declares : entry.Declares manifest.scope type) :
    ((entry.inner manifest.scope).dottedName true
        (type.address.levels.map Level.resolved)).type.identity? = some type.identity ↔
      type.IsUnmarked ∧ type.KeepsPath manifest.scope.registry := by
  have bareIff := identity_bareLevels_iff declares
  rw [TypeDecl.levels_eq, identity?_levels, Option.some.injEq, ← TypeDecl.levels_eq]
  by_cases plain : type.address.outerLevels.all (·.2.isEmpty) = true
  · have noGeneric : ¬ ∃ level ∈ type.address.outerLevels, level.2 ≠ [] := by simpa using plain
    rw [if_pos plain]
    split
    · next builtin found =>
        split at found
        · next none =>
            have noParameters : type.typeParameters = [] := List.isEmpty_iff.mp none
            have text : levelsIdentity (bareLevels type.address.levels) =
                barePath type.address.levels := by
              refine levelsIdentity_bareLevels_of_plain ?_
              rw [TypeDecl.levels_eq, List.forall_mem_append, List.forall_mem_singleton]
              exact ⟨by simpa using plain, noParameters⟩
            rw [ofCanonical?_canonical found, ← text, bareIff]
            refine ⟨fun unmarked => ⟨unmarked, .inr (.inl ⟨noParameters, ?_⟩)⟩, And.left⟩
            rw [← barePath_of_isUnmarked unmarked, found]
            rfl
        · cases found
    · next notBuiltin =>
        refine looked_up_iff accepted listed declares noGeneric fun isBuiltin => ?_
        rw [if_pos (List.isEmpty_iff.mpr isBuiltin.1)] at notBuiltin
        rw [notBuiltin] at isBuiltin
        cases isBuiltin.2
  · have generic : ∃ level ∈ type.address.outerLevels, level.2 ≠ [] := by simpa using plain
    rw [if_neg plain, bareIff]
    exact ⟨fun unmarked => ⟨unmarked, .inl generic⟩, And.left⟩

/-- A constructor from the type itself copies, unless something else is said against it before. -/
theorem TypeDecl.ineligibility?_of_copy {c : Constructor} {only : Parameter}
    (parameters : c.parameters = [only]) (self : only.type.identity? = some type.identity)
    (tuples : TupleSupport) :
    type.ineligibility? c tuples =
      if c.isOptedOut || type.isOptedOut then some .optedOut
      else if c.isObsolete then some .obsolete
      else
        match Accessibility.firstRejecting? type.accessibilityChain c.accessibility with
        | some context => some (.inaccessible c.accessibility context)
        | none => some .copyConstructor := by
  have copies : type.parameterFault? c.parameters = some .copyConstructor := by
    rw [parameters, parameterFault?, if_pos self]
  cases visible : Accessibility.firstRejecting? type.accessibilityChain c.accessibility <;>
    simp only [ineligibility?, copies, visible]

/-- The qualified spelling of a type, within the type, denotes something. It denotes the type itself
just if no name down to the type is marked and its path leads to it, and then no constructor whose
only parameter is written so backs a conversion: it is a copy constructor, unless it is ruled out
for its marks or its visibility. -/
theorem Manifest.own_name_denotes (accepted : manifest.declarations = .ok types)
    (listed : (entry, type) ∈ manifest.types.zip types) :
    ∃ own, Denotes (entry.inner manifest.scope) type.qualifiedDisplay own ∧
      (own.identity? = some type.identity ↔
        type.IsUnmarked ∧ type.KeepsPath manifest.scope.registry) ∧
      (type.IsUnmarked ∧ type.KeepsPath manifest.scope.registry →
        ∀ index written parameter, entry.constructors[index]? = some written →
          written.parameters = [parameter] → parameter.type = type.qualifiedDisplay →
          ∃ c, type.constructors[index]? = some c ∧
            (c.isOptedOut = false → type.isOptedOut = false → c.isObsolete = false →
              Accessibility.firstRejecting? type.accessibilityChain c.accessibility = none →
              ∀ tuples, type.ineligibility? c tuples = some .copyConstructor) ∧
            ∀ tuples, ∀ candidate ∈ type.emitted tuples, candidate.index ≠ index) := by
  have declares : entry.Declares manifest.scope type :=
    (List.forall₂_iff_zip.mp (declarations_eq_ok.mp accepted)).2 listed
  have denotes := denotes_levels declares.known (by simp [TypeDecl.levels_eq])
  rw [← type.qualifiedDisplay_eq] at denotes
  have isItself := own_identity_iff accepted (List.of_mem_zip listed).1 declares
  refine ⟨_, denotes, isItself, ?_⟩
  intro reached index written parameter found alone spelled
  obtain ⟨c, foundConstructor, declared⟩ :=
    exists_getElem?_of_forall₂ declares.constructors found
  obtain ⟨only, parameters, only_type⟩ : ∃ only, c.parameters = [only] ∧
      Denotes (entry.inner manifest.scope) type.qualifiedDisplay only.type := by
    have parameters := declared.parameters
    rw [alone, List.forall₂_cons_left_iff] at parameters
    obtain ⟨only, rest, first, others, same⟩ := parameters
    rw [List.forall₂_nil_left_iff.mp others] at same
    exact ⟨only, same, spelled ▸ first.type⟩
  have self : only.type.identity? = some type.identity := by
    rw [only_type.unique denotes]
    exact isItself.mpr reached
  have reasons := TypeDecl.ineligibility?_of_copy parameters self
  refine ⟨c, foundConstructor, ?_, ?_⟩
  · intro notOptedOut typeNotOptedOut notObsolete visible tuples
    simp [reasons, notOptedOut, typeNotOptedOut, notObsolete, visible]
  · intro tuples candidate emitted
    obtain ⟨reason, ineligible⟩ : ∃ reason, type.ineligibility? c tuples = some reason := by
      rw [reasons tuples]
      split
      · exact ⟨_, rfl⟩
      · split
        · exact ⟨_, rfl⟩
        · split <;> exact ⟨_, rfl⟩
    exact TypeDecl.index_ne_of_ineligible ((type.emitted_sublist tuples).mem emitted)
      foundConstructor ineligible

end

/-- A type with a constructor whose only parameter is written in a text. -/
def madeFrom (entry : TypeEntry) (text : String) : TypeEntry :=
  { entry with constructors := [{ parameters := [{ name := "other", type := text }] }] }

/-- A type with type parameters inside another one, made from itself. -/
def nestedBox : TypeEntry :=
  madeFrom { name := "Box", namespacePath := some "Demo", typeParameters := ["T"],
             enclosing := [{ name := "Outer", typeParameters := ["U"] }] }
    "global::Demo.Outer<U>.Box<T>"

theorem own_name_denotes_nestedBox :
    ∃ type own, Manifest.declarations { types := [nestedBox] } = .ok [type] ∧
      Denotes (nestedBox.inner (Manifest.scope { types := [nestedBox] }))
        "global::Demo.Outer<U>.Box<T>" own ∧
      own.identity? = some "Demo.Outer<U>.Box<T>" ∧
      ∀ tuples, ∀ candidate ∈ type.emitted tuples, candidate.index ≠ 0 := by
  have evaluated : (Manifest.declarations { types := [nestedBox] }).toOption.map (fun types =>
      types.map fun type =>
        ([type.qualifiedDisplay, type.identity, type.name], type.address.outerLevels)) =
      some [(["global::Demo.Outer<U>.Box<T>", "Demo.Outer<U>.Box<T>", "Box"],
        [("Demo", []), ("Outer", ["U"])])] := by
    decide +kernel
  obtain ⟨types, accepted, listed⟩ := toOption_map_eq_some.mp evaluated
  obtain ⟨type, rfl, facts⟩ := List.map_eq_singleton_iff.mp listed
  simp only [Prod.mk.injEq, List.cons.injEq, and_true] at facts
  obtain ⟨⟨display, identity, name⟩, outer⟩ := facts
  have reached : type.IsUnmarked ∧
      type.KeepsPath (Manifest.scope { types := [nestedBox] }).registry := by
    refine ⟨?_, .inl ⟨("Outer", ["U"]), ?_, by simp⟩⟩
    · simp only [TypeDecl.IsUnmarked, TypeDecl.levels_eq, outer, name, List.forall_mem_append,
        List.forall_mem_cons]
      decide
    · rw [outer]
      decide
  obtain ⟨own, denotes, isItself, copies⟩ :=
    Manifest.own_name_denotes accepted (List.mem_singleton_self (nestedBox, type))
  rw [display] at denotes
  rw [identity] at isItself
  obtain ⟨_, _, _, apart⟩ := copies reached 0 _ _ rfl rfl display.symm
  exact ⟨type, own, accepted, denotes, isItself.mpr reached, apart⟩

/-- The identities of types, each with the constructors that its unit has operators from. -/
def synthesizedFrom (types : List TypeDecl) : List (String × List Nat) :=
  types.map fun type => (type.identity, (type.emitted .native).map (·.index))

/-- A marked name, and a path that a later type takes: in both manifests a type is converted from
the qualified spelling of itself. -/
theorem own_name_missed :
    (Manifest.declarations
        { types := [madeFrom { name := "@Box" } "global::@Box"] }).toOption.map synthesizedFrom =
      some [("@Box", [0])] ∧
    (Manifest.declarations
        { types := [
          madeFrom { name := "Inner", enclosing := [{ name := "Outer" }] } "global::Outer.Inner",
          { name := "Inner", enclosing := [{ name := "Outer", typeParameters := ["T"] }] }]
          }).toOption.map synthesizedFrom =
      some [("Outer.Inner", [0]), ("Outer<T>.Inner", [])] := by
  decide +kernel

end ConversionSynthesis
