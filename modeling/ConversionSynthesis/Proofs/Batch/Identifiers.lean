import ConversionSynthesis.Proofs.Batch.Clashes
import ConversionSynthesis.Proofs.Manifest.OwnName

/-! # Unit identifiers

The identifier of a unit spells the namespace of its type, the types around it and its own name,
with type parameters. Namespaces end in a dot and types around it in a plus sign, and neither sign
occurs in a name that a manifest may declare. So the identifier tells all of these apart, and the
units of a manifest clash just if two of its types agree in all of them.
-/

namespace ConversionSynthesis

namespace TypeDecl

/-! ## The parts of an identifier -/

/-- The names from the outermost enclosing type down to the type itself, as identifiers spell
them. -/
def nestedName (type : TypeDecl) : String :=
  "+".intercalate
    (type.address.nesting.map fun level => bracketed "\x7b" "," "\x7d" level.1 level.2)

/-- The identifier of the type's unit without the suffix that all units have. -/
def unitStem (type : TypeDecl) : String :=
  ".".intercalate (type.namespacePath.toList ++ [type.nestedName])

theorem unitIdentifier_eq (type : TypeDecl) (options : UnitOptions) :
    type.unitIdentifier options = type.unitStem ++ options.suffix := by
  rw [unitIdentifier, unitStem, nestedName]
  cases type.namespacePath <;> simp

/-- A character of no identifier is in a nested name only to set its parts apart. -/
theorem not_mem_nestedName {type : TypeDecl} (legal : ∀ level ∈ type.address.levels, level.Legal)
    {c : Char} (foreign : ∀ {name : String}, Host.isIdentifier name = true → c ∉ name.toList)
    (noSign : c ∉ ['+', '\x7b', ',', '\x7d']) : c ∉ type.nestedName.toList := by
  rw [Address.levels_eq_nesting, List.forall_mem_append] at legal
  simp only [List.mem_cons, List.not_mem_nil, or_false, not_or] at noSign
  obtain ⟨plus, opening, comma, closing⟩ := noSign
  refine not_mem_intercalate (by simpa using plus) (List.forall_mem_map.mpr fun level mem => ?_)
  have parts := legal.2 level mem
  exact not_mem_bracketed (foreign parts.name) (fun p isParameter =>
    foreign (parts.parameters p isParameter)) (by simpa using opening) (by simpa using comma)
    (by simpa using closing)

/-- Types under one name at one place: in the same namespace, within types of the same names, and of
the same name, with the same type parameters at each level. -/
structure SamePlace (type type' : TypeDecl) : Prop where
  namespacePath : type.namespacePath = type'.namespacePath
  enclosing : (type.enclosing.map fun outer => (outer.name, outer.typeParameters)) =
    type'.enclosing.map fun outer => (outer.name, outer.typeParameters)
  name : type.name = type'.name
  typeParameters : type.typeParameters = type'.typeParameters

theorem samePlace_iff {type type' : TypeDecl} :
    type.SamePlace type' ↔
      type.namespacePath = type'.namespacePath ∧ type.address.nesting = type'.address.nesting := by
  constructor
  · rintro ⟨namespacePath, enclosing, name, typeParameters⟩
    rw [address, address, Address.nesting, Address.nesting, enclosing, name, typeParameters]
    exact ⟨namespacePath, rfl⟩
  · rintro ⟨namespacePath, nested⟩
    obtain ⟨enclosing, own⟩ := List.append_inj' nested rfl
    obtain ⟨name, typeParameters⟩ := Prod.ext_iff.mp (List.singleton_inj.mp own)
    exact ⟨namespacePath, enclosing, name, typeParameters⟩

/-- The stem tells the place and the name of a type. -/
theorem unitStem_eq_iff {type type' : TypeDecl} (legal : ∀ level ∈ type.address.levels, level.Legal)
    (legal' : ∀ level ∈ type'.address.levels, level.Legal) :
    type.unitStem = type'.unitStem ↔ type.SamePlace type' := by
  rw [samePlace_iff]
  constructor
  · intro same
    -- No dot stands in the nested name, so that it is what stands behind the last dot.
    have dotless {name : String} (identifier : Host.isIdentifier name = true) :
        '.' ∉ name.toList := not_mem_of_isIdentifier identifier (by decide) (by decide)
    have nested : type.nestedName = type'.nestedName :=
      last_eq_of_intercalate_eq rfl (not_mem_nestedName legal dotless (by decide))
        (not_mem_nestedName legal' dotless (by decide)) same
    constructor
    · rw [unitStem, unitStem, nested] at same
      cases path : type.namespacePath <;> cases path' : type'.namespacePath
      case none.none => rfl
      case none.some => exact absurd same.symm (by simp [path, path'])
      case some.none => exact absurd same (by simp [path, path'])
      case some.some => simpa [path, path'] using same
    · rw [Address.levels_eq_nesting, List.forall_mem_append] at legal legal'
      exact joined_levels_injective ⟨rfl, rfl, rfl⟩ (by simp; decide) (by decide) legal.2 legal'.2
        type.address.nesting_ne_nil type'.address.nesting_ne_nil nested
  · rintro ⟨path, nested⟩
    rw [unitStem, unitStem, nestedName, nestedName, path, nested]

theorem unitIdentifier_eq_iff {type type' : TypeDecl}
    (legal : ∀ level ∈ type.address.levels, level.Legal)
    (legal' : ∀ level ∈ type'.address.levels, level.Legal) (options : UnitOptions) :
    type.unitIdentifier options = type'.unitIdentifier options ↔ type.SamePlace type' := by
  rw [unitIdentifier_eq, unitIdentifier_eq, String.append_left_inj, unitStem_eq_iff legal legal']

theorem unitName?_eq_some {type : TypeDecl} {tuples : TupleSupport} {options : UnitOptions}
    {identifier : String} :
    type.unitName? tuples options = some identifier ↔
      type.unit? tuples options ≠ none ∧ type.unitIdentifier options = identifier := by
  rw [unitName?, unit?_eq]
  by_cases nothing : type.emitted tuples = []
  · simp [nothing]
  · simp [nothing]

end TypeDecl

/-! ## Clashes within a batch -/

section

variable {settings : BatchSettings} {isCancelledAt : Nat → Bool} {types : List TypeDecl}

/-- Two types of a batch, in order, that both have a unit under one identifier. -/
def Batch.Clashes (settings : BatchSettings) (types : List TypeDecl) : Prop :=
  ∃ (i j : Nat) (first second : TypeDecl), i < j ∧ types[i]? = some first ∧
    types[j]? = some second ∧ ∃ identifier,
      first.unitName? settings.tuples settings.options = some identifier ∧
        second.unitName? settings.tuples settings.options = some identifier

theorem Batch.not_clashes_of_distinct
    (distinct : (types.filterMap (·.unitName? settings.tuples settings.options)).Nodup) :
    ¬ Batch.Clashes settings types := by
  rintro ⟨i, j, first, second, before, found, found', identifier, named, named'⟩
  rw [List.nodup_iff_pairwise_ne, List.pairwise_filterMap, List.pairwise_iff_getElem] at distinct
  obtain ⟨bound, rfl⟩ := List.getElem?_eq_some_iff.mp found
  obtain ⟨bound', rfl⟩ := List.getElem?_eq_some_iff.mp found'
  exact distinct i j bound bound' before identifier named identifier named' rfl

theorem Batch.FirstClash.clashes {identifier : String} {first second : TypeDecl}
    (clash : Batch.FirstClash settings.tuples settings.options types identifier first second) :
    Batch.Clashes settings types := by
  obtain ⟨before, between, after, rfl, named, named', -⟩ := clash
  refine ⟨before.length, (before ++ first :: between).length, first, second, by simp, ?_, ?_,
    identifier, named, named'⟩
  · simp
  · rw [List.getElem?_append_right (Nat.le_refl _), Nat.sub_self, List.getElem?_cons_zero]

/-- A clash is reported if there is one and no worker finds the run cancelled. -/
theorem generateAll_reports_iff :
    (∃ identifier first second, generateAll settings isCancelledAt types =
        .error (.duplicateIdentifier identifier first second)) ↔
      (∀ position < types.length, isCancelledAt position = false) ∧
        Batch.Clashes settings types := by
  constructor
  · rintro ⟨identifier, first, second, reported⟩
    rcases generateAll_cases settings isCancelledAt types with
      cancelled | ⟨running, distinct | ⟨_, _, _, clash⟩⟩
    · rw [generateAll_of_cancelled cancelled] at reported
      cases reported
    · rw [generateAll_of_running running, Batch.collect_of_distinct distinct] at reported
      cases reported
    · exact ⟨running, clash.clashes⟩
  · rintro ⟨running, clashes⟩
    rcases generateAll_cases settings isCancelledAt types with
      ⟨position, bound, cancelled⟩ | ⟨_, distinct | ⟨identifier, first, second, clash⟩⟩
    · rw [running position bound] at cancelled
      cases cancelled
    · exact absurd clashes (Batch.not_clashes_of_distinct distinct)
    · exact ⟨identifier, _, _, by rw [generateAll_of_running running, Batch.collect_of_clash clash]⟩

end

/-! ## The types of manifests -/

theorem Manifest.legal_levels {manifest : Manifest} {types : List TypeDecl}
    (accepted : manifest.declarations = .ok types) :
    ∀ type ∈ types, ∀ level ∈ type.address.levels, level.Legal := by
  intro type mem
  obtain ⟨entry, _, declares⟩ :=
    exists_left_of_forall₂ (Manifest.declarations_eq_ok.mp accepted) mem
  exact declares.legal

/-- Unit identifiers tell the types of manifests apart: they are equal just for types under one name
at one place, and so never for a nested type and one that is not. The units of a manifest clash just
if two of its types with units are of that kind. -/
theorem Manifest.unit_identifiers_injective {manifest manifest' : Manifest}
    {types types' : List TypeDecl} (accepted : manifest.declarations = .ok types)
    (accepted' : manifest'.declarations = .ok types') :
    (∀ type ∈ types, ∀ type' ∈ types', ∀ options,
      type.unitIdentifier options = type'.unitIdentifier options ↔ type.SamePlace type') ∧
    (∀ type ∈ types, ∀ type' ∈ types', type.enclosing ≠ [] → type'.enclosing = [] →
      ∀ options, type.unitIdentifier options ≠ type'.unitIdentifier options) ∧
    ∀ settings isCancelledAt,
      (∃ identifier first second, generateAll settings isCancelledAt types =
          .error (.duplicateIdentifier identifier first second)) ↔
        (∀ position < types.length, isCancelledAt position = false) ∧
          ∃ (i j : Nat) (first second : TypeDecl), i < j ∧
            types[i]? = some first ∧ types[j]? = some second ∧
            first.unit? settings.tuples settings.options ≠ none ∧
            second.unit? settings.tuples settings.options ≠ none ∧ first.SamePlace second := by
  have legal := Manifest.legal_levels accepted
  have legal' := Manifest.legal_levels accepted'
  refine ⟨?same, ?nested, ?clash⟩
  case same =>
    intro type mem type' mem' options
    exact TypeDecl.unitIdentifier_eq_iff (legal type mem) (legal' type' mem') options
  case nested =>
    intro type mem type' mem' nested flat options same
    have place := (TypeDecl.unitIdentifier_eq_iff (legal type mem) (legal' type' mem') options).mp
      same
    have none := place.enclosing
    rw [flat, List.map_nil, List.map_eq_nil_iff] at none
    exact nested none
  case clash =>
    intro settings isCancelledAt
    rw [generateAll_reports_iff]
    refine and_congr_right fun _ => ?_
    constructor
    · rintro ⟨i, j, first, second, before, found, found', identifier, named, named'⟩
      rw [TypeDecl.unitName?_eq_some] at named named'
      have place := (TypeDecl.unitIdentifier_eq_iff (legal first (List.mem_of_getElem? found))
        (legal second (List.mem_of_getElem? found')) settings.options).mp
          (named.2.trans named'.2.symm)
      exact ⟨i, j, first, second, before, found, found', named.1, named'.1, place⟩
    · rintro ⟨i, j, first, second, before, found, found', some, some', place⟩
      have same := (TypeDecl.unitIdentifier_eq_iff (legal first (List.mem_of_getElem? found))
        (legal second (List.mem_of_getElem? found')) settings.options).mpr place
      exact ⟨i, j, first, second, before, found, found', _,
        TypeDecl.unitName?_eq_some.mpr ⟨some, rfl⟩,
        TypeDecl.unitName?_eq_some.mpr ⟨some', same.symm⟩⟩

/-! ## A nested type and one in a namespace of the same spelling -/

/-- A type made from a number, in a namespace or within other types. -/
def innerDecl (namespacePath : Option String) (enclosing : List EnclosingType) : TypeDecl :=
  { numbered "Inner" with namespacePath, enclosing }

/-- The entry for such a type. -/
def innerEntry (namespacePath : Option String) (enclosing : List EnclosingEntry) : TypeEntry :=
  { name := "Inner", namespacePath, enclosing
    constructors := [{ parameters := [{ name := "i", type := "int" }] }] }

/-- All three types have one identity, but only the last two have one unit identifier. -/
theorem unit_identifiers_inner :
    let nested := innerDecl none [{ name := "Outer" }]
    let namespaced := innerDecl (some "Outer") []
    Manifest.declarations { types := [innerEntry none [{ name := "Outer" }],
        innerEntry (some "Outer") [], innerEntry (some "Outer") []] } =
      .ok [nested, namespaced, namespaced] ∧
    nested.identity = namespaced.identity ∧
    (∀ options, nested.unitIdentifier options ≠ namespaced.unitIdentifier options) ∧
    ∃ identifier first second, generateAll {} (fun _ => false) [nested, namespaced, namespaced] =
      .error (.duplicateIdentifier identifier first second) := by
  intro nested namespaced
  have accepted : Manifest.declarations { types := [innerEntry none [{ name := "Outer" }],
      innerEntry (some "Outer") [], innerEntry (some "Outer") []] } =
        .ok [nested, namespaced, namespaced] := by
    with_unfolding_all rfl
  obtain ⟨-, apart, clash⟩ := Manifest.unit_identifiers_injective accepted accepted
  have produced : namespaced.unit? .native {} ≠ none := by decide +kernel
  refine ⟨accepted, by decide +kernel, ?_, ?_⟩
  · exact apart nested (by simp) namespaced (by simp) (by simp [nested, innerDecl]) rfl
  · exact (clash {} _).mpr ⟨fun _ _ => rfl, 1, 2, namespaced, namespaced, by decide, rfl, rfl,
      produced, produced, ⟨rfl, rfl, rfl, rfl⟩⟩

end ConversionSynthesis
