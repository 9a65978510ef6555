import Mathlib.Data.List.Induction
import ConversionSynthesis.Proofs.Batch.Generation

/-! # Units under one identifier

A batch goes through its types in order and collects their units, until one comes under an
identifier that an earlier unit has. So it gives all units, if their identifiers are distinct, or
else names the two types that clash first. Neither the workers nor the types without a unit show in
the result.
-/

namespace ConversionSynthesis

/-- A list in which some property comes twice has a first item that repeats an earlier one. -/
theorem nodup_filterMap_or_repeats {α β : Type} (property : α → Option β) (xs : List α) :
    (xs.filterMap property).Nodup ∨ ∃ before x between x' after value,
      xs = before ++ x :: between ++ x' :: after ∧ property x = some value ∧
        property x' = some value ∧ ((before ++ x :: between).filterMap property).Nodup := by
  induction xs using List.reverseRecOn with
  | nil => exact .inl List.nodup_nil
  | append_singleton xs x' ih =>
      rcases ih with distinct | ⟨before, x, between, y, after, value, rfl, clash⟩
      · cases known : property x' with
        | none =>
            left
            simpa [known] using distinct
        | some value =>
            by_cases mem : value ∈ xs.filterMap property
            · right
              have earlier : ∃ x ∈ xs, property x = some value := List.mem_filterMap.mp mem
              obtain ⟨x, x_mem, same⟩ := earlier
              have split : ∃ before between, xs = before ++ x :: between :=
                List.append_of_mem x_mem
              obtain ⟨before, between, rfl⟩ := split
              exact ⟨before, x, between, x', [], value, rfl, same, known, distinct⟩
            · left
              rw [List.filterMap_append, List.nodup_append]
              simp only [List.filterMap_cons_some known, List.filterMap_nil]
              have apart : ∀ other ∈ xs.filterMap property, ∀ last ∈ [value], other ≠ last := by
                intro other other_mem last last_mem same
                rw [List.mem_singleton.mp last_mem] at same
                exact mem (same ▸ other_mem)
              exact ⟨distinct, by simp, apart⟩
      · right
        exact ⟨before, x, between, y, after ++ [x'], value, by simp, clash⟩

/-- The identifier of the type's unit, if it has one. -/
def TypeDecl.unitName? (type : TypeDecl) (tuples : TupleSupport) (options : UnitOptions) :
    Option String :=
  (type.unit? tuples options).map (·.identifier)

namespace Batch

/-- The identifiers that collected units have claimed, each with the identity of its type. -/
def claims (entries : List (TypeDecl × Option GeneratedUnit)) : List (String × String) :=
  entries.filterMap fun entry => entry.2.map fun unit => (unit.identifier, entry.1.identity)

/-- Units with new and distinct identifiers are collected, and their identifiers claimed for what
follows. -/
theorem collect_append {claimed : List (String × String)}
    {entries rest : List (TypeDecl × Option GeneratedUnit)}
    (distinct : ((claims entries).map (·.1)).Nodup)
    (fresh : ∀ claim ∈ claims entries, claimed.lookup claim.1 = none) :
    collect claimed (entries ++ rest) =
      (collect ((claims entries).reverse ++ claimed) rest).map (entries.filterMap (·.2) ++ ·) := by
  induction entries generalizing claimed with
  | nil =>
      simp only [claims, List.filterMap_nil, List.reverse_nil, List.nil_append]
      cases collect claimed rest <;> rfl
  | cons entry entries ih =>
      obtain ⟨type, unit?⟩ := entry
      cases unit? with
      | none => exact ih distinct fresh
      | some unit =>
          have first : claims ((type, some unit) :: entries) =
              (unit.identifier, type.identity) :: claims entries := rfl
          rw [first, List.map_cons, List.nodup_cons] at distinct
          rw [first, List.forall_mem_cons] at fresh
          have later : ∀ claim ∈ claims entries,
              ((unit.identifier, type.identity) :: claimed).lookup claim.1 = none := by
            intro claim mem
            have other : claim.1 ≠ unit.identifier := by
              intro same
              exact distinct.1 (List.mem_map.mpr ⟨claim, mem, same⟩)
            rw [List.lookup_cons, beq_false_of_ne other]
            exact fresh.2 claim mem
          rw [List.cons_append, collect, fresh.1]
          simp only
          rw [ih distinct.2 later, first, List.reverse_cons, List.append_assoc,
            List.singleton_append]
          generalize collect ((claims entries).reverse ++ _) rest = collected
          cases collected <;> rfl

section

variable (tuples : TupleSupport) (options : UnitOptions)

/-- Types with the units they give. -/
def offers (types : List TypeDecl) : List (TypeDecl × Option GeneratedUnit) :=
  types.map fun type => (type, type.unit? tuples options)

theorem units_offers (types : List TypeDecl) :
    (offers tuples options types).filterMap (·.2) = types.filterMap (·.unit? tuples options) := by
  rw [offers, List.filterMap_map]
  rfl

theorem names_claims_offers (types : List TypeDecl) :
    (claims (offers tuples options types)).map (·.1) =
      types.filterMap (·.unitName? tuples options) := by
  rw [claims, offers, List.filterMap_map, List.map_filterMap]
  congr 1
  funext type
  rw [Function.comp_apply, Option.map_map]
  rfl

/-- The identifiers of units, as their types give them. -/
theorem map_identifier_units (types : List TypeDecl) :
    (types.filterMap (·.unit? tuples options)).map (·.identifier) =
      types.filterMap (·.unitName? tuples options) :=
  List.map_filterMap

/-- `second` is the first of the types whose unit has the identifier of an earlier one, and `first`
is that earlier one: no two units before the one of `second` share an identifier. -/
def FirstClash (types : List TypeDecl) (identifier : String) (first second : TypeDecl) : Prop :=
  ∃ before between after, types = before ++ first :: between ++ second :: after ∧
    first.unitName? tuples options = some identifier ∧
    second.unitName? tuples options = some identifier ∧
    ((before ++ first :: between).filterMap (·.unitName? tuples options)).Nodup

variable {tuples options} {types : List TypeDecl}

theorem collect_of_distinct
    (distinct : (types.filterMap (·.unitName? tuples options)).Nodup) :
    collect [] (offers tuples options types) =
      .ok (types.filterMap (·.unit? tuples options)) := by
  rw [← names_claims_offers] at distinct
  have collected : collect [] (offers tuples options types ++ []) = _ :=
    collect_append distinct fun _ _ => rfl
  rw [List.append_nil, units_offers] at collected
  rw [collected, collect, Except.map, List.append_nil]

/-- What is claimed under an identifier, when no other claim behind it has the identifier. -/
theorem lookup_claims {before between : List (TypeDecl × Option GeneratedUnit)} {type : TypeDecl}
    {unit : GeneratedUnit}
    (distinct : ((claims (before ++ (type, some unit) :: between)).map (·.1)).Nodup) :
    (claims (before ++ (type, some unit) :: between)).reverse.lookup unit.identifier =
      some type.identity := by
  have split : claims (before ++ (type, some unit) :: between) =
      claims before ++ (unit.identifier, type.identity) :: claims between := by
    simp [claims]
  rw [split, List.map_append, List.map_cons, List.nodup_append, List.nodup_cons] at distinct
  have behind : ∀ claim ∈ (claims between).reverse, (unit.identifier != claim.1) = true := by
    intro claim mem
    rw [bne_iff_ne]
    intro same
    exact distinct.2.1.1 (List.mem_map.mpr ⟨claim, List.mem_reverse.mp mem, same.symm⟩)
  rw [split, List.lookup_eq_some_iff]
  exact ⟨(claims between).reverse, (claims before).reverse, by simp, behind⟩

theorem collect_of_clash {identifier : String} {first second : TypeDecl}
    (clash : FirstClash tuples options types identifier first second) :
    collect [] (offers tuples options types) =
      .error (.duplicateIdentifier identifier first.identity second.identity) := by
  obtain ⟨before, between, after, rfl, ofFirst, ofSecond, distinct⟩ := clash
  have firstUnit : ∃ unit, first.unit? tuples options = some unit ∧ unit.identifier = identifier :=
    Option.map_eq_some_iff.mp ofFirst
  have secondUnit : ∃ unit, second.unit? tuples options = some unit ∧
      unit.identifier = identifier := Option.map_eq_some_iff.mp ofSecond
  obtain ⟨unit, given, rfl⟩ := firstUnit
  obtain ⟨unit', given', same⟩ := secondUnit
  rw [← names_claims_offers] at distinct
  have split : offers tuples options (before ++ first :: between ++ second :: after) =
      offers tuples options (before ++ first :: between) ++
        (second, some unit') :: offers tuples options after := by
    simp [offers, given']
  have clean : offers tuples options (before ++ first :: between) =
      offers tuples options before ++ (first, some unit) :: offers tuples options between := by
    simp [offers, given]
  have claimed := lookup_claims (clean ▸ distinct)
  rw [split, collect_append distinct fun _ _ => rfl, List.append_nil, clean, collect, same, claimed]
  rfl

end

end Batch

section

open Batch

variable {settings : BatchSettings} {isCancelledAt : Nat → Bool} {types : List TypeDecl}

theorem generateAll_of_running
    (running : ∀ position < types.length, isCancelledAt position = false) :
    generateAll settings isCancelledAt types =
      collect [] (offers settings.tuples settings.options types) := by
  rw [generateAll_eq, if_neg]
  · rfl
  · simpa using running

theorem generateAll_of_cancelled
    (cancelled : ∃ position < types.length, isCancelledAt position = true) :
    generateAll settings isCancelledAt types = .error .cancelled := by
  rw [generateAll_eq, if_pos]
  simpa using cancelled

/-- A batch is cancelled, gives all its units, or finds a first clash. -/
theorem generateAll_cases (settings : BatchSettings) (isCancelledAt : Nat → Bool)
    (types : List TypeDecl) :
    (∃ position < types.length, isCancelledAt position = true) ∨
      (∀ position < types.length, isCancelledAt position = false) ∧
        ((types.filterMap (·.unitName? settings.tuples settings.options)).Nodup ∨
          ∃ identifier first second,
            FirstClash settings.tuples settings.options types identifier first second) := by
  by_cases cancelled : ∃ position < types.length, isCancelledAt position = true
  · exact .inl cancelled
  · right
    have running : ∀ position < types.length, isCancelledAt position = false := by
      simpa using cancelled
    have found := nodup_filterMap_or_repeats
      (fun type : TypeDecl => type.unitName? settings.tuples settings.options) types
    rcases found with distinct | ⟨before, first, between, second, after, identifier, clash⟩
    · exact ⟨running, .inl distinct⟩
    · exact ⟨running, .inr ⟨identifier, first, second, before, between, after, clash⟩⟩

theorem generateAll_eq_ok {units : List GeneratedUnit} :
    generateAll settings isCancelledAt types = .ok units ↔
      (∀ position < types.length, isCancelledAt position = false) ∧
        units = types.filterMap (·.unit? settings.tuples settings.options) ∧
        (units.map (·.identifier)).Nodup := by
  constructor
  · intro generated
    rcases generateAll_cases settings isCancelledAt types with
      cancelled | ⟨running, distinct | ⟨identifier, first, second, clash⟩⟩
    · rw [generateAll_of_cancelled cancelled] at generated
      cases generated
    · rw [generateAll_of_running running, collect_of_distinct distinct] at generated
      cases generated
      rw [map_identifier_units]
      exact ⟨running, rfl, distinct⟩
    · rw [generateAll_of_running running, collect_of_clash clash] at generated
      cases generated
  · rintro ⟨running, rfl, distinct⟩
    rw [map_identifier_units] at distinct
    rw [generateAll_of_running running, collect_of_distinct distinct]

/-- A batch is cancelled just if a worker finds it so at one of its types. Else it gives the units
of its types, in order, just if their identifiers are distinct, and else names the first type whose
unit has the identifier of an earlier one, behind the earliest type that has it. The workers and
their number are irrelevant. -/
theorem generateAll_sequential (settings : BatchSettings) (isCancelledAt : Nat → Bool)
    (types : List TypeDecl) :
    (generateAll settings isCancelledAt types = .error .cancelled ↔
      ∃ position < types.length, isCancelledAt position = true) ∧
    (∀ units, generateAll settings isCancelledAt types = .ok units ↔
      (∀ position < types.length, isCancelledAt position = false) ∧
        units = types.filterMap (·.unit? settings.tuples settings.options) ∧
        (units.map (·.identifier)).Nodup) ∧
    (∀ identifier first second,
      generateAll settings isCancelledAt types =
          .error (.duplicateIdentifier identifier first second) ↔
        (∀ position < types.length, isCancelledAt position = false) ∧
          ∃ earlier later, earlier.identity = first ∧ later.identity = second ∧
            FirstClash settings.tuples settings.options types identifier earlier later) ∧
    ∀ workers pool, generateAll { settings with workers, pool } isCancelledAt types =
      generateAll settings isCancelledAt types := by
  refine ⟨?cancelled, fun units => generateAll_eq_ok, ?clash, ?workers⟩
  case cancelled =>
    constructor
    · intro generated
      rcases generateAll_cases settings isCancelledAt types with
        cancelled | ⟨running, distinct | ⟨identifier, first, second, clash⟩⟩
      · exact cancelled
      · rw [generateAll_of_running running, collect_of_distinct distinct] at generated
        cases generated
      · rw [generateAll_of_running running, collect_of_clash clash] at generated
        cases generated
    · exact generateAll_of_cancelled
  case clash =>
    intro identifier first second
    constructor
    · intro generated
      rcases generateAll_cases settings isCancelledAt types with
        cancelled | ⟨running, distinct | ⟨found, earlier, later, clash⟩⟩
      · rw [generateAll_of_cancelled cancelled] at generated
        cases generated
      · rw [generateAll_of_running running, collect_of_distinct distinct] at generated
        cases generated
      · rw [generateAll_of_running running, collect_of_clash clash] at generated
        cases generated
        exact ⟨running, earlier, later, rfl, rfl, clash⟩
    · rintro ⟨running, earlier, later, rfl, rfl, clash⟩
      rw [generateAll_of_running running, collect_of_clash clash]
  case workers =>
    intro workers pool
    rw [generateAll_eq, generateAll_eq]

/-- A type made from a number. -/
def numbered (name : String) : TypeDecl :=
  { name
    constructors := [{ parameters := [⟨"i", .named "System.Int32" "int" .concrete⟩] }] }

/-- The second type gives no unit, so the types that clash are the first and the fourth. -/
theorem generateAll_numbered :
    generateAll { workers := some 3 } (fun _ => false)
        [numbered "Account", { name := "Empty" }, numbered "Ledger", numbered "Account"] =
      .error (.duplicateIdentifier "Account.g.cs" "Account" "Account") := by
  have clash : FirstClash .native {}
      [numbered "Account", { name := "Empty" }, numbered "Ledger", numbered "Account"]
      "Account.g.cs" (numbered "Account") (numbered "Account") :=
    ⟨[], [{ name := "Empty" }, numbered "Ledger"], [], rfl, by decide +kernel, by decide +kernel,
      by decide +kernel⟩
  have identity : (numbered "Account").identity = "Account" := by decide +kernel
  exact ((generateAll_sequential _ _ _).2.2.1 _ _ _).mpr
    ⟨fun _ _ => rfl, _, _, identity, identity, clash⟩

end

end ConversionSynthesis
