import ConversionSynthesis.Delivery.Store
import ConversionSynthesis.Proofs.Batch.Identifiers

/-! # What a sink is offered

Units are offered to a sink one by one, in order, until it refuses one or there are no more. A sink
is any way to answer that may depend on what it went through; it is offered nothing of a batch that
fails. The units of a manifest are distinct and have the names of files, so a store takes in all of
them.
-/

namespace ConversionSynthesis

section

variable {σ : Type}

/-- The sink takes in all of these units in order, and comes from one state to another. -/
inductive TakesIn (sink : Sink (StateM σ)) : List GeneratedUnit → σ → σ → Prop
  | nil (state : σ) : TakesIn sink [] state state
  | cons {unit : GeneratedUnit} {rest : List GeneratedUnit} {start next final : σ} :
      sink unit start = (.ok (), next) → TakesIn sink rest next final →
        TakesIn sink (unit :: rest) start final

/-- The sink with a record of the units that it is offered. -/
def recorded (sink : Sink (StateM σ)) : Sink (StateM (List GeneratedUnit × σ)) :=
  fun unit run =>
    let answer := sink unit run.2
    (answer.1, run.1 ++ [unit], answer.2)

variable {sink : Sink (StateM σ)} {units front back : List GeneratedUnit} {unit : GeneratedUnit}
  {start state final : σ} {error : SinkError}

/-! ## Runs of a sink -/

theorem deliver_nil (sink : Sink (StateM σ)) (start : σ) :
    deliver sink [] start = (.ok (), start) := rfl

theorem deliver_cons_of_ok (taken : sink unit start = (.ok (), state))
    (rest : List GeneratedUnit) : deliver sink (unit :: rest) start = deliver sink rest state := by
  simp [deliver, bind, StateT.bind, taken]

theorem deliver_cons_of_error (refused : sink unit start = (.error error, state))
    (rest : List GeneratedUnit) : deliver sink (unit :: rest) start = (.error error, state) := by
  simp only [deliver, bind, StateT.bind, refused]
  rfl

theorem TakesIn.deliver_append (taken : TakesIn sink front start state)
    (back : List GeneratedUnit) : deliver sink (front ++ back) start = deliver sink back state := by
  induction taken with
  | nil state => rfl
  | cons first _ ih => rw [List.cons_append, deliver_cons_of_ok first, ih]

theorem TakesIn.deliver_eq (taken : TakesIn sink units start final) :
    deliver sink units start = (.ok (), final) := by
  rw [← List.append_nil units, taken.deliver_append, deliver_nil]

theorem TakesIn.deliver_refused (taken : TakesIn sink front start state)
    (refused : sink unit state = (.error error, final)) (back : List GeneratedUnit) :
    deliver sink (front ++ unit :: back) start = (.error error, final) := by
  rw [taken.deliver_append, deliver_cons_of_error refused]

/-- A sink that takes in all units refuses none of them. -/
theorem TakesIn.not_refused (taken : TakesIn sink (front ++ unit :: back) start final)
    {last : σ} (before : TakesIn sink front start state) :
    sink unit state ≠ (.error error, last) := by
  intro refused
  have answers := taken.deliver_eq.symm.trans (before.deliver_refused refused back)
  cases answers

/-- What a sink refuses with is known from the units. -/
theorem TakesIn.refusal_unique (taken : TakesIn sink front start state)
    (refused : sink unit state = (.error error, final)) {front' back' : List GeneratedUnit}
    {unit' : GeneratedUnit} {state' final' : σ} {error' : SinkError}
    (taken' : TakesIn sink front' start state')
    (refused' : sink unit' state' = (.error error', final'))
    (same : front ++ unit :: back = front' ++ unit' :: back') : error' = error := by
  have answers := taken.deliver_refused refused back
  rw [same, taken'.deliver_refused refused' back'] at answers
  cases answers
  rfl

/-- A sink takes in all units, or refuses one behind those that it takes in. -/
theorem takesIn_or_refuses (sink : Sink (StateM σ)) (units : List GeneratedUnit) (start : σ) :
    (∃ final, TakesIn sink units start final) ∨
      ∃ front unit back state error final, units = front ++ unit :: back ∧
        TakesIn sink front start state ∧ sink unit state = (.error error, final) := by
  induction units generalizing start with
  | nil => exact .inl ⟨start, .nil start⟩
  | cons unit rest ih =>
      match answered : sink unit start with
      | (.error error, next) =>
          exact .inr ⟨[], unit, rest, start, error, next, rfl, .nil start, answered⟩
      | (.ok (), next) =>
          rcases ih next with ⟨final, taken⟩ |
            ⟨front, refusedUnit, back, state, error, final, rfl, taken, refused⟩
          · exact .inl ⟨final, .cons answered taken⟩
          · exact .inr ⟨unit :: front, refusedUnit, back, state, error, final, rfl,
              .cons answered taken, refused⟩

theorem takesIn_recorded (taken : TakesIn sink units start final)
    (offered : List GeneratedUnit) :
    TakesIn (recorded sink) units (offered, start) (offered ++ units, final) := by
  induction taken generalizing offered with
  | nil state =>
      rw [List.append_nil]
      exact .nil _
  | @cons unit rest start next final first _ ih =>
      have later := ih (offered ++ [unit])
      rw [List.append_assoc, List.singleton_append] at later
      refine .cons ?_ later
      simp [recorded, first]

theorem recorded_of_refused (refused : sink unit state = (.error error, final))
    (offered : List GeneratedUnit) :
    recorded sink unit (offered, state) = (.error error, offered ++ [unit], final) := by
  simp [recorded, refused]

/-! ## Delivery of a batch -/

variable {settings : BatchSettings} {isCancelledAt : Nat → Bool} {types : List TypeDecl}

theorem generateInto_of_error {cause : BatchError}
    (failed : generateAll settings isCancelledAt types = .error cause) (sink : Sink (StateM σ))
    (start : σ) :
    generateInto settings isCancelledAt types sink start = (.error (.batch cause), start) := by
  rw [generateInto, failed]
  rfl

theorem generateInto_of_taken (generated : generateAll settings isCancelledAt types = .ok units)
    (taken : TakesIn sink units start final) :
    generateInto settings isCancelledAt types sink start = (.ok units.length, final) := by
  simp only [generateInto, generated, bind, StateT.bind, taken.deliver_eq]
  rfl

theorem generateInto_of_refused
    (generated : generateAll settings isCancelledAt types = .ok (front ++ unit :: back))
    (taken : TakesIn sink front start state)
    (refused : sink unit state = (.error error, final)) :
    generateInto settings isCancelledAt types sink start = (.error (.sink error), final) := by
  simp only [generateInto, generated, bind, StateT.bind, taken.deliver_refused refused]
  rfl

theorem exists_ok_of_generateInto_ok {count : Nat}
    (delivered : (generateInto settings isCancelledAt types sink start).1 = .ok count) :
    ∃ units, generateAll settings isCancelledAt types = .ok units := by
  cases generated : generateAll settings isCancelledAt types with
  | error cause =>
      rw [generateInto_of_error generated] at delivered
      cases delivered
  | ok units => exact ⟨units, rfl⟩

end

/-! ## Units of a manifest in a store -/

namespace TypeDecl

variable {type : TypeDecl}

/-- A character of no identifier is in the stem of a unit identifier only to set its parts apart. -/
theorem not_mem_unitStem (legal : ∀ level ∈ type.address.levels, level.Legal) {c : Char}
    (foreign : ∀ {name : String}, Host.isIdentifier name = true → c ∉ name.toList)
    (noSign : c ∉ ['.', '+', '\x7b', ',', '\x7d']) : c ∉ type.unitStem.toList := by
  rw [List.mem_cons, not_or] at noSign
  rw [unitStem, intercalate_namespace]
  refine not_mem_intercalate (by simpa using noSign.1) ?_
  rw [List.forall_mem_append, List.forall_mem_singleton]
  refine ⟨?_, not_mem_nestedName legal foreign noSign.2⟩
  rw [Address.levels_eq_nesting, List.forall_mem_append, List.forall_mem_map] at legal
  exact fun segment mem => foreign (legal.1 segment mem).name

/-- The identifier spells the name of the type, and so holds a character that is no dot. -/
theorem exists_mem_unitIdentifier (legal : ∀ level ∈ type.address.levels, level.Legal)
    (options : UnitOptions) : ∃ c ∈ (type.unitIdentifier options).toList, c ≠ '.' := by
  have identifier : Host.isIdentifier type.name = true :=
    (legal _ type.address.own_mem_levels).name
  obtain ⟨c, rest, chars, -⟩ := isTokenName_of_isIdentifier identifier
  have inName : c ∈ type.name.toList := by simp [chars]
  have inNested : c ∈ type.nestedName.toList := by
    rw [nestedName]
    exact mem_intercalate_of_mem (List.mem_map_of_mem type.address.own_mem_nesting)
      (mem_bracketed_of_mem_name inName _)
  have inStem : c ∈ type.unitStem.toList := by
    rw [unitStem]
    exact mem_intercalate_of_mem (List.mem_append_right _ (List.mem_singleton_self _)) inNested
  refine ⟨c, by simp [unitIdentifier_eq, inStem], ?_⟩
  rintro rfl
  exact not_mem_of_isIdentifier identifier (by decide) (by decide) inName

theorem isUnitIdentifier_unitIdentifier (legal : ∀ level ∈ type.address.levels, level.Legal)
    {options : UnitOptions} (inside : ∀ c ∈ options.suffix.toList, leavesDirectory c = false) :
    isUnitIdentifier (type.unitIdentifier options) = true := by
  obtain ⟨c, mem, noDot⟩ := exists_mem_unitIdentifier legal options
  have proper : ∀ dots ∈ ["", ".", ".."], type.unitIdentifier options ≠ dots := by
    have onlyDots : ∀ dots ∈ ["", ".", ".."], ∀ d ∈ dots.toList, d = '.' := by simp
    rintro dots listed same
    exact noDot (onlyDots dots listed c (same ▸ mem))
  have within : ∀ d ∈ (type.unitIdentifier options).toList, leavesDirectory d = false := by
    rw [unitIdentifier_eq, String.toList_append, List.forall_mem_append]
    refine ⟨fun d inStem => ?_, inside⟩
    rw [← Bool.not_eq_true]
    intro leaves
    have known : d = '/' ∨ d = '\\' ∨ d = '\x00' := by
      simpa [leavesDirectory, or_assoc] using leaves
    refine not_mem_unitStem legal (fun identifier => ?_) ?_ inStem
    · rcases known with rfl | rfl | rfl <;>
        exact not_mem_of_isIdentifier identifier (by decide) (by decide)
    · rcases known with rfl | rfl | rfl <;> decide
  simp only [List.forall_mem_cons] at proper
  simpa [isUnitIdentifier, proper] using within

end TypeDecl

/-- Units with the names of files, that are new and distinct, are all stored. -/
theorem takesIn_store {store : UnitStore} {units : List GeneratedUnit}
    (named : ∀ unit ∈ units, isUnitIdentifier unit.identifier = true)
    (distinct : ((store.units ++ units).map (·.identifier)).Nodup) :
    TakesIn UnitStore.sink units store ⟨store.units ++ units⟩ := by
  induction units generalizing store with
  | nil =>
      rw [List.append_nil]
      exact .nil store
  | cons unit rest ih =>
      rw [List.forall_mem_cons] at named
      have fresh : store.holds unit.identifier = false := by
        rw [List.map_append, List.map_cons, List.nodup_append] at distinct
        rw [UnitStore.holds, List.any_eq_false]
        intro stored mem same
        exact distinct.2.2 _ (List.mem_map_of_mem mem) _ List.mem_cons_self (beq_iff_eq.mp same)
      have first : UnitStore.sink unit store = (.ok (), store.push unit) := by
        simp [UnitStore.sink, named.1, fresh]
      have later : TakesIn UnitStore.sink rest (store.push unit) _ :=
        ih named.2 (by simpa using distinct)
      rw [UnitStore.units_push, List.append_assoc, List.singleton_append] at later
      exact .cons first later

theorem isUnitIdentifier_of_generated {manifest : Manifest} {types : List TypeDecl}
    (accepted : manifest.declarations = .ok types) {settings : BatchSettings}
    (inside : ∀ c ∈ settings.options.suffix.toList, leavesDirectory c = false)
    {isCancelledAt : Nat → Bool} {units : List GeneratedUnit}
    (generated : generateAll settings isCancelledAt types = .ok units) :
    ∀ unit ∈ units, isUnitIdentifier unit.identifier = true := by
  intro unit mem
  obtain ⟨-, rfl, -⟩ := generateAll_eq_ok.mp generated
  obtain ⟨type, listed, made⟩ := List.mem_filterMap.mp mem
  have named : type.unitName? settings.tuples settings.options = some unit.identifier := by
    rw [TypeDecl.unitName?, made, Option.map_some]
  rw [← (TypeDecl.unitName?_eq_some.mp named).2]
  exact TypeDecl.isUnitIdentifier_unitIdentifier (Manifest.legal_levels accepted type listed) inside

theorem takesIn_store_of_generated {manifest : Manifest} {types : List TypeDecl}
    (accepted : manifest.declarations = .ok types) {settings : BatchSettings}
    (inside : ∀ c ∈ settings.options.suffix.toList, leavesDirectory c = false)
    {isCancelledAt : Nat → Bool} {units : List GeneratedUnit}
    (generated : generateAll settings isCancelledAt types = .ok units) :
    TakesIn UnitStore.sink units {} ⟨units⟩ :=
  takesIn_store (isUnitIdentifier_of_generated accepted inside generated)
    (generateAll_eq_ok.mp generated).2.2

/-- A sink is offered nothing of a batch that fails, and else the units in order up to and including
the first that it refuses; the result is the number of units, or what the batch or the sink failed
with. The units of a manifest, with a suffix that leads to no other directory, are all stored. -/
theorem generateInto_offers (settings : BatchSettings) (isCancelledAt : Nat → Bool)
    (types : List TypeDecl) :
    (∀ {σ : Type} (sink : Sink (StateM σ)) (start : σ),
      let run := generateInto settings isCancelledAt types (recorded sink) ([], start)
      let answer := run.1
      let offered := run.2.1
      let final := run.2.2
      generateInto settings isCancelledAt types sink start = (answer, final) ∧
      (∀ cause, generateAll settings isCancelledAt types = .error cause →
        answer = .error (.batch cause) ∧ offered = [] ∧ final = start) ∧
      ∀ units, generateAll settings isCancelledAt types = .ok units →
        (∀ count, answer = .ok count ↔
          count = units.length ∧ offered = units ∧ TakesIn sink units start final) ∧
        (∀ failure, answer = .error failure ↔
          ∃ front unit back state cause, failure = .sink cause ∧ units = front ++ unit :: back ∧
            TakesIn sink front start state ∧ sink unit state = (.error cause, final) ∧
            offered = front ++ [unit])) ∧
    ∀ manifest, Manifest.declarations manifest = .ok types →
      (∀ c ∈ settings.options.suffix.toList, c ≠ '/' ∧ c ≠ '\\' ∧ c ≠ '\x00') →
        (∀ units, generateAll settings isCancelledAt types = .ok units →
          TakesIn UnitStore.sink units {} ⟨units⟩ ∧
            generateInto settings isCancelledAt types UnitStore.sink {} =
              (.ok units.length, ⟨units⟩)) ∧
        ((∃ count, (generateInto settings isCancelledAt types UnitStore.sink {}).1 = .ok count) ↔
          ∃ units, generateAll settings isCancelledAt types = .ok units) := by
  refine ⟨fun sink start => ?sink, fun manifest accepted inside => ?store⟩
  case sink =>
    rcases generated : generateAll settings isCancelledAt types with cause | units
    · rw [generateInto_of_error generated, generateInto_of_error generated]
      refine ⟨rfl, ?_, nofun⟩
      rintro _ ⟨⟩
      exact ⟨rfl, rfl, rfl⟩
    · rcases takesIn_or_refuses sink units start with ⟨final, taken⟩ |
        ⟨front, unit, back, state, cause, final, rfl, taken, refused⟩
      · rw [generateInto_of_taken generated taken,
          generateInto_of_taken generated (takesIn_recorded taken [])]
        refine ⟨rfl, nofun, ?_⟩
        rintro _ ⟨⟩
        refine ⟨fun count => ?_, fun failure => iff_of_false nofun ?_⟩
        · rw [Except.ok.injEq, eq_comm]
          exact (and_iff_left ⟨rfl, taken⟩).symm
        · rintro ⟨front, unit, back, state, cause, -, rfl, before, refused, -⟩
          exact taken.not_refused before refused
      · rw [generateInto_of_refused generated taken refused,
          generateInto_of_refused generated (takesIn_recorded taken [])
            (recorded_of_refused refused _)]
        refine ⟨rfl, nofun, ?_⟩
        rintro _ ⟨⟩
        refine ⟨fun count => iff_of_false nofun ?_, fun failure => ⟨?_, ?_⟩⟩
        · rintro ⟨-, -, all⟩
          exact all.not_refused taken refused
        · rintro ⟨⟩
          exact ⟨front, unit, back, state, cause, rfl, rfl, taken, refused, rfl⟩
        · rintro ⟨front', unit', back', state', cause', rfl, same, taken', refused', -⟩
          rw [taken.refusal_unique refused taken' refused' same]
  case store =>
    have kept : ∀ c ∈ settings.options.suffix.toList, leavesDirectory c = false := by
      intro c mem
      simpa [leavesDirectory, and_assoc] using inside c mem
    have stored : ∀ units, generateAll settings isCancelledAt types = .ok units →
        TakesIn UnitStore.sink units {} ⟨units⟩ :=
      fun units generated => takesIn_store_of_generated accepted kept generated
    refine ⟨fun units generated =>
      ⟨stored units generated, generateInto_of_taken generated (stored units generated)⟩,
      fun ⟨_, delivered⟩ => exists_ok_of_generateInto_ok delivered, ?_⟩
    rintro ⟨units, generated⟩
    exact ⟨units.length, by rw [generateInto_of_taken generated (stored units generated)]⟩

/-- A sink that takes in nothing. -/
def closedSink : Sink (StateM Unit) := fun unit state =>
  (.error (.unwritable unit.identifier), state)

/-- A closed sink is offered the first of two units, and a store takes in both. -/
theorem generateInto_offers_inner :
    let types := [innerDecl none [{ name := "Outer" }], innerDecl (some "Outer") []]
    ∃ first second, generateAll {} (fun _ => false) types = .ok [first, second] ∧
      (generateInto {} (fun _ => false) types (recorded closedSink) ([], ())).2.1 = [first] ∧
      Manifest.declarations { types := [innerEntry none [{ name := "Outer" }],
        innerEntry (some "Outer") []] } = .ok types ∧
      generateInto {} (fun _ => false) types UnitStore.sink {} = (.ok 2, ⟨[first, second]⟩) := by
  intro types
  obtain ⟨first, made⟩ := Option.isSome_iff_exists.mp
    (by decide +kernel : ((innerDecl none [{ name := "Outer" }]).unit? .native {}).isSome = true)
  obtain ⟨second, made'⟩ := Option.isSome_iff_exists.mp
    (by decide +kernel : ((innerDecl (some "Outer") []).unit? .native {}).isSome = true)
  have units : types.filterMap (·.unit? .native {}) = [first, second] := by
    simp [types, made, made']
  have distinct : ((types.filterMap (·.unit? .native {})).map (·.identifier)).Nodup := by
    decide +kernel
  have generated : generateAll {} (fun _ => false) types = .ok [first, second] :=
    generateAll_eq_ok.mpr ⟨fun _ _ => rfl, units.symm, units ▸ distinct⟩
  have accepted : Manifest.declarations { types := [innerEntry none [{ name := "Outer" }],
      innerEntry (some "Outer") []] } = .ok types := by
    with_unfolding_all rfl
  obtain ⟨offers, stores⟩ := generateInto_offers {} (fun _ => false) types
  refine ⟨first, second, generated, ?_, accepted,
    ((stores _ accepted (by simp)).1 _ generated).2⟩
  obtain ⟨-, -, outcome⟩ := offers closedSink ()
  obtain ⟨taken_iff, refused_iff⟩ := outcome _ generated
  cases answered : (generateInto {} (fun _ => false) types (recorded closedSink) ([], ())).1 with
  | ok count =>
      obtain ⟨-, -, taken⟩ := (taken_iff count).mp answered
      cases taken with
      | cons accepts _ => cases accepts
  | error failure =>
      obtain ⟨front, unit, back, state, cause, -, split, taken, -, offered⟩ :=
        (refused_iff failure).mp answered
      cases taken with
      | nil =>
          cases split
          exact offered
      | cons accepts _ => cases accepts

end ConversionSynthesis
