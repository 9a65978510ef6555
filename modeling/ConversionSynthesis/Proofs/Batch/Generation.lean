import ConversionSynthesis.Batch
import ConversionSynthesis.Proofs.Report.Decisions
import ConversionSynthesis.Proofs.Sequence

/-! # What a batch gives

The workers do not show in the result: a batch is cancelled if one of them finds it so at any type,
and else collects the units in the order of the types. Which identifiers it collects, or which two
types clash, depends on the identities of the types and the identifiers of their units.
-/

namespace ConversionSynthesis

namespace Batch

theorem attempt_eq_error_iff {settings : BatchSettings} {isCancelledAt : Nat → Bool}
    {entry : TypeDecl × Nat} {error : BatchError} :
    attempt settings isCancelledAt entry = .error error ↔
      isCancelledAt entry.2 = true ∧ error = .cancelled := by
  unfold attempt
  split
  · next cancelled => simp [cancelled, eq_comm]
  · next running => simp [running]

theorem map_attempt_of_running {settings : BatchSettings} {isCancelledAt : Nat → Bool}
    {types : List TypeDecl}
    (running : ∀ position < types.length, ¬ isCancelledAt position = true) :
    types.zipIdx.map (attempt settings isCancelledAt) =
      (types.map (·.unit? settings.tuples settings.options)).map .ok := by
  have each : ∀ entry ∈ types.zipIdx, attempt settings isCancelledAt entry =
      .ok (entry.1.unit? settings.tuples settings.options) := fun entry mem =>
    if_neg (running entry.2 (List.snd_lt_of_mem_zipIdx mem))
  rw [List.map_congr_left each, List.map_map]
  have firsts := congrArg (List.map fun type : TypeDecl =>
    (Except.ok (type.unit? settings.tuples settings.options) : Except BatchError _))
      (List.zipIdx_map_fst 0 types)
  rwa [List.map_map] at firsts

/-- What types give is known without the workers: all errors are one. -/
theorem attempts_eq (settings : BatchSettings) (isCancelledAt : Nat → Bool)
    (types : List TypeDecl) :
    attempts settings isCancelledAt types =
      if (List.range types.length).any isCancelledAt then .error .cancelled
      else .ok (types.map (·.unit? settings.tuples settings.options)) := by
  rw [attempts]
  split
  · next cancelled =>
      obtain ⟨position, bound, found⟩ := List.any_eq_true.mp cancelled
      rw [List.mem_range] at bound
      have failing : ∃ entry ∈ types.zipIdx, ∃ error,
          attempt settings isCancelledAt entry = .error error :=
        ⟨(types[position], position), List.mk_mem_zipIdx_iff_getElem?.mpr (by simp [bound]),
          .cancelled, attempt_eq_error_iff.mpr ⟨found, rfl⟩⟩
      obtain ⟨entry, -, error, failed, reported⟩ :=
        (settings.pool settings.workers).reportsError failing
      rw [reported, (attempt_eq_error_iff.mp failed).2]
  · next running =>
      refine (settings.pool settings.workers).keepsOrder (map_attempt_of_running ?_)
      exact fun position bound cancelled =>
        running (List.any_eq_true.mpr ⟨position, List.mem_range.mpr bound, cancelled⟩)

end Batch

theorem generateAll_eq (settings : BatchSettings) (isCancelledAt : Nat → Bool)
    (types : List TypeDecl) :
    generateAll settings isCancelledAt types =
      if (List.range types.length).any isCancelledAt then .error .cancelled
      else Batch.collect []
        (types.map fun type => (type, type.unit? settings.tuples settings.options)) := by
  rw [generateAll, Batch.attempts_eq]
  by_cases cancelled : (List.range types.length).any isCancelledAt = true
  · rw [if_pos cancelled, if_pos cancelled]
  · rw [if_neg cancelled, if_neg cancelled]
    have paired : types.zip (types.map (·.unit? settings.tuples settings.options)) =
        types.map fun type => (type, type.unit? settings.tuples settings.options) := by
      simpa using List.zip_map' (f := id) (l := types)
    exact congrArg (Batch.collect []) paired

namespace Batch

/-- Types of one identity with units under one identifier, if any. -/
def SameIdentifier (entry entry' : TypeDecl × Option GeneratedUnit) : Prop :=
  entry'.1.identity = entry.1.identity ∧
    entry'.2.map (·.identifier) = entry.2.map (·.identifier)

theorem identifiers_collect {entries entries' : List (TypeDecl × Option GeneratedUnit)}
    (same : List.Forall₂ SameIdentifier entries entries') (claimed : List (String × String)) :
    (collect claimed entries').map (List.map (·.identifier)) =
      (collect claimed entries).map (List.map (·.identifier)) := by
  induction same generalizing claimed with
  | nil => rfl
  | @cons entry entry' _ _ first _ ih =>
      obtain ⟨type, unit?⟩ := entry
      obtain ⟨type', unit?'⟩ := entry'
      obtain ⟨identity, identifier⟩ := first
      match unit?, unit?' with
      | none, none => exact ih claimed
      | none, some _ => cases identifier
      | some _, none => cases identifier
      | some unit, some unit' =>
          have identifier : unit'.identifier = unit.identifier := Option.some.inj identifier
          have identity : type'.identity = type.identity := identity
          simp only [collect, identifier, identity]
          split
          · rfl
          · have later := ih ((unit.identifier, type.identity) :: claimed)
            revert later
            cases collect ((unit.identifier, type.identity) :: claimed) _ <;>
              cases collect ((unit.identifier, type.identity) :: claimed) _ <;>
              simp_all [Except.map]

end Batch

/-- Batches of like types fail alike, or give units under the same identifiers. -/
theorem identifiers_generateAll {types types' : List TypeDecl}
    (like : List.Forall₂ (TypeDecl.Alike HostType.SameEssence) types types')
    (settings : BatchSettings) (isCancelledAt : Nat → Bool) :
    (generateAll settings isCancelledAt types').map (List.map (·.identifier)) =
      (generateAll settings isCancelledAt types).map (List.map (·.identifier)) := by
  rw [generateAll_eq, generateAll_eq, like.length_eq]
  split
  · rfl
  · refine Batch.identifiers_collect ?_ []
    rw [List.forall₂_map_left_iff, List.forall₂_map_right_iff]
    exact like.imp fun _ _ pair => ⟨pair.identity_eq, pair.identifier_unit? _ _⟩

end ConversionSynthesis
