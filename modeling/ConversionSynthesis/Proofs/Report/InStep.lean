import ConversionSynthesis.Proofs.Report.Agreement
import ConversionSynthesis.Proofs.SideBySide

/-! # Reports in step

Two types are judged in step if their candidates stand at the same positions with the same
verdicts, and their other constructors fail at the same positions. Their reports then go together
record by record, and how two records compare is known from what the candidates and the reasons
have in common.
-/

namespace ConversionSynthesis

namespace TypeDecl

variable {type type' : TypeDecl} {tuples tuples' : TupleSupport}

theorem length_constructors_explain (accepted : type.rejection? = none) :
    (type.explain tuples).constructors.length = type.constructors.length := by
  have indices : (type.explain tuples).constructors.map (·.index) = _ := map_index_explain accepted
  have lengths := congrArg List.length indices
  rwa [List.length_map, List.length_range] at lengths

theorem index_of_getElem?_explain (accepted : type.rejection? = none) {place : Nat}
    {entry : ConstructorReport}
    (found : (type.explain tuples).constructors[place]? = some entry) : entry.index = place := by
  have indices : (type.explain tuples).constructors.map (·.index) = _ := map_index_explain accepted
  have listed := congrArg (·[place]?) indices
  simp only [List.getElem?_map, found, Option.map_some] at listed
  obtain ⟨bound, same⟩ := List.getElem?_eq_some_iff.mp listed.symm
  rw [← same, List.getElem_range]

/-- Reports of types that are judged in step, record by record; `related` says at each position how
the outcomes compare. -/
theorem forall₂_constructors_explain (related : Nat → Outcome → Outcome → Prop)
    (accepted : type.rejection? = none) (accepted' : type'.rejection? = none)
    (lengths : type'.constructors.length = type.constructors.length)
    (reasons : ∀ place c reason, type.constructors[place]? = some c →
      type.ineligibility? c tuples = some reason →
        ∃ c' reason', type'.constructors[place]? = some c' ∧
          type'.ineligibility? c' tuples' = some reason' ∧
          related place (.ineligible reason) (.ineligible reason'))
    (candidates : List.Forall₂ (fun x x' => x'.index = x.index ∧ ∀ indices verdict,
        related x.index (.ofVerdict indices x verdict) (.ofVerdict indices x' verdict))
      (type.candidates tuples) (type'.candidates tuples'))
    (judged : verdicts tuples' type'.conversions (type'.candidates tuples') =
      verdicts tuples type.conversions (type.candidates tuples)) :
    List.Forall₂ (fun entry entry' => entry'.index = entry.index ∧
        related entry.index entry.outcome entry'.outcome)
      (type.explain tuples).constructors (type'.explain tuples').constructors := by
  have indices : (type'.candidates tuples').map (·.index) =
      (type.candidates tuples).map (·.index) :=
    map_eq_of_forall₂ candidates fun _ _ pair => pair.1
  refine List.forall₂_iff_get.mpr ⟨?_, fun place bound bound' => ?_⟩
  · rw [length_constructors_explain accepted, length_constructors_explain accepted', lengths]
  · simp only [List.get_eq_getElem]
    have position := index_of_getElem?_explain accepted (List.getElem?_eq_getElem bound)
    have position' := index_of_getElem?_explain accepted' (List.getElem?_eq_getElem bound')
    have slot' := (mem_constructors_explain accepted').mp (List.getElem_mem bound')
    refine ⟨position'.trans position.symm, ?_⟩
    rcases explain_cases accepted (List.getElem_mem bound) with
      ⟨c, reason, found, ineligible, outcome⟩ | ⟨p, x, verdict, at_p, index, verdict_at, outcome⟩
    · obtain ⟨c', reason', found', ineligible', likeReasons⟩ :=
        reasons _ c reason found ineligible
      have filled := getElem?_outcomeSlots_of_ineligible found' ineligible'
      rw [position, ← position', slot', Option.some.injEq, Option.some.injEq] at filled
      rwa [outcome, filled]
    · obtain ⟨x', at_p', sameIndex, likeOutcomes⟩ := exists_getElem?_of_forall₂ candidates at_p
      have mem' : (x', verdict) ∈ type'.judged tuples' :=
        mem_judged.mpr ⟨p, at_p', judged ▸ verdict_at⟩
      have filled := getElem?_outcomeSlots_of_judged mem'
      rw [sameIndex, index, position, ← position', slot', Option.some.injEq, Option.some.injEq,
        indices] at filled
      rw [outcome, filled, ← index]
      exact likeOutcomes _ verdict

end TypeDecl

end ConversionSynthesis
