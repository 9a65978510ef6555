import ConversionSynthesis.Report
import ConversionSynthesis.Proofs.Candidate.Emission

/-! # The outcomes of a report

A report is filled in by position: reasons against constructors first, verdicts on candidates over
them. Candidates and ineligible constructors share no position and leave none out, so that the
report has one record for every constructor, and what the record says is known from the verdict.
-/

namespace ConversionSynthesis

section Filling

variable {ι β : Type} {position : ι → Nat} {value : ι → β}

def fill (position : ι → Nat) (value : ι → β) (entries : List ι) (slots : List β) : List β :=
  entries.foldl (fun slots entry => slots.set (position entry) (value entry)) slots

theorem length_fill (entries : List ι) (slots : List β) :
    (fill position value entries slots).length = slots.length := by
  induction entries generalizing slots with
  | nil => rfl
  | cons entry rest ih =>
      have later := ih (slots.set (position entry) (value entry))
      simpa [fill] using later

theorem getElem?_fill_of_untouched (entries : List ι) (slots : List β) {index : Nat}
    (untouched : ∀ entry ∈ entries, position entry ≠ index) :
    (fill position value entries slots)[index]? = slots[index]? := by
  induction entries generalizing slots with
  | nil => rfl
  | cons entry rest ih =>
      have away : position entry ≠ index := untouched entry List.mem_cons_self
      have later := ih (slots.set (position entry) (value entry))
        fun e mem => untouched e (List.mem_cons_of_mem _ mem)
      rw [List.getElem?_set_ne away] at later
      exact later

theorem getElem?_fill_of_mem {entries : List ι} (slots : List β) {entry : ι}
    (distinct : entries.Pairwise fun a b => position a ≠ position b) (mem : entry ∈ entries)
    (bound : position entry < slots.length) :
    (fill position value entries slots)[position entry]? = some (value entry) := by
  induction entries generalizing slots with
  | nil => simp at mem
  | cons first rest ih =>
      obtain ⟨apart, distinct⟩ := List.pairwise_cons.mp distinct
      rcases List.mem_cons.mp mem with rfl | mem
      · have kept : (fill position value rest
            (slots.set (position entry) (value entry)))[position entry]? = _ :=
          getElem?_fill_of_untouched rest _ fun e mem => (apart e mem).symm
        rw [List.getElem?_set_self bound] at kept
        exact kept
      · exact ih (slots.set (position first) (value first)) distinct mem (by simpa using bound)

end Filling

namespace TypeDecl

variable {type : TypeDecl} {tuples : TupleSupport}

theorem mem_judged {x : Candidate} {verdict : Verdict} :
    (x, verdict) ∈ type.judged tuples ↔
      ∃ p : Nat, (type.candidates tuples)[p]? = some x ∧
        (verdicts tuples type.conversions (type.candidates tuples))[p]? = some verdict := by
  simp only [judged, List.mem_iff_getElem?, List.getElem?_zip_eq_some]

theorem pairwise_index_judged (type : TypeDecl) (tuples : TupleSupport) :
    (type.judged tuples).Pairwise fun a b => a.1.index ≠ b.1.index := by
  have apart : (type.judged tuples).map (·.1) = type.candidates tuples :=
    List.map_fst_zip (by simp)
  have ordered := type.pairwise_index_candidates tuples
  rw [← apart, List.pairwise_map] at ordered
  exact ordered.imp Nat.ne_of_lt

theorem outcomeSlots_eq_fill (type : TypeDecl) (tuples : TupleSupport) :
    type.outcomeSlots tuples =
      fill (fun entry : Candidate × Verdict => entry.1.index)
        (fun entry => some (.ofVerdict ((type.candidates tuples).map (·.index)) entry.1 entry.2))
        (type.judged tuples)
        (type.constructors.map fun c => (type.ineligibility? c tuples).map .ineligible) :=
  rfl

theorem length_outcomeSlots (type : TypeDecl) (tuples : TupleSupport) :
    (type.outcomeSlots tuples).length = type.constructors.length := by
  rw [outcomeSlots_eq_fill, length_fill, List.length_map]

/-- The slot of an ineligible constructor keeps the reason. -/
theorem getElem?_outcomeSlots_of_ineligible {index : Nat} {c : Constructor}
    {reason : Ineligibility} (found : type.constructors[index]? = some c)
    (ineligible : type.ineligibility? c tuples = some reason) :
    (type.outcomeSlots tuples)[index]? = some (some (.ineligible reason)) := by
  rw [outcomeSlots_eq_fill, getElem?_fill_of_untouched]
  · simp [found, ineligible]
  · intro entry mem
    obtain ⟨p, at_p, _⟩ := mem_judged.mp mem
    exact index_ne_of_ineligible (List.mem_of_getElem? at_p) found ineligible

/-- The slot of a candidate holds what its verdict amounts to. -/
theorem getElem?_outcomeSlots_of_judged {x : Candidate} {verdict : Verdict}
    (mem : (x, verdict) ∈ type.judged tuples) :
    (type.outcomeSlots tuples)[x.index]? =
      some (some (.ofVerdict ((type.candidates tuples).map (·.index)) x verdict)) := by
  obtain ⟨p, at_p, _⟩ := mem_judged.mp mem
  have bound : x.index < type.constructors.length := index_lt_length (List.mem_of_getElem? at_p)
  rw [outcomeSlots_eq_fill]
  exact getElem?_fill_of_mem _ (type.pairwise_index_judged tuples) mem (by simpa using bound)

/-- What can have become of a constructor: a reason speaks against it, or it is a candidate with a
verdict. -/
theorem outcomeSlots_cases {index : Nat} {c : Constructor}
    (found : type.constructors[index]? = some c) :
    (∃ reason, type.ineligibility? c tuples = some reason ∧
      (type.outcomeSlots tuples)[index]? = some (some (.ineligible reason))) ∨
    (∃ (p : Nat) (x : Candidate) (verdict : Verdict),
      (type.candidates tuples)[p]? = some x ∧ x.index = index ∧ x.constructor = c ∧
      (verdicts tuples type.conversions (type.candidates tuples))[p]? = some verdict ∧
      (type.outcomeSlots tuples)[index]? =
        some (some (.ofVerdict ((type.candidates tuples).map (·.index)) x verdict))) := by
  cases reason : type.ineligibility? c tuples with
  | some reason' =>
      exact Or.inl ⟨reason', rfl, getElem?_outcomeSlots_of_ineligible found reason⟩
  | none =>
      right
      let x : Candidate := ⟨index, c, c.signature tuples⟩
      have mem : x ∈ type.candidates tuples := mem_candidates.mpr ⟨found, reason, rfl⟩
      obtain ⟨p, at_p⟩ := List.mem_iff_getElem?.mp mem
      have bound : p < (verdicts tuples type.conversions (type.candidates tuples)).length := by
        rw [length_verdicts]
        exact (List.getElem?_eq_some_iff.mp at_p).choose
      have judged := List.getElem?_eq_getElem bound
      exact ⟨p, x, _, at_p, rfl, rfl, judged,
        getElem?_outcomeSlots_of_judged (mem_judged.mpr ⟨p, at_p, judged⟩)⟩

/-- No position is left without an outcome. -/
theorem outcomeSlots_filled (type : TypeDecl) (tuples : TupleSupport) :
    ∃ outcomes : List Outcome, type.outcomeSlots tuples = outcomes.map some := by
  have filled : ∀ slot ∈ type.outcomeSlots tuples, ∃ outcome, slot = some outcome := by
    intro slot mem
    obtain ⟨index, at_index⟩ := List.mem_iff_getElem?.mp mem
    have bound : index < type.constructors.length := by
      rw [← length_outcomeSlots type tuples]
      exact (List.getElem?_eq_some_iff.mp at_index).choose
    rcases outcomeSlots_cases (List.getElem?_eq_getElem bound) with
      ⟨reason, _, slot_eq⟩ | ⟨_, x, verdict, _, _, _, _, slot_eq⟩
    all_goals
      rw [at_index, Option.some.injEq] at slot_eq
      exact ⟨_, slot_eq⟩
  refine ⟨(type.outcomeSlots tuples).map (·.getD (.collides 0)), ?_⟩
  rw [List.map_map]
  refine (List.map_id _).symm.trans (List.map_congr_left ?_)
  intro slot mem
  obtain ⟨outcome, rfl⟩ := filled slot mem
  rfl

theorem constructors_explain (accepted : type.rejection? = none) {outcomes : List Outcome}
    (filled : type.outcomeSlots tuples = outcomes.map some) :
    (type.explain tuples).constructors = outcomes.zipIdx.map fun entry => ⟨entry.2, entry.1⟩ := by
  simp only [explain, accepted, filled, List.zipIdx_map, List.filterMap_map]
  exact congrFun List.filterMap_eq_map _

theorem map_index_explain (accepted : type.rejection? = none) :
    (type.explain tuples).constructors.map (·.index) = List.range type.constructors.length := by
  obtain ⟨outcomes, filled⟩ := type.outcomeSlots_filled tuples
  have lengths := congrArg List.length filled
  rw [length_outcomeSlots, List.length_map] at lengths
  rw [constructors_explain accepted filled, List.map_map, lengths, List.range_eq_range']
  exact List.zipIdx_map_snd 0 outcomes

theorem mem_constructors_explain (accepted : type.rejection? = none) {entry : ConstructorReport} :
    entry ∈ (type.explain tuples).constructors ↔
      (type.outcomeSlots tuples)[entry.index]? = some (some entry.outcome) := by
  obtain ⟨outcomes, filled⟩ := type.outcomeSlots_filled tuples
  rw [constructors_explain accepted filled, filled, List.mem_map]
  constructor
  · rintro ⟨⟨outcome, index⟩, mem, rfl⟩
    simp [List.mem_zipIdx_iff_getElem?.mp mem]
  · intro found
    simp only [List.getElem?_map, Option.map_eq_some_iff, Option.some.injEq] at found
    obtain ⟨outcome, at_index, same⟩ := found
    exact ⟨(outcome, entry.index), List.mem_zipIdx_iff_getElem?.mpr at_index, by rw [same]⟩

end TypeDecl

end ConversionSynthesis
