import Mathlib.Data.List.Sort
import ConversionSynthesis.Proofs.Report.Outcomes

/-! # Reports agree with units

A report replays the decisions about a type and a unit acts on them. Both come to the same: what
the report calls synthesized is what the unit holds, and every position the report mentions exists.
-/

namespace ConversionSynthesis

/-- The positions of the constructors that a report calls synthesized. -/
def TypeReport.synthesized (report : TypeReport) : List Nat :=
  (report.constructors.filter (·.outcome.isSynthesized)).map (·.index)

namespace TypeDecl

variable {type : TypeDecl} {tuples : TupleSupport} {x y : Candidate} {p q : Nat}

theorem index_lt_index (at_p : (type.candidates tuples)[p]? = some x)
    (at_q : (type.candidates tuples)[q]? = some y) (lt : p < q) : x.index < y.index := by
  obtain ⟨boundP, rfl⟩ := List.getElem?_eq_some_iff.mp at_p
  obtain ⟨boundQ, rfl⟩ := List.getElem?_eq_some_iff.mp at_q
  exact List.pairwise_iff_getElem.mp (type.pairwise_index_candidates tuples) p q boundP boundQ lt

theorem position_eq_of_index_eq (at_p : (type.candidates tuples)[p]? = some x)
    (at_q : (type.candidates tuples)[q]? = some y) (same : x.index = y.index) : p = q := by
  rcases Nat.lt_trichotomy p q with lt | eq | gt
  · exact absurd same (Nat.ne_of_lt (index_lt_index at_p at_q lt))
  · exact eq
  · exact absurd same.symm (Nat.ne_of_lt (index_lt_index at_q at_p gt))

theorem mem_emitted (accepted : type.rejection? = none) :
    x ∈ type.emitted tuples ↔ ∃ p : Nat, (type.candidates tuples)[p]? = some x ∧
      (verdicts tuples type.conversions (type.candidates tuples))[p]? = some .survives := by
  simp only [emitted_of_accepted accepted, survivors, List.mem_map, List.mem_filter,
    decide_eq_true_eq]
  constructor
  · rintro ⟨⟨x, verdict⟩, ⟨mem, rfl⟩, rfl⟩
    exact mem_judged.mp mem
  · intro found
    exact ⟨(x, .survives), ⟨mem_judged.mpr found, rfl⟩, rfl⟩

theorem pairwise_index_emitted (type : TypeDecl) (tuples : TupleSupport) :
    (type.emitted tuples).Pairwise fun a b => a.index < b.index :=
  (type.pairwise_index_candidates tuples).sublist (type.emitted_sublist tuples)

theorem explain_cases (accepted : type.rejection? = none) {entry : ConstructorReport}
    (mem : entry ∈ (type.explain tuples).constructors) :
    (∃ c reason, type.constructors[entry.index]? = some c ∧
      type.ineligibility? c tuples = some reason ∧ entry.outcome = .ineligible reason) ∨
    (∃ (p : Nat) (x : Candidate) (verdict : Verdict),
      (type.candidates tuples)[p]? = some x ∧ x.index = entry.index ∧
      (verdicts tuples type.conversions (type.candidates tuples))[p]? = some verdict ∧
      entry.outcome = .ofVerdict ((type.candidates tuples).map (·.index)) x verdict) := by
  have slot := (mem_constructors_explain accepted).mp mem
  have bound : entry.index < type.constructors.length := by
    rw [← length_outcomeSlots type tuples]
    exact (List.getElem?_eq_some_iff.mp slot).choose
  have found := List.getElem?_eq_getElem bound
  rcases outcomeSlots_cases found with
    ⟨reason, ineligible, same⟩ | ⟨p, x, verdict, at_p, index, _, judged, same⟩
  · rw [slot, Option.some.injEq, Option.some.injEq] at same
    exact Or.inl ⟨_, reason, found, ineligible, same⟩
  · rw [slot, Option.some.injEq, Option.some.injEq] at same
    exact Or.inr ⟨p, x, verdict, at_p, index, judged, same⟩

/-- A record without a reason comes from a verdict. -/
theorem judged_of_outcome (accepted : type.rejection? = none) {entry : ConstructorReport}
    (mem : entry ∈ (type.explain tuples).constructors)
    (free : ∀ reason, entry.outcome ≠ .ineligible reason) :
    ∃ (p : Nat) (x : Candidate) (verdict : Verdict),
      (type.candidates tuples)[p]? = some x ∧ x.index = entry.index ∧
      (verdicts tuples type.conversions (type.candidates tuples))[p]? = some verdict ∧
      entry.outcome = .ofVerdict ((type.candidates tuples).map (·.index)) x verdict := by
  rcases explain_cases accepted mem with ⟨_, reason, _, _, outcome⟩ | judged
  · exact absurd outcome (free reason)
  · exact judged

theorem isSynthesized_iff (accepted : type.rejection? = none) {entry : ConstructorReport}
    (mem : entry ∈ (type.explain tuples).constructors) :
    entry.outcome.isSynthesized = true ↔ ∃ x ∈ type.emitted tuples, x.index = entry.index := by
  rcases explain_cases accepted mem with
    ⟨c, reason, found, ineligible, outcome⟩ | ⟨p, x, verdict, at_p, index, judged, outcome⟩
  · rw [outcome]
    refine iff_of_false (by simp [Outcome.isSynthesized]) ?_
    intro emitted
    obtain ⟨x, x_mem, index⟩ := emitted
    have candidate := (type.emitted_sublist tuples).subset x_mem
    exact index_ne_of_ineligible candidate found ineligible index
  · have survives : entry.outcome.isSynthesized = true ↔ verdict = .survives := by
      rw [outcome]
      cases verdict <;> simp [Outcome.ofVerdict, Outcome.isSynthesized]
    rw [survives]
    constructor
    · rintro rfl
      exact ⟨x, (mem_emitted accepted).mpr ⟨p, at_p, judged⟩, index⟩
    · rintro ⟨y, y_mem, y_index⟩
      obtain ⟨q, at_q, judged'⟩ := (mem_emitted accepted).mp y_mem
      have same := position_eq_of_index_eq at_p at_q (index.trans y_index.symm)
      rw [← same, judged, Option.some.injEq] at judged'
      exact judged'

/-- The positions called synthesized are those of the emitted candidates, in the same order. -/
theorem synthesized_explain (accepted : type.rejection? = none) :
    (type.explain tuples).synthesized = (type.emitted tuples).map (·.index) := by
  have records : (type.explain tuples).constructors.map (·.index) = _ :=
    map_index_explain accepted
  have ordered : (type.explain tuples).synthesized.Pairwise (· < ·) := by
    have all : ((type.explain tuples).constructors.map (·.index)).Pairwise (· < ·) := by
      rw [records]
      exact List.pairwise_lt_range
    exact all.sublist (List.filter_sublist.map _)
  have ordered' : ((type.emitted tuples).map (·.index)).Pairwise (· < ·) :=
    List.pairwise_map.mpr (type.pairwise_index_emitted tuples)
  refine ordered.eq_of_mem_iff ordered' fun index => ?_
  simp only [TypeReport.synthesized, List.mem_map, List.mem_filter]
  constructor
  · rintro ⟨entry, ⟨mem, synthesized⟩, rfl⟩
    exact (isSynthesized_iff accepted mem).mp synthesized
  · rintro ⟨x, x_mem, rfl⟩
    have recorded : x.index ∈ (type.explain tuples).constructors.map (·.index) := by
      rw [records, List.mem_range]
      exact index_lt_length ((type.emitted_sublist tuples).subset x_mem)
    obtain ⟨entry, mem, index⟩ := List.mem_map.mp recorded
    exact ⟨entry, ⟨mem, (isSynthesized_iff accepted mem).mpr ⟨x, x_mem, index.symm⟩⟩, index⟩

/-- The unit holds the candidates whose positions the report calls synthesized. -/
theorem emitted_eq_filter_synthesized (accepted : type.rejection? = none) :
    type.emitted tuples =
      (type.candidates tuples).filter fun x =>
        (type.explain tuples).synthesized.contains x.index := by
  let before (a b : Candidate) : Prop := a.index < b.index
  have : Std.Irrefl before := ⟨fun a => Nat.lt_irrefl a.index⟩
  have : Std.Antisymm before := ⟨fun a b h h' => absurd h (Nat.lt_asymm h')⟩
  have ordered : (type.emitted tuples).Pairwise before := type.pairwise_index_emitted tuples
  refine ordered.eq_of_mem_iff ((type.pairwise_index_candidates tuples).filter _) fun x => ?_
  rw [List.mem_filter, synthesized_explain accepted, List.contains_iff_mem, List.mem_map]
  constructor
  · intro mem
    exact ⟨(type.emitted_sublist tuples).subset mem, x, mem, rfl⟩
  · rintro ⟨mem, y, y_mem, index⟩
    obtain ⟨p, at_p⟩ := List.mem_iff_getElem?.mp mem
    obtain ⟨q, at_q⟩ := List.mem_iff_getElem?.mp ((type.emitted_sublist tuples).subset y_mem)
    have same := position_eq_of_index_eq at_q at_p index
    rw [← same, at_q, Option.some.injEq] at at_p
    rw [← at_p]
    exact y_mem

theorem signature_of_synthesized (accepted : type.rejection? = none) {entry : ConstructorReport}
    (mem : entry ∈ (type.explain tuples).constructors) {signature : Signature}
    (outcome : entry.outcome = .synthesized signature) :
    ∃ c, type.constructors[entry.index]? = some c ∧ signature = c.signature tuples := by
  obtain ⟨p, x, verdict, at_p, index, _, same⟩ := judged_of_outcome accepted mem (by simp [outcome])
  rw [outcome] at same
  cases verdict with
  | collides k => cases same
  | duplicates j => cases same
  | survives =>
      obtain ⟨found, _, spelled⟩ := mem_candidates.mp (List.mem_of_getElem? at_p)
      cases same
      exact ⟨x.constructor, index ▸ found, spelled⟩

/-- A duplicate points back to a constructor that is synthesized. -/
theorem duplicates_synthesized (accepted : type.rejection? = none) {entry : ConstructorReport}
    (mem : entry ∈ (type.explain tuples).constructors) {earlier : Nat}
    (outcome : entry.outcome = .duplicates earlier) :
    earlier < entry.index ∧ earlier ∈ (type.explain tuples).synthesized := by
  obtain ⟨p, x, verdict, at_p, index, judged, same⟩ :=
    judged_of_outcome accepted mem (by simp [outcome])
  rw [outcome] at same
  cases verdict with
  | collides k => cases same
  | survives => cases same
  | duplicates q =>
      obtain ⟨_, lt, ⟨y, at_q, _⟩, _⟩ := (verdict_eq_duplicates_iff at_p q).mp judged
      have survives := verdict_of_duplicates at_p judged
      have translated : earlier = y.index := by
        simpa [Outcome.ofVerdict, List.getD_eq_getElem?_getD, at_q] using same
      rw [translated, synthesized_explain accepted, ← index]
      exact ⟨index_lt_index at_q at_p lt,
        List.mem_map.mpr ⟨y, (mem_emitted accepted).mpr ⟨q, at_q, survives⟩, rfl⟩⟩

theorem collides_lt_length (accepted : type.rejection? = none) {entry : ConstructorReport}
    (mem : entry ∈ (type.explain tuples).constructors) {conversion : Nat}
    (outcome : entry.outcome = .collides conversion) : conversion < type.conversions.length := by
  obtain ⟨p, x, verdict, at_p, _, judged, same⟩ :=
    judged_of_outcome accepted mem (by simp [outcome])
  rw [outcome] at same
  cases verdict with
  | survives => cases same
  | duplicates j => cases same
  | collides k =>
      cases same
      obtain ⟨⟨written, found, _⟩, _⟩ := (verdict_eq_collides_iff at_p conversion).mp judged
      exact (List.getElem?_eq_some_iff.mp found).choose

end TypeDecl

/-- The report of a type tells exactly what its unit holds and why the rest is missing. -/
theorem explain_agrees_with_unit (type : TypeDecl) (tuples : TupleSupport)
    (options : UnitOptions) :
    let report := type.explain tuples
    let chosen := report.synthesized
    let kept := (type.candidates tuples).filter fun x => chosen.contains x.index
    (∀ reason, type.rejection? = some reason →
      type.unit? tuples options = none ∧ report.rejection = some reason ∧
        report.constructors = []) ∧
    (type.rejection? = none →
      report.rejection = none ∧
      report.constructors.map (·.index) = List.range type.constructors.length ∧
      (type.unit? tuples options = none ↔ chosen = []) ∧
      (∀ unit, type.unit? tuples options = some unit →
        unit.text = type.unitText kept options) ∧
      kept.map (·.index) = chosen ∧ chosen.Pairwise (· < ·) ∧
      (∀ entry ∈ report.constructors, ∀ signature, entry.outcome = .synthesized signature →
        ∃ c, type.constructors[entry.index]? = some c ∧ signature = c.signature tuples) ∧
      (∀ entry ∈ report.constructors, ∀ earlier, entry.outcome = .duplicates earlier →
        earlier < entry.index ∧ earlier ∈ chosen) ∧
      (∀ entry ∈ report.constructors, ∀ conversion, entry.outcome = .collides conversion →
        conversion < type.conversions.length)) := by
  intro report chosen kept
  constructor
  · intro reason rejected
    have empty : type.emitted tuples = [] := by simp [TypeDecl.emitted, rejected]
    rw [type.unit?_eq, if_pos empty]
    simp [report, TypeDecl.explain, rejected]
  · intro accepted
    have same : type.emitted tuples = kept := TypeDecl.emitted_eq_filter_synthesized accepted
    have positions : kept.map (·.index) = chosen := by
      rw [← same]
      exact (TypeDecl.synthesized_explain accepted).symm
    have none_iff : type.emitted tuples = [] ↔ chosen = [] := by
      rw [← positions, same, List.map_eq_nil_iff]
    refine ⟨?_, TypeDecl.map_index_explain accepted, ?_, ?_, positions, ?_,
      fun entry mem signature => TypeDecl.signature_of_synthesized accepted mem,
      fun entry mem earlier => TypeDecl.duplicates_synthesized accepted mem,
      fun entry mem conversion => TypeDecl.collides_lt_length accepted mem⟩
    · simp [report, TypeDecl.explain, accepted]
    · rw [type.unit?_eq, ← none_iff]
      split <;> simp_all
    · intro unit generated
      rw [type.unit?_eq, same] at generated
      split at generated
      · simp at generated
      · cases generated
        rfl
    · rw [← positions, ← same]
      exact List.pairwise_map.mpr (type.pairwise_index_emitted tuples)

/-- A size given by nothing, by two numbers, by the same numbers in a tuple, or by a text that the
author converts himself. -/
def sizeDecl : TypeDecl :=
  let number : HostType := .named "System.Int32" "int" .concrete
  let text : HostType := .named "System.String" "string" .concrete
  { name := "Size"
    constructors := [{},
      { parameters := [⟨"width", number⟩, ⟨"height", number⟩] },
      { parameters := [⟨"pair", .tuple [.mk none number, .mk none number]⟩] },
      { parameters := [⟨"s", text⟩] }]
    conversions := [{ parameters := [text] }] }

theorem explain_sizeDecl :
    let report := sizeDecl.explain .native
    sizeDecl.rejection? = none ∧ report.constructors.map (·.index) = [0, 1, 2, 3] ∧
      ⟨2, .duplicates 1⟩ ∈ report.constructors ∧ 1 ∈ report.synthesized ∧
      ⟨3, .collides 0⟩ ∈ report.constructors ∧ 0 < sizeDecl.conversions.length ∧
      sizeDecl.unit? .native {} ≠ none := by
  intro report
  have accepted : sizeDecl.rejection? = none := rfl
  have duplicate : ⟨2, .duplicates 1⟩ ∈ report.constructors :=
    List.mem_of_getElem? (by rfl : report.constructors[2]? = _)
  have collision : ⟨3, .collides 0⟩ ∈ report.constructors :=
    List.mem_of_getElem? (by rfl : report.constructors[3]? = _)
  obtain ⟨_, positions, unit_iff, _, _, _, _, duplicates, collides⟩ :=
    (explain_agrees_with_unit sizeDecl .native {}).2 accepted
  have earlier := (duplicates _ duplicate 1 rfl).2
  refine ⟨accepted, positions, duplicate, earlier, collision, collides _ collision 0 rfl, ?_⟩
  intro none
  rw [unit_iff.mp none] at earlier
  simp at earlier

end ConversionSynthesis
