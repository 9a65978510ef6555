import ConversionSynthesis.Proofs.Report.InStep
import ConversionSynthesis.Proofs.Report.Packing

/-! # Edits of one constructor

The outcome of a candidate is told from the conversions that its author wrote and from the first of
its rivals. So an edit of one constructor shows only where the constructor is edited and where the
signature is that of the constructor before or after the edit, although it may come to be a
candidate or cease to be one, and all later candidates then change their positions.
-/

namespace ConversionSynthesis

/-- The outcome of a candidate, told from the conversions that its author wrote and from the first
of all its rivals, itself included. -/
def Outcome.amongRivals (tuples : TupleSupport) (written : List Conversion)
    (candidates : List Candidate) (x : Candidate) : Outcome :=
  match written.findIdx? (·.covers tuples x), candidates.find? (·.rivals tuples x) with
  | some conversion, _ => collides conversion
  | none, none => synthesized x.signature
  | none, some first =>
      if first.index = x.index then synthesized x.signature else duplicates first.index

theorem find?_of_isFirst {α : Type} {property : α → Bool} {entries : List α} {index : Nat}
    {entry : α} (first : IsFirst property entries index) (found : entries[index]? = some entry) :
    entries.find? property = some entry := by
  rw [List.find?_eq_bind_findIdx?_getElem?, (findIdx?_eq_some_iff_isFirst _ _ _).mpr first]
  exact found

namespace TypeDecl

variable {type : TypeDecl} {tuples : TupleSupport} {x : Candidate} {p : Nat} {verdict : Verdict}

/-- What a verdict amounts to, without the positions of candidates. -/
theorem ofVerdict_eq_amongRivals (at_p : (type.candidates tuples)[p]? = some x)
    (judged : (verdicts tuples type.conversions (type.candidates tuples))[p]? = some verdict) :
    Outcome.ofVerdict ((type.candidates tuples).map (·.index)) x verdict =
      .amongRivals tuples type.conversions (type.candidates tuples) x := by
  unfold Outcome.amongRivals
  cases verdict with
  | collides conversion =>
      have covered := (verdict_eq_collides_iff at_p conversion).mp judged
      rw [(findIdx?_eq_some_iff_isFirst _ _ _).mpr covered]
      rfl
  | duplicates q =>
      obtain ⟨free, lt, first⟩ := (verdict_eq_duplicates_iff at_p q).mp judged
      obtain ⟨y, at_q, -⟩ := first.1
      have apart : y.index ≠ x.index := Nat.ne_of_lt (index_lt_index at_q at_p lt)
      rw [List.findIdx?_eq_none_iff.mpr free, find?_of_isFirst first at_q]
      simp [Outcome.ofVerdict, List.getD_eq_getElem?_getD, at_q, apart]
  | survives =>
      obtain ⟨free, fresh⟩ := (verdict_eq_survives_iff at_p).mp judged
      have first : IsFirst (·.rivals tuples x) (type.candidates tuples) p :=
        ⟨⟨x, at_p, x.rivals_refl tuples⟩, fresh⟩
      rw [List.findIdx?_eq_none_iff.mpr free, find?_of_isFirst first at_p]
      simp [Outcome.ofVerdict]

theorem getElem?_constructors_explain (accepted : type.rejection? = none) {index : Nat}
    {outcome : Outcome} (slot : (type.outcomeSlots tuples)[index]? = some (some outcome)) :
    (type.explain tuples).constructors[index]? = some ⟨index, outcome⟩ := by
  obtain ⟨outcomes, filled⟩ := type.outcomeSlots_filled tuples
  have listed : outcomes[index]? = some outcome := by
    simpa [filled] using slot
  rw [constructors_explain accepted filled]
  simp [listed]

/-- The record of a constructor, told from its type and the first of its rivals. -/
theorem getElem?_explain (accepted : type.rejection? = none) {index : Nat} {c : Constructor}
    (found : type.constructors[index]? = some c) :
    (type.explain tuples).constructors[index]? = some ⟨index,
      match type.ineligibility? c tuples with
      | some reason => .ineligible reason
      | none => .amongRivals tuples type.conversions (type.candidates tuples)
          ⟨index, c, c.signature tuples⟩⟩ := by
  apply getElem?_constructors_explain accepted
  rcases outcomeSlots_cases found with
    ⟨reason, ineligible, slot⟩ | ⟨p, x, verdict, at_p, rfl, rfl, judged, slot⟩
  · rw [ineligible]
    exact slot
  · obtain ⟨-, eligible, signature⟩ := mem_candidates.mp (List.mem_of_getElem? at_p)
    rw [eligible, ← signature]
    rwa [ofVerdict_eq_amongRivals at_p judged] at slot

/-! ## The edit -/

section Edit

variable {place : Nat} {old new : Constructor}

/-- A search among the candidates that ends neither at the old constructor nor at the new one comes
to the same. -/
theorem find?_candidates_withConstructor (found : type.constructors[place]? = some old)
    {test : Candidate → Bool} (skipsOld : test ⟨place, old, old.signature tuples⟩ = false)
    (skipsNew : test ⟨place, new, new.signature tuples⟩ = false) :
    ((type.withConstructor place new).candidates tuples).find? test =
      (type.candidates tuples).find? test := by
  rw [candidates, candidates, List.find?_map, List.find?_map, List.find?_filter, List.find?_filter]
  congr 1
  apply find?_eq_of_forall₂
  apply (forall₂_zipIdx_set found new).imp
  rintro ⟨c, index⟩ ⟨c', index'⟩ ⟨rfl, ⟨rfl, -⟩ | ⟨rfl, rfl, rfl⟩⟩
  · exact .inl rfl
  · right
    simp [skipsOld, skipsNew]

theorem amongRivals_withConstructor (found : type.constructors[place]? = some old)
    {x : Candidate}
    (apartOld : tuples.sameSignature (old.signature tuples).types x.signature.types = false)
    (apartNew : tuples.sameSignature (new.signature tuples).types x.signature.types = false) :
    Outcome.amongRivals tuples type.conversions
        ((type.withConstructor place new).candidates tuples) x =
      .amongRivals tuples type.conversions (type.candidates tuples) x := by
  unfold Outcome.amongRivals
  rw [find?_candidates_withConstructor found apartOld apartNew]

end Edit

end TypeDecl

/-- An edit of one constructor, whatever it changes, leaves the record of every other constructor as
it was whose signature is neither that of the constructor before the edit nor that after it. The
type is rejected for the same reason or not at all, and keeps a record for every constructor. -/
theorem explain_elsewhere {type : TypeDecl} {place : Nat} {old : Constructor}
    (found : type.constructors[place]? = some old) (new : Constructor) (tuples : TupleSupport) :
    let report := type.explain tuples
    let report' := (type.withConstructor place new).explain tuples
    report'.identity = report.identity ∧ report'.rejection = report.rejection ∧
      report'.constructors.length = report.constructors.length ∧
      ∀ index c, type.constructors[index]? = some c → index ≠ place →
        tuples.sameSignature (old.signature tuples).types (c.signature tuples).types = false →
        tuples.sameSignature (new.signature tuples).types (c.signature tuples).types = false →
        report'.constructors[index]? = report.constructors[index]? ∧
          (report.rejection = none →
            ∃ outcome, report.constructors[index]? = some ⟨index, outcome⟩) := by
  intro report report'
  have rejection : (type.withConstructor place new).rejection? = type.rejection? := rfl
  have identity : (type.withConstructor place new).identity = type.identity := rfl
  cases rejected : type.rejection? with
  | some reason =>
      simp [report, report', TypeDecl.explain, rejection, identity, rejected]
  | none =>
      have accepted' := rejection.trans rejected
      refine ⟨by simp [report, report', TypeDecl.explain, rejection, identity, rejected],
        by simp [report, report', TypeDecl.explain, rejection, rejected], ?_, ?_⟩
      · rw [TypeDecl.length_constructors_explain rejected,
          TypeDecl.length_constructors_explain accepted']
        simp [TypeDecl.withConstructor]
      · intro index c listed elsewhere apartOld apartNew
        have listed' : (type.withConstructor place new).constructors[index]? = some c :=
          (List.getElem?_set_ne (Ne.symm elsewhere)).trans listed
        have record : report.constructors[index]? = _ := TypeDecl.getElem?_explain rejected listed
        have record' : report'.constructors[index]? = _ :=
          TypeDecl.getElem?_explain accepted' listed'
        have reason : (type.withConstructor place new).ineligibility? c tuples =
            type.ineligibility? c tuples := rfl
        have conversions : (type.withConstructor place new).conversions = type.conversions := rfl
        have outcome := TypeDecl.amongRivals_withConstructor found
          (x := ⟨index, c, c.signature tuples⟩) apartOld apartNew
        refine ⟨?_, fun _ => ⟨_, record⟩⟩
        rw [record, record', reason, conversions, outcome]

/-- The second constructor of a size no longer takes part, so that the third one is synthesized in
its stead. The collision of the fourth one with a written conversion stays. -/
theorem explain_elsewhere_sizeDecl :
    let edited := sizeDecl.withConstructor 1 { isOptedOut := true }
    sizeDecl.constructors[1]? = some sizeDecl.constructors[1] ∧
      (edited.explain .native).synthesized = [2] ∧
      (edited.explain .native).constructors[3]? = some ⟨3, .collides 0⟩ := by
  intro edited
  obtain ⟨-, -, -, elsewhere⟩ := explain_elsewhere
    (rfl : sizeDecl.constructors[1]? = some sizeDecl.constructors[1]) { isOptedOut := true } .native
  refine ⟨rfl, by decide +kernel, ?_⟩
  exact (elsewhere 3 sizeDecl.constructors[3] rfl (by decide) (by decide) (by decide)).1.trans rfl

end ConversionSynthesis
