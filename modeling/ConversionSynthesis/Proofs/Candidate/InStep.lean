import ConversionSynthesis.Candidate
import ConversionSynthesis.Proofs.SideBySide

/-! # Two passes in step

A pass sees of signatures only how they compare. Two passes, over lists of candidates that are
related one by one, keep in step if comparisons of related signatures come out the same: they come
to the same verdicts, and their survivors are related. The hosts of the two passes may differ in
their tuples.
-/

namespace ConversionSynthesis

/-- Comparisons of related signatures, with each other and with written conversions, come out the
same on two hosts. -/
structure ComparesAlike (related : Signature → Signature → Prop) (tuples tuples' : TupleSupport)
    (written written' : List Conversion) : Prop where
  among : ∀ s s' t t', related s s' → related t t' →
    tuples'.sameSignature s'.types t'.types = tuples.sameSignature s.types t.types
  covered : List.Forall₂ (fun c c' => ∀ s s', related s s' →
    tuples'.sameSignature c'.parameters s'.types = tuples.sameSignature c.parameters s.types)
    written written'

namespace ComparesAlike

variable {related : Signature → Signature → Prop} {tuples tuples' : TupleSupport}
  {written written' : List Conversion}

/-- A survivor at one place in both passes. -/
def SameSurvivor (related : Signature → Signature → Prop) (kept kept' : Nat × Signature) : Prop :=
  kept'.1 = kept.1 ∧ related kept.2 kept'.2

theorem ofSignature_eq (alike : ComparesAlike related tuples tuples' written written')
    {kept kept' : List (Nat × Signature)}
    (keptLike : List.Forall₂ (SameSurvivor related) kept kept') {signature signature' : Signature}
    (like : related signature signature') :
    Verdict.ofSignature tuples' written' kept' signature' =
      Verdict.ofSignature tuples written kept signature := by
  have covered :
      (written'.findIdx? fun c => tuples'.sameSignature c.parameters signature'.types) =
        written.findIdx? fun c => tuples.sameSignature c.parameters signature.types :=
    findIdx?_eq_of_forall₂ alike.covered fun _ _ same => same _ _ like
  have claimed :
      (kept'.find? fun s => tuples'.sameSignature s.2.types signature'.types).map (·.1) =
        (kept.find? fun s => tuples.sameSignature s.2.types signature.types).map (·.1) :=
    map_find?_eq_of_forall₂ keptLike fun _ _ pair =>
      ⟨alike.among _ _ _ _ pair.2 like, pair.1⟩
  unfold Verdict.ofSignature
  rw [covered]
  split
  · rfl
  · generalize kept'.find? _ = earlier' at claimed
    generalize kept.find? _ = earlier at claimed
    cases earlier <;> cases earlier' <;> simp_all

/-- One pass over related signatures comes to the same verdicts: survivors stay in step. -/
theorem passFrom_eq (alike : ComparesAlike related tuples tuples' written written')
    {signatures signatures' : List Signature}
    (like : List.Forall₂ related signatures signatures') {kept kept' : List (Nat × Signature)}
    (keptLike : List.Forall₂ (SameSurvivor related) kept kept') (position : Nat) :
    Verdict.passFrom tuples' written' kept' position signatures' =
      Verdict.passFrom tuples written kept position signatures := by
  induction like generalizing kept kept' position with
  | nil => rfl
  | @cons signature signature' _ _ first _ ih =>
      rw [Verdict.passFrom, Verdict.passFrom, alike.ofSignature_eq keptLike first]
      have after : List.Forall₂ (SameSurvivor related)
          (if Verdict.ofSignature tuples written kept signature = .survives
            then kept ++ [(position, signature)] else kept)
          (if Verdict.ofSignature tuples written kept signature = .survives
            then kept' ++ [(position, signature')] else kept') := by
        split
        · exact List.rel_append keptLike (.cons ⟨rfl, first⟩ .nil)
        · exact keptLike
      exact congrArg _ (ih after (position + 1))

theorem verdicts_eq (alike : ComparesAlike related tuples tuples' written written')
    {candidates candidates' : List Candidate}
    (like : List.Forall₂ (fun x x' => related x.signature x'.signature) candidates candidates') :
    verdicts tuples' written' candidates' = verdicts tuples written candidates := by
  refine alike.passFrom_eq ?_ .nil 0
  rw [List.forall₂_map_left_iff, List.forall₂_map_right_iff]
  exact like

end ComparesAlike

/-- Candidates that are related one by one have related survivors if they have the same verdicts. -/
theorem forall₂_survivors {related : Candidate → Candidate → Prop} {tuples tuples' : TupleSupport}
    {written written' : List Conversion} {candidates candidates' : List Candidate}
    (like : List.Forall₂ related candidates candidates')
    (same : verdicts tuples' written' candidates' = verdicts tuples written candidates) :
    List.Forall₂ related (survivors tuples written candidates)
      (survivors tuples' written' candidates') := by
  have kept := forall₂_filter (forall₂_zip_right like (verdicts tuples written candidates))
    (p := fun entry => entry.2 = .survives) (q := fun entry => entry.2 = .survives)
    fun _ _ pair => by rw [pair.2]
  rw [survivors, survivors, same, List.forall₂_map_left_iff, List.forall₂_map_right_iff]
  exact kept.imp fun _ _ => And.left

end ConversionSynthesis
