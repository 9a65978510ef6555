import Mathlib.Data.List.InsertIdx
import ConversionSynthesis.Proofs.Signature.OperandType

/-! # Conversions added to a type

A conversion that its author adds to a type takes one class of rivals away from its candidates and
leaves every other class as it was: no rival of a candidate that goes comes in its place. So a type
into which its own unit was merged gets no second unit.
-/

namespace ConversionSynthesis

section

variable {tuples : TupleSupport} {written written' : List Conversion} {candidates : List Candidate}

/-- A test that rivals pass or fail together picks whole classes, so that it makes no difference to
the first of each class. -/
theorem firstOfEach_filter {test : Candidate → Bool}
    (together : ∀ a b : Candidate, a.rivals tuples b = true → test a = test b)
    (candidates : List Candidate) :
    firstOfEach tuples (candidates.filter test) = (firstOfEach tuples candidates).filter test := by
  induction candidates with
  | nil => rfl
  | cons candidate rest ih =>
      by_cases stays : test candidate = true
      · rw [List.filter_cons_of_pos stays, firstOfEach, firstOfEach, ih,
          List.filter_cons_of_pos stays, List.filter_filter, List.filter_filter]
        simp only [Bool.and_comm]
      · rw [List.filter_cons_of_neg stays, firstOfEach, ih, List.filter_cons_of_neg stays,
          List.filter_filter]
        apply List.filter_congr
        intro later _
        by_cases rival : candidate.rivals tuples later = true
        · have dropped : test later = false := by
            rw [← together candidate later rival]
            simpa using stays
          simp [dropped]
        · simp [rival]

/-- A conversion takes away its own class and nothing else, wherever it stands among the others. -/
theorem survivors_of_added {added : Conversion}
    (mem_iff : ∀ c, c ∈ written' ↔ c = added ∨ c ∈ written) (candidates : List Candidate) :
    survivors tuples written' candidates =
      (survivors tuples written candidates).filter fun x => !added.covers tuples x := by
  have together (a b : Candidate) (rival : a.rivals tuples b = true) :
      (!added.covers tuples a) = !added.covers tuples b := by
    rw [Candidate.covers_congr rival]
  have left : uncovered tuples written' candidates =
      (uncovered tuples written candidates).filter fun x => !added.covers tuples x := by
    rw [uncovered, uncovered, List.filter_filter]
    apply List.filter_congr
    intro x _
    rw [Bool.eq_iff_iff]
    simp [mem_iff]
  rw [survivors_eq_firstOfEach, survivors_eq_firstOfEach, left, firstOfEach_filter together]

/-- If every survivor is covered by a conversion that was added, nothing survives any more. -/
theorem survivors_eq_nil (kept : written ⊆ written')
    (covered : ∀ x ∈ survivors tuples written candidates,
      ∃ c ∈ written', c.covers tuples x = true) :
    survivors tuples written' candidates = [] := by
  rw [List.eq_nil_iff_forall_not_mem]
  intro y mem
  have free := mem_survivors_free mem
  have candidate : y ∈ candidates := (survivors_sublist tuples written' candidates).subset mem
  -- A new survivor would be free before, and so have a survivor of old for a rival.
  have one := countP_rivals_survivors candidate fun c old => free c (kept old)
  obtain ⟨x, survives, rival⟩ := List.countP_pos_iff.mp (by rw [one]; exact Nat.one_pos)
  obtain ⟨c, added, covers⟩ := covered x survives
  rw [Candidate.covers_congr rival, free c added] at covers
  exact Bool.false_ne_true covers

end

/-! ## Conversions from operands -/

/-- Lone types that look the same to a comparison are the same signature. -/
theorem TupleSupport.sameSignature_of_core_eq (tuples : TupleSupport) {a b : HostType}
    (same : a.core = b.core) : tuples.sameSignature [a] [b] = true := by
  rw [sameSignature_iff, signatureCore_eq, signatureCore_eq, List.map_singleton,
    List.map_singleton, same]

/-- The operator of a candidate, merged into the type, is a conversion that covers the candidate. -/
theorem Conversion.covers_of_operand {type : TypeDecl} {tuples : TupleSupport} {x : Candidate}
    {conversion : Conversion} (wide : type.tuplesWide = true) (mem : x ∈ type.candidates tuples)
    (operand : conversion.parameters = [x.operand.type]) : conversion.covers tuples x = true := by
  obtain ⟨found, eligible, signature⟩ := TypeDecl.mem_candidates.mp mem
  have packed : tuples.sameSignature x.signature.types [x.constructor.operandType] = true := by
    rw [TupleSupport.sameSignature_iff, TupleSupport.signatureCore, TupleSupport.signatureCore,
      signature, TypeDecl.unpacked_signature_of_eligible wide (List.mem_of_getElem? found) eligible]
  rw [covers, operand, TupleSupport.sameSignature_congr packed]
  exact tuples.sameSignature_of_core_eq (Candidate.core_type_operand mem)

/-! ## The declared type -/

/-- The type with one more conversion, at a place among those it has. -/
def TypeDecl.withConversion (type : TypeDecl) (place : Nat) (conversion : Conversion) : TypeDecl :=
  { type with conversions := type.conversions.insertIdx place conversion }

/-- A conversion that is added to a type, at any place among those it has, takes away the survivors
with its signature; the others stay, in their order, and no candidate comes back. Once there is a
conversion for each signature that was synthesized, written as the signature or as the operand of
its operator, the type gets no unit. -/
theorem survivors_added (type : TypeDecl) (tuples : TupleSupport) :
    (∀ place conversion, place ≤ type.conversions.length →
      let type' := type.withConversion place conversion
      survivors tuples type'.conversions (type'.candidates tuples) =
        (survivors tuples type.conversions (type.candidates tuples)).filter
          (fun x => !conversion.covers tuples x) ∧
      type'.emitted tuples =
        (type.emitted tuples).filter fun x => !conversion.covers tuples x) ∧
    (∀ written, type.conversions ⊆ written →
      (∀ x ∈ type.emitted tuples, ∃ c ∈ written, c.parameters = x.signature.types ∨
        type.tuplesWide = true ∧ c.parameters = [x.operand.type]) →
      ∀ options,
        ({ type with conversions := written } : TypeDecl).unit? tuples options = none) := by
  refine ⟨fun place conversion inside => ?added, fun written kept merged options => ?merged⟩
  case added =>
    have kept : survivors tuples (type.withConversion place conversion).conversions
        (type.candidates tuples) =
          (survivors tuples type.conversions (type.candidates tuples)).filter
            fun x => !conversion.covers tuples x :=
      survivors_of_added (fun c => List.mem_insertIdx inside) _
    refine ⟨kept, ?_⟩
    have rejection : (type.withConversion place conversion).rejection? = type.rejection? := rfl
    cases rejected : type.rejection? with
    | some reason => simp [TypeDecl.emitted, rejection, rejected]
    | none =>
        rw [type.emitted_of_accepted rejected,
          TypeDecl.emitted_of_accepted (rejection.trans rejected)]
        exact kept
  case merged =>
    have rejection : ({ type with conversions := written } : TypeDecl).rejection? =
        type.rejection? := rfl
    rw [TypeDecl.unit?_eq, if_pos]
    cases rejected : type.rejection? with
    | some reason => simp [TypeDecl.emitted, rejection, rejected]
    | none =>
        rw [TypeDecl.emitted_of_accepted (rejection.trans rejected)]
        rw [type.emitted_of_accepted rejected] at merged
        apply survivors_eq_nil kept
        intro x mem
        obtain ⟨c, listed, signature | ⟨wide, operand⟩⟩ := merged x mem
        · refine ⟨c, listed, ?_⟩
          rw [Conversion.covers, signature]
          exact tuples.sameSignature_refl _
        · have candidate : x ∈ type.candidates tuples := (survivors_sublist _ _ _).subset mem
          exact ⟨c, listed, Conversion.covers_of_operand wide candidate operand⟩

/-- A conversion from two numbers leaves nothing of a point: the tuple of two numbers, which yielded
to the numbers one by one, does not come back. The same holds if it is the operator of the unit. -/
theorem survivors_added_pointDecl :
    let number : HostType := .named "System.Int32" "int" .concrete
    let pair : Conversion := { parameters := [.tuple [.mk none number, .mk none number]] }
    let operator : Conversion :=
      { parameters := [.tuple [.mk (some "x") number, .mk (some "y") number]] }
    1 ≤ pointDecl.conversions.length ∧ (pointDecl.emitted .native).length = 1 ∧
      (pointDecl.withConversion 1 pair).emitted .native = [] ∧
      ({ pointDecl with conversions := pointDecl.conversions ++ [operator] } : TypeDecl).unit?
        .native {} = none := by
  intro number pair operator
  obtain ⟨added, merged⟩ := survivors_added pointDecl .native
  refine ⟨Nat.le_refl 1, rfl, (added 1 pair (Nat.le_refl 1)).2, ?_⟩
  apply merged _ (List.subset_append_left _ _)
  intro x mem
  have only : x = (pointDecl.emitted .native)[0] := List.mem_singleton.mp mem
  refine ⟨operator, by simp, .inr ⟨by decide, ?_⟩⟩
  rw [only]
  rfl

end ConversionSynthesis
