import ConversionSynthesis.Eligibility

/-! # Candidates and their fates

Every eligible constructor is a candidate. A candidate yields to a conversion with its signature
that the author wrote, and to an earlier candidate that survives with the same signature.
-/

namespace ConversionSynthesis

structure Candidate where
  index : Nat
  constructor : Constructor
  signature : Signature

namespace TypeDecl

def candidates (type : TypeDecl) (tuples : TupleSupport) : List Candidate :=
  (type.constructors.zipIdx.filter fun entry =>
      (type.ineligibility? entry.1 tuples).isNone).map
    fun entry => ⟨entry.2, entry.1, entry.1.signature tuples⟩

end TypeDecl

inductive Verdict where
  | survives
  /-- The written conversion at this position has the same signature. -/
  | collides (conversion : Nat)
  /-- The surviving candidate at this earlier position has the same signature. -/
  | duplicates (candidate : Nat)
deriving DecidableEq, Repr

namespace Verdict

def ofSignature (tuples : TupleSupport) (written : List Conversion)
    (survivors : List (Nat × Signature)) (signature : Signature) : Verdict :=
  match written.findIdx? fun c => tuples.sameSignature c.parameters signature.types with
  | some conversion => collides conversion
  | none =>
      match survivors.find? fun s => tuples.sameSignature s.2.types signature.types with
      | some earlier => duplicates earlier.1
      | none => survives

/-- The fates of signatures from `position` on, given the survivors before them. -/
def passFrom (tuples : TupleSupport) (written : List Conversion) :
    List (Nat × Signature) → Nat → List Signature → List Verdict
  | _, _, [] => []
  | survivors, position, signature :: rest =>
      let verdict := ofSignature tuples written survivors signature
      let kept := if verdict = survives then survivors ++ [(position, signature)] else survivors
      verdict :: passFrom tuples written kept (position + 1) rest

end Verdict

def verdicts (tuples : TupleSupport) (written : List Conversion) (candidates : List Candidate) :
    List Verdict :=
  Verdict.passFrom tuples written [] 0 (candidates.map (·.signature))

def survivors (tuples : TupleSupport) (written : List Conversion) (candidates : List Candidate) :
    List Candidate :=
  ((candidates.zip (verdicts tuples written candidates)).filter fun entry =>
    entry.2 = .survives).map (·.1)

theorem Verdict.length_passFrom (tuples : TupleSupport) (written : List Conversion)
    (kept : List (Nat × Signature)) (position : Nat) (signatures : List Signature) :
    (passFrom tuples written kept position signatures).length = signatures.length := by
  induction signatures generalizing kept position with
  | nil => rfl
  | cons signature rest ih => simp [passFrom, ih]

@[simp]
theorem length_verdicts (tuples : TupleSupport) (written : List Conversion)
    (candidates : List Candidate) :
    (verdicts tuples written candidates).length = candidates.length := by
  simp [verdicts, Verdict.length_passFrom]

end ConversionSynthesis
