import ConversionSynthesis.Proofs.Candidate.InStep
import ConversionSynthesis.Proofs.Declaration.Alike
import ConversionSynthesis.Proofs.Declaration.Essence
import ConversionSynthesis.Proofs.Report.InStep
import ConversionSynthesis.Proofs.Signature.OperandType

/-! # Decisions on like declarations

Declarations whose types have the same essences get the same decisions: the same constructors
qualify and else fail for the same reasons, the same candidates survive, and reports differ at most
in the signatures they spell out.
-/

namespace ConversionSynthesis

open HostType

/-! ## Constructors -/

section Constructors

variable {type type' : TypeDecl} {c c' : Constructor}

theorem TypeDecl.Alike.identity_eq (like : type.Alike SameEssence type') :
    type'.identity = type.identity := by
  rw [like.frame]
  rfl

theorem TypeDecl.Alike.rejection?_eq (like : type.Alike SameEssence type') :
    type'.rejection? = type.rejection? := by
  rw [like.frame]
  rfl

theorem TypeDecl.Alike.unitIdentifier_eq (like : type.Alike SameEssence type')
    (options : UnitOptions) : type'.unitIdentifier options = type.unitIdentifier options := by
  rw [like.frame]
  rfl

theorem parameterFault?_alike (identity : type'.identity = type.identity)
    {parameters parameters' : List Parameter}
    (like : List.Forall₂ (Parameter.Alike SameEssence) parameters parameters') :
    type'.parameterFault? parameters' = type.parameterFault? parameters := by
  cases like with
  | nil => rfl
  | cons first rest =>
      cases rest with
      | nil =>
          simp only [TypeDecl.parameterFault?, first.type.identity?_eq, first.type.isInterface_eq,
            first.type.isGeneralizable_eq, first.name, identity]
      | cons second rest =>
          exact map_find?_eq_of_forall₂ (.cons first (.cons second rest)) fun _ _ pair =>
            ⟨pair.type.isGeneralizable_eq, congrArg _ pair.name⟩

theorem TypeDecl.Alike.ineligibility?_eq (like : type.Alike SameEssence type')
    (likeConstructor : c.Alike SameEssence c') (tuples : TupleSupport) :
    type'.ineligibility? c' tuples = type.ineligibility? c tuples := by
  have optedOut : type'.isOptedOut = type.isOptedOut := by
    rw [like.frame]
  have chain : type'.accessibilityChain = type.accessibilityChain := by
    rw [like.frame]
    rfl
  simp only [TypeDecl.ineligibility?, likeConstructor.isOptedOut, optedOut,
    likeConstructor.isObsolete, chain, likeConstructor.accessibility,
    parameterFault?_alike like.identity_eq likeConstructor.parameters,
    likeConstructor.parameters.length_eq]

/-- Signatures of types with the same essences. -/
def Signature.SameEssences (signature signature' : Signature) : Prop :=
  signature'.types.map essence = signature.types.map essence

theorem Constructor.Alike.signature (like : c.Alike SameEssence c') (tuples : TupleSupport) :
    (c.signature tuples).SameEssences (c'.signature tuples) := by
  have parameters : (c'.parameters.map (·.type)).map essence =
      (c.parameters.map (·.type)).map essence := by
    rw [List.map_map, List.map_map]
    exact map_eq_of_forall₂ like.parameters fun _ _ pair => Eq.symm pair.type
  rw [Signature.SameEssences, c'.types_signature, c.types_signature, ← tuples.unpacked_map_essence,
    parameters, tuples.unpacked_map_essence]

end Constructors

/-! ## Candidates and verdicts -/

/-- Candidates at one position, with signatures that no comparison tells apart. -/
structure Candidate.Alike (x x' : Candidate) : Prop where
  index : x'.index = x.index
  signature : x.signature.SameEssences x'.signature

theorem comparesAlike_of_essences {tuples : TupleSupport} {written written' : List Conversion}
    (writtenLike : List.Forall₂ (Conversion.Alike SameEssence) written written') :
    ComparesAlike Signature.SameEssences tuples tuples written written' where
  among _ _ _ _ like like' := tuples.sameSignature_of_essence like like'
  covered := writtenLike.imp fun _ _ pair _ _ like =>
    tuples.sameSignature_of_essence (map_essence_eq pair.parameters).symm like

namespace TypeDecl.Alike

variable {type type' : TypeDecl}

theorem candidates (like : type.Alike SameEssence type') (tuples : TupleSupport) :
    List.Forall₂ Candidate.Alike (type.candidates tuples) (type'.candidates tuples) := by
  have numbered := forall₂_filter (forall₂_zipIdx like.constructors 0)
    (p := fun entry => (type.ineligibility? entry.1 tuples).isNone)
    (q := fun entry => (type'.ineligibility? entry.1 tuples).isNone)
    fun _ _ pair => congrArg _ (like.ineligibility?_eq pair.1 tuples)
  rw [TypeDecl.candidates, TypeDecl.candidates, List.forall₂_map_left_iff,
    List.forall₂_map_right_iff]
  exact numbered.imp fun _ _ pair => ⟨pair.2, pair.1.signature tuples⟩

theorem verdicts_eq (like : type.Alike SameEssence type') (tuples : TupleSupport) :
    verdicts tuples type'.conversions (type'.candidates tuples) =
      verdicts tuples type.conversions (type.candidates tuples) :=
  (comparesAlike_of_essences like.conversions).verdicts_eq
    ((like.candidates tuples).imp fun _ _ => Candidate.Alike.signature)

theorem emitted (like : type.Alike SameEssence type') (tuples : TupleSupport) :
    List.Forall₂ Candidate.Alike (type.emitted tuples) (type'.emitted tuples) := by
  unfold TypeDecl.emitted
  rw [like.rejection?_eq]
  split
  · exact .nil
  · exact forall₂_survivors (like.candidates tuples) (like.verdicts_eq tuples)

/-- A type and one like it both have a unit or both have none, and units under one identifier. -/
theorem identifier_unit? (like : type.Alike SameEssence type') (tuples : TupleSupport)
    (options : UnitOptions) :
    (type'.unit? tuples options).map (·.identifier) =
      (type.unit? tuples options).map (·.identifier) := by
  have none_iff : type'.emitted tuples = [] ↔ type.emitted tuples = [] := by
    rw [← List.length_eq_zero_iff, ← (like.emitted tuples).length_eq, List.length_eq_zero_iff]
  rw [type.unit?_eq, type'.unit?_eq, like.unitIdentifier_eq]
  by_cases nothing : type.emitted tuples = []
  · rw [if_pos nothing, if_pos (none_iff.mpr nothing)]
  · rw [if_neg nothing, if_neg (mt none_iff.mp nothing)]
    rfl

end TypeDecl.Alike

/-! ## Reports -/

/-- What was decided, without the signature that is spelled out for it. -/
def Outcome.decision : Outcome → Outcome
  | synthesized _ => synthesized []
  | other => other

/-- The decisions in a report: its rejection, and the decision on every constructor. -/
def TypeReport.decisions (report : TypeReport) : TypeReport :=
  { report with
    constructors := report.constructors.map fun entry => ⟨entry.index, entry.outcome.decision⟩ }

namespace TypeDecl

variable {type type' : TypeDecl}

theorem decision_ofVerdict {indices : List Nat} {x x' : Candidate} (verdict : Verdict) :
    (Outcome.ofVerdict indices x' verdict).decision =
      (Outcome.ofVerdict indices x verdict).decision := by
  cases verdict <;> rfl

/-- The same decisions are made about types that differ in spellings and labels only. -/
theorem Alike.decisions_eq (like : type.Alike SameEssence type') (tuples : TupleSupport) :
    (type'.explain tuples).decisions = (type.explain tuples).decisions := by
  cases rejected : type.rejection? with
  | some rejection =>
      simp [explain, TypeReport.decisions, like.rejection?_eq, rejected, like.identity_eq]
  | none =>
      have rejected' : type'.rejection? = none := like.rejection?_eq.trans rejected
      have records := forall₂_constructors_explain
        (fun _ outcome outcome' => outcome'.decision = outcome.decision) rejected rejected'
        like.constructors.length_eq.symm
        (fun place c reason found ineligible => by
          obtain ⟨c', found', pair⟩ := exists_getElem?_of_forall₂ like.constructors found
          exact ⟨c', reason, found', (like.ineligibility?_eq pair tuples).trans ineligible, rfl⟩)
        ((like.candidates tuples).imp fun _ _ pair =>
          ⟨pair.index, fun _ verdict => decision_ofVerdict verdict⟩)
        (like.verdicts_eq tuples)
      have same : (type'.explain tuples).constructors.map
            (fun entry => (⟨entry.index, entry.outcome.decision⟩ : ConstructorReport)) =
          (type.explain tuples).constructors.map fun entry =>
            ⟨entry.index, entry.outcome.decision⟩ :=
        map_eq_of_forall₂ records fun _ _ pair => by rw [pair.1, pair.2]
      simp only [TypeReport.decisions, same]
      simp [explain, rejected, rejected', like.identity_eq]

end TypeDecl

end ConversionSynthesis
