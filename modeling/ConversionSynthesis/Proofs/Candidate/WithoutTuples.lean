import ConversionSynthesis.Proofs.Candidate.InStep
import ConversionSynthesis.Proofs.Operand.Forwarding

/-! # Units on a host without tuples

Where the host has no tuples, only constructors of one value back conversions, and a tuple that
such a constructor takes is a type like any other. Where the host has tuples it is taken apart,
which changes neither what qualifies nor what compares equal, as long as all values compared are
lone and all tuples have two elements or more. So both hosts get one unit for such constructors.
-/

namespace ConversionSynthesis

open TupleSupport

/-! ## Comparisons on both hosts -/

/-- A signature is the same if what is left of it behind its tuple is. -/
theorem sameSignature_of_unpacked {tuples : TupleSupport} {left left' right right' : List HostType}
    (leftSame : tuples.unpacked left = tuples.unpacked left')
    (rightSame : tuples.unpacked right = tuples.unpacked right') :
    tuples.sameSignature left right = tuples.sameSignature left' right' := by
  rw [sameSignature, sameSignature, leftSame, rightSame]

/-- Signatures of one value on the two hosts. -/
def SameLone (signature signature' : Signature) : Prop :=
  ∃ value : HostType, value.tuplesWide = true ∧ absent.unpacked signature.types = [value] ∧
    native.unpacked signature'.types = native.unpacked [value]

theorem comparesAlike_lone {written : List Conversion}
    (wide : ∀ c ∈ written, ∀ value ∈ c.parameters, value.tuplesWide = true)
    (lone : ∀ c ∈ written, c.parameters.length = 1) :
    ComparesAlike SameLone absent native written written where
  among := by
    rintro s s' t t' ⟨a, wideA, types, types'⟩ ⟨b, wideB, others, others'⟩
    rw [sameSignature_of_unpacked types' others', native.sameSignature_singleton wideA wideB,
      ← absent.sameSignature_singleton wideA wideB]
    exact (sameSignature_of_unpacked types others).symm
  covered := by
    refine List.forall₂_same.mpr fun c mem s s' ⟨a, wideA, types, types'⟩ => ?_
    obtain ⟨value, parameters⟩ := List.length_eq_one_iff.mp (lone c mem)
    have wideValue : value.tuplesWide = true := wide c mem value (by simp [parameters])
    rw [parameters, sameSignature_of_unpacked rfl types',
      native.sameSignature_singleton wideValue wideA,
      ← absent.sameSignature_singleton wideValue wideA]
    exact (sameSignature_of_unpacked rfl types).symm

/-! ## Candidates on both hosts -/

namespace TypeDecl

variable {type : TypeDecl} {c : Constructor}

/-- The type with only those of its constructors that take less than two values. -/
def withoutSeveral (type : TypeDecl) : TypeDecl :=
  { type with constructors := type.constructors.filter fun c => c.parameters.length < 2 }

/-- The constructors of the candidates are the eligible ones. -/
theorem map_constructor_candidates (type : TypeDecl) (tuples : TupleSupport) :
    (type.candidates tuples).map (·.constructor) =
      type.constructors.filter fun c => (type.ineligibility? c tuples).isNone := by
  have firsts := congrArg (List.filter fun c => (type.ineligibility? c tuples).isNone)
    (List.zipIdx_map_fst 0 type.constructors)
  rw [List.filter_map] at firsts
  rw [candidates, List.map_map]
  exact firsts

theorem ineligibility?_eq_none_iff :
    type.ineligibility? c .absent = none ↔
      c.parameters.length < 2 ∧ type.ineligibility? c .native = none := by
  have same (few : c.parameters.length < 2) :
      type.ineligibility? c .absent = type.ineligibility? c .native := by
    have single : ¬ 1 < c.parameters.length := by omega
    simp only [ineligibility?, single, and_false]
  constructor
  · intro eligible
    obtain ⟨-, absurdly | single⟩ := backs_of_eligible eligible
    · cases absurdly
    · exact ⟨by omega, (same (by omega)).symm.trans eligible⟩
  · rintro ⟨few, eligible⟩
    exact (same few).trans eligible

theorem exists_lone_of_eligible (eligible : type.ineligibility? c .absent = none) :
    ∃ only, c.parameters = [only] := by
  obtain ⟨-, absurdly | single⟩ := backs_of_eligible eligible
  · cases absurdly
  · exact List.length_eq_one_iff.mp single

/-- A constructor that qualifies without tuples has the same lone value on both hosts. -/
theorem sameLone_of_eligible (wide : ∀ p ∈ c.parameters, p.type.tuplesWide = true)
    (eligible : type.ineligibility? c .absent = none) :
    SameLone (c.signature .absent) (c.signature .native) := by
  obtain ⟨only, parameters⟩ := exists_lone_of_eligible eligible
  refine ⟨only.type, wide only (by simp [parameters]), ?_, ?_⟩
  · rw [Constructor.unpacked_signature absent wide, parameters]
    rfl
  · rw [Constructor.unpacked_signature native wide, parameters]
    rfl

/-- The candidates of both hosts go together. -/
theorem forall₂_candidates_lone (wide : type.tuplesWide = true) :
    List.Forall₂ (fun x x' => SameLone x.signature x'.signature ∧
        x'.constructor = x.constructor ∧ ∃ only, x.constructor.parameters = [only])
      (type.candidates .absent) (type.withoutSeveral.candidates .native) := by
  have constructors : (type.candidates .absent).map (·.constructor) =
      (type.withoutSeveral.candidates .native).map (·.constructor) := by
    rw [map_constructor_candidates, map_constructor_candidates, withoutSeveral,
      List.filter_filter]
    refine List.filter_congr fun c _ => ?_
    rw [Bool.eq_iff_iff, Option.isNone_iff_eq_none, ineligibility?_eq_none_iff, Bool.and_eq_true,
      Option.isNone_iff_eq_none, decide_eq_true_eq, and_comm]
    rfl
  rw [← List.forall₂_eq_eq_eq, List.forall₂_map_left_iff, List.forall₂_map_right_iff]
    at constructors
  refine (forall₂_with_mem constructors).imp ?_
  rintro x x' ⟨mem, mem', same⟩
  obtain ⟨found, eligible, signature⟩ := mem_candidates.mp mem
  obtain ⟨-, -, signature'⟩ := mem_candidates.mp mem'
  rw [signature, signature', ← same]
  exact ⟨sameLone_of_eligible (wide_of_mem wide (List.mem_of_getElem? found)) eligible, rfl,
    exists_lone_of_eligible eligible⟩

theorem forall₂_emitted_lone (wide : type.tuplesWide = true)
    (lone : ∀ c ∈ type.conversions, c.parameters.length = 1) :
    List.Forall₂ (fun x x' => x'.constructor = x.constructor ∧
        ∃ only, x.constructor.parameters = [only])
      (type.emitted .absent) (type.withoutSeveral.emitted .native) := by
  have candidates := forall₂_candidates_lone wide
  have wideWritten : ∀ c ∈ type.conversions, ∀ value ∈ c.parameters, value.tuplesWide = true := by
    simp only [tuplesWide, Bool.and_eq_true, List.all_eq_true] at wide
    exact wide.2
  have judged := (comparesAlike_lone wideWritten lone).verdicts_eq
    (candidates.imp fun _ _ pair => pair.1)
  have rejection : type.withoutSeveral.rejection? = type.rejection? := rfl
  unfold emitted
  rw [rejection]
  split
  · exact .nil
  · exact forall₂_survivors (candidates.imp fun _ _ pair => pair.2) judged

/-! ## The text of the unit -/

theorem operator_congr {owner owner' : TypeDecl} {x x' : Candidate}
    (target : owner'.qualifiedDisplay = owner.qualifiedDisplay) (operand : x'.operand = x.operand) :
    x'.operator owner' = x.operator owner := by
  unfold Candidate.operator
  rw [target, operand]

theorem operatorSteps_congr {owner owner' : TypeDecl} {xs xs' : List Candidate}
    (summary : owner'.operatorSummary = owner.operatorSummary)
    (same : List.Forall₂ (fun x x' => x'.operator owner' = x.operator owner) xs xs') :
    owner'.operatorSteps xs' = owner.operatorSteps xs := by
  -- A blank line follows every operator but the last, so the steps follow the recursion.
  have unfolded (type : TypeDecl) (x y : Candidate) (rest : List Candidate) :
      type.operatorSteps (x :: y :: rest) =
        .line type.operatorSummary :: .line (x.operator type) :: .blank ::
          type.operatorSteps (y :: rest) := rfl
  induction same with
  | nil => rfl
  | cons first rest ih =>
      cases rest with
      | nil => simp only [operatorSteps, summary, first]
      | cons second rest => rw [unfolded, unfolded, summary, first, ih]

theorem unitText_congr {owner owner' : TypeDecl} {xs xs' : List Candidate} {options : UnitOptions}
    (preamble : owner'.preamble options = owner.preamble options)
    (heads : owner'.blockHeads = owner.blockHeads)
    (steps : owner'.operatorSteps xs' = owner.operatorSteps xs) :
    owner'.unitText xs' options = owner.unitText xs options := by
  rw [unitText, unitText, unitSteps, unitSteps, preamble, heads, steps]

end TypeDecl

/-- A host without tuples gets the unit that a host with tuples gets from the constructors of less
than two values, if the author's conversions take one value each. -/
theorem TypeDecl.unit?_without_tuples {type : TypeDecl} (wide : type.tuplesWide = true)
    (lone : ∀ c ∈ type.conversions, c.parameters.length = 1) (options : UnitOptions) :
    type.unit? .absent options = type.withoutSeveral.unit? .native options := by
  have emitted := forall₂_emitted_lone wide lone
  have operators : List.Forall₂
      (fun x x' => x'.operator type.withoutSeveral = x.operator type)
      (type.emitted .absent) (type.withoutSeveral.emitted .native) := by
    refine emitted.imp ?_
    rintro x x' ⟨same, only, parameters⟩
    have parameters' : x'.constructor.parameters = [only] := by rw [same, parameters]
    -- The operand is the lone parameter, whatever the signature.
    have operand : x'.operand = x.operand :=
      (Candidate.operand_of_lone parameters').trans (Candidate.operand_of_lone parameters).symm
    exact operator_congr rfl operand
  have text : type.withoutSeveral.unitText (type.withoutSeveral.emitted .native) options =
      type.unitText (type.emitted .absent) options :=
    unitText_congr rfl rfl (operatorSteps_congr rfl operators)
  have none_iff : type.withoutSeveral.emitted .native = [] ↔ type.emitted .absent = [] := by
    rw [← List.length_eq_zero_iff, ← emitted.length_eq, List.length_eq_zero_iff]
  rw [unit?_eq, unit?_eq, text]
  by_cases nothing : type.emitted .absent = []
  · rw [if_pos nothing, if_pos (none_iff.mpr nothing)]
  · rw [if_neg nothing, if_neg (mt none_iff.mp nothing)]
    rfl

/-- The tuple of two numbers is the only operand that a point gets on a host without tuples, and on
one with tuples if the constructor from two numbers is left out. -/
theorem TypeDecl.unit?_without_tuples_point :
    pointDecl.tuplesWide = true ∧ 0 < pointDecl.conversions.length ∧
      (∀ c ∈ pointDecl.conversions, c.parameters.length = 1) ∧
      pointDecl.unit? .absent {} = pointDecl.withoutSeveral.unit? .native {} ∧
      pointDecl.unit? .absent {} ≠ none := by
  have wide : pointDecl.tuplesWide = true := by decide
  have lone : ∀ c ∈ pointDecl.conversions, c.parameters.length = 1 := by simp [pointDecl]
  exact ⟨wide, by decide, lone, unit?_without_tuples wide lone {}, by decide +kernel⟩

end ConversionSynthesis
