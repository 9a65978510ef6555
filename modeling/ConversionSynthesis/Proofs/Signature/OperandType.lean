import ConversionSynthesis.Proofs.Candidate.Emission

/-! # Signatures and the types of operands

The host tells conversion operators apart by the type of their operand. A constructor's operand is
its only parameter or a tuple of all its parameters. Tuples are unpacked twice on the way to a
comparison, once when the signature is read off a constructor and once when two signatures are
compared; where every tuple has two elements or more, both together compare operand types.
-/

namespace ConversionSynthesis

namespace HostType

mutual

/-- Whether every tuple in a type, at any depth, has at least two elements. -/
def tuplesWide : HostType → Bool
  | named .. => true
  | tuple elements => decide (2 ≤ elements.length) && allTuplesWide elements

/-- Whether every tuple in the types of some elements has at least two elements. -/
def allTuplesWide : List TupleElement → Bool
  | [] => true
  | .mk _ type :: rest => type.tuplesWide && allTuplesWide rest

end

theorem allTuplesWide_eq_all (elements : List TupleElement) :
    allTuplesWide elements = elements.all (·.type.tuplesWide) := by
  induction elements with
  | nil => rfl
  | cons element rest ih => cases element; simp [allTuplesWide, ih, TupleElement.type]

theorem length_of_tuplesWide {elements : List TupleElement}
    (wide : (tuple elements).tuplesWide = true) : 2 ≤ elements.length := by
  simp only [tuplesWide, Bool.and_eq_true, decide_eq_true_eq] at wide
  exact wide.1

end HostType

/-- Whether every tuple in the constructors and conversions of a type has at least two elements. -/
def TypeDecl.tuplesWide (type : TypeDecl) : Bool :=
  (type.constructors.all fun c => c.parameters.all (·.type.tuplesWide)) &&
    type.conversions.all fun c => c.parameters.all (·.tuplesWide)

/-- The type of the operand that carries all the values of a constructor. -/
def Constructor.operandType (constructor : Constructor) : HostType :=
  match constructor.parameters with
  | [only] => only.type
  | several => .tuple (several.map fun parameter => .mk none parameter.type)

/-- The type of an operand as it is declared. -/
def Operand.type : Operand → HostType
  | sole parameter => parameter.type
  | packed elements => .tuple (elements.map fun element => .mk element.label element.type)

namespace TupleSupport

/-- A sequence that is no lone type is compared as it stands. -/
theorem unpacked_of_two_le (tuples : TupleSupport) {types : List HostType}
    (many : 2 ≤ types.length) : tuples.unpacked types = types := by
  match types, many with
  | first :: second :: rest, _ => cases tuples <;> cases first <;> rfl

/-- A wide tuple is unpacked once: what it holds is no lone type. -/
theorem unpacked_unpacked (tuples : TupleSupport) {types : List HostType}
    (wide : ∀ type ∈ types, type.tuplesWide = true) :
    tuples.unpacked (tuples.unpacked types) = tuples.unpacked types := by
  match tuples, types with
  | .absent, _ => rfl
  | .native, [] => rfl
  | .native, [.named _ _ _] => rfl
  | .native, [.tuple elements] =>
      have many := HostType.length_of_tuplesWide (wide _ List.mem_cons_self)
      exact unpacked_of_two_le _ (by simpa [unpacked] using many)
  | .native, first :: second :: rest =>
      have stays : native.unpacked (first :: second :: rest) = _ := unpacked_of_two_le _ (by simp)
      rw [stays, stays]

theorem signatureCore_name_ne_tuple {identity display : String} {capability : Capability}
    {elements : List TupleElement} (wide : (HostType.tuple elements).tuplesWide = true) :
    native.signatureCore [.named identity display capability] ≠
      native.signatureCore [.tuple elements] := by
  intro equal
  have many := HostType.length_of_tuplesWide wide
  have lengths := congrArg List.length equal
  simp only [signatureCore, unpacked, List.length_map, List.length_singleton] at lengths
  omega

/-- Lone types of wide tuples compare as signatures just if they are the same type. -/
theorem sameSignature_singleton (tuples : TupleSupport) {a b : HostType}
    (wideA : a.tuplesWide = true) (wideB : b.tuplesWide = true) :
    tuples.sameSignature [a] [b] = a.same b := by
  rw [Bool.eq_iff_iff, sameSignature_iff, HostType.same_iff_core_eq]
  cases tuples with
  | absent => simp [signatureCore, unpacked]
  | native =>
      cases a with
      | named i d c =>
          cases b with
          | named j e f => simp [signatureCore, unpacked]
          | tuple right =>
              refine iff_of_false (signatureCore_name_ne_tuple wideB) ?_
              intro impossible
              cases impossible
      | tuple left =>
          cases b with
          | named j e f =>
              refine iff_of_false (signatureCore_name_ne_tuple wideA).symm ?_
              intro impossible
              cases impossible
          | tuple right =>
              rw [← HostType.same_iff_core_eq, HostType.same, HostType.sameElements_eq_sameTypes,
                HostType.sameTypes_iff_map_core_eq]
              rfl

end TupleSupport

namespace Constructor

variable {constructor : Constructor} {tuples : TupleSupport}

theorem types_tupleSignature (elements : List TupleElement) :
    (tupleSignature elements).types = elements.map (·.type) := by
  apply List.ext_getElem?
  intro i
  simp [tupleSignature, Signature.types, Function.comp_def]

theorem types_signature_of_not_lone (tuples : TupleSupport)
    (several : ∀ only, constructor.parameters = [only] → False) :
    (constructor.signature tuples).types = constructor.parameters.map (·.type) := by
  have sole : constructor.soleTuple? = none := by
    unfold soleTuple?
    split
    · rename_i only parameters
      exact absurd parameters (several only)
    · rfl
  unfold signature
  rw [sole]
  cases tuples <;> simp [Signature.types, Function.comp_def]

theorem operandType_of_not_lone (several : ∀ only, constructor.parameters = [only] → False) :
    constructor.operandType =
      .tuple (constructor.parameters.map fun parameter => .mk none parameter.type) := by
  unfold operandType
  split
  · rename_i only parameters
    exact absurd parameters (several only)
  · rfl

/-- The types of a signature are those of the parameters, unpacked. -/
theorem types_signature (constructor : Constructor) (tuples : TupleSupport) :
    (constructor.signature tuples).types =
      tuples.unpacked (constructor.parameters.map (·.type)) := by
  obtain ⟨accessibility, optedOut, obsolete, parameters⟩ := constructor
  match tuples, parameters with
  | .absent, parameters => simp [signature, Signature.types, TupleSupport.unpacked]
  | .native, [] => exact types_signature_of_not_lone _ (by simp)
  | .native, [⟨_, .named _ _ _⟩] => rfl
  | .native, [⟨_, .tuple elements⟩] => exact types_tupleSignature elements
  | .native, first :: second :: rest =>
      rw [types_signature_of_not_lone _ (by simp)]
      simp [TupleSupport.unpacked]

/-- Reading a signature off a constructor loses nothing that a comparison sees: a lone tuple is
unpacked once, whether by the constructor or by the comparison. -/
theorem unpacked_signature (tuples : TupleSupport)
    (wide : ∀ p ∈ constructor.parameters, p.type.tuplesWide = true) :
    tuples.unpacked (constructor.signature tuples).types =
      tuples.unpacked (constructor.parameters.map (·.type)) := by
  rw [types_signature, tuples.unpacked_unpacked (List.forall_mem_map.mpr wide)]

theorem unpacked_operandType (tuples : TupleSupport)
    (backs : constructor.parameters ≠ [] ∧
      (tuples = .native ∨ constructor.parameters.length = 1)) :
    tuples.unpacked (constructor.parameters.map (·.type)) =
      tuples.unpacked [constructor.operandType] := by
  obtain ⟨accessibility, optedOut, obsolete, parameters⟩ := constructor
  match parameters, backs with
  | [only], _ => rfl
  | first :: second :: rest, ⟨_, .inl native⟩ =>
      rw [native, TupleSupport.unpacked_of_two_le _ (by simp)]
      simp [operandType, TupleSupport.unpacked, TupleElement.type]

theorem tuplesWide_operandType (some : constructor.parameters ≠ [])
    (wide : ∀ p ∈ constructor.parameters, p.type.tuplesWide = true) :
    constructor.operandType.tuplesWide = true := by
  obtain ⟨accessibility, optedOut, obsolete, parameters⟩ := constructor
  match parameters, some with
  | [only], _ => exact wide only List.mem_cons_self
  | first :: second :: rest, _ =>
      simp only [operandType, HostType.tuplesWide, Bool.and_eq_true, decide_eq_true_eq]
      refine ⟨by simp, ?_⟩
      rw [HostType.allTuplesWide_eq_all, List.all_map, List.all_eq_true]
      exact wide

end Constructor

/-! ## Eligible constructors -/

namespace TypeDecl

variable {type : TypeDecl} {tuples : TupleSupport} {a b : Constructor}

theorem backs_of_eligible (eligible : type.ineligibility? a tuples = none) :
    a.parameters ≠ [] ∧ (tuples = .native ∨ a.parameters.length = 1) := by
  unfold ineligibility? at eligible
  split at eligible
  · simp at eligible
  split at eligible
  · simp at eligible
  split at eligible
  · simp at eligible
  split at eligible
  · simp at eligible
  rename_i faultless
  split at eligible
  · simp at eligible
  rename_i carried
  have some : a.parameters ≠ [] := by
    intro none
    simp [parameterFault?, none] at faultless
  refine ⟨some, ?_⟩
  have positive := List.length_pos_iff.mpr some
  cases tuples with
  | native => exact Or.inl rfl
  | absent =>
      have single : ¬ 1 < a.parameters.length := by simpa using carried
      omega

theorem wide_of_mem (wide : type.tuplesWide = true) (mem : a ∈ type.constructors) :
    ∀ p ∈ a.parameters, p.type.tuplesWide = true := by
  simp only [tuplesWide, Bool.and_eq_true, List.all_eq_true] at wide
  exact wide.1 a mem

/-- A written conversion clashes with the signature of a constructor just if it clashes with the
parameters as they are declared. -/
theorem sameSignature_signature (wide : type.tuplesWide = true) (mem : a ∈ type.constructors)
    (types : List HostType) :
    tuples.sameSignature types (a.signature tuples).types =
      tuples.sameSignature types (a.parameters.map (·.type)) := by
  unfold TupleSupport.sameSignature
  rw [Constructor.unpacked_signature tuples (wide_of_mem wide mem)]

theorem unpacked_signature_of_eligible (wide : type.tuplesWide = true)
    (mem : a ∈ type.constructors) (eligible : type.ineligibility? a tuples = none) :
    tuples.unpacked (a.signature tuples).types = tuples.unpacked [a.operandType] := by
  rw [Constructor.unpacked_signature tuples (wide_of_mem wide mem)]
  exact Constructor.unpacked_operandType tuples (backs_of_eligible eligible)

/-- Signatures of eligible constructors are equal just if their operands have one type. -/
theorem sameSignature_of_eligible (wide : type.tuplesWide = true)
    (memA : a ∈ type.constructors) (memB : b ∈ type.constructors)
    (eligibleA : type.ineligibility? a tuples = none)
    (eligibleB : type.ineligibility? b tuples = none) :
    tuples.sameSignature (a.signature tuples).types (b.signature tuples).types =
      a.operandType.same b.operandType := by
  rw [← TupleSupport.sameSignature_singleton tuples
    (Constructor.tuplesWide_operandType (backs_of_eligible eligibleA).1 (wide_of_mem wide memA))
    (Constructor.tuplesWide_operandType (backs_of_eligible eligibleB).1 (wide_of_mem wide memB))]
  unfold TupleSupport.sameSignature
  rw [unpacked_signature_of_eligible wide memA eligibleA,
    unpacked_signature_of_eligible wide memB eligibleB]

end TypeDecl

/-! ## Operators of a unit -/

theorem types_operandElements (position : Nat) (signature : Signature) :
    (operandElements position signature).map (·.type) = signature.types := by
  induction signature generalizing position with
  | nil => rfl
  | cons element rest ih => simpa [operandElements, Signature.types] using ih (position + 1)

theorem Operand.ofConstructor_of_not_lone {constructor : Constructor}
    (several : ∀ only, constructor.parameters = [only] → False) (signature : Signature) :
    ofConstructor constructor signature = .packed (operandElements 1 signature) := by
  unfold ofConstructor
  split
  · rename_i only parameters
    exact absurd parameters (several only)
  · rfl

namespace Candidate

variable {type : TypeDecl} {tuples : TupleSupport} {x y : Candidate}

/-- The operand of an operator is declared with the type that its constructor asks for, but for
the labels. -/
theorem core_type_operand (mem : x ∈ type.candidates tuples) :
    x.operand.type.core = x.constructor.operandType.core := by
  obtain ⟨_, _, signature⟩ := TypeDecl.mem_candidates.mp mem
  by_cases lone : ∃ only, x.constructor.parameters = [only]
  · obtain ⟨only, parameters⟩ := lone
    simp only [operand, Operand.ofConstructor, Constructor.operandType, parameters, Operand.type]
  · have several : ∀ only, x.constructor.parameters = [only] → False :=
      fun only parameters => lone ⟨only, parameters⟩
    have types : (operandElements 1 x.signature).map (·.type) =
        x.constructor.parameters.map (·.type) := by
      rw [types_operandElements, signature]
      exact Constructor.types_signature_of_not_lone tuples several
    have cores := congrArg (List.map fun t => TupleElement.mk none t.core) types
    rw [operand, Operand.ofConstructor_of_not_lone several,
      Constructor.operandType_of_not_lone several]
    simpa [Operand.type, HostType.core, HostType.coreElements_eq_map, TupleElement.type,
      Function.comp_def] using cores

theorem same_type_operand (memX : x ∈ type.candidates tuples) (memY : y ∈ type.candidates tuples) :
    x.operand.type.same y.operand.type =
      x.constructor.operandType.same y.constructor.operandType := by
  rw [Bool.eq_iff_iff, HostType.same_iff_core_eq, HostType.same_iff_core_eq,
    core_type_operand memX, core_type_operand memY]

theorem rivals_iff_same_operandType (wide : type.tuplesWide = true)
    (memX : x ∈ type.candidates tuples) (memY : y ∈ type.candidates tuples) :
    x.rivals tuples y = x.constructor.operandType.same y.constructor.operandType := by
  obtain ⟨foundX, eligibleX, signatureX⟩ := TypeDecl.mem_candidates.mp memX
  obtain ⟨foundY, eligibleY, signatureY⟩ := TypeDecl.mem_candidates.mp memY
  rw [rivals, signatureX, signatureY]
  exact TypeDecl.sameSignature_of_eligible wide (List.mem_of_getElem? foundX)
    (List.mem_of_getElem? foundY) eligibleX eligibleY

end Candidate

theorem TypeDecl.pairwise_operandType_emitted {type : TypeDecl} {tuples : TupleSupport}
    (wide : type.tuplesWide = true) :
    (type.emitted tuples).Pairwise fun x y => x.operand.type.same y.operand.type = false := by
  refine (type.pairwise_rivals_emitted tuples).imp_of_mem ?_
  intro x y memX memY apart
  have candidateX := (type.emitted_sublist tuples).subset memX
  have candidateY := (type.emitted_sublist tuples).subset memY
  rw [Candidate.same_type_operand candidateX candidateY,
    ← Candidate.rivals_iff_same_operandType wide candidateX candidateY]
  exact apart

/-- An eligible constructor is served by an operator of the unit or by a written conversion. -/
theorem TypeDecl.served_of_eligible {type : TypeDecl} {tuples : TupleSupport}
    {constructor : Constructor} (wide : type.tuplesWide = true) (accepted : type.rejection? = none)
    (mem : constructor ∈ type.constructors)
    (eligible : type.ineligibility? constructor tuples = none) :
    (∃ x ∈ type.emitted tuples, x.operand.type.same constructor.operandType = true) ∨
      ∃ c ∈ type.conversions,
        tuples.sameSignature c.parameters (constructor.signature tuples).types = true := by
  obtain ⟨index, found⟩ := List.mem_iff_getElem?.mp mem
  let candidate : Candidate := ⟨index, constructor, constructor.signature tuples⟩
  have candidate_mem : candidate ∈ type.candidates tuples :=
    TypeDecl.mem_candidates.mpr ⟨found, eligible, rfl⟩
  by_cases free : ∀ c ∈ type.conversions, c.covers tuples candidate = false
  · left
    have one := countP_rivals_survivors candidate_mem free
    rw [← type.emitted_of_accepted accepted] at one
    obtain ⟨x, x_mem, rival⟩ := List.countP_pos_iff.mp (by rw [one]; exact Nat.one_pos)
    have x_candidate := (type.emitted_sublist tuples).subset x_mem
    refine ⟨x, x_mem, ?_⟩
    rw [Candidate.rivals_iff_same_operandType wide x_candidate candidate_mem] at rival
    rw [HostType.same_iff_core_eq] at rival ⊢
    rw [Candidate.core_type_operand x_candidate, rival]
  · right
    simpa [Conversion.covers, candidate] using free

/-- A point built from two numbers, from the same numbers in a tuple, or from a text that the author
converts himself. -/
def pointDecl : TypeDecl :=
  let number : HostType := .named "System.Int32" "int" .concrete
  let text : HostType := .named "System.String" "string" .concrete
  { name := "Point"
    constructors := [{ parameters := [⟨"x", number⟩, ⟨"y", number⟩] },
      { parameters := [⟨"pair", .tuple [.mk (some "x") number, .mk none number]⟩] },
      { parameters := [⟨"s", text⟩] }]
    conversions := [{ parameters := [text] }] }

end ConversionSynthesis
