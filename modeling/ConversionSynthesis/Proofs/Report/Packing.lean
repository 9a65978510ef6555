import ConversionSynthesis.Proofs.Report.Decisions

/-! # Values one by one or in a tuple

On a host with tuples a constructor may take several values one by one or all of them in one tuple.
Both forms have the same signature and are refused for the same reasons, so that a type may change
from one to the other without any effect on the rest of it.
-/

namespace ConversionSynthesis

/-! ## What is decided, without names -/

/-- A reason without the name of the parameter that it speaks of. -/
def Ineligibility.unnamed : Ineligibility → Ineligibility
  | generalizable _ => generalizable ""
  | other => other

/-- A signature without the names of its elements. -/
def Signature.unnamed (signature : Signature) : Signature :=
  signature.map fun element => ⟨"", element.type⟩

/-- An outcome without the names of parameters and tuple elements. -/
def Outcome.unnamed : Outcome → Outcome
  | synthesized signature => synthesized signature.unnamed
  | ineligible reason => ineligible reason.unnamed
  | other => other

theorem Signature.unnamed_eq_of_types_eq {signature signature' : Signature}
    (same : signature'.types = signature.types) : signature'.unnamed = signature.unnamed := by
  have named := congrArg (List.map fun type => (⟨"", type⟩ : SignatureElement)) same
  rwa [types, types, List.map_map, List.map_map] at named

theorem Outcome.unnamed_ofVerdict {indices : List Nat} {x x' : Candidate}
    (same : x'.signature.types = x.signature.types) (verdict : Verdict) :
    (ofVerdict indices x' verdict).unnamed = (ofVerdict indices x verdict).unnamed := by
  cases verdict with
  | survives => exact congrArg synthesized (Signature.unnamed_eq_of_types_eq same)
  | collides conversion => rfl
  | duplicates earlier => rfl

/-! ## Packed constructors -/

/-- The one constructor takes in a tuple the values that the other one takes one by one; the labels
in the tuple are free. -/
structure Constructor.Packs (packed constructor : Constructor) : Prop where
  accessibility : packed.accessibility = constructor.accessibility
  isOptedOut : packed.isOptedOut = constructor.isOptedOut
  isObsolete : packed.isObsolete = constructor.isObsolete
  several : 2 ≤ constructor.parameters.length
  parameters : ∃ name elements, packed.parameters = [⟨name, .tuple elements⟩] ∧
    elements.map (·.type) = constructor.parameters.map (·.type)

/-- The type with another constructor in the place of one. -/
def TypeDecl.withConstructor (type : TypeDecl) (place : Nat) (constructor : Constructor) :
    TypeDecl :=
  { type with constructors := type.constructors.set place constructor }

section

variable {packed constructor : Constructor}

theorem Constructor.Packs.types_signature (packs : packed.Packs constructor) :
    (packed.signature .native).types = (constructor.signature .native).types := by
  obtain ⟨name, elements, parameters, types⟩ := packs.parameters
  calc (packed.signature .native).types
      = elements.map (·.type) := by
        rw [packed.types_signature, parameters]
        rfl
    _ = constructor.parameters.map (·.type) := types
    _ = (constructor.signature .native).types := by
        rw [constructor.types_signature,
          TupleSupport.unpacked_of_two_le _ (by simpa using packs.several)]

theorem map_find?_const {α β : Type} (p : α → Bool) (y : β) (xs : List α) :
    (xs.find? p).map (fun _ => y) = if xs.any p then some y else none := by
  induction xs with
  | nil => rfl
  | cons x rest ih =>
      rw [List.find?_cons, List.any_cons]
      cases p x with
      | true => rfl
      | false => exact ih

/-- A tuple can be generalized if one of the values packed in it can. -/
theorem parameterFault?_packed (type : TypeDecl) (packs : packed.Packs constructor) :
    (type.parameterFault? packed.parameters).map Ineligibility.unnamed =
      (type.parameterFault? constructor.parameters).map Ineligibility.unnamed := by
  obtain ⟨name, elements, parameters, types⟩ := packs.parameters
  have several := packs.several
  have whole : (HostType.tuple elements).isGeneralizable =
      constructor.parameters.any (·.type.isGeneralizable) := by
    have each := congrArg (List.any · HostType.isGeneralizable) types
    rw [List.any_map, List.any_map] at each
    rw [HostType.isGeneralizable, HostType.anyGeneralizable_eq_any]
    exact each
  have ofPacked : (type.parameterFault? packed.parameters).map Ineligibility.unnamed =
      if (HostType.tuple elements).isGeneralizable then some (.generalizable "") else none := by
    rw [parameters, TypeDecl.parameterFault?, if_neg (by simp [HostType.identity?]),
      if_neg (by simp [HostType.isInterface])]
    split <;> rfl
  have oneByOne : (type.parameterFault? constructor.parameters).map Ineligibility.unnamed =
      if constructor.parameters.any (·.type.isGeneralizable) then some (.generalizable "")
      else none := by
    generalize constructor.parameters = values at several
    obtain _ | ⟨first, _ | ⟨second, rest⟩⟩ := values
    · simp at several
    · simp at several
    · have fault : type.parameterFault? (first :: second :: rest) =
          ((first :: second :: rest).find? (·.type.isGeneralizable)).map fun parameter =>
            .generalizable parameter.name := rfl
      rw [fault, Option.map_map, ← map_find?_const]
      rfl
  rw [ofPacked, oneByOne, whole]

/-- Packing values changes at most the name that a reason speaks of. -/
theorem ineligibility?_packed (type : TypeDecl) (packs : packed.Packs constructor) :
    (type.ineligibility? packed .native).map Ineligibility.unnamed =
      (type.ineligibility? constructor .native).map Ineligibility.unnamed := by
  have faults := parameterFault?_packed type packs
  unfold TypeDecl.ineligibility?
  rw [packs.accessibility, packs.isOptedOut, packs.isObsolete]
  split
  · rfl
  split
  · rfl
  split
  · rfl
  generalize type.parameterFault? packed.parameters = fault' at faults
  generalize type.parameterFault? constructor.parameters = fault at faults
  cases fault <;> cases fault' <;> simp_all

end

/-! ## The report of the type -/

section

variable {type : TypeDecl} {place : Nat} {packed constructor : Constructor}

/-- The candidates of both types go together, and only the one at the place of the exchange differs,
in the names of its signature. -/
theorem forall₂_candidates_packed (found : type.constructors[place]? = some constructor)
    (packs : packed.Packs constructor) :
    List.Forall₂ (fun x x' => x'.index = x.index ∧ x'.signature.types = x.signature.types ∧
        (x.index ≠ place → x' = x))
      (type.candidates .native) ((type.withConstructor place packed).candidates .native) := by
  have reason (c : Constructor) : (type.withConstructor place packed).ineligibility? c .native =
      type.ineligibility? c .native := rfl
  have qualify : (type.ineligibility? packed .native).isNone =
      (type.ineligibility? constructor .native).isNone := by
    have same := congrArg Option.isNone (ineligibility?_packed type packs)
    rwa [Option.isNone_map, Option.isNone_map] at same
  have listed := forall₂_filter (forall₂_zipIdx_set found packed)
    (p := fun entry => (type.ineligibility? entry.1 .native).isNone)
    (q := fun entry => ((type.withConstructor place packed).ineligibility? entry.1 .native).isNone)
    fun entry entry' pair => by
      rw [reason]
      rcases pair.2 with ⟨same, -⟩ | ⟨here, here', -⟩
      · rw [same]
      · rw [here, here', qualify]
  rw [TypeDecl.candidates, TypeDecl.candidates, List.forall₂_map_left_iff,
    List.forall₂_map_right_iff]
  refine listed.imp fun entry entry' pair => ⟨pair.1, ?_⟩
  rcases pair.2 with ⟨same, elsewhere⟩ | ⟨here, here', same⟩
  · simp [same, pair.1]
  · rw [here, here']
    exact ⟨packs.types_signature, fun elsewhere => absurd same elsewhere⟩

theorem verdicts_packed (found : type.constructors[place]? = some constructor)
    (packs : packed.Packs constructor) :
    verdicts .native (type.withConstructor place packed).conversions
        ((type.withConstructor place packed).candidates .native) =
      verdicts .native type.conversions (type.candidates .native) := by
  have alike : ComparesAlike (fun signature signature' => signature'.types = signature.types)
      .native .native type.conversions type.conversions := {
    among := fun _ _ _ _ same same' => by rw [same, same']
    covered := List.forall₂_same.mpr fun _ _ _ _ same => by rw [same] }
  exact alike.verdicts_eq ((forall₂_candidates_packed found packs).imp fun _ _ pair => pair.2.1)

theorem exists_reason_packed (found : type.constructors[place]? = some constructor)
    (packs : packed.Packs constructor) {index : Nat} {c : Constructor} {reason : Ineligibility}
    (listed : type.constructors[index]? = some c)
    (ineligible : type.ineligibility? c .native = some reason) :
    ∃ c' reason', (type.withConstructor place packed).constructors[index]? = some c' ∧
      (type.withConstructor place packed).ineligibility? c' .native = some reason' ∧
      reason'.unnamed = reason.unnamed ∧ (index ≠ place → reason' = reason) := by
  by_cases here : index = place
  · subst here
    rw [found, Option.some.injEq] at listed
    have bound : index < type.constructors.length :=
      (List.getElem?_eq_some_iff.mp found).choose
    have reasons := ineligibility?_packed type packs
    rw [listed, ineligible, Option.map_some, Option.map_eq_some_iff] at reasons
    obtain ⟨reason', ineligible', same⟩ := reasons
    exact ⟨packed, reason', List.getElem?_set_self bound, ineligible', same,
      fun apart => absurd rfl apart⟩
  · exact ⟨c, reason, (List.getElem?_set_ne (Ne.symm here)).trans listed, ineligible, rfl,
      fun _ => rfl⟩

/-- Packing the values of a constructor in a tuple is invisible to the rest of the type. It is
rejected for the same reason or not at all, all other records stay as they are, and the record of
the constructor has the same outcome, up to the names in its signature or of the parameter that its
reason speaks of. -/
theorem explain_packed (found : type.constructors[place]? = some constructor)
    (packs : packed.Packs constructor) :
    let report := type.explain .native
    let report' := (type.withConstructor place packed).explain .native
    report'.identity = report.identity ∧ report'.rejection = report.rejection ∧
      List.Forall₂ (fun entry entry' => entry'.index = entry.index ∧
          entry'.outcome.unnamed = entry.outcome.unnamed ∧ (entry.index ≠ place → entry' = entry))
        report.constructors report'.constructors := by
  have rejection : (type.withConstructor place packed).rejection? = type.rejection? := rfl
  have identity : (type.withConstructor place packed).identity = type.identity := rfl
  cases rejected : type.rejection? with
  | some reason => simp [TypeDecl.explain, rejection, identity, rejected]
  | none =>
      have candidates := forall₂_candidates_packed found packs
      have records := TypeDecl.forall₂_constructors_explain
        (fun index outcome outcome' => outcome'.unnamed = outcome.unnamed ∧
          (index ≠ place → outcome' = outcome)) rejected (rejection.trans rejected)
        (by simp [TypeDecl.withConstructor]) ?reasons (candidates.imp ?outcomes)
        (verdicts_packed found packs)
      case reasons =>
        intro index c reason listed ineligible
        obtain ⟨c', reason', listed', ineligible', same, elsewhere⟩ :=
          exists_reason_packed found packs listed ineligible
        exact ⟨c', reason', listed', ineligible', congrArg Outcome.ineligible same,
          fun apart => congrArg Outcome.ineligible (elsewhere apart)⟩
      case outcomes =>
        rintro x x' ⟨index, types, elsewhere⟩
        exact ⟨index, fun _ verdict => ⟨Outcome.unnamed_ofVerdict types verdict,
          fun apart => by rw [elsewhere apart]⟩⟩
      refine ⟨by simp [TypeDecl.explain, rejection, identity, rejected],
        by simp [TypeDecl.explain, rejection, identity, rejected], records.imp ?_⟩
      rintro ⟨index, outcome⟩ ⟨_, outcome'⟩ ⟨rfl, same, elsewhere⟩
      exact ⟨rfl, same, fun apart => congrArg (ConstructorReport.mk _) (elsewhere apart)⟩

/-- With its two numbers in a tuple of their own labels, the second constructor of a size still
comes before the third. -/
theorem explain_packed_sizeDecl :
    let number : HostType := .named "System.Int32" "int" .concrete
    let packed : Constructor :=
      { parameters := [⟨"size", .tuple [.mk (some "w") number, .mk none number]⟩] }
    packed.Packs sizeDecl.constructors[1] ∧
      ⟨2, .duplicates 1⟩ ∈ ((sizeDecl.withConstructor 1 packed).explain .native).constructors := by
  intro number packed
  have packs : packed.Packs sizeDecl.constructors[1] :=
    ⟨rfl, rfl, rfl, by decide, "size", _, rfl, rfl⟩
  refine ⟨packs, ?_⟩
  have second : sizeDecl.constructors[1]? = some sizeDecl.constructors[1] := rfl
  obtain ⟨-, -, records⟩ := explain_packed second packs
  have third : (sizeDecl.explain .native).constructors[2]? = some ⟨2, .duplicates 1⟩ := rfl
  obtain ⟨entry, found, -, -, elsewhere⟩ := exists_getElem?_of_forall₂ records third
  rw [elsewhere (by decide)] at found
  exact List.mem_of_getElem? found

end

end ConversionSynthesis
