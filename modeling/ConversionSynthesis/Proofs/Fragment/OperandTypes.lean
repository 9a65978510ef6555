import ConversionSynthesis.Proofs.Fragment.Lines
import ConversionSynthesis.Proofs.Signature.OperandType

/-! # Operators and the types of their operands

The text of a unit has one operator for each candidate that is emitted, declared with the type of
the candidate's operand. So what holds of the types of operands holds of the operators that are
written.
-/

namespace ConversionSynthesis

namespace Operand

/-- The name that an operator gives its operand. -/
def name : Operand → String
  | sole parameter => Host.escaped parameter.name
  | packed _ => tupleName

theorem displays_elements (elements : List OperandElement) :
    HostType.displays (elements.map fun element => .mk element.label element.type) =
      elements.map (·.declaration) := by
  induction elements with
  | nil => rfl
  | cons element rest ih =>
      obtain ⟨type, label⟩ := element
      cases label <;> exact congrArg (_ :: ·) ih

theorem declaration_eq (operand : Operand) :
    operand.declaration = operand.type.display ++ " " ++ operand.name := by
  cases operand with
  | sole parameter => rfl
  | packed elements =>
      rw [declaration, type, HostType.display, displays_elements, name]
      simp [← String.toList_inj]

end Operand

theorem Candidate.operator_eq (candidate : Candidate) (owner : TypeDecl) :
    candidate.operator owner =
      "public static implicit operator " ++ owner.qualifiedDisplay ++ "(" ++
        (candidate.operand.type.display ++ " " ++ candidate.operand.name) ++ ") => new " ++
        owner.qualifiedDisplay ++ "(" ++ ", ".intercalate candidate.operand.arguments ++ ");" := by
  rw [← Operand.declaration_eq]
  rfl

/-- Comparing signatures is comparing the types of operands. A unit has, within its blocks, one
operator for each candidate that is emitted, in order, and each takes an operand of the type of its
candidate's; no two of these types are one to the host, and the type of every eligible constructor's
operand is among them unless a written conversion has the signature of the constructor. -/
theorem signatures_as_operandTypes (type : TypeDecl) (tuples : TupleSupport)
    (wide : type.tuplesWide = true) :
    (∀ a ∈ type.constructors, ∀ b ∈ type.constructors,
      type.ineligibility? a tuples = none → type.ineligibility? b tuples = none →
        tuples.sameSignature (a.signature tuples).types (b.signature tuples).types =
          a.operandType.same b.operandType) ∧
    (∀ a ∈ type.constructors, ∀ c ∈ type.conversions,
      tuples.sameSignature c.parameters (a.signature tuples).types =
        tuples.sameSignature c.parameters (a.parameters.map (·.type))) ∧
    (∀ options, type.unit? tuples options =
      if type.emitted tuples = [] then none
      else some ⟨type.unitIdentifier options, type.unitText (type.emitted tuples) options⟩) ∧
    (∀ options, type.unitText (type.emitted tuples) options =
      Text.ofLines (type.preambleLines options ++ (type.openingLines options.indentWidth ++
        ([""].intercalate ((type.emitted tuples).map fun x =>
          [type.operatorSummary, x.operator type])).map
            (Text.indented (Layout.columns type.blockHeads.length options.indentWidth)) ++
        type.closingLines options.indentWidth))) ∧
    (∀ x ∈ type.emitted tuples, x.operator type =
      "public static implicit operator " ++ type.qualifiedDisplay ++ "(" ++
        (x.operand.type.display ++ " " ++ x.operand.name) ++ ") => new " ++
        type.qualifiedDisplay ++ "(" ++ ", ".intercalate x.operand.arguments ++ ");") ∧
    (∀ x ∈ type.emitted tuples, x.operand.type.same x.constructor.operandType = true) ∧
    (type.emitted tuples).Pairwise (fun x y => x.operand.type.same y.operand.type = false) ∧
    (type.rejection? = none → ∀ a ∈ type.constructors, type.ineligibility? a tuples = none →
      (∃ x ∈ type.emitted tuples, x.operand.type.same a.operandType = true) ∨
        ∃ c ∈ type.conversions,
          tuples.sameSignature c.parameters (a.signature tuples).types = true) := by
  refine ⟨?signatures, ?conversions, type.unit?_eq tuples, ?text, ?operators, ?operands,
    TypeDecl.pairwise_operandType_emitted wide, ?served⟩
  case signatures =>
    intro a memA b memB eligibleA eligibleB
    exact TypeDecl.sameSignature_of_eligible wide memA memB eligibleA eligibleB
  case conversions =>
    intro a mem c _
    exact TypeDecl.sameSignature_signature wide mem c.parameters
  case text =>
    exact fun options => type.unitText_eq_ofLines (type.emitted tuples) options
  case operators =>
    exact fun x _ => x.operator_eq type
  case operands =>
    intro x mem
    rw [HostType.same_iff_core_eq]
    exact Candidate.core_type_operand ((type.emitted_sublist tuples).subset mem)
  case served =>
    intro accepted a mem eligible
    exact TypeDecl.served_of_eligible wide accepted mem eligible

/-- The lines of the unit of a point. -/
def pointLines : List String :=
  ["// <auto-generated/>", "#nullable enable", "",
    "partial class Point", "\x7b",
    "    /// <summary>Implicitly converts the value to a new " ++
      "<see cref=\"global::Point\"/> instance.</summary>",
    "    public static implicit operator global::Point((int x, int y) tuple) => " ++
      "new global::Point(tuple.x, tuple.y);",
    "\x7d"]

/-- Both ways to give a point two numbers take an operand of one type, so that the unit has one
operator for them; the text is converted by what the author wrote. -/
theorem operandTypes_pointDecl :
    pointDecl.tuplesWide = true ∧ pointDecl.rejection? = none ∧
      pointDecl.ineligibility? pointDecl.constructors[0] .native = none ∧
      pointDecl.ineligibility? pointDecl.constructors[1] .native = none ∧
      pointDecl.constructors[0].operandType.same pointDecl.constructors[1].operandType = true ∧
      TupleSupport.native.sameSignature (pointDecl.constructors[0].signature .native).types
        (pointDecl.constructors[1].signature .native).types = true ∧
      pointDecl.unit? .native {} = some ⟨"Point.g.cs", Text.ofLines pointLines⟩ := by
  have wide : pointDecl.tuplesWide = true := by decide
  have eligible₀ : pointDecl.ineligibility? pointDecl.constructors[0] .native = none := rfl
  have eligible₁ : pointDecl.ineligibility? pointDecl.constructors[1] .native = none := rfl
  have one : pointDecl.constructors[0].operandType.same pointDecl.constructors[1].operandType =
      true := by decide
  obtain ⟨signatures, -, unit, text, -⟩ := signatures_as_operandTypes pointDecl .native wide
  have compared := signatures _ (List.getElem_mem _) _ (List.getElem_mem _) eligible₀ eligible₁
  have some : pointDecl.emitted .native ≠ [] := by
    rw [← List.isEmpty_eq_false_iff]
    decide +kernel
  have identifier : pointDecl.unitIdentifier {} = "Point.g.cs" := by decide +kernel
  have written : pointDecl.unitText (pointDecl.emitted .native) {} = Text.ofLines pointLines :=
    (text {}).trans (congrArg Text.ofLines (by decide +kernel))
  refine ⟨wide, rfl, eligible₀, eligible₁, one, compared.trans one, ?_⟩
  rw [unit, if_neg some, identifier, written]

end ConversionSynthesis
