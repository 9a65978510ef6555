import ConversionSynthesis.Proofs.Fragment.Names
import ConversionSynthesis.Proofs.Manifest.OwnName
import ConversionSynthesis.Proofs.Naming.SingleLines

/-! # Units of accepted manifests write single lines

A unit is written from the names of its type and the spellings of the parameter types. Where a
manifest is accepted, its names are identifiers and the spellings are made of such, so that every
head, every operator and every import is one line.
-/

namespace ConversionSynthesis

open Host Text

/-! ## Names and paths -/

theorem isLine_of_isDeclarable {name : String} (declarable : isDeclarable name = true) :
    IsLine name :=
  isLine_of_isIdentifier (isIdentifier_of_isDeclarable declarable)

theorem IsDotted.isLine {legal : String → Bool}
    (identifiers : ∀ name, legal name = true → isIdentifier name = true) {path : String}
    (dotted : IsDotted legal path) : IsLine path := by
  obtain ⟨names, -, allLegal, rfl⟩ := dotted
  exact isLine_intercalate (by decide) fun name mem =>
    isLine_of_isIdentifier (identifiers name (allLegal name mem))

theorem IsImportOf.isLine {path : String} (imported : IsImportOf isIdentifier path) :
    IsLine path := by
  obtain ⟨imported, dotted, rfl | rfl⟩ := imported
  · exact dotted.isLine fun _ => id
  · exact .append (by decide) (dotted.isLine fun _ => id)

/-! ## Operands -/

theorem isLine_operandElements {signature : Signature}
    (lines : ∀ source ∈ signature, IsLine source.name ∧ IsLine source.type.display)
    (position : Nat) :
    ∀ element ∈ operandElements position signature,
      IsLine element.declaration ∧ ∀ n, IsLine (element.member n) := by
  induction signature generalizing position with
  | nil => exact List.forall_mem_nil _
  | cons source rest ih =>
      obtain ⟨name, type⟩ := source
      rw [List.forall_mem_cons] at lines
      obtain ⟨⟨single, display⟩, others⟩ := lines
      refine List.forall_mem_cons.mpr ⟨?_, ih others (position + 1)⟩
      by_cases labels : mayLabel name position = true
      · rw [if_pos labels]
        refine ⟨?_, fun n => isLine_escaped single⟩
        exact (display.append (by decide)).append (isLine_escaped single)
      · rw [if_neg labels]
        exact ⟨display, fun n => .append (by decide) (isLine_toString n)⟩

/-- The operand of a candidate is declared and read in one line if the names and types of the
parameters are. -/
theorem Candidate.isLine_operand {type : TypeDecl} {tuples : TupleSupport} {x : Candidate}
    (mem : x ∈ type.candidates tuples)
    (lines : ∀ parameter ∈ x.constructor.parameters,
      IsLine parameter.name ∧ IsLine parameter.type.display) :
    IsLine x.operand.declaration ∧ ∀ argument ∈ x.operand.arguments, IsLine argument := by
  obtain ⟨-, eligible, -⟩ := TypeDecl.mem_candidates.mp mem
  have some := (TypeDecl.backs_of_eligible eligible).1
  by_cases several : 2 ≤ x.constructor.parameters.length
  · have packed : x.operand = .packed (operandElements 1 x.signature) :=
      Operand.ofConstructor_of_not_lone (not_lone_of_several several) x.signature
    have sources : ∀ source ∈ x.signature, IsLine source.name ∧ IsLine source.type.display := by
      rw [signature_of_several mem several]
      exact List.forall_mem_map.mpr lines
    have elements := isLine_operandElements sources 1
    rw [packed]
    constructor
    · have members := List.forall_mem_map.mpr fun element mem => (elements element mem).1
      exact ((IsLine.append (by decide) (isLine_intercalate (by decide) members)).append
        (by decide)).append (by decide)
    · intro argument isArgument
      obtain ⟨index, bound, rfl⟩ := List.mem_mapIdx.mp isArgument
      have member := (elements _ (List.getElem_mem bound)).2 (index + 1)
      exact IsLine.append (by decide) member
  · obtain ⟨only, alone⟩ : ∃ only, x.constructor.parameters = [only] := by
      rw [← List.length_eq_one_iff]
      have positive := List.length_pos_iff.mpr some
      omega
    rw [alone, List.forall_mem_singleton] at lines
    rw [operand_of_lone alone]
    refine ⟨?_, List.forall_mem_singleton.mpr (isLine_escaped lines.1)⟩
    exact (lines.2.append (by decide)).append (isLine_escaped lines.1)

/-! ## What a type writes -/

namespace TypeDecl

/-- What a type writes into its units beside the preamble stands in single lines: the heads of the
blocks, the documentation and the operators. -/
structure WritesLines (type : TypeDecl) (kept : List Candidate) : Prop where
  heads : ∀ head ∈ type.blockHeads, IsLine head
  summary : IsLine type.operatorSummary
  operators : ∀ x ∈ kept, IsLine (x.operator type)

namespace LegalNames

variable {type : TypeDecl} (legal : type.LegalNames)

include legal

theorem isLine_space : ∀ path ∈ type.namespacePath, IsLine path :=
  fun path mem => (legal.space path mem).isLine fun _ => isIdentifier_of_isDeclarable

theorem isLine_nesting :
    ∀ level ∈ type.address.nesting, IsLine level.1 ∧ ∀ p ∈ level.2, IsLine p := by
  intro level mem
  have declared := legal.nesting level mem
  exact ⟨isLine_of_isDeclarable declared.1,
    fun p isParameter => isLine_of_isDeclarable (declared.2 p isParameter)⟩

theorem isLine_path {opening separator closing : String}
    (brackets : IsLine opening ∧ IsLine separator ∧ IsLine closing) :
    IsLine (type.path (bracketed opening separator closing)) := by
  refine isLine_intercalate (by decide) (List.forall_mem_append.mpr ⟨?_, ?_⟩)
  · exact fun path mem => legal.isLine_space path (Option.mem_toList.mp mem)
  · rw [List.forall_mem_map]
    intro level mem
    obtain ⟨single, parameters⟩ := legal.isLine_nesting level mem
    exact isLine_bracketed brackets single parameters

theorem isLine_blockHeads : ∀ head ∈ type.blockHeads, IsLine head := by
  have fragment (kind : TypeKind) (name : String) (typeParameters : List String)
      (mem : (name, typeParameters) ∈ type.address.nesting) :
      IsLine (fragmentHead kind name typeParameters) := by
    obtain ⟨single, parameters⟩ := legal.isLine_nesting _ mem
    have keyword : IsLine kind.keyword := by cases kind <;> decide
    exact ((IsLine.append (by decide) keyword).append (by decide)).append
      (isLine_genericDisplay single parameters)
  rw [blockHeads, List.forall_mem_append, List.forall_mem_append, List.forall_mem_map,
    List.forall_mem_map, List.forall_mem_singleton]
  refine ⟨⟨fun path mem => ?_, fun outer mem => ?_⟩, ?_⟩
  · exact .append (by decide) (legal.isLine_space path (Option.mem_toList.mp mem))
  · exact fragment _ _ _ (List.mem_append_left _ (List.mem_map.mpr ⟨outer, mem, rfl⟩))
  · exact fragment _ _ _ (List.mem_append_right _ List.mem_cons_self)

theorem isLine_operatorSummary : IsLine type.operatorSummary := by
  have cref : IsLine type.cref :=
    .append (by decide) (legal.isLine_path (by decide))
  have opening : IsLine "/// <summary>Implicitly converts the value to a new <see cref=\"" := by
    decide +kernel
  have closing : IsLine "\"/> instance.</summary>" := by
    decide +kernel
  exact (opening.append cref).append closing

theorem isLine_operator {tuples : TupleSupport} {x : Candidate} (mem : x ∈ type.candidates tuples)
    (types : ∀ constructor ∈ type.constructors, ∀ parameter ∈ constructor.parameters,
      IsLine parameter.type.display) : IsLine (x.operator type) := by
  have built := List.mem_of_getElem? (mem_candidates.mp mem).1
  have names := legal.parameters x.constructor built
  obtain ⟨declaration, arguments⟩ := Candidate.isLine_operand mem fun parameter isParameter =>
    ⟨isLine_of_isIdentifier (names parameter isParameter).1, types _ built parameter isParameter⟩
  have target : IsLine type.qualifiedDisplay :=
    .append (by decide) (legal.isLine_path (by decide))
  have call : IsLine (", ".intercalate x.operand.arguments) :=
    isLine_intercalate (by decide) arguments
  have head : IsLine ("public static implicit operator " ++ type.qualifiedDisplay ++ "(") :=
    (IsLine.append (by decide +kernel) target).append (by decide)
  have arrow : IsLine ") => new " := by decide
  have body := ((head.append declaration).append arrow).append target
  exact ((body.append (by decide)).append call).append (by decide)

end LegalNames

end TypeDecl

/-! ## The types of accepted manifests -/

section

variable {manifest : Manifest} {types : List TypeDecl}

theorem Manifest.inLines (accepted : manifest.declarations = .ok types) :
    manifest.scope.registry.InLines := by
  intro declared mem
  obtain ⟨entry, type, declares, rfl⟩ := declares_of_mem_registry accepted mem
  have wellFormed := TypeEntry.exists_declares_iff.mp ⟨type, declares⟩
  refine ⟨isLine_intercalate (by decide) (List.forall_mem_append.mpr ⟨?_, ?_⟩),
    isLine_of_isDeclarable declares.declarable⟩
  · intro path listed
    rw [← declares.namespacePath] at listed
    exact declares.legalNames.isLine_space path (Option.mem_toList.mp listed)
  · rw [List.forall_mem_map]
    intro outer mem
    obtain ⟨name, -, -, parameters⟩ := wellFormed.enclosing outer mem
    exact isLine_genericDisplay (isLine_of_isDeclarable name)
      fun p isParameter => isLine_of_isDeclarable (parameters.declarable p isParameter)

/-- Every type of an accepted manifest writes single lines, whichever of its candidates are kept,
and imports them. -/
theorem Manifest.writesLines (accepted : manifest.declarations = .ok types) {type : TypeDecl}
    (mem : type ∈ types) {tuples : TupleSupport} {kept : List Candidate}
    (subset : kept ⊆ type.candidates tuples) :
    (∀ path ∈ type.usings, IsLine path) ∧ type.WritesLines kept := by
  obtain ⟨entry, -, declares⟩ :=
    exists_left_of_forall₂ (Manifest.declarations_eq_ok.mp accepted) mem
  have legal := declares.legalNames
  have displays : ∀ constructor ∈ type.constructors, ∀ parameter ∈ constructor.parameters,
      IsLine parameter.type.display := by
    intro constructor built parameter listed
    have isParameterType : parameter.type ∈ type.parameterTypes :=
      List.mem_append_left _
        (List.mem_flatMap.mpr ⟨constructor, built, List.mem_map_of_mem listed⟩)
    obtain ⟨text, -, denotes⟩ := declares.denotes_parameterTypes _ isParameterType
    have inLines : (entry.inner manifest.scope).registry.InLines := Manifest.inLines accepted
    exact denotes.isLine_display inLines
  refine ⟨?imports, legal.isLine_blockHeads, legal.isLine_operatorSummary, ?operators⟩
  case imports =>
    intro path listed
    rw [declares.usings] at listed
    exact (isImport_iff.mp (declares.imports path listed)).isLine
  case operators => exact fun x isKept => legal.isLine_operator (subset isKept) displays

end

end ConversionSynthesis
