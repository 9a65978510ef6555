import ConversionSynthesis.Proofs.Manifest.WellFormed
import ConversionSynthesis.Proofs.Naming.QualifiedSpelling
import ConversionSynthesis.Proofs.Operand.Forwarding

/-! # The names that a unit writes

Every line of a unit that declares something is put together from legal names: some are copied from
the manifest with the marks they have there, others lose their mark when they are read and get one
where they need it. Imports are the exception: their names are identifiers, but a reserved word
among them is written as it is.
-/

namespace ConversionSynthesis

open Host

/-! ## Lines of a unit -/

/-- What a tuple operand writes for a parameter: the type, and a legal spelling of the name as the
label of the element if it has one. -/
inductive IsMember (parameter : Parameter) : String → Prop
  | unlabelled : IsMember parameter parameter.type.display
  | labelled {label : String} : isDeclarable label = true → bare label = parameter.name →
      IsMember parameter (parameter.type.display ++ " " ++ label)

/-- What an operator declares as its operand for a constructor: the only parameter, or else a tuple
with an element for each of them. -/
inductive IsOperand (constructor : Constructor) : String → Prop
  | sole {only : Parameter} {name : String} : constructor.parameters = [only] →
      isDeclarable name = true → bare name = only.name →
      IsOperand constructor (only.type.display ++ " " ++ name)
  | packed {members : List String} : 2 ≤ constructor.parameters.length →
      List.Forall₂ IsMember constructor.parameters members →
      IsOperand constructor ("(" ++ ", ".intercalate members ++ ") " ++ Operand.tupleName)

namespace TypeDecl

/-- A line of the unit of a type. All names that it declares are legal as written, but for those
that are imported, of which `imported` tells what they are. -/
inductive IsUnitLine (imported : String → Bool) (type : TypeDecl) (kept : List Candidate)
    (options : UnitOptions) : String → Prop
  | header : IsUnitLine imported type kept options options.header
  | context : IsUnitLine imported type kept options "#nullable enable"
  | imports {path : String} : IsImportOf imported path →
      IsUnitLine imported type kept options ("using " ++ path ++ ";")
  | space {path : String} : IsDotted isDeclarable path →
      IsUnitLine imported type kept options ("namespace " ++ path)
  | head {kind : TypeKind} {name : String} {typeParameters : List String} :
      isDeclarable name = true → (∀ p ∈ typeParameters, isDeclarable p = true) →
      IsUnitLine imported type kept options (fragmentHead kind name typeParameters)
  | summary : IsUnitLine imported type kept options type.operatorSummary
  | operator {x : Candidate} {operand : String} : x ∈ kept → IsOperand x.constructor operand →
      IsUnitLine imported type kept options
        ("public static implicit operator " ++ type.qualifiedDisplay ++ "(" ++ operand ++
          ") => new " ++ type.qualifiedDisplay ++ "(" ++ ", ".intercalate x.operand.arguments ++
          ");")

/-- What is legal about the names of a type: those it is declared under as they are, and those of
parameters once they have the marks they need. -/
structure LegalNames (type : TypeDecl) : Prop where
  space : ∀ path ∈ type.namespacePath, IsDotted isDeclarable path
  nesting : ∀ level ∈ type.address.nesting,
    isDeclarable level.1 = true ∧ ∀ p ∈ level.2, isDeclarable p = true
  parameters : ∀ constructor ∈ type.constructors, ∀ parameter ∈ constructor.parameters,
    isIdentifier parameter.name = true ∧ parameter.name.toList.head? ≠ some '@'

end TypeDecl

/-! ## Operands -/

theorem isMember_declaration {parameter : Parameter}
    (identifier : isIdentifier parameter.name = true)
    (plain : parameter.name.toList.head? ≠ some '@') (labels : Bool) :
    IsMember parameter (OperandElement.declaration
      ⟨parameter.type, if labels then some parameter.name else none⟩) := by
  cases labels with
  | false => exact .unlabelled
  | true => exact .labelled (isDeclarable_escaped identifier plain) (bare_escaped plain)

theorem isMember_operandElements {parameters : List Parameter}
    (names : ∀ parameter ∈ parameters,
      isIdentifier parameter.name = true ∧ parameter.name.toList.head? ≠ some '@')
    (position : Nat) :
    List.Forall₂ IsMember parameters
      ((operandElements position (parameters.map fun p => ⟨p.name, p.type⟩)).map
        (·.declaration)) := by
  induction parameters generalizing position with
  | nil => exact .nil
  | cons parameter rest ih =>
      rw [List.forall_mem_cons] at names
      exact .cons (isMember_declaration names.1.1 names.1.2 _) (ih names.2 (position + 1))

namespace TypeDecl

variable {type : TypeDecl} {tuples : TupleSupport} {x : Candidate}

theorem LegalNames.operand (legal : type.LegalNames) (mem : x ∈ type.candidates tuples) :
    IsOperand x.constructor x.operand.declaration := by
  obtain ⟨found, eligible, -⟩ := mem_candidates.mp mem
  have names := legal.parameters x.constructor (List.mem_of_getElem? found)
  match parameters : x.constructor.parameters with
  | [] => exact absurd parameters (backs_of_eligible eligible).1
  | [only] =>
      rw [parameters, List.forall_mem_singleton] at names
      rw [Candidate.operand_of_lone parameters]
      exact .sole parameters (isDeclarable_escaped names.1 names.2) (bare_escaped names.2)
  | first :: second :: rest =>
      have several : 2 ≤ x.constructor.parameters.length := by simp [parameters]
      have packed : x.operand = .packed (operandElements 1 x.signature) :=
        Operand.ofConstructor_of_not_lone (Candidate.not_lone_of_several several) x.signature
      rw [packed, Candidate.signature_of_several mem several]
      exact .packed several (isMember_operandElements names 1)

end TypeDecl

/-! ## Imports among the lines -/

theorem head?_append {front : String} {c : Char} (opens : front.toList.head? = some c)
    (back : String) : (front ++ back).toList.head? = some c := by
  rw [String.toList_append, List.head?_append, opens, Option.some_or]

/-- Imports are the only lines that open as imports do. -/
theorem TypeDecl.IsUnitLine.exists_import {imported : String → Bool} {type : TypeDecl}
    {kept : List Candidate} {options : UnitOptions} {line : String}
    (isLine : type.IsUnitLine imported kept options line)
    (opens : line.toList.head? = some 'u')
    (otherHeader : options.header.toList.head? ≠ some 'u') :
    ∃ path, IsImportOf imported path ∧ line = "using " ++ path ++ ";" := by
  have clash {c : Char} (other : line.toList.head? = some c) : c = 'u' :=
    Option.some.inj (other.symm.trans opens)
  cases isLine with
  | imports legal => exact ⟨_, legal, rfl⟩
  | header => exact absurd opens otherHeader
  | context => exact absurd opens (by decide +kernel)
  | space _ => exact absurd (clash (head?_append (c := 'n') (by decide +kernel) _)) (by decide)
  | head _ _ =>
      refine absurd (clash (c := 'p') ?_) (by decide)
      rw [fragmentHead, String.append_assoc, String.append_assoc]
      exact head?_append (by decide +kernel) _
  | summary =>
      refine absurd (clash (c := '/') ?_) (by decide)
      exact head?_append (head?_append (by decide +kernel) _) _
  | operator _ _ =>
      refine absurd (clash (c := 'p') ?_) (by decide)
      simp only [String.append_assoc]
      exact head?_append (by decide +kernel) _

/-! ## All lines -/

namespace TypeDecl

variable {imported : String → Bool} {type : TypeDecl} {kept : List Candidate}
  {options : UnitOptions} {line : String}

theorem isUnitLine_of_mem_preamble (usings : ∀ path ∈ type.usings, IsImportOf imported path)
    (mem : line ∈ type.preamble options) : IsUnitLine imported type kept options line := by
  rw [preamble, List.mem_append, List.mem_append] at mem
  rcases mem with (header | context) | imports
  · split at header
    · cases header
    · rw [List.mem_singleton.mp header]
      exact .header
  · split at context
    · rw [List.mem_singleton.mp context]
      exact .context
    · cases context
  · obtain ⟨path, listed, rfl⟩ := List.mem_map.mp imports
    exact .imports (usings path listed)

theorem isUnitLine_of_mem_blockHeads (legal : type.LegalNames) (mem : line ∈ type.blockHeads) :
    IsUnitLine imported type kept options line := by
  obtain ⟨around, here⟩ := Address.forall_mem_nesting.mp legal.nesting
  rw [blockHeads, List.mem_append, List.mem_append] at mem
  rcases mem with (space | outer) | own
  · obtain ⟨path, listed, rfl⟩ := List.mem_map.mp space
    exact .space (legal.space path (Option.mem_toList.mp listed))
  · obtain ⟨enclosing, listed, rfl⟩ := List.mem_map.mp outer
    obtain ⟨name, parameters⟩ := List.forall_mem_map.mp around enclosing listed
    exact .head name parameters
  · rw [List.mem_singleton.mp own]
    exact .head here.1 here.2

theorem mem_operatorSteps {candidates : List Candidate}
    (mem : .line line ∈ type.operatorSteps candidates) :
    line = type.operatorSummary ∨ ∃ x ∈ candidates, line = x.operator type := by
  induction candidates with
  | nil => cases mem
  | cons candidate rest ih =>
      cases rest with
      | nil =>
          rw [operatorSteps, List.mem_cons, List.mem_singleton] at mem
          rcases mem with summary | operator
          · exact .inl (LayoutStep.line.inj summary)
          · exact .inr ⟨candidate, List.mem_singleton_self _, LayoutStep.line.inj operator⟩
      | cons second rest =>
          rw [operatorSteps, List.mem_cons, List.mem_cons, List.mem_cons] at mem
          · rcases mem with summary | operator | blank | later
            · exact .inl (LayoutStep.line.inj summary)
            · exact .inr ⟨candidate, List.mem_cons_self, LayoutStep.line.inj operator⟩
            · cases blank
            · rcases ih later with summary | ⟨x, listed, operator⟩
              · exact .inl summary
              · exact .inr ⟨x, List.mem_cons_of_mem _ listed, operator⟩
          · nofun

theorem isUnitLine_of_mem_unitSteps (legal : type.LegalNames)
    (usings : ∀ path ∈ type.usings, IsImportOf imported path)
    (operands : ∀ x ∈ kept, IsOperand x.constructor x.operand.declaration)
    (mem : .line line ∈ type.unitSteps kept options) :
    IsUnitLine imported type kept options line := by
  simp only [unitSteps, List.mem_append] at mem
  rcases mem with (((preamble | blank) | heads) | operators) | closing
  · obtain ⟨text, listed, same⟩ := List.mem_map.mp preamble
    cases same
    exact isUnitLine_of_mem_preamble usings listed
  · split at blank
    · cases blank
    · cases List.mem_singleton.mp blank
  · obtain ⟨head, listed, isHead⟩ := List.mem_flatMap.mp heads
    rw [List.mem_cons, List.mem_singleton] at isHead
    rcases isHead with same | opening
    · cases same
      exact isUnitLine_of_mem_blockHeads legal listed
    · cases opening
  · rcases mem_operatorSteps operators with rfl | ⟨x, listed, rfl⟩
    · exact .summary
    · exact .operator listed (operands x listed)
  · obtain ⟨head, -, same⟩ := List.mem_map.mp closing
    cases same

end TypeDecl

theorem IsImportOf.of_unreserved {path : String} (identifiers : IsImportOf isIdentifier path)
    (unreserved : ∀ name ∈ Text.piecesFrom '.' [] (importedPath path), isReserved name = false) :
    IsImportOf isDeclarable path := by
  rw [isImportOf_iff fun _ => isIdentifier_of_isDeclarable]
  intro name mem
  have identifier := (isImportOf_iff fun _ => id).mp identifiers name mem
  rw [isDeclarable, identifier, unreserved name mem]
  rfl

/-! ## The types of manifests -/

theorem TypeEntry.Declares.legalNames {scope : Scope} {entry : TypeEntry} {type : TypeDecl}
    (declares : entry.Declares scope type) : type.LegalNames where
  space := by
    intro path mem
    rw [isDotted_iff fun _ => isIdentifier_of_isDeclarable]
    intro piece isPiece
    apply declares.namespaceDeclarable
    rw [← declares.namespacePath]
    exact List.mem_flatMap.mpr ⟨path, Option.mem_toList.mpr mem, isPiece⟩
  nesting := by
    refine Address.forall_mem_nesting.mpr ⟨List.forall_mem_map.mpr fun outer mem => ?_, ?_⟩
    · obtain ⟨written, -, declared⟩ := exists_left_of_forall₂ declares.enclosing mem
      rw [declared.name, declared.typeParameters]
      exact ⟨declared.declarable, declared.parameters.declarable⟩
    · rw [TypeDecl.address, declares.name, declares.typeParameters]
      exact ⟨declares.declarable, declares.parameters.declarable⟩
  parameters := by
    intro constructor built parameter mem
    obtain ⟨written, -, declared⟩ := exists_left_of_forall₂ declares.constructors built
    obtain ⟨source, -, names⟩ := exists_left_of_forall₂ declared.parameters mem
    have identifier := isIdentifier_of_isDeclarable names.declarable
    rw [names.name]
    exact ⟨isIdentifier_bare identifier, head?_bare identifier⟩

/-- The unit of a type of an accepted manifest is laid out from lines that declare legal names only,
but for the names of imports, which are identifiers. Where no import names a reserved word, these
are legal as well. -/
theorem Manifest.unit_names_legal {manifest : Manifest} {types : List TypeDecl}
    (accepted : manifest.declarations = .ok types) {type : TypeDecl} (mem : type ∈ types)
    {tuples : TupleSupport} {options : UnitOptions} {unit : GeneratedUnit}
    (produced : type.unit? tuples options = some unit) :
    unit.text = type.unitText (type.emitted tuples) options ∧
      (∀ line, .line line ∈ type.unitSteps (type.emitted tuples) options →
        type.IsUnitLine isIdentifier (type.emitted tuples) options line) ∧
      ((∀ path ∈ type.usings, ∀ name ∈ Text.piecesFrom '.' [] (importedPath path),
          isReserved name = false) →
        ∀ line, .line line ∈ type.unitSteps (type.emitted tuples) options →
          type.IsUnitLine isDeclarable (type.emitted tuples) options line) := by
  obtain ⟨entry, -, declares⟩ := exists_left_of_forall₂ (declarations_eq_ok.mp accepted) mem
  have legal := declares.legalNames
  have operands : ∀ x ∈ type.emitted tuples, IsOperand x.constructor x.operand.declaration :=
    fun x isEmitted => legal.operand ((type.emitted_sublist tuples).subset isEmitted)
  have identifiers : ∀ path ∈ type.usings, IsImportOf isIdentifier path := by
    intro path listed
    rw [declares.usings] at listed
    exact isImport_iff.mp (declares.imports path listed)
  refine ⟨?text, ?lines, ?plain⟩
  case text =>
    rw [TypeDecl.unit?_eq] at produced
    split at produced
    · cases produced
    · cases produced
      rfl
  case lines =>
    exact fun line => TypeDecl.isUnitLine_of_mem_unitSteps legal identifiers operands
  case plain =>
    intro unreserved line
    refine TypeDecl.isUnitLine_of_mem_unitSteps legal ?_ operands
    exact fun path listed => (identifiers path listed).of_unreserved (unreserved path listed)

/-- A type whose names need marks in every place, made from two values or from a pair. -/
def parcelEntry : TypeEntry :=
  { name := "Parcel", namespacePath := some "Demo.@namespace", typeParameters := ["@in"]
    enclosing := [{ name := "@class", typeParameters := ["T"] }]
    usings := ["System", "static System.@event"]
    constructors := [
      { parameters := [{ name := "@params", type := "string" },
          { name := "Rest", type := "int" }] },
      { parameters := [{ name := "@base", type := "(int left, bool right)" }] }] }

theorem Manifest.unit_names_legal_parcel :
    ∃ type unit, Manifest.declarations { types := [parcelEntry] } = .ok [type] ∧
      type.unit? .native {} = some unit ∧
      (type.emitted .native).map (·.operand.declaration) =
        ["(string @params, int) tuple", "(int left, bool right) @base"] ∧
      ∀ line, .line line ∈ type.unitSteps (type.emitted .native) {} →
        type.IsUnitLine isDeclarable (type.emitted .native) {} line := by
  obtain ⟨types, accepted, seen⟩ := toOption_map_eq_some.mp
    (by decide +kernel : (Manifest.declarations { types := [parcelEntry] }).toOption.map
      (List.map fun type => ((type.emitted .native).map (·.operand.declaration),
        type.unit? .native {} |>.isSome, type.usings)) =
          some [(["(string @params, int) tuple", "(int left, bool right) @base"], true,
            ["System", "static System.@event"])])
  obtain ⟨type, rfl, same⟩ := List.map_eq_singleton_iff.mp seen
  simp only [Prod.mk.injEq] at same
  obtain ⟨operands, isProduced, usings⟩ := same
  obtain ⟨unit, produced⟩ := Option.isSome_iff_exists.mp isProduced
  have legal := unit_names_legal accepted List.mem_cons_self produced
  refine ⟨type, unit, accepted, produced, operands, legal.2.2 ?_⟩
  rw [usings]
  decide +kernel

/-- A type with a reserved word among its imports. -/
def reservedImportEntry : TypeEntry :=
  { name := "P", usings := ["class"]
    constructors := [{ parameters := [{ name := "x", type := "int" }] }] }

/-- The reserved word is accepted and written as it is. -/
theorem Manifest.unit_names_reserved :
    ∃ type unit, Manifest.declarations { types := [reservedImportEntry] } = .ok [type] ∧
      type.unit? .native {} = some unit ∧
      .line "using class;" ∈ type.unitSteps (type.emitted .native) {} ∧
      ¬ type.IsUnitLine isDeclarable (type.emitted .native) {} "using class;" := by
  obtain ⟨types, accepted, seen⟩ := toOption_map_eq_some.mp
    (by decide +kernel : (Manifest.declarations { types := [reservedImportEntry] }).toOption.map
      (List.map fun type => (type.unit? .native {}).isSome &&
        (type.unitSteps (type.emitted .native) {}).contains (.line "using class;")) = some [true])
  obtain ⟨type, rfl, written⟩ := List.map_eq_singleton_iff.mp seen
  rw [Bool.and_eq_true, List.contains_iff_mem] at written
  obtain ⟨unit, produced⟩ := Option.isSome_iff_exists.mp written.1
  refine ⟨type, unit, accepted, produced, written.2, ?_⟩
  intro isLine
  obtain ⟨path, legal, same⟩ := isLine.exists_import (by decide +kernel) (by decide +kernel)
  have whole : "using class;" = "using " ++ "class" ++ ";" := by decide
  rw [whole, String.append_left_inj, String.append_right_inj] at same
  subst same
  have all := (isImportOf_iff fun _ => isIdentifier_of_isDeclarable).mp legal
  revert all
  decide +kernel

end ConversionSynthesis
