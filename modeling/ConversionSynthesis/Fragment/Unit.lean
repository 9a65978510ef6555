import ConversionSynthesis.Fragment.Layout
import ConversionSynthesis.Fragment.Operator

/-! # Generated units

A unit is the declaration fragment that adds the surviving conversions to one type, together with
an identifier that tells it from the units of other types.
-/

namespace ConversionSynthesis

structure UnitOptions where
  indentWidth : Nat := 4
  /-- The first line of every unit; none if empty. -/
  header : String := "// <auto-generated/>"
  nullableContext : Bool := true
  suffix : String := ".g.cs"
deriving DecidableEq, Repr

structure GeneratedUnit where
  identifier : String
  text : String
deriving DecidableEq, Repr

namespace TypeDecl

/-- The identifier of the type's unit. Enclosing types are joined by a plus sign, namespaces by a
dot, so that a nested type differs from one in a namespace of the same spelling. -/
def unitIdentifier (type : TypeDecl) (options : UnitOptions) : String :=
  (match type.namespacePath with
    | some path => path ++ "."
    | none => "") ++
  "+".intercalate
    (type.address.nesting.map fun level => bracketed "\x7b" "," "\x7d" level.1 level.2) ++
  options.suffix

def fragmentHead (kind : Host.TypeKind) (name : String) (typeParameters : List String) : String :=
  "partial " ++ kind.keyword ++ " " ++ genericDisplay name typeParameters

def preamble (type : TypeDecl) (options : UnitOptions) : List String :=
  (if options.header.isEmpty then [] else [options.header]) ++
  (if options.nullableContext then ["#nullable enable"] else []) ++
  type.usings.map fun path => "using " ++ path ++ ";"

/-- The heads of the blocks around the operators, the outermost first. -/
def blockHeads (type : TypeDecl) : List String :=
  (type.namespacePath.toList.map fun path => "namespace " ++ path) ++
  (type.enclosing.map fun outer => fragmentHead outer.kind outer.name outer.typeParameters) ++
  [fragmentHead type.kind type.name type.typeParameters]

def operatorSummary (type : TypeDecl) : String :=
  "/// <summary>Implicitly converts the value to a new <see cref=\"" ++ type.cref ++
    "\"/> instance.</summary>"

def operatorSteps (type : TypeDecl) : List Candidate → List LayoutStep
  | [] => []
  | [last] => [.line type.operatorSummary, .line (last.operator type)]
  | candidate :: rest =>
      .line type.operatorSummary :: .line (candidate.operator type) :: .blank ::
        type.operatorSteps rest

def unitSteps (type : TypeDecl) (candidates : List Candidate) (options : UnitOptions) :
    List LayoutStep :=
  let preamble := type.preamble options
  preamble.map .line ++ (if preamble.isEmpty then [] else [.blank]) ++
    type.blockHeads.flatMap (fun head => [.line head, .openBlock]) ++
    type.operatorSteps candidates ++
    type.blockHeads.map fun _ => .closeBlock

def unitText (type : TypeDecl) (candidates : List Candidate) (options : UnitOptions) : String :=
  (Layout.run { width := options.indentWidth } (type.unitSteps candidates options)).text

/-- The unit of a type; none if the type is rejected or no candidate survives. -/
def unit? (type : TypeDecl) (tuples : TupleSupport) (options : UnitOptions) :
    Option GeneratedUnit :=
  match type.rejection? with
  | some _ => none
  | none =>
      match survivors tuples type.conversions (type.candidates tuples) with
      | [] => none
      | kept => some ⟨type.unitIdentifier options, type.unitText kept options⟩

theorem getLast?_unitText (type : TypeDecl) (candidates : List Candidate) (options : UnitOptions) :
    (type.unitText candidates options).toList.getLast? = some '\n' := by
  have closed : ∃ steps, type.unitSteps candidates options = steps ++ [.closeBlock] := by
    simp only [unitSteps, blockHeads, List.map_append, List.map_singleton, ← List.append_assoc]
    exact ⟨_, rfl⟩
  obtain ⟨steps, closed⟩ := closed
  rw [unitText, closed, Layout.run_append, Layout.run_cons, Layout.run_nil]
  exact Layout.getLast?_line _ _

end TypeDecl

end ConversionSynthesis
