import ConversionSynthesis.Candidate
import ConversionSynthesis.Text.Digits

/-! # Conversion operators as text

An operator takes one operand. A sole parameter is the operand itself; several parameters arrive
packed in a tuple whose elements are labelled after them. A name that cannot label its element is
left off, and the element is read by its position.
-/

namespace ConversionSynthesis

/-- The members that every tuple has of itself; no element may take their names. -/
def tupleMembers : List String :=
  ["Rest", "ToString", "GetHashCode", "Equals", "GetType"]

/-- The position that a label `ItemN` speaks of, counted from one: its number has no needless zero
and fits a machine word. -/
def itemPosition? (label : String) : Option Nat :=
  (Text.decimal? (label.toList.drop 4)).filter fun position =>
    0 < position && position < UInt64.size && label == "Item" ++ toString position

def mayLabel (name : String) (position : Nat) : Bool :=
  !tupleMembers.contains name &&
    match itemPosition? name with
    | some n => n == position
    | none => true

structure OperandElement where
  type : HostType
  /-- The label, where the name of the parameter can serve as one. -/
  label : Option String

def operandElements : Nat → Signature → List OperandElement
  | _, [] => []
  | position, ⟨name, type⟩ :: rest =>
      ⟨type, if mayLabel name position then some name else none⟩ ::
        operandElements (position + 1) rest

namespace OperandElement

def declaration (element : OperandElement) : String :=
  match element.label with
  | some label => element.type.display ++ " " ++ Host.escaped label
  | none => element.type.display

def member (element : OperandElement) (position : Nat) : String :=
  match element.label with
  | some label => Host.escaped label
  | none => "Item" ++ toString position

end OperandElement

inductive Operand where
  | sole (parameter : Parameter)
  | packed (elements : List OperandElement)

namespace Operand

def tupleName : String := "tuple"

def ofConstructor (constructor : Constructor) (signature : Signature) : Operand :=
  match constructor.parameters with
  | [only] => sole only
  | _ => packed (operandElements 1 signature)

def declaration : Operand → String
  | sole parameter => parameter.type.display ++ " " ++ Host.escaped parameter.name
  | packed elements =>
      "(" ++ ", ".intercalate (elements.map (·.declaration)) ++ ") " ++ tupleName

def arguments : Operand → List String
  | sole parameter => [Host.escaped parameter.name]
  | packed elements =>
      elements.mapIdx fun index element => tupleName ++ "." ++ element.member (index + 1)

end Operand

namespace Candidate

def operand (candidate : Candidate) : Operand :=
  .ofConstructor candidate.constructor candidate.signature

def operator (candidate : Candidate) (owner : TypeDecl) : String :=
  let target := owner.qualifiedDisplay
  "public static implicit operator " ++ target ++ "(" ++ candidate.operand.declaration ++
    ") => new " ++ target ++ "(" ++ ", ".intercalate candidate.operand.arguments ++ ");"

end Candidate

end ConversionSynthesis
