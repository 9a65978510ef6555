import ConversionSynthesis.Declaration.TypeDecl

/-! # Signatures of conversions

A conversion takes its values either one by one or packed in a tuple. Where the host has tuples a
lone tuple stands for its elements, so both forms have one signature.
-/

namespace ConversionSynthesis

inductive TupleSupport where
  | native
  | absent
deriving DecidableEq, Repr

def TupleSupport.ofBool : Bool → TupleSupport
  | true => native
  | false => absent

def TupleSupport.meet : TupleSupport → TupleSupport → TupleSupport
  | native, native => native
  | _, _ => absent

structure SignatureElement where
  name : String
  type : HostType

abbrev Signature := List SignatureElement

def Signature.types (signature : Signature) : List HostType :=
  signature.map (·.type)

namespace TupleSupport

/-- The sequence of types that counts in a comparison: where the host has tuples, a lone tuple
gives way to its elements, one level deep. -/
def unpacked : TupleSupport → List HostType → List HostType
  | native, [.tuple elements] => elements.map (·.type)
  | _, types => types

def sameSignature (tuples : TupleSupport) (left right : List HostType) : Bool :=
  HostType.sameTypes (tuples.unpacked left) (tuples.unpacked right)

end TupleSupport

namespace Constructor

def soleTuple? (constructor : Constructor) : Option (List TupleElement) :=
  match constructor.parameters with
  | [only] => only.type.elements?
  | _ => none

def isDestructured (constructor : Constructor) (tuples : TupleSupport) : Bool :=
  tuples = .native && constructor.soleTuple?.isSome

/-- The signature that spells out a tuple: its elements under the labels it knows them by. -/
def tupleSignature (elements : List TupleElement) : Signature :=
  elements.mapIdx fun index element => ⟨TupleElement.labelAt elements index, element.type⟩

/-- The signature of a constructor: the elements of the tuple it takes, or its parameters. -/
def signature (constructor : Constructor) (tuples : TupleSupport) : Signature :=
  match tuples, constructor.soleTuple? with
  | .native, some elements => tupleSignature elements
  | _, _ => constructor.parameters.map fun parameter => ⟨parameter.name, parameter.type⟩

end Constructor

end ConversionSynthesis
