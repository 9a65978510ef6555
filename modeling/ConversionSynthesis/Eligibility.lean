import ConversionSynthesis.Signature

/-! # Which types and constructors qualify

A type qualifies if it can be instantiated and extended. A constructor qualifies if it is visible
enough and its parameters are specific enough to back an implicit conversion. Each refusal is an
answer with a reason.
-/

namespace ConversionSynthesis

open Host

inductive Rejection where
  | abstractType
  | staticType
  | notExtensible
deriving DecidableEq, Repr

def Rejection.message : Rejection → String
  | abstractType => "type is abstract"
  | staticType => "type is static"
  | notExtensible => "type or an enclosing type is not partial"

inductive Ineligibility where
  /-- The constructor or its type asks for no conversion. -/
  | optedOut
  | obsolete
  /-- The level of the constructor is not admitted by the type or a type around it. -/
  | inaccessible (level context : Accessibility)
  | noParameters
  | copyConstructor
  /-- The named parameter accepts so much that a conversion would widen every overload. -/
  | generalizable (parameter : String)
  /-- Several values need a tuple to travel in one operand. -/
  | requiresTuples
deriving DecidableEq, Repr

def Ineligibility.message : Ineligibility → String
  | optedOut => "opted out"
  | obsolete => "obsolete"
  | inaccessible level context =>
      level.keyword ++ " constructor is not accessible from a " ++ context.keyword ++ " context"
  | noParameters => "takes no parameters"
  | copyConstructor => "copy constructor"
  | generalizable parameter =>
      "parameter '" ++ parameter ++ "' has a type that can be generalized"
  | requiresTuples => "multiple parameters require tuple support"

namespace TypeDecl

def rejection? (type : TypeDecl) : Option Rejection :=
  if type.isAbstract then some .abstractType
  else if type.isStatic then some .staticType
  else if !type.isExtensible then some .notExtensible
  else none

/-- What the parameters of a constructor say against it, apart from the tuples they may need. A
lone interface is clear at the call, although many types implement it. -/
def parameterFault? (type : TypeDecl) (parameters : List Parameter) : Option Ineligibility :=
  match parameters with
  | [] => some .noParameters
  | [only] =>
      if only.type.identity? = some type.identity then some .copyConstructor
      else if only.type.isInterface then none
      else if only.type.isGeneralizable then some (.generalizable only.name)
      else none
  | several =>
      (several.find? (·.type.isGeneralizable)).map fun parameter => .generalizable parameter.name

/-- Why a constructor of the type backs no conversion, if it backs none: the first reason of the
marks, the visibility, the parameters and the tuples they need. -/
def ineligibility? (type : TypeDecl) (constructor : Constructor) (tuples : TupleSupport) :
    Option Ineligibility :=
  if constructor.isOptedOut || type.isOptedOut then some .optedOut
  else if constructor.isObsolete then some .obsolete
  else
    match Accessibility.firstRejecting? type.accessibilityChain constructor.accessibility with
    | some context => some (.inaccessible constructor.accessibility context)
    | none =>
        match type.parameterFault? constructor.parameters with
        | some fault => some fault
        | none =>
            if tuples = .absent ∧ 1 < constructor.parameters.length then some .requiresTuples
            else none

/-- Whether a constructor of the type may back a conversion at all, on a host with tuples. -/
def mayBack (type : TypeDecl) (constructor : Constructor) : Bool :=
  (type.ineligibility? constructor .native).isNone

end TypeDecl

end ConversionSynthesis
