import ConversionSynthesis.Declaration.HostType
import ConversionSynthesis.Host.Accessibility
import ConversionSynthesis.Host.TypeKind

/-! # Declared types

A declaration lists what the analysis reads of a type: its place, its modifiers, its constructors
and the conversions its author wrote.
-/

namespace ConversionSynthesis

open Host

/-- A parameter of a constructor; its name is bare. -/
structure Parameter where
  name : String
  type : HostType

structure Constructor where
  accessibility : Accessibility := .pub
  isOptedOut : Bool := false
  isObsolete : Bool := false
  parameters : List Parameter := []

structure EnclosingType where
  name : String
  kind : TypeKind := .classType
  accessibility : Accessibility := .pub
  typeParameters : List String := []
deriving DecidableEq, Repr

abbrev Level := String × List String

/-- Where a type is declared: its namespace, the types around it and itself. -/
structure Address where
  namespacePath : Option String
  /-- The types around the type, the outermost first. -/
  enclosing : List Level
  own : Level
deriving DecidableEq, Repr

def Address.nesting (address : Address) : List Level :=
  address.enclosing ++ [address.own]

inductive ConversionKind where
  | implicit
  | explicit
deriving DecidableEq, Repr

namespace ConversionKind

def keyword : ConversionKind → String
  | implicit => "implicit"
  | explicit => "explicit"

def ofKeyword? : String → Option ConversionKind
  | "implicit" => some implicit
  | "explicit" => some explicit
  | _ => none

end ConversionKind

structure Conversion where
  kind : ConversionKind := .implicit
  parameters : List HostType

structure TypeDecl where
  name : String
  namespacePath : Option String := none
  enclosing : List EnclosingType := []
  kind : TypeKind := .classType
  accessibility : Accessibility := .pub
  typeParameters : List String := []
  isAbstract : Bool := false
  isStatic : Bool := false
  /-- Whether this type and every type around it accept further declaration fragments. -/
  isExtensible : Bool := true
  /-- Whether the author asked for no conversion from any of the constructors. -/
  isOptedOut : Bool := false
  usings : List String := []
  constructors : List Constructor := []
  conversions : List Conversion := []

/-- A name followed by its parameters, joined by `separator`, between brackets; a name without
parameters stands alone. -/
def bracketed (opening separator closing name : String) (parameters : List String) : String :=
  if parameters.isEmpty then name
  else name ++ opening ++ separator.intercalate parameters ++ closing

def genericIdentity (name : String) (arguments : List String) : String :=
  bracketed "<" "," ">" name arguments

def genericDisplay (name : String) (arguments : List String) : String :=
  bracketed "<" ", " ">" name arguments

namespace TypeDecl

def arity (type : TypeDecl) : Nat :=
  type.typeParameters.length

/-- The accessibility levels from the type itself out to the outermost type around it. -/
def accessibilityChain (type : TypeDecl) : List Accessibility :=
  type.accessibility :: (type.enclosing.reverse.map (·.accessibility))

def address (type : TypeDecl) : Address where
  namespacePath := type.namespacePath
  enclosing := type.enclosing.map fun outer => (outer.name, outer.typeParameters)
  own := (type.name, type.typeParameters)

/-- The dotted path of the type when `segment` writes each name with its parameters. -/
def path (type : TypeDecl) (segment : String → List String → String) : String :=
  ".".intercalate
    (type.namespacePath.toList ++ type.address.nesting.map fun level => segment level.1 level.2)

def identity (type : TypeDecl) : String :=
  type.path genericIdentity

/-- The spelling of the type in emitted code, such as `global::Demo.Outer<U>.Box<T, V>`. -/
def qualifiedDisplay (type : TypeDecl) : String :=
  "global::" ++ type.path genericDisplay

/-- The spelling of the type in a documentation comment: braces stand for angle brackets. -/
def cref (type : TypeDecl) : String :=
  "global::" ++ type.path (bracketed "\x7b" ", " "\x7d")

end TypeDecl

end ConversionSynthesis
