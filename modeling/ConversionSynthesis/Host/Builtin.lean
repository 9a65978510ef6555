/-! # Builtin types of the host language

Every builtin type has one canonical name, one keyword and possibly further keyword spellings.
Types are compared by canonical name, so all spellings denote one type.
-/

namespace ConversionSynthesis.Host

structure Builtin where
  keyword : String
  /-- The dotted name that stands for the type in comparisons. -/
  canonical : String
  /-- Whether the type holds plain values, so that its nullable form is a type of its own. -/
  isValue : Bool := true
  aliases : List String := []
deriving DecidableEq, Repr

def builtins : List Builtin := [
  ⟨"bool", "System.Boolean", true, []⟩,
  ⟨"byte", "System.Byte", true, []⟩,
  ⟨"sbyte", "System.SByte", true, []⟩,
  ⟨"char", "System.Char", true, []⟩,
  ⟨"decimal", "System.Decimal", true, []⟩,
  ⟨"double", "System.Double", true, []⟩,
  ⟨"float", "System.Single", true, []⟩,
  ⟨"short", "System.Int16", true, []⟩,
  ⟨"ushort", "System.UInt16", true, []⟩,
  ⟨"int", "System.Int32", true, []⟩,
  ⟨"uint", "System.UInt32", true, []⟩,
  ⟨"long", "System.Int64", true, []⟩,
  ⟨"ulong", "System.UInt64", true, []⟩,
  ⟨"nint", "System.IntPtr", true, []⟩,
  ⟨"nuint", "System.UIntPtr", true, []⟩,
  ⟨"object", "System.Object", false, ["dynamic"]⟩,
  ⟨"string", "System.String", false, []⟩]

def Builtin.keywords (builtin : Builtin) : List String :=
  builtin.keyword :: builtin.aliases

def Builtin.ofKeyword? (word : String) : Option Builtin :=
  builtins.find? fun builtin => builtin.keywords.contains word

def Builtin.ofCanonical? (name : String) : Option Builtin :=
  builtins.find? fun builtin => builtin.canonical == name

/-- The types that every type, or every type of one category, converts to of itself. -/
def universalBases : List String := [
  "System.Object", "System.ValueType", "System.Enum", "System.Delegate",
  "System.MulticastDelegate", "System.Array"]

def isUniversalBase (canonical : String) : Bool :=
  universalBases.contains canonical

end ConversionSynthesis.Host
