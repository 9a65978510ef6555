import ConversionSynthesis.Text.Blank

/-! # Kinds of types that carry constructors -/

namespace ConversionSynthesis.Host

inductive TypeKind where
  | classType
  | structType
  | recordType
  | recordStructType
deriving DecidableEq, Repr, Inhabited

namespace TypeKind

def keyword : TypeKind → String
  | classType => "class"
  | structType => "struct"
  | recordType => "record"
  | recordStructType => "record struct"

/-- The kind that words declare; a record is a class unless it says otherwise. -/
def ofWords? : List String → Option TypeKind
  | ["class"] => some classType
  | ["struct"] => some structType
  | ["record"] => some recordType
  | ["record", "class"] => some recordType
  | ["record", "struct"] => some recordStructType
  | _ => none

def ofKeyword? (text : String) : Option TypeKind :=
  ofWords? (Text.words text)

/-- Whether values of the kind are references, which may be null without a change of type. -/
def isReference : TypeKind → Bool
  | classType | recordType => true
  | structType | recordStructType => false

end TypeKind

end ConversionSynthesis.Host
