import ConversionSynthesis.Text.Position

/-! # Why a text is not the JSON that was asked for -/

namespace ConversionSynthesis.Json

inductive Fault where
  | endInValue
  | endInObject
  | endInList
  | endInString
  | noValue
  /-- One of the words `true`, `false` and `null` is begun but not finished. -/
  | brokenWord
  | noColon
  | noObjectSeparator
  | noListSeparator
  | keyNotString
  | trailingComma
  | trailingText
  | invalidNumber
  | numberOutOfRange
  | controlInString
  | invalidEscape
  | loneSurrogate
  | brokenSurrogate
  | wrongType (found wanted : String)
  | unknownField (name : String) (known : List String)
  | unknownVariant (name : String) (known : List String)
  | duplicateField (name : String)
  | missingField (name : String)
  | invalidLength (length : Nat) (wanted : String)
deriving DecidableEq, Repr

def ticked (name : String) : String :=
  "`" ++ name ++ "`"

def expectedOneOf : List String → String
  | [] => "nothing"
  | [only] => ticked only
  | [first, second] => ticked first ++ " or " ++ ticked second
  | several => "one of " ++ ", ".intercalate (several.map ticked)

def Fault.message : Fault → String
  | endInValue => "EOF while parsing a value"
  | endInObject => "EOF while parsing an object"
  | endInList => "EOF while parsing a list"
  | endInString => "EOF while parsing a string"
  | noValue => "expected value"
  | brokenWord => "expected ident"
  | noColon => "expected `:`"
  | noObjectSeparator => "expected `,` or `\x7d`"
  | noListSeparator => "expected `,` or `]`"
  | keyNotString => "key must be a string"
  | trailingComma => "trailing comma"
  | trailingText => "trailing characters"
  | invalidNumber => "invalid number"
  | numberOutOfRange => "number out of range"
  | controlInString => "control character (\\u0000-\\u001F) found while parsing a string"
  | invalidEscape => "invalid escape"
  | loneSurrogate => "lone leading surrogate in hex escape"
  | brokenSurrogate => "unexpected end of hex escape"
  | wrongType found wanted => "invalid type: " ++ found ++ ", expected " ++ wanted
  | unknownField name known =>
      "unknown field " ++ ticked name ++ ", expected " ++ expectedOneOf known
  | unknownVariant name known =>
      "unknown variant " ++ ticked name ++ ", expected " ++ expectedOneOf known
  | duplicateField name => "duplicate field " ++ ticked name
  | missingField name => "missing field " ++ ticked name
  | invalidLength length wanted =>
      "invalid length " ++ toString length ++ ", expected " ++ wanted

/-- A fault, with the number of bytes read when it showed. -/
structure Failure where
  fault : Fault
  offset : Nat
deriving DecidableEq, Repr

/-- A fault located by line and column; the column counts the bytes read of the line. -/
structure LocatedFault where
  fault : Fault
  line : Nat
  column : Nat
deriving DecidableEq, Repr

namespace LocatedFault

def message (located : LocatedFault) : String :=
  located.fault.message ++ " at line " ++ toString located.line ++
    " column " ++ toString located.column

end LocatedFault

def Failure.locate (failure : Failure) (bytes : ByteArray) : LocatedFault :=
  let read := (bytes.extract 0 failure.offset).toList
  ⟨failure.fault, Text.lineAfter read, Text.lastLineLength read⟩

end ConversionSynthesis.Json
