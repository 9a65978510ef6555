import ConversionSynthesis.TypeExpr.Basic

/-! # Tokens and syntax errors of type expressions -/

namespace ConversionSynthesis

inductive TokenKind where
  | ident (name : String)
  | doubleColon
  | dot
  | comma
  | openParen
  | closeParen
  | openAngle
  | closeAngle
  | openBracket
  | closeBracket
  | question
deriving DecidableEq, Repr

structure Token where
  kind : TokenKind
  span : Span
deriving DecidableEq, Repr

namespace TokenKind

def text : TokenKind → String
  | ident name => name
  | doubleColon => "::"
  | dot => "."
  | comma => ","
  | openParen => "("
  | closeParen => ")"
  | openAngle => "<"
  | closeAngle => ">"
  | openBracket => "["
  | closeBracket => "]"
  | question => "?"

/-- How messages name what was found: a token, or the end of the text. -/
def found : Option TokenKind → String
  | some kind => "'" ++ kind.text ++ "'"
  | none => "end of input"

end TokenKind

inductive Expectation where
  | typeName
  | arrayEnd
  | tupleEnd
  | argumentsEnd
deriving DecidableEq, Repr

def Expectation.message : Expectation → String
  | typeName => "expected a type name"
  | arrayEnd => "expected ']' after array rank"
  | tupleEnd => "expected ')' after tuple elements"
  | argumentsEnd => "expected '>' after type arguments"

inductive SyntaxFault where
  /-- A verbatim mark without a name. -/
  | markAlone
  /-- A colon without a second one. -/
  | colonAlone
  | strayCharacter (c : Char)
  | noType
  | expected (what : Expectation) (found : Option TokenKind)
  /-- A token after a whole type. -/
  | trailing (found : TokenKind)
  | tooDeep
  | emptyTuple
  | loneElement
deriving DecidableEq, Repr

def SyntaxFault.message : SyntaxFault → String
  | markAlone => "expected an identifier after '@'"
  | colonAlone => "expected '::'"
  | strayCharacter c => "unexpected character '" ++ String.singleton c ++ "'"
  | noType => "empty type expression"
  | expected what found => what.message ++ ", found " ++ TokenKind.found found
  | trailing found => "unexpected " ++ TokenKind.found (some found) ++ " after type"
  | tooDeep => "type expression nested too deeply"
  | emptyTuple => "empty tuple type"
  | loneElement => "tuple type needs at least two elements"

structure SyntaxError where
  fault : SyntaxFault
  span : Span
deriving DecidableEq, Repr

def SyntaxError.message (error : SyntaxError) : String :=
  error.fault.message

def SyntaxError.placedMessage (error : SyntaxError) : String :=
  error.message ++ " at " ++ toString error.span.start ++ ".." ++ toString error.span.stop

end ConversionSynthesis
