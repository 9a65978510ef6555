import ConversionSynthesis.Host.Accessibility
import ConversionSynthesis.Naming.Resolution
import ConversionSynthesis.TypeExpr.SyntaxError

/-! # What can be wrong with a declaration -/

namespace ConversionSynthesis

open Host

inductive DeclPart where
  | whole
  | enclosing (depth : Nat)
  | constructor (index : Nat)
  | constructorParameter (index parameter : Nat)
  | conversion (index : Nat)
  | conversionParameter (index parameter : Nat)
deriving DecidableEq, Repr

def DeclPart.message : DeclPart → String
  | whole => ""
  | enclosing depth => " containing type #" ++ toString depth
  | constructor index => " constructor #" ++ toString index
  | constructorParameter index parameter =>
      " constructor #" ++ toString index ++ " parameter #" ++ toString parameter
  | conversion index => " conversion #" ++ toString index
  | conversionParameter index parameter =>
      " conversion #" ++ toString index ++ " parameter #" ++ toString parameter

structure DeclPlace where
  index : Nat
  name : String
  part : DeclPart := .whole
deriving DecidableEq, Repr

def DeclPlace.message (place : DeclPlace) : String :=
  "types[" ++ toString place.index ++ "] '" ++ place.name ++ "'" ++ place.part.message

inductive NameRole where
  | type
  | namespaceSegment
  | typeParameter
  | enclosing
  | parameter
deriving DecidableEq, Repr

def NameRole.message : NameRole → String
  | type => "type name"
  | namespaceSegment => "namespace segment"
  | typeParameter => "type parameter"
  | enclosing => "containing type name"
  | parameter => "parameter name"

inductive DeclFault where
  | invalidName (role : NameRole) (name : String)
  | unknownKind (text : String)
  | unknownAccessibility (text : String)
  | unknownConversionKind (text : String)
  | duplicateTypeParameter (name : String)
  /-- A type has the name of the type right around it. -/
  | nestedInNamesake (name : String)
  | invalidUsing (path : String)
  | emptyParameterName
  | duplicateParameter (name : String)
  | emptyParameterType
  | unreadableType (text : String) (error : SyntaxError)
  /-- A parameter type denotes no type. -/
  | unresolvedType (text : String) (error : ResolveError)
deriving DecidableEq, Repr

namespace DeclFault

def message : DeclFault → String
  | invalidName role name => "invalid " ++ role.message ++ " '" ++ name ++ "'"
  | unknownKind text => "unknown type kind '" ++ text ++ "'"
  | unknownAccessibility text => Host.unknownAccessibility text
  | unknownConversionKind text => "unknown conversion kind '" ++ text ++ "'"
  | duplicateTypeParameter name => "duplicate type parameter '" ++ name ++ "'"
  | nestedInNamesake name => "type '" ++ name ++ "' is nested in a type of the same name"
  | invalidUsing path => "invalid using directive '" ++ path ++ "'"
  | emptyParameterName => "parameter name must not be empty"
  | duplicateParameter name => "duplicate parameter name '" ++ name ++ "'"
  | emptyParameterType => "parameter type must not be empty"
  | unreadableType _ error => "cannot parse type expression: " ++ error.message
  | unresolvedType _ error => error.message

def help? : DeclFault → Option String
  | unknownKind _ => some "expected one of 'class', 'struct', 'record', 'record struct'"
  | unknownAccessibility _ =>
      some ("expected one of: " ++ ", ".intercalate (Accessibility.all.map (·.keyword)))
  | unknownConversionKind _ => some "expected 'implicit' or 'explicit'"
  | nestedInNamesake _ => some "a member cannot share its name with its enclosing type"
  | _ => none

end DeclFault

structure DeclError where
  place : DeclPlace
  fault : DeclFault
deriving DecidableEq, Repr

def DeclError.message (error : DeclError) : String :=
  error.place.message ++ ": " ++ error.fault.message

end ConversionSynthesis
