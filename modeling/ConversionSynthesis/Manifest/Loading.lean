import ConversionSynthesis.Manifest.Declarations
import ConversionSynthesis.Manifest.Document
import ConversionSynthesis.Signature

/-! # From texts to declarations

A manifest text is read as a whole before any declaration in it is checked, so a fault in its form
wins over every fault in its content.
-/

namespace ConversionSynthesis

structure Highlight where
  remark : String
  offset : Nat
  length : Nat
deriving DecidableEq, Repr

/-- The highlight of a stretch, at least one byte long. -/
def Highlight.ofSpan (remark : String) (span : Span) : Highlight :=
  ⟨remark, span.start, max span.length 1⟩

/-- The highlight of a fault in the form of a text: the byte at its place, or nothing at the end. -/
def Highlight.ofFault (fault : Json.LocatedFault) (bytes : ByteArray) : Highlight :=
  let offset := Text.byteOffset bytes fault.line fault.column
  ⟨"here", offset, if offset < bytes.size then 1 else 0⟩

def maxManifestSize : Nat := 100 * 1024 * 1024

inductive LoadError where
  | unreadable (path : String)
  | tooLarge (path : String) (size : Nat)
  | malformed (name : String) (fault : Json.LocatedFault) (highlight : Highlight)
  | invalid (error : DeclError)
deriving DecidableEq, Repr

namespace LoadError

def message : LoadError → String
  | unreadable path => "cannot read manifest '" ++ path ++ "'"
  | tooLarge path size =>
      "manifest '" ++ path ++ "' is too large (" ++ toString size ++ " bytes, max " ++
        toString maxManifestSize ++ " bytes)"
  | malformed _ fault _ => "malformed manifest: " ++ fault.message
  | invalid error => error.message

def kind : LoadError → String
  | unreadable _ => "io"
  | tooLarge .. => "too_large"
  | malformed .. => "json"
  | invalid ⟨_, .unreadableType ..⟩ => "type_syntax"
  | invalid ⟨_, .unresolvedType ..⟩ => "invalid_type"
  | invalid _ => "invalid_declaration"

def code (error : LoadError) : String :=
  "implicitgen::ingest::" ++ error.kind

def help? : LoadError → Option String
  | invalid error => error.fault.help?
  | _ => none

/-- The text that an error points into, by its name, with the stretch it points at. -/
def excerpt? : LoadError → Option (String × Highlight)
  | malformed name _ highlight => some (name, highlight)
  | invalid ⟨place, .unreadableType _ error⟩ =>
      some (place.message, .ofSpan "invalid syntax" error.span)
  | invalid ⟨place, .unresolvedType _ error⟩ => some (place.message, .ofSpan "here" error.span)
  | _ => none

end LoadError

structure Declarations where
  tuples : TupleSupport := .native
  types : List TypeDecl := []

def LoadError.ofFailure (name text : String) (failure : Json.Failure) : LoadError :=
  let bytes := text.toUTF8
  let fault := failure.locate bytes
  malformed name fault (.ofFault fault bytes)

def Declarations.ofText (name text : String) : Except LoadError Declarations :=
  match Manifest.ofJson text with
  | .error failure => .error (.ofFailure name text failure)
  | .ok manifest =>
      match manifest.declarations with
      | .error error => .error (.invalid error)
      | .ok types => .ok ⟨.ofBool manifest.hasTuples, types⟩

end ConversionSynthesis
