import ConversionSynthesis.Declaration.TypeDecl

/-! # What names may refer to

A scope holds the declared types, a table of capabilities for further names, and the type
parameters at hand. Declared types are found by their dotted path, or by their simple name while it
is unambiguous.
-/

namespace ConversionSynthesis

open Host

/-- The path `name` below `above`, where an empty path is no path. -/
def below (above name : String) : String :=
  if above.isEmpty then name else above ++ "." ++ name

structure DeclaredType where
  path : String
  name : String
  /-- The identity of the namespace and the enclosing types with their type parameters. -/
  prefixIdentity : String
  /-- The same, as spelled in emitted code. -/
  prefixDisplay : String
  arity : Nat
  kind : TypeKind
deriving DecidableEq, Repr

abbrev Registry := List DeclaredType

namespace Registry

/-- The type last declared with a path and a number of type parameters. -/
def byPath? (registry : Registry) (path : String) (arity : Nat) : Option DeclaredType :=
  registry.reverse.find? fun declared => declared.path == path && declared.arity == arity

def bySimpleName? (registry : Registry) (name : String) (arity : Nat) : Option DeclaredType :=
  match registry.filter fun declared => declared.name == name && declared.arity == arity with
  | [only] => some only
  | _ => none

/-- The declared type that a path of so many segments refers to: an exact path first, and then, for
a single segment, an unambiguous simple name. -/
def lookup? (registry : Registry) (path : String) (segments arity : Nat) : Option DeclaredType :=
  match registry.byPath? path arity with
  | some declared => some declared
  | none => if segments = 1 then registry.bySimpleName? path arity else none

end Registry

/-- Capabilities of names, in order of entry; a later entry for a name replaces an earlier one. -/
abbrev SymbolTable := List (String × Capability)

def SymbolTable.lookup? (table : SymbolTable) (name : String) : Option Capability :=
  (table.reverse.find? fun entry => entry.1 == name).map (·.2)

structure Scope where
  registry : Registry := []
  symbols : SymbolTable := []
  typeParameters : List String := []

end ConversionSynthesis
