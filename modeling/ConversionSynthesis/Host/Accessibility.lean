import ConversionSynthesis.Text.Blank

/-! # Declared accessibility

The six levels are ordered by what they grant. Only `internal` and `protected` are incomparable:
each of them grants access that the other denies.
-/

namespace ConversionSynthesis.Host

/-- A declared accessibility level, the least visible one first. -/
inductive Accessibility where
  | priv
  | privProt
  | prot
  | internal
  | protInternal
  | pub
deriving DecidableEq, Repr, Inhabited

namespace Accessibility

def all : List Accessibility :=
  [priv, privProt, prot, internal, protInternal, pub]

def keyword : Accessibility → String
  | priv => "private"
  | privProt => "private protected"
  | prot => "protected"
  | internal => "internal"
  | protInternal => "protected internal"
  | pub => "public"

/-- The level that words declare; the two words of a combined level come in either order. -/
def ofWords? : List String → Option Accessibility
  | ["private"] => some priv
  | ["private", "protected"] => some privProt
  | ["protected", "private"] => some privProt
  | ["protected"] => some prot
  | ["internal"] => some internal
  | ["protected", "internal"] => some protInternal
  | ["internal", "protected"] => some protInternal
  | ["public"] => some pub
  | _ => none

def ofKeyword? (text : String) : Option Accessibility :=
  ofWords? (Text.words text)

/-- How far a level reaches; `internal` and `protected` reach equally far in different
directions. -/
def reach : Accessibility → Nat
  | priv => 0
  | privProt => 1
  | prot => 2
  | internal => 2
  | protInternal => 3
  | pub => 4

def compare? (a b : Accessibility) : Option Ordering :=
  if a = b then some .eq
  else if a.reach < b.reach then some .lt
  else if b.reach < a.reach then some .gt
  else none

/-- Whether a member of level `level` may surface a public conversion from a type declared with
level `context`. -/
def admits (context level : Accessibility) : Bool :=
  match level with
  | priv | privProt | prot => false
  | internal | protInternal => context != pub
  | pub => true

/-- The first context, from the innermost outwards, that does not admit a level. -/
def firstRejecting? (contexts : List Accessibility) (level : Accessibility) :
    Option Accessibility :=
  contexts.find? fun context => !context.admits level

end Accessibility

def unknownAccessibility (text : String) : String :=
  "unknown accessibility '" ++ text ++ "'"

end ConversionSynthesis.Host
