import ConversionSynthesis.Host.Identifier

/-! # Types as the host compiler sees them

A host type is a name or a tuple. A name has an identity, by which it is compared, a spelling, by
which it is written, and a capability, which says what arguments a parameter of it accepts.
-/

namespace ConversionSynthesis

/-- What a named type accepts as the type of a parameter. -/
inductive Capability where
  /-- Its own values only. -/
  | concrete
  | general
  /-- The values of every type that implements it. -/
  | interface
deriving DecidableEq, Repr, Inhabited

mutual

inductive HostType where
  | named (identity display : String) (capability : Capability)
  | tuple (elements : List TupleElement)

inductive TupleElement where
  | mk (label : Option String) (type : HostType)

end

instance : Inhabited HostType := ⟨.tuple []⟩

namespace TupleElement

def label : TupleElement → Option String
  | mk label _ => label

def type : TupleElement → HostType
  | mk _ type => type

def positionalLabel (index : Nat) : String :=
  "Item" ++ toString (index + 1)

/-- The label by which a tuple with these elements knows the one at `index`: the declared one, or
else the positional one, also beyond the end. -/
def labelAt (elements : List TupleElement) (index : Nat) : String :=
  (elements[index]?.bind label).getD (positionalLabel index)

end TupleElement

namespace HostType

def elements? : HostType → Option (List TupleElement)
  | named .. => none
  | tuple elements => some elements

/-- The name by which a type is compared; tuples are compared by their elements. -/
def identity? : HostType → Option String
  | named identity .. => some identity
  | tuple _ => none

def isInterface : HostType → Bool
  | named _ _ capability => capability == .interface
  | tuple _ => false

mutual

def isGeneralizable : HostType → Bool
  | named _ _ capability => capability != .concrete
  | tuple elements => anyGeneralizable elements

def anyGeneralizable : List TupleElement → Bool
  | [] => false
  | .mk _ type :: rest => type.isGeneralizable || anyGeneralizable rest

end

mutual

def display : HostType → String
  | named _ display _ => display
  | tuple elements => "(" ++ ", ".intercalate (displays elements) ++ ")"

def displays : List TupleElement → List String
  | [] => []
  | .mk none type :: rest => type.display :: displays rest
  | .mk (some label) type :: rest =>
      (type.display ++ " " ++ Host.escaped label) :: displays rest

end

mutual

/-- The identity written out also for tuples, as the identities of their elements. -/
def structuralIdentity : HostType → String
  | named identity .. => identity
  | tuple elements => "(" ++ ",".intercalate (structuralIdentities elements) ++ ")"

def structuralIdentities : List TupleElement → List String
  | [] => []
  | .mk _ type :: rest => type.structuralIdentity :: structuralIdentities rest

end

mutual

/-- Whether two types are one type to the host: names by identity, tuples element by element. -/
def same : HostType → HostType → Bool
  | named a _ _, named b _ _ => a == b
  | tuple left, tuple right => sameElements left right
  | _, _ => false

def sameElements : List TupleElement → List TupleElement → Bool
  | [], [] => true
  | .mk _ a :: left, .mk _ b :: right => a.same b && sameElements left right
  | _, _ => false

end

def sameTypes : List HostType → List HostType → Bool
  | [], [] => true
  | a :: left, b :: right => a.same b && sameTypes left right
  | _, _ => false

theorem anyGeneralizable_eq_any (elements : List TupleElement) :
    anyGeneralizable elements = elements.any (·.type.isGeneralizable) := by
  induction elements with
  | nil => rfl
  | cons element rest ih => cases element; simp [anyGeneralizable, ih, TupleElement.type]

theorem structuralIdentities_eq_map (elements : List TupleElement) :
    structuralIdentities elements = elements.map (·.type.structuralIdentity) := by
  induction elements with
  | nil => rfl
  | cons element rest ih => cases element; simp [structuralIdentities, ih, TupleElement.type]

theorem sameElements_eq_sameTypes (left right : List TupleElement) :
    sameElements left right = sameTypes (left.map (·.type)) (right.map (·.type)) := by
  induction left generalizing right with
  | nil =>
      cases right with
      | nil => rfl
      | cons b right => cases b; rfl
  | cons a left ih =>
      cases a
      cases right with
      | nil => rfl
      | cons b right => cases b; simp [sameElements, sameTypes, TupleElement.type, ih]

end HostType

end ConversionSynthesis
