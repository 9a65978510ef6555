import ConversionSynthesis.Batch

/-! # Delivery of units

A sink takes in units one by one and may refuse any of them. Delivery ends at the first refusal, and
nothing is delivered of a batch that fails.
-/

namespace ConversionSynthesis

inductive SinkError where
  | invalidDirectory (path : String)
  | invalidIdentifier (identifier : String)
  | duplicateIdentifier (identifier : String)
  | unwritable (path : String)
deriving DecidableEq, Repr

def SinkError.message : SinkError → String
  | invalidDirectory path =>
      "output directory '" ++ path ++ "' contains path traversal (..)"
  | invalidIdentifier identifier => "'" ++ identifier ++ "' is not a valid unit identifier"
  | duplicateIdentifier identifier => "duplicate unit identifier '" ++ identifier ++ "'"
  | unwritable path => "cannot write '" ++ path ++ "'"

/-- Whether a character would make an identifier more than the name of a file. -/
def leavesDirectory (c : Char) : Bool :=
  c == '/' || c == '\\' || c == '\x00'

def isUnitIdentifier (identifier : String) : Bool :=
  !(identifier == "" || identifier == "." || identifier == "..") &&
    !identifier.toList.any leavesDirectory

abbrev Sink (m : Type → Type) := GeneratedUnit → m (Except SinkError Unit)

/-- Offers units to a sink in order, up to the first that it refuses. -/
def deliver {m : Type → Type} [Monad m] (sink : Sink m) :
    List GeneratedUnit → m (Except SinkError Unit)
  | [] => pure (.ok ())
  | unit :: rest => do
      match ← sink unit with
      | .error error => pure (.error error)
      | .ok () => deliver sink rest

inductive DeliveryError where
  | batch (error : BatchError)
  | sink (error : SinkError)
deriving DecidableEq, Repr

def DeliveryError.message : DeliveryError → String
  | batch error => error.message
  | sink error => error.message

def generateInto {m : Type → Type} [Monad m] (settings : BatchSettings)
    (isCancelledAt : Nat → Bool) (types : List TypeDecl) (sink : Sink m) :
    m (Except DeliveryError Nat) :=
  match generateAll settings isCancelledAt types with
  | .error error => pure (.error (.batch error))
  | .ok units => do
      match ← deliver sink units with
      | .error error => pure (.error (.sink error))
      | .ok () => pure (.ok units.length)

end ConversionSynthesis
