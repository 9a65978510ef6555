import ConversionSynthesis.Delivery.Sink
import ConversionSynthesis.Text.Bytes

/-! # Units in a stream of bytes

Units are written one after the other, each behind a banner line with its identifier. A stream that
runs full keeps what fitted into it.
-/

namespace ConversionSynthesis

namespace GeneratedUnit

def banner (unit : GeneratedUnit) : String :=
  "// ---- " ++ unit.identifier ++ "\n"

def lineEnd (unit : GeneratedUnit) : List String :=
  if unit.text.toList.getLast? = some '\n' then [] else ["\n"]

def listing (unit : GeneratedUnit) : List String :=
  unit.banner :: unit.text :: unit.lineEnd

end GeneratedUnit

/-- Writes texts in order, up to the first that cannot be written as a whole, and says whether all
were. -/
def writeAll {m : Type → Type} [Monad m] (write : String → m Bool) : List String → m Bool
  | [] => pure true
  | text :: rest => do
      if ← write text then writeAll write rest else pure false

def listingSink {m : Type → Type} [Monad m] (write : String → m Bool) : Sink m := fun unit => do
  if !isUnitIdentifier unit.identifier then
    pure (.error (.invalidIdentifier unit.identifier))
  else if ← writeAll write unit.listing then pure (.ok ())
  else pure (.error (.unwritable unit.identifier))

structure ByteStream where
  stored : ByteArray := .empty
  capacity : Option Nat := none

namespace ByteStream

def toList (stream : ByteStream) : List UInt8 :=
  stream.stored.data.toList

def fitting (stream : ByteStream) (bytes : ByteArray) : ByteArray :=
  match stream.capacity with
  | none => bytes
  | some capacity => bytes.extract 0 (capacity - stream.stored.size)

def write (text : String) : StateM ByteStream Bool := fun stream =>
  let bytes := text.toUTF8
  let kept := stream.fitting bytes
  (kept.size == bytes.size, { stream with stored := stream.stored ++ kept })

@[simp]
theorem capacity_write (stream : ByteStream) (text : String) :
    (write text stream).2.capacity = stream.capacity := rfl

theorem toList_write_of_limited (stream : ByteStream) (text : String) (capacity : Nat)
    (h : stream.capacity = some capacity) :
    (write text stream).2.toList =
      stream.toList ++ (Text.bytes text).take (capacity - stream.toList.length) := by
  simp [write, fitting, toList, h, Text.bytes_eq]

def sink : Sink (StateM ByteStream) :=
  listingSink write

end ByteStream

end ConversionSynthesis
