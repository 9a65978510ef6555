/-! # Lines and columns

A place in a text is the number of bytes before it, or a line, counted from one, with a column.
Lines end behind each newline byte.
-/

namespace ConversionSynthesis.Text

def newline : UInt8 := 10

def newlines (bytes : List UInt8) : Nat :=
  bytes.count newline

/-- The number of bytes behind the last newline; all of them if there is none. -/
def lastLineLength (bytes : List UInt8) : Nat :=
  (bytes.reverse.takeWhile (· != newline)).length

def lineAfter (bytes : List UInt8) : Nat :=
  newlines bytes + 1

def linesLength : (count : Nat) → List UInt8 → Nat
  | 0, _ => 0
  | _, [] => 0
  | count + 1, byte :: rest =>
      1 + if byte = newline then linesLength count rest else linesLength (count + 1) rest

/-- The place behind the first `count` lines that follow a place. -/
def placeBehind (bytes : ByteArray) (count place : Nat) : Nat :=
  if h : place < bytes.size then
    match count with
    | 0 => place
    | fewer + 1 =>
        if bytes[place] = newline then placeBehind bytes fewer (place + 1)
        else placeBehind bytes (fewer + 1) (place + 1)
  else place
termination_by bytes.size - place

theorem placeBehind_eq (bytes : ByteArray) (count place : Nat) :
    placeBehind bytes count place =
      place + linesLength count (bytes.data.toList.drop place) := by
  fun_induction placeBehind bytes count place with
  | case1 place h => simp [linesLength]
  | case2 place h fewer hnewline ih =>
      have hlength : place < bytes.data.toList.length := by simpa using h
      have hget : bytes.data.toList[place] = newline := hnewline
      rw [List.drop_eq_getElem_cons hlength, linesLength, hget, if_pos rfl, ih]
      omega
  | case3 place h fewer hnewline ih =>
      have hlength : place < bytes.data.toList.length := by simpa using h
      have hget : ¬ bytes.data.toList[place] = newline := hnewline
      rw [List.drop_eq_getElem_cons hlength, linesLength, if_neg hget, ih]
      omega
  | case4 count place h =>
      have hlength : bytes.data.toList.length ≤ place := by simpa using h
      rw [List.drop_eq_nil_of_le hlength]
      cases count <;> simp [linesLength]

/-- The place at a line and a column, both counted from one, but never beyond the end. A line zero
stands for the end, a column zero for the start of its line. Places are machine words, so the start
of a line and a column add up without the carry of a sum that fits no word. -/
def byteOffset (bytes : ByteArray) (line column : Nat) : Nat :=
  if line = 0 then bytes.size
  else min ((placeBehind bytes (line - 1) 0 + (column - 1)) % UInt64.size) bytes.size

end ConversionSynthesis.Text
