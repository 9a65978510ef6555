import ConversionSynthesis.Manifest.Loading
import Mathlib.Data.List.Induction
import Mathlib.Data.List.TakeWhile

/-! # Places told by line and column

The bytes before a place are whole lines, each with the newline that ends it, and the start of one
more line without a newline. The lines are counted by their newlines, so the place is found again
behind as many of them.
-/

namespace ConversionSynthesis.Text

/-- Bytes that make up whole lines: none, or bytes that end with a newline. -/
def AreLines (bytes : List UInt8) : Prop :=
  bytes = [] ∨ bytes.getLast? = some newline

/-- Any bytes are whole lines and the start of one more. -/
theorem exists_lines (bytes : List UInt8) :
    ∃ lines line, bytes = lines ++ line ∧ AreLines lines ∧ newline ∉ line := by
  induction bytes using List.reverseRecOn with
  | nil => exact ⟨[], [], rfl, .inl rfl, List.not_mem_nil⟩
  | append_singleton front byte ih =>
      by_cases ends : byte = newline
      · exact ⟨front ++ [byte], [], by simp, .inr (by simp [ends]), List.not_mem_nil⟩
      · obtain ⟨lines, line, rfl, whole, isOpen⟩ := ih
        refine ⟨lines, line ++ [byte], by simp, whole, ?_⟩
        simp [isOpen, Ne.symm ends]

section

variable {lines line rest : List UInt8}

theorem newlines_append (front back : List UInt8) :
    newlines (front ++ back) = newlines front + newlines back :=
  List.count_append

theorem newlines_of_not_mem (isOpen : newline ∉ line) : newlines line = 0 :=
  List.count_eq_zero.mpr isOpen

theorem lineAfter_append (isOpen : newline ∉ line) :
    lineAfter (lines ++ line) = newlines lines + 1 := by
  rw [lineAfter, newlines_append, newlines_of_not_mem isOpen, Nat.add_zero]

theorem lastLineLength_append (whole : AreLines lines) (isOpen : newline ∉ line) :
    lastLineLength (lines ++ line) = line.length := by
  have inLine : ∀ byte ∈ line.reverse, (byte != newline) = true := by
    intro byte mem
    rw [bne_iff_ne]
    rintro rfl
    exact isOpen (List.mem_reverse.mp mem)
  rw [lastLineLength, List.reverse_append, List.takeWhile_append_of_pos inLine]
  rcases whole with rfl | ends
  · simp
  · obtain ⟨front, rfl⟩ := List.getLast?_eq_some_iff.mp ends
    simp

/-- Whole lines end where as many lines end as they have newlines. -/
theorem linesLength_of_areLines (whole : AreLines lines) :
    linesLength (newlines lines) (lines ++ rest) = lines.length := by
  induction lines with
  | nil => simp [newlines, linesLength]
  | cons byte lines ih =>
      rw [List.length_cons, List.cons_append]
      by_cases ends : byte = newline
      · have whole : AreLines lines := by
          rcases whole with impossible | last
          · cases impossible
          · cases lines with
            | nil => exact .inl rfl
            | cons => exact .inr (by rwa [List.getLast?_cons_cons] at last)
        have counted : newlines (byte :: lines) = newlines lines + 1 := by
          simp [newlines, ends]
        rw [counted, linesLength, if_pos ends, ih whole, Nat.add_comm]
      · -- The line goes on, so that its newline is further back.
        have whole : lines.getLast? = some newline := by
          rcases whole with impossible | last
          · cases impossible
          · cases lines with
            | nil => simp [ends] at last
            | cons => rwa [List.getLast?_cons_cons] at last
        have counted : newlines (byte :: lines) = newlines lines := by
          simp [newlines, ends]
        have someNewline : newlines lines ≠ 0 :=
          Nat.ne_of_gt (List.count_pos_iff.mpr (List.mem_of_getLast? whole))
        obtain ⟨fewer, more⟩ := Nat.exists_eq_succ_of_ne_zero someNewline
        have behind := ih (.inr whole)
        rw [more] at behind
        rw [counted, more, linesLength, if_neg ends, behind, Nat.add_comm]

theorem linesLength_le (count : Nat) (bytes : List UInt8) :
    linesLength count bytes ≤ bytes.length := by
  fun_induction linesLength count bytes with
  | case1 | case2 => exact Nat.zero_le _
  | case3 fewer rest _ ih =>
      rw [List.length_cons]
      split <;> omega

end

/-- A line starts within the text; a column in it adds up with a carry lost, if there is one. -/
theorem byteOffset_eq {bytes : ByteArray} (fits : bytes.size < UInt64.size) {line column : Nat}
    (counted : line ≠ 0) (isWord : column < UInt64.size) :
    let sum := linesLength (line - 1) bytes.data.toList + (column - 1)
    byteOffset bytes line column =
      min (if sum < UInt64.size then sum else sum - UInt64.size) bytes.size := by
  intro sum
  have start : linesLength (line - 1) bytes.data.toList ≤ bytes.size := by
    simpa using linesLength_le (line - 1) bytes.data.toList
  rw [byteOffset, if_neg counted, placeBehind_eq, List.drop_zero, Nat.zero_add]
  split
  · rename_i small
    rw [Nat.mod_eq_of_lt small]
  · rename_i large
    rw [Nat.mod_eq_sub_mod (Nat.not_lt.mp large), Nat.mod_eq_of_lt (by omega)]

/-- A place is found again by the lines before it and the bytes before it in its line. -/
theorem byteOffset_append {bytes : ByteArray} {lines line rest : List UInt8}
    (text : bytes.data.toList = lines ++ (line ++ rest)) (whole : AreLines lines)
    (isWord : (lines ++ line).length < UInt64.size) :
    byteOffset bytes (newlines lines + 1) (line.length + 1) = (lines ++ line).length := by
  have size : bytes.size = (lines ++ (line ++ rest)).length := by
    rw [← text, Array.length_toList]
    rfl
  have start : placeBehind bytes (newlines lines) 0 = lines.length := by
    rw [placeBehind_eq, List.drop_zero, text, linesLength_of_areLines whole, Nat.zero_add]
  rw [byteOffset, if_neg (Nat.succ_ne_zero _), Nat.add_sub_cancel, Nat.add_sub_cancel, start,
    ← List.length_append, Nat.mod_eq_of_lt isWord, size]
  simp only [List.length_append]
  omega

theorem byteOffset_le_size (bytes : ByteArray) (line column : Nat) :
    byteOffset bytes line column ≤ bytes.size := by
  rw [byteOffset]
  split
  · exact Nat.le_refl _
  · exact Nat.min_le_right _ _

end ConversionSynthesis.Text

namespace ConversionSynthesis

open Text

/-- What a fault in the form of a text points at lies inside the text. -/
theorem Highlight.ofFault_inside (fault : Json.LocatedFault) (bytes : ByteArray) :
    (Highlight.ofFault fault bytes).offset + (Highlight.ofFault fault bytes).length ≤ bytes.size ∧
      (Highlight.ofFault fault bytes).length ≤ 1 := by
  have inside := byteOffset_le_size bytes fault.line fault.column
  simp only [Highlight.ofFault]
  split <;> omega

/-- Every place in a text, its end included, is found again by its line and the column of the byte
behind it, both counted from one; a place is a machine word. Whatever the line and the column, a
place in the text is found, also where start of the line and column add up to more than a word
holds: what is left of their sum without its carry is then the place. So the message on a text that
is not of its form points at one byte of it, or at its end. -/
theorem byteOffset_inverts (text : String) :
    (∀ place ≤ text.utf8ByteSize, place < UInt64.size →
      let before := (Text.bytes text).take place
      byteOffset text.toUTF8 (lineAfter before) (lastLineLength before + 1) = place) ∧
    (∀ line column, byteOffset text.toUTF8 line column ≤ text.utf8ByteSize) ∧
    (text.utf8ByteSize < UInt64.size → ∀ line column, line ≠ 0 → column < UInt64.size →
      let sum := linesLength (line - 1) (Text.bytes text) + (column - 1)
      byteOffset text.toUTF8 line column =
        min (if sum < UInt64.size then sum else sum - UInt64.size) text.utf8ByteSize) ∧
    ∀ name failure, ∃ fault highlight,
      LoadError.ofFailure name text failure = .malformed name fault highlight ∧
        highlight.length ≤ 1 ∧ highlight.offset + highlight.length ≤ text.utf8ByteSize := by
  refine ⟨?inverts, byteOffset_le_size text.toUTF8, ?carry, ?points⟩
  case inverts =>
    intro place inText isWord before
    obtain ⟨lines, line, split, whole, isOpen⟩ := exists_lines before
    have bytes : text.toUTF8.data.toList = lines ++ (line ++ (Text.bytes text).drop place) := by
      rw [← bytes_eq, ← List.append_assoc, ← split, List.take_append_drop]
    have length : (lines ++ line).length = place := by
      rw [← split, List.length_take, length_bytes, Nat.min_eq_left inText]
    rw [split, lineAfter_append isOpen, lastLineLength_append whole isOpen,
      byteOffset_append bytes whole (length ▸ isWord), length]
  case carry =>
    intro fits line column counted isWord
    rw [bytes_eq]
    exact byteOffset_eq fits counted isWord
  case points =>
    intro name failure
    obtain ⟨inside, single⟩ :=
      Highlight.ofFault_inside (failure.locate text.toUTF8) text.toUTF8
    exact ⟨_, _, rfl, single, inside⟩

/-- Behind a line that ends with a carriage return and a newline, and behind a letter of two bytes,
the `x` is the seventh byte of the second line. The greatest column leads back to the start. -/
theorem byteOffset_inverts_secondLine :
    let text := "\x7b\r\n  é: x\n"
    9 ≤ text.utf8ByteSize ∧ lineAfter ((Text.bytes text).take 9) = 2 ∧
      lastLineLength ((Text.bytes text).take 9) = 6 ∧ byteOffset text.toUTF8 2 7 = 9 ∧
      byteOffset "a\n".toUTF8 2 (UInt64.size - 1) = 0 := by
  intro text
  have inText : 9 ≤ text.utf8ByteSize := by decide +kernel
  have line : lineAfter ((Text.bytes text).take 9) = 2 := by decide +kernel
  have column : lastLineLength ((Text.bytes text).take 9) = 6 := by decide +kernel
  have found := (byteOffset_inverts text).1 9 inText (by decide)
  dsimp only at found
  rw [line, column] at found
  have led := (byteOffset_inverts "a\n").2.2.1 (by decide +kernel) 2 (UInt64.size - 1)
    (by decide) (by decide +kernel)
  exact ⟨inText, line, column, found, led.trans (by decide +kernel)⟩

end ConversionSynthesis
