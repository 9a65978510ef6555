import ConversionSynthesis.Text.Width

/-! # Texts as bytes and characters -/

namespace ConversionSynthesis.Text

def bytes (text : String) : List UInt8 :=
  text.toUTF8.toList

def ofBytes? (bytes : List UInt8) : Option String :=
  String.fromUTF8? ⟨bytes.toArray⟩

/-- The characters of a text, gathered from its end. -/
def characters (text : String) : List Char :=
  text.foldr List.cons []

@[simp]
theorem characters_eq (text : String) : characters text = text.toList := by
  simp [characters]

/-- The loop that lists bytes adds those from the index `i` on to those listed before. -/
theorem loop_eq_reverse_append_drop (bytes : ByteArray) (i : Nat) (done : List UInt8) :
    ByteArray.toList.loop bytes i done = done.reverse ++ bytes.data.toList.drop i := by
  fun_induction ByteArray.toList.loop bytes i done with
  | case1 i done h ih =>
      have hlength : i < bytes.data.toList.length := by simpa using h
      have hget : bytes.get! i = bytes.data.toList[i] := by
        rw [ByteArray.get!, getElem!_pos bytes.data i h, Array.getElem_toList]
      rw [ih, List.drop_eq_getElem_cons hlength, hget]
      simp
  | case2 i done h =>
      have hlength : bytes.data.toList.length ≤ i := by simpa using h
      simp [List.drop_eq_nil_of_le hlength]

theorem bytes_eq (text : String) : bytes text = text.toUTF8.data.toList := by
  simp [bytes, ByteArray.toList, loop_eq_reverse_append_drop]

@[simp]
theorem length_bytes (text : String) : (bytes text).length = text.utf8ByteSize := by
  simp [bytes_eq]

end ConversionSynthesis.Text
