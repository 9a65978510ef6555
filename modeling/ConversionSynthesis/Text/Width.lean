/-! # Width of text in bytes

Places in a text are counted in the bytes of its UTF-8 form.
-/

namespace ConversionSynthesis.Text

def width : List Char → Nat
  | [] => 0
  | c :: rest => c.utf8Size + width rest

@[simp]
theorem width_nil : width [] = 0 := rfl

@[simp]
theorem width_cons (c : Char) (rest : List Char) :
    width (c :: rest) = c.utf8Size + width rest := rfl

@[simp]
theorem width_append (front back : List Char) :
    width (front ++ back) = width front + width back := by
  induction front with
  | nil => simp
  | cons c front ih => simp [ih, Nat.add_assoc]

theorem eq_nil_of_width {chars : List Char} (none : width chars = 0) : chars = [] := by
  cases chars with
  | nil => rfl
  | cons c rest =>
      have wide := c.utf8Size_pos
      rw [width_cons] at none
      omega

theorem utf8ByteSize_ofList (chars : List Char) :
    (String.ofList chars).utf8ByteSize = width chars := by
  induction chars with
  | nil => simp
  | cons c chars ih =>
      have hcons : String.ofList (c :: chars) = String.singleton c ++ String.ofList chars := by
        apply String.toList_injective
        simp
      rw [hcons, String.utf8ByteSize_append, String.utf8ByteSize_singleton, ih, width_cons]

theorem width_toList (text : String) : width text.toList = text.utf8ByteSize := by
  rw [← utf8ByteSize_ofList, String.ofList_toList]

end ConversionSynthesis.Text
