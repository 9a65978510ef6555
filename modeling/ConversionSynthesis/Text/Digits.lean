/-! # Numbers in decimal digits -/

namespace ConversionSynthesis.Text

def decimal? (digits : List Char) : Option Nat :=
  if digits.isEmpty || !digits.all Char.isDigit then none
  else some (digits.foldl (fun value digit => 10 * value + (digit.toNat - '0'.toNat)) 0)

end ConversionSynthesis.Text
