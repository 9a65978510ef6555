/-! # Shortest decimals

The text of a floating-point number has the fewest digits that still read back as the number, and
of these the digits nearest to it.
-/

namespace ConversionSynthesis.Decimal

def powerOfTwo (exponent : Nat) : Nat :=
  Nat.pow 2 exponent

def powerOfTen (exponent : Nat) : Nat :=
  Nat.pow 10 exponent

/-- A positive number `numerator / denominator` with the ends of the interval of numbers that
round to it, over the same denominator. -/
structure Rounding where
  numerator : Nat
  low : Nat
  high : Nat
  denominator : Nat
  isClosed : Bool

/-- The number `mantissa * 2 ^ (exponent - 1075)` of a double, with the numbers that round to it;
below a power of two the neighbours lie closer. -/
def Rounding.ofParts (mantissa exponent : Nat) : Rounding :=
  let gap := if mantissa = powerOfTwo 52 ∧ 1 < exponent then 1 else 2
  let up := powerOfTwo (exponent - 1077)
  ⟨4 * mantissa * up, (4 * mantissa - gap) * up, (4 * mantissa + 2) * up,
    powerOfTwo (1077 - exponent), mantissa % 2 == 0⟩

def Rounding.ofBits (bits : Nat) : Rounding :=
  let fraction := bits % powerOfTwo 52
  let exponent := bits / powerOfTwo 52 % powerOfTwo 11
  if exponent = 0 then .ofParts fraction 1
  else .ofParts (fraction + powerOfTwo 52) exponent

/-- Digits and the place of the point: the number is `0.digits * 10 ^ point`. -/
structure Digits where
  digits : Nat
  point : Int

/-- The power of ten just above a positive number, as its exponent. -/
def magnitude (numerator denominator : Nat) : Int :=
  if denominator ≤ numerator then ((Nat.toDigits 10 (numerator / denominator)).length : Int)
  else -(((List.range 400).find? fun shift =>
    decide (denominator ≤ numerator * powerOfTen (shift + 1))).getD 0 : Nat)

/-- Whether the decimal `digits * 10 ^ scale` rounds to the number. -/
def Rounding.holds (number : Rounding) (digits : Nat) (scale : Int) : Bool :=
  let point := digits * powerOfTen scale.toNat * number.denominator
  let unit := powerOfTen (-scale).toNat
  if number.isClosed then
    decide (number.low * unit ≤ point) && decide (point ≤ number.high * unit)
  else decide (number.low * unit < point) && decide (point < number.high * unit)

def Rounding.nearest? (number : Rounding) (point : Int) (count : Nat) : Option Nat :=
  let scale := point - count
  let value := number.numerator * powerOfTen (-scale).toNat
  let unit := number.denominator * powerOfTen scale.toNat
  let below := value / unit
  match number.holds below scale, number.holds (below + 1) scale with
  | true, true =>
      let remainder := value % unit
      if 2 * remainder < unit ∨ (2 * remainder = unit ∧ below % 2 = 0) then some below
      else some (below + 1)
  | true, false => some below
  | false, true => some (below + 1)
  | false, false => none

def Rounding.shortest (number : Rounding) : Digits :=
  let point := magnitude number.numerator number.denominator
  let found := (List.range 17).findSome? fun more =>
    (number.nearest? point (more + 1)).map (more + 1, ·)
  match found with
  | some (count, digits) => ⟨digits, if digits = powerOfTen count then point + 1 else point⟩
  | none => ⟨0, 0⟩

def stripZeros : List Char → List Char
  | digits => (digits.reverse.dropWhile (· == '0')).reverse

def zeros (count : Nat) : List Char :=
  List.replicate count '0'

/-- Digits written out: by position while the first one stands between the fifth place behind the
point and the sixteenth before it, else with an exponent. A number written by position has a digit
behind the point. -/
def Digits.layout (number : Digits) : List Char :=
  let digits := stripZeros (Nat.toDigits 10 number.digits)
  let count : Int := digits.length
  let point := number.point
  if 0 < point ∧ point ≤ 16 then
    if count ≤ point then digits ++ zeros (point - count).toNat ++ ['.', '0']
    else digits.take point.toNat ++ ['.'] ++ digits.drop point.toNat
  else if -5 < point ∧ point ≤ 0 then
    ['0', '.'] ++ zeros (-point).toNat ++ digits
  else
    let exponent := point - 1
    let sign := if exponent < 0 then '-' else '+'
    let mantissa :=
      match digits with
      | [] => ['0']
      | [digit] => [digit]
      | first :: rest => first :: '.' :: rest
    mantissa ++ ['e', sign] ++ Nat.toDigits 10 exponent.natAbs

def floatText (number : Float) : String :=
  let bits := number.toBits.toNat
  let sign := if bits / powerOfTwo 63 = 1 then ['-'] else []
  let magnitude := bits % powerOfTwo 63
  let digits :=
    if magnitude = 0 then ['0', '.', '0'] else (Rounding.ofBits magnitude).shortest.layout
  String.ofList (sign ++ digits)

end ConversionSynthesis.Decimal
