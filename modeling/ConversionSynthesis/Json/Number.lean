import ConversionSynthesis.Decimal.Shortest
import ConversionSynthesis.Json.Failure

/-! # Reading numbers

A number without fraction and exponent that fits a machine word is an integer; any other is a
floating-point number. Digits beyond a machine word no longer change the significand, and the value
is scaled by powers of ten of at most 308 at a time.
-/

namespace ConversionSynthesis.Json

inductive Number where
  | integer (value : Int)
  | float (value : Float)

def Number.found : Number → String
  | integer value => "integer " ++ ticked (toString value)
  | float value => "floating point " ++ ticked (Decimal.floatText value)

namespace Number

def maxWord : Nat := UInt64.size - 1

/-- The largest exponent that is read digit by digit. -/
def maxExponent : Nat := UInt32.size / 2 - 1

def digitValue (digit : Char) : Nat :=
  digit.toNat - '0'.toNat

structure Scaled where
  significand : Nat
  exponent : Int

/-- Takes the digits before the point: once the significand is full, each digit left is one more
power of ten. -/
def takeWhole : Scaled → (isFull : Bool) → List Char → Scaled × Bool
  | number, isFull, [] => (number, isFull)
  | number, isFull, digit :: rest =>
      let next := 10 * number.significand + digitValue digit
      if isFull || maxWord < next then
        takeWhole { number with exponent := number.exponent + 1 } true rest
      else takeWhole { number with significand := next } false rest

/-- Takes the digits behind the point: once the significand is full, the digits left are lost. -/
def takeFraction : Scaled → List Char → Scaled
  | number, [] => number
  | number, digit :: rest =>
      let next := 10 * number.significand + digitValue digit
      if maxWord < next then number else takeFraction ⟨next, number.exponent - 1⟩ rest

/-- The value of the digits of an exponent, or else the number of digits that already exceed the
largest one. -/
def exponentValue (value read : Nat) : List Char → Nat ⊕ Nat
  | [] => .inl value
  | digit :: rest =>
      let next := 10 * value + digitValue digit
      if maxExponent < next then .inr (read + 1) else exponentValue next (read + 1) rest

/-- Divides by `10 ^ 308` until the exponent is small or the value is gone, at most so often. -/
def shrink : Nat → Float → Int → Float × Int
  | 0, value, exponent => (value, exponent)
  | steps + 1, value, exponent =>
      if -308 ≤ exponent || value == 0 then (value, exponent)
      else shrink steps (value / 1e308) (exponent + 308)

def value? (number : Scaled) : Option Float :=
  let significand := Float.ofNat number.significand
  if 308 < number.exponent then
    if number.significand = 0 then some 0 else none
  else if 0 ≤ number.exponent then
    let value := significand * Float.ofScientific 1 false number.exponent.toNat
    if value.isInf then none else some value
  else
    let (value, exponent) := shrink (number.exponent.natAbs / 308 + 1) significand number.exponent
    if value == 0 then some 0
    else some (value / Float.ofScientific 1 false exponent.natAbs)

def signed (isNegative : Bool) (value : Float) : Float :=
  if isNegative then -value else value

/-- An integer as read: negative zero and what does not fit a machine word are floating-point. -/
def ofWhole (isNegative : Bool) (significand : Nat) : Number :=
  if !isNegative then integer significand
  else if significand = 0 ∨ UInt64.size / 2 < significand then float (-Float.ofNat significand)
  else integer (-significand)

def finish (isNegative : Bool) (number : Scaled) (offset : Nat) : Except Failure Number :=
  match value? number with
  | some value => .ok (float (signed isNegative value))
  | none => .error ⟨.numberOutOfRange, offset⟩

structure Read where
  result : Except Failure Number
  stop : Nat

def Read.failed (fault : Fault) (offset : Nat) : Read :=
  ⟨.error ⟨fault, offset⟩, offset⟩

/-- Reads the digits of an exponent, the sign of which is known; `offset` stands behind the sign. -/
def readExponent (isNegative : Bool) (number : Scaled) (isSmall : Bool) (offset : Nat)
    (text : List Char) : Read :=
  let digits := text.takeWhile Char.isDigit
  let stop := offset + digits.length
  match digits, text with
  | [], [] => .failed .endInValue offset
  | [], _ => .failed .invalidNumber (offset + 1)
  | _, _ =>
      match exponentValue 0 0 digits with
      | .inl value =>
          let exponent := if isSmall then number.exponent - value else number.exponent + value
          ⟨finish isNegative { number with exponent } stop, stop⟩
      | .inr read =>
          if number.significand = 0 || isSmall then ⟨.ok (float (signed isNegative 0)), stop⟩
          else .failed .numberOutOfRange (offset + read)

def readTail (isNegative : Bool) (number : Scaled) (offset : Nat) (text : List Char) : Read :=
  match text with
  | 'e' :: '+' :: rest | 'E' :: '+' :: rest =>
      readExponent isNegative number false (offset + 2) rest
  | 'e' :: '-' :: rest | 'E' :: '-' :: rest =>
      readExponent isNegative number true (offset + 2) rest
  | 'e' :: rest | 'E' :: rest => readExponent isNegative number false (offset + 1) rest
  | _ => ⟨finish isNegative number offset, offset⟩

def readFraction (isNegative isFull : Bool) (number : Scaled) (offset : Nat) (text : List Char) :
    Read :=
  match text with
  | '.' :: rest =>
      let digits := rest.takeWhile Char.isDigit
      match digits, rest with
      | [], [] => .failed .endInValue (offset + 1)
      | [], _ => .failed .invalidNumber (offset + 2)
      | _, _ =>
          readTail isNegative (takeFraction number digits) (offset + 1 + digits.length)
            (rest.dropWhile Char.isDigit)
  | 'e' :: _ | 'E' :: _ => readTail isNegative number offset text
  | _ =>
      if isFull then readTail isNegative number offset text
      else ⟨.ok (ofWhole isNegative number.significand), offset⟩

def readUnsigned (isNegative : Bool) (offset : Nat) (text : List Char) : Read :=
  match text.takeWhile Char.isDigit, text with
  | [], [] => .failed .endInValue offset
  | [], _ => .failed .invalidNumber (offset + 1)
  | '0' :: _ :: _, _ => .failed .invalidNumber (offset + 2)
  | digits, _ =>
      let (number, isFull) := takeWhole ⟨0, 0⟩ false digits
      readFraction isNegative isFull number (offset + digits.length)
        (text.dropWhile Char.isDigit)

def read (offset : Nat) (text : List Char) : Read :=
  match text with
  | '-' :: rest => readUnsigned true (offset + 1) rest
  | _ => readUnsigned false offset text

end Number

end ConversionSynthesis.Json
