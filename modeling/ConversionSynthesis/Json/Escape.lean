import ConversionSynthesis.Json.Failure

/-! # Reading strings

A string is read up to its closing quote. An escape by number takes the four bytes behind it;
characters beyond the basic plane are written as a pair of surrogates.
-/

namespace ConversionSynthesis.Json

/-- A value together with the number of characters it was read from, one byte each. -/
structure Taken (α : Type) where
  value : α
  count : Nat

def hexValue? (c : Char) : Option Nat :=
  if '0' ≤ c ∧ c ≤ '9' then some (c.toNat - '0'.toNat)
  else if 'a' ≤ c ∧ c ≤ 'f' then some (c.toNat - 'a'.toNat + 10)
  else if 'A' ≤ c ∧ c ≤ 'F' then some (c.toNat - 'A'.toNat + 10)
  else none

def hexNumber? (digits : List Char) : Option Nat :=
  digits.foldlM (fun value digit => (hexValue? digit).map (16 * value + ·)) 0

def hasBytes : Nat → List Char → Bool
  | 0, _ => true
  | _, [] => false
  | count, c :: rest => hasBytes (count - c.utf8Size) rest

/-- Reads four hexadecimal digits; `size` is the number of bytes of the whole text. -/
def hexFour (size offset : Nat) (text : List Char) : Except Failure Nat :=
  if hasBytes 4 text then
    match hexNumber? (text.take 4) with
    | some value => .ok value
    | none => .error ⟨.invalidEscape, offset + 4⟩
  else .error ⟨.endInString, size⟩

def isLeading (unit : Nat) : Bool :=
  decide (0xD800 ≤ unit) && decide (unit ≤ 0xDBFF)

def isTrailing (unit : Nat) : Bool :=
  decide (0xDC00 ≤ unit) && decide (unit ≤ 0xDFFF)

def ofPair (leading trailing : Nat) : Char :=
  Char.ofNat (0x10000 + (leading - 0xD800) * 0x400 + (trailing - 0xDC00))

def trailingEscape (size offset leading : Nat) (text : List Char) :
    Except Failure (Taken Char) :=
  match text with
  | [] | ['\\'] => .error ⟨.endInString, size⟩
  | '\\' :: 'u' :: rest =>
      match hexFour size (offset + 2) rest with
      | .error failure => .error failure
      | .ok trailing =>
          if isTrailing trailing then .ok ⟨ofPair leading trailing, 6⟩
          else .error ⟨.loneSurrogate, offset + 6⟩
  | '\\' :: _ => .error ⟨.brokenSurrogate, offset + 2⟩
  | _ => .error ⟨.brokenSurrogate, offset + 1⟩

def numberEscape (size offset : Nat) (text : List Char) : Except Failure (Taken Char) :=
  match hexFour size offset text with
  | .error failure => .error failure
  | .ok unit =>
      if isTrailing unit then .error ⟨.loneSurrogate, offset + 4⟩
      else if isLeading unit then
        (trailingEscape size (offset + 4) unit (text.drop 4)).map fun taken =>
          { taken with count := 4 + taken.count }
      else .ok ⟨Char.ofNat unit, 4⟩

def letterEscape? : Char → Option Char
  | '"' => some '"'
  | '\\' => some '\\'
  | '/' => some '/'
  | 'b' => some '\x08'
  | 'f' => some '\x0c'
  | 'n' => some '\n'
  | 'r' => some '\r'
  | 't' => some '\t'
  | _ => none

def escape (size offset : Nat) (text : List Char) : Except Failure (Taken Char) :=
  match text with
  | [] => .error ⟨.endInString, size⟩
  | 'u' :: rest =>
      (numberEscape size (offset + 1) rest).map fun taken =>
        { taken with count := 1 + taken.count }
  | letter :: _ =>
      match letterEscape? letter with
      | some c => .ok ⟨c, 1⟩
      | none => .error ⟨.invalidEscape, offset + 1⟩

/-- A string, with the place behind its closing quote and the number of characters up to there. -/
structure TakenString where
  value : String
  stop : Nat
  count : Nat

/-- Reads a string up to its closing quote; `done` are its characters so far, the last one first,
read from `count` characters of the text. -/
def stringFrom (size offset count : Nat) (done : List Char) (text : List Char) :
    Except Failure TakenString :=
  match text with
  | [] => .error ⟨.endInString, size⟩
  | c :: rest =>
      if c = '"' then .ok ⟨String.ofList done.reverse, offset + 1, count + 1⟩
      else if c = '\\' then
        match escape size (offset + 1) rest with
        | .error failure => .error failure
        | .ok taken =>
            stringFrom size (offset + 1 + taken.count) (count + 1 + taken.count)
              (taken.value :: done) (rest.drop taken.count)
      else if c.toNat < 32 then .error ⟨.controlInString, offset + 1⟩
      else stringFrom size (offset + c.utf8Size) (count + 1) (c :: done) rest
termination_by text.length
decreasing_by
  · simp only [List.length_drop, List.length_cons]
    omega
  · simp

end ConversionSynthesis.Json
