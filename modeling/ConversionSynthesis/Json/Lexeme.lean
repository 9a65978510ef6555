import ConversionSynthesis.Json.Escape
import ConversionSynthesis.Json.Number
import ConversionSynthesis.Text.Bytes

/-! # Lexemes of JSON

A text is cut into lexemes with their places. What is no lexeme becomes a broken one, which ends
the list and keeps the failure for the reader that comes upon it.
-/

namespace ConversionSynthesis.Json

inductive LexemeKind where
  | openBrace
  | closeBrace
  | openBracket
  | closeBracket
  | colon
  | comma
  | null
  | boolean (value : Bool)
  | number (value : Number)
  | string (value : String)
  | brokenString (failure : Failure)
  | broken (failure : Failure)

/-- A lexeme with the number of bytes before its start and before its end. -/
structure Lexeme where
  kind : LexemeKind
  start : Nat
  stop : Nat

def isGap (c : Char) : Bool :=
  c == ' ' || c == '\n' || c == '\t' || c == '\r'

def LexemeKind.ofChar? : Char → Option LexemeKind
  | '{' => some openBrace
  | '}' => some closeBrace
  | '[' => some openBracket
  | ']' => some closeBracket
  | ':' => some colon
  | ',' => some comma
  | _ => none

def word? : Char → Option (List Char × LexemeKind)
  | 't' => some (['r', 'u', 'e'], .boolean true)
  | 'f' => some (['a', 'l', 's', 'e'], .boolean false)
  | 'n' => some (['u', 'l', 'l'], .null)
  | _ => none

/-- The failure of a text to go on with the letters of a word, if it fails. -/
def wordFailure? (offset : Nat) : (letters text : List Char) → Option Failure
  | [], _ => none
  | _ :: _, [] => some ⟨.endInValue, offset⟩
  | letter :: letters, c :: rest =>
      if c = letter then wordFailure? (offset + 1) letters rest
      else some ⟨.brokenWord, offset + 1⟩

/-- A lexeme, with the number of characters it has behind its first one. -/
structure Scanned where
  lexeme : Lexeme
  count : Nat

def scan (size offset : Nat) (c : Char) (rest : List Char) : Scanned :=
  match LexemeKind.ofChar? c with
  | some kind => ⟨⟨kind, offset, offset + 1⟩, 0⟩
  | none =>
      if c = '"' then
        match stringFrom size (offset + 1) 0 [] rest with
        | .error failure => ⟨⟨.brokenString failure, offset, size⟩, rest.length⟩
        | .ok taken => ⟨⟨.string taken.value, offset, taken.stop⟩, taken.count⟩
      else if c = '-' || c.isDigit then
        let number := Number.read offset (c :: rest)
        match number.result with
        | .error failure => ⟨⟨.broken failure, offset, size⟩, rest.length⟩
        | .ok value => ⟨⟨.number value, offset, number.stop⟩, number.stop - offset - 1⟩
      else
        match word? c with
        | some (letters, kind) =>
            match wordFailure? (offset + 1) letters rest with
            | some failure => ⟨⟨.broken failure, offset, size⟩, rest.length⟩
            | none => ⟨⟨kind, offset, offset + 1 + letters.length⟩, letters.length⟩
        | none => ⟨⟨.broken ⟨.noValue, offset + 1⟩, offset, size⟩, rest.length⟩

/-- The lexemes of `text`, `offset` bytes into a text of `size` bytes, behind those of `done`, the
last one first. -/
def lexemesFrom (size offset : Nat) (done : List Lexeme) (text : List Char) : List Lexeme :=
  match text with
  | [] => done.reverse
  | c :: rest =>
      if isGap c then lexemesFrom size (offset + 1) done rest
      else
        let scanned := scan size offset c rest
        lexemesFrom size scanned.lexeme.stop (scanned.lexeme :: done) (rest.drop scanned.count)
termination_by text.length
decreasing_by
  · simp
  · simp only [List.length_drop, List.length_cons]
    omega

def isForbidden (c : Char) : Bool :=
  c.toNat < 32 && !isGap c

/-- No lexeme depends on more characters behind a forbidden one: the four bytes of an escape by
number are looked at together. -/
def reach : Nat := 4

/-- The characters that make a difference: all up to the first forbidden one, and as many more as a
lexeme may reach. -/
def decisive (text : String) : List Char :=
  let front := (text.takeWhile fun c => !isForbidden c).copy
  Text.characters front ++ Text.characters ((text.drop front.length).take reach).copy

def lexemes (text : String) : List Lexeme :=
  lexemesFrom text.utf8ByteSize 0 [] (decisive text)

theorem decisive_of_plain {text : String}
    (plain : text.toList.all (fun c => !isForbidden c) = true) : decisive text = text.toList := by
  have whole : (text.takeWhile fun c => !isForbidden c) = text.toSlice := by
    rw [String.takeWhile_eq_toSlice_iff]
    simpa using plain
  have behind : reach = 0 ∨ text.toList.length ≤ text.length :=
    .inr (Nat.le_of_eq String.length_toList)
  simpa [decisive, whole, Text.characters_eq] using behind

end ConversionSynthesis.Json
