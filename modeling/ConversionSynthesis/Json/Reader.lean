import ConversionSynthesis.Json.Lexeme
import ConversionSynthesis.Text.Quoted

/-! # Reading typed values

A reader takes a value of one type from the front of the lexemes, or fails at the first place that
speaks against it, in reading order. Records may be written as objects or as arrays of their fields
in order.
-/

namespace ConversionSynthesis.Json

/-- A value read from the front of `input`, which leaves strictly fewer lexemes. -/
structure ReadValue (α : Type) (input : List Lexeme) where
  value : α
  rest : List Lexeme
  shorter : rest.length < input.length

abbrev Reader (α : Type) :=
  (size : Nat) → (input : List Lexeme) → Except Failure (ReadValue α input)

namespace Lexeme

def peek (lexeme : Lexeme) : Nat :=
  lexeme.start + 1

end Lexeme

/-- The failure of a reader that looks ahead at the input: `atEnd` at the end of the text, else
`fault` at the next lexeme. -/
def failure (size : Nat) (atEnd fault : Fault) : List Lexeme → Failure
  | [] => ⟨atEnd, size⟩
  | next :: _ => ⟨fault, next.peek⟩

def mismatch (size : Nat) (wanted : String) : List Lexeme → Failure
  | [] => ⟨.endInValue, size⟩
  | ⟨kind, start, stop⟩ :: _ =>
      match kind with
      | .null => ⟨.wrongType "null" wanted, stop⟩
      | .boolean value => ⟨.wrongType ("boolean " ++ ticked (toString value)) wanted, stop⟩
      | .number value => ⟨.wrongType value.found wanted, stop⟩
      | .string value => ⟨.wrongType ("string " ++ Text.quoted value) wanted, stop⟩
      | .openBracket => ⟨.wrongType "sequence" wanted, start⟩
      | .openBrace => ⟨.wrongType "map" wanted, start⟩
      | .brokenString failure | .broken failure => failure
      | .closeBrace | .closeBracket | .colon | .comma => ⟨.noValue, start + 1⟩

namespace Reader

def string : Reader String := fun size input =>
  match input with
  | ⟨.string value, _, _⟩ :: rest => .ok ⟨value, rest, by simp⟩
  | _ => .error (mismatch size "a string" input)

def boolean : Reader Bool := fun size input =>
  match input with
  | ⟨.boolean value, _, _⟩ :: rest => .ok ⟨value, rest, by simp⟩
  | _ => .error (mismatch size "a boolean" input)

def optional {α : Type} (value : Reader α) : Reader (Option α) := fun size input =>
  match input with
  | ⟨.null, _, _⟩ :: rest => .ok ⟨none, rest, by simp⟩
  | other => (value size other).map fun read => ⟨some read.value, read.rest, read.shorter⟩

def items {α : Type} (item : Reader α) (size : Nat) (input : List Lexeme) :
    Except Failure (ReadValue (List α) input) :=
  match item size input with
  | .error failure => .error failure
  | .ok first =>
      match split : first.rest with
      | ⟨.closeBracket, _, _⟩ :: rest =>
          .ok ⟨[first.value], rest, by
            have := first.shorter
            simp only [split, List.length_cons] at this
            omega⟩
      | ⟨.comma, _, _⟩ :: more =>
          match more with
          | [] => .error ⟨.endInValue, size⟩
          | ⟨.closeBracket, start, _⟩ :: _ => .error ⟨.trailingComma, start + 1⟩
          | next :: later =>
              match items item size (next :: later) with
              | .error failure => .error failure
              | .ok others =>
                  .ok ⟨first.value :: others.value, others.rest, by
                    have := first.shorter
                    have := others.shorter
                    simp only [split, List.length_cons] at *
                    omega⟩
      | other => .error (failure size .endInList .noListSeparator other)
termination_by input.length
decreasing_by
  have := first.shorter
  simp only [split, List.length_cons] at *
  omega

def list {α : Type} (item : Reader α) : Reader (List α) := fun size input =>
  match input with
  | ⟨.openBracket, _, _⟩ :: inner =>
      match inner with
      | [] => .error ⟨.endInList, size⟩
      | ⟨.closeBracket, _, _⟩ :: rest => .ok ⟨[], rest, by simp only [List.length_cons]; omega⟩
      | next :: later =>
          (items item size (next :: later)).map fun read =>
            ⟨read.value, read.rest, Nat.lt_succ_of_lt read.shorter⟩
  | _ => .error (mismatch size "a sequence" input)

/-- The place from which a faulty key is reported: behind the blanks that follow it, and behind the
brace that closes its object, if that comes next. -/
def behindKey (size : Nat) : List Lexeme → Nat
  | [] => size
  | ⟨.closeBrace, _, stop⟩ :: _ => stop
  | next :: _ => next.start

/-- What a reader of objects does with a key: given the entries read so far, a key and the place
behind it, it has a reader for the value that takes in the entry. -/
abbrev OnKey (σ : Type) :=
  σ → String → (behind : Nat) → Except Failure (Reader σ)

/-- Reads the entries of an object from the first key on, with the closing brace; the result comes
with the place behind that. -/
def entries {σ : Type} (onKey : OnKey σ) (size : Nat) (state : σ) (input : List Lexeme) :
    Except Failure (ReadValue (σ × Nat) input) :=
  match input with
  | ⟨.string key, _, _⟩ :: afterKey =>
      match onKey state key (behindKey size afterKey) with
      | .error failure => .error failure
      | .ok value =>
          match afterKey with
          | ⟨.colon, _, _⟩ :: valueInput =>
              match value size valueInput with
              | .error failure => .error failure
              | .ok read =>
                  match split : read.rest with
                  | ⟨.closeBrace, _, stop⟩ :: rest =>
                      .ok ⟨(read.value, stop), rest, by
                        have := read.shorter
                        simp only [split, List.length_cons] at *
                        omega⟩
                  | ⟨.comma, _, _⟩ :: more =>
                      match more with
                      | [] => .error ⟨.endInValue, size⟩
                      | ⟨.closeBrace, start, _⟩ :: _ => .error ⟨.trailingComma, start + 1⟩
                      | next :: later =>
                          match entries onKey size read.value (next :: later) with
                          | .error failure => .error failure
                          | .ok others =>
                              .ok ⟨others.value, others.rest, by
                                have := read.shorter
                                have := others.shorter
                                simp only [split, List.length_cons] at *
                                omega⟩
                  | other => .error (failure size .endInObject .noObjectSeparator other)
          | other => .error (failure size .endInObject .noColon other)
  | ⟨.brokenString failure, _, _⟩ :: _ => .error failure
  | other => .error (failure size .endInObject .keyNotString other)
termination_by input.length
decreasing_by
  have := read.shorter
  simp only [split, List.length_cons] at *
  omega

def object {σ : Type} (onKey : OnKey σ) (size : Nat) (state : σ) (input : List Lexeme) :
    Except Failure (ReadValue (σ × Nat) input) :=
  match input with
  | ⟨.closeBrace, _, stop⟩ :: rest => .ok ⟨(state, stop), rest, by simp⟩
  | other => entries onKey size state other

def map {α : Type} (value : Reader α) : Reader (List (String × α)) := fun size input =>
  match input with
  | ⟨.openBrace, _, _⟩ :: inner =>
      let onKey : OnKey (List (String × α)) := fun entries key _ =>
        .ok fun size input => (value size input).map fun read =>
          ⟨(key, read.value) :: entries, read.rest, read.shorter⟩
      (object onKey size [] inner).map fun read =>
        ⟨read.value.1.reverse, read.rest, Nat.lt_succ_of_lt read.shorter⟩
  | _ => .error (mismatch size "a map" input)

structure Field (ρ : Type) where
  name : String
  isRequired : Bool
  read : Reader (ρ → ρ)

def Field.of {ρ α : Type} (name : String) (value : Reader α) (set : α → ρ → ρ)
    (isRequired : Bool := false) : Field ρ :=
  ⟨name, isRequired, fun size input => (value size input).map fun read =>
    ⟨set read.value, read.rest, read.shorter⟩⟩

/-- Reads the entry of a key into a record; every key names a field, and none comes twice. -/
def onField {ρ : Type} (fields : List (Field ρ)) : OnKey (ρ × List String) :=
  fun (record, seen) key behind =>
    match fields.find? (·.name == key) with
    | none => .error ⟨.unknownField key (fields.map (·.name)), behind⟩
    | some field =>
        if seen.contains key then .error ⟨.duplicateField key, behind⟩
        else
          .ok fun size input => (field.read size input).map fun read =>
            ⟨(read.value record, key :: seen), read.rest, read.shorter⟩

/-- The start of the next item of an array, if one comes; `isFirst` says that none came before. -/
def nextItem (size : Nat) (isFirst : Bool) (input : List Lexeme) :
    Except Failure (Option { rest : List Lexeme // rest.length ≤ input.length }) :=
  match input with
  | ⟨.closeBracket, _, _⟩ :: _ => .ok none
  | ⟨.comma, start, stop⟩ :: more =>
      if isFirst then .ok (some ⟨⟨.comma, start, stop⟩ :: more, Nat.le_refl _⟩)
      else
        match more with
        | [] => .error ⟨.endInValue, size⟩
        | ⟨.closeBracket, start, _⟩ :: _ => .error ⟨.trailingComma, start + 1⟩
        | next :: later => .ok (some ⟨next :: later, by simp⟩)
  | [] => .error ⟨.endInList, size⟩
  | next :: later =>
      if isFirst then .ok (some ⟨next :: later, Nat.le_refl _⟩)
      else .error ⟨.noListSeparator, next.peek⟩

/-- Reads the items of an array into the fields, the first of which has the position `index`.
Fields that the array does not reach must not be required; their position fails behind the array's
closing bracket. -/
def positional {ρ : Type} (wanted : String) (size index : Nat) (record : ρ) :
    (fields : List (Field ρ)) → (input : List Lexeme) →
      Except Failure (ρ × { rest : List Lexeme // rest.length ≤ input.length })
  | [], input => .ok (record, ⟨input, Nat.le_refl _⟩)
  | field :: fields, input =>
      match nextItem size (index == 0) input with
      | .error failure => .error failure
      | .ok none =>
          if field.isRequired then
            .error ⟨.invalidLength index wanted, (input.head?.map (·.stop)).getD size⟩
          else positional wanted size (index + 1) record fields input
      | .ok (some ⟨start, startLe⟩) =>
          match field.read size start with
          | .error failure => .error failure
          | .ok read =>
              match positional wanted size (index + 1) (read.value record) fields read.rest with
              | .error failure => .error failure
              | .ok (whole, ⟨rest, le⟩) =>
                  .ok (whole, ⟨rest, by have := read.shorter; omega⟩)

def closeArray (size : Nat) (input : List Lexeme) :
    Except Failure { rest : List Lexeme // rest.length ≤ input.length } :=
  match input with
  | ⟨.closeBracket, _, _⟩ :: rest => .ok ⟨rest, by simp⟩
  | ⟨.comma, _, _⟩ :: ⟨.closeBracket, start, _⟩ :: _ => .error ⟨.trailingComma, start + 1⟩
  | ⟨.comma, _, _⟩ :: more => .error (failure size .trailingText .trailingText more)
  | other => .error (failure size .endInList .trailingText other)

/-- Reads a record with these fields, which messages call `name`; fields not given are those of
`empty`. -/
def record {ρ : Type} (name : String) (fields : List (Field ρ)) (empty : ρ) : Reader ρ :=
  fun size input =>
    match input with
    | ⟨.openBrace, _, _⟩ :: inner =>
        match object (onField fields) size (empty, []) inner with
        | .error failure => .error failure
        | .ok ⟨((whole, seen), stop), rest, shorter⟩ =>
            match fields.find? fun field => field.isRequired && !seen.contains field.name with
            | some field => .error ⟨.missingField field.name, stop⟩
            | none => .ok ⟨whole, rest, Nat.lt_succ_of_lt shorter⟩
    | ⟨.openBracket, _, _⟩ :: inner =>
        let wanted := name ++ " with " ++ toString fields.length ++ " elements"
        match positional wanted size 0 empty fields inner with
        | .error failure => .error failure
        | .ok (whole, ⟨rest, le⟩) =>
            match closeArray size rest with
            | .error failure => .error failure
            | .ok ⟨after, afterLe⟩ =>
                .ok ⟨whole, after, Nat.lt_succ_of_le (Nat.le_trans afterLe le)⟩
    | _ => .error (mismatch size name input)

def variant {α : Type} (variants : List (String × α)) (name : String) (stop : Nat) :
    Except Failure α :=
  match variants.find? (·.1 == name) with
  | some entry => .ok entry.2
  | none => .error ⟨.unknownVariant name (variants.map (·.1)), stop⟩

/-- Reads one of named variants: its name, or an object with its name as the only key and null. -/
def choice {α : Type} (variants : List (String × α)) : Reader α := fun size input =>
  match input with
  | ⟨.string name, _, stop⟩ :: rest =>
      (variant variants name stop).map fun value => ⟨value, rest, by simp⟩
  | ⟨.brokenString failure, _, _⟩ :: _ => .error failure
  | ⟨.openBrace, _, _⟩ :: ⟨.string name, _, stop⟩ :: inner =>
      match variant variants name stop with
      | .error failure => .error failure
      | .ok value =>
          match inner with
          | ⟨.colon, _, _⟩ :: ⟨.null, _, _⟩ :: ⟨.closeBrace, _, _⟩ :: rest =>
              .ok ⟨value, rest, by simp only [List.length_cons]; omega⟩
          | ⟨.colon, _, _⟩ :: ⟨.null, _, _⟩ :: [] => .error ⟨.endInObject, size⟩
          | ⟨.colon, _, _⟩ :: ⟨.null, _, _⟩ :: extra :: _ => .error ⟨.noValue, extra.start⟩
          | ⟨.colon, _, _⟩ :: other => .error (mismatch size "unit" other)
          | other => .error (failure size .endInObject .noColon other)
  | ⟨.openBrace, _, _⟩ :: ⟨.brokenString failure, _, _⟩ :: _ => .error failure
  | ⟨.openBrace, _, _⟩ :: ⟨.closeBrace, start, _⟩ :: _ => .error ⟨.noValue, start + 1⟩
  | ⟨.openBrace, _, _⟩ :: other => .error (failure size .endInObject .keyNotString other)
  | other => .error (failure size .endInValue .noValue other)

def readText {α : Type} (reader : Reader α) (text : String) : Except Failure α :=
  match reader text.utf8ByteSize (lexemes text) with
  | .error failure => .error failure
  | .ok ⟨value, [], _⟩ => .ok value
  | .ok ⟨_, extra :: _, _⟩ => .error ⟨.trailingText, extra.peek⟩

theorem readText_eq_ok {α : Type} {reader : Reader α} {text : String} {value : α}
    (read : (reader text.utf8ByteSize (lexemes text)).map (fun read => (read.value, read.rest)) =
      .ok (value, [])) : reader.readText text = .ok value := by
  unfold readText
  cases result : reader text.utf8ByteSize (lexemes text) with
  | error failure =>
      rw [result] at read
      cases read
  | ok taken =>
      obtain ⟨found, rest, shorter⟩ := taken
      rw [result] at read
      cases read
      rfl

end Reader

end ConversionSynthesis.Json
