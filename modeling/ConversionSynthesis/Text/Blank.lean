/-! # Blank characters

The Unicode property White_Space, and the two readings of a text that depend on it: its words, and
whether it is blank altogether.
-/

namespace ConversionSynthesis.Text

def blankCodes : List Nat := [
  0x09, 0x0A, 0x0B, 0x0C, 0x0D, 0x20, 0x85, 0xA0, 0x1680, 0x2000, 0x2001, 0x2002, 0x2003, 0x2004,
  0x2005, 0x2006, 0x2007, 0x2008, 0x2009, 0x200A, 0x2028, 0x2029, 0x202F, 0x205F, 0x3000]

def isBlank (c : Char) : Bool :=
  blankCodes.contains c.toNat

def allBlank (text : String) : Bool :=
  text.toList.all isBlank

/-- The words of a text when `pending`, in reverse, are the characters of an unfinished word. -/
def wordsFrom (pending : List Char) : List Char → List String
  | [] => if pending.isEmpty then [] else [String.ofList pending.reverse]
  | c :: rest =>
      if isBlank c then
        if pending.isEmpty then wordsFrom [] rest
        else String.ofList pending.reverse :: wordsFrom [] rest
      else wordsFrom (c :: pending) rest

/-- The longest runs of characters that are not blank, in order. -/
def words (text : String) : List String :=
  wordsFrom [] text.toList

theorem not_blank_of {p : Char → Bool}
    (apart : ∀ code ∈ blankCodes, p (Char.ofNat code) = false) {c : Char} (holds : p c = true) :
    isBlank c = false := by
  rw [← Bool.not_eq_true]
  intro blank
  have fails := apart c.toNat (List.contains_iff_mem.mp blank)
  rw [Char.ofNat_toNat, holds] at fails
  cases fails

end ConversionSynthesis.Text
