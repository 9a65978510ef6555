import ConversionSynthesis.Text.Numeric

/-! # Identifiers of the host language

An identifier may be written verbatim, with a leading `@`; reserved words are identifiers only in
that form. The bare form is the name as the host compiler sees it.
-/

namespace ConversionSynthesis.Host

def reservedWords : List String := [
  "abstract", "as", "base", "bool", "break", "byte", "case", "catch", "char", "checked", "class",
  "const", "continue", "decimal", "default", "delegate", "do", "double", "else", "enum", "event",
  "explicit", "extern", "false", "finally", "fixed", "float", "for", "foreach", "goto", "if",
  "implicit", "in", "int", "interface", "internal", "is", "lock", "long", "namespace", "new",
  "null", "object", "operator", "out", "override", "params", "private", "protected", "public",
  "readonly", "ref", "return", "sbyte", "sealed", "short", "sizeof", "stackalloc", "static",
  "string", "struct", "switch", "this", "throw", "true", "try", "typeof", "uint", "ulong",
  "unchecked", "unsafe", "ushort", "using", "virtual", "void", "volatile", "while"]

def isReserved (name : String) : Bool :=
  reservedWords.contains name

def opensName (c : Char) : Bool :=
  c == '_' || Text.isAlphabetic c

def continuesName (c : Char) : Bool :=
  c == '_' || Text.isAlphanumeric c

def bareChars : List Char → List Char
  | '@' :: rest => rest
  | name => name

/-- The name the host compiler sees: the written one without its verbatim mark. -/
def bare (name : String) : String :=
  String.ofList (bareChars name.toList)

def isBareName : List Char → Bool
  | [] => false
  | c :: rest => opensName c && rest.all continuesName

/-- Whether a text is an identifier, plain or verbatim; reserved words count. -/
def isIdentifier (name : String) : Bool :=
  isBareName (bareChars name.toList)

def escaped (name : String) : String :=
  if isReserved name then "@" ++ name else name

/-- Whether a name may be declared as written: an identifier that is not a bare reserved word. -/
def isDeclarable (name : String) : Bool :=
  isIdentifier name && !isReserved name

theorem continuesName_of_opensName {c : Char} (h : opensName c = true) :
    continuesName c = true := by
  simp only [opensName, continuesName, Text.isAlphanumeric, Bool.or_eq_true] at h ⊢
  exact h.imp id Or.inl

theorem bareChars_of_plain {name : List Char} (plain : name.head? ≠ some '@') :
    bareChars name = name := by
  unfold bareChars
  split
  · exact absurd rfl plain
  · rfl

/-- No reserved word carries the verbatim mark. -/
theorem reservedWords_plain : ∀ word ∈ reservedWords, word.toList.head? ≠ some '@' := by
  decide +kernel

end ConversionSynthesis.Host
