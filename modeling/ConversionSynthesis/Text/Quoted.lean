import ConversionSynthesis.Text.Unprintable

/-! # Quoted text

A text is quoted between double quotes so that every character of it can be seen: quotes,
backslashes and the common controls get a backslash, other characters without a mark of their own
are shown by number.
-/

namespace ConversionSynthesis.Text

def numbered (c : Char) : String :=
  "\\u\x7b" ++ String.ofList (Nat.toDigits 16 c.toNat) ++ "\x7d"

def quotedChar (c : Char) : String :=
  if c = '"' then "\\\""
  else if c = '\\' then "\\\\"
  else if c = '\n' then "\\n"
  else if c = '\r' then "\\r"
  else if c = '\t' then "\\t"
  else if c.toNat = 0 then "\\0"
  else if isUnprintable c then numbered c
  else String.singleton c

def quoted (text : String) : String :=
  "\"" ++ String.join (text.toList.map quotedChar) ++ "\""

end ConversionSynthesis.Text
