import ConversionSynthesis.Host.Identifier
import ConversionSynthesis.Text.Blank
import ConversionSynthesis.TypeExpr.SyntaxError

/-! # Reading tokens

The text of a type expression is cut into names, as long as they reach, and punctuation. Blank
characters separate tokens and are dropped; any other character is an error.
-/

namespace ConversionSynthesis

namespace TokenKind

def ofChar? : Char → Option TokenKind
  | '.' => some dot
  | ',' => some comma
  | '(' => some openParen
  | ')' => some closeParen
  | '<' => some openAngle
  | '>' => some closeAngle
  | '[' => some openBracket
  | ']' => some closeBracket
  | '?' => some question
  | _ => none

end TokenKind

namespace Token

/-- Whether a name token starts with the character; the verbatim mark counts. -/
def opens (c : Char) : Bool :=
  c == '@' || Host.opensName c

def scan (offset : Nat) (text : List Char) : Except SyntaxError (List Token) :=
  match text with
  | [] => .ok []
  | c :: rest =>
      if Text.isBlank c then scan (offset + c.utf8Size) rest
      else if opens c then
        let name := c :: rest.takeWhile Host.continuesName
        let span : Span := ⟨offset, offset + Text.width name⟩
        if name = ['@'] then .error ⟨.markAlone, span⟩
        else
          (scan span.stop (rest.dropWhile Host.continuesName)).map
            (⟨.ident (String.ofList name), span⟩ :: ·)
      else if c = ':' then
        match rest with
        | ':' :: after => (scan (offset + 2) after).map (⟨.doubleColon, ⟨offset, offset + 2⟩⟩ :: ·)
        | _ => .error ⟨.colonAlone, ⟨offset, offset + 1⟩⟩
      else
        match TokenKind.ofChar? c with
        | some kind => (scan (offset + 1) rest).map (⟨kind, ⟨offset, offset + 1⟩⟩ :: ·)
        | none => .error ⟨.strayCharacter c, ⟨offset, offset + c.utf8Size⟩⟩
termination_by text.length
decreasing_by
  · simp
  · have := (List.dropWhile_suffix Host.continuesName (l := rest)).length_le
    simp only [List.length_cons]
    omega
  · simp only [List.length_cons]
    omega
  · simp

def lex (text : String) : Except SyntaxError (List Token) :=
  scan 0 text.toList

end Token

end ConversionSynthesis
