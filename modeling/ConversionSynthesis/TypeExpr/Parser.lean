import ConversionSynthesis.TypeExpr.Lexer

/-! # Reading type expressions

The parser descends one level of nesting at a time. Each level is a function of the level below
it, so the levels that remain bound both the recursion and the depth of the tree.
-/

namespace ConversionSynthesis

/-- Something read from the front of `input`, which leaves strictly fewer tokens. -/
structure Parsed (α : Type) (input : List Token) where
  value : α
  rest : List Token
  shorter : rest.length < input.length

abbrev TokenParser (α : Type) :=
  (input : List Token) → Except SyntaxError (Parsed α input)

namespace TypeExpr

/-- The place of the next token; the end of the text, `size` bytes long, if there is none. -/
def place (size : Nat) : List Token → Span
  | [] => ⟨size, size⟩
  | token :: _ => token.span

def unexpected (size : Nat) (what : Expectation) (input : List Token) : SyntaxError :=
  ⟨.expected what (input.head?.map (·.kind)), place size input⟩

def takeCommas : List Token → Nat × List Token
  | ⟨.comma, _⟩ :: rest =>
      let (count, after) := takeCommas rest
      (count + 1, after)
  | input => (0, input)

theorem length_takeCommas_le (input : List Token) : (takeCommas input).2.length ≤ input.length := by
  fun_induction takeCommas input with
  | case1 span rest count after h ih => simp_all; omega
  | case2 => simp

/-- Reads the suffixes of `type`, of which the level has `room` for so many. -/
def suffixed (size : Nat) (room : Nat) (type : TypeExpr) (input : List Token) :
    Except SyntaxError (TypeExpr × { rest : List Token // rest.length ≤ input.length }) :=
  match room, input with
  | 0, ⟨.question, span⟩ :: _ => .error ⟨.tooDeep, span⟩
  | 0, ⟨.openBracket, span⟩ :: _ => .error ⟨.tooDeep, span⟩
  | room + 1, ⟨.question, span⟩ :: rest =>
      match suffixed size room (.nullable type (type.span.merge span)) rest with
      | .error error => .error error
      | .ok (whole, ⟨after, le⟩) => .ok (whole, ⟨after, Nat.le_succ_of_le le⟩)
  | room + 1, ⟨.openBracket, _⟩ :: rest =>
      match taken : takeCommas rest with
      | (commas, ⟨.closeBracket, span⟩ :: close) =>
          match suffixed size room (.array type commas (type.span.merge span)) close with
          | .error error => .error error
          | .ok (whole, ⟨after, le⟩) =>
              .ok (whole, ⟨after, by
                have := length_takeCommas_le rest
                simp only [taken, List.length_cons] at this ⊢
                omega⟩)
      | (_, other) => .error (unexpected size .arrayEnd other)
  | _, input => .ok (type, ⟨input, Nat.le_refl _⟩)

/-- Reads items with a separator between them, at least one. -/
def separated {α : Type} (separator : TokenKind) (item : TokenParser α) (input : List Token) :
    Except SyntaxError (Parsed (List α) input) :=
  match item input with
  | .error error => .error error
  | .ok first =>
      match split : first.rest with
      | [] => .ok ⟨[first.value], first.rest, first.shorter⟩
      | token :: more =>
          if token.kind = separator then
            match separated separator item more with
            | .error error => .error error
            | .ok others =>
                .ok ⟨first.value :: others.value, others.rest, by
                  have := first.shorter
                  have := others.shorter
                  simp only [split, List.length_cons] at *
                  omega⟩
          else .ok ⟨[first.value], first.rest, first.shorter⟩
termination_by input.length
decreasing_by
  have := first.shorter
  simp only [split, List.length_cons] at this
  omega

def segment (size : Nat) (inner : TokenParser TypeExpr) : TokenParser Segment
  | ⟨.ident name, span⟩ :: ⟨.openAngle, _⟩ :: rest =>
      match separated .comma inner rest with
      | .error error => .error error
      | .ok arguments =>
          match split : arguments.rest with
          | ⟨.closeAngle, close⟩ :: after =>
              .ok ⟨.mk name arguments.value ⟨span.start, close.stop⟩, after, by
                have := arguments.shorter
                simp only [split, List.length_cons] at *
                omega⟩
          | other => .error (unexpected size .argumentsEnd other)
  | ⟨.ident name, span⟩ :: rest => .ok ⟨.mk name [] span, rest, by simp⟩
  | input => .error (unexpected size .typeName input)

def path (size : Nat) (inner : TokenParser TypeExpr) : TokenParser (List Segment) :=
  separated .dot (segment size inner)

/-- The end of the last segment, or `start` if there is none. -/
def pathEnd (start : Nat) (segments : List Segment) : Nat :=
  (segments.getLast?.map (·.span.stop)).getD start

def name (size : Nat) (inner : TokenParser TypeExpr) : TokenParser TypeExpr
  | ⟨.ident "global", span⟩ :: ⟨.doubleColon, _⟩ :: rest =>
      match path size inner rest with
      | .error error => .error error
      | .ok segments =>
          .ok ⟨.named true segments.value ⟨span.start, pathEnd span.stop segments.value⟩,
            segments.rest, by
              have := segments.shorter
              simp only [List.length_cons]
              omega⟩
  | input =>
      match path size inner input with
      | .error error => .error error
      | .ok segments =>
          let start := (place size input).start
          .ok ⟨.named false segments.value ⟨start, pathEnd start segments.value⟩,
            segments.rest, segments.shorter⟩

def element (inner : TokenParser TypeExpr) : TokenParser Element := fun input =>
  match inner input with
  | .error error => .error error
  | .ok type =>
      match split : type.rest with
      | ⟨.ident label, span⟩ :: after =>
          .ok ⟨.mk type.value (some (label, span)), after, by
            have := type.shorter
            simp only [split, List.length_cons] at this
            omega⟩
      | _ => .ok ⟨.mk type.value none, type.rest, type.shorter⟩

def tupleFrom (size : Nat) (inner : TokenParser TypeExpr) (opening : Span) : TokenParser TypeExpr
  | ⟨.closeParen, close⟩ :: _ => .error ⟨.emptyTuple, ⟨opening.start, close.stop⟩⟩
  | input =>
      match separated .comma (element inner) input with
      | .error error => .error error
      | .ok elements =>
          match split : elements.rest with
          | ⟨.closeParen, close⟩ :: after =>
              let span : Span := ⟨opening.start, close.stop⟩
              if elements.value.length < 2 then .error ⟨.loneElement, span⟩
              else
                .ok ⟨.tuple elements.value span, after, by
                  have := elements.shorter
                  simp only [split, List.length_cons] at this
                  omega⟩
          | other => .error (unexpected size .tupleEnd other)

def primary (size : Nat) (inner : TokenParser TypeExpr) : TokenParser TypeExpr
  | ⟨.openParen, opening⟩ :: rest =>
      match tupleFrom size inner opening rest with
      | .error error => .error error
      | .ok type => .ok ⟨type.value, type.rest, Nat.lt_succ_of_lt type.shorter⟩
  | input => name size inner input

/-- Reads a type that may be nested `levels` deep. -/
def typeAt (size : Nat) : (levels : Nat) → TokenParser TypeExpr
  | 0, input => .error ⟨.tooDeep, place size input⟩
  | levels + 1, input =>
      match primary size (typeAt size levels) input with
      | .error error => .error error
      | .ok head =>
          match suffixed size levels head.value head.rest with
          | .error error => .error error
          | .ok (type, ⟨rest, le⟩) => .ok ⟨type, rest, Nat.lt_of_le_of_lt le head.shorter⟩

def ofTokens (size : Nat) (tokens : List Token) : Except SyntaxError TypeExpr :=
  match tokens with
  | [] => .error ⟨.noType, ⟨0, size⟩⟩
  | _ =>
      match typeAt size maxDepth tokens with
      | .error error => .error error
      | .ok ⟨type, [], _⟩ => .ok type
      | .ok ⟨_, extra :: _, _⟩ => .error ⟨.trailing extra.kind, extra.span⟩

def parse (text : String) : Except SyntaxError TypeExpr :=
  match Token.lex text with
  | .error error => .error error
  | .ok tokens => ofTokens text.utf8ByteSize tokens

end TypeExpr

end ConversionSynthesis
