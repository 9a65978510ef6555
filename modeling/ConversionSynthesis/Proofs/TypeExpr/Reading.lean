import ConversionSynthesis.Proofs.TypeExpr.Unambiguity
import ConversionSynthesis.TypeExpr.Parser

/-! # What the parser reads

For each function of the parser, what it takes for the function to read a value and leave a rest.
Errors are not told apart here; what is proved of readings is put together from these lemmas.
-/

namespace ConversionSynthesis

open Grammar

theorem kinds_eq_cons {input : List Token} {k : TokenKind} {ks : List TokenKind}
    (equal : input.map Token.kind = k :: ks) :
    ∃ span more, input = ⟨k, span⟩ :: more ∧ more.map Token.kind = ks := by
  obtain ⟨⟨kind, span⟩, more, rfl, rfl, same⟩ := List.map_eq_cons_iff.mp equal
  exact ⟨span, more, rfl, same⟩

/-- The parser succeeds on the tokens, with the value, and leaves the rest. -/
def Reads {α : Type} (parser : TokenParser α) (input : List Token) (value : α)
    (rest : List Token) : Prop :=
  ∃ parsed, parser input = .ok parsed ∧ parsed.value = value ∧ parsed.rest = rest

theorem Reads.shorter {α : Type} {parser : TokenParser α} {input rest : List Token} {value : α}
    (read : Reads parser input value rest) : rest.length < input.length := by
  obtain ⟨parsed, -, -, rfl⟩ := read
  exact parsed.shorter

theorem Reads.unique {α : Type} {parser : TokenParser α} {input rest rest' : List Token}
    {value value' : α} (read : Reads parser input value rest)
    (read' : Reads parser input value' rest') : value = value' ∧ rest = rest' := by
  obtain ⟨parsed, result, rfl, rfl⟩ := read
  obtain ⟨parsed', result', rfl, rfl⟩ := read'
  cases result.symm.trans result'
  exact ⟨rfl, rfl⟩

namespace TypeExpr

variable {α : Type} {size : Nat} {inner : TokenParser TypeExpr} {input rest : List Token}

/-! ## Lists -/

theorem reads_separated {separator : TokenKind} {item : TokenParser α} {values : List α} :
    Reads (separated separator item) input values rest ↔
      (∃ value, values = [value] ∧ Reads item input value rest ∧
        Stops (· == separator) (rest.map Token.kind)) ∨
      (∃ value token more others, values = value :: others ∧
        Reads item input value (token :: more) ∧ token.kind = separator ∧
        Reads (separated separator item) more others rest) := by
  constructor
  · intro reads
    obtain ⟨parsed, read, rfl, rfl⟩ := reads
    rw [separated] at read
    split at read
    · cases read
    · next first readFirst =>
        split at read
        · next ended =>
            cases read
            refine .inl ⟨first.value, rfl, ⟨first, readFirst, rfl, rfl⟩, ?_⟩
            rw [ended]
            exact stops_nil _
        · next token more follows =>
            split at read
            · next same =>
                split at read
                · cases read
                · next others readOthers =>
                    cases read
                    exact .inr ⟨first.value, token, more, others.value, rfl,
                      ⟨first, readFirst, rfl, follows⟩, same, others, readOthers, rfl, rfl⟩
            · next different =>
                cases read
                refine .inl ⟨first.value, rfl, ⟨first, readFirst, rfl, rfl⟩, ?_⟩
                rw [follows]
                exact stops_cons.mpr (beq_eq_false_iff_ne.mpr different)
  · intro given
    rcases given with ⟨value, rfl, ⟨first, readFirst, rfl, rfl⟩, stops⟩ |
      ⟨value, token, more, others, rfl, ⟨first, readFirst, rfl, follows⟩, same, read⟩
    · unfold Reads
      rw [separated]
      simp only [readFirst]
      split
      · exact ⟨_, rfl, rfl, rfl⟩
      · next token more follows =>
          have different : (token.kind == separator) = false := by
            apply stops token.kind (more.map Token.kind)
            rw [follows, List.map_cons]
          rw [if_neg (beq_eq_false_iff_ne.mp different)]
          exact ⟨_, rfl, rfl, rfl⟩
    · obtain ⟨others, readOthers, rfl, rfl⟩ := read
      unfold Reads
      rw [separated]
      simp only [readFirst]
      split
      · next ended =>
          rw [ended] at follows
          cases follows
      · next token' more' follows' =>
          rw [follows'] at follows
          cases follows
          rw [if_pos same]
          simp only [readOthers]
          exact ⟨_, rfl, rfl, rfl⟩

/-! ## Names -/

theorem reads_segment {value : Segment} :
    Reads (segment size inner) input value rest ↔
      (∃ name span, input = ⟨.ident name, span⟩ :: rest ∧ value = .mk name [] span ∧
        Stops continuesSegment (rest.map Token.kind)) ∨
      (∃ name span opening more arguments close,
        input = ⟨.ident name, span⟩ :: ⟨.openAngle, opening⟩ :: more ∧
        value = .mk name arguments ⟨span.start, close.stop⟩ ∧
        Reads (separated .comma inner) more arguments (⟨.closeAngle, close⟩ :: rest)) := by
  constructor
  · intro reads
    obtain ⟨parsed, read, rfl, rfl⟩ := reads
    unfold segment at read
    split at read
    · next name span opening more =>
        split at read
        · cases read
        · next arguments readArguments =>
            split at read
            · next close after follows =>
                cases read
                exact .inr ⟨name, span, opening, more, arguments.value, close, rfl, rfl,
                  arguments, readArguments, rfl, follows⟩
            · cases read
    · next name span rest plain =>
        cases read
        refine .inl ⟨name, span, rfl, rfl, ?_⟩
        intro k ks equal
        rcases rest with _ | ⟨⟨kind, place⟩, more⟩
        · cases equal
        · cases equal
          cases kind <;> first | rfl | exact absurd rfl (plain _ _)
    · cases read
  · intro given
    rcases given with ⟨name, span, rfl, rfl, stops⟩ |
      ⟨name, span, opening, more, arguments, close, rfl, rfl, parsed, read, rfl, follows⟩
    · rcases rest with _ | ⟨⟨kind, place⟩, more⟩
      · exact ⟨_, rfl, rfl, rfl⟩
      · have free : continuesSegment kind = false := stops_cons.mp stops
        cases kind <;> first | exact ⟨_, rfl, rfl, rfl⟩ | cases free
    · unfold Reads segment
      simp only [read]
      split
      · next follows' =>
          rw [follows'] at follows
          cases follows
          exact ⟨_, rfl, rfl, rfl⟩
      · next missing => exact absurd follows (missing _ _)

theorem reads_name {value : TypeExpr} :
    Reads (name size inner) input value rest ↔
      (∃ segments span span' more,
        input = ⟨.ident "global", span⟩ :: ⟨.doubleColon, span'⟩ :: more ∧
        value = .named true segments ⟨span.start, pathEnd span.stop segments⟩ ∧
        Reads (path size inner) more segments rest) ∨
      (∃ segments,
        (∀ span span' more, input ≠ ⟨.ident "global", span⟩ :: ⟨.doubleColon, span'⟩ :: more) ∧
        value = .named false segments
          ⟨(place size input).start, pathEnd (place size input).start segments⟩ ∧
        Reads (path size inner) input segments rest) := by
  constructor
  · intro reads
    obtain ⟨parsed, read, rfl, rfl⟩ := reads
    unfold name at read
    split at read
    · next span span' more =>
        split at read
        · cases read
        · next segments readSegments =>
            cases read
            exact .inl ⟨segments.value, span, span', more, rfl, rfl, segments, readSegments,
              rfl, rfl⟩
    · next plain =>
        split at read
        · cases read
        · next segments readSegments =>
            cases read
            exact .inr ⟨segments.value, plain, rfl, segments, readSegments, rfl, rfl⟩
  · intro given
    rcases given with ⟨segments, span, span', more, rfl, rfl, parsed, read, rfl, rfl⟩ |
      ⟨segments, plain, rfl, parsed, read, rfl, rfl⟩
    · unfold Reads name
      simp only [read]
      exact ⟨_, rfl, rfl, rfl⟩
    · unfold Reads
      rw [name]
      · simp only [read]
        exact ⟨_, rfl, rfl, rfl⟩
      · exact plain

/-! ## Tuples -/

theorem reads_element {value : Element} :
    Reads (element inner) input value rest ↔
      (∃ type, value = .mk type none ∧ Reads inner input type rest ∧
        ∀ label span more, rest ≠ ⟨.ident label, span⟩ :: more) ∨
      (∃ type label span, value = .mk type (some (label, span)) ∧
        Reads inner input type (⟨.ident label, span⟩ :: rest)) := by
  constructor
  · intro reads
    obtain ⟨parsed, read, rfl, rfl⟩ := reads
    unfold element at read
    split at read
    · cases read
    · next type readType =>
        split at read
        · next label span after follows =>
            cases read
            exact .inr ⟨type.value, label, span, rfl, type, readType, rfl, follows⟩
        · next unlabelled =>
            cases read
            exact .inl ⟨type.value, rfl, ⟨type, readType, rfl, rfl⟩, unlabelled⟩
  · intro given
    rcases given with ⟨type, rfl, ⟨parsed, read, rfl, rfl⟩, unlabelled⟩ |
      ⟨type, label, span, rfl, parsed, read, rfl, follows⟩
    · refine ⟨⟨.mk parsed.value none, parsed.rest, parsed.shorter⟩, ?_, rfl, rfl⟩
      simp only [element, read]
    · unfold Reads element
      simp only [read]
      split
      · next follows' =>
          rw [follows'] at follows
          cases follows
          exact ⟨_, rfl, rfl, rfl⟩
      · next missing => exact absurd follows (missing _ _ _)

theorem reads_tupleFrom {opening : Span} {value : TypeExpr} :
    Reads (tupleFrom size inner opening) input value rest ↔
      (∀ close more, input ≠ ⟨.closeParen, close⟩ :: more) ∧
      ∃ elements close, value = .tuple elements ⟨opening.start, close.stop⟩ ∧
        2 ≤ elements.length ∧
        Reads (separated .comma (element inner)) input elements
          (⟨.closeParen, close⟩ :: rest) := by
  constructor
  · intro reads
    obtain ⟨parsed, read, rfl, rfl⟩ := reads
    unfold tupleFrom at read
    split at read
    · cases read
    · next started =>
        split at read
        · cases read
        · next elements readElements =>
            split at read
            · next close after follows =>
                split at read
                · cases read
                · next wide =>
                    cases read
                    exact ⟨started, elements.value, close, rfl, Nat.le_of_not_lt wide, elements,
                      readElements, rfl, follows⟩
            · cases read
  · intro given
    obtain ⟨started, elements, close, rfl, wide, parsed, read, rfl, follows⟩ := given
    unfold Reads
    rw [tupleFrom]
    · simp only [read]
      split
      · next follows' =>
          rw [follows'] at follows
          cases follows
          rw [if_neg (Nat.not_lt_of_le wide)]
          exact ⟨_, rfl, rfl, rfl⟩
      · next missing => exact absurd follows (missing _ _)
    · exact started

theorem reads_primary {value : TypeExpr} :
    Reads (primary size inner) input value rest ↔
      (∃ opening more, input = ⟨.openParen, opening⟩ :: more ∧
        Reads (tupleFrom size inner opening) more value rest) ∨
      ((∀ opening more, input ≠ ⟨.openParen, opening⟩ :: more) ∧
        Reads (name size inner) input value rest) := by
  constructor
  · intro reads
    obtain ⟨parsed, read, rfl, rfl⟩ := reads
    unfold primary at read
    split at read
    · next opening more =>
        split at read
        · cases read
        · next type readType =>
            cases read
            exact .inl ⟨opening, more, rfl, type, readType, rfl, rfl⟩
    · next started => exact .inr ⟨started, parsed, read, rfl, rfl⟩
  · intro given
    rcases given with ⟨opening, more, rfl, parsed, read, rfl, rfl⟩ |
      ⟨started, parsed, read, rfl, rfl⟩
    · unfold Reads primary
      simp only [read]
      exact ⟨_, rfl, rfl, rfl⟩
    · unfold Reads
      rw [primary]
      · exact ⟨parsed, read, rfl, rfl⟩
      · exact started

/-! ## Suffixes -/

def ReadsSuffixes (size room : Nat) (type : TypeExpr) (input : List Token) (whole : TypeExpr)
    (rest : List Token) : Prop :=
  ∃ after, suffixed size room type input = .ok (whole, after) ∧ after.val = rest

def startsSuffix : TokenKind → Bool
  | .question => true
  | .openBracket => true
  | _ => false

theorem readsSuffixes_question {room : Nat} {type whole : TypeExpr} {span : Span} :
    ReadsSuffixes size room type (⟨.question, span⟩ :: input) whole rest ↔
      ∃ less, room = less + 1 ∧
        ReadsSuffixes size less (.nullable type (type.span.merge span)) input whole rest := by
  cases room with
  | zero =>
      constructor
      · intro reads
        obtain ⟨after, read, -⟩ := reads
        cases read
      · intro given
        obtain ⟨less, impossible, -⟩ := given
        cases impossible
  | succ less =>
      constructor
      · intro reads
        obtain ⟨after, read, rfl⟩ := reads
        rw [suffixed] at read
        split at read
        · cases read
        · next whole' after' le readInner =>
            cases read
            exact ⟨less, rfl, _, readInner, rfl⟩
      · intro given
        obtain ⟨less, same, after, read, rfl⟩ := given
        cases same
        unfold ReadsSuffixes
        rw [suffixed]
        simp only [read]
        exact ⟨_, rfl, rfl⟩

theorem readsSuffixes_openBracket {room : Nat} {type whole : TypeExpr} {span : Span} :
    ReadsSuffixes size room type (⟨.openBracket, span⟩ :: input) whole rest ↔
      ∃ less commas close after, room = less + 1 ∧
        takeCommas input = (commas, ⟨.closeBracket, close⟩ :: after) ∧
        ReadsSuffixes size less (.array type commas (type.span.merge close)) after whole rest := by
  cases room with
  | zero =>
      constructor
      · intro reads
        obtain ⟨after, read, -⟩ := reads
        cases read
      · intro given
        obtain ⟨less, commas, close, after, impossible, -⟩ := given
        cases impossible
  | succ less =>
      constructor
      · intro reads
        obtain ⟨after, read, rfl⟩ := reads
        rw [suffixed] at read
        split at read
        · next commas close more taken =>
            split at read
            · cases read
            · next whole' after' le readInner =>
                cases read
                exact ⟨less, commas, close, more, rfl, taken, _, readInner, rfl⟩
        · cases read
      · intro given
        obtain ⟨less, commas, close, more, same, taken, after, read, rfl⟩ := given
        cases same
        unfold ReadsSuffixes
        rw [suffixed]
        split
        · next taken' =>
            rw [taken] at taken'
            cases taken'
            simp only [read]
            exact ⟨_, rfl, rfl⟩
        · next commas' other missing taken' =>
            rw [taken] at taken'
            cases taken'
            exact absurd rfl (missing _ _)

theorem readsSuffixes_none {room : Nat} {type whole : TypeExpr}
    (stops : Stops startsSuffix (input.map Token.kind)) :
    ReadsSuffixes size room type input whole rest ↔ whole = type ∧ rest = input := by
  have same : suffixed size room type input = .ok (type, ⟨input, Nat.le_refl _⟩) := by
    unfold suffixed
    split <;> first | rfl | (have free := stops_cons.mp stops; cases free)
  unfold ReadsSuffixes
  rw [same]
  constructor
  · intro given
    obtain ⟨after, equal, rfl⟩ := given
    cases equal
    exact ⟨rfl, rfl⟩
  · intro given
    obtain ⟨rfl, rfl⟩ := given
    exact ⟨_, rfl, rfl⟩

/-! ## Types -/

theorem not_reads_typeAt_zero {value : TypeExpr} : ¬ Reads (typeAt size 0) input value rest := by
  intro reads
  obtain ⟨parsed, read, -⟩ := reads
  cases read

theorem reads_typeAt {levels : Nat} {value : TypeExpr} :
    Reads (typeAt size (levels + 1)) input value rest ↔
      ∃ head more, Reads (primary size (typeAt size levels)) input head more ∧
        ReadsSuffixes size levels head more value rest := by
  constructor
  · intro reads
    obtain ⟨parsed, read, rfl, rfl⟩ := reads
    unfold typeAt at read
    split at read
    · cases read
    · next head readHead =>
        split at read
        · cases read
        · next type after le readSuffixes =>
            cases read
            exact ⟨head.value, head.rest, ⟨head, readHead, rfl, rfl⟩, _, readSuffixes, rfl⟩
  · intro given
    obtain ⟨head, more, ⟨parsed, read, rfl, rfl⟩, after, suffixes, rfl⟩ := given
    unfold Reads typeAt
    simp only [read, suffixes]
    exact ⟨_, rfl, rfl, rfl⟩

theorem ofTokens_eq_ok {tokens : List Token} {type : TypeExpr} :
    ofTokens size tokens = .ok type ↔ Reads (typeAt size maxDepth) tokens type [] := by
  rcases tokens with _ | ⟨token, more⟩
  · constructor
    · intro read
      cases read
    · intro reads
      obtain ⟨parsed, -⟩ := reads
      have := parsed.shorter
      cases this
  · constructor
    · intro read
      unfold ofTokens at read
      split at read
      · next impossible => cases impossible
      · split at read
        · cases read
        · next type' shorter readType =>
            cases read
            exact ⟨_, readType, rfl, rfl⟩
        · cases read
    · intro given
      obtain ⟨⟨value, after, shorter⟩, read, rfl, rfl⟩ := given
      simp only [ofTokens, read]

theorem parse_eq_ok {text : String} {type : TypeExpr} :
    parse text = .ok type ↔
      ∃ tokens, Token.lex text = .ok tokens ∧
        Reads (typeAt text.utf8ByteSize maxDepth) tokens type [] := by
  unfold parse
  cases lexed : Token.lex text with
  | error error => simp
  | ok tokens =>
      constructor
      · intro read
        exact ⟨tokens, rfl, ofTokens_eq_ok.mp read⟩
      · intro given
        obtain ⟨tokens', same, read⟩ := given
        cases same
        exact ofTokens_eq_ok.mpr read

end TypeExpr

end ConversionSynthesis
