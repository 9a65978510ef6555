import Mathlib.Logic.Relation
import ConversionSynthesis.Proofs.TypeExpr.Kinds
import ConversionSynthesis.Proofs.TypeExpr.Stretches

/-! # Blanks between tokens

The blank characters of a text are those outside its tokens. They may be added between two tokens
and taken away, as long as no name is joined with what follows it: the tokens keep their kinds, so
that the same is read.
-/

namespace ConversionSynthesis

open Host

/-! ## Blanks and lexemes -/

theorem IsLexeme.not_blank {chars : List Char} {kind : TokenKind} (lexeme : IsLexeme chars kind) :
    ∀ c ∈ chars, Text.isBlank c = false := by
  cases lexeme with
  | punctuation known => exact List.forall_mem_singleton.mpr (punctuation_apart known).1
  | doubleColon =>
      have colon : Text.isBlank ':' = false := by decide
      exact List.forall_mem_cons.mpr ⟨colon, List.forall_mem_singleton.mpr colon⟩
  | name token =>
      obtain ⟨c, rest, chars, opens, continues, -⟩ := token
      rw [chars, List.forall_mem_cons]
      exact ⟨not_blank_of_opens opens, fun d mem => not_blank_of_continues (continues d mem)⟩

theorem endsName_of_blank {c : Char} (blank : Text.isBlank c = true) (text : List Char) :
    EndsName (c :: text) := by
  rw [endsName_cons, ← Bool.not_eq_true]
  intro continues
  rw [not_blank_of_continues continues] at blank
  cases blank

theorem EndsToken.of_endsName {text : List Char} (ends : EndsName text) (kind : TokenKind) :
    EndsToken kind text := by
  cases kind with
  | ident name => exact ends
  | _ => trivial

/-- What ends a token ends it with more text behind; where nothing ends it, that text has to. -/
theorem EndsToken.append {kind : TokenKind} {front back : List Char} (ends : EndsToken kind front)
    (bare : front = [] → EndsToken kind back) : EndsToken kind (front ++ back) := by
  cases front with
  | nil => exact bare rfl
  | cons c front =>
      cases kind with
      | ident name => exact endsName_cons.mpr (endsName_cons.mp ends)
      | _ => trivial

namespace Token

theorem scan_blanks {blanks : List Char} (blank : blanks.all Text.isBlank = true) (offset : Nat)
    (text : List Char) :
    scan offset (blanks ++ text) = scan (offset + Text.width blanks) text := by
  induction blanks generalizing offset with
  | nil => rfl
  | cons c blanks ih =>
      rw [List.all_cons, Bool.and_eq_true] at blank
      rw [List.cons_append, scan_blank blank.1, ih blank.2, Text.width_cons, Nat.add_assoc]

end Token

/-! ## Places outside tokens -/

/-- The place lies within no token: a token may end there, or start. -/
def IsBoundary (tokens : List Token) (place : Nat) : Prop :=
  ∀ token ∈ tokens, token.span.stop ≤ place ∨ place ≤ token.span.start

/-- The character at the place is none of a token. -/
def Outside (tokens : List Token) (place : Nat) : Prop :=
  ∀ token ∈ tokens, token.span.stop ≤ place ∨ place < token.span.start

theorem Outside.isBoundary {tokens : List Token} {place : Nat} (outside : Outside tokens place) :
    IsBoundary tokens place := by
  intro token mem
  exact (outside token mem).imp id Nat.le_of_lt

theorem outside_behind {kind : TokenKind} {offset : Nat} {chars middle : List Char}
    {tokens : List Token} :
    Outside (⟨kind, ⟨offset, offset + Text.width chars⟩⟩ :: tokens)
        (offset + Text.width (chars ++ middle)) ↔
      Outside tokens (offset + Text.width chars + Text.width middle) := by
  rw [Outside, Outside, List.forall_mem_cons, Text.width_append, Nat.add_assoc]
  exact and_iff_right (.inl (Nat.add_le_add_left (Nat.le_add_right _ _) _))

theorem not_outside {kind : TokenKind} {offset : Nat} {c : Char} {front middle : List Char}
    {tokens : List Token} :
    ¬ Outside (⟨kind, ⟨offset, offset + Text.width (front ++ c :: middle)⟩⟩ :: tokens)
      (offset + Text.width front) := by
  intro outside
  have first := outside _ List.mem_cons_self
  have wide := c.utf8Size_pos
  rw [Text.width_append, Text.width_cons] at first
  dsimp only at first
  omega

theorem not_isBoundary {kind : TokenKind} {offset : Nat} {c d : Char} {front middle : List Char}
    {tokens : List Token} :
    ¬ IsBoundary (⟨kind, ⟨offset, offset + Text.width (d :: front ++ c :: middle)⟩⟩ :: tokens)
      (offset + Text.width (d :: front)) := by
  intro boundary
  have first := boundary _ List.mem_cons_self
  have wide := c.utf8Size_pos
  have wideFront := d.utf8Size_pos
  rw [Text.width_append, Text.width_cons, Text.width_cons] at first
  dsimp only at first
  omega

/-- Where two lists make up a row, and so do two others, the first of the one row is part of the
first of the other, or reaches beyond it. -/
theorem behind_or_within {chars text front back : List Char}
    (same : chars ++ text = front ++ back) :
    (∃ middle, front = chars ++ middle ∧ text = middle ++ back) ∨
      ∃ c middle, chars = front ++ c :: middle ∧ back = c :: (middle ++ text) := by
  rcases List.append_eq_append_iff.mp same with behind | ⟨middle, rfl, rfl⟩
  · exact .inl behind
  · cases middle with
    | nil => exact .inl ⟨[], by rw [List.append_nil, List.append_nil], rfl⟩
    | cons c middle => exact .inr ⟨c, middle, rfl, rfl⟩

namespace Scans

variable {offset : Nat} {text front back : List Char} {tokens : List Token}

/-- The blank characters are those outside all tokens. -/
theorem isBlank_iff {c : Char} (scans : Scans offset text tokens)
    (parts : text = front ++ c :: back) :
    Text.isBlank c = true ↔ Outside tokens (offset + Text.width front) := by
  induction scans generalizing front with
  | nil => simp at parts
  | @blank offset d text tokens isBlank scans ih =>
      cases front with
      | nil =>
          cases parts
          refine iff_of_true isBlank fun token mem => .inr ?_
          exact Nat.lt_of_lt_of_le (Nat.lt_add_of_pos_right c.utf8Size_pos)
            (scans.inOrder.2 token mem)
      | cons first front =>
          obtain ⟨rfl, rest⟩ := List.cons.inj parts
          rw [ih rest, Text.width_cons, Nat.add_assoc]
  | @lexeme offset chars kind text tokens lexeme _ _ ih =>
      rcases behind_or_within parts with ⟨middle, rfl, rest⟩ | ⟨d, middle, rfl, rest⟩
      · rw [ih rest, outside_behind]
      · obtain ⟨rfl, -⟩ := List.cons.inj rest
        have part := lexeme.not_blank c (List.mem_append_right _ List.mem_cons_self)
        exact iff_of_false (by simp [part]) not_outside

/-- At a place within no token a text is cut in two, and so are its tokens. -/
theorem split (scans : Scans offset text tokens) (parts : text = front ++ back)
    (boundary : IsBoundary tokens (offset + Text.width front)) :
    ∃ own behind, tokens = own ++ behind ∧ Scans offset front own ∧
      Scans (offset + Text.width front) back behind ∧
      ∀ token ∈ own, token.span.stop = offset + Text.width front → EndsToken token.kind back := by
  induction scans generalizing front with
  | nil =>
      obtain ⟨rfl, rfl⟩ := List.append_eq_nil_iff.mp parts.symm
      exact ⟨[], [], rfl, .nil, .nil, List.forall_mem_nil _⟩
  | @blank offset c text tokens isBlank scans ih =>
      cases front with
      | nil =>
          cases parts
          exact ⟨[], tokens, rfl, .nil, .blank isBlank scans, List.forall_mem_nil _⟩
      | cons first front =>
          obtain ⟨rfl, rest⟩ := List.cons.inj parts
          rw [Text.width_cons, ← Nat.add_assoc] at boundary ⊢
          obtain ⟨own, behind, rfl, before, after, ends⟩ := ih rest boundary
          exact ⟨own, behind, rfl, .blank isBlank before, after, ends⟩
  | @lexeme offset chars kind text tokens lexeme endsFirst scans ih =>
      cases front with
      | nil =>
          cases parts
          exact ⟨[], _, rfl, .nil, .lexeme lexeme endsFirst scans, List.forall_mem_nil _⟩
      | cons c others =>
          rcases behind_or_within parts with ⟨middle, same, rfl⟩ | ⟨d, middle, rfl, -⟩
          · obtain ⟨-, atOthers⟩ := List.forall_mem_cons.mp boundary
            rw [same, Text.width_append, ← Nat.add_assoc] at atOthers ⊢
            obtain ⟨own, behind, rfl, before, after, ends⟩ := ih rfl atOthers
            refine ⟨_ :: own, behind, rfl, .lexeme lexeme endsFirst.of_append before, after, ?_⟩
            rw [List.forall_mem_cons]
            refine ⟨fun reaches => ?_, ends⟩
            -- The first token reaches the place only if nothing is between.
            rwa [Text.eq_nil_of_width (Nat.left_eq_add.mp reaches)] at endsFirst
          · exact absurd boundary not_isBoundary

/-- Texts are put together, and so are their tokens, where the first text ends each token that
reaches its end. -/
theorem join {own behind : List Token} (before : Scans offset front own)
    (after : Scans (offset + Text.width front) back behind)
    (ends : ∀ token ∈ own, token.span.stop = offset + Text.width front →
      EndsToken token.kind back) :
    Scans offset (front ++ back) (own ++ behind) := by
  induction before with
  | nil => exact after
  | @blank offset c text tokens isBlank _ ih =>
      rw [Text.width_cons, ← Nat.add_assoc] at after ends
      exact .blank isBlank (ih after ends)
  | @lexeme offset chars kind text tokens lexeme endsFirst _ ih =>
      -- What is behind the token is still there, unless it was the last one of its text.
      obtain ⟨atFirst, atOthers⟩ := List.forall_mem_cons.mp ends
      rw [Text.width_append, ← Nat.add_assoc] at after atOthers
      rw [List.append_assoc, List.cons_append]
      refine .lexeme lexeme (endsFirst.append ?_) (ih after atOthers)
      rintro rfl
      exact atFirst (by rw [List.append_nil])

/-- A text that stands elsewhere is cut into tokens of the same kinds. -/
theorem moved (scans : Scans offset text tokens) (place : Nat) :
    ∃ tokens', Scans place text tokens' ∧ SameKinds tokens tokens' := by
  induction scans generalizing place with
  | nil => exact ⟨[], .nil, rfl⟩
  | blank isBlank _ ih =>
      obtain ⟨tokens', scans', same⟩ := ih (place + _)
      exact ⟨tokens', .blank isBlank scans', same⟩
  | lexeme lexeme ends _ ih =>
      obtain ⟨tokens', scans', same⟩ := ih (place + _)
      exact ⟨_, .lexeme lexeme ends scans', congrArg (_ :: ·) same⟩

theorem behind_blanks {blanks : List Char} (blank : blanks.all Text.isBlank = true) :
    Scans offset (blanks ++ text) tokens ↔ Scans (offset + Text.width blanks) text tokens := by
  rw [← scan_eq_ok, Token.scan_blanks blank, scan_eq_ok]

theorem inserted {blanks : List Char} (scans : Scans offset (front ++ back) tokens)
    (boundary : IsBoundary tokens (offset + Text.width front))
    (blank : blanks.all Text.isBlank = true) :
    ∃ tokens', Scans offset (front ++ (blanks ++ back)) tokens' ∧ SameKinds tokens tokens' := by
  obtain ⟨own, behind, rfl, before, after, ends⟩ := scans.split rfl boundary
  obtain ⟨behind', after', same⟩ := after.moved (offset + Text.width front + Text.width blanks)
  refine ⟨own ++ behind', before.join ((behind_blanks blank).mpr after') ?_, same.append_left own⟩
  intro token mem reaches
  cases blanks with
  | nil => exact ends token mem reaches
  | cons c blanks =>
      rw [List.all_cons, Bool.and_eq_true] at blank
      exact .of_endsName (endsName_of_blank blank.1 _) token.kind

theorem removed {blanks : List Char} (scans : Scans offset (front ++ (blanks ++ back)) tokens)
    (blank : blanks.all Text.isBlank = true)
    (ends : ∀ token ∈ tokens, token.span.stop = offset + Text.width front →
      EndsToken token.kind back) :
    ∃ tokens', Scans offset (front ++ back) tokens' ∧ SameKinds tokens tokens' := by
  cases blanks with
  | nil => exact ⟨tokens, scans, rfl⟩
  | cons c blanks =>
      have isBlank := blank
      rw [List.all_cons, Bool.and_eq_true] at isBlank
      have outside := (scans.isBlank_iff rfl).mp isBlank.1
      obtain ⟨own, behind, rfl, before, after, -⟩ := scans.split rfl outside.isBoundary
      obtain ⟨behind', after', same⟩ :=
        ((behind_blanks blank).mp after).moved (offset + Text.width front)
      refine ⟨own ++ behind', before.join after' ?_, same.append_left own⟩
      exact fun token mem => ends token (List.mem_append_left _ mem)

end Scans

/-! ## Texts with other blanks -/

/-- A name ends where the text in front does, and what stands behind goes on with it. -/
def JoinsName (tokens : List Token) (front back : String) : Prop :=
  ∃ name span, (⟨.ident name, span⟩ : Token) ∈ tokens ∧ span.stop = front.utf8ByteSize ∧
    ¬ EndsName back.toList

/-- Blanks come into the text at a place within no token, or they go from it, unless they keep a
name apart from what would go on with it. Colons need no such care: pairs of them stay pairs, with
or without blanks between one pair and the next. -/
inductive Respaces : String → String → Prop
  | inserted {tokens} (front blanks back : String) : Token.lex (front ++ back) = .ok tokens →
      IsBoundary tokens front.utf8ByteSize → Text.allBlank blanks = true →
      Respaces (front ++ back) (front ++ (blanks ++ back))
  | removed {tokens} (front blanks back : String) :
      Token.lex (front ++ (blanks ++ back)) = .ok tokens → ¬ JoinsName tokens front back →
      Text.allBlank blanks = true → Respaces (front ++ (blanks ++ back)) (front ++ back)

theorem endsToken_of_not_joins {tokens : List Token} {front back : String}
    (apart : ¬ JoinsName tokens front back) {token : Token} (mem : token ∈ tokens)
    (reaches : token.span.stop = front.utf8ByteSize) : EndsToken token.kind back.toList := by
  obtain ⟨kind, span⟩ := token
  cases kind with
  | ident name => exact Classical.not_not.mp fun goesOn => apart ⟨name, span, mem, reaches, goesOn⟩
  | _ => trivial

theorem Respaces.sameKinds {text text' : String} {tokens : List Token}
    (respaces : Respaces text text') (lexed : Token.lex text = .ok tokens) :
    ∃ tokens', Token.lex text' = .ok tokens' ∧ SameKinds tokens tokens' := by
  have scans := Scans.of_scan lexed
  cases respaces with
  | inserted front blanks back lexedFirst boundary blank =>
      cases lexed.symm.trans lexedFirst
      rw [String.toList_append] at scans
      rw [← Text.width_toList, ← Nat.zero_add (Text.width _)] at boundary
      obtain ⟨tokens', scans', same⟩ := scans.inserted boundary blank
      refine ⟨tokens', ?_, same⟩
      rw [Token.lex, String.toList_append, String.toList_append]
      exact scan_eq_ok.mpr scans'
  | removed front blanks back lexedFirst apart blank =>
      cases lexed.symm.trans lexedFirst
      rw [String.toList_append, String.toList_append] at scans
      obtain ⟨tokens', scans', same⟩ := scans.removed blank fun token mem reaches => by
        rw [Nat.zero_add, Text.width_toList] at reaches
        exact endsToken_of_not_joins apart mem reaches
      refine ⟨tokens', ?_, same⟩
      rw [Token.lex, String.toList_append]
      exact scan_eq_ok.mpr scans'

/-- Blanks may change at many places, one after the other. -/
theorem sameKinds_of_respacings {text text' : String} {tokens : List Token}
    (respacings : Relation.ReflTransGen Respaces text text')
    (lexed : Token.lex text = .ok tokens) :
    ∃ tokens', Token.lex text' = .ok tokens' ∧ SameKinds tokens tokens' := by
  induction respacings with
  | refl => exact ⟨tokens, lexed, rfl⟩
  | tail _ respaces ih =>
      obtain ⟨between, lexedBetween, same⟩ := ih
      obtain ⟨tokens', lexed', others⟩ := respaces.sameKinds lexedBetween
      exact ⟨tokens', lexed', same.trans others⟩

/-! ## Pieces of tokens -/

/-- The piece of the text that a token takes up is cut into that token alone. -/
theorem exists_piece {text : String} {tokens : List Token} (lexed : Token.lex text = .ok tokens)
    {token : Token} (mem : token ∈ tokens) :
    ∃ piece, token.span.Cuts text piece ∧
      Token.lex piece = .ok [⟨token.kind, ⟨0, piece.utf8ByteSize⟩⟩] := by
  obtain ⟨before, behind, rfl⟩ := List.append_of_mem mem
  obtain ⟨kind, span⟩ := token
  have alone : span.Covers [⟨kind, span⟩] := ⟨rfl, rfl⟩
  obtain ⟨piece, cuts, own, lexedPiece, shifted⟩ := exists_stretch lexed alone
  refine ⟨piece, cuts, ?_⟩
  obtain ⟨⟨_, start, stop⟩, rfl, same⟩ := List.map_eq_singleton_iff.mp shifted
  obtain ⟨-, front, back, -, begins, ends⟩ := cuts
  rw [String.utf8ByteSize_append, ← begins] at ends
  obtain ⟨rfl, place⟩ := Token.mk.inj same
  have start : start = 0 := Nat.add_eq_right.mp (congrArg Span.start place)
  have stop : stop = piece.utf8ByteSize := by
    have stop := (congrArg Span.stop place).trans ends
    exact Nat.add_left_cancel ((Nat.add_comm _ _).trans stop)
  rw [lexedPiece, start, stop]

/-- In a text that is cut into tokens, the tokens stand one behind the other, each is what its own
piece of the text makes it, and the characters outside them are the blank ones. With other blanks,
the text is cut into tokens of the same kinds, so that the same tree is read, but for its places, or
reading fails with the same message. -/
theorem tokens_cover_and_outlast_respacing {text : String} {tokens : List Token}
    (lexed : Token.lex text = .ok tokens) :
    InOrder tokens ∧
    (∀ token ∈ tokens, ∃ piece, token.span.Cuts text piece ∧
      Token.lex piece = .ok [⟨token.kind, ⟨0, piece.utf8ByteSize⟩⟩]) ∧
    (∀ front c back, text.toList = front ++ c :: back →
      (Text.isBlank c = true ↔ Outside tokens (Text.width front))) ∧
    ∀ text', Relation.ReflTransGen Respaces text text' →
      ∃ tokens', Token.lex text' = .ok tokens' ∧ SameKinds tokens tokens' ∧
        (∀ type, TypeExpr.parse text = .ok type →
          ∃ type', TypeExpr.parse text' = .ok type' ∧ type'.bare = type.bare) ∧
        ∀ error, TypeExpr.parse text = .error error →
          ∃ error', TypeExpr.parse text' = .error error' ∧ error'.message = error.message := by
  have scans := Scans.of_scan lexed
  refine ⟨scans.inOrder.1, fun token => exists_piece lexed, ?blanks, ?respaced⟩
  case blanks =>
    intro front c back parts
    rw [scans.isBlank_iff parts, Nat.zero_add]
  case respaced =>
    intro text' respacings
    obtain ⟨tokens', lexed', same⟩ := sameKinds_of_respacings respacings lexed
    obtain ⟨reads, fails⟩ := TypeExpr.parse_agree lexed lexed' same
    refine ⟨tokens', lexed', same, reads, fun error failed => ?_⟩
    obtain ⟨error', failed', fault⟩ := fails error failed
    exact ⟨error', failed', congrArg SyntaxFault.message fault⟩

theorem tokens_cover_and_outlast_respacing_spacedPair :
    Relation.ReflTransGen Respaces "(Ré, B< C >[ ] x)" "(Ré\u3000, B< C>[ ] x)" ∧
      TypeExpr.parse "(Ré, B< C >[ ] x)" = .ok spacedPair ∧
      ∃ type, TypeExpr.parse "(Ré\u3000, B< C>[ ] x)" = .ok type ∧ type.bare = spacedPair.bare := by
  have lexed : Token.lex "(Ré, B< C >[ ] x)" = .ok [⟨.openParen, ⟨0, 1⟩⟩,
      ⟨.ident "Ré", ⟨1, 4⟩⟩, ⟨.comma, ⟨4, 5⟩⟩, ⟨.ident "B", ⟨6, 7⟩⟩, ⟨.openAngle, ⟨7, 8⟩⟩,
      ⟨.ident "C", ⟨9, 10⟩⟩, ⟨.closeAngle, ⟨11, 12⟩⟩, ⟨.openBracket, ⟨12, 13⟩⟩,
      ⟨.closeBracket, ⟨14, 15⟩⟩, ⟨.ident "x", ⟨16, 17⟩⟩, ⟨.closeParen, ⟨17, 18⟩⟩] := by
    with_unfolding_all rfl
  have read : TypeExpr.parse "(Ré, B< C >[ ] x)" = .ok spacedPair := by with_unfolding_all rfl
  have wider : Respaces "(Ré, B< C >[ ] x)" "(Ré\u3000, B< C >[ ] x)" := by
    refine .inserted "(Ré" "\u3000" ", B< C >[ ] x)" lexed ?_ rfl
    unfold IsBoundary
    decide
  have narrower : Respaces "(Ré\u3000, B< C >[ ] x)" "(Ré\u3000, B< C>[ ] x)" := by
    obtain ⟨between, lexedBetween, -⟩ := wider.sameKinds lexed
    refine .removed "(Ré\u3000, B< C" " " ">[ ] x)" lexedBetween ?_ rfl
    rintro ⟨_, _, _, _, goesOn⟩
    exact goesOn (endsName_cons.mpr rfl)
  have respacings := Relation.ReflTransGen.tail (.single wider) narrower
  refine ⟨respacings, read, ?_⟩
  obtain ⟨-, -, -, outlasts⟩ := tokens_cover_and_outlast_respacing lexed
  obtain ⟨_, _, _, reads, -⟩ := outlasts _ respacings
  exact reads spacedPair read

end ConversionSynthesis
