import ConversionSynthesis.Proofs.TypeExpr.Completeness
import ConversionSynthesis.Proofs.TypeExpr.Inside
import ConversionSynthesis.Proofs.TypeExpr.Shifting

/-! # The stretch of text of each expression

A tree that was read is placed along the tokens of its text, and so is every expression within it.
Its place runs from its first token to its last one; the stretch of text there is cut into the same
tokens, so the expression is read from it once more.
-/

namespace ConversionSynthesis

open Grammar TypeExpr

/-! ## Stretches of a text -/

/-- The span marks out the piece within the text. -/
def Span.Cuts (span : Span) (text piece : String) : Prop :=
  piece ≠ "" ∧ ∃ front back, text = front ++ (piece ++ back) ∧
    span.start = front.utf8ByteSize ∧ span.stop = (front ++ piece).utf8ByteSize

/-- The span runs from the first of the tokens to the last one. -/
structure Span.Covers (span : Span) (own : List Token) : Prop where
  first : own.head?.map (·.span.start) = some span.start
  last : own.getLast?.map (·.span.stop) = some span.stop

theorem Scans.from_token {offset : Nat} {text : List Char} {before behind : List Token}
    {token : Token} (scans : Scans offset text (before ++ token :: behind)) :
    ∃ front back, text = front ++ back ∧ token.span.start = offset + Text.width front ∧
      Scans token.span.start back (token :: behind) := by
  generalize same : before ++ token :: behind = tokens at scans
  induction scans generalizing before with
  | nil => simp at same
  | @blank offset c text tokens isBlank _ ih =>
      obtain ⟨front, back, rfl, start, inside⟩ := ih same
      exact ⟨c :: front, back, rfl, by rw [start, Text.width_cons, Nat.add_assoc], inside⟩
  | @lexeme offset chars kind text tokens lexeme ends scans ih =>
      cases before with
      | nil =>
          cases same
          exact ⟨[], chars ++ text, rfl, rfl, .lexeme lexeme ends scans⟩
      | cons first before =>
          obtain ⟨front, back, rfl, start, inside⟩ := ih (List.cons.inj same).2
          refine ⟨chars ++ front, back, by rw [List.append_assoc], ?_, inside⟩
          rw [start, Text.width_append, Nat.add_assoc]

theorem Scans.up_to_token {offset : Nat} {text : List Char} {own behind : List Token}
    (scans : Scans offset text (own ++ behind)) (some : own ≠ []) :
    ∃ piece back, text = piece ++ back ∧
      own.getLast?.map (·.span.stop) = .some (offset + Text.width piece) ∧
      Scans offset piece own := by
  generalize same : own ++ behind = tokens at scans
  induction scans generalizing own with
  | nil => exact absurd (List.append_eq_nil_iff.mp same).1 some
  | @blank offset c text tokens isBlank _ ih =>
      obtain ⟨piece, back, rfl, stop, inside⟩ := ih some same
      refine ⟨c :: piece, back, rfl, ?_, .blank isBlank inside⟩
      rw [stop, Text.width_cons, Nat.add_assoc]
  | @lexeme offset chars kind text tokens lexeme ends _ ih =>
      obtain ⟨first, own, rfl⟩ := List.exists_cons_of_ne_nil some
      obtain ⟨rfl, others⟩ := List.cons.inj same
      cases own with
      | nil =>
          have alone : Scans offset (chars ++ []) _ := .lexeme lexeme (endsToken_nil kind) .nil
          rw [List.append_nil] at alone
          exact ⟨chars, text, rfl, rfl, alone⟩
      | cons second own =>
          obtain ⟨piece, back, rfl, stop, inside⟩ := ih (List.cons_ne_nil _ _) others
          refine ⟨chars ++ piece, back, by rw [List.append_assoc], ?_,
            .lexeme lexeme ends.of_append inside⟩
          rw [List.getLast?_cons_cons, stop, Text.width_append, Nat.add_assoc]

/-- Where tokens stand in a row, the text from the first to the last is cut into the same ones. -/
theorem exists_stretch {text : String} {before own behind : List Token} {span : Span}
    (lexed : Token.lex text = .ok (before ++ (own ++ behind))) (covers : span.Covers own) :
    ∃ piece, span.Cuts text piece ∧
      ∃ tokens, Token.lex piece = .ok tokens ∧ tokens.map (Token.shifted span.start) = own := by
  obtain ⟨first, others, rfl⟩ : ∃ first others, own = first :: others := by
    refine List.exists_cons_of_ne_nil ?_
    rintro rfl
    cases covers.first
  have start : first.span.start = span.start := Option.some.inj covers.first
  obtain ⟨front, rest, same, begins, fromFirst⟩ := (Scans.of_scan lexed).from_token
  have inside : Scans first.span.start rest (first :: others ++ behind) := fromFirst
  obtain ⟨piece, back, rfl, stops, scans⟩ := inside.up_to_token (List.cons_ne_nil _ _)
  have stop := Option.some.inj (stops.symm.trans covers.last)
  rw [start, Nat.zero_add] at begins
  have further : first.span.start = 0 + span.start := start.trans (Nat.zero_add _).symm
  obtain ⟨tokens, cut, shifted⟩ := scans.unshifted further
  refine ⟨.ofList piece, ⟨?_, .ofList front, .ofList back, ?_, ?_, ?_⟩, tokens, ?_, shifted⟩
  · intro none
    have cut := scan_eq_ok.mpr scans
    rw [String.ofList_eq_empty_iff.mp none, Token.scan_nil] at cut
    cases cut
  · rw [← String.ofList_append, ← String.ofList_append, ← same, String.ofList_toList]
  · rw [Text.utf8ByteSize_ofList, begins]
  · rw [← stop, ← String.ofList_append, Text.utf8ByteSize_ofList, Text.width_append, start, begins]
  · rw [Token.lex, String.toList_ofList]
    exact scan_eq_ok.mpr cut

/-! ## Tokens in order -/

/-- The tokens have places of their own, one behind the other. -/
structure InOrder (tokens : List Token) : Prop where
  wide : ∀ token ∈ tokens, token.span.start < token.span.stop
  apart : tokens.Pairwise fun a b => a.span.stop ≤ b.span.start

theorem Scans.inOrder {offset : Nat} {text : List Char} {tokens : List Token}
    (scans : Scans offset text tokens) :
    InOrder tokens ∧ ∀ token ∈ tokens, offset ≤ token.span.start := by
  induction scans with
  | nil => exact ⟨⟨nofun, .nil⟩, nofun⟩
  | blank _ _ ih => exact ⟨ih.1, fun token mem => Nat.le_of_add_right_le (ih.2 token mem)⟩
  | lexeme lexeme _ _ ih =>
      have width := lexeme.width_pos
      refine ⟨⟨List.forall_mem_cons.mpr ⟨Nat.lt_add_of_pos_right width, ih.1.wide⟩,
        .cons ih.2 ih.1.apart⟩, List.forall_mem_cons.mpr ⟨Nat.le_refl _, ?_⟩⟩
      exact fun token mem => Nat.le_of_add_right_le (ih.2 token mem)

namespace InOrder

variable {front back : List Token}

theorem of_append (ordered : InOrder (front ++ back)) : InOrder front ∧ InOrder back where
  left := ⟨fun token mem => ordered.wide token (List.mem_append_left _ mem),
    (List.pairwise_append.mp ordered.apart).1⟩
  right := ⟨fun token mem => ordered.wide token (List.mem_append_right _ mem),
    (List.pairwise_append.mp ordered.apart).2.1⟩

theorem between (ordered : InOrder (front ++ back)) {a b : Token} (isBefore : a ∈ front)
    (isBehind : b ∈ back) : a.span.stop ≤ b.span.start :=
  (List.pairwise_append.mp ordered.apart).2.2 a isBefore b isBehind

end InOrder

/-! ## Places of trees -/

namespace Span.Covers

variable {span : Span} {own mark : List Token}

theorem of_ends (first last : Token) (own : List Token) :
    (⟨first.span.start, last.span.stop⟩ : Span).Covers (first :: (own ++ [last])) :=
  ⟨rfl, by rw [← List.cons_append, List.getLast?_concat]; rfl⟩

theorem exists_first (covers : span.Covers own) :
    ∃ token ∈ own, token.span.start = span.start := by
  obtain ⟨token, first, same⟩ := Option.map_eq_some_iff.mp covers.first
  exact ⟨token, List.mem_of_mem_head? first, same⟩

theorem exists_last (covers : span.Covers own) : ∃ token ∈ own, token.span.stop = span.stop := by
  obtain ⟨token, last, same⟩ := Option.map_eq_some_iff.mp covers.last
  exact ⟨token, List.mem_of_getLast? last, same⟩

theorem bounds {token : Token} (covers : span.Covers own) (ordered : InOrder own)
    (mem : token ∈ own) : span.start ≤ token.span.start ∧ token.span.stop ≤ span.stop := by
  constructor
  · obtain ⟨first, isFirst, start⟩ := Option.map_eq_some_iff.mp covers.first
    obtain ⟨others, rfl⟩ := List.head?_eq_some_iff.mp isFirst
    rw [← start]
    rcases List.mem_cons.mp mem with rfl | later
    · exact Nat.le_refl _
    · have wide := ordered.wide first List.mem_cons_self
      have apart := (List.pairwise_cons.mp ordered.apart).1 token later
      exact Nat.le_trans (Nat.le_of_lt wide) apart
  · obtain ⟨last, isLast, stop⟩ := Option.map_eq_some_iff.mp covers.last
    obtain ⟨others, rfl⟩ := List.getLast?_eq_some_iff.mp isLast
    rw [← stop]
    rcases List.mem_append.mp mem with earlier | isLast
    · have wide := ordered.wide last (List.mem_append_right _ List.mem_cons_self)
      have apart := ordered.between earlier List.mem_cons_self
      exact Nat.le_trans apart (Nat.le_of_lt wide)
    · rw [List.mem_singleton.mp isLast]

theorem contains {inner : Span} {part : List Token} (covers : span.Covers own)
    (ordered : InOrder own) (inside : inner.Covers part) (subset : part ⊆ own) :
    span.start ≤ inner.start ∧ inner.stop ≤ span.stop := by
  obtain ⟨first, isFirst, start⟩ := inside.exists_first
  obtain ⟨last, isLast, stop⟩ := inside.exists_last
  rw [← start, ← stop]
  exact ⟨(covers.bounds ordered (subset isFirst)).1, (covers.bounds ordered (subset isLast)).2⟩

theorem merge (covers : span.Covers own) (last : Token) (ends : mark.getLast? = some last)
    (ordered : InOrder (own ++ mark)) : (span.merge last.span).Covers (own ++ mark) := by
  obtain ⟨first, isFirst, start⟩ := covers.exists_first
  obtain ⟨final, isFinal, stop⟩ := covers.exists_last
  have isLast := List.mem_of_getLast? ends
  have behindFirst := ordered.between isFirst isLast
  have behindFinal := ordered.between isFinal isLast
  have wideFirst := ordered.of_append.1.wide first isFirst
  have wideLast := ordered.of_append.2.wide last isLast
  constructor
  · rw [List.head?_append, Option.map_or, covers.first, Span.merge, Option.some_or]
    exact congrArg some (by dsimp only; omega)
  · rw [List.getLast?_append, ends, Span.merge, Option.some_or, Option.map_some]
    exact congrArg some (by dsimp only; omega)

end Span.Covers

section

variable {part : List Token → TypeExpr → Prop} {own : List Token}

theorem PlacedSegment.covers {segment : Segment} (placed : PlacedSegment part own segment) :
    segment.span.Covers own := by
  cases placed with
  | plain name place => exact ⟨rfl, rfl⟩
  | generic name place opening close _ =>
      exact .of_ends ⟨.ident name, place⟩ ⟨.closeAngle, close⟩ (_ :: _)

theorem Listed.path_last {segments : List Segment}
    (listed : Listed .dot (PlacedSegment part) own segments) (start : Nat) :
    own.getLast?.map (·.span.stop) = some (pathEnd start segments) := by
  induction listed with
  | one segment => exact segment.covers.last
  | @more own segment others segments place _ listed ih =>
      have someTokens : others ≠ [] := listed.ne_nil fun _ _ => PlacedSegment.ne_nil
      obtain ⟨second, others, rfl⟩ := List.exists_cons_of_ne_nil someTokens
      obtain ⟨next, segments, rfl⟩ := List.exists_cons_of_ne_nil listed.items_ne_nil
      rw [pathEnd, List.getLast?_cons_cons, ← pathEnd, ← ih, List.getLast?_append,
        List.getLast?_cons_cons, List.getLast?_cons, Option.some_or]

theorem PlacedPrimary.covers {type : TypeExpr} (placed : PlacedPrimary part own type) :
    type.span.Covers own := by
  cases placed with
  | path first listed => exact ⟨rfl, listed.path_last _⟩
  | global root colons listed =>
      refine ⟨rfl, ?_⟩
      have last := listed.path_last root.stop
      have some : ∃ first own', _ = first :: own' := List.exists_cons_of_ne_nil
        (listed.ne_nil fun _ _ => PlacedSegment.ne_nil)
      obtain ⟨first, own, rfl⟩ := some
      rwa [List.getLast?_cons_cons, List.getLast?_cons_cons]
  | tuple opening close _ _ =>
      exact .of_ends ⟨.openParen, opening⟩ ⟨.closeParen, close⟩ _

end

theorem PlacedSuffix.covers {own mark : List Token} {type inner : TypeExpr}
    (suffix : PlacedSuffix mark type inner) (covers : type.span.Covers own)
    (ordered : InOrder (own ++ mark)) : inner.span.Covers (own ++ mark) := by
  cases suffix with
  | question type place => exact covers.merge ⟨.question, place⟩ rfl ordered
  | brackets type opening close commas =>
      refine covers.merge ⟨.closeBracket, close⟩ ?_ ordered
      rw [← List.cons_append, List.getLast?_concat]

theorem PlacedSuffixes.covers {front own : List Token} {type whole : TypeExpr}
    (suffixes : PlacedSuffixes own type whole) (covers : type.span.Covers front)
    (ordered : InOrder (front ++ own)) : whole.span.Covers (front ++ own) := by
  induction suffixes generalizing front with
  | none => rwa [List.append_nil]
  | more suffix _ ih =>
      rw [← List.append_assoc] at ordered ⊢
      exact ih (suffix.covers covers ordered.of_append.1) ordered

theorem Placed.covers {levels : Nat} {own : List Token} {type : TypeExpr}
    (placed : Placed levels own type) (ordered : InOrder own) : type.span.Covers own := by
  cases levels with
  | zero => exact placed.elim
  | succ levels =>
      obtain ⟨front, back, head, rfl, primary, suffixes, -⟩ := placed
      exact suffixes.covers primary.covers ordered

theorem Holds.pairwise {tokens : List Token} {xs : List TypeExpr}
    {item : List Token → TypeExpr → Prop}
    (covers : ∀ own type, item own type → InOrder own → type.span.Covers own)
    (holds : Holds item tokens xs) (ordered : InOrder tokens) :
    xs.Pairwise fun left right => left.span.stop ≤ right.span.start := by
  induction holds with
  | nil => exact .nil
  | @cons own x rest xs gap first others ih =>
      have inside := ordered.of_append.2
      refine .cons ?_ (ih inside.of_append.2)
      intro right later
      obtain ⟨before, own', behind, rfl, placed⟩ := others.exists_of_mem later
      have ownOrdered := inside.of_append.2.of_append.2.of_append.1
      obtain ⟨last, isLast, stop⟩ := (covers _ _ first inside.of_append.1).exists_last
      obtain ⟨next, isNext, start⟩ := (covers _ _ placed ownOrdered).exists_first
      rw [← stop, ← start]
      exact inside.between isLast (List.mem_append_right _ (List.mem_append_left _ isNext))

/-! ## Reading stretches -/

/-- What is placed along all tokens of a text, but for a shift, is read from it, but for the
shift. -/
theorem exists_parse_of_shifted {piece : String} {tokens own : List Token} {distance : Nat}
    {type : TypeExpr} (lexed : Token.lex piece = .ok tokens)
    (shifted : tokens.map (Token.shifted distance) = own) (placed : Placed maxDepth own type) :
    ∃ inner, parse piece = .ok inner ∧ inner.shifted distance = type := by
  -- The tokens of the piece have the same kinds, so that a tree is placed along them.
  have kinds : tokens.map Token.kind = own.map Token.kind := by
    rw [← shifted, List.map_map]
    rfl
  obtain ⟨derived, within⟩ := placed.spelled
  obtain ⟨inner, placedInner, -⟩ := type_places derived within kinds
  refine ⟨inner, parse_eq_ok_iff_placed.mpr ⟨tokens, lexed, placedInner⟩, ?_⟩
  have moved : Placed maxDepth (tokens.map _) (inner.shifted distance) := placedInner.shifted
  rw [shifted] at moved
  exact moved.unique placed

/-- In an expression that was read, the span of each expression within it marks out a piece of the
text, from which the same expression is read, but for the shift. The spans of what it is made of lie
inside, one behind the other. -/
theorem spans_of_parse {text : String} {type : TypeExpr} (read : parse text = .ok type) :
    ∀ node ∈ type.nodes,
      (∃ piece, node.span.Cuts text piece ∧
        ∃ inner, parse piece = .ok inner ∧ inner.shifted node.span.start = node) ∧
      (∀ child ∈ node.children,
        node.span.start ≤ child.span.start ∧ child.span.stop ≤ node.span.stop) ∧
      node.children.Pairwise fun left right => left.span.stop ≤ right.span.start := by
  obtain ⟨tokens, lexed, everywhere⟩ := exists_placed_of_parse read
  intro node mem
  obtain ⟨before, own, behind, same, placed⟩ := everywhere node mem
  rw [same] at lexed
  have ordered := (Scans.of_scan lexed).inOrder.1.of_append.2.of_append.1
  have covers := placed.covers ordered
  refine ⟨?stretch, ?inside, ?siblings⟩
  case stretch =>
    obtain ⟨piece, cuts, tokens, lexed, shifted⟩ := exists_stretch lexed covers
    exact ⟨piece, cuts, exists_parse_of_shifted lexed shifted placed⟩
  case inside =>
    intro child isChild
    obtain ⟨before', own', behind', rfl, placedChild⟩ := placed.holds.exists_of_mem isChild
    have childCovers := placedChild.covers ordered.of_append.2.of_append.1
    exact covers.contains ordered childCovers (by simp)
  case siblings => exact placed.holds.pairwise (fun _ _ => Placed.covers) ordered

/-- The type written `(Ré, B< C >[ ] x)`. -/
def spacedPair : TypeExpr :=
  let inner : TypeExpr := .named false [.mk "C" [] ⟨9, 10⟩] ⟨9, 10⟩
  let generic : TypeExpr := .named false [.mk "B" [inner] ⟨6, 12⟩] ⟨6, 12⟩
  .tuple [.mk (.named false [.mk "Ré" [] ⟨1, 4⟩] ⟨1, 4⟩) none,
    .mk (.array generic 0 ⟨6, 15⟩) (some ("x", ⟨16, 17⟩))] ⟨0, 18⟩

theorem spans_of_parse_spacedPair :
    parse "(Ré, B< C >[ ] x)" = .ok spacedPair ∧ spacedPair.children.map span = [⟨1, 4⟩, ⟨6, 15⟩] ∧
      ∀ child ∈ spacedPair.children, ∃ piece, child.span.Cuts "(Ré, B< C >[ ] x)" piece ∧
        ∃ inner, parse piece = .ok inner ∧ inner.shifted child.span.start = child := by
  have read : parse "(Ré, B< C >[ ] x)" = .ok spacedPair := by with_unfolding_all rfl
  refine ⟨read, rfl, ?_⟩
  intro child isChild
  have mem : child ∈ spacedPair.nodes :=
    mem_nodes.mpr (.inr ⟨child, isChild, mem_nodes.mpr (.inl rfl)⟩)
  exact (spans_of_parse read child mem).1

end ConversionSynthesis
