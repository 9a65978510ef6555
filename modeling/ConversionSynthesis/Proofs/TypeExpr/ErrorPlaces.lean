import ConversionSynthesis.Proofs.TypeExpr.BreakingOff
import ConversionSynthesis.Proofs.TypeExpr.Depth
import ConversionSynthesis.Proofs.TypeExpr.Stretches

/-! # Where a syntax error points

An error of the parser points at the first token that no sentence of the grammar can have there, or
at the end of the text if no sentence ends there. What stands before that place starts a sentence.
-/

namespace ConversionSynthesis

open Grammar TypeExpr

/-! ## Sentences -/

theorem TypeExpr.Within.of_mem_children {cap : Nat} {type child : TypeExpr}
    (within : Within cap type) (isChild : child ∈ type.children) : Within cap child := by
  cases cap with
  | zero => exact absurd within (not_within_zero type)
  | succ cap =>
      obtain ⟨paired, capped, parts⟩ := within_succ.mp within
      have weaken {inner : TypeExpr} (inside : Within cap inner) : Within (cap + 1) inner :=
        ⟨inside.paired, fun level type occurs => .step (inside.capped level type occurs)⟩
      cases type with
      | named | tuple => exact weaken (parts child isChild)
      | nullable inner | array inner =>
          cases List.mem_singleton.mp isChild
          exact within_succ.mpr ⟨paired, Nat.le_of_succ_le capped, parts⟩

theorem TypeExpr.Within.paired_nodes {cap : Nat} {tree : TypeExpr} (within : Within cap tree) :
    tree.Paired := by
  intro elements span mem
  have inside : Within cap (tuple elements span) :=
    forall_mem_nodes (fun _ within _ => within.of_mem_children) tree within _ mem
  exact inside.paired 1 _ (.whole _) elements span rfl

namespace Grammar

/-- Tokens of these kinds spell a type, with two elements or more in every tuple, and nested
however deep. -/
def Sentence (ks : List TokenKind) : Prop :=
  ∃ type, IsType ks type ∧ type.Paired

/-- Some sentence starts with tokens of these kinds. -/
def SentenceStart (ks : List TokenKind) : Prop :=
  ∃ more, Sentence (ks ++ more)

end Grammar

theorem sentence_iff_placed {own : List Token} :
    Sentence (own.map Token.kind) ↔ ∃ levels type, Placed levels own type := by
  constructor
  · intro ⟨tree, derived, paired⟩
    obtain ⟨type, placed, -⟩ :=
      type_places derived (within_of_depth_le paired (Nat.le_refl _)) rfl
    exact ⟨tree.depth, type, placed⟩
  · intro ⟨levels, type, placed⟩
    obtain ⟨derived, within⟩ := placed.spelled
    exact ⟨type.bare, derived, within.paired_nodes⟩

theorem sentenceStart_iff_placed {own : List Token} :
    SentenceStart (own.map Token.kind) ↔
      ∃ more levels type, Placed levels (own ++ more) type := by
  constructor
  · intro ⟨ks, sentence⟩
    have kinds : ks = (ks.map (⟨·, default⟩)).map Token.kind := by
      rw [List.map_map]
      exact (List.map_id ks).symm
    rw [kinds, ← List.map_append] at sentence
    exact ⟨_, sentence_iff_placed.mp sentence⟩
  · intro ⟨more, placed⟩
    refine ⟨more.map Token.kind, ?_⟩
    rw [← List.map_append]
    exact sentence_iff_placed.mpr placed

/-! ## Errors of a text -/

/-- The span has the other one inside. -/
def Span.Contains (span inner : Span) : Prop :=
  span.start ≤ inner.start ∧ inner.stop ≤ span.stop

namespace Marks

variable {size : Nat} {own after : List Token} {next : Token} {span : Span}

theorem isEmpty (marks : Marks size own [] span) : span.isEmpty = true := by
  cases marks
  exact beq_self_eq_true size

/-- The next token is the last one inside the place that is marked. -/
theorem last_inside (marks : Marks size own (next :: after) span)
    (ordered : InOrder (own ++ next :: after)) :
    span.isEmpty = false ∧ span.Contains next.span ∧
      ∀ token ∈ after, ¬ span.Contains token.span := by
  cases marks with
  | token first mem =>
      have behind := ordered.of_append.2
      have wide : next.span.start < next.span.stop := behind.wide next List.mem_cons_self
      have starting : first.span.start ≤ next.span.start := by
        rcases List.mem_append.mp mem with earlier | itself
        · have isWide := ordered.of_append.1.wide first earlier
          have apart := ordered.between earlier List.mem_cons_self
          omega
        · rw [List.mem_singleton.mp itself]
      refine ⟨?_, ⟨starting, Nat.le_refl _⟩, fun token later inside => ?_⟩
      · exact beq_eq_false_iff_ne.mpr (Nat.ne_of_lt (Nat.lt_of_le_of_lt starting wide))
      · have ends : token.span.stop ≤ next.span.stop := inside.2
        have apart := (List.pairwise_cons.mp behind.apart).1 token later
        have isWide := behind.wide token (List.mem_cons_of_mem _ later)
        omega

end Marks

/-- Reading all tokens of a text breaks off at the place of the error: with a token like the next
one there, they are no type of any number of levels. -/
theorem ofTokens_breaks_off {size : Nat} {tokens : List Token} {error : SyntaxError}
    (some : tokens ≠ []) (failed : ofTokens size tokens = .error error) :
    ∃ own rest, tokens = own ++ rest ∧ Marks size own rest error.span ∧
      Starts (Placed (maxDepth + 1)) own ∧
      (error.fault ≠ .tooDeep → ∀ rest', nextKind rest' = nextKind rest →
        ∀ levels type, ¬ Placed levels (own ++ rest') type) := by
  have follows : Follows size (typeAt size maxDepth) _ _ := typeAt_follows maxDepth
  rcases (ofTokens_eq_error some).mp failed with whole | ⟨type, extra, more, read, rfl⟩
  · obtain ⟨own, rest, rfl, marks, starts, refused⟩ := follows.stuck whole
    refine ⟨own, rest, rfl, marks, starts, fun other rest' same levels type placed => ?_⟩
    obtain ⟨error', failed'⟩ := refused other rest' same levels
    obtain ⟨parsed, read, -⟩ := placed.reads (Nat.le_add_right levels maxDepth) size
    cases failed'.symm.trans read
  · obtain ⟨own, rfl, placed, reread⟩ := follows.read read
    refine ⟨own, extra :: more, rfl, .place size own (extra :: more),
      ⟨[], type, by rwa [List.append_nil]⟩, fun _ rest' same levels type' placed' => ?_⟩
    -- The type in front is read once more, and it leaves the token that is left over.
    have whole := placed'.reads (Nat.le_add_right levels maxDepth) size
    obtain ⟨-, rfl⟩ := whole.unique (reread rest' same levels)
    cases same

/-- An error of the parser points at the first token that cannot be there: the last token inside its
place, or the end of the text if its place is empty. What stands before it starts a sentence, and
with it that is no longer so, or no sentence at the end, unless the levels have run out. -/
theorem parse_error_points_at_offending {text : String} {tokens : List Token}
    {error : SyntaxError} (lexed : Token.lex text = .ok tokens) (some : tokens ≠ [])
    (failed : parse text = .error error) :
    (error.span.isEmpty = true →
      SentenceStart (tokens.map Token.kind) ∧
        (error.fault ≠ .tooDeep → ¬ Sentence (tokens.map Token.kind))) ∧
    (error.span.isEmpty = false →
      ∃ before offending after, tokens = before ++ offending :: after ∧
        error.span.Contains offending.span ∧
        (∀ token ∈ after, ¬ error.span.Contains token.span) ∧
        SentenceStart (before.map Token.kind) ∧
        (error.fault ≠ .tooDeep →
          ¬ SentenceStart ((before ++ [offending]).map Token.kind))) := by
  have whole : ofTokens text.utf8ByteSize tokens = .error error := by
    rw [parse, lexed] at failed
    exact failed
  obtain ⟨own, rest, rfl, marks, ⟨more, type, placed⟩, refused⟩ :=
    ofTokens_breaks_off some whole
  have ordered := (Scans.of_scan lexed).inOrder.1
  have starts : SentenceStart (own.map Token.kind) :=
    sentenceStart_iff_placed.mpr ⟨more, _, type, placed⟩
  cases rest with
  | nil =>
      rw [List.append_nil]
      refine ⟨fun _ => ⟨starts, fun other sentence => ?_⟩, fun filled => ?_⟩
      · obtain ⟨levels, type, placed⟩ := sentence_iff_placed.mp sentence
        exact refused other [] rfl levels type (by rwa [List.append_nil])
      · cases marks.isEmpty.symm.trans filled
  | cons next after =>
      obtain ⟨filled, inside, outside⟩ := marks.last_inside ordered
      refine ⟨fun isEmpty => ?_, fun _ =>
        ⟨own, next, after, rfl, inside, outside, starts, fun other starting => ?_⟩⟩
      · cases filled.symm.trans isEmpty
      · obtain ⟨more', levels, type, placed⟩ := sentenceStart_iff_placed.mp starting
        rw [List.append_assoc] at placed
        exact refused other (next :: more') rfl levels type placed

/-- The error of `(A)` has the whole tuple for its place. The parenthesis that closes it is the
token that cannot be there: another element could still follow the first one. -/
theorem parse_loneElement_points_at_close :
    parse "(A)" = .error ⟨.loneElement, ⟨0, 3⟩⟩ ∧
      SentenceStart [.openParen, .ident "A"] ∧
      ¬ SentenceStart [.openParen, .ident "A", .closeParen] := by
  have letters : "(A)".toList = ['(', 'A', ')'] := rfl
  have lexed : Token.lex "(A)" =
      .ok [⟨.openParen, ⟨0, 1⟩⟩, ⟨.ident "A", ⟨1, 2⟩⟩, ⟨.closeParen, ⟨2, 3⟩⟩] := by
    unfold Token.lex
    rw [letters]
    simp +decide [Token.scan, TokenKind.ofChar?, Except.map]
  have readElements : Reads (separated .comma (element (typeAt 3 127)))
      [⟨.ident "A", ⟨1, 2⟩⟩, ⟨.closeParen, ⟨2, 3⟩⟩]
      [.mk (.named false [.mk "A" [] ⟨1, 2⟩] ⟨1, 2⟩) none] [⟨.closeParen, ⟨2, 3⟩⟩] := by
    have readType : Reads (typeAt 3 127) ([⟨.ident "A", ⟨1, 2⟩⟩] ++ [⟨.closeParen, ⟨2, 3⟩⟩]) _
        [⟨.closeParen, ⟨2, 3⟩⟩] :=
      typeAt_gives (placed_word 126 "A" ⟨1, 2⟩) (Nat.le_refl _) (stops_cons.mpr rfl)
    have unlabelled (label : String) :
        nextKind [⟨.closeParen, ⟨2, 3⟩⟩] ≠ some (.ident label) := by simp [nextKind]
    have readElement := reads_element.mpr
      (.inl ⟨_, rfl, readType, fun label => nextKind_ne_some.mp (unlabelled label)⟩)
    exact reads_separated.mpr (.inl ⟨_, rfl, readElement, stops_cons.mpr rfl⟩)
  have failedType : typeAt 3 (127 + 1)
      [⟨.openParen, ⟨0, 1⟩⟩, ⟨.ident "A", ⟨1, 2⟩⟩, ⟨.closeParen, ⟨2, 3⟩⟩] =
        .error ⟨.loneElement, ⟨0, 3⟩⟩ :=
    typeAt_succ_eq_error.mpr (.inl (primary_eq_error.mpr (.inl ⟨_, _, rfl,
      tupleFrom_eq_error.mpr (.inr ⟨by decide, .inr ⟨_, _, readElements,
        .inl ⟨_, [], rfl, Nat.one_lt_two, rfl⟩⟩⟩)⟩)))
  have failed : parse "(A)" = .error ⟨.loneElement, ⟨0, 3⟩⟩ := by
    rw [parse, lexed]
    exact (ofTokens_eq_error (List.cons_ne_nil _ _)).mpr (.inl failedType)
  have points := parse_error_points_at_offending lexed (List.cons_ne_nil _ _) failed
  obtain ⟨before, offending, after, split, -, outside, starts, dead⟩ := points.2 rfl
  -- The last token of the text is inside the place, so no token is behind the offending one.
  rcases before with _ | ⟨first, _ | ⟨second, _ | ⟨third, before⟩⟩⟩
  · cases split
    exact absurd ⟨Nat.zero_le _, Nat.le_refl _⟩ (outside _ (.tail _ (.head _)))
  · cases split
    exact absurd ⟨Nat.zero_le _, Nat.le_refl _⟩ (outside _ (.head _))
  · cases split
    exact ⟨failed, starts, dead (by decide)⟩
  · simp at split

end ConversionSynthesis
