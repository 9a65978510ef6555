import ConversionSynthesis.Proofs.TypeExpr.Lookahead

/-! # Where reading breaks off

A function of the parser that fails has taken tokens that can be completed to what it is to read,
and the place of its error marks what is behind them. With a token like the next one there it fails
whatever comes then, and so it does with more levels of nesting; only the error of running out of
levels says nothing of that token.
-/

namespace ConversionSynthesis

open Grammar TypeExpr

/-! ## Places of errors -/

/-- The place is marked behind the tokens taken: it ends with the next one, and starts with that or
with one of the tokens taken; or it is the end of the text, `size` bytes long. -/
inductive Marks (size : Nat) (own : List Token) : List Token → Span → Prop
  | ended : Marks size own [] ⟨size, size⟩
  | token {next more} (first : Token) : first ∈ own ++ [next] →
      Marks size own (next :: more) ⟨first.span.start, next.span.stop⟩

theorem Marks.place (size : Nat) (own rest : List Token) :
    Marks size own rest (TypeExpr.place size rest) := by
  cases rest with
  | nil => exact .ended
  | cons next more => exact .token next (List.mem_append_right _ List.mem_cons_self)

theorem Marks.behind {size : Nat} {own rest : List Token} {span : Span} (front : List Token)
    (marks : Marks size own rest span) : Marks size (front ++ own) rest span := by
  cases marks with
  | ended => exact .ended
  | token first mem =>
      refine .token first ?_
      rw [List.append_assoc]
      exact List.mem_append_right _ mem

/-- Reading breaks off with the error: what was taken so far is viable, and the place of the error
marks what is behind. With a token like the next one there the tokens are refused, whatever comes
then and with however many levels of nesting more; but of that token nothing is said if it is the
levels that have run out. -/
def Stuck (size : Nat) (viable : List Token → Prop)
    (refuses : Nat → List Token → SyntaxError → Prop) (input : List Token)
    (error : SyntaxError) : Prop :=
  ∃ own rest, input = own ++ rest ∧ Marks size own rest error.span ∧ viable own ∧
    (error.fault ≠ .tooDeep → ∀ rest', nextKind rest' = nextKind rest →
      ∀ above, ∃ error', refuses above (own ++ rest') error')

theorem Stuck.behind {size : Nat} {viable viable' : List Token → Prop}
    {refuses refuses' : Nat → List Token → SyntaxError → Prop} {tail : List Token}
    {error : SyntaxError} (front : List Token) (stuck : Stuck size viable refuses tail error)
    (completes : ∀ own, viable own → viable' (front ++ own))
    (refuse : ∀ tail', nextKind tail' = nextKind tail → ∀ above error',
      refuses above tail' error' → refuses' above (front ++ tail') error') :
    Stuck size viable' refuses' (front ++ tail) error := by
  obtain ⟨own, rest, rfl, marks, isViable, refused⟩ := stuck
  refine ⟨front ++ own, rest, by rw [List.append_assoc], marks.behind front, completes own isViable,
    fun other rest' same above => ?_⟩
  obtain ⟨error', refused'⟩ := refused other rest' same above
  rw [List.append_assoc]
  exact ⟨error', refuse _ (nextKind_append own same) above error' refused'⟩

/-- The tokens start something of the kind. -/
def Starts {α : Type} (placed : List Token → α → Prop) (own : List Token) : Prop :=
  ∃ more x, placed (own ++ more) x

/-- Parsers by how many levels of nesting more they go through. -/
abbrev Parsers (α : Type) :=
  Nat → TokenParser α

def Parsers.Refuse {α : Type} (parsers : Parsers α) (above : Nat) (input : List Token)
    (error : SyntaxError) : Prop :=
  parsers above input = .error error

/-- A parser takes what is placed along tokens, the parsers with more levels take it as well, and
where this one breaks off they refuse the tokens. -/
structure Follows {α : Type} (size : Nat) (parser : TokenParser α) (parsers : Parsers α)
    (placed : List Token → α → Prop) : Prop where
  takes : Takes parser placed
  rereads : ∀ above, Rereads parser (parsers above)
  stuck : ∀ ⦃input error⦄, parser input = .error error →
    Stuck size (Starts placed) parsers.Refuse input error

theorem Follows.read {α : Type} {size : Nat} {parser : TokenParser α} {parsers : Parsers α}
    {placed : List Token → α → Prop} (follows : Follows size parser parsers placed)
    {input rest : List Token} {value : α} (read : Reads parser input value rest) :
    ∃ own, input = own ++ rest ∧ placed own value ∧ ∀ rest', nextKind rest' = nextKind rest →
      ∀ above, Reads (parsers above) (own ++ rest') value rest' := by
  obtain ⟨own, rfl, isPlaced⟩ := follows.takes read
  refine ⟨own, rfl, isPlaced, fun rest' same above => ?_⟩
  obtain ⟨own', split, reread⟩ := follows.rereads above read
  cases List.append_cancel_right split
  exact reread rest' same

/-! ## Each function of the parser -/

namespace TypeExpr

variable {α : Type} {size : Nat} {inner : TokenParser TypeExpr} {inners : Parsers TypeExpr}
  {part : List Token → TypeExpr → Prop}

theorem separated_follows {separator : TokenKind} {item : TokenParser α} {items : Parsers α}
    {placed : List Token → α → Prop} (follows : Follows size item items placed) :
    Follows size (separated separator item) (fun above => separated separator (items above))
      (Listed separator placed) where
  takes := separated_takes follows.takes
  rereads above := separated_rereads (follows.rereads above)
  stuck input error failed := by
    -- The items before the one that fails are read, and each of them takes a token at least.
    induction length : input.length using Nat.strongRecOn generalizing input with
    | ind _ ih =>
        rcases separated_eq_error.mp failed with first |
          ⟨value, ⟨kind, place⟩, more, readFirst, rfl, others⟩
        · refine (follows.stuck first).behind [] ?_ ?_
          · intro own ⟨more, x, isPlaced⟩
            exact ⟨more, [x], .one isPlaced⟩
          · intro tail _ above error' failed'
            exact separated_eq_error.mpr (.inl failed')
        · obtain ⟨own, rfl, isPlaced, reread⟩ := follows.read readFirst
          have shorter : more.length < (own ++ ⟨kind, place⟩ :: more).length := by
            rw [List.length_append, List.length_cons]
            omega
          have stuck := ih more.length (length ▸ shorter) _ others rfl
          have split (tail : List Token) :
              own ++ ⟨kind, place⟩ :: tail = (own ++ [⟨kind, place⟩]) ++ tail := by simp
          rw [split]
          refine stuck.behind _ ?_ ?_
          · intro own' ⟨more', xs, listed⟩
            refine ⟨more', value :: xs, ?_⟩
            rw [← split, List.append_assoc]
            exact .more place isPlaced listed
          · intro tail _ above error' failed'
            rw [← split]
            exact separated_eq_error.mpr
              (.inr ⟨value, _, tail, reread (_ :: tail) rfl above, rfl, failed'⟩)

section

variable (follows : Follows size inner inners part)

include follows

theorem segment_follows :
    Follows size (segment size inner) (fun above => segment size (inners above))
      (PlacedSegment part) where
  takes := segment_takes follows.takes
  rereads above := segment_rereads (follows.rereads above)
  stuck input error failed := by
    have list : Follows size (separated .comma inner)
        (fun above => separated .comma (inners above)) (Listed .comma part) :=
      separated_follows follows
    rcases segment_eq_error.mp failed with ⟨unnamed, rfl⟩ |
      ⟨name, span, opening, more, rfl, arguments | ⟨arguments, other, read, missing, rfl⟩⟩
    · refine ⟨[], input, rfl, .place _ _ _, ⟨_, _, .plain "T" default⟩, fun _ rest' same _ => ?_⟩
      exact ⟨_, segment_eq_error.mpr (.inl ⟨by rwa [List.nil_append, same], rfl⟩)⟩
    · refine (list.stuck arguments).behind [⟨.ident name, span⟩, ⟨.openAngle, opening⟩] ?_ ?_
      · intro own ⟨more', arguments, listed⟩
        have placed := PlacedSegment.generic name span opening default listed
        rw [List.append_assoc] at placed
        exact ⟨_, _, placed⟩
      · intro tail _ above error' failed'
        exact segment_eq_error.mpr
          (.inr ⟨name, span, opening, tail, rfl, .inl failed'⟩)
    · obtain ⟨own, rfl, listed, reread⟩ := list.read read
      refine ⟨⟨.ident name, span⟩ :: ⟨.openAngle, opening⟩ :: own, other, rfl, .place _ _ _,
        ⟨_, _, .generic name span opening default listed⟩, fun _ rest' same above => ?_⟩
      exact ⟨_, segment_eq_error.mpr (.inr ⟨name, span, opening, own ++ rest', rfl,
        .inr ⟨arguments, rest', reread rest' same above, by rwa [same], rfl⟩⟩)⟩

theorem path_follows :
    Follows size (path size inner) (fun above => path size (inners above))
      (Listed .dot (PlacedSegment part)) :=
  separated_follows (segment_follows follows)

end

theorem path_word_ne_error (name : String) (place : Span) (error : SyntaxError) :
    path size inner [⟨.ident name, place⟩] ≠ .error error := by
  intro failed
  have readSegment : Reads (segment size inner) [⟨.ident name, place⟩] (.mk name [] place) [] :=
    reads_segment.mpr (.inl ⟨name, place, rfl, rfl, stops_nil _⟩)
  have readPath : Reads (path size inner) [⟨.ident name, place⟩] [.mk name [] place] [] :=
    reads_separated.mpr (.inl ⟨_, rfl, readSegment, stops_nil _⟩)
  obtain ⟨parsed, read, -⟩ := readPath
  cases failed.symm.trans read

section

variable (follows : Follows size inner inners part)

include follows

theorem name_follows :
    Follows size (name size inner) (fun above => name size (inners above))
      (PlacedPrimary part) where
  takes := name_takes follows.takes
  rereads above := name_rereads (follows.rereads above)
  stuck input error failed := by
    have list := path_follows follows
    rcases name_eq_error.mp failed with ⟨root, colons, more, rfl, segments⟩ | ⟨plain, segments⟩
    · refine (list.stuck segments).behind [_, _] ?_ ?_
      · intro own ⟨more', segments, listed⟩
        exact ⟨more', _, .global root colons listed⟩
      · intro tail _ above error' failed'
        exact name_eq_error.mpr (.inl ⟨root, colons, tail, rfl, failed'⟩)
    · obtain ⟨own, rest, rfl, marks, ⟨more, values, listed⟩, refused⟩ := list.stuck segments
      refine ⟨own, rest, rfl, marks, ?_, fun other rest' same above => ?_⟩
      · obtain ⟨first, others, split⟩ := List.exists_cons_of_ne_nil
          (listed.ne_nil fun _ _ => PlacedSegment.ne_nil)
        rw [split] at listed
        have placed := PlacedPrimary.path first listed
        rw [← split] at placed
        exact ⟨more, _, placed⟩
      · obtain ⟨error', failed'⟩ := refused other rest' same above
        refine ⟨error', name_eq_error.mpr (.inr ⟨fun starts => ?_, failed'⟩)⟩
        -- Nothing breaks off at a name; so a token was taken, and the next one is no `::`.
        cases own with
        | nil =>
            obtain ⟨root, colons, behind, rfl⟩ := starts
            obtain ⟨error', failed'⟩ := refused other [⟨.ident "global", root⟩] same above
            exact path_word_ne_error _ _ _ failed'
        | cons first own => exact plain (starts.of_nextKind (List.cons_ne_nil _ _) same)

theorem element_follows :
    Follows size (element inner) (fun above => element (inners above)) (PlacedElement part) where
  takes := element_takes follows.takes
  rereads above := element_rereads (follows.rereads above)
  stuck input error failed := by
    refine (follows.stuck (element_eq_error.mp failed)).behind [] ?_ ?_
    · intro own ⟨more, type, placed⟩
      exact ⟨more, _, .plain placed⟩
    · intro tail _ above error' failed'
      exact element_eq_error.mpr failed'

end

/-- Elements are completed to a tuple by one element more. -/
theorem starts_tuple {own word : List Token} {type : TypeExpr} (opening : Span)
    (starts : Starts (Listed .comma (PlacedElement part)) own) (some : part word type) :
    Starts (PlacedPrimary part) (⟨.openParen, opening⟩ :: own) := by
  obtain ⟨more, elements, listed⟩ := starts
  have wide : 2 ≤ (elements ++ [Element.mk type none]).length := by
    have one := List.length_pos_iff.mpr listed.items_ne_nil
    rw [List.length_append, List.length_singleton]
    omega
  have placed := PlacedPrimary.tuple opening default (listed.concat default (.plain some)) wide
  rw [List.append_assoc, List.append_assoc] at placed
  exact ⟨_, _, placed⟩

theorem tuple_stuck {word : List Token} {type : TypeExpr} (some : part word type)
    (follows : Follows size inner inners part) {opening : Span} {input : List Token}
    {error : SyntaxError} (failed : tupleFrom size inner opening input = .error error) :
    Stuck size (Starts (PlacedPrimary part))
      (Parsers.Refuse fun above => primary size (inners above))
      (⟨.openParen, opening⟩ :: input) error := by
  have list : Follows size (separated .comma (element inner))
      (fun above => separated .comma (element (inners above)))
      (Listed .comma (PlacedElement part)) :=
    separated_follows (element_follows follows)
  have refuses {above : Nat} {input : List Token} {error' : SyntaxError}
      (failed' : tupleFrom size (inners above) opening input = .error error') :
      primary size (inners above) (⟨.openParen, opening⟩ :: input) = .error error' :=
    primary_eq_error.mpr (.inl ⟨opening, input, rfl, failed'⟩)
  -- There is no element, or one breaks off, or what was read is no tuple: it is one element alone,
  -- or nothing closes it.
  rcases tupleFrom_eq_error.mp failed with ⟨close, more, rfl, rfl⟩ |
    ⟨started, elements | ⟨elements, other, read, behind⟩⟩
  · refine ⟨[⟨.openParen, opening⟩], _, rfl, .token ⟨.openParen, opening⟩ List.mem_cons_self,
      starts_tuple opening ⟨word, _, .one (.plain some)⟩ some, fun _ rest' same above => ?_⟩
    obtain ⟨close', more', rfl⟩ := nextKind_eq_some.mp same
    exact ⟨_, refuses (tupleFrom_eq_error.mpr (.inl ⟨close', more', rfl, rfl⟩))⟩
  · refine (list.stuck elements).behind [⟨.openParen, opening⟩] ?_ ?_
    · intro own starts
      exact starts_tuple opening starts some
    · intro tail same above error' failed'
      have started' : nextKind tail ≠ .some .closeParen := by rwa [same]
      exact refuses (tupleFrom_eq_error.mpr (.inr ⟨started', .inl failed'⟩))
  · obtain ⟨own, rfl, listed, reread⟩ := list.read read
    have viable : Starts (PlacedPrimary part) (⟨.openParen, opening⟩ :: own) :=
      starts_tuple opening ⟨[], elements, by rwa [List.append_nil]⟩ some
    have started' {rest' : List Token} (same : nextKind rest' = nextKind other) :
        nextKind (own ++ rest') ≠ .some .closeParen := by rwa [nextKind_append own same]
    rcases behind with ⟨close, after, rfl, narrow, rfl⟩ | ⟨missing, rfl⟩
    · refine ⟨⟨.openParen, opening⟩ :: own, _, rfl,
        .token ⟨.openParen, opening⟩ List.mem_cons_self, viable, fun _ rest' same above => ?_⟩
      obtain ⟨close', after', rfl⟩ := nextKind_eq_some.mp same
      exact ⟨_, refuses (tupleFrom_eq_error.mpr (.inr ⟨started' same, .inr
        ⟨elements, _, reread _ same above, .inl ⟨close', after', rfl, narrow, rfl⟩⟩⟩))⟩
    · refine ⟨⟨.openParen, opening⟩ :: own, other, rfl, .place _ _ _, viable,
        fun _ rest' same above => ?_⟩
      exact ⟨_, refuses (tupleFrom_eq_error.mpr (.inr ⟨started' same, .inr
        ⟨elements, rest', reread rest' same above, .inr ⟨by rwa [same], rfl⟩⟩⟩))⟩

theorem primary_follows {word : List Token} {type : TypeExpr} (some : part word type)
    (follows : Follows size inner inners part) :
    Follows size (primary size inner) (fun above => primary size (inners above))
      (PlacedPrimary part) where
  takes := primary_takes follows.takes
  rereads above := primary_rereads (follows.rereads above)
  stuck input error failed := by
    rcases primary_eq_error.mp failed with ⟨opening, more, rfl, tuple⟩ | ⟨started, name⟩
    · exact tuple_stuck some follows tuple
    · refine ((name_follows follows).stuck name).behind [] (fun _ => id) ?_
      intro tail same above error' failed'
      exact primary_eq_error.mpr (.inr ⟨by rwa [List.nil_append, same], failed'⟩)

theorem suffixes_stuck {room : Nat} {type : TypeExpr} {input : List Token} {error : SyntaxError}
    (failed : suffixed size room type input = .error error) :
    Stuck size
      (fun own => ∃ more whole, PlacedSuffixes (own ++ more) type whole ∧
        whole.suffixCount ≤ type.suffixCount + room)
      (fun above input error => suffixed size (above + room) type input = .error error)
      input error := by
  -- Each suffix takes one from the room, and parsers with more room take the same suffixes.
  induction room generalizing type input with
  | zero =>
      rcases suffixed_eq_error.mp failed with ⟨-, token, more, rfl, -, rfl⟩ | ⟨_, impossible, _⟩
      · refine ⟨[], _, rfl, .place size [] (token :: more),
          ⟨[], type, .none type, Nat.le_refl _⟩, fun other => ?_⟩
        exact absurd rfl other
      · cases impossible
  | succ room ih =>
      rcases suffixed_eq_error.mp failed with ⟨impossible, _⟩ |
        ⟨_, same, ⟨mark, inner, more, rfl, suffix, others⟩ |
          ⟨opening, commas, other, rfl, free, missing, rfl⟩⟩
      · cases impossible
      · cases same
        have counted := suffix.suffixCount
        refine (ih others).behind mark ?_ ?_
        · intro own ⟨more', whole, suffixes, capped⟩
          refine ⟨more', whole, ?_, by omega⟩
          rw [List.append_assoc]
          exact .more suffix suffixes
        · intro tail _ above error' failed'
          exact suffixed_eq_error.mpr
            (.inr ⟨above + room, rfl, .inl ⟨mark, inner, tail, rfl, suffix, failed'⟩⟩)
      · have closed := PlacedSuffix.brackets type opening default commas
        refine ⟨⟨.openBracket, opening⟩ :: commas.map (⟨.comma, ·⟩), other, rfl, .place _ _ _,
          ⟨[⟨.closeBracket, default⟩], _, closed.alone, ?_⟩, fun _ rest' same above => ?_⟩
        · rw [closed.suffixCount]
          omega
        · exact ⟨_, suffixed_eq_error.mpr (.inr ⟨above + room, rfl, .inr
            ⟨opening, commas, rest', rfl, by rwa [same], by rwa [same], rfl⟩⟩)⟩

theorem typeAt_takes_mono (levels : Nat) : Takes (typeAt size levels) (Placed (levels + 1)) := by
  intro input value rest read
  obtain ⟨own, rfl, placed⟩ := typeAt_takes levels read
  exact ⟨own, rfl, placed.mono (Nat.le_succ levels)⟩

theorem placed_word (levels : Nat) (name : String) (place : Span) :
    Placed (levels + 1) [⟨.ident name, place⟩]
      (.named false [.mk name [] place] ⟨place.start, place.stop⟩) :=
  ⟨_, [], _, rfl, .path _ (.one (.plain name place)), .none _, Nat.zero_le _⟩

/-- With one level more than the parser has, what it took so far can be completed. -/
theorem typeAt_follows (levels : Nat) :
    Follows size (typeAt size levels) (fun above => typeAt size (above + levels))
      (Placed (levels + 1)) := by
  refine ⟨typeAt_takes_mono levels, fun above => typeAt_rereads (Nat.le_add_left _ _), ?_⟩
  induction levels with
  | zero =>
      intro input error failed
      cases failed
      refine ⟨[], input, rfl, .place _ _ _, ⟨_, _, placed_word 0 "T" default⟩, fun other => ?_⟩
      exact absurd rfl other
  | succ levels ih =>
      intro input error failed
      have inside : Follows size (typeAt size levels) (fun above => typeAt size (above + levels))
          (Placed (levels + 1)) :=
        ⟨typeAt_takes_mono levels, fun above => typeAt_rereads (Nat.le_add_left _ _), ih⟩
      have head := primary_follows (placed_word levels "T" default) inside
      rcases typeAt_succ_eq_error.mp failed with first | ⟨type, more, readHead, suffixes⟩
      · refine (head.stuck first).behind [] ?_ ?_
        · intro own ⟨more, type, placed⟩
          refine ⟨more, type, own ++ more, [], type, by simp, placed, .none type, ?_⟩
          rw [placed.suffixCount]
          exact Nat.zero_le _
        · intro tail _ above error' failed'
          exact typeAt_succ_eq_error.mpr (.inl failed')
      · obtain ⟨front, rfl, placed, reread⟩ := head.read readHead
        refine (suffixes_stuck suffixes).behind front ?_ ?_
        · intro own ⟨more', whole, suffixes, capped⟩
          rw [placed.suffixCount] at capped
          exact ⟨more', whole, front, own ++ more', type, by rw [List.append_assoc], placed,
            suffixes, by omega⟩
        · intro tail same above error' failed'
          exact typeAt_succ_eq_error.mpr
            (.inr ⟨type, tail, reread tail same above, failed'⟩)

end TypeExpr

end ConversionSynthesis
