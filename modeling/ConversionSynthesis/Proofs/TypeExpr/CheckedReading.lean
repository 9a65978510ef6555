import ConversionSynthesis.Proofs.TypeExpr.CheckedParser
import ConversionSynthesis.Proofs.TypeExpr.Stretches

/-! # Checked reading goes as reading does

Each function of the machine follows the function of the parser of the same name: from a cursor
between two tokens it comes to a value or an error, the same as the parser, and stops between two
tokens again, at the same depth of nesting. So no operation on the way goes wrong.
-/

namespace ConversionSynthesis.Checked

open Grammar TypeExpr Cursor Walk Step

/-! ## Where steps end -/

/-- The step comes to the result, and has taken tokens so that the rest is left. -/
def Ends {α : Type} (size depth : Nat) (step : Step α) (taken input : List Token)
    (result : Except SyntaxError α) (rest : List Token) : Prop :=
  ∃ own, input = own ++ rest ∧
    step (between size depth taken input) = some (result, between size depth (taken ++ own) rest)

section

variable {α β : Type} {size depth : Nat} {taken input rest : List Token}

theorem Ends.stays {step : Step α} {result : Except SyntaxError α}
    (ran : step (between size depth taken input) = some (result, between size depth taken input)) :
    Ends size depth step taken input result input :=
  ⟨[], rfl, by rwa [List.append_nil]⟩

theorem Ends.looking {step further : Step α} {result : Except SyntaxError α}
    (ran : step (between size depth taken input) = further (between size depth taken input))
    (ends : Ends size depth further taken input result rest) :
    Ends size depth step taken input result rest := by
  obtain ⟨own, split, ended⟩ := ends
  exact ⟨own, split, ran.trans ended⟩

theorem Ends.behind {step further : Step α} {result : Except SyntaxError α} (front : List Token)
    {tail : List Token} (ends : Ends size depth further (taken ++ front) tail result rest)
    (ran : step (between size depth taken (front ++ tail)) =
      further (between size depth (taken ++ front) tail)) :
    Ends size depth step taken (front ++ tail) result rest := by
  obtain ⟨own, rfl, ended⟩ := ends
  refine ⟨front ++ own, by rw [List.append_assoc], ?_⟩
  rw [ran, ended, List.append_assoc]

theorem Ends.bind {first : Step α} {next : α → Step β} {x : α} {middle : List Token}
    {result : Except SyntaxError β} (ends : Ends size depth first taken input (.ok x) middle)
    (further : ∀ own, input = own ++ middle →
      Ends size depth (next x) (taken ++ own) middle result rest) :
    Ends size depth (first >>= next) taken input result rest := by
  obtain ⟨own, rfl, ran⟩ := ends
  exact (further own rfl).behind own (bind_ok ran)

theorem Ends.bind_error {first : Step α} {error : SyntaxError} (next : α → Step β)
    (ends : Ends size depth first taken input (.error error) rest) :
    Ends size depth (first >>= next) taken input (.error error) rest := by
  obtain ⟨own, rfl, ran⟩ := ends
  exact ⟨own, rfl, Step.bind_error ran⟩

/-- From any place, the step reads what the parser reads, and fails where it fails. -/
structure Mirrors (size depth : Nat) (step : Step α) (parser : TokenParser α) : Prop where
  reads : ∀ ⦃input value rest⦄, Reads parser input value rest →
    ∀ taken, Ends size depth step taken input (.ok value) rest
  fails : ∀ ⦃input error⦄, parser input = .error error →
    ∀ taken, ∃ rest, Ends size depth step taken input (.error error) rest

theorem nextKind_ne_of_stops {continues : TokenKind → Bool} {k : TokenKind}
    (stops : Stops continues (rest.map Token.kind)) (go : continues k = true) :
    nextKind rest ≠ some k := by
  intro next
  obtain ⟨place, more, rfl⟩ := nextKind_eq_some.mp next
  rw [stops_cons.mp stops] at go
  cases go

/-! ## Lists -/

section

variable {separator : TokenKind} {item : Step α} {parser : TokenParser α}
  (mirrors : Mirrors size depth item parser)

include mirrors

/-! Each item takes a token at least, so that there are turns left for the others. -/

theorem listedIn_reads {turns : Nat} {values : List α} (enough : input.length < turns)
    (read : Reads (separated separator parser) input values rest) (taken : List Token) :
    Ends size depth (listedIn separator item turns) taken input (.ok values) rest := by
  induction turns generalizing input values taken with
  | zero => exact absurd enough (Nat.not_lt_zero _)
  | succ turns ih =>
      rcases reads_separated.mp read with ⟨first, rfl, readFirst, stops⟩ |
        ⟨first, ⟨kind, place⟩, more, others, rfl, readFirst, rfl, readOthers⟩
      · refine (mirrors.reads readFirst taken).bind fun own _ => .stays ?_
        rw [lift_takes_between_of_ne (nextKind_ne_of_stops stops (beq_self_eq_true _))]
        rfl
      · have fewer : more.length < turns :=
          Nat.lt_of_succ_lt (Nat.lt_of_lt_of_le readFirst.shorter (Nat.le_of_lt_succ enough))
        refine (mirrors.reads readFirst taken).bind fun own _ => ?_
        refine Ends.behind [_] ?_ (lift_takes_between place)
        exact (ih fewer readOthers _).bind fun _ _ => .stays rfl

theorem listedIn_fails {turns : Nat} {error : SyntaxError} (enough : input.length < turns)
    (failed : separated separator parser input = .error error) (taken : List Token) :
    ∃ rest, Ends size depth (listedIn separator item turns) taken input (.error error) rest := by
  induction turns generalizing input taken with
  | zero => exact absurd enough (Nat.not_lt_zero _)
  | succ turns ih =>
      rcases separated_eq_error.mp failed with first |
        ⟨value, ⟨kind, place⟩, more, readFirst, rfl, others⟩
      · obtain ⟨rest, ends⟩ := mirrors.fails first taken
        exact ⟨rest, ends.bind_error _⟩
      · have fewer : more.length < turns :=
          Nat.lt_of_succ_lt (Nat.lt_of_lt_of_le readFirst.shorter (Nat.le_of_lt_succ enough))
        obtain ⟨own, rfl, ran⟩ := mirrors.reads readFirst taken
        obtain ⟨rest, ends⟩ := ih fewer others (taken ++ own ++ [⟨kind, place⟩])
        refine ⟨rest, Ends.behind own ?_ (Step.bind_ok ran)⟩
        exact Ends.behind [_] (ends.bind_error _) (lift_takes_between place)

theorem listed_mirrors :
    Mirrors size depth (listed separator item) (separated separator parser) where
  reads _ _ _ read taken :=
    .looking (lift_bind_apply turns_between)
      (listedIn_reads mirrors (Nat.lt_succ_self _) read taken)
  fails _ _ failed taken := by
    obtain ⟨rest, ends⟩ := listedIn_fails mirrors (Nat.lt_succ_self _) failed taken
    exact ⟨rest, .looking (lift_bind_apply turns_between) ends⟩

end

end

section

variable {size depth : Nat} {step : Step TypeExpr} {inner : TokenParser TypeExpr}
  (mirrors : Mirrors size depth step inner)

include mirrors

/-! ## Names -/

theorem segment_mirrors :
    Mirrors size depth (Step.segment step) (TypeExpr.segment size inner) where
  reads input value rest read taken := by
    unfold Step.segment
    rcases reads_segment.mp read with ⟨name, place, rfl, rfl, stops⟩ |
      ⟨name, place, opening, more, arguments, close, rfl, rfl, readArguments⟩
    · refine Ends.behind [_] ?_ (Step.bind_ok (identifier_between name place))
      refine .stays ?_
      dsimp only
      rw [lift_takes_between_of_ne (nextKind_ne_of_stops stops rfl),
        lift_bind_apply previousEnd_between]
      rfl
    · refine Ends.behind [_] ?_ (Step.bind_ok (identifier_between name place))
      refine Ends.behind [_] ?_ (lift_takes_between opening)
      refine ((listed_mirrors mirrors).reads readArguments _).bind fun own _ => ?_
      refine Ends.behind [_] ?_ (Step.bind_ok (expect_between _ close))
      exact .stays (lift_bind_apply previousEnd_between)
  fails input error failed taken := by
    unfold Step.segment
    rcases segment_eq_error.mp failed with ⟨unnamed, rfl⟩ |
      ⟨name, place, opening, more, rfl, arguments | ⟨arguments, other, read, missing, rfl⟩⟩
    · exact ⟨input, (Ends.stays (identifier_between_of_ne unnamed)).bind_error _⟩
    · obtain ⟨rest, ends⟩ := (listed_mirrors mirrors).fails arguments _
      refine ⟨rest, Ends.behind [_] ?_ (Step.bind_ok (identifier_between name place))⟩
      exact Ends.behind [_] (ends.bind_error _) (lift_takes_between opening)
    · refine ⟨other, Ends.behind [_] ?_ (Step.bind_ok (identifier_between name place))⟩
      refine Ends.behind [_] ?_ (lift_takes_between opening)
      refine ((listed_mirrors mirrors).reads read _).bind fun own _ => ?_
      exact (Ends.stays (expect_between_of_ne _ missing)).bind_error _

theorem named_return {part : List Token → TypeExpr → Prop} (takesPart : Takes inner part)
    {input rest : List Token} {parts : List Segment}
    (read : Reads (path size inner) input parts rest) (taken : List Token) (isGlobal : Bool)
    (start limit : Nat) :
    Ends size depth
      (do
        let segments ← listed .dot (Step.segment step)
        return .named isGlobal segments ⟨start, ← previousEnd⟩ : Step TypeExpr)
      taken input (.ok (.named isGlobal parts ⟨start, pathEnd limit parts⟩)) rest := by
  have segments := (listed_mirrors (segment_mirrors mirrors)).reads read taken
  refine segments.bind fun own split => .stays ?_
  obtain ⟨own', split', listed⟩ := separated_takes (segment_takes takesPart) read
  cases List.append_cancel_right (split.symm.trans split')
  exact lift_bind_apply (previousEnd_behind (listed.path_last limit))

theorem named_mirrors {part : List Token → TypeExpr → Prop} (takesPart : Takes inner part) :
    Mirrors size depth (Step.named step) (name size inner) where
  reads input value rest read taken := by
    unfold Step.named
    refine .looking (lift_bind_apply peek_between) ?_
    rcases reads_name.mp read with ⟨segments, root, colons, more, rfl, rfl, readPath⟩ |
      ⟨segments, plain, rfl, readPath⟩
    · refine Ends.behind [_, _] ?_ (lift_bind_apply (takesRoot_between root colons))
      exact named_return mirrors takesPart readPath _ _ _ _
    · refine .looking (lift_bind_apply (takesRoot_between_of_not ?_)) ?_
      · rintro ⟨root, colons, more, same⟩
        exact plain root colons more same
      · exact named_return mirrors takesPart readPath _ _ _ _
  fails input error failed taken := by
    unfold Step.named
    rcases name_eq_error.mp failed with ⟨root, colons, more, rfl, path⟩ | ⟨plain, path⟩
    · obtain ⟨rest, ends⟩ := (listed_mirrors (segment_mirrors mirrors)).fails path _
      refine ⟨rest, .looking (lift_bind_apply peek_between) ?_⟩
      exact Ends.behind [_, _] (ends.bind_error _)
        (lift_bind_apply (takesRoot_between root colons))
    · obtain ⟨rest, ends⟩ := (listed_mirrors (segment_mirrors mirrors)).fails path taken
      refine ⟨rest, .looking (lift_bind_apply peek_between) ?_⟩
      exact .looking (lift_bind_apply (takesRoot_between_of_not plain)) (ends.bind_error _)

/-! ## Tuples -/

theorem element_mirrors : Mirrors size depth (Step.element step) (TypeExpr.element inner) where
  reads input value rest read taken := by
    unfold Step.element
    rcases reads_element.mp read with ⟨type, rfl, readType, unlabelled⟩ |
      ⟨type, label, place, rfl, readType⟩
    · refine (mirrors.reads readType taken).bind fun own _ => ?_
      refine .stays (Step.bind_ok (label?_between_of_ne fun label => ?_))
      exact nextKind_ne_some.mpr (unlabelled label)
    · refine (mirrors.reads readType taken).bind fun own _ => ?_
      exact Ends.behind [_] (.stays rfl) (Step.bind_ok (label?_between label place))
  fails input error failed taken := by
    obtain ⟨rest, ends⟩ := mirrors.fails (element_eq_error.mp failed) taken
    unfold Step.element
    exact ⟨rest, ends.bind_error _⟩

theorem tuple_reads {opening : Span} {input rest : List Token} {value : TypeExpr}
    (read : Reads (tupleFrom size inner opening) input value rest) (taken : List Token) :
    Ends size depth (Step.tuple step) taken (⟨.openParen, opening⟩ :: input) (.ok value) rest := by
  obtain ⟨started, elements, close, rfl, wide, readElements⟩ := reads_tupleFrom.mp read
  unfold Step.tuple
  refine Ends.behind [_] ?_ (lift_bind_apply advance_between)
  refine .looking (lift_check_between_of_ne (nextKind_ne_some.mpr started)) ?_
  refine ((listed_mirrors (element_mirrors mirrors)).reads readElements _).bind fun own _ => ?_
  refine Ends.behind [_] ?_ (Step.bind_ok (expect_between _ close))
  refine .stays ?_
  dsimp only
  rw [if_neg (Nat.not_lt_of_le wide)]
  rfl

theorem tuple_fails {opening : Span} {input : List Token} {error : SyntaxError}
    (failed : tupleFrom size inner opening input = .error error) (taken : List Token) :
    ∃ rest, Ends size depth (Step.tuple step) taken (⟨.openParen, opening⟩ :: input) (.error error)
      rest := by
  unfold Step.tuple
  rcases tupleFrom_eq_error.mp failed with ⟨close, more, rfl, rfl⟩ | ⟨started, elements |
      ⟨elements, other, read, ⟨close, more, rfl, narrow, rfl⟩ | ⟨missing, rfl⟩⟩⟩
  · refine ⟨more, Ends.behind [_] ?_ (lift_bind_apply advance_between)⟩
    refine .looking (lift_check_between rfl) ?_
    exact Ends.behind [_] (.stays rfl) (lift_bind_apply advance_between)
  · obtain ⟨rest, ends⟩ := (listed_mirrors (element_mirrors mirrors)).fails elements _
    refine ⟨rest, Ends.behind [_] ?_ (lift_bind_apply advance_between)⟩
    exact .looking (lift_check_between_of_ne started) (ends.bind_error _)
  · refine ⟨more, Ends.behind [_] ?_ (lift_bind_apply advance_between)⟩
    refine .looking (lift_check_between_of_ne started) ?_
    refine ((listed_mirrors (element_mirrors mirrors)).reads read _).bind fun own _ => ?_
    refine Ends.behind [_] ?_ (Step.bind_ok (expect_between _ close))
    refine .stays ?_
    dsimp only
    rw [if_pos narrow]
    rfl
  · refine ⟨other, Ends.behind [_] ?_ (lift_bind_apply advance_between)⟩
    refine .looking (lift_check_between_of_ne started) ?_
    refine ((listed_mirrors (element_mirrors mirrors)).reads read _).bind fun own _ => ?_
    exact (Ends.stays (expect_between_of_ne _ missing)).bind_error _

theorem primary_mirrors {part : List Token → TypeExpr → Prop} (takesPart : Takes inner part) :
    Mirrors size depth (Step.primary step) (TypeExpr.primary size inner) where
  reads input value rest read taken := by
    unfold Step.primary
    rcases reads_primary.mp read with ⟨opening, more, rfl, readTuple⟩ | ⟨started, readName⟩
    · exact .looking (lift_check_between rfl) (tuple_reads mirrors readTuple taken)
    · exact .looking (lift_check_between_of_ne (nextKind_ne_some.mpr started))
        ((named_mirrors mirrors takesPart).reads readName taken)
  fails input error failed taken := by
    unfold Step.primary
    rcases primary_eq_error.mp failed with ⟨opening, more, rfl, tuple⟩ | ⟨started, name⟩
    · obtain ⟨rest, ends⟩ := tuple_fails mirrors tuple taken
      exact ⟨rest, .looking (lift_check_between rfl) ends⟩
    · obtain ⟨rest, ends⟩ := (named_mirrors mirrors takesPart).fails name taken
      exact ⟨rest, .looking (lift_check_between_of_ne started) ends⟩

end

/-! ## Suffixes -/

section

variable {size depth room turns wrappers : Nat} {type : TypeExpr} {taken input rest : List Token}
  {further : TypeExpr → Step TypeExpr}

theorem suffixesIn_room (fits : depth + wrappers < maxDepth) :
    suffixesIn (turns + 1) type wrappers (between size depth taken rest) =
      suffix type (fun wrapped => suffixesIn turns wrapped (wrappers + 1))
        (between size depth taken rest) := by
  rw [suffixesIn, lift_bind_apply check_between, lift_bind_apply check_between,
    get_bind_apply, if_neg]
  have room : ¬ maxDepth < depth + (wrappers + 1) := by omega
  simp [between, room]

theorem suffixesIn_none (stops : Stops startsSuffix (rest.map Token.kind)) :
    suffixesIn (turns + 1) type wrappers (between size depth taken rest) =
      some (.ok type, between size depth taken rest) := by
  have noMark := nextKind_ne_of_stops (k := .question) stops rfl
  have noBracket := nextKind_ne_of_stops (k := .openBracket) stops rfl
  rw [suffixesIn, lift_bind_apply check_between, lift_bind_apply check_between,
    get_bind_apply, if_neg (by simp [noMark, noBracket]), suffix,
    lift_check_between_of_ne noMark, lift_takes_between_of_ne noBracket]
  rfl

theorem suffixesIn_tooDeep (full : depth + wrappers = maxDepth) {token : Token}
    (starts : startsSuffix token.kind = true) :
    suffixesIn (turns + 1) type wrappers (between size depth taken (token :: rest)) =
      some (.error ⟨.tooDeep, token.span⟩, between size depth taken (token :: rest)) := by
  have isSuffix : token.kind = .question ∨ token.kind = .openBracket := by
    cases kind : token.kind <;> simp_all [startsSuffix]
  have beyond : maxDepth < depth + (wrappers + 1) := by omega
  rw [suffixesIn, lift_bind_apply check_between, lift_bind_apply check_between,
    get_bind_apply, if_pos]
  · exact tooDeep_between
  · simpa [between, beyond, nextKind] using isSuffix

theorem suffix_mark {mark : List Token} {inner : TypeExpr} (placed : PlacedSuffix mark type inner) :
    suffix type further (between size depth taken (mark ++ rest)) =
      further inner (between size depth (taken ++ mark) rest) := by
  rw [suffix]
  cases placed with
  | question type place =>
      rw [List.singleton_append, lift_check_between rfl, lift_bind_apply advance_between]
  | brackets type opening close commas =>
      have free : nextKind (⟨.closeBracket, close⟩ :: rest) ≠ some .comma := by simp [nextKind]
      have less (start : Cursor) :
          oneLess (1 + commas.length) start = some (commas.length, start) := by
        rw [Nat.add_comm]
        rfl
      rw [List.cons_append, List.append_assoc, lift_check_between_of_ne (by simp [nextKind]),
        lift_takes_between, List.singleton_append,
        lift_bind_apply (dimensions_between commas free), Step.bind_ok (expect_between _ close),
        lift_bind_apply (less _)]
      simp

theorem lt_turns_of_mark {mark more : List Token} {inner : TypeExpr}
    (placed : PlacedSuffix mark type inner) (enough : (mark ++ more).length < turns + 1) :
    more.length < turns := by
  cases placed <;> simp only [List.length_append, List.length_cons] at enough <;> omega

theorem suffixesIn_reads {whole : TypeExpr} (fits : depth + wrappers + room = maxDepth)
    (enough : input.length < turns) (read : ReadsSuffixes size room type input whole rest)
    (taken : List Token) :
    Ends size depth (suffixesIn turns type wrappers) taken input (.ok whole) rest := by
  induction turns generalizing room wrappers type input taken with
  | zero => exact absurd enough (Nat.not_lt_zero _)
  | succ turns ih =>
      rcases readsSuffixes_iff.mp read with ⟨rfl, rfl, stops⟩ |
        ⟨less, mark, inner, more, rfl, rfl, placed, readInner⟩
      · exact .stays (suffixesIn_none stops)
      · refine .looking (suffixesIn_room (by omega)) ?_
        have fewer := lt_turns_of_mark placed enough
        exact Ends.behind mark (ih (by omega) fewer readInner _) (suffix_mark placed)

theorem suffixesIn_fails {error : SyntaxError} (fits : depth + wrappers + room = maxDepth)
    (enough : input.length < turns)
    (failed : TypeExpr.suffixed size room type input = .error error) (taken : List Token) :
    ∃ rest, Ends size depth (suffixesIn turns type wrappers) taken input (.error error) rest := by
  induction turns generalizing room wrappers type input taken with
  | zero => exact absurd enough (Nat.not_lt_zero _)
  | succ turns ih =>
      rcases suffixed_eq_error.mp failed with ⟨rfl, token, more, rfl, starts, rfl⟩ |
        ⟨less, rfl, ⟨mark, inner, more, rfl, placed, others⟩ |
          ⟨opening, commas, other, rfl, free, missing, rfl⟩⟩
      · exact ⟨_, .stays (suffixesIn_tooDeep (by omega) starts)⟩
      · have fewer := lt_turns_of_mark placed enough
        have less : depth + (wrappers + 1) + less = maxDepth := by omega
        obtain ⟨rest, ends⟩ := ih less fewer others (taken ++ mark)
        refine ⟨rest, .looking (suffixesIn_room (by omega)) ?_⟩
        exact Ends.behind mark ends (suffix_mark placed)
      · refine ⟨other, .looking (suffixesIn_room (by omega)) ?_⟩
        rw [suffix]
        refine .looking (lift_check_between_of_ne (by simp [nextKind])) ?_
        refine Ends.behind [_] ?_ (lift_takes_between opening)
        refine Ends.behind _ ?_ (lift_bind_apply (dimensions_between commas free))
        exact (Ends.stays (expect_between_of_ne _ missing)).bind_error _

end

/-! ## Types -/

theorem nested_between {α : Type} {size depth : Nat} {step : Step α} (room : depth < maxDepth)
    {taken input rest : List Token} {result : Except SyntaxError α}
    (ends : Ends size (depth + 1) step taken input result rest) :
    Ends size depth (nested step) taken input result rest := by
  obtain ⟨own, split, ran⟩ := ends
  have inside : step.run (between size (depth + 1) taken input) =
      some (result, between size (depth + 1) (taken ++ own) rest) := ran
  refine ⟨own, split, ?_⟩
  rw [nested, get_bind_apply, depth_between, if_neg (Nat.not_le_of_lt room),
    Walk.bind_apply enter_between, Walk.bind_apply inside, Walk.bind_apply leave_between]
  rfl

/-- A type takes one call for each level of the parser, and one that goes too deep. -/
theorem typeExpr_mirrors (size : Nat) {levels depth calls : Nat} (left : maxDepth - depth = levels)
    (enough : levels < calls) : Mirrors size depth (typeExpr calls) (typeAt size levels) := by
  induction calls generalizing levels depth with
  | zero => exact absurd enough (Nat.not_lt_zero _)
  | succ calls ih =>
      cases levels with
      | zero =>
          refine ⟨fun _ _ _ read => absurd read not_reads_typeAt_zero, ?_⟩
          intro input error failed taken
          cases failed
          refine ⟨input, .stays ?_⟩
          rw [typeExpr, nested, get_bind_apply, depth_between,
            if_pos (Nat.le_of_sub_eq_zero left)]
          exact tooDeep_between
      | succ levels =>
          have room : depth < maxDepth := by omega
          have below : maxDepth - (depth + 1) = levels := by omega
          have head := primary_mirrors (ih below (Nat.lt_of_succ_lt_succ enough))
            (typeAt_takes levels)
          have fits : depth + 1 + 0 + levels = maxDepth := by omega
          refine ⟨fun input value rest read taken => ?_, fun input error failed taken => ?_⟩
          · obtain ⟨type, more, readHead, readSuffixes⟩ := reads_typeAt.mp read
            refine nested_between room ((head.reads readHead taken).bind fun own _ => ?_)
            exact .looking (lift_bind_apply turns_between)
              (suffixesIn_reads fits (Nat.lt_succ_self _) readSuffixes _)
          · rcases typeAt_succ_eq_error.mp failed with first | ⟨type, more, readHead, suffixes⟩
            · obtain ⟨rest, ends⟩ := head.fails first taken
              exact ⟨rest, nested_between room (ends.bind_error _)⟩
            · obtain ⟨own, rfl, ran⟩ := head.reads readHead taken
              obtain ⟨rest, ends⟩ :=
                suffixesIn_fails fits (Nat.lt_succ_self _) suffixes (taken ++ own)
              refine ⟨rest, nested_between room (Ends.behind own ?_ (Step.bind_ok ran))⟩
              exact .looking (lift_bind_apply turns_between) ends

/-! ## Texts -/

/-- A cursor that stands at one of the marks of a text. -/
structure Cursor.Ready (size : Nat) (tokens : List Token) (cursor : Cursor) : Prop where
  marks : cursor.marks = Checked.marks size tokens
  inRange : cursor.position ≤ tokens.length

theorem Cursor.Ready.eq_between {size : Nat} {tokens : List Token} {cursor : Cursor}
    (ready : cursor.Ready size tokens) :
    cursor = between size cursor.depth (tokens.take cursor.position)
      (tokens.drop cursor.position) := by
  obtain ⟨marks, position, depth⟩ := cursor
  obtain ⟨rfl, inRange⟩ := ready
  simp only [between, List.take_append_drop, List.length_take, Nat.min_eq_left inRange]

theorem Cursor.ready_between (size depth : Nat) (taken rest : List Token) :
    (between size depth taken rest).Ready size (taken ++ rest) :=
  ⟨rfl, by simp [between]⟩

/-- From any mark and at any depth, reading a type comes to a value or an error, at a mark and at
the depth that it started from. -/
theorem typeExpr_ends {size calls : Nat} {tokens : List Token} {cursor : Cursor}
    (ready : cursor.Ready size tokens) (enough : maxDepth - cursor.depth < calls) :
    ∃ result after, typeExpr calls cursor = some (result, after) ∧ after.Ready size tokens ∧
      after.depth = cursor.depth := by
  have mirrors := typeExpr_mirrors size rfl enough
  have ended : ∃ result rest, Ends size cursor.depth (typeExpr calls)
      (tokens.take cursor.position) (tokens.drop cursor.position) result rest := by
    cases read : typeAt size (maxDepth - cursor.depth) (tokens.drop cursor.position) with
    | error error =>
        obtain ⟨rest, ends⟩ := mirrors.fails read (tokens.take cursor.position)
        exact ⟨_, rest, ends⟩
    | ok parsed => exact ⟨_, _, mirrors.reads ⟨parsed, read, rfl, rfl⟩ _⟩
  obtain ⟨result, rest, own, split, ran⟩ := ended
  rw [← ready.eq_between] at ran
  refine ⟨result, _, ran, ?_, rfl⟩
  have whole : tokens.take cursor.position ++ own ++ rest = tokens := by
    rw [List.append_assoc, ← split, List.take_append_drop]
  have behind := ready_between size cursor.depth (tokens.take cursor.position ++ own) rest
  rwa [whole] at behind

theorem whole_between (size : Nat) (tokens : List Token) :
    ∃ after, Step.whole size (between size 0 [] tokens) =
      some (ofTokens size tokens, after) := by
  have mirrors : Mirrors size 0 (typeExpr (maxDepth + 1)) (typeAt size maxDepth) :=
    typeExpr_mirrors size rfl (Nat.lt_succ_self _)
  unfold Step.whole
  rw [lift_bind_apply isAtEnd_between]
  cases tokens with
  | nil => exact ⟨_, rfl⟩
  | cons token tokens =>
      have someTokens : token :: tokens ≠ [] := List.cons_ne_nil _ _
      rw [if_neg (by simp [nextKind])]
      cases read : typeAt size maxDepth (token :: tokens) with
      | error error =>
          obtain ⟨rest, own, -, ran⟩ := mirrors.fails read []
          rw [(ofTokens_eq_error someTokens).mpr (.inl read)]
          exact ⟨_, Step.bind_error ran⟩
      | ok parsed =>
          obtain ⟨type, rest, shorter⟩ := parsed
          have reads : Reads (typeAt size maxDepth) (token :: tokens) type rest :=
            ⟨_, read, rfl, rfl⟩
          obtain ⟨own, -, ran⟩ := mirrors.reads reads []
          rw [Step.bind_ok ran, lift_bind_apply peek_between]
          cases rest with
          | nil =>
              rw [ofTokens_eq_ok.mpr reads]
              exact ⟨_, rfl⟩
          | cons extra more =>
              rw [(ofTokens_eq_error someTokens).mpr (.inr ⟨type, extra, more, reads, rfl⟩)]
              exact ⟨_, rfl⟩

/-- No step of reading a text goes wrong, and it gives the type or the error of the text. -/
theorem run_parse (text : String) : (parse text).run = some (TypeExpr.parse text) := by
  have sequence : TypeExpr.parse text = Token.lex text >>= ofTokens text.utf8ByteSize := by
    unfold TypeExpr.parse
    cases Token.lex text <;> rfl
  rw [sequence]
  refine run_bind_of_some (run_lex text) fun tokens _ => ?_
  obtain ⟨after, ran⟩ := whole_between text.utf8ByteSize tokens
  change (Step.whole text.utf8ByteSize (between _ 0 [] tokens)).map Prod.fst = _
  rw [ran]
  rfl

end ConversionSynthesis.Checked
