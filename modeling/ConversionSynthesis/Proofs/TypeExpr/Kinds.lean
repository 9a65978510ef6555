import ConversionSynthesis.Proofs.TypeExpr.Failing
import ConversionSynthesis.Proofs.TypeExpr.Grammar

/-! # Reading by the kinds of tokens

Where tokens stand has no part in what is read of them: tokens of the same kinds are read as the
same tree, but for its places, or break off with the same fault.
-/

namespace ConversionSynthesis

open Grammar

/-! ## Tokens of the same kinds -/

/-- The tokens have the same kinds, one by one. -/
def SameKinds (input input' : List Token) : Prop :=
  input'.map Token.kind = input.map Token.kind

namespace SameKinds

variable {input input' : List Token}

theorem symm (same : SameKinds input input') : SameKinds input' input :=
  Eq.symm same

theorem trans {input'' : List Token} (same : SameKinds input input')
    (others : SameKinds input' input'') : SameKinds input input'' :=
  Eq.trans others same

theorem append_left (front : List Token) (same : SameKinds input input') :
    SameKinds (front ++ input) (front ++ input') := by
  rw [SameKinds, List.map_append, List.map_append, same]

theorem next (same : SameKinds input input') : nextKind input' = nextKind input := by
  have heads := congrArg List.head? same
  rwa [List.head?_map, List.head?_map] at heads

theorem stops {continues : TokenKind → Bool} (same : SameKinds input input')
    (stops : Stops continues (input.map Token.kind)) : Stops continues (input'.map Token.kind) := by
  rwa [same]

theorem eq_nil (same : SameKinds [] input') : input' = [] :=
  List.map_eq_nil_iff.mp same

/-- A token in front comes with one of its kind. -/
theorem exists_cons {k : TokenKind} {span : Span} {more : List Token}
    (same : SameKinds (⟨k, span⟩ :: more) input') :
    ∃ span' more', input' = ⟨k, span'⟩ :: more' ∧ SameKinds more more' :=
  kinds_eq_cons same

theorem exists_append {front back : List Token} (same : SameKinds (front ++ back) input') :
    ∃ front' back', input' = front' ++ back' ∧ SameKinds front front' ∧ SameKinds back back' := by
  rw [SameKinds, List.map_append, List.map_eq_append_iff] at same
  exact same

theorem exists_commas {commas : List Span} (same : SameKinds (commas.map (⟨.comma, ·⟩)) input') :
    ∃ commas' : List Span, input' = commas'.map (⟨.comma, ·⟩) ∧
      commas'.length = commas.length := by
  induction commas generalizing input' with
  | nil => exact ⟨[], same.eq_nil, rfl⟩
  | cons comma rest ih =>
      obtain ⟨comma', more, rfl, others⟩ := exists_cons same
      obtain ⟨rest', rfl, length⟩ := ih others
      exact ⟨comma' :: rest', rfl, congrArg (· + 1) length⟩

theorem startsGlobal (same : SameKinds input input') (starts : TypeExpr.StartsGlobal input') :
    TypeExpr.StartsGlobal input := by
  obtain ⟨root', colons', more', rfl⟩ := starts
  obtain ⟨root, _, rfl, second⟩ := same.symm.exists_cons
  obtain ⟨colons, more, rfl, -⟩ := second.exists_cons
  exact ⟨root, colons, more, rfl⟩

end SameKinds

/-- Two parsers agree on tokens of the same kinds: they read the same, but for places, and leave
tokens of the same kinds, or they fail with the same fault. -/
structure Agree {α : Type} (bare : α → α) (parser parser' : TokenParser α) : Prop where
  reads : ∀ ⦃input input' value rest⦄, SameKinds input input' → Reads parser input value rest →
    ∃ value' rest', Reads parser' input' value' rest' ∧ bare value' = bare value ∧
      SameKinds rest rest'
  fails : ∀ ⦃input input' error⦄, SameKinds input input' → parser input = .error error →
    ∃ error', parser' input' = .error error' ∧ error'.fault = error.fault

namespace TypeExpr

variable {α : Type} {size size' : Nat} {inner inner' : TokenParser TypeExpr}

theorem unexpected_fault {input input' : List Token} (same : SameKinds input input')
    (what : Expectation) :
    (unexpected size' what input').fault = (unexpected size what input).fault :=
  congrArg (SyntaxFault.expected what) same.next

/-! ## Lists and names -/

theorem separated_agree {separator : TokenKind} {item item' : TokenParser α} {bare : α → α}
    (agree : Agree bare item item') :
    Agree (List.map bare) (separated separator item) (separated separator item') where
  reads input input' values rest same read := by
    induction values generalizing input input' with
    | nil =>
        rcases reads_separated.mp read with ⟨_, impossible, _⟩ | ⟨_, _, _, _, impossible, _⟩ <;>
          cases impossible
    | cons value others ih =>
        rcases reads_separated.mp read with ⟨first, equal, readFirst, stops⟩ |
          ⟨first, ⟨kind, place⟩, more, others', equal, readFirst, rfl, readOthers⟩
        · cases equal
          obtain ⟨value', rest', read', bareSame, left⟩ := agree.reads same readFirst
          refine ⟨[value'], rest', ?_, congrArg (fun x => [x]) bareSame, left⟩
          exact reads_separated.mpr (.inl ⟨value', rfl, read', left.stops stops⟩)
        · cases equal
          obtain ⟨value', _, read', bareSame, left⟩ := agree.reads same readFirst
          obtain ⟨place', more', rfl, behind⟩ := left.exists_cons
          obtain ⟨values', rest', readOthers', bareOthers, left⟩ := ih _ _ behind readOthers
          refine ⟨value' :: values', rest', ?_, ?_, left⟩
          · exact reads_separated.mpr (.inr ⟨_, _, _, _, rfl, read', rfl, readOthers'⟩)
          · rw [List.map_cons, List.map_cons, bareSame, bareOthers]
  fails input input' error same failed := by
    -- Every item that is read takes a token, so that fewer are left for the others.
    induction length : input.length using Nat.strongRecOn generalizing input input' with
    | ind _ ih =>
        rcases separated_eq_error.mp failed with first |
          ⟨value, ⟨kind, place⟩, more, readFirst, rfl, others⟩
        · obtain ⟨error', failed', fault⟩ := agree.fails same first
          exact ⟨error', separated_eq_error.mpr (.inl failed'), fault⟩
        · obtain ⟨value', _, read', -, left⟩ := agree.reads same readFirst
          obtain ⟨place', more', rfl, behind⟩ := left.exists_cons
          have shorter : more.length < input.length :=
            Nat.lt_of_succ_lt readFirst.shorter
          obtain ⟨error', failed', fault⟩ := ih _ (length ▸ shorter) _ _ behind others rfl
          exact ⟨error', separated_eq_error.mpr (.inr ⟨value', _, more', read', rfl, failed'⟩),
            fault⟩

section

variable (agree : Agree bare inner inner')

include agree

theorem segment_agree : Agree Segment.bare (segment size inner) (segment size' inner') where
  reads input input' value rest same read := by
    rcases reads_segment.mp read with ⟨name, place, rfl, rfl, stops⟩ |
      ⟨name, place, opening, more, arguments, close, rfl, rfl, readArguments⟩
    · obtain ⟨place', rest', rfl, left⟩ := same.exists_cons
      exact ⟨_, rest', reads_segment.mpr (.inl ⟨name, place', rfl, rfl, left.stops stops⟩), rfl,
        left⟩
    · obtain ⟨place', _, rfl, second⟩ := same.exists_cons
      obtain ⟨opening', more', rfl, behind⟩ := second.exists_cons
      obtain ⟨arguments', _, read', bareSame, left⟩ :=
        (separated_agree agree).reads behind readArguments
      obtain ⟨close', rest', rfl, last⟩ := left.exists_cons
      refine ⟨_, rest', reads_segment.mpr
        (.inr ⟨name, place', opening', more', arguments', close', rfl, rfl, read'⟩), ?_, last⟩
      rw [Segment.bare, Segment.bare, bareArguments_eq_map, bareArguments_eq_map, bareSame]
  fails input input' error same failed := by
    rcases segment_eq_error.mp failed with ⟨unnamed, rfl⟩ |
      ⟨name, place, opening, more, rfl, arguments | ⟨arguments, other, read, missing, rfl⟩⟩
    · rw [← same.next] at unnamed
      exact ⟨_, segment_eq_error.mpr (.inl ⟨unnamed, rfl⟩), unexpected_fault same .typeName⟩
    · obtain ⟨place', _, rfl, second⟩ := same.exists_cons
      obtain ⟨opening', more', rfl, behind⟩ := second.exists_cons
      obtain ⟨error', failed', fault⟩ := (separated_agree agree).fails behind arguments
      exact ⟨error', segment_eq_error.mpr
        (.inr ⟨name, place', opening', more', rfl, .inl failed'⟩), fault⟩
    · obtain ⟨place', _, rfl, second⟩ := same.exists_cons
      obtain ⟨opening', more', rfl, behind⟩ := second.exists_cons
      obtain ⟨arguments', other', read', -, left⟩ := (separated_agree agree).reads behind read
      rw [← left.next] at missing
      exact ⟨_, segment_eq_error.mpr (.inr ⟨name, place', opening', more', rfl,
        .inr ⟨arguments', other', read', missing, rfl⟩⟩), unexpected_fault left .argumentsEnd⟩

theorem path_agree : Agree (List.map Segment.bare) (path size inner) (path size' inner') :=
  separated_agree (segment_agree agree)

theorem name_agree : Agree bare (name size inner) (name size' inner') where
  reads input input' value rest same read := by
    rcases reads_name.mp read with ⟨segments, root, colons, more, rfl, rfl, readPath⟩ |
      ⟨segments, plain, rfl, readPath⟩
    · obtain ⟨root', _, rfl, second⟩ := same.exists_cons
      obtain ⟨colons', more', rfl, behind⟩ := second.exists_cons
      obtain ⟨segments', rest', read', bareSame, left⟩ := (path_agree agree).reads behind readPath
      refine ⟨_, rest', reads_name.mpr
        (.inl ⟨segments', root', colons', more', rfl, rfl, read'⟩), ?_, left⟩
      rw [TypeExpr.bare, TypeExpr.bare, bareSegments_eq_map, bareSegments_eq_map, bareSame]
    · obtain ⟨segments', rest', read', bareSame, left⟩ := (path_agree agree).reads same readPath
      refine ⟨_, rest', reads_name.mpr (.inr ⟨segments', ?_, rfl, read'⟩), ?_, left⟩
      · intro root' colons' more' starts
        obtain ⟨root, colons, more, starts⟩ := same.startsGlobal ⟨root', colons', more', starts⟩
        exact plain root colons more starts
      · rw [TypeExpr.bare, TypeExpr.bare, bareSegments_eq_map, bareSegments_eq_map, bareSame]
  fails input input' error same failed := by
    rcases name_eq_error.mp failed with ⟨root, colons, more, rfl, segments⟩ | ⟨plain, segments⟩
    · obtain ⟨root', _, rfl, second⟩ := same.exists_cons
      obtain ⟨colons', more', rfl, behind⟩ := second.exists_cons
      obtain ⟨error', failed', fault⟩ := (path_agree agree).fails behind segments
      exact ⟨error', name_eq_error.mpr (.inl ⟨root', colons', more', rfl, failed'⟩), fault⟩
    · obtain ⟨error', failed', fault⟩ := (path_agree agree).fails same segments
      exact ⟨error', name_eq_error.mpr (.inr ⟨fun starts => plain (same.startsGlobal starts),
        failed'⟩), fault⟩

/-! ## Tuples -/

theorem element_agree : Agree Element.bare (element inner) (element inner') where
  reads input input' value rest same read := by
    rcases reads_element.mp read with ⟨type, rfl, readType, unlabelled⟩ |
      ⟨type, label, place, rfl, readType⟩
    · obtain ⟨type', rest', read', bareSame, left⟩ := agree.reads same readType
      refine ⟨_, rest', reads_element.mpr (.inl ⟨type', rfl, read', fun label => ?_⟩), ?_, left⟩
      · rw [← nextKind_ne_some, left.next]
        exact nextKind_ne_some.mpr (unlabelled label)
      · rw [Element.bare, Element.bare, bareSame]
    · obtain ⟨type', _, read', bareSame, left⟩ := agree.reads same readType
      obtain ⟨place', rest', rfl, behind⟩ := left.exists_cons
      refine ⟨_, rest', reads_element.mpr (.inr ⟨type', label, place', rfl, read'⟩), ?_, behind⟩
      rw [Element.bare, Element.bare, bareSame]
      rfl
  fails input input' error same failed := by
    obtain ⟨error', failed', fault⟩ := agree.fails same (element_eq_error.mp failed)
    exact ⟨error', element_eq_error.mpr failed', fault⟩

theorem elements_agree :
    Agree (List.map Element.bare) (separated .comma (element inner))
      (separated .comma (element inner')) :=
  separated_agree (element_agree agree)

theorem tupleFrom_agree (opening opening' : Span) :
    Agree bare (tupleFrom size inner opening) (tupleFrom size' inner' opening') where
  reads input input' value rest same read := by
    obtain ⟨started, values, close, rfl, wide, readElements⟩ := reads_tupleFrom.mp read
    obtain ⟨values', _, read', bareSame, left⟩ := (elements_agree agree).reads same readElements
    obtain ⟨close', rest', rfl, behind⟩ := left.exists_cons
    have length : values'.length = values.length := by
      simpa using congrArg List.length bareSame
    refine ⟨_, rest', reads_tupleFrom.mpr
      ⟨?_, values', close', rfl, length ▸ wide, read'⟩, ?_, behind⟩
    · rw [← nextKind_ne_some, same.next]
      exact nextKind_ne_some.mpr started
    · rw [TypeExpr.bare, TypeExpr.bare, bareElements_eq_map, bareElements_eq_map, bareSame]
  fails input input' error same failed := by
    rcases tupleFrom_eq_error.mp failed with ⟨close, more, rfl, rfl⟩ |
      ⟨started, first | ⟨values, other, read, behind⟩⟩
    · obtain ⟨close', more', rfl, -⟩ := same.exists_cons
      exact ⟨_, tupleFrom_eq_error.mpr (.inl ⟨close', more', rfl, rfl⟩), rfl⟩
    · rw [← same.next] at started
      obtain ⟨error', failed', fault⟩ := (elements_agree agree).fails same first
      exact ⟨error', tupleFrom_eq_error.mpr (.inr ⟨started, .inl failed'⟩), fault⟩
    · rw [← same.next] at started
      obtain ⟨values', other', read', bareSame, left⟩ := (elements_agree agree).reads same read
      rcases behind with ⟨close, after, rfl, narrow, rfl⟩ | ⟨missing, rfl⟩
      · obtain ⟨close', after', rfl, -⟩ := left.exists_cons
        have length : values'.length = values.length := by
          simpa using congrArg List.length bareSame
        exact ⟨_, tupleFrom_eq_error.mpr (.inr ⟨started, .inr ⟨values', _, read',
          .inl ⟨close', after', rfl, length ▸ narrow, rfl⟩⟩⟩), rfl⟩
      · rw [← left.next] at missing
        exact ⟨_, tupleFrom_eq_error.mpr (.inr ⟨started, .inr ⟨values', other', read',
          .inr ⟨missing, rfl⟩⟩⟩), unexpected_fault left .tupleEnd⟩

theorem primary_agree : Agree bare (primary size inner) (primary size' inner') where
  reads input input' value rest same read := by
    rcases reads_primary.mp read with ⟨opening, more, rfl, readTuple⟩ | ⟨started, readName⟩
    · obtain ⟨opening', more', rfl, behind⟩ := same.exists_cons
      obtain ⟨value', rest', read', bareSame, left⟩ :=
        (tupleFrom_agree agree opening opening').reads behind readTuple
      exact ⟨value', rest', reads_primary.mpr (.inl ⟨opening', more', rfl, read'⟩), bareSame, left⟩
    · obtain ⟨value', rest', read', bareSame, left⟩ := (name_agree agree).reads same readName
      refine ⟨value', rest', reads_primary.mpr (.inr ⟨?_, read'⟩), bareSame, left⟩
      rw [← nextKind_ne_some, same.next]
      exact nextKind_ne_some.mpr started
  fails input input' error same failed := by
    rcases primary_eq_error.mp failed with ⟨opening, more, rfl, tuple⟩ | ⟨started, name⟩
    · obtain ⟨opening', more', rfl, behind⟩ := same.exists_cons
      obtain ⟨error', failed', fault⟩ := (tupleFrom_agree agree opening opening').fails behind tuple
      exact ⟨error', primary_eq_error.mpr (.inl ⟨opening', more', rfl, failed'⟩), fault⟩
    · rw [← same.next] at started
      obtain ⟨error', failed', fault⟩ := (name_agree agree).fails same name
      exact ⟨error', primary_eq_error.mpr (.inr ⟨started, failed'⟩), fault⟩

end

/-! ## Suffixes and types -/

/-- Tokens of the same kinds make the same suffix of like types. -/
theorem placedSuffix_agree {mark mark' : List Token} {type type' inner : TypeExpr}
    (same : SameKinds mark mark') (like : type'.bare = type.bare)
    (suffix : PlacedSuffix mark type inner) :
    ∃ inner', PlacedSuffix mark' type' inner' ∧ inner'.bare = inner.bare := by
  cases suffix with
  | question type place =>
      obtain ⟨place', _, rfl, ended⟩ := same.exists_cons
      cases ended.eq_nil
      exact ⟨_, .question type' place', by rw [TypeExpr.bare, TypeExpr.bare, like]⟩
  | brackets type opening close commas =>
      obtain ⟨opening', _, rfl, behind⟩ := same.exists_cons
      obtain ⟨_, last, rfl, front, back⟩ := behind.exists_append
      obtain ⟨commas', rfl, length⟩ := front.exists_commas
      obtain ⟨close', _, rfl, ended⟩ := back.exists_cons
      cases ended.eq_nil
      refine ⟨_, .brackets type' opening' close' commas', ?_⟩
      rw [TypeExpr.bare, TypeExpr.bare, like, length]

theorem suffixes_reads {room : Nat} {type type' whole : TypeExpr} {input input' rest : List Token}
    (same : SameKinds input input') (like : type'.bare = type.bare)
    (read : ReadsSuffixes size room type input whole rest) :
    ∃ whole' rest', ReadsSuffixes size' room type' input' whole' rest' ∧
      whole'.bare = whole.bare ∧ SameKinds rest rest' := by
  induction room generalizing type type' input input' with
  | zero =>
      rcases readsSuffixes_iff.mp read with ⟨rfl, rfl, stops⟩ | ⟨_, _, _, _, impossible, _⟩
      · exact ⟨type', input', readsSuffixes_iff.mpr (.inl ⟨rfl, rfl, same.stops stops⟩), like, same⟩
      · cases impossible
  | succ room ih =>
      rcases readsSuffixes_iff.mp read with ⟨rfl, rfl, stops⟩ |
        ⟨_, mark, inner, more, equal, rfl, suffix, readInner⟩
      · exact ⟨type', input', readsSuffixes_iff.mpr (.inl ⟨rfl, rfl, same.stops stops⟩), like, same⟩
      · cases equal
        obtain ⟨mark', more', rfl, front, back⟩ := same.exists_append
        obtain ⟨inner', suffix', likeInner⟩ := placedSuffix_agree front like suffix
        obtain ⟨whole', rest', read', bareSame, left⟩ := ih back likeInner readInner
        exact ⟨whole', rest', readsSuffixes_iff.mpr
          (.inr ⟨room, mark', inner', more', rfl, rfl, suffix', read'⟩), bareSame, left⟩

theorem suffixes_fail {room : Nat} {type type' : TypeExpr} {input input' : List Token}
    {error : SyntaxError} (same : SameKinds input input') (like : type'.bare = type.bare)
    (failed : suffixed size room type input = .error error) :
    ∃ error', suffixed size' room type' input' = .error error' ∧ error'.fault = error.fault := by
  induction room generalizing type type' input input' with
  | zero =>
      rcases suffixed_eq_error.mp failed with ⟨-, ⟨kind, place⟩, more, rfl, starts, rfl⟩ |
        ⟨_, impossible, _⟩
      · obtain ⟨place', more', rfl, -⟩ := same.exists_cons
        exact ⟨_, suffixed_eq_error.mpr (.inl ⟨rfl, _, more', rfl, starts, rfl⟩), rfl⟩
      · cases impossible
  | succ room ih =>
      rcases suffixed_eq_error.mp failed with ⟨impossible, _⟩ |
        ⟨_, equal, ⟨mark, inner, more, rfl, suffix, others⟩ |
          ⟨opening, commas, other, rfl, free, missing, rfl⟩⟩
      · cases impossible
      · cases equal
        obtain ⟨mark', more', rfl, front, back⟩ := same.exists_append
        obtain ⟨inner', suffix', likeInner⟩ := placedSuffix_agree front like suffix
        obtain ⟨error', failed', fault⟩ := ih back likeInner others
        exact ⟨error', suffixed_eq_error.mpr
          (.inr ⟨room, rfl, .inl ⟨mark', inner', more', rfl, suffix', failed'⟩⟩), fault⟩
      · obtain ⟨opening', _, rfl, behind⟩ := same.exists_cons
        obtain ⟨_, other', rfl, front, back⟩ := behind.exists_append
        obtain ⟨commas', rfl, -⟩ := front.exists_commas
        rw [← back.next] at free missing
        exact ⟨_, suffixed_eq_error.mpr (.inr ⟨room, rfl,
          .inr ⟨opening', commas', other', rfl, free, missing, rfl⟩⟩),
          unexpected_fault back .arrayEnd⟩

/-- Whatever the sizes of their texts, tokens of the same kinds are read alike. -/
theorem typeAt_agree (levels : Nat) : Agree bare (typeAt size levels) (typeAt size' levels) := by
  induction levels with
  | zero =>
      refine ⟨fun _ _ _ _ _ read => absurd read not_reads_typeAt_zero, ?_⟩
      intro input input' error _ failed
      cases failed
      exact ⟨_, rfl, rfl⟩
  | succ levels ih =>
      constructor
      · intro input input' value rest same read
        obtain ⟨head, more, readHead, readSuffixes⟩ := reads_typeAt.mp read
        obtain ⟨head', more', readHead', like, behind⟩ := (primary_agree ih).reads same readHead
        obtain ⟨value', rest', read', bareSame, left⟩ := suffixes_reads behind like readSuffixes
        exact ⟨value', rest', reads_typeAt.mpr ⟨head', more', readHead', read'⟩, bareSame, left⟩
      · intro input input' error same failed
        rcases typeAt_succ_eq_error.mp failed with first | ⟨head, more, readHead, suffixes⟩
        · obtain ⟨error', failed', fault⟩ := (primary_agree ih).fails same first
          exact ⟨error', typeAt_succ_eq_error.mpr (.inl failed'), fault⟩
        · obtain ⟨head', more', readHead', like, behind⟩ := (primary_agree ih).reads same readHead
          obtain ⟨error', failed', fault⟩ := suffixes_fail behind like suffixes
          exact ⟨error', typeAt_succ_eq_error.mpr (.inr ⟨head', more', readHead', failed'⟩), fault⟩

/-! ## Whole texts -/

theorem ofTokens_reads {tokens tokens' : List Token} {type : TypeExpr}
    (same : SameKinds tokens tokens') (read : ofTokens size tokens = .ok type) :
    ∃ type', ofTokens size' tokens' = .ok type' ∧ type'.bare = type.bare := by
  obtain ⟨type', _, read', like, left⟩ :=
    (typeAt_agree maxDepth).reads same (ofTokens_eq_ok.mp read)
  cases left.eq_nil
  exact ⟨type', ofTokens_eq_ok.mpr read', like⟩

theorem ofTokens_fails {tokens tokens' : List Token} {error : SyntaxError}
    (same : SameKinds tokens tokens') (failed : ofTokens size tokens = .error error) :
    ∃ error', ofTokens size' tokens' = .error error' ∧ error'.fault = error.fault := by
  cases tokens with
  | nil =>
      cases same.eq_nil
      cases failed
      exact ⟨_, rfl, rfl⟩
  | cons token more =>
      have agree : Agree bare (typeAt size maxDepth) (typeAt size' maxDepth) :=
        typeAt_agree maxDepth
      have some' : tokens' ≠ [] := by
        rintro rfl
        cases same.symm.eq_nil
      rcases (ofTokens_eq_error (List.cons_ne_nil _ _)).mp failed with whole |
        ⟨type, ⟨kind, place⟩, rest, readType, rfl⟩
      · obtain ⟨error', failed', fault⟩ := agree.fails same whole
        exact ⟨error', (ofTokens_eq_error some').mpr (.inl failed'), fault⟩
      · obtain ⟨type', _, read', -, left⟩ := agree.reads same readType
        obtain ⟨extra', rest', rfl, -⟩ := left.exists_cons
        exact ⟨_, (ofTokens_eq_error some').mpr (.inr ⟨type', _, rest', read', rfl⟩), rfl⟩

/-- Texts with tokens of the same kinds are read as the same tree but for its places, or with the
same fault. -/
theorem parse_agree {text text' : String} {tokens tokens' : List Token}
    (lexed : Token.lex text = .ok tokens) (lexed' : Token.lex text' = .ok tokens')
    (same : SameKinds tokens tokens') :
    (∀ type, parse text = .ok type → ∃ type', parse text' = .ok type' ∧ type'.bare = type.bare) ∧
    ∀ error, parse text = .error error →
      ∃ error', parse text' = .error error' ∧ error'.fault = error.fault := by
  rw [parse, parse, lexed, lexed']
  exact ⟨fun _ => ofTokens_reads same, fun _ => ofTokens_fails same⟩

end TypeExpr

end ConversionSynthesis
