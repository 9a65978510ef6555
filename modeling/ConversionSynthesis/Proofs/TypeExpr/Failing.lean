import ConversionSynthesis.Proofs.TypeExpr.Placement

/-! # What the parser refuses

For each function of the parser, when it fails and with what error: either a part that it asks for
fails, or what stands behind the parts read so far is not what has to follow.
-/

namespace ConversionSynthesis

/-- The kind of the next token, if there is one. -/
def nextKind (input : List Token) : Option TokenKind :=
  input.head?.map (·.kind)

theorem nextKind_eq_some {input : List Token} {k : TokenKind} :
    nextKind input = some k ↔ ∃ span more, input = ⟨k, span⟩ :: more := by
  cases input with
  | nil => simp [nextKind]
  | cons token more => cases token; simp [nextKind]

theorem nextKind_ne_some {input : List Token} {k : TokenKind} :
    nextKind input ≠ some k ↔ ∀ span more, input ≠ ⟨k, span⟩ :: more := by
  rw [ne_eq, nextKind_eq_some, not_exists]
  exact forall_congr' fun span => not_exists

namespace TypeExpr

variable {α : Type} {size : Nat} {inner : TokenParser TypeExpr} {input rest : List Token}
  {error : SyntaxError}

/-! ## Lists and names -/

theorem separated_eq_error {separator : TokenKind} {item : TokenParser α} :
    separated separator item input = .error error ↔
      item input = .error error ∨
      ∃ value token more, Reads item input value (token :: more) ∧ token.kind = separator ∧
        separated separator item more = .error error := by
  constructor
  · intro failed
    rw [separated] at failed
    split at failed
    · next first =>
        cases failed
        exact .inl first
    · next first readFirst =>
        split at failed
        · cases failed
        · next token more follows =>
            split at failed
            · next same =>
                split at failed
                · next others =>
                    cases failed
                    exact .inr ⟨first.value, token, more, ⟨first, readFirst, rfl, follows⟩, same,
                      others⟩
                · cases failed
            · cases failed
  · intro given
    rw [separated]
    rcases given with first | ⟨_, token, more, ⟨parsed, readFirst, rfl, follows⟩, same, others⟩
    · simp only [first]
    · simp only [readFirst]
      split
      · next ended =>
          rw [ended] at follows
          cases follows
      · next token' more' follows' =>
          rw [follows'] at follows
          cases follows
          rw [if_pos same]
          simp only [others]

theorem segment_eq_error :
    segment size inner input = .error error ↔
      ((∀ name, nextKind input ≠ some (.ident name)) ∧ error = unexpected size .typeName input) ∨
      ∃ name span opening more,
        input = ⟨.ident name, span⟩ :: ⟨.openAngle, opening⟩ :: more ∧
        (separated .comma inner more = .error error ∨
          ∃ arguments other, Reads (separated .comma inner) more arguments other ∧
            nextKind other ≠ some .closeAngle ∧ error = unexpected size .argumentsEnd other) := by
  constructor
  · intro failed
    unfold segment at failed
    split at failed
    · next name span opening more =>
        refine .inr ⟨name, span, opening, more, rfl, ?_⟩
        split at failed
        · next arguments =>
            cases failed
            exact .inl arguments
        · next arguments readArguments =>
            split at failed
            · cases failed
            · next missing =>
                cases failed
                exact .inr ⟨arguments.value, _, ⟨arguments, readArguments, rfl, rfl⟩,
                  nextKind_ne_some.mpr missing, rfl⟩
    · cases failed
    · next unnamed =>
        cases failed
        exact .inl ⟨fun name => nextKind_ne_some.mpr (unnamed name), rfl⟩
  · intro given
    unfold segment
    rcases given with ⟨unnamed, rfl⟩ | ⟨name, span, opening, more, rfl, arguments |
      ⟨arguments, other, ⟨parsed, read, rfl, rfl⟩, missing, rfl⟩⟩
    · split
      · exact absurd rfl (unnamed _)
      · exact absurd rfl (unnamed _)
      · rfl
    · simp only [arguments]
    · simp only [read]
      split
      · next follows =>
          rw [follows] at missing
          exact absurd rfl missing
      · rfl

/-- The tokens start with `global ::`. -/
def StartsGlobal (input : List Token) : Prop :=
  ∃ root colons more, input = ⟨.ident "global", root⟩ :: ⟨.doubleColon, colons⟩ :: more

theorem name_eq_error :
    name size inner input = .error error ↔
      (∃ root colons more, input = ⟨.ident "global", root⟩ :: ⟨.doubleColon, colons⟩ :: more ∧
        path size inner more = .error error) ∨
      (¬ StartsGlobal input ∧ path size inner input = .error error) := by
  constructor
  · intro failed
    unfold name at failed
    split at failed
    · next root colons more =>
        split at failed
        · next segments =>
            cases failed
            exact .inl ⟨root, colons, more, rfl, segments⟩
        · cases failed
    · next plain =>
        split at failed
        · next segments =>
            cases failed
            refine .inr ⟨?_, segments⟩
            intro ⟨root, colons, more, same⟩
            exact plain root colons more same
        · cases failed
  · intro given
    rcases given with ⟨root, colons, more, rfl, segments⟩ | ⟨plain, segments⟩
    · simp only [name, segments]
    · rw [name]
      · simp only [segments]
      · intro root colons more same
        exact plain ⟨root, colons, more, same⟩

/-! ## Tuples -/

theorem element_eq_error :
    element inner input = .error error ↔ inner input = .error error := by
  unfold element
  split
  · next failed => rw [failed, Except.error.injEq, Except.error.injEq]
  · next type readType =>
      rw [readType]
      refine iff_of_false ?_ nofun
      split <;> exact nofun

theorem tupleFrom_eq_error {opening : Span} :
    tupleFrom size inner opening input = .error error ↔
      (∃ close more, input = ⟨.closeParen, close⟩ :: more ∧
        error = ⟨.emptyTuple, ⟨opening.start, close.stop⟩⟩) ∨
      (nextKind input ≠ some .closeParen ∧
        (separated .comma (element inner) input = .error error ∨
          ∃ elements other, Reads (separated .comma (element inner)) input elements other ∧
            ((∃ close more, other = ⟨.closeParen, close⟩ :: more ∧ elements.length < 2 ∧
                error = ⟨.loneElement, ⟨opening.start, close.stop⟩⟩) ∨
              (nextKind other ≠ some .closeParen ∧
                error = unexpected size .tupleEnd other)))) := by
  constructor
  · intro failed
    unfold tupleFrom at failed
    split at failed
    · next close more =>
        cases failed
        exact .inl ⟨close, more, rfl, rfl⟩
    · next started =>
        refine .inr ⟨nextKind_ne_some.mpr started, ?_⟩
        split at failed
        · next elements =>
            cases failed
            exact .inl elements
        · next elements readElements =>
            refine .inr ⟨elements.value, elements.rest, ⟨elements, readElements, rfl, rfl⟩, ?_⟩
            split at failed
            · next close after follows =>
                split at failed
                · next narrow =>
                    cases failed
                    exact .inl ⟨close, after, follows, narrow, rfl⟩
                · cases failed
            · next missing =>
                cases failed
                exact .inr ⟨nextKind_ne_some.mpr missing, rfl⟩
  · intro given
    rcases given with ⟨close, more, rfl, rfl⟩ | ⟨started, elements |
      ⟨elements, other, ⟨parsed, read, rfl, rfl⟩, behind⟩⟩
    · rfl
    · rw [tupleFrom]
      · simp only [elements]
      · exact nextKind_ne_some.mp started
    · rw [tupleFrom]
      · simp only [read]
        rcases behind with ⟨close, more, follows, narrow, rfl⟩ | ⟨missing, rfl⟩
        · split
          · next follows' =>
              rw [follows'] at follows
              cases follows
              rw [if_pos narrow]
          · next missing => exact absurd follows (missing _ _)
        · split
          · next follows =>
              rw [follows] at missing
              exact absurd rfl missing
          · rfl
      · exact nextKind_ne_some.mp started

theorem primary_eq_error :
    primary size inner input = .error error ↔
      (∃ opening more, input = ⟨.openParen, opening⟩ :: more ∧
        tupleFrom size inner opening more = .error error) ∨
      (nextKind input ≠ some .openParen ∧ name size inner input = .error error) := by
  constructor
  · intro failed
    unfold primary at failed
    split at failed
    · next opening more =>
        split at failed
        · next tuple =>
            cases failed
            exact .inl ⟨opening, more, rfl, tuple⟩
        · cases failed
    · next started => exact .inr ⟨nextKind_ne_some.mpr started, failed⟩
  · intro given
    rcases given with ⟨opening, more, rfl, tuple⟩ | ⟨started, name⟩
    · simp only [primary, tuple]
    · rw [primary]
      · exact name
      · exact nextKind_ne_some.mp started

/-! ## Suffixes and types -/

/-- One suffix is taken after the other, until there is no room for the next one or its bracket is
not closed. -/
theorem suffixed_eq_error {room : Nat} {type : TypeExpr} :
    suffixed size room type input = .error error ↔
      (room = 0 ∧ ∃ token more, input = token :: more ∧ startsSuffix token.kind = true ∧
        error = ⟨.tooDeep, token.span⟩) ∨
      ∃ less, room = less + 1 ∧
        ((∃ mark inner more, input = mark ++ more ∧ PlacedSuffix mark type inner ∧
            suffixed size less inner more = .error error) ∨
          ∃ (opening : Span) (commas : List Span) (other : List Token),
            input = ⟨.openBracket, opening⟩ :: (commas.map (⟨.comma, ·⟩) ++ other) ∧
            nextKind other ≠ some .comma ∧ nextKind other ≠ some .closeBracket ∧
            error = unexpected size .arrayEnd other) := by
  constructor
  · intro failed
    rw [suffixed.eq_def] at failed
    split at failed
    · next mark more =>
        cases failed
        exact .inl ⟨rfl, _, more, rfl, rfl, rfl⟩
    · next opening more =>
        cases failed
        exact .inl ⟨rfl, _, more, rfl, rfl, rfl⟩
    · next less mark more =>
        split at failed
        · next others =>
            cases failed
            exact .inr ⟨less, rfl, .inl ⟨_, _, more, rfl, .question type mark, others⟩⟩
        · cases failed
    · next less opening more =>
        refine .inr ⟨less, rfl, ?_⟩
        split at failed
        · next count close after taken =>
            obtain ⟨commas, rfl, rfl, -⟩ := takeCommas_spec taken
            split at failed
            · next others =>
                cases failed
                exact .inl ⟨_, _, after, by simp, .brackets type opening close commas, others⟩
            · cases failed
        · next count other missing taken =>
            cases failed
            obtain ⟨commas, rfl, -, free⟩ := takeCommas_spec taken
            refine .inr ⟨opening, commas, other, rfl, nextKind_ne_some.mpr free, ?_, rfl⟩
            exact nextKind_ne_some.mpr missing
    · cases failed
  · intro given
    rcases given with ⟨rfl, ⟨kind, span⟩, more, rfl, starts, rfl⟩ |
      ⟨less, rfl, ⟨mark, inner, more, rfl, suffix, others⟩ |
        ⟨opening, commas, other, rfl, free, missing, rfl⟩⟩
    · cases kind <;> first | rfl | cases starts
    · cases suffix with
      | question type mark =>
          rw [List.singleton_append, suffixed]
          simp only [others]
      | brackets type opening close commas =>
          have taken : takeCommas (commas.map (⟨.comma, ·⟩) ++ ⟨.closeBracket, close⟩ :: more) =
              (commas.length, ⟨.closeBracket, close⟩ :: more) :=
            takeCommas_commas commas (nextKind_ne_some.mp (by simp [nextKind]))
          rw [List.cons_append, List.append_assoc, suffixed]
          split
          · next taken' =>
              cases taken.symm.trans taken'
              simp only [others]
          · next missing taken' =>
              cases taken.symm.trans taken'
              exact absurd rfl (missing _ _)
    · have taken := takeCommas_commas commas (nextKind_ne_some.mp free)
      rw [suffixed]
      split
      · next taken' =>
          cases taken.symm.trans taken'
          exact absurd rfl missing
      · next taken' =>
          cases taken.symm.trans taken'
          rfl

theorem typeAt_succ_eq_error {levels : Nat} :
    typeAt size (levels + 1) input = .error error ↔
      primary size (typeAt size levels) input = .error error ∨
      ∃ head more, Reads (primary size (typeAt size levels)) input head more ∧
        suffixed size levels head more = .error error := by
  constructor
  · intro failed
    unfold typeAt at failed
    split at failed
    · next head =>
        cases failed
        exact .inl head
    · next head readHead =>
        split at failed
        · next suffixes =>
            cases failed
            exact .inr ⟨head.value, head.rest, ⟨head, readHead, rfl, rfl⟩, suffixes⟩
        · cases failed
  · intro given
    rcases given with head | ⟨_, _, ⟨parsed, read, rfl, rfl⟩, suffixes⟩
    · simp only [typeAt, head]
    · simp only [typeAt, read, suffixes]

theorem ofTokens_eq_error {tokens : List Token} (some : tokens ≠ []) :
    ofTokens size tokens = .error error ↔
      typeAt size maxDepth tokens = .error error ∨
      ∃ type extra more, Reads (typeAt size maxDepth) tokens type (extra :: more) ∧
        error = ⟨.trailing extra.kind, extra.span⟩ := by
  rw [ofTokens]
  · split
    · next failed => simp [failed, Reads]
    · next readType => simp [readType, Reads]
    · next type extra more shorter readType =>
        constructor
        · intro trailing
          cases trailing
          exact .inr ⟨type, extra, more, ⟨_, readType, rfl, rfl⟩, rfl⟩
        · intro given
          rcases given with failed | ⟨_, _, _, ⟨parsed, read, rfl, follows⟩, rfl⟩
          · cases readType.symm.trans failed
          · cases readType.symm.trans read
            cases follows
            rfl
  · exact some

end TypeExpr

end ConversionSynthesis
