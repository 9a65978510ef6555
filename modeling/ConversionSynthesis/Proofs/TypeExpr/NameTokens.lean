import ConversionSynthesis.Proofs.TypeExpr.Inside

/-! # Identifiers as tokens

What makes an identifier is told in two places, by the test for declared names and by the cutting of
a text into tokens. They agree but for one kind of name, with a numeral right behind the mark: it is
a token, and no identifier.
-/

namespace ConversionSynthesis

open Host TypeExpr

/-! ## Texts of one name -/

/-- The text is cut into one token, which has all of the text as its name. -/
def IsOneName (text : String) : Prop :=
  Token.lex text = .ok [⟨.ident text, ⟨0, text.utf8ByteSize⟩⟩]

/-- A mark, and behind it the characters of a name, of which the first may not open one. -/
def IsMarkedNumeral (name : String) : Prop :=
  ∃ c rest, name.toList = '@' :: c :: rest ∧ opensName c = false ∧
    ∀ d ∈ c :: rest, continuesName d = true

theorem isOneName_iff {text : String} : IsOneName text ↔ IsTokenName text := by
  constructor
  · intro lexed
    exact (Scans.of_scan lexed).isTokenName List.mem_cons_self
  · intro token
    have cut := Token.scan_lexeme (.name token) (endsToken_nil _) 0
    rwa [List.append_nil, Token.scan_nil, Nat.zero_add, Text.width_toList] at cut

/-- Tokens are identifiers, but for numerals behind a mark. -/
theorem isTokenName_iff {name : String} :
    IsTokenName name ↔ isIdentifier name = true ∨ IsMarkedNumeral name := by
  constructor
  · rintro ⟨c, rest, chars, opens, continues, notMark⟩
    rw [isIdentifier, chars]
    by_cases marked : c = '@'
    · subst marked
      cases rest with
      | nil => exact absurd rfl notMark
      | cons d rest =>
          cases opensBehind : opensName d with
          | true =>
              refine .inl ?_
              rw [bareChars, isBareName, opensBehind, Bool.true_and, List.all_eq_true]
              exact (List.forall_mem_cons.mp continues).2
          | false => exact .inr ⟨d, rest, chars, opensBehind, continues⟩
    · rw [Token.opens, Bool.or_eq_true, beq_iff_eq] at opens
      refine .inl ?_
      rw [bareChars_of_plain (by simpa using marked), isBareName, opens.resolve_left marked,
        Bool.true_and, List.all_eq_true]
      exact continues
  · rintro (identifier | ⟨c, rest, chars, -, continues⟩)
    · exact isTokenName_of_isIdentifier identifier
    · exact ⟨'@', c :: rest, chars, rfl, continues, by simp⟩

theorem IsMarkedNumeral.not_isIdentifier {name : String} (marked : IsMarkedNumeral name) :
    isIdentifier name = false := by
  obtain ⟨c, rest, chars, closed, -⟩ := marked
  rw [isIdentifier, chars, bareChars, isBareName, closed, Bool.false_and]

/-! ## The two tests -/

/-- A text is an identifier exactly if it is cut into one name, which is the text itself, and is not
a numeral behind a mark; such a numeral is cut so too. If the text is read as a type, the names in
it are identifiers, but for numerals behind a mark. -/
theorem identifiers_as_tokens (text : String) :
    (isIdentifier text = true ↔ IsOneName text ∧ ¬ IsMarkedNumeral text) ∧
    (IsMarkedNumeral text → IsOneName text) ∧
    ∀ type, parse text = .ok type →
      ∀ name ∈ type.names, ¬ IsMarkedNumeral name → isIdentifier name = true := by
  refine ⟨?alone, ?numerals, ?inside⟩
  case alone =>
    rw [isOneName_iff, isTokenName_iff]
    constructor
    · intro identifier
      refine ⟨.inl identifier, fun marked => ?_⟩
      rw [marked.not_isIdentifier] at identifier
      cases identifier
    · rintro ⟨identifier | marked, plain⟩
      · exact identifier
      · exact absurd marked plain
  case numerals =>
    intro marked
    exact isOneName_iff.mpr (isTokenName_iff.mpr (.inr marked))
  case inside =>
    intro type read name mem plain
    exact (isTokenName_iff.mp (isTokenName_of_parse read name mem)).resolve_right plain

theorem identifiers_as_tokens_entries :
    isIdentifier "@class" = true ∧ IsOneName "@class" ∧ IsMarkedNumeral "@1" ∧ IsOneName "@1" ∧
      ∃ type, parse "Map<@class, (T é, int)>" = .ok type ∧
        type.names = ["Map", "@class", "é", "T", "int"] ∧
        ∀ name ∈ type.names, isIdentifier name = true := by
  have identifier : isIdentifier "@class" = true := by decide
  have numeral : IsMarkedNumeral "@1" :=
    ⟨'1', [], rfl, by decide, List.forall_mem_singleton.mpr (by decide)⟩
  have read : (parse "Map<@class, (T é, int)>").toOption.map names =
      some ["Map", "@class", "é", "T", "int"] := by
    with_unfolding_all rfl
  obtain ⟨type, parsed, listed⟩ := toOption_map_eq_some.mp read
  have plain : ∀ name ∈ type.names, ¬ IsMarkedNumeral name := by
    have only : ∀ name ∈ ["Map", "@class", "é", "T", "int"], name.toList.head? = some '@' →
        name = "@class" := by
      decide
    rw [listed]
    rintro name mem ⟨c, rest, chars, closed, -⟩
    cases only name mem (by rw [chars]; rfl)
    cases chars
    cases (by decide : opensName 'c' = true).symm.trans closed
  refine ⟨identifier, ((identifiers_as_tokens _).1.mp identifier).1, numeral,
    (identifiers_as_tokens _).2.1 numeral, type, parsed, listed, ?_⟩
  exact fun name mem => (identifiers_as_tokens _).2.2 type parsed name mem (plain name mem)

/-- A numeral behind a mark is read as a type, and is no identifier. -/
theorem marked_numeral_read :
    IsOneName "@1" ∧ isIdentifier "@1" = false ∧
      ∃ type, parse "@1" = .ok type ∧ "@1" ∈ type.names := by
  have read : (parse "@1").toOption.map names = some ["@1"] := by with_unfolding_all rfl
  obtain ⟨type, parsed, listed⟩ := toOption_map_eq_some.mp read
  refine ⟨?_, by decide, type, parsed, by simp [listed]⟩
  with_unfolding_all rfl

end ConversionSynthesis
