import ConversionSynthesis.Proofs.TypeExpr.Spelling

/-! # Texts that hold one tree

The identity of a type is written like a type expression, except that names stand there without
their marks, so that a name may start with a digit. Such texts still hold one tree each: where names
end can be told without knowing how they start.
-/

namespace ConversionSynthesis

open Host Grammar

/-! ## Words -/

/-- A name as identities have it: it may start with a mark, with a digit too, and goes on as names
do. -/
def IsWord (name : String) : Prop :=
  ∃ c rest, name.toList = c :: rest ∧ (c = '@' ∨ continuesName c = true) ∧
    ∀ d ∈ rest, continuesName d = true

theorem IsTokenName.isWord {name : String} (token : IsTokenName name) : IsWord name := by
  obtain ⟨c, rest, chars, opens, continues, -⟩ := token
  rw [Token.opens, Bool.or_eq_true, beq_iff_eq] at opens
  exact ⟨c, rest, chars, opens.imp_right continuesName_of_opensName, continues⟩

theorem isWord_of_isIdentifier {name : String} (identifier : isIdentifier name = true) :
    IsWord name :=
  (isTokenName_of_isIdentifier identifier).isWord

theorem IsTokenName.isWord_bare {name : String} (token : IsTokenName name) :
    IsWord (bare name) := by
  obtain ⟨some, continues⟩ := token.chars_bare
  obtain ⟨c, rest, chars⟩ := List.exists_cons_of_ne_nil some
  rw [chars, List.forall_mem_cons] at continues
  exact ⟨c, rest, chars, .inr continues.1, continues.2⟩

theorem IsWord.not_mem {name : String} (word : IsWord name) {c : Char} (notMark : c ≠ '@')
    (other : continuesName c = false) : c ∉ name.toList := by
  obtain ⟨d, rest, chars, start, continues⟩ := word
  rw [chars, List.mem_cons]
  rintro (rfl | mem)
  · rw [start.resolve_left notMark] at other
    cases other
  · rw [continues c mem] at other
    cases other

/-! ## Reading words -/

/-- The name read so far as a token, if there is one. -/
def wordToken (word : List Char) : List TokenKind :=
  if word = [] then [] else [.ident (String.ofList word)]

/-- The tokens of characters behind those of `word`, where any character of a name may start one. A
colon is read together with whatever follows it, and a character that starts no token is passed
over. -/
def looseKinds (word : List Char) : List Char → List TokenKind
  | [] => wordToken word
  | ':' :: _ :: rest => wordToken word ++ .doubleColon :: looseKinds [] rest
  | c :: rest =>
      if continuesName c then looseKinds (word ++ [c]) rest
      else if c = '@' then wordToken word ++ looseKinds ['@'] rest
      else wordToken word ++ (TokenKind.ofChar? c).toList ++ looseKinds [] rest

theorem looseKinds_cons (word : List Char) {c : Char} (plain : c ≠ ':') (rest : List Char) :
    looseKinds word (c :: rest) =
      if continuesName c then looseKinds (word ++ [c]) rest
      else if c = '@' then wordToken word ++ looseKinds ['@'] rest
      else wordToken word ++ (TokenKind.ofChar? c).toList ++ looseKinds [] rest := by
  rw [looseKinds]
  exact fun _ _ colon => absurd colon plain

theorem looseKinds_continues (word : List Char) {c : Char} (continues : continuesName c = true)
    (rest : List Char) : looseKinds word (c :: rest) = looseKinds (word ++ [c]) rest := by
  have plain : c ≠ ':' := by
    rintro rfl
    cases continues
  rw [looseKinds_cons word plain, if_pos continues]

theorem looseKinds_append {word chars : List Char} (text : List Char)
    (continues : ∀ c ∈ chars, continuesName c = true) :
    looseKinds word (chars ++ text) = looseKinds (word ++ chars) text := by
  induction chars generalizing word with
  | nil => rw [List.nil_append, List.append_nil]
  | cons c rest ih =>
      rw [List.forall_mem_cons] at continues
      rw [List.cons_append, looseKinds_continues word continues.1, ih continues.2,
        List.append_assoc, List.singleton_append]

/-- Where no name goes on, the one before is complete. -/
theorem looseKinds_of_endsName (word : List Char) {text : List Char} (ends : EndsName text) :
    looseKinds word text = wordToken word ++ looseKinds [] text := by
  cases text with
  | nil => exact (List.append_nil _).symm
  | cons c rest =>
      have free : ¬ continuesName c = true := by simp [endsName_cons.mp ends]
      by_cases colon : c = ':'
      · subst colon
        cases rest with
        | nil => simp [looseKinds, free, wordToken, TokenKind.ofChar?]
        | cons d rest => rfl
      · rw [looseKinds_cons word colon, looseKinds_cons [] colon, if_neg free, if_neg free]
        by_cases mark : c = '@'
        · rw [if_pos mark, if_pos mark]
          rfl
        · rw [if_neg mark, if_neg mark, List.append_assoc]
          rfl

theorem looseKinds_blank {c : Char} (blank : Text.isBlank c = true) (text : List Char) :
    looseKinds [] (c :: text) = looseKinds [] text := by
  have apart : ∀ code ∈ Text.blankCodes, continuesName (Char.ofNat code) = false ∧
      Char.ofNat code ≠ '@' ∧ Char.ofNat code ≠ ':' ∧
        TokenKind.ofChar? (Char.ofNat code) = none := by
    decide +kernel
  have known := apart c.toNat (List.contains_iff_mem.mp blank)
  rw [Char.ofNat_toNat] at known
  simp [looseKinds, known, wordToken]

theorem looseKinds_punctuation {c : Char} {k : TokenKind} (known : TokenKind.ofChar? c = some k)
    (text : List Char) : looseKinds [] (c :: text) = k :: looseKinds [] text := by
  have apart : continuesName c = false ∧ c ≠ '@' ∧ c ≠ ':' := by
    unfold TokenKind.ofChar? at known
    split at known <;> first | decide | cases known
  simp [looseKinds, known, apart, wordToken]

theorem looseKinds_doubleColon (text : List Char) :
    looseKinds [] (':' :: ':' :: text) = .doubleColon :: looseKinds [] text :=
  rfl

theorem looseKinds_name {name : String} (word : IsWord name) {text : List Char}
    (ends : EndsName text) :
    looseKinds [] (name.toList ++ text) = .ident name :: looseKinds [] text := by
  obtain ⟨c, rest, chars, start, continues⟩ := word
  have opened : looseKinds [] (c :: (rest ++ text)) = looseKinds [c] (rest ++ text) := by
    rcases start with rfl | continuesFirst
    · have free : continuesName '@' = false := by decide
      simp [looseKinds, free, wordToken]
    · exact looseKinds_continues [] continuesFirst _
  rw [chars, List.cons_append, opened, looseKinds_append text continues,
    looseKinds_of_endsName _ ends, List.singleton_append, ← chars, wordToken,
    if_neg (by simp [chars]), String.ofList_toList, List.singleton_append]

theorem Joined.looseKinds_eq {text : List Char} {ks : List TokenKind}
    (joined : Joined IsWord text ks) : looseKinds [] text = ks := by
  induction joined with
  | nil => rfl
  | blank isBlank _ ih => rw [looseKinds_blank isBlank, ih]
  | punctuation known _ ih => rw [looseKinds_punctuation known, ih]
  | doubleColon _ ih => rw [looseKinds_doubleColon, ih]
  | name word ends _ ih => rw [looseKinds_name word ends, ih]

/-- A text of words is written along one tree at most. -/
theorem Writes.unique {chars : List Char} {tree tree' : TypeExpr}
    (written : Writes IsWord IsType chars tree) (written' : Writes IsWord IsType chars tree') :
    tree = tree' := by
  obtain ⟨ks, derived, joined⟩ := written
  obtain ⟨ks', derived', joined'⟩ := written'
  have kinds := (joined [] [] endsName_nil .nil).looseKinds_eq
  have kinds' := (joined' [] [] endsName_nil .nil).looseKinds_eq
  rw [List.append_nil, List.append_nil] at kinds kinds'
  rw [← kinds] at derived
  rw [← kinds'] at derived'
  exact derived.unique derived'

end ConversionSynthesis
