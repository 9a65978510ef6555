import Mathlib.Data.List.TakeWhile
import ConversionSynthesis.Proofs.Sequence
import ConversionSynthesis.TypeExpr.Lexer

/-! # Lexemes

A text that is cut into tokens is a row of lexemes with blanks around them. What a lexeme is can be
told from its own characters, up to where a name ends; so a stretch of the text from one token to
another is cut into the same tokens wherever it stands.
-/

namespace ConversionSynthesis

open Host

/-! ## Names -/

theorem not_blank_of_opens {c : Char} (opens : Token.opens c = true) : Text.isBlank c = false :=
  Text.not_blank_of (by decide +kernel) opens

theorem not_blank_of_continues {c : Char} (continues : continuesName c = true) :
    Text.isBlank c = false :=
  Text.not_blank_of (by decide +kernel) continues

/-- A name as tokens have it: it may start with a mark, but is none, and goes on as names do. -/
def IsTokenName (name : String) : Prop :=
  ∃ c rest, name.toList = c :: rest ∧ Token.opens c = true ∧
    (∀ d ∈ rest, continuesName d = true) ∧ c :: rest ≠ ['@']

theorem isTokenName_of_isIdentifier {name : String} (identifier : isIdentifier name = true) :
    IsTokenName name := by
  unfold isIdentifier at identifier
  unfold IsTokenName
  have bareName : ∀ {chars : List Char}, isBareName chars = true →
      ∃ c rest, chars = c :: rest ∧ opensName c = true ∧ ∀ d ∈ rest, continuesName d = true := by
    intro chars legal
    cases chars with
    | nil => cases legal
    | cons c rest =>
        rw [isBareName, Bool.and_eq_true, List.all_eq_true] at legal
        exact ⟨c, rest, rfl, legal⟩
  generalize name.toList = chars at *
  unfold bareChars at identifier
  split at identifier
  · next rest =>
      obtain ⟨c, rest, rfl, opens, continues⟩ := bareName identifier
      refine ⟨'@', _, rfl, rfl, ?_, by simp⟩
      rw [List.forall_mem_cons]
      exact ⟨continuesName_of_opensName opens, continues⟩
  · next plain =>
      obtain ⟨c, rest, rfl, opens, continues⟩ := bareName identifier
      refine ⟨c, rest, rfl, ?_, continues, ?_⟩
      · rw [Token.opens, opens, Bool.or_true]
      · intro same
        rw [List.cons.injEq] at same
        exact plain rest (by rw [same.1])

/-- The characters do not go on with the name that stands before them. -/
def EndsName (text : List Char) : Prop :=
  ∀ c ∈ text.head?, continuesName c = false

theorem endsName_nil : EndsName [] :=
  nofun

theorem endsName_cons {c : Char} {text : List Char} :
    EndsName (c :: text) ↔ continuesName c = false := by
  simp [EndsName]

theorem endsName_dropWhile (text : List Char) : EndsName (text.dropWhile continuesName) := by
  intro c mem
  have stopped := List.head?_dropWhile_not continuesName text
  rw [Option.mem_def.mp mem] at stopped
  simpa using stopped

theorem takeWhile_of_endsName {name text : List Char}
    (continues : ∀ d ∈ name, continuesName d = true) (ends : EndsName text) :
    (name ++ text).takeWhile continuesName = name ∧
      (name ++ text).dropWhile continuesName = text := by
  have stops : text.takeWhile continuesName = [] ∧ text.dropWhile continuesName = text := by
    cases text with
    | nil => exact ⟨rfl, rfl⟩
    | cons d text => simp [endsName_cons.mp ends]
  rw [List.takeWhile_append_of_pos continues, List.dropWhile_append_of_pos continues, stops.1,
    stops.2, List.append_nil]
  exact ⟨rfl, rfl⟩

/-! ## The characters of a token -/

/-- The characters are those of one token of the kind. -/
inductive IsLexeme : List Char → TokenKind → Prop
  | punctuation {c k} : TokenKind.ofChar? c = some k → IsLexeme [c] k
  | doubleColon : IsLexeme [':', ':'] .doubleColon
  | name {name} : IsTokenName name → IsLexeme name.toList (.ident name)

/-- The characters do not go on with the token that stands before them: only names can go on. -/
def EndsToken : TokenKind → List Char → Prop
  | .ident _, text => EndsName text
  | _, _ => True

theorem EndsToken.of_append {kind : TokenKind} {front back : List Char}
    (ends : EndsToken kind (front ++ back)) : EndsToken kind front := by
  cases kind with
  | ident name =>
      cases front with
      | nil => exact endsName_nil
      | cons c front => exact endsName_cons.mpr (endsName_cons.mp ends)
  | _ => trivial

theorem endsToken_nil (kind : TokenKind) : EndsToken kind [] := by
  cases kind with
  | ident name => exact endsName_nil
  | _ => trivial

theorem punctuation_apart {c : Char} {k : TokenKind} (known : TokenKind.ofChar? c = some k) :
    Text.isBlank c = false ∧ Token.opens c = false ∧ c ≠ ':' ∧ c.utf8Size = 1 := by
  unfold TokenKind.ofChar? at known
  split at known <;> first | decide | cases known

theorem endsToken_of_punctuation {c : Char} {k : TokenKind} (known : TokenKind.ofChar? c = some k)
    (text : List Char) : EndsToken k text := by
  unfold TokenKind.ofChar? at known
  split at known <;> cases known <;> trivial

theorem IsLexeme.width_pos {chars : List Char} {kind : TokenKind} (lexeme : IsLexeme chars kind) :
    0 < Text.width chars := by
  have positive (c : Char) (rest : List Char) : 0 < Text.width (c :: rest) :=
    Nat.add_pos_left c.utf8Size_pos _
  cases lexeme with
  | punctuation => exact positive _ _
  | doubleColon => exact positive _ _
  | name token =>
      obtain ⟨c, rest, chars, -⟩ := token
      rw [chars]
      exact positive c rest

namespace Token

theorem scan_nil (offset : Nat) : scan offset [] = .ok [] := by
  rw [scan]

theorem scan_blank {c : Char} (blank : Text.isBlank c = true) (offset : Nat) (text : List Char) :
    scan offset (c :: text) = scan (offset + c.utf8Size) text := by
  rw [scan.eq_def]
  exact if_pos blank

/-- A lexeme that nothing behind it goes on with is cut off as one token. -/
theorem scan_lexeme {chars text : List Char} {kind : TokenKind} (lexeme : IsLexeme chars kind)
    (ends : EndsToken kind text) (offset : Nat) :
    scan offset (chars ++ text) = (scan (offset + Text.width chars) text).map
      (⟨kind, ⟨offset, offset + Text.width chars⟩⟩ :: ·) := by
  cases lexeme with
  | @punctuation c k known =>
      obtain ⟨notBlank, closed, notColon, size⟩ := punctuation_apart known
      rw [List.singleton_append, scan.eq_def]
      simp only [notBlank, closed, notColon, known, size, Text.width_cons, Text.width_nil,
        Bool.false_eq_true, if_false]
  | doubleColon =>
      have apart : Text.isBlank ':' = false ∧ opens ':' = false := by decide
      rw [List.cons_append, List.singleton_append, scan.eq_def]
      simp only [apart, Bool.false_eq_true, if_false, if_true]
      rfl
  | @name name token =>
      obtain ⟨c, rest, chars, opened, continues, notMark⟩ := token
      obtain ⟨taken, dropped⟩ := takeWhile_of_endsName continues ends
      rw [chars, List.cons_append, scan.eq_def]
      simp only [not_blank_of_opens opened, opened, taken, dropped, notMark, Bool.false_eq_true,
        if_false, if_true]
      rw [← chars, String.ofList_toList]

end Token

/-! ## Texts as rows of lexemes -/

/-- The characters, which stand `offset` bytes into a text, are cut into the tokens. -/
inductive Scans : Nat → List Char → List Token → Prop
  | nil {offset} : Scans offset [] []
  | blank {offset c text tokens} : Text.isBlank c = true →
      Scans (offset + c.utf8Size) text tokens → Scans offset (c :: text) tokens
  | lexeme {offset chars kind text tokens} : IsLexeme chars kind → EndsToken kind text →
      Scans (offset + Text.width chars) text tokens →
      Scans offset (chars ++ text) (⟨kind, ⟨offset, offset + Text.width chars⟩⟩ :: tokens)

theorem Scans.of_scan {offset : Nat} {text : List Char} {tokens : List Token}
    (scanned : Token.scan offset text = .ok tokens) : Scans offset text tokens := by
  fun_induction Token.scan offset text generalizing tokens with
  | case1 =>
      cases scanned
      exact .nil
  | case2 offset c rest blank ih => exact .blank blank (ih scanned)
  | case3 => cases scanned
  | case4 offset c rest notBlank opened word span notMark =>
      next ih =>
        obtain ⟨others, scannedOthers, rfl⟩ := map_eq_ok.mp scanned
        have token : IsTokenName (String.ofList word) :=
          ⟨c, rest.takeWhile continuesName, String.toList_ofList, opened,
            fun d => List.mem_takeWhile_imp, notMark⟩
        have lexeme := IsLexeme.name token
        rw [String.toList_ofList] at lexeme
        have first := Scans.lexeme lexeme (endsName_dropWhile rest) (ih scannedOthers)
        rwa [List.cons_append, List.takeWhile_append_dropWhile] at first
  | case5 offset notBlank closed after ih =>
      obtain ⟨others, scannedOthers, rfl⟩ := map_eq_ok.mp scanned
      exact .lexeme .doubleColon trivial (ih scannedOthers)
  | case6 => cases scanned
  | case7 offset c rest notBlank closed notColon kind known ih =>
      obtain ⟨others, scannedOthers, rfl⟩ := map_eq_ok.mp scanned
      have size := (punctuation_apart known).2.2.2
      have behind : Scans (offset + Text.width [c]) rest others := by
        simpa [size] using ih scannedOthers
      have first := Scans.lexeme (.punctuation known) (endsToken_of_punctuation known rest) behind
      simpa [size] using first
  | case8 => cases scanned

theorem scan_eq_ok {offset : Nat} {text : List Char} {tokens : List Token} :
    Token.scan offset text = .ok tokens ↔ Scans offset text tokens := by
  refine ⟨Scans.of_scan, fun scans => ?_⟩
  induction scans with
  | nil => exact Token.scan_nil _
  | blank isBlank _ ih => rw [Token.scan_blank isBlank, ih]
  | lexeme isLexeme ends _ ih =>
      rw [Token.scan_lexeme isLexeme ends, ih]
      rfl

/-! ## Names from tokens -/

theorem Scans.isTokenName {offset : Nat} {text : List Char} {tokens : List Token}
    (scans : Scans offset text tokens) {name : String}
    (mem : TokenKind.ident name ∈ tokens.map Token.kind) : IsTokenName name := by
  induction scans with
  | nil => cases mem
  | blank _ _ ih => exact ih mem
  | lexeme lexeme _ _ ih =>
      rcases List.mem_cons.mp mem with first | later
      · cases lexeme with
        | punctuation known =>
            unfold TokenKind.ofChar? at known
            split at known <;> cases known <;> cases first
        | doubleColon => cases first
        | name token =>
            cases first
            exact token
      · exact ih later

/-- Without its mark, a name from a token is made of letters and digits. -/
theorem IsTokenName.chars_bare {name : String} (token : IsTokenName name) :
    (bare name).toList ≠ [] ∧ ∀ c ∈ (bare name).toList, continuesName c = true := by
  obtain ⟨c, rest, chars, opens, continues, notMark⟩ := token
  rw [bare, chars, String.toList_ofList]
  by_cases marked : c = '@'
  · subst marked
    rw [bareChars]
    exact ⟨fun none => notMark (by rw [none]), continues⟩
  · rw [bareChars_of_plain (by simpa using marked), List.forall_mem_cons]
    have opensName : opensName c = true := by
      rw [Token.opens, Bool.or_eq_true, beq_iff_eq] at opens
      exact opens.resolve_left marked
    exact ⟨List.cons_ne_nil _ _, continuesName_of_opensName opensName, continues⟩

end ConversionSynthesis
