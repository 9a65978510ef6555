import ConversionSynthesis.Proofs.TypeExpr.Completeness
import ConversionSynthesis.Proofs.TypeExpr.Lexemes

/-! # Texts put together

What tokens a text is cut into, when the text is put together from parts whose tokens are known. A
name reaches as far as it can, so a part that ends in a name keeps its tokens only in front of a
character that does not continue one. A text put together along a derivation is read as its tree.
-/

namespace ConversionSynthesis

open Host Grammar

/-! ## Tokens -/

/-- The characters are cut into tokens of these kinds. -/
def Lexes (text : List Char) (ks : List TokenKind) : Prop :=
  ∀ offset, ∃ tokens, Token.scan offset text = .ok tokens ∧ tokens.map Token.kind = ks

namespace Lexes

variable {text : List Char} {ks : List TokenKind}

theorem nil : Lexes [] [] :=
  fun offset => ⟨[], Token.scan_nil offset, rfl⟩

theorem blank {c : Char} (blank : Text.isBlank c = true) (more : Lexes text ks) :
    Lexes (c :: text) ks := by
  intro offset
  rw [Token.scan_blank blank]
  exact more _

theorem lexeme {chars : List Char} {k : TokenKind} (lexeme : IsLexeme chars k)
    (ends : EndsToken k text) (more : Lexes text ks) : Lexes (chars ++ text) (k :: ks) := by
  intro offset
  obtain ⟨tokens, scanned, kinds⟩ := more (offset + Text.width chars)
  rw [Token.scan_lexeme lexeme ends, scanned]
  exact ⟨_, rfl, by rw [List.map_cons, kinds]⟩

theorem punctuation {c : Char} {k : TokenKind} (known : TokenKind.ofChar? c = some k)
    (more : Lexes text ks) : Lexes (c :: text) (k :: ks) :=
  lexeme (.punctuation known) (endsToken_of_punctuation known text) more

theorem doubleColon (more : Lexes text ks) : Lexes (':' :: ':' :: text) (.doubleColon :: ks) :=
  lexeme .doubleColon trivial more

theorem name {name : String} (token : IsTokenName name) (ends : EndsName text)
    (more : Lexes text ks) : Lexes (name.toList ++ text) (.ident name :: ks) :=
  lexeme (.name token) ends more

end Lexes

/-! ## Suffixes behind a type -/

namespace Grammar

theorem AreSuffixes.suffixed {ks ks' : List TokenKind} {type inner whole : TypeExpr}
    (suffixes : AreSuffixes ks type inner) (suffix : IsSuffix ks' inner whole) :
    AreSuffixes (ks ++ ks') type whole := by
  induction suffixes with
  | none =>
      have last := AreSuffixes.more suffix (.none _)
      rwa [List.append_nil] at last
  | more first _ ih =>
      rw [List.append_assoc]
      exact .more first (ih suffix)

theorem IsType.suffixed {ks ks' : List TokenKind} {type whole : TypeExpr}
    (derived : IsType ks type) (suffix : IsSuffix ks' type whole) : IsType (ks ++ ks') whole := by
  obtain ⟨primary, suffixes⟩ := derived
  rw [List.append_assoc]
  exact .mk primary (suffixes.suffixed suffix)

end Grammar

/-! ## Texts joined from tokens -/

/-- The text joins tokens of these kinds, with blanks between them. Names in it are legal, and no
name goes on behind its end. -/
inductive Joined (legal : String → Prop) : List Char → List TokenKind → Prop
  | nil : Joined legal [] []
  | blank {c text ks} : Text.isBlank c = true → Joined legal text ks → Joined legal (c :: text) ks
  | punctuation {c k text ks} : TokenKind.ofChar? c = some k → Joined legal text ks →
      Joined legal (c :: text) (k :: ks)
  | doubleColon {text ks} : Joined legal text ks →
      Joined legal (':' :: ':' :: text) (.doubleColon :: ks)
  | name {name text ks} : legal name → EndsName text → Joined legal text ks →
      Joined legal (name.toList ++ text) (.ident name :: ks)

theorem Joined.lexes {text : List Char} {ks : List TokenKind}
    (joined : Joined IsTokenName text ks) : Lexes text ks := by
  induction joined with
  | nil => exact .nil
  | blank isBlank _ ih => exact .blank isBlank ih
  | punctuation known _ ih => exact .punctuation known ih
  | doubleColon _ ih => exact .doubleColon ih
  | name token ends _ ih => exact .name token ends ih

/-- A comma, with or without blanks behind it. -/
def IsComma (mark : List Char) : Prop :=
  ∃ blanks, mark = ',' :: blanks ∧ ∀ c ∈ blanks, Text.isBlank c = true

theorem isComma_plain : IsComma ",".toList :=
  ⟨[], rfl, nofun⟩

theorem isComma_spaced : IsComma ", ".toList :=
  ⟨[' '], rfl, List.forall_mem_singleton.mpr (by decide)⟩

theorem IsComma.joined {legal : String → Prop} {mark text : List Char} {ks : List TokenKind}
    (comma : IsComma mark) (joined : Joined legal text ks) :
    Joined legal (mark ++ text) (.comma :: ks) := by
  obtain ⟨blanks, rfl, areBlank⟩ := comma
  refine .punctuation rfl ?_
  induction blanks with
  | nil => exact joined
  | cons c blanks ih =>
      rw [List.forall_mem_cons] at areBlank
      exact .blank areBlank.1 (ih areBlank.2)

theorem IsComma.endsName {mark : List Char} (comma : IsComma mark) (text : List Char) :
    EndsName (mark ++ text) := by
  obtain ⟨blanks, rfl, -⟩ := comma
  exact endsName_cons.mpr (by decide)

/-- The characters write something: in front of whatever ends a name, their tokens derive it. -/
def Writes {α : Type} (legal : String → Prop) (derives : List TokenKind → α → Prop)
    (chars : List Char) (x : α) : Prop :=
  ∃ ks, derives ks x ∧
    ∀ text more, EndsName text → Joined legal text more → Joined legal (chars ++ text) (ks ++ more)

namespace Writes

variable {legal : String → Prop}

section Lists

variable {α : Type} {derives : List TokenKind → α → Prop}

theorem one {separator : TokenKind} {chars : List Char} {x : α}
    (written : Writes legal derives chars x) :
    Writes legal (Separated separator derives) chars [x] :=
  let ⟨ks, derived, joined⟩ := written
  ⟨ks, .one derived, joined⟩

theorem separated {separator : TokenKind} {mark : List Char}
    (ends : ∀ text, EndsName (mark ++ text))
    (joins : ∀ text more, Joined legal text more → Joined legal (mark ++ text) (separator :: more))
    {items : List (List Char)} {xs : List α}
    (written : List.Forall₂ (Writes legal derives) items xs) (some : items ≠ []) :
    Writes legal (Separated separator derives) (mark.intercalate items) xs := by
  induction written with
  | nil => exact absurd rfl some
  | cons first rest ih =>
      cases rest with
      | nil =>
          rw [List.intercalate_singleton]
          exact first.one
      | cons second rest =>
          obtain ⟨ks, derived, joined⟩ := first
          obtain ⟨ks', derived', joined'⟩ := ih (List.cons_ne_nil _ _)
          refine ⟨ks ++ separator :: ks', .more derived derived', fun text more stops tail => ?_⟩
          rw [List.intercalate_cons_cons, List.append_assoc, List.append_assoc, List.append_assoc]
          exact joined _ _ (ends _) (joins _ _ (joined' _ _ stops tail))

theorem commas {mark : List Char} (comma : IsComma mark) {items : List (List Char)} {xs : List α}
    (written : List.Forall₂ (Writes legal derives) items xs) (some : items ≠ []) :
    Writes legal (Separated .comma derives) (mark.intercalate items) xs :=
  separated comma.endsName (fun _ _ tail => comma.joined tail) written some

theorem dots {items : List (List Char)} {xs : List α}
    (written : List.Forall₂ (Writes legal derives) items xs) (some : items ≠ []) :
    Writes legal (Separated .dot derives) (['.'].intercalate items) xs :=
  separated (fun _ => endsName_cons.mpr (by decide)) (fun _ _ tail => .punctuation rfl tail)
    written some

end Lists

theorem name {name : String} (isLegal : legal name) :
    Writes legal IsSegment name.toList (.mk name [] default) :=
  ⟨[.ident name], .plain name, fun _ _ => .name isLegal⟩

theorem generic {name : String} (isLegal : legal name) {chars : List Char}
    {arguments : List TypeExpr} (written : Writes legal (Separated .comma IsType) chars arguments) :
    Writes legal IsSegment (name.toList ++ '<' :: (chars ++ ['>']))
      (.mk name arguments default) := by
  obtain ⟨ks, derived, joined⟩ := written
  refine ⟨_, .generic name derived, fun text more _ tail => ?_⟩
  have inside := joined ('>' :: text) (.closeAngle :: more) (endsName_cons.mpr (by decide))
    (.punctuation rfl tail)
  simpa using Joined.name isLegal (endsName_cons.mpr (by decide)) (.punctuation rfl inside)

theorem path {chars : List Char} {segments : List Segment}
    (written : Writes legal (Separated .dot IsSegment) chars segments) :
    Writes legal IsType chars (.named false segments default) := by
  obtain ⟨ks, derived, joined⟩ := written
  refine ⟨ks, ?_, joined⟩
  simpa using IsType.mk (.named (.plain derived)) (.none _)

theorem rooted (root : legal "global") {chars : List Char} {segments : List Segment}
    (written : Writes legal (Separated .dot IsSegment) chars segments) :
    Writes legal IsType ("global::".toList ++ chars) (.named true segments default) := by
  obtain ⟨ks, derived, joined⟩ := written
  refine ⟨.ident "global" :: .doubleColon :: ks, ?_, fun text more stops tail => ?_⟩
  · simpa using IsType.mk (.named (.global derived)) (.none _)
  · have inside := Joined.doubleColon (joined text more stops tail)
    simpa using Joined.name root (endsName_cons.mpr (by decide)) inside

theorem suffixed {mark chars : List Char} {ks : List TokenKind} {type whole : TypeExpr}
    (suffix : IsSuffix ks type whole) (ends : ∀ text, EndsName (mark ++ text))
    (joins : ∀ text more, Joined legal text more → Joined legal (mark ++ text) (ks ++ more))
    (written : Writes legal IsType chars type) : Writes legal IsType (chars ++ mark) whole := by
  obtain ⟨ks', derived, joined⟩ := written
  refine ⟨_, derived.suffixed suffix, fun text more _ tail => ?_⟩
  rw [List.append_assoc, List.append_assoc]
  exact joined _ _ (ends text) (joins text more tail)

theorem nullable {chars : List Char} {type : TypeExpr} (written : Writes legal IsType chars type) :
    Writes legal IsType (chars ++ ['?']) (.nullable type default) :=
  written.suffixed (.question type) (fun _ => endsName_cons.mpr (by decide))
    fun _ _ tail => .punctuation rfl tail

theorem array {chars : List Char} {type : TypeExpr} (commas : Nat)
    (written : Writes legal IsType chars type) :
    Writes legal IsType (chars ++ '[' :: (List.replicate commas ',' ++ [']']))
      (.array type commas default) := by
  refine written.suffixed (.brackets type commas) (fun _ => endsName_cons.mpr (by decide)) ?_
  intro text more tail
  have inside : Joined legal (List.replicate commas ',' ++ ']' :: text)
      (List.replicate commas .comma ++ .closeBracket :: more) := by
    induction commas with
    | zero => exact .punctuation rfl tail
    | succ commas ih => exact .punctuation rfl ih
  simpa using Joined.punctuation (c := '[') rfl inside

theorem unlabelled {chars : List Char} {type : TypeExpr}
    (written : Writes legal IsType chars type) : Writes legal IsElement chars (.mk type none) :=
  let ⟨ks, derived, joined⟩ := written
  ⟨ks, .plain derived, joined⟩

theorem labelled {label : String} (isLegal : legal label) {chars : List Char} {type : TypeExpr}
    (written : Writes legal IsType chars type) :
    Writes legal IsElement (chars ++ ' ' :: label.toList) (.mk type (some (label, default))) := by
  obtain ⟨ks, derived, joined⟩ := written
  refine ⟨_, .labelled label derived, fun text more stops tail => ?_⟩
  have inside : Joined legal (' ' :: (label.toList ++ text)) (.ident label :: more) :=
    .blank (by decide) (.name isLegal stops tail)
  simpa using joined _ _ (endsName_cons.mpr (by decide)) inside

theorem tuple {mark : List Char} (comma : IsComma mark) {items : List (List Char)}
    {elements : List Element} (written : List.Forall₂ (Writes legal IsElement) items elements)
    (some : items ≠ []) :
    Writes legal IsType ('(' :: (mark.intercalate items ++ [')'])) (.tuple elements default) := by
  obtain ⟨ks, derived, joined⟩ := commas comma written some
  refine ⟨.openParen :: (ks ++ [.closeParen]), ?_, fun text more _ tail => ?_⟩
  · simpa using IsType.mk (.tuple derived) (.none _)
  · have inside := joined (')' :: text) (.closeParen :: more) (endsName_cons.mpr (by decide))
      (.punctuation rfl tail)
    simpa using Joined.punctuation (c := '(') rfl inside

end Writes

/-! ## Texts and their trees -/

/-- The tokens of a text spell a tree. -/
def Spells (text : String) (tree : TypeExpr) : Prop :=
  ∃ tokens, Token.lex text = .ok tokens ∧ IsType (tokens.map Token.kind) tree

namespace Spells

variable {text : String} {tree tree' : TypeExpr}

theorem unique (spells : Spells text tree) (spells' : Spells text tree') : tree = tree' := by
  obtain ⟨tokens, lexed, derived⟩ := spells
  obtain ⟨tokens', lexed', derived'⟩ := spells'
  cases lexed.symm.trans lexed'
  exact derived.unique derived'

/-- A text that is read spells what is read, within the bound on its nesting. -/
theorem of_parse {type : TypeExpr} (read : TypeExpr.parse text = .ok type) :
    Spells text type.bare ∧ TypeExpr.Within TypeExpr.maxDepth type.bare := by
  obtain ⟨tokens, lexed, reads⟩ := TypeExpr.parse_eq_ok.mp read
  obtain ⟨ks, equal, derived, within⟩ := TypeExpr.typeAt_sound TypeExpr.maxDepth reads
  rw [List.map_nil, List.append_nil] at equal
  exact ⟨⟨tokens, lexed, equal ▸ derived⟩, within⟩

/-- A text that spells a tree is read as the tree, if it is not nested too deeply. -/
theorem exists_parse (spells : Spells text tree)
    (within : TypeExpr.Within TypeExpr.maxDepth tree) :
    ∃ type, TypeExpr.parse text = .ok type ∧ type.bare = tree := by
  obtain ⟨tokens, lexed, derived⟩ := spells
  have whole : tokens.map Token.kind = tokens.map Token.kind ++ [] := (List.append_nil _).symm
  obtain ⟨type, after, read, same, nothing⟩ :=
    TypeExpr.typeAt_accepts TypeExpr.maxDepth _ tree derived within whole (stops_nil _)
  rw [List.map_eq_nil_iff] at nothing
  subst nothing
  exact ⟨type, TypeExpr.parse_eq_ok.mpr ⟨tokens, lexed, read⟩, same⟩

/-- A text spells what its tokens derive. -/
theorem of_kinds (ks : List TokenKind)
    (kinds : (Token.lex text).toOption.map (List.map Token.kind) = some ks)
    (derived : IsType ks tree) : Spells text tree := by
  obtain ⟨tokens, lexed, rfl⟩ := toOption_map_eq_some.mp kinds
  exact ⟨tokens, lexed, derived⟩

theorem of_lexes {ks : List TokenKind} (lexed : Lexes text.toList ks) (derived : IsType ks tree) :
    Spells text tree := by
  obtain ⟨tokens, scanned, kinds⟩ := lexed 0
  exact ⟨tokens, scanned, kinds ▸ derived⟩

theorem of_writes (written : Writes IsTokenName IsType text.toList tree) : Spells text tree := by
  obtain ⟨ks, derived, joined⟩ := written
  have whole := joined [] [] endsName_nil .nil
  rw [List.append_nil, List.append_nil] at whole
  exact of_lexes whole.lexes derived

end Spells

end ConversionSynthesis
