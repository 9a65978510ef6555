import ConversionSynthesis.Proofs.TypeExpr.Soundness

/-! # What is spelled is read

The other direction: along tokens whose kinds spell a tree a tree is placed that is the same but for
its places, and what is placed is read, however the text goes on behind it, as long as the next
token cannot continue it.
-/

namespace ConversionSynthesis

open Grammar

/-- Along any tokens of these kinds a value is placed that is `x` but for its places. -/
def Places {α : Type} (placed : List Token → α → Prop) (bare : α → α) (ks : List TokenKind)
    (x : α) : Prop :=
  ∀ ⦃own⦄, own.map Token.kind = ks → ∃ y, placed own y ∧ bare y = x

theorem Grammar.Separated.places {α : Type} {separator : TokenKind}
    {item : List TokenKind → α → Prop} {placed : List Token → α → Prop} {bare : α → α}
    {ks : List TokenKind} {xs : List α} (derived : Separated separator item ks xs)
    (each : ∀ ks x, x ∈ xs → item ks x → Places placed bare ks x) :
    Places (Listed separator placed) (List.map bare) ks xs := by
  induction derived with
  | one first =>
      intro own kinds
      obtain ⟨y, placed, rfl⟩ := each _ _ (List.mem_singleton.mpr rfl) first kinds
      exact ⟨[y], .one placed, rfl⟩
  | more first _ ih =>
      intro own kinds
      obtain ⟨front, back, rfl, frontKinds, backKinds⟩ := List.map_eq_append_iff.mp kinds
      obtain ⟨place, more, rfl, moreKinds⟩ := kinds_eq_cons backKinds
      obtain ⟨y, placed, rfl⟩ := each _ _ List.mem_cons_self first frontKinds
      obtain ⟨ys, others, rfl⟩ :=
        ih (fun ks x mem => each ks x (List.mem_cons_of_mem _ mem)) moreKinds
      exact ⟨y :: ys, .more place placed others, rfl⟩

theorem kinds_eq_concat {own : List Token} {ks : List TokenKind} {k : TokenKind}
    (kinds : own.map Token.kind = ks ++ [k]) :
    ∃ front place, own = front ++ [⟨k, place⟩] ∧ front.map Token.kind = ks := by
  obtain ⟨front, back, rfl, frontKinds, backKinds⟩ := List.map_eq_append_iff.mp kinds
  obtain ⟨place, more, rfl, nothing⟩ := kinds_eq_cons backKinds
  rw [List.map_eq_nil_iff] at nothing
  subst nothing
  exact ⟨front, place, rfl, frontKinds⟩

namespace TypeExpr

section

variable {part : List Token → TypeExpr → Prop} {has : TypeExpr → Prop} {ks : List TokenKind}
  (complete : ∀ ks type, IsType ks type → has type → Places part bare ks type)

include complete

theorem segment_places {segment : Segment} (derived : IsSegment ks segment)
    (parts : ∀ type ∈ segment.arguments, has type) :
    Places (PlacedSegment part) Segment.bare ks segment := by
  intro own kinds
  cases derived with
  | plain name =>
      obtain ⟨place, more, rfl, nothing⟩ := kinds_eq_cons kinds
      rw [List.map_eq_nil_iff] at nothing
      subst nothing
      exact ⟨.mk name [] place, .plain name place, rfl⟩
  | generic name arguments =>
      obtain ⟨place, behind, rfl, behindKinds⟩ := kinds_eq_cons kinds
      obtain ⟨opening, more, rfl, moreKinds⟩ := kinds_eq_cons behindKinds
      obtain ⟨inside, close, rfl, insideKinds⟩ := kinds_eq_concat moreKinds
      have each := arguments.places fun ks type mem derived =>
        complete ks type derived (parts type mem)
      obtain ⟨values, listed, rfl⟩ := each insideKinds
      refine ⟨_, .generic name place opening close listed, ?_⟩
      rw [Segment.bare, bareArguments_eq_map]

theorem path_places {segments : List Segment} (derived : Separated .dot IsSegment ks segments)
    (parts : ∀ type ∈ segments.flatMap (·.arguments), has type) :
    Places (Listed .dot (PlacedSegment part)) (List.map Segment.bare) ks segments :=
  derived.places fun _ segment mem derived => segment_places complete derived
    fun type isArgument => parts type (List.mem_flatMap.mpr ⟨segment, mem, isArgument⟩)

theorem element_places {element : Element} (derived : IsElement ks element)
    (inner : has element.type) : Places (PlacedElement part) Element.bare ks element := by
  intro own kinds
  cases derived with
  | plain type =>
      obtain ⟨value, placed, rfl⟩ := complete _ _ type inner kinds
      exact ⟨.mk value none, .plain placed, rfl⟩
  | labelled label type =>
      obtain ⟨front, place, rfl, frontKinds⟩ := kinds_eq_concat kinds
      obtain ⟨value, placed, rfl⟩ := complete _ _ type inner frontKinds
      exact ⟨_, .labelled label place placed, rfl⟩

theorem primary_places {type : TypeExpr} (derived : IsPrimary ks type)
    (paired : ∀ elements span, type = .tuple elements span → 2 ≤ elements.length)
    (parts : ∀ inner ∈ type.parts, has inner) : Places (PlacedPrimary part) bare ks type := by
  intro own kinds
  cases derived with
  | tuple elements =>
      obtain ⟨opening, more, rfl, moreKinds⟩ := kinds_eq_cons kinds
      obtain ⟨inside, close, rfl, insideKinds⟩ := kinds_eq_concat moreKinds
      have each := elements.places fun ks element mem derived =>
        element_places complete derived (parts element.type (List.mem_map_of_mem mem))
      obtain ⟨values, listed, rfl⟩ := each insideKinds
      have wide : 2 ≤ values.length := by simpa using paired _ _ rfl
      refine ⟨_, .tuple opening close listed wide, ?_⟩
      rw [bare, bareElements_eq_map]
  | named named =>
      cases named with
      | plain segments =>
          obtain ⟨values, listed, rfl⟩ := path_places complete segments parts kinds
          obtain ⟨first, others, rfl⟩ := List.exists_cons_of_ne_nil
            (listed.ne_nil fun _ _ => PlacedSegment.ne_nil)
          refine ⟨_, .path first listed, ?_⟩
          rw [bare, bareSegments_eq_map]
      | global segments =>
          obtain ⟨root, behind, rfl, behindKinds⟩ := kinds_eq_cons kinds
          obtain ⟨colons, more, rfl, moreKinds⟩ := kinds_eq_cons behindKinds
          obtain ⟨values, listed, rfl⟩ := path_places complete segments parts moreKinds
          refine ⟨_, .global root colons listed, ?_⟩
          rw [bare, bareSegments_eq_map]

end

theorem commas_of_kinds {own : List Token} {count : Nat}
    (kinds : own.map Token.kind = List.replicate count .comma) :
    ∃ commas : List Span, own = commas.map (⟨.comma, ·⟩) ∧ commas.length = count := by
  induction count generalizing own with
  | zero => exact ⟨[], List.map_eq_nil_iff.mp kinds, rfl⟩
  | succ count ih =>
      obtain ⟨place, more, rfl, moreKinds⟩ := kinds_eq_cons kinds
      obtain ⟨commas, rfl, rfl⟩ := ih moreKinds
      exact ⟨place :: commas, rfl, rfl⟩

theorem suffix_places {ks : List TokenKind} {inner : TypeExpr} (type : TypeExpr)
    (suffix : IsSuffix ks type.bare inner) : Places (PlacedSuffix · type ·) bare ks inner := by
  intro own kinds
  generalize same : type.bare = head at suffix
  cases suffix with
  | question =>
      obtain ⟨mark, more, rfl, nothing⟩ := kinds_eq_cons kinds
      rw [List.map_eq_nil_iff] at nothing
      subst nothing
      exact ⟨_, .question type mark, by rw [bare, same]⟩
  | brackets _ count =>
      obtain ⟨opening, more, rfl, moreKinds⟩ := kinds_eq_cons kinds
      obtain ⟨inside, close, rfl, insideKinds⟩ := kinds_eq_concat moreKinds
      obtain ⟨commas, rfl, rfl⟩ := commas_of_kinds insideKinds
      exact ⟨_, .brackets type opening close commas, by rw [bare, same]⟩

theorem suffixes_places {ks : List TokenKind} {whole head : TypeExpr}
    (suffixes : AreSuffixes ks head whole) (type : TypeExpr) (same : type.bare = head) :
    Places (PlacedSuffixes · type ·) bare ks whole := by
  induction suffixes generalizing type with
  | none =>
      intro own kinds
      rw [List.map_eq_nil_iff] at kinds
      subst kinds
      exact ⟨type, .none type, same⟩
  | more suffix _ ih =>
      intro own kinds
      obtain ⟨front, back, rfl, frontKinds, backKinds⟩ := List.map_eq_append_iff.mp kinds
      subst same
      obtain ⟨inner, placed, bare⟩ := suffix_places type suffix frontKinds
      obtain ⟨whole, others, rfl⟩ := ih inner bare backKinds
      exact ⟨whole, .more placed others, rfl⟩

/-- Along tokens that spell a tree within the bound the same tree is placed. -/
theorem type_places {levels : Nat} {ks : List TokenKind} {type : TypeExpr}
    (derived : IsType ks type) (within : Within levels type) :
    Places (Placed levels) bare ks type := by
  -- The derivation of a part is nested deeper, but it is the level that decreases.
  induction levels generalizing ks type with
  | zero => exact absurd within (not_within_zero type)
  | succ levels ih =>
      intro own kinds
      obtain ⟨primary, suffixes⟩ := derived
      obtain ⟨paired, capped, parts⟩ := within_succ.mp within
      rw [suffixes.head, primary.head] at paired
      rw [suffixes.parts] at parts
      obtain ⟨front, back, rfl, frontKinds, backKinds⟩ := List.map_eq_append_iff.mp kinds
      obtain ⟨head, placed, same⟩ :=
        primary_places (fun _ _ => ih) primary paired parts frontKinds
      obtain ⟨whole, others, rfl⟩ := suffixes_places suffixes head same backKinds
      rw [suffixCount_bare] at capped
      exact ⟨whole, ⟨front, back, head, rfl, placed, others, capped⟩, rfl⟩

/-- Tokens that start with the kinds of a tree are read as that tree, and the parser leaves the ones
behind, if they do not continue it. -/
theorem typeAt_accepts {size : Nat} (levels : Nat) (ks : List TokenKind) (type : TypeExpr)
    (derived : IsType ks type) (within : Within levels type) {input : List Token}
    {rest : List TokenKind} (equal : input.map Token.kind = ks ++ rest)
    (stops : Stops continuesType rest) :
    ∃ value after, Reads (typeAt size levels) input value after ∧ value.bare = type ∧
      after.map Token.kind = rest := by
  obtain ⟨own, after, rfl, kinds, rfl⟩ := List.map_eq_append_iff.mp equal
  obtain ⟨value, placed, same⟩ := type_places derived within kinds
  exact ⟨value, after, typeAt_gives placed (Nat.le_refl _) stops, same, rfl⟩

end TypeExpr

/-! ## Texts -/

open TypeExpr

/-- A text is read as a type exactly if its tokens spell the type within the deepest nesting. No
tokens spell two types, whatever their nesting. -/
theorem parse_eq_ok_iff_spelled :
    (∀ (text : String) (tree : TypeExpr),
      (∃ type, parse text = .ok type ∧ type.bare = tree.bare) ↔
        ∃ tokens, Token.lex text = .ok tokens ∧ IsType (tokens.map Token.kind) tree.bare ∧
          Within maxDepth tree.bare) ∧
    ∀ (ks : List TokenKind) (type type' : TypeExpr), IsType ks type → IsType ks type' →
      type = type' := by
  refine ⟨?_, fun ks type type' derived derived' => derived.unique derived'⟩
  intro text tree
  constructor
  · rintro ⟨type, parsed, same⟩
    obtain ⟨tokens, lexed, read⟩ := parse_eq_ok.mp parsed
    obtain ⟨ks, equal, derived, within⟩ := typeAt_sound maxDepth read
    rw [List.map_nil, List.append_nil] at equal
    rw [same] at derived within
    rw [← equal] at derived
    exact ⟨tokens, lexed, derived, within⟩
  · rintro ⟨tokens, lexed, derived, within⟩
    have whole : tokens.map Token.kind = tokens.map Token.kind ++ [] := (List.append_nil _).symm
    obtain ⟨type, after, read, same, nothing⟩ :=
      typeAt_accepts maxDepth _ _ derived within whole (stops_nil _)
    rw [List.map_eq_nil_iff] at nothing
    subst nothing
    exact ⟨type, parse_eq_ok.mpr ⟨tokens, lexed, read⟩, same⟩

/-- A type written `(A, B x)?`. -/
def nullablePair : TypeExpr :=
  .nullable (.tuple [.mk (.named false [.mk "A" [] default] default) none,
    .mk (.named false [.mk "B" [] default] default) (some ("x", default))] default) default

theorem parse_nullablePair :
    let spelled : List TokenKind :=
      [.openParen, .ident "A", .comma, .ident "B", .ident "x", .closeParen, .question]
    IsType spelled nullablePair ∧ Within maxDepth nullablePair ∧
      (∃ type, parse "(A, B x)?" = .ok type ∧ type.bare = nullablePair) ∧
      ∀ other, IsType spelled other → other = nullablePair := by
  intro spelled
  have name (word : String) : IsType [.ident word] (.named false [.mk word [] default] default) :=
    .mk (.named (.plain (.one (.plain word)))) (.none _)
  have derived : IsType spelled nullablePair :=
    .mk (.tuple (.more (.plain (name "A")) (.one (.labelled "x" (name "B")))))
      (.more (.question _) (.none _))
  have leaf (word : String) : Within (126 + 1) (.named false [.mk word [] default] default) :=
    within_succ.mpr ⟨nofun, Nat.zero_le _, nofun⟩
  have within : Within (127 + 1) nullablePair := by
    refine within_succ.mpr ⟨?_, by decide, ?_⟩
    · intro elements span same
      cases same
      decide
    · intro inner isPart
      have cases : inner ∈ [named false [.mk "A" [] default] default,
        named false [.mk "B" [] default] default] := isPart
      rw [List.mem_cons, List.mem_singleton] at cases
      rcases cases with rfl | rfl
      · exact leaf "A"
      · exact leaf "B"
  have letters : "(A, B x)?".toList = ['(', 'A', ',', ' ', 'B', ' ', 'x', ')', '?'] := rfl
  obtain ⟨tokens, lexed, kinds⟩ :
      ∃ tokens, Token.lex "(A, B x)?" = .ok tokens ∧ tokens.map Token.kind = spelled := by
    unfold Token.lex
    rw [letters]
    simp +decide [Token.scan, TokenKind.ofChar?, Except.map, spelled]
  refine ⟨derived, within, ?_, ?_⟩
  · rw [← kinds] at derived
    exact (parse_eq_ok_iff_spelled.1 "(A, B x)?" nullablePair).mpr
      ⟨tokens, lexed, derived, within⟩
  · intro other derived'
    exact parse_eq_ok_iff_spelled.2 spelled other nullablePair derived' derived

end ConversionSynthesis
