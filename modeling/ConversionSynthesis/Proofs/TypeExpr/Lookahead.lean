import ConversionSynthesis.Proofs.TypeExpr.Failing

/-! # How far the parser looks

What the parser reads depends on the tokens that it takes and on the kind of the next one, but on
nothing behind that. A parser that goes through more levels of nesting reads the same.
-/

namespace ConversionSynthesis

open Grammar

section

variable {rest rest' : List Token}

theorem nextKind_append (own : List Token) (same : nextKind rest' = nextKind rest) :
    nextKind (own ++ rest') = nextKind (own ++ rest) := by
  cases own with
  | nil => exact same
  | cons token own => rfl

theorem Grammar.Stops.of_nextKind {continues : TokenKind → Bool}
    (stops : Stops continues (rest.map Token.kind)) (same : nextKind rest' = nextKind rest) :
    Stops continues (rest'.map Token.kind) := by
  intro k ks equal
  obtain ⟨span, more, rfl, -⟩ := kinds_eq_cons equal
  obtain ⟨span', more', rfl⟩ := nextKind_eq_some.mp same.symm
  exact stops_cons.mp stops

/-- Of `global ::` the second token may be the next one. -/
theorem TypeExpr.StartsGlobal.of_nextKind {own : List Token} (some : own ≠ [])
    (same : nextKind rest' = nextKind rest) (starts : StartsGlobal (own ++ rest')) :
    StartsGlobal (own ++ rest) := by
  obtain ⟨first, others, rfl⟩ := List.exists_cons_of_ne_nil some
  obtain ⟨root, colons, more, equal⟩ := starts
  obtain ⟨rfl, behind⟩ := List.cons.inj equal
  have next : nextKind (others ++ rest) = .some .doubleColon := by
    rw [← nextKind_append others same]
    exact nextKind_eq_some.mpr ⟨colons, more, behind⟩
  obtain ⟨colons', more', follows⟩ := nextKind_eq_some.mp next
  exact ⟨root, colons', more', congrArg (_ :: ·) follows⟩

end

/-- What the one parser reads, the other reads off the same tokens, whatever stands behind them, as
long as the next token is of the same kind. -/
def Rereads {α : Type} (parser parser' : TokenParser α) : Prop :=
  ∀ ⦃input value rest⦄, Reads parser input value rest →
    ∃ own, input = own ++ rest ∧
      ∀ rest', nextKind rest' = nextKind rest → Reads parser' (own ++ rest') value rest'

theorem Reads.ne_nil {α : Type} {parser : TokenParser α} {own rest : List Token} {value : α}
    (read : Reads parser (own ++ rest) value rest) : own ≠ [] := by
  rintro rfl
  exact Nat.lt_irrefl _ read.shorter

namespace TypeExpr

variable {α : Type} {size : Nat} {inner inner' : TokenParser TypeExpr}

theorem separated_rereads {separator : TokenKind} {item item' : TokenParser α}
    (rereads : Rereads item item') :
    Rereads (separated separator item) (separated separator item') := by
  intro input values rest read
  induction values generalizing input with
  | nil =>
      rcases reads_separated.mp read with ⟨_, impossible, _⟩ | ⟨_, _, _, _, impossible, _⟩ <;>
        cases impossible
  | cons value others ih =>
      rcases reads_separated.mp read with ⟨first, equal, readFirst, stops⟩ |
        ⟨first, ⟨kind, place⟩, more, others', equal, readFirst, rfl, readOthers⟩
      · cases equal
        obtain ⟨own, rfl, reread⟩ := rereads readFirst
        refine ⟨own, rfl, fun rest' same => ?_⟩
        exact reads_separated.mpr (.inl ⟨_, rfl, reread rest' same, stops.of_nextKind same⟩)
      · cases equal
        obtain ⟨own, rfl, reread⟩ := rereads readFirst
        obtain ⟨behind, rfl, rereadOthers⟩ := ih readOthers
        refine ⟨own ++ ⟨kind, place⟩ :: behind, by simp, fun rest' same => ?_⟩
        rw [List.append_assoc, List.cons_append]
        exact reads_separated.mpr
          (.inr ⟨_, _, _, _, rfl, reread _ rfl, rfl, rereadOthers rest' same⟩)

section

variable (rereads : Rereads inner inner')

include rereads

theorem segment_rereads : Rereads (segment size inner) (segment size inner') := by
  intro input value rest read
  rcases reads_segment.mp read with ⟨name, place, rfl, rfl, stops⟩ |
    ⟨name, place, opening, more, arguments, close, rfl, rfl, readArguments⟩
  · refine ⟨[⟨.ident name, place⟩], rfl, fun rest' same => ?_⟩
    exact reads_segment.mpr (.inl ⟨name, place, rfl, rfl, stops.of_nextKind same⟩)
  · obtain ⟨own, rfl, reread⟩ := separated_rereads rereads readArguments
    refine ⟨⟨.ident name, place⟩ :: ⟨.openAngle, opening⟩ :: (own ++ [⟨.closeAngle, close⟩]),
      by simp, fun rest' _ => ?_⟩
    refine reads_segment.mpr
      (.inr ⟨name, place, opening, _, arguments, close, ?_, rfl, reread _ rfl⟩)
    simp

theorem name_rereads : Rereads (name size inner) (name size inner') := by
  intro input value rest read
  rcases reads_name.mp read with ⟨segments, root, colons, more, rfl, rfl, readPath⟩ |
    ⟨segments, plain, rfl, readPath⟩
  · obtain ⟨own, rfl, reread⟩ := separated_rereads (segment_rereads rereads) readPath
    refine ⟨_ :: _ :: own, rfl, fun rest' same => ?_⟩
    exact reads_name.mpr (.inl ⟨segments, root, colons, _, rfl, rfl, reread rest' same⟩)
  · obtain ⟨own, rfl, reread⟩ := separated_rereads (segment_rereads rereads) readPath
    have some := readPath.ne_nil
    refine ⟨own, rfl, fun rest' same => reads_name.mpr (.inr
      ⟨segments, ?_, ?_, reread rest' same⟩)⟩
    · intro root colons more equal
      obtain ⟨root, colons, more, equal⟩ := StartsGlobal.of_nextKind some same ⟨_, _, _, equal⟩
      exact plain _ _ _ equal
    · obtain ⟨first, own, rfl⟩ := List.exists_cons_of_ne_nil some
      rfl

theorem element_rereads : Rereads (element inner) (element inner') := by
  intro input value rest read
  rcases reads_element.mp read with ⟨type, rfl, readType, unlabelled⟩ |
    ⟨type, label, place, rfl, readType⟩
  · obtain ⟨own, rfl, reread⟩ := rereads readType
    refine ⟨own, rfl, fun rest' same => reads_element.mpr (.inl ⟨type, rfl, reread _ same, ?_⟩)⟩
    intro label
    rw [← nextKind_ne_some, same]
    exact nextKind_ne_some.mpr (unlabelled label)
  · obtain ⟨own, rfl, reread⟩ := rereads readType
    refine ⟨own ++ [⟨.ident label, place⟩], by simp, fun rest' _ => ?_⟩
    rw [List.append_assoc]
    exact reads_element.mpr (.inr ⟨type, label, place, rfl, reread _ rfl⟩)

theorem primary_rereads : Rereads (primary size inner) (primary size inner') := by
  intro input value rest read
  rcases reads_primary.mp read with ⟨opening, more, rfl, readTuple⟩ | ⟨started, readName⟩
  · obtain ⟨started, elements, close, rfl, wide, readElements⟩ := reads_tupleFrom.mp readTuple
    obtain ⟨own, rfl, reread⟩ := separated_rereads (element_rereads rereads) readElements
    refine ⟨⟨.openParen, opening⟩ :: (own ++ [⟨.closeParen, close⟩]), by simp, fun rest' _ => ?_⟩
    refine reads_primary.mpr (.inl ⟨opening, own ++ ⟨.closeParen, close⟩ :: rest', by simp,
      reads_tupleFrom.mpr ⟨?_, elements, close, rfl, wide, reread _ rfl⟩⟩)
    have next : nextKind (own ++ ⟨.closeParen, close⟩ :: rest') =
        nextKind (own ++ ⟨.closeParen, close⟩ :: rest) := nextKind_append own rfl
    rw [← nextKind_ne_some, next]
    exact nextKind_ne_some.mpr started
  · obtain ⟨own, rfl, reread⟩ := name_rereads rereads readName
    refine ⟨own, rfl, fun rest' same => reads_primary.mpr (.inr ⟨?_, reread rest' same⟩)⟩
    rw [← nextKind_ne_some, nextKind_append own same]
    exact nextKind_ne_some.mpr started

end

theorem suffixes_rereads {room room' : Nat} (le : room ≤ room') {type whole : TypeExpr}
    {input rest : List Token} (read : ReadsSuffixes size room type input whole rest) :
    ∃ own, input = own ++ rest ∧ ∀ rest', nextKind rest' = nextKind rest →
      ReadsSuffixes size room' type (own ++ rest') whole rest' := by
  induction room' generalizing room type input with
  | zero =>
      rcases readsSuffixes_iff.mp read with ⟨rfl, rfl, stops⟩ | ⟨less, _, _, _, rfl, _⟩
      · refine ⟨[], rfl, fun rest' same => ?_⟩
        exact readsSuffixes_iff.mpr (.inl ⟨rfl, rfl, stops.of_nextKind same⟩)
      · cases le
  | succ room' ih =>
      rcases readsSuffixes_iff.mp read with ⟨rfl, rfl, stops⟩ |
        ⟨less, mark, inner, more, rfl, rfl, suffix, readInner⟩
      · refine ⟨[], rfl, fun rest' same => ?_⟩
        exact readsSuffixes_iff.mpr (.inl ⟨rfl, rfl, stops.of_nextKind same⟩)
      · obtain ⟨own, rfl, reread⟩ := ih (Nat.le_of_succ_le_succ le) readInner
        refine ⟨mark ++ own, by rw [List.append_assoc], fun rest' same => ?_⟩
        rw [List.append_assoc]
        exact readsSuffixes_iff.mpr
          (.inr ⟨room', mark, inner, _, rfl, rfl, suffix, reread rest' same⟩)

theorem typeAt_rereads {levels levels' : Nat} (le : levels ≤ levels') :
    Rereads (typeAt size levels) (typeAt size levels') := by
  induction levels generalizing levels' with
  | zero =>
      intro input value rest read
      exact absurd read not_reads_typeAt_zero
  | succ levels ih =>
      obtain ⟨less, rfl⟩ : ∃ less, levels' = less + 1 := ⟨levels' - 1, by omega⟩
      intro input value rest read
      obtain ⟨head, more, readHead, readSuffixes⟩ := reads_typeAt.mp read
      have below := Nat.le_of_succ_le_succ le
      obtain ⟨front, rfl, rereadHead⟩ := primary_rereads (ih below) readHead
      obtain ⟨back, rfl, rereadSuffixes⟩ := suffixes_rereads below readSuffixes
      refine ⟨front ++ back, by rw [List.append_assoc], fun rest' same => ?_⟩
      rw [List.append_assoc]
      exact reads_typeAt.mpr
        ⟨head, _, rereadHead _ (nextKind_append back same), rereadSuffixes rest' same⟩

end TypeExpr

end ConversionSynthesis
