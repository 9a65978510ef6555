import ConversionSynthesis.Proofs.TypeExpr.Children
import ConversionSynthesis.Proofs.TypeExpr.Nesting

/-! # What is read is spelled

What is placed along tokens is spelled by their kinds in the grammar, production by production. The
level below bounds the parts.
-/

namespace ConversionSynthesis

open Grammar

section

variable {part : List Token → TypeExpr → Prop} {own : List Token}

theorem Listed.spelled {α : Type} {separator : TokenKind} {item : List Token → α → Prop}
    {spells : List TokenKind → α → Prop} {bare : α → α} {xs : List α}
    (each : ∀ own x, item own x → spells (own.map Token.kind) (bare x))
    (listed : Listed separator item own xs) :
    Separated separator spells (own.map Token.kind) (xs.map bare) := by
  induction listed with
  | one first => exact .one (each _ _ first)
  | more place first _ ih =>
      rw [List.map_append]
      exact .more (each _ _ first) ih

section

variable (each : ∀ own type, part own type → IsType (own.map Token.kind) type.bare)

include each

theorem PlacedSegment.spelled {segment : Segment} (placed : PlacedSegment part own segment) :
    IsSegment (own.map Token.kind) segment.bare := by
  cases placed with
  | plain name place => exact .plain name
  | generic name place opening close listed =>
      rw [List.map_cons, List.map_cons, List.map_append, Segment.bare, bareArguments_eq_map]
      exact .generic name (listed.spelled each)

theorem PlacedElement.spelled {element : Element} (placed : PlacedElement part own element) :
    IsElement (own.map Token.kind) element.bare := by
  cases placed with
  | plain type => exact .plain (each _ _ type)
  | labelled label place type =>
      rw [List.map_append]
      exact .labelled label (each _ _ type)

theorem PlacedPrimary.spelled {type : TypeExpr} (placed : PlacedPrimary part own type) :
    IsPrimary (own.map Token.kind) type.bare := by
  cases placed with
  | path first listed =>
      rw [TypeExpr.bare, bareSegments_eq_map]
      exact .named (.plain (listed.spelled fun _ _ => PlacedSegment.spelled each))
  | global root colons listed =>
      rw [TypeExpr.bare, bareSegments_eq_map]
      exact .named (.global (listed.spelled fun _ _ => PlacedSegment.spelled each))
  | tuple opening close listed wide =>
      rw [List.map_cons, List.map_append, TypeExpr.bare, bareElements_eq_map]
      exact .tuple (listed.spelled fun _ _ => PlacedElement.spelled each)

end

theorem PlacedSuffix.spelled {type inner : TypeExpr} (suffix : PlacedSuffix own type inner) :
    IsSuffix (own.map Token.kind) type.bare inner.bare := by
  cases suffix with
  | question type mark => exact .question type.bare
  | brackets type opening close commas =>
      have spelled := IsSuffix.brackets type.bare commas.length
      simpa [Function.comp_def, List.map_const', TypeExpr.bare] using spelled

theorem PlacedSuffixes.spelled {type whole : TypeExpr}
    (suffixes : PlacedSuffixes own type whole) :
    AreSuffixes (own.map Token.kind) type.bare whole.bare := by
  induction suffixes with
  | none => exact .none _
  | more suffix _ ih =>
      rw [List.map_append]
      exact .more suffix.spelled ih

theorem Placed.spelled {levels : Nat} {type : TypeExpr} (placed : Placed levels own type) :
    IsType (own.map Token.kind) type.bare ∧ TypeExpr.Within levels type.bare := by
  induction levels generalizing own type with
  | zero => exact placed.elim
  | succ levels ih =>
      have parts := placed.holds_parts
      obtain ⟨front, back, head, rfl, primary, suffixes, capped⟩ := placed
      have derived := primary.spelled fun _ _ inside => (ih inside).1
      rw [List.map_append]
      refine ⟨.mk derived suffixes.spelled, TypeExpr.within_succ.mpr ⟨?_, ?_, ?_⟩⟩
      · intro elements span isTuple
        rw [TypeExpr.head_bare, suffixes.head, primary.head] at isTuple
        cases head with
        | tuple elements' span' =>
            cases isTuple
            simpa using primary.paired
        | named | nullable | array => cases isTuple
      · rwa [TypeExpr.suffixCount_bare]
      · rw [TypeExpr.parts_bare, List.forall_mem_map]
        intro inner isPart
        obtain ⟨_, _, _, -, placed⟩ := parts.exists_of_mem isPart
        exact (ih placed).2

end

/-- What the parser reads is spelled by the tokens that it takes, within the bound. -/
theorem TypeExpr.typeAt_sound {size : Nat} (levels : Nat) {input rest : List Token}
    {type : TypeExpr} (read : Reads (typeAt size levels) input type rest) :
    ∃ ks, input.map Token.kind = ks ++ rest.map Token.kind ∧ IsType ks type.bare ∧
      Within levels type.bare := by
  obtain ⟨own, rfl, placed⟩ := typeAt_takes levels read
  exact ⟨own.map Token.kind, List.map_append, placed.spelled⟩

end ConversionSynthesis
