import ConversionSynthesis.Manifest.Loading
import ConversionSynthesis.Proofs.Naming.CheckedResolution

/-! # No step goes wrong

Every text can be read by checked steps, and what was read can be resolved by checked steps,
whatever the scope is. The errors on the way point into the text: to whole characters of it, so that
a highlight made of them ends one byte behind the text at most.
-/

namespace ConversionSynthesis

open TypeExpr

/-! ## Places of faults -/

/-- What is wrong with an expression stands along some of its tokens. -/
theorem Placed.exists_covers {levels : Nat} {own : List Token} {node : TypeExpr}
    {error : ResolveError} (placed : Placed levels own node) (ordered : InOrder own)
    (atFault : node.AtFault error) :
    ∃ before part behind, own = before ++ (part ++ behind) ∧ error.span.Covers part := by
  cases node with
  | named isGlobal segments span =>
      obtain ⟨segment, mem, rfl, -⟩ := atFault
      obtain ⟨_, primary⟩ := placed.primary rfl
      obtain ⟨before, part, behind, same, placedSegment⟩ := primary.holds_segments.exists_of_mem mem
      exact ⟨before, part, behind, same, placedSegment.covers⟩
  | tuple elements span =>
      obtain ⟨element, mem, written, place, labelled, rfl⟩ := atFault
      obtain ⟨_, primary⟩ := placed.primary rfl
      obtain ⟨before, part, behind, rfl, placedElement⟩ := primary.holds_elements.exists_of_mem mem
      cases placedElement with
      | plain type => cases labelled
      | @labelled own type label place type =>
          cases labelled
          exact ⟨before ++ own, [⟨.ident written, place⟩], behind, by simp, rfl, rfl⟩
  | nullable inner span =>
      obtain ⟨-, rfl⟩ := atFault
      exact ⟨[], own, [], by simp, placed.covers ordered⟩
  | array element commas span => exact atFault.elim

theorem resolve_error_inside {text : String} {expr : TypeExpr} {scope : Scope}
    {error : ResolveError} (read : parse text = .ok expr)
    (failed : scope.resolve expr = .error error) : error.span.Inside text := by
  obtain ⟨tokens, lexed, everywhere⟩ := exists_placed_of_parse read
  obtain ⟨node, mem, atFault⟩ := Scope.atFault_of_resolveType (map_eq_error.mp failed)
  obtain ⟨before, own, behind, rfl, placed⟩ := everywhere node mem
  have ordered := (Scans.of_scan lexed).inOrder.1.of_append.2.of_append.1
  obtain ⟨before', part, behind', rfl, covers⟩ := placed.exists_covers ordered atFault
  have regrouped : before ++ (before' ++ (part ++ behind') ++ behind) =
      (before ++ before') ++ (part ++ (behind' ++ behind)) := by simp
  rw [regrouped] at lexed
  exact covers.inside lexed

/-- A highlight is one byte long at least, so that it may end one byte behind its text. -/
theorem Span.Inside.highlight_le {span : Span} {text : String} (inside : span.Inside text)
    (remark : String) :
    (Highlight.ofSpan remark span).offset + (Highlight.ofSpan remark span).length ≤
      text.utf8ByteSize + 1 := by
  have ordered := inside.ordered
  have bounded := inside.bounded
  simp only [Highlight.ofSpan, Span.length]
  omega

/-! ## Reading and resolving -/

/-- Reading a text by checked steps comes to an end, with the type or the error of the text, and so
does resolving the type in any scope. From any mark of a text and at any depth, reading a type comes
back to the depth that it started from, whether it fails or not, if it may make a call for each
level that is left and one more. The errors of both have spans inside the text, and highlights that
end one byte behind it at most. -/
theorem checked_parse_resolve (text : String) (scope : Scope) :
    (Checked.parse text).run = some (parse text) ∧
    (∀ size tokens (cursor : Checked.Cursor) calls, cursor.Ready size tokens →
      maxDepth - cursor.depth < calls →
      ∃ result after, Checked.Step.typeExpr calls cursor = some (result, after) ∧
        after.Ready size tokens ∧ after.depth = cursor.depth) ∧
    (∀ error, parse text = .error error → error.span.Inside text ∧
      ∀ remark, (Highlight.ofSpan remark error.span).offset +
        (Highlight.ofSpan remark error.span).length ≤ text.utf8ByteSize + 1) ∧
    ∀ expr, parse text = .ok expr →
      (Checked.resolve scope expr).run = some (scope.resolve expr) ∧
      ∀ error, scope.resolve expr = .error error → error.span.Inside text ∧
        ∀ remark, (Highlight.ofSpan remark error.span).offset +
          (Highlight.ofSpan remark error.span).length ≤ text.utf8ByteSize + 1 := by
  refine ⟨Checked.run_parse text, fun _ _ _ _ => Checked.typeExpr_ends, ?unread, ?read⟩
  case unread =>
    intro error failed
    have inside := parse_error_inside failed
    exact ⟨inside, inside.highlight_le⟩
  case read =>
    intro expr read
    refine ⟨Checked.run_resolve (formed_of_parse read), fun error failed => ?_⟩
    have inside := resolve_error_inside read failed
    exact ⟨inside, inside.highlight_le⟩

/-- The pair written `(é a, é a)`, with one label twice. -/
def repeatedLabel : TypeExpr :=
  .tuple [.mk (.named false [.mk "é" [] ⟨1, 3⟩] ⟨1, 3⟩) (some ("a", ⟨4, 5⟩)),
    .mk (.named false [.mk "é" [] ⟨7, 9⟩] ⟨7, 9⟩) (some ("a", ⟨10, 11⟩))] ⟨0, 12⟩

theorem checked_parse_resolve_repeatedLabel :
    parse "(é a, é a)" = .ok repeatedLabel ∧
      (Checked.resolve {} repeatedLabel).run =
        some (.error ⟨.duplicateLabel "a", ⟨10, 11⟩⟩) ∧
      (⟨10, 11⟩ : Span).Inside "(é a, é a)" ∧
      (Checked.parse "é[").run = some (.error ⟨.expected .arrayEnd none, ⟨3, 3⟩⟩) ∧
      (⟨3, 3⟩ : Span).Inside "é[" ∧
      ∃ result after, Checked.Step.typeExpr 122 ⟨Checked.marks 0 [], 0, 7⟩ = some (result, after) ∧
        after.depth = 7 := by
  have read : parse "(é a, é a)" = .ok repeatedLabel := by with_unfolding_all rfl
  have failed : ({} : Scope).resolve repeatedLabel =
      .error ⟨.duplicateLabel "a", ⟨10, 11⟩⟩ := by with_unfolding_all rfl
  have broken : parse "é[" = .error ⟨.expected .arrayEnd none, ⟨3, 3⟩⟩ := by
    with_unfolding_all rfl
  obtain ⟨-, calls, -, resolves⟩ := checked_parse_resolve "(é a, é a)" {}
  obtain ⟨runs, errors⟩ := resolves repeatedLabel read
  obtain ⟨reads, -, syntaxErrors, -⟩ := checked_parse_resolve "é[" {}
  obtain ⟨result, after, ran, -, depth⟩ :=
    calls 0 [] ⟨Checked.marks 0 [], 0, 7⟩ 122 ⟨rfl, Nat.le_refl _⟩ (Nat.lt_succ_self _)
  rw [failed] at runs
  rw [broken] at reads
  exact ⟨read, runs, (errors _ failed).1, reads, (syntaxErrors _ broken).1, result, after, ran,
    depth⟩

end ConversionSynthesis
