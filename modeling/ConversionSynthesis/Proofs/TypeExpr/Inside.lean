import ConversionSynthesis.Proofs.TypeExpr.Children
import ConversionSynthesis.Proofs.TypeExpr.Nodes

/-! # Every expression within, along the tokens

An expression within one that was read is a child of a child, and so on; so it is spelled along some
of the tokens of the text. Every name in it stems from a token, so it holds letters and digits only
behind a mark it may have; and no path and no tuple is empty.
-/

namespace ConversionSynthesis

open TypeExpr

theorem TypeExpr.mem_nodes {type node : TypeExpr} :
    node ∈ type.nodes ↔ node = type ∨ ∃ child ∈ type.children, node ∈ child.nodes := by
  cases type with
  | named isGlobal segments span =>
      simp only [nodes, children, segmentsNodes_eq_flatMap, argumentsNodes_eq_flatMap,
        ← List.flatMap_assoc, List.mem_cons, List.mem_flatMap]
  | tuple elements span => simp [nodes, children, elementsNodes_eq_flatMap]
  | nullable inner span => simp [nodes, children]
  | array element commas span => simp [nodes, children]

theorem TypeExpr.depth_lt_of_mem_children {type child : TypeExpr}
    (isChild : child ∈ type.children) : child.depth < type.depth := by
  cases type with
  | named isGlobal segments span => exact depth_lt_of_mem_parts isChild
  | tuple elements span => exact depth_lt_of_mem_parts isChild
  | nullable inner span =>
      rw [List.mem_singleton.mp isChild, depth]
      omega
  | array element commas span =>
      rw [List.mem_singleton.mp isChild, depth]
      omega

theorem TypeExpr.forall_mem_nodes {holds : TypeExpr → Prop}
    (inward : ∀ type, holds type → ∀ child ∈ type.children, holds child) :
    ∀ type, holds type → ∀ node ∈ type.nodes, holds node := by
  intro type itself
  induction size : type.depth using Nat.strong_induction_on generalizing type with
  | h depth ih =>
      intro node mem
      rcases mem_nodes.mp mem with rfl | ⟨child, isChild, inside⟩
      · exact itself
      · exact ih child.depth (size ▸ depth_lt_of_mem_children isChild) child
          (inward type itself child isChild) rfl node inside

/-- Every expression within one that was read is placed along some of the tokens. -/
theorem exists_placed_of_parse {text : String} {type : TypeExpr} (read : parse text = .ok type) :
    ∃ tokens, Token.lex text = .ok tokens ∧ ∀ node ∈ type.nodes, ∃ before own behind,
      tokens = before ++ (own ++ behind) ∧ Placed maxDepth own node := by
  obtain ⟨tokens, lexed, whole⟩ := parse_eq_ok_iff_placed.mp read
  refine ⟨tokens, lexed, forall_mem_nodes ?_ type ⟨[], tokens, [], by simp, whole⟩⟩
  -- The children of an expression stand along its own tokens.
  rintro node ⟨before, own, behind, same, placed⟩ child isChild
  obtain ⟨before', own', behind', rfl, placedChild⟩ := placed.holds.exists_of_mem isChild
  exact ⟨before ++ before', own', behind' ++ behind, by simp [same], placedChild⟩

/-! ## Names along the tokens -/

/-- The name is among the tokens. -/
def HasName (own : List Token) (name : String) : Prop :=
  .ident name ∈ own.map Token.kind

section

variable {part : List Token → TypeExpr → Prop} {own : List Token}

theorem PlacedSegment.hasName {segment : Segment} (placed : PlacedSegment part own segment) :
    HasName own segment.name := by
  cases placed <;> exact List.mem_cons_self

theorem PlacedElement.hasNames {element : Element} (placed : PlacedElement part own element) :
    Holds HasName own (element.label.map (·.1)).toList := by
  cases placed with
  | plain type => exact .nil _
  | labelled label place type => exact .singleton (by simp [HasName])

theorem PlacedPrimary.hasNames {type : TypeExpr} (placed : PlacedPrimary part own type) :
    Holds HasName own type.ownNames := by
  cases type with
  | named isGlobal segments span =>
      rw [ownNames, List.map_eq_flatMap]
      exact placed.holds_segments.flatMap fun _ _ segment => .singleton segment.hasName
  | tuple elements span =>
      rw [ownNames, List.filterMap_eq_flatMap_toList]
      exact placed.holds_elements.flatMap fun _ _ => PlacedElement.hasNames
  | nullable | array => cases placed

end

theorem Placed.hasNames {levels : Nat} {own : List Token} {type : TypeExpr}
    (placed : Placed levels own type) : Holds HasName own type.ownNames := by
  cases type with
  | named | tuple =>
      obtain ⟨_, primary⟩ := placed.primary rfl
      exact primary.hasNames
  | nullable | array => exact .nil _

theorem isTokenName_of_parse {text : String} {type : TypeExpr} (read : parse text = .ok type) :
    ∀ name ∈ type.names, IsTokenName name := by
  obtain ⟨tokens, lexed, everywhere⟩ := exists_placed_of_parse read
  intro name mem
  obtain ⟨node, isNode, isOwn⟩ := List.mem_flatMap.mp mem
  obtain ⟨before, own, behind, rfl, placed⟩ := everywhere node isNode
  obtain ⟨before', own', behind', rfl, among⟩ := placed.hasNames.exists_of_mem isOwn
  refine (Scans.of_scan lexed).isTokenName ?_
  simp only [List.map_append, List.mem_append]
  exact .inr (.inl (.inr (.inl among)))

/-! ## Well-formed expressions -/

theorem Placed.segments_ne_nil {levels : Nat} {own : List Token} {isGlobal : Bool}
    {segments : List Segment} {span : Span}
    (placed : Placed levels own (.named isGlobal segments span)) : segments ≠ [] := by
  obtain ⟨_, primary⟩ := placed.primary rfl
  cases primary with
  | path first listed => exact listed.items_ne_nil
  | global root colons listed => exact listed.items_ne_nil

theorem Placed.paired {levels : Nat} {own : List Token} {elements : List Element} {span : Span}
    (placed : Placed levels own (.tuple elements span)) : 2 ≤ elements.length := by
  obtain ⟨_, primary⟩ := placed.primary rfl
  exact primary.paired

theorem TypeExpr.paired_of_parse {text : String} {type : TypeExpr} (read : parse text = .ok type)
    {elements : List Element} {span : Span} (mem : .tuple elements span ∈ type.nodes) :
    2 ≤ elements.length := by
  obtain ⟨_, _, everywhere⟩ := exists_placed_of_parse read
  obtain ⟨_, _, _, _, placed⟩ := everywhere _ mem
  exact placed.paired

theorem TypeExpr.formed_of_parse {text : String} {type : TypeExpr}
    (read : parse text = .ok type) : ∀ node ∈ type.nodes, node.Formed := by
  obtain ⟨_, _, everywhere⟩ := exists_placed_of_parse read
  intro node mem
  obtain ⟨_, _, _, _, placed⟩ := everywhere node mem
  cases node with
  | named isGlobal segments span =>
      refine ⟨placed.segments_ne_nil, fun segment isSegment => ?_⟩
      have isName : segment.name ∈ type.names :=
        List.mem_flatMap.mpr ⟨_, mem, List.mem_map_of_mem isSegment⟩
      exact isTokenName_of_parse read _ isName
  | tuple elements span =>
      exact List.length_pos_iff.mp (Nat.lt_of_lt_of_le Nat.two_pos placed.paired)
  | nullable | array => trivial

end ConversionSynthesis
