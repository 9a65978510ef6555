import ConversionSynthesis.Proofs.Naming.Resolving

/-! # What resolution fails on

An expression that does not resolve has an expression within it that is at fault for the error by
itself: a name with a reserved word for a segment, a tuple with a label that repeats, or a nullable
type of a nullable one. The place of the error is that of the segment, of the label, or of the whole
nullable type.
-/

namespace ConversionSynthesis

/-- The expression is at fault for the error, whatever its parts are. -/
def TypeExpr.AtFault (error : ResolveError) : TypeExpr → Prop
  | named isGlobal segments _ => ∃ segment ∈ segments,
      error = ⟨.reservedName segment.name, segment.span⟩ ∧
        Scope.mayName (!isGlobal && segments.length == 1) segment.name = false
  | tuple elements _ => ∃ element ∈ elements, ∃ written place,
      element.label = some (written, place) ∧ error = ⟨.duplicateLabel (Host.bare written), place⟩
  | nullable inner span => Scope.isNullable inner = true ∧ error = ⟨.nullableTwice, span⟩
  | array _ _ _ => False

namespace Scope

variable {scope : Scope} {error : ResolveError}

mutual

theorem atFault_of_resolveType : ∀ {expr : TypeExpr}, scope.resolveType expr = .error error →
    ∃ node ∈ expr.nodes, node.AtFault error
  | .named isGlobal segments span, failed => by
      rw [resolveType, map_eq_error] at failed
      rcases atFault_of_resolveSegments failed with here | ⟨node, inside, atFault⟩
      · exact ⟨_, List.mem_cons_self, here⟩
      · exact ⟨node, List.mem_cons_of_mem _ inside, atFault⟩
  | .tuple elements span, failed => by
      rw [resolveType, map_eq_error] at failed
      rcases atFault_of_resolveElements failed with here | ⟨node, inside, atFault⟩
      · exact ⟨_, List.mem_cons_self, here⟩
      · exact ⟨node, List.mem_cons_of_mem _ inside, atFault⟩
  | .nullable inner span, failed => by
      rw [resolveType] at failed
      split at failed
      · next twice =>
          cases failed
          exact ⟨_, List.mem_cons_self, twice, rfl⟩
      · obtain ⟨node, inside, atFault⟩ := atFault_of_resolveType (map_eq_error.mp failed)
        exact ⟨node, List.mem_cons_of_mem _ inside, atFault⟩
  | .array element commas span, failed => by
      rw [resolveType, map_eq_error] at failed
      obtain ⟨node, inside, atFault⟩ := atFault_of_resolveType failed
      exact ⟨node, List.mem_cons_of_mem _ inside, atFault⟩

theorem atFault_of_resolveSegments {isWhole : Bool} : ∀ {segments : List Segment},
    scope.resolveSegments isWhole segments = .error error →
      (∃ segment ∈ segments, error = ⟨.reservedName segment.name, segment.span⟩ ∧
        mayName isWhole segment.name = false) ∨
      ∃ node ∈ TypeExpr.segmentsNodes segments, node.AtFault error
  | [], failed => by cases failed
  | .mk name arguments span :: rest, failed => by
      rw [resolveSegments_cons] at failed
      split at failed
      · next may =>
          rcases bind_eq_error.mp failed with inArguments | ⟨types, -, inRest⟩
          · obtain ⟨node, inside, atFault⟩ := atFault_of_resolveArguments inArguments
            exact .inr ⟨node, List.mem_append_left _ inside, atFault⟩
          · rcases atFault_of_resolveSegments (map_eq_error.mp inRest) with
              ⟨segment, mem, here⟩ | ⟨node, inside, atFault⟩
            · exact .inl ⟨segment, List.mem_cons_of_mem _ mem, here⟩
            · exact .inr ⟨node, List.mem_append_right _ inside, atFault⟩
      · next mayNot =>
          cases failed
          exact .inl ⟨_, List.mem_cons_self, rfl, Bool.eq_false_iff.mpr mayNot⟩

theorem atFault_of_resolveArguments : ∀ {arguments : List TypeExpr},
    scope.resolveArguments arguments = .error error →
      ∃ node ∈ TypeExpr.argumentsNodes arguments, node.AtFault error
  | [], failed => by cases failed
  | argument :: rest, failed => by
      rw [resolveArguments_cons] at failed
      rcases bind_eq_error.mp failed with inFirst | ⟨types, -, inRest⟩
      · obtain ⟨node, inside, atFault⟩ := atFault_of_resolveType inFirst
        exact ⟨node, List.mem_append_left _ inside, atFault⟩
      · obtain ⟨node, inside, atFault⟩ := atFault_of_resolveArguments (map_eq_error.mp inRest)
        exact ⟨node, List.mem_append_right _ inside, atFault⟩

theorem atFault_of_resolveElements {seen : List String} : ∀ {elements : List Element},
    scope.resolveElements seen elements = .error error →
      (∃ element ∈ elements, ∃ written place, element.label = some (written, place) ∧
        error = ⟨.duplicateLabel (Host.bare written), place⟩) ∨
      ∃ node ∈ TypeExpr.elementsNodes elements, node.AtFault error
  | [], failed => by cases failed
  | .mk type none :: rest, failed => by
      rw [resolveElements_unlabelled] at failed
      rcases bind_eq_error.mp failed with inFirst | ⟨types, -, inRest⟩
      · obtain ⟨node, inside, atFault⟩ := atFault_of_resolveType inFirst
        exact .inr ⟨node, List.mem_append_left _ inside, atFault⟩
      · rcases atFault_of_resolveElements (map_eq_error.mp inRest) with
          ⟨element, mem, here⟩ | ⟨node, inside, atFault⟩
        · exact .inl ⟨element, List.mem_cons_of_mem _ mem, here⟩
        · exact .inr ⟨node, List.mem_append_right _ inside, atFault⟩
  | .mk type (some (written, span)) :: rest, failed => by
      rw [resolveElements_labelled] at failed
      rcases bind_eq_error.mp failed with inFirst | ⟨types, -, behind⟩
      · obtain ⟨node, inside, atFault⟩ := atFault_of_resolveType inFirst
        exact .inr ⟨node, List.mem_append_left _ inside, atFault⟩
      · split at behind
        · cases behind
          exact .inl ⟨_, List.mem_cons_self, written, span, rfl, rfl⟩
        · rcases atFault_of_resolveElements (map_eq_error.mp behind) with
            ⟨element, mem, here⟩ | ⟨node, inside, atFault⟩
          · exact .inl ⟨element, List.mem_cons_of_mem _ mem, here⟩
          · exact .inr ⟨node, List.mem_append_right _ inside, atFault⟩

end

end Scope

end ConversionSynthesis
