import ConversionSynthesis.Proofs.Naming.Respelling
import ConversionSynthesis.Proofs.TypeExpr.Inside

/-! # Tuples within types

A tuple that is read has two elements or more, and one that resolves has no label twice. Every tuple
within a resolved type stems from a tuple of the expression, with the same labels, so that both hold
of it as well.
-/

namespace ConversionSynthesis

open Host

/-! ## Tuples that resolve -/

namespace Scope

variable {scope : Scope}

mutual

theorem exists_resolveType_of_mem_nodes : ∀ {expr : TypeExpr} {r : ResolvedType},
    scope.resolveType expr = .ok r →
      ∀ node ∈ expr.nodes, ∃ inner, scope.resolveType node = .ok inner
  | .named isGlobal segments span, r, resolved => by
      obtain ⟨parts, inside, -⟩ := resolveType_named_eq_ok.mp resolved
      exact List.forall_mem_cons.mpr ⟨⟨r, resolved⟩, segmentsResolve inside⟩
  | .tuple elements span, r, resolved => by
      obtain ⟨types, inside, -⟩ := resolveType_tuple_eq_ok.mp resolved
      exact List.forall_mem_cons.mpr ⟨⟨r, resolved⟩, elementsResolve inside⟩
  | .nullable inner span, r, resolved => by
      obtain ⟨-, x, inside, -⟩ := resolveType_nullable_eq_ok.mp resolved
      exact List.forall_mem_cons.mpr ⟨⟨r, resolved⟩, exists_resolveType_of_mem_nodes inside⟩
  | .array element commas span, r, resolved => by
      obtain ⟨x, inside, -⟩ := resolveType_array_eq_ok.mp resolved
      exact List.forall_mem_cons.mpr ⟨⟨r, resolved⟩, exists_resolveType_of_mem_nodes inside⟩

theorem segmentsResolve {isWhole : Bool} : ∀ {segments : List Segment}
    {parts : List ResolvedSegment}, scope.resolveSegments isWhole segments = .ok parts →
      ∀ node ∈ TypeExpr.segmentsNodes segments, ∃ inner, scope.resolveType node = .ok inner
  | [], _, _ => nofun
  | .mk name arguments span :: rest, parts, resolved => by
      obtain ⟨-, types, others, inside, more, -⟩ := resolveSegments_cons_eq_ok.mp resolved
      exact List.forall_mem_append.mpr ⟨argumentsResolve inside, segmentsResolve more⟩

theorem argumentsResolve : ∀ {arguments : List TypeExpr} {types : List HostType},
    scope.resolveArguments arguments = .ok types →
      ∀ node ∈ TypeExpr.argumentsNodes arguments, ∃ inner, scope.resolveType node = .ok inner
  | [], _, _ => nofun
  | argument :: rest, types, resolved => by
      obtain ⟨r, others, inside, more, -⟩ := resolveArguments_cons_eq_ok.mp resolved
      exact List.forall_mem_append.mpr
        ⟨exists_resolveType_of_mem_nodes inside, argumentsResolve more⟩

theorem elementsResolve {seen : List String} : ∀ {elements : List Element}
    {types : List TupleElement}, scope.resolveElements seen elements = .ok types →
      ∀ node ∈ TypeExpr.elementsNodes elements, ∃ inner, scope.resolveType node = .ok inner
  | [], _, _ => nofun
  | .mk type label :: rest, types, resolved => by
      obtain ⟨r, others, inside, -, more, -⟩ := resolveElements_cons_eq_ok.mp resolved
      exact List.forall_mem_append.mpr
        ⟨exists_resolveType_of_mem_nodes inside, elementsResolve more⟩

end

theorem bareLabels_singleton_nodup (element : Element) : (bareLabels [element]).Nodup := by
  obtain ⟨type, label⟩ := element
  cases label <;> simp [bareLabels, Element.label]

/-- The labels of elements that resolve are new and come once. -/
theorem nodup_bareLabels_of_resolveElements {seen : List String} {elements : List Element}
    {types : List TupleElement} (resolved : scope.resolveElements seen elements = .ok types) :
    (bareLabels elements).Nodup ∧ ∀ label ∈ bareLabels elements, label ∉ seen := by
  induction elements generalizing seen types with
  | nil => exact ⟨List.nodup_nil, nofun⟩
  | cons element rest ih =>
      obtain ⟨r, others, -, fresh, more, -⟩ := resolveElements_cons_eq_ok.mp resolved
      obtain ⟨distinct, apart⟩ := ih more
      simp only [List.mem_append, not_or] at apart
      rw [bareLabels_cons, List.nodup_append, List.forall_mem_append]
      refine ⟨⟨bareLabels_singleton_nodup element, distinct, ?_⟩, fresh,
        fun label mem => (apart label mem).1⟩
      rintro first isFirst label mem rfl
      exact (apart first mem).2 isFirst

/-- No tuple within an expression that resolves has a label twice. -/
theorem nodup_bareLabels_of_resolveType {expr : TypeExpr} {r : ResolvedType}
    (resolved : scope.resolveType expr = .ok r) {elements : List Element} {span : Span}
    (mem : .tuple elements span ∈ expr.nodes) : (bareLabels elements).Nodup := by
  obtain ⟨inner, tupleResolved⟩ := exists_resolveType_of_mem_nodes resolved _ mem
  obtain ⟨types, elementsResolved, -⟩ := resolveType_tuple_eq_ok.mp tupleResolved
  exact (nodup_bareLabels_of_resolveElements elementsResolved).1

end Scope

/-! ## Tuples of a resolved type -/

namespace HostType

mutual

/-- The tuples within a type, each by its elements; a tuple comes before those within it. -/
def tuples : HostType → List (List TupleElement)
  | named .. => []
  | tuple elements => elements :: elementTuples elements

def elementTuples : List TupleElement → List (List TupleElement)
  | [] => []
  | .mk _ type :: rest => type.tuples ++ elementTuples rest

end

end HostType

/-- The elements make a tuple of two or more, and no two of them have one label. -/
structure ProperTuple (elements : List TupleElement) : Prop where
  paired : 2 ≤ elements.length
  distinct : (elements.filterMap (·.label)).Nodup

namespace Scope

variable {scope : Scope}

theorem labels_of_resolveElements {seen : List String} {elements : List Element}
    {types : List TupleElement} (resolved : scope.resolveElements seen elements = .ok types) :
    types.length = elements.length ∧ types.filterMap (·.label) = bareLabels elements := by
  induction elements generalizing seen types with
  | nil =>
      cases resolved
      exact ⟨rfl, rfl⟩
  | cons element rest ih =>
      obtain ⟨r, others, -, -, more, rfl⟩ := resolveElements_cons_eq_ok.mp resolved
      obtain ⟨length, labels⟩ := ih more
      obtain ⟨type, label⟩ := element
      rw [bareLabels_cons, ← labels]
      refine ⟨by rw [List.length_cons, List.length_cons, length], ?_⟩
      cases label <;> rfl

theorem tuples_nameType (isGlobal : Bool) (segments : List ResolvedSegment) :
    (scope.nameType isGlobal segments).type.tuples = [] := by
  obtain ⟨identity, display, capability, named⟩ := @exists_named_nameType scope isGlobal segments
  rw [named]
  rfl

/-- A nullable type has a name of its own, even if it is made from a tuple. -/
theorem tuples_nullable (r : ResolvedType) : r.nullable.type.tuples = [] := by
  obtain ⟨type, isReference⟩ := r
  cases type with
  | named identity display capability =>
      simp only [ResolvedType.nullable]
      split <;> rfl
  | tuple elements => rfl

mutual

/-- Every tuple of a resolved type stems from one within the expression. -/
theorem mem_tuples_resolveType : ∀ {expr : TypeExpr} {r : ResolvedType},
    scope.resolveType expr = .ok r → ∀ elements ∈ r.type.tuples,
      ∃ source span seen, .tuple source span ∈ expr.nodes ∧
        scope.resolveElements seen source = .ok elements
  | .named isGlobal segments span, r, resolved => by
      obtain ⟨parts, -, rfl⟩ := resolveType_named_eq_ok.mp resolved
      rw [tuples_nameType]
      exact nofun
  | .tuple source span, r, resolved => by
      obtain ⟨types, inside, rfl⟩ := resolveType_tuple_eq_ok.mp resolved
      rw [HostType.tuples, List.forall_mem_cons]
      refine ⟨⟨source, span, [], List.mem_cons_self, inside⟩, ?_⟩
      intro elements mem
      obtain ⟨source', span', seen, listed, found⟩ := mem_elementTuples inside elements mem
      exact ⟨source', span', seen, List.mem_cons_of_mem _ listed, found⟩
  | .nullable inner span, r, resolved => by
      obtain ⟨-, x, -, rfl⟩ := resolveType_nullable_eq_ok.mp resolved
      rw [tuples_nullable]
      exact nofun
  | .array element commas span, r, resolved => by
      obtain ⟨x, -, rfl⟩ := resolveType_array_eq_ok.mp resolved
      exact nofun

theorem mem_elementTuples {seen : List String} : ∀ {source : List Element}
    {types : List TupleElement}, scope.resolveElements seen source = .ok types →
      ∀ elements ∈ HostType.elementTuples types,
        ∃ inner span seen, .tuple inner span ∈ TypeExpr.elementsNodes source ∧
          scope.resolveElements seen inner = .ok elements
  | [], types, resolved => by
      cases resolved
      exact nofun
  | .mk type label :: rest, types, resolved => by
      obtain ⟨r, others, inside, -, more, rfl⟩ := resolveElements_cons_eq_ok.mp resolved
      rw [relabelled, HostType.elementTuples, List.forall_mem_append]
      constructor
      · intro elements mem
        obtain ⟨inner, span, seen, listed, found⟩ := mem_tuples_resolveType inside elements mem
        exact ⟨inner, span, seen, List.mem_append_left _ listed, found⟩
      · intro elements mem
        obtain ⟨inner, span, seen, listed, found⟩ := mem_elementTuples more elements mem
        exact ⟨inner, span, seen, List.mem_append_right _ listed, found⟩

end

/-- Tuples of a type that is read and resolved are proper. -/
theorem properTuple_of_resolve {text : String} {expr : TypeExpr} {type : HostType}
    (read : TypeExpr.parse text = .ok expr) (resolved : scope.resolve expr = .ok type) :
    ∀ elements ∈ type.tuples, ProperTuple elements := by
  obtain ⟨r, succeeds, rfl⟩ := map_eq_ok.mp resolved
  intro elements mem
  obtain ⟨source, span, seen, listed, found⟩ := mem_tuples_resolveType succeeds elements mem
  obtain ⟨length, labels⟩ := labels_of_resolveElements found
  constructor
  · rw [length]
    exact TypeExpr.paired_of_parse read listed
  · rw [labels]
    exact (nodup_bareLabels_of_resolveElements found).1

end Scope

end ConversionSynthesis
