import ConversionSynthesis.Proofs.Manifest.Checking
import ConversionSynthesis.Proofs.Naming.Lookup
import ConversionSynthesis.Proofs.Naming.Resolving
import ConversionSynthesis.Proofs.Text.SingleLines
import ConversionSynthesis.Proofs.TypeExpr.Inside
import ConversionSynthesis.Proofs.TypeExpr.Words

/-! # Types are spelled in one line

No name holds a newline, and the spelling of a resolved type is put together from names: those that
were written, and those of declared types. So it holds no newline either, whatever blanks the type
was written with.
-/

namespace ConversionSynthesis

open Host Text

/-! ## Names -/

theorem IsWord.isLine {name : String} (word : IsWord name) : IsLine name :=
  word.not_mem (by decide) (by decide)

theorem isLine_of_isIdentifier {name : String} (identifier : isIdentifier name = true) :
    IsLine name :=
  (isWord_of_isIdentifier identifier).isLine

theorem isLine_escaped {name : String} (single : IsLine name) : IsLine (escaped name) := by
  unfold escaped
  split
  · exact IsLine.append (by decide) single
  · exact single

theorem isLine_below {above name : String} (outer : IsLine above) (single : IsLine name) :
    IsLine (below above name) := by
  unfold below
  split
  · exact single
  · exact (outer.append (by decide)).append single

theorem isLine_genericDisplay {name : String} {arguments : List String} (single : IsLine name)
    (lines : ∀ argument ∈ arguments, IsLine argument) : IsLine (genericDisplay name arguments) :=
  isLine_bracketed (by decide) single lines

/-! ## Spellings of resolved types -/

/-- The declared types are spelled in one line. -/
def Registry.InLines (registry : Registry) : Prop :=
  ∀ declared ∈ registry, IsLine declared.prefixDisplay ∧ IsLine declared.name

theorem Registry.mem_of_lookup?_eq_some {registry : Registry} {path : String}
    {segments arity : Nat} {declared : DeclaredType}
    (found : registry.lookup? path segments arity = some declared) : declared ∈ registry := by
  unfold lookup? at found
  split at found
  · next target byPath =>
      cases found
      exact (of_byPath?_eq_some byPath).1
  · split at found
    · exact (of_bySimpleName?_eq_some found).1
    · cases found

namespace Scope

variable {scope : Scope}

/-- A dotted name is spelled as it was written, or as the declared type that it refers to. -/
theorem display_dottedName (isGlobal : Bool) (segments : List ResolvedSegment) :
    (scope.dottedName isGlobal segments).type.display = writtenDisplay isGlobal segments ∨
      ∃ declared ∈ scope.registry,
        (scope.dottedName isGlobal segments).type.display =
          "global::" ++ below declared.prefixDisplay (genericDisplay declared.name
            (((segments.getLast?.map (·.arguments)).getD []).map (·.display))) := by
  have spelled (target : Option DeclaredType) (arguments : List HostType)
      (known : ∀ declared ∈ target, declared ∈ scope.registry) :
      (nameParts isGlobal segments arguments target).2.1 = writtenDisplay isGlobal segments ∨
        ∃ declared ∈ scope.registry, (nameParts isGlobal segments arguments target).2.1 =
          "global::" ++ below declared.prefixDisplay
            (genericDisplay declared.name (arguments.map (·.display))) := by
    cases target with
    | none => exact .inl rfl
    | some declared => exact .inr ⟨declared, known declared rfl, rfl⟩
  unfold dottedName
  dsimp only
  split
  · exact .inl rfl
  · have known : ∀ declared ∈ (if segments.dropLast.all (·.arguments.isEmpty) then
        scope.registry.lookup? (".".intercalate (segments.map (·.name)))
          (segments.map (·.name)).length
          ((segments.getLast?.map (·.arguments)).getD []).length
        else none), declared ∈ scope.registry := by
      intro declared found
      split at found
      · exact Registry.mem_of_lookup?_eq_some found
      · cases found
    have display := spelled _ ((segments.getLast?.map (·.arguments)).getD []) known
    split <;> exact display

theorem isLine_nameType (inLines : scope.registry.InLines) (isGlobal : Bool)
    {segments : List ResolvedSegment}
    (each : ∀ segment ∈ segments, IsLine segment.written ∧
      ∀ type ∈ segment.arguments, IsLine type.display) :
    IsLine (scope.nameType isGlobal segments).type.display := by
  have arguments {types : List HostType} (lines : ∀ type ∈ types, IsLine type.display) :
      ∀ argument ∈ types.map (·.display), IsLine argument :=
    List.forall_mem_map.mpr lines
  have written (isGlobal : Bool) : IsLine (writtenDisplay isGlobal segments) := by
    refine .append ?_ (isLine_intercalate (by decide) ?_)
    · cases isGlobal <;> decide
    · rw [List.forall_mem_map]
      intro segment mem
      exact isLine_genericDisplay (each segment mem).1 (arguments (each segment mem).2)
  have dotted (isGlobal : Bool) : IsLine (scope.dottedName isGlobal segments).type.display := by
    rcases scope.display_dottedName isGlobal segments with same | ⟨declared, mem, same⟩
    · rw [same]
      exact written isGlobal
    · rw [same]
      obtain ⟨outer, single⟩ := inLines declared mem
      have last : ∀ type ∈ (segments.getLast?.map (·.arguments)).getD [], IsLine type.display := by
        cases found : segments.getLast? with
        | none => exact List.forall_mem_nil _
        | some segment => exact (each segment (List.mem_of_getLast? found)).2
      exact .append (by decide)
        (isLine_below outer (isLine_genericDisplay single (arguments last)))
  unfold nameType
  split
  · next name =>
      unfold loneName?
      have single := (each ⟨name, []⟩ List.mem_cons_self).1
      split
      · exact single
      · cases Builtin.ofKeyword? name with
        | some builtin => exact single
        | none => exact dotted false
  · exact dotted isGlobal

theorem isLine_nullable {r : ResolvedType} (single : IsLine r.type.display) :
    IsLine r.nullable.type.display := by
  obtain ⟨type, isReference⟩ := r
  have marked : IsLine (type.display ++ "?") := single.append (by decide)
  cases type with
  | tuple elements => exact marked
  | named identity display capability =>
      unfold ResolvedType.nullable
      dsimp only
      split <;> exact marked

theorem isLine_array {r : ResolvedType} (single : IsLine r.type.display) (commas : Nat) :
    IsLine (r.array commas).type.display := by
  have inside : IsLine (String.ofList (List.replicate commas ',')) := by
    simp [IsLine]
  have brackets : IsLine ("[" ++ String.ofList (List.replicate commas ',') ++ "]") :=
    (IsLine.append (by decide) inside).append (by decide)
  exact single.append brackets

mutual

theorem isLine_resolveType (inLines : scope.registry.InLines) :
    ∀ {expr : TypeExpr} {r : ResolvedType},
    (∀ node ∈ expr.nodes, ∀ name ∈ node.ownNames, IsTokenName name) →
    scope.resolveType expr = .ok r → IsLine r.type.display
  | .named isGlobal segments span, r, names, succeeds => by
      rw [TypeExpr.nodes, List.forall_mem_cons] at names
      obtain ⟨resolved, succeedsSegments, rfl⟩ := resolveType_named_eq_ok.mp succeeds
      exact isLine_nameType inLines isGlobal
        (isLine_resolveSegments inLines (List.forall_mem_map.mp names.1) names.2 succeedsSegments)
  | .tuple elements span, r, names, succeeds => by
      rw [TypeExpr.nodes, List.forall_mem_cons] at names
      obtain ⟨types, succeedsElements, rfl⟩ := resolveType_tuple_eq_ok.mp succeeds
      have labels : ∀ element ∈ elements, ∀ label ∈ element.label, IsTokenName label.1 := by
        intro element mem label isLabel
        refine names.1 label.1 (List.mem_filterMap.mpr ⟨element, mem, ?_⟩)
        rw [isLabel, Option.map_some]
      have lines := isLine_resolveElements inLines labels names.2 succeedsElements
      exact (IsLine.append (by decide) (isLine_intercalate (by decide) lines)).append (by decide)
  | .nullable inner span, r, names, succeeds => by
      rw [TypeExpr.nodes, List.forall_mem_cons] at names
      obtain ⟨-, x, succeedsInner, rfl⟩ := resolveType_nullable_eq_ok.mp succeeds
      exact isLine_nullable (isLine_resolveType inLines names.2 succeedsInner)
  | .array element commas span, r, names, succeeds => by
      rw [TypeExpr.nodes, List.forall_mem_cons] at names
      obtain ⟨x, succeedsElement, rfl⟩ := resolveType_array_eq_ok.mp succeeds
      exact isLine_array (isLine_resolveType inLines names.2 succeedsElement) commas

theorem isLine_resolveSegments (inLines : scope.registry.InLines) {isWhole : Bool} :
    ∀ {segments : List Segment} {resolved : List ResolvedSegment},
    (∀ segment ∈ segments, IsTokenName segment.name) →
    (∀ node ∈ TypeExpr.segmentsNodes segments, ∀ name ∈ node.ownNames, IsTokenName name) →
    scope.resolveSegments isWhole segments = .ok resolved →
      ∀ segment ∈ resolved, IsLine segment.written ∧
        ∀ type ∈ segment.arguments, IsLine type.display
  | [], resolved, tokens, names, succeeds => by
      cases succeeds
      exact List.forall_mem_nil _
  | .mk name arguments span :: rest, resolved, tokens, names, succeeds => by
      rw [List.forall_mem_cons] at tokens
      rw [TypeExpr.segmentsNodes, List.forall_mem_append] at names
      obtain ⟨-, types, others, succeedsArguments, succeedsRest, rfl⟩ :=
        resolveSegments_cons_eq_ok.mp succeeds
      exact List.forall_mem_cons.mpr
        ⟨⟨tokens.1.isWord.isLine, isLine_resolveArguments inLines names.1 succeedsArguments⟩,
          isLine_resolveSegments inLines tokens.2 names.2 succeedsRest⟩

theorem isLine_resolveArguments (inLines : scope.registry.InLines) :
    ∀ {arguments : List TypeExpr} {types : List HostType},
    (∀ node ∈ TypeExpr.argumentsNodes arguments, ∀ name ∈ node.ownNames, IsTokenName name) →
    scope.resolveArguments arguments = .ok types → ∀ type ∈ types, IsLine type.display
  | [], types, names, succeeds => by
      cases succeeds
      exact List.forall_mem_nil _
  | argument :: rest, types, names, succeeds => by
      rw [TypeExpr.argumentsNodes, List.forall_mem_append] at names
      obtain ⟨r, others, succeedsFirst, succeedsRest, rfl⟩ :=
        resolveArguments_cons_eq_ok.mp succeeds
      exact List.forall_mem_cons.mpr ⟨isLine_resolveType inLines names.1 succeedsFirst,
        isLine_resolveArguments inLines names.2 succeedsRest⟩

theorem isLine_resolveElements (inLines : scope.registry.InLines) {seen : List String} :
    ∀ {elements : List Element} {types : List TupleElement},
    (∀ element ∈ elements, ∀ label ∈ element.label, IsTokenName label.1) →
    (∀ node ∈ TypeExpr.elementsNodes elements, ∀ name ∈ node.ownNames, IsTokenName name) →
    scope.resolveElements seen elements = .ok types →
      ∀ text ∈ HostType.displays types, IsLine text
  | [], types, labels, names, succeeds => by
      cases succeeds
      exact List.forall_mem_nil _
  | .mk type label :: rest, types, labels, names, succeeds => by
      rw [List.forall_mem_cons] at labels
      rw [TypeExpr.elementsNodes, List.forall_mem_append] at names
      obtain ⟨r, others, succeedsFirst, -, succeedsRest, rfl⟩ :=
        resolveElements_cons_eq_ok.mp succeeds
      have single := isLine_resolveType inLines names.1 succeedsFirst
      have lines := isLine_resolveElements inLines labels.2 names.2 succeedsRest
      cases label with
      | none => exact List.forall_mem_cons.mpr ⟨single, lines⟩
      | some written =>
          have bareLine := (labels.1 written rfl).isWord_bare.isLine
          have labelled : IsLine (r.type.display ++ " " ++ escaped (bare written.1)) :=
            (single.append (by decide)).append (isLine_escaped bareLine)
          exact List.forall_mem_cons.mpr ⟨labelled, lines⟩

end

end Scope

theorem Denotes.isLine_display {scope : Scope} (inLines : scope.registry.InLines) {text : String}
    {type : HostType} (denotes : Denotes scope text type) : IsLine type.display := by
  obtain ⟨expr, read, resolved⟩ := denotes
  obtain ⟨r, succeeds, rfl⟩ := map_eq_ok.mp resolved
  refine Scope.isLine_resolveType inLines (fun node mem name isOwn => ?_) succeeds
  exact isTokenName_of_parse read name (List.mem_flatMap.mpr ⟨node, mem, isOwn⟩)

end ConversionSynthesis
