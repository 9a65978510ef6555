import ConversionSynthesis.Naming.Resolution
import ConversionSynthesis.Proofs.Sequence
import ConversionSynthesis.Proofs.TypeExpr.Nodes

/-! # Resolution step by step

For each function of the resolution, what it makes of one more item, and when it succeeds. Faults
lie in how an expression is put together, and the scope answers one question only, what type a name
denotes. So scopes with the same answers resolve every expression alike, no scope accepts more than
another, and the places that an expression was read from do not matter.
-/

namespace ConversionSynthesis

namespace Scope

section Steps

variable (scope : Scope) (isWhole : Bool) (seen : List String)

theorem resolveSegments_cons (name : String) (arguments : List TypeExpr) (span : Span)
    (rest : List Segment) :
    scope.resolveSegments isWhole (.mk name arguments span :: rest) =
      if mayName isWhole name then
        scope.resolveArguments arguments >>= fun types =>
          (scope.resolveSegments isWhole rest).map (⟨name, types⟩ :: ·)
      else .error ⟨.reservedName name, span⟩ := by
  rw [resolveSegments]
  cases scope.resolveArguments arguments <;> rfl

theorem resolveArguments_cons (argument : TypeExpr) (rest : List TypeExpr) :
    scope.resolveArguments (argument :: rest) =
      scope.resolveType argument >>= fun resolved =>
        (scope.resolveArguments rest).map (resolved.type :: ·) := by
  rw [resolveArguments]
  cases scope.resolveType argument <;> rfl

theorem resolveElements_unlabelled (type : TypeExpr) (rest : List Element) :
    scope.resolveElements seen (.mk type none :: rest) =
      scope.resolveType type >>= fun resolved =>
        (scope.resolveElements seen rest).map (.mk none resolved.type :: ·) := by
  rw [resolveElements]
  cases scope.resolveType type <;> rfl

theorem resolveElements_labelled (type : TypeExpr) (written : String) (span : Span)
    (rest : List Element) :
    scope.resolveElements seen (.mk type (some (written, span)) :: rest) =
      scope.resolveType type >>= fun resolved =>
        if seen.contains (Host.bare written) then .error ⟨.duplicateLabel (Host.bare written), span⟩
        else (scope.resolveElements (seen ++ [Host.bare written]) rest).map
          (.mk (some (Host.bare written)) resolved.type :: ·) := by
  rw [resolveElements]
  cases scope.resolveType type <;> rfl

end Steps

/-! ## Success -/

variable {scope : Scope} {isWhole : Bool} {seen : List String}

theorem resolveType_named_eq_ok {isGlobal : Bool} {segments : List Segment} {span : Span}
    {r : ResolvedType} :
    scope.resolveType (.named isGlobal segments span) = .ok r ↔
      ∃ resolved, scope.resolveSegments (!isGlobal && segments.length == 1) segments =
        .ok resolved ∧ scope.nameType isGlobal resolved = r := by
  rw [resolveType, map_eq_ok]

theorem resolveType_tuple_eq_ok {elements : List Element} {span : Span} {r : ResolvedType} :
    scope.resolveType (.tuple elements span) = .ok r ↔
      ∃ types, scope.resolveElements [] elements = .ok types ∧ ⟨.tuple types, false⟩ = r := by
  rw [resolveType, map_eq_ok]

theorem resolveType_nullable_eq_ok {inner : TypeExpr} {span : Span} {r : ResolvedType} :
    scope.resolveType (.nullable inner span) = .ok r ↔
      isNullable inner = false ∧ ∃ x, scope.resolveType inner = .ok x ∧ x.nullable = r := by
  rw [resolveType]
  cases isNullable inner
  · simpa using map_eq_ok
  · simp

theorem resolveType_array_eq_ok {element : TypeExpr} {commas : Nat} {span : Span}
    {r : ResolvedType} :
    scope.resolveType (.array element commas span) = .ok r ↔
      ∃ x, scope.resolveType element = .ok x ∧ x.array commas = r := by
  rw [resolveType, map_eq_ok]

theorem resolveSegments_cons_eq_ok {name : String} {arguments : List TypeExpr} {span : Span}
    {rest : List Segment} {resolved : List ResolvedSegment} :
    scope.resolveSegments isWhole (.mk name arguments span :: rest) = .ok resolved ↔
      mayName isWhole name = true ∧ ∃ types others,
        scope.resolveArguments arguments = .ok types ∧
        scope.resolveSegments isWhole rest = .ok others ∧ ⟨name, types⟩ :: others = resolved := by
  rw [resolveSegments_cons]
  cases mayName isWhole name
  · simp
  · simp [bind_eq_ok, map_eq_ok]

theorem resolveArguments_cons_eq_ok {argument : TypeExpr} {rest : List TypeExpr}
    {types : List HostType} :
    scope.resolveArguments (argument :: rest) = .ok types ↔
      ∃ r others, scope.resolveType argument = .ok r ∧
        scope.resolveArguments rest = .ok others ∧ r.type :: others = types := by
  simp [resolveArguments_cons, bind_eq_ok, map_eq_ok]

/-- The labels of elements, bare. -/
def bareLabels (elements : List Element) : List String :=
  elements.filterMap fun element => element.label.map fun written => Host.bare written.1

/-- An element with a new type and its label bare. -/
def relabelled (element : Element) (type : HostType) : TupleElement :=
  .mk (element.label.map fun written => Host.bare written.1) type

/-- Elements resolve one by one, as long as no label comes twice. -/
theorem resolveElements_cons_eq_ok {element : Element} {rest : List Element}
    {types : List TupleElement} :
    scope.resolveElements seen (element :: rest) = .ok types ↔
      ∃ r others, scope.resolveType element.type = .ok r ∧
        (∀ label ∈ bareLabels [element], label ∉ seen) ∧
        scope.resolveElements (seen ++ bareLabels [element]) rest = .ok others ∧
        relabelled element r.type :: others = types := by
  obtain ⟨type, label⟩ := element
  cases label with
  | none =>
      simp [resolveElements_unlabelled, bind_eq_ok, map_eq_ok, bareLabels, relabelled,
        Element.type, Element.label]
  | some written =>
      obtain ⟨written, span⟩ := written
      rw [resolveElements_labelled]
      by_cases repeated : Host.bare written ∈ seen
      · simp [bind_eq_ok, bareLabels, Element.label, repeated]
      · simp [bind_eq_ok, map_eq_ok, bareLabels, relabelled, Element.type, Element.label,
          repeated]

/-! ## Faults -/

section Faults

variable (scope scope' : Scope)

mutual

/-- Whether a type expression resolves, and else why not, is the same in every scope. -/
theorem outcome_resolveType :
    ∀ expr, outcome (scope.resolveType expr) = outcome (scope'.resolveType expr)
  | .named isGlobal segments _ => by
      rw [resolveType, resolveType, outcome_map, outcome_map]
      exact outcome_resolveSegments _ segments
  | .tuple elements _ => by
      rw [resolveType, resolveType, outcome_map, outcome_map]
      exact outcome_resolveElements [] elements
  | .nullable inner _ => by
      rw [resolveType, resolveType]
      split
      · rfl
      · rw [outcome_map, outcome_map]
        exact outcome_resolveType inner
  | .array element _ _ => by
      rw [resolveType, resolveType, outcome_map, outcome_map]
      exact outcome_resolveType element

theorem outcome_resolveSegments (isWhole : Bool) :
    ∀ segments, outcome (scope.resolveSegments isWhole segments) =
      outcome (scope'.resolveSegments isWhole segments)
  | [] => rfl
  | .mk name arguments span :: rest => by
      rw [resolveSegments_cons, resolveSegments_cons]
      split
      · refine outcome_bind (outcome_resolveArguments arguments) fun _ _ => ?_
        rw [outcome_map, outcome_map]
        exact outcome_resolveSegments isWhole rest
      · rfl

theorem outcome_resolveArguments :
    ∀ arguments, outcome (scope.resolveArguments arguments) =
      outcome (scope'.resolveArguments arguments)
  | [] => rfl
  | argument :: rest => by
      rw [resolveArguments_cons, resolveArguments_cons]
      refine outcome_bind (outcome_resolveType argument) fun _ _ => ?_
      rw [outcome_map, outcome_map]
      exact outcome_resolveArguments rest

theorem outcome_resolveElements (seen : List String) :
    ∀ elements, outcome (scope.resolveElements seen elements) =
      outcome (scope'.resolveElements seen elements)
  | [] => rfl
  | .mk type none :: rest => by
      rw [resolveElements_unlabelled, resolveElements_unlabelled]
      refine outcome_bind (outcome_resolveType type) fun _ _ => ?_
      rw [outcome_map, outcome_map]
      exact outcome_resolveElements seen rest
  | .mk type (some (written, span)) :: rest => by
      rw [resolveElements_labelled, resolveElements_labelled]
      refine outcome_bind (outcome_resolveType type) fun _ _ => ?_
      split
      · rfl
      · rw [outcome_map, outcome_map]
        exact outcome_resolveElements _ rest

end

end Faults

/-! ## Answers of a scope -/

theorem written_resolveSegments {segments : List Segment} {resolved : List ResolvedSegment}
    (succeeds : scope.resolveSegments isWhole segments = .ok resolved) :
    resolved.map (·.written) = segments.map (·.name) := by
  induction segments generalizing resolved with
  | nil =>
      cases succeeds
      rfl
  | cons segment rest ih =>
      obtain ⟨name, arguments, span⟩ := segment
      obtain ⟨-, types, others, -, succeedsOthers, rfl⟩ :=
        resolveSegments_cons_eq_ok.mp succeeds
      rw [List.map_cons, List.map_cons, ih succeedsOthers]
      rfl

/-- Names denote the same types in both scopes, if their segments as written are known. -/
def AgreeOn (known : List String → Prop) (scope scope' : Scope) : Prop :=
  ∀ isGlobal segments, known (segments.map (·.written)) →
    scope.nameType isGlobal segments = scope'.nameType isGlobal segments

section Agreeing

variable {scope scope' : Scope} {known : List String → Prop}

mutual

theorem resolveType_of_nodes (names : AgreeOn known scope scope') : ∀ expr : TypeExpr,
    (∀ node ∈ expr.nodes, ∀ path ∈ node.path?, known path) →
      scope.resolveType expr = scope'.resolveType expr
  | .named isGlobal segments _, within => by
      have here := (List.forall_mem_cons.mp within).1 _ rfl
      have inside := (List.forall_mem_cons.mp within).2
      rw [resolveType, resolveType, resolveSegments_of_nodes names _ segments inside]
      apply map_congr_ok
      intro resolved succeeds
      apply names
      rw [written_resolveSegments succeeds]
      exact here
  | .tuple elements _, within => by
      have inside := (List.forall_mem_cons.mp within).2
      rw [resolveType, resolveType, resolveElements_of_nodes names [] elements inside]
  | .nullable inner _, within => by
      have inside := (List.forall_mem_cons.mp within).2
      rw [resolveType, resolveType, resolveType_of_nodes names inner inside]
  | .array element _ _, within => by
      have inside := (List.forall_mem_cons.mp within).2
      rw [resolveType, resolveType, resolveType_of_nodes names element inside]

theorem resolveSegments_of_nodes (names : AgreeOn known scope scope') (isWhole : Bool) :
    ∀ segments : List Segment,
    (∀ node ∈ TypeExpr.segmentsNodes segments, ∀ path ∈ node.path?, known path) →
      scope.resolveSegments isWhole segments = scope'.resolveSegments isWhole segments
  | [], _ => rfl
  | .mk name arguments span :: rest, within => by
      have inside := List.forall_mem_append.mp within
      rw [resolveSegments_cons, resolveSegments_cons,
        resolveArguments_of_nodes names arguments inside.1,
        resolveSegments_of_nodes names isWhole rest inside.2]

theorem resolveArguments_of_nodes (names : AgreeOn known scope scope') :
    ∀ arguments : List TypeExpr,
    (∀ node ∈ TypeExpr.argumentsNodes arguments, ∀ path ∈ node.path?, known path) →
      scope.resolveArguments arguments = scope'.resolveArguments arguments
  | [], _ => rfl
  | argument :: rest, within => by
      have inside := List.forall_mem_append.mp within
      rw [resolveArguments_cons, resolveArguments_cons,
        resolveType_of_nodes names argument inside.1,
        resolveArguments_of_nodes names rest inside.2]

theorem resolveElements_of_nodes (names : AgreeOn known scope scope') (seen : List String) :
    ∀ elements : List Element,
    (∀ node ∈ TypeExpr.elementsNodes elements, ∀ path ∈ node.path?, known path) →
      scope.resolveElements seen elements = scope'.resolveElements seen elements
  | [], _ => rfl
  | .mk type none :: rest, within => by
      have inside := List.forall_mem_append.mp within
      rw [resolveElements_unlabelled, resolveElements_unlabelled,
        resolveType_of_nodes names type inside.1,
        resolveElements_of_nodes names seen rest inside.2]
  | .mk type (some (written, span)) :: rest, within => by
      have inside := List.forall_mem_append.mp within
      rw [resolveElements_labelled, resolveElements_labelled,
        resolveType_of_nodes names type inside.1,
        resolveElements_of_nodes names _ rest inside.2]

end

/-- Scopes that give the names within an expression the same types resolve it alike. -/
theorem resolveType_congr_on (names : AgreeOn known scope scope') {expr : TypeExpr}
    (within : ∀ path ∈ expr.paths, known path) : scope.resolveType expr = scope'.resolveType expr :=
  resolveType_of_nodes names expr fun node mem path isPath =>
    within path (List.mem_filterMap.mpr ⟨node, mem, isPath⟩)

end Agreeing

/-- Scopes that give every name the same type resolve every expression alike. -/
theorem resolveType_congr {scope scope' : Scope} (names : scope.nameType = scope'.nameType)
    (expr : TypeExpr) : scope.resolveType expr = scope'.resolveType expr := by
  have everywhere : ∀ path ∈ expr.paths, True := fun _ _ => trivial
  exact resolveType_congr_on (fun _ _ _ => by rw [names]) everywhere

/-- A name denotes the same type where its path leads to the same declared type, whatever the number
of type arguments, and the capabilities and type parameters are the same. -/
theorem nameType_congr_at {scope scope' : Scope} {segments : List ResolvedSegment}
    (lookup : ∀ arity,
      scope.registry.lookup? (".".intercalate (segments.map (·.name))) segments.length arity =
        scope'.registry.lookup? (".".intercalate (segments.map (·.name))) segments.length arity)
    (symbols : scope.symbols = scope'.symbols)
    (typeParameters : scope.typeParameters = scope'.typeParameters) (isGlobal : Bool) :
    scope.nameType isGlobal segments = scope'.nameType isGlobal segments := by
  have dotted (isGlobal : Bool) :
      scope.dottedName isGlobal segments = scope'.dottedName isGlobal segments := by
    simp only [dottedName, List.length_map, tableCapability?, lookup, symbols]
  unfold nameType
  split
  · rw [dotted, loneName?, loneName?, typeParameters]
  · exact dotted isGlobal

/-- Names denote the same types where they find the same declared types, capabilities and type
parameters. -/
theorem nameType_congr {scope scope' : Scope}
    (lookup : ∀ path segments arity,
      scope.registry.lookup? path segments arity = scope'.registry.lookup? path segments arity)
    (symbols : scope.symbols = scope'.symbols)
    (typeParameters : scope.typeParameters = scope'.typeParameters) :
    scope.nameType = scope'.nameType := by
  funext isGlobal segments
  exact nameType_congr_at (lookup _ _) symbols typeParameters isGlobal

/-- The identity of a dotted name, whatever the table of capabilities says of it. -/
theorem identity?_dottedName (isGlobal : Bool) (segments : List ResolvedSegment) :
    let path := ".".intercalate (segments.map (·.name))
    let arguments := (segments.getLast?.map (·.arguments)).getD []
    let isPlainBefore := segments.dropLast.all (·.arguments.isEmpty)
    let target :=
      if isPlainBefore then scope.registry.lookup? path segments.length arguments.length else none
    (scope.dottedName isGlobal segments).type.identity? = some
      (match
        if arguments.isEmpty && isPlainBefore then Host.Builtin.ofCanonical? path else none with
      | some builtin => builtin.canonical
      | none => (nameParts isGlobal segments arguments target).1) := by
  simp only [dottedName, List.length_map]
  generalize (if (((segments.getLast?.map (·.arguments)).getD []).isEmpty &&
      segments.dropLast.all (·.arguments.isEmpty)) = true
    then Host.Builtin.ofCanonical? (".".intercalate (segments.map (·.name))) else none) = builtin?
  cases builtin? with
  | some builtin => rfl
  | none =>
      simp only
      split <;> rfl

/-! ## Places -/

theorem isNullable_bare (expr : TypeExpr) : isNullable expr.bare = isNullable expr := by
  cases expr <;> rfl

theorem length_bareSegments (segments : List Segment) :
    (bareSegments segments).length = segments.length := by
  rw [bareSegments_eq_map, List.length_map]

theorem bareLabels_bare (element : Element) : bareLabels [element.bare] = bareLabels [element] := by
  obtain ⟨type, label⟩ := element
  cases label <;> rfl

theorem relabelled_bare (element : Element) (type : HostType) :
    relabelled element.bare type = relabelled element type := by
  obtain ⟨_, label⟩ := element
  cases label <;> rfl

mutual

/-- The type that an expression denotes does not depend on the places it was read from. -/
theorem resolveType_bare : ∀ (expr : TypeExpr) (r : ResolvedType),
    scope.resolveType expr.bare = .ok r ↔ scope.resolveType expr = .ok r
  | .named isGlobal segments _, r => by
      simp only [TypeExpr.bare, resolveType_named_eq_ok, resolveSegments_bare _ segments,
        length_bareSegments]
  | .tuple elements _, r => by
      simp only [TypeExpr.bare, resolveType_tuple_eq_ok, resolveElements_bare _ elements]
  | .nullable inner _, r => by
      simp only [TypeExpr.bare, resolveType_nullable_eq_ok, resolveType_bare inner,
        isNullable_bare]
  | .array element _ _, r => by
      simp only [TypeExpr.bare, resolveType_array_eq_ok, resolveType_bare element]

theorem resolveSegments_bare (isWhole : Bool) : ∀ (segments : List Segment)
    (resolved : List ResolvedSegment),
    scope.resolveSegments isWhole (bareSegments segments) = .ok resolved ↔
      scope.resolveSegments isWhole segments = .ok resolved
  | [], _ => Iff.rfl
  | .mk name arguments _ :: rest, resolved => by
      simp only [bareSegments, Segment.bare, resolveSegments_cons_eq_ok,
        resolveArguments_bare arguments, resolveSegments_bare isWhole rest]

theorem resolveArguments_bare : ∀ (arguments : List TypeExpr) (types : List HostType),
    scope.resolveArguments (bareArguments arguments) = .ok types ↔
      scope.resolveArguments arguments = .ok types
  | [], _ => Iff.rfl
  | argument :: rest, types => by
      simp only [bareArguments, resolveArguments_cons_eq_ok, resolveType_bare argument,
        resolveArguments_bare rest]

theorem resolveElements_bare (seen : List String) : ∀ (elements : List Element)
    (types : List TupleElement),
    scope.resolveElements seen (bareElements elements) = .ok types ↔
      scope.resolveElements seen elements = .ok types
  | [], _ => Iff.rfl
  | .mk type label :: rest, types => by
      simp only [bareElements, resolveElements_cons_eq_ok, bareLabels_bare, relabelled_bare,
        resolveElements_bare _ rest]
      simp only [Element.bare, Element.type, resolveType_bare type]

end

end Scope

end ConversionSynthesis
