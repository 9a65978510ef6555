import ConversionSynthesis.Proofs.Naming.QualifiedSpelling
import ConversionSynthesis.Proofs.Operand.Forwarding
import ConversionSynthesis.Proofs.TypeExpr.Inside

/-! # Emitted spellings are read back

The spelling of a resolved type in emitted code is a type expression again. Where nothing is
declared it is written along the tree that the type was resolved from, except that labels carry a
mark only where they need one. So it is read, within the same bound on nesting, and denotes the
type.
-/

namespace ConversionSynthesis

open Host Grammar

/-! ## The tree of an emitted spelling -/

namespace TypeExpr

mutual

/-- The tree without its places, with a mark on just those labels that are reserved words. -/
def emitted : TypeExpr → TypeExpr
  | named isGlobal segments _ => named isGlobal (emittedSegments segments) default
  | tuple elements _ => tuple (emittedElements elements) default
  | nullable inner _ => nullable inner.emitted default
  | array element commas _ => array element.emitted commas default

def emittedSegments : List Segment → List Segment
  | [] => []
  | .mk name arguments _ :: rest =>
      .mk name (emittedArguments arguments) default :: emittedSegments rest

def emittedElements : List Element → List Element
  | [] => []
  | .mk type label :: rest =>
      .mk type.emitted (label.map fun written => (escaped (Host.bare written.1), default)) ::
        emittedElements rest

def emittedArguments : List TypeExpr → List TypeExpr
  | [] => []
  | argument :: rest => argument.emitted :: emittedArguments rest

end

theorem head_emitted (type : TypeExpr) : type.emitted.head = type.head.emitted := by
  cases type with
  | named | tuple => rfl
  | nullable inner => exact inner.head_emitted
  | array element => exact element.head_emitted

theorem suffixCount_emitted (type : TypeExpr) : type.emitted.suffixCount = type.suffixCount := by
  cases type with
  | named | tuple => rfl
  | nullable inner => exact congrArg (· + 1) inner.suffixCount_emitted
  | array element => exact congrArg (· + 1) element.suffixCount_emitted

theorem emittedArguments_eq_map (arguments : List TypeExpr) :
    emittedArguments arguments = arguments.map emitted := by
  induction arguments with
  | nil => rfl
  | cons argument rest ih => rw [emittedArguments, ih, List.map_cons]

theorem arguments_emittedSegments (segments : List Segment) :
    (emittedSegments segments).flatMap (·.arguments) =
      (segments.flatMap (·.arguments)).map emitted := by
  induction segments with
  | nil => rfl
  | cons segment rest ih =>
      obtain ⟨name, arguments, span⟩ := segment
      rw [emittedSegments, List.flatMap_cons, List.flatMap_cons, List.map_append, ih,
        Segment.arguments, emittedArguments_eq_map]
      rfl

theorem types_emittedElements (elements : List Element) :
    (emittedElements elements).map (·.type) = (elements.map (·.type)).map emitted := by
  induction elements with
  | nil => rfl
  | cons element rest ih =>
      obtain ⟨type, label⟩ := element
      rw [emittedElements, List.map_cons, List.map_cons, List.map_cons, ih]
      rfl

theorem parts_emitted (type : TypeExpr) : type.emitted.parts = type.parts.map emitted := by
  unfold parts
  rw [head_emitted]
  cases type.head with
  | named isGlobal segments span => exact arguments_emittedSegments segments
  | tuple elements span => exact types_emittedElements elements
  | nullable | array => rfl

/-- The emitted spelling needs no deeper nesting. -/
theorem within_emitted {cap : Nat} {type : TypeExpr} (within : Within cap type.bare) :
    Within cap type.emitted := by
  induction cap generalizing type with
  | zero => exact (not_within_zero _ within).elim
  | succ cap ih =>
      obtain ⟨paired, suffixes, inside⟩ := within_succ.mp within
      rw [head_bare] at paired
      rw [suffixCount_bare] at suffixes
      rw [parts_bare, List.forall_mem_map] at inside
      refine within_succ.mpr ⟨?_, ?_, ?_⟩
      · rw [head_emitted]
        generalize type.head = head at paired
        cases head with
        | tuple elements span =>
            have several := paired _ _ rfl
            intro _ _ same
            cases same
            have types := congrArg List.length (types_emittedElements elements)
            rw [bareElements_eq_map, List.length_map] at several
            rw [List.length_map, List.length_map, List.length_map] at types
            rwa [types]
        | named | nullable | array => exact fun _ _ same => nomatch same
      · rwa [suffixCount_emitted]
      · rw [parts_emitted, List.forall_mem_map]
        exact fun inner isPart => ih (inside inner isPart)

/-- The labels of a tuple, as written; an expression of another kind has none of its own. -/
def ownLabels : TypeExpr → List String
  | tuple elements _ => elements.filterMap fun element => element.label.map (·.1)
  | _ => []

/-- The tuple labels within an expression, at any depth. -/
def labels (type : TypeExpr) : List String :=
  type.nodes.flatMap ownLabels

/-- The expression is well formed and its own labels are identifiers. -/
def Labelled (type : TypeExpr) : Prop :=
  type.Formed ∧ ∀ label ∈ type.ownLabels, isIdentifier label = true

end TypeExpr

theorem bare_escaped_bare {label : String} (identifier : isIdentifier label = true) :
    bare (escaped (bare label)) = bare label :=
  bare_escaped (head?_bare identifier)

theorem isTokenName_escaped_bare {label : String} (identifier : isIdentifier label = true) :
    IsTokenName (escaped (bare label)) := by
  have declarable := isDeclarable_escaped (isIdentifier_bare identifier) (head?_bare identifier)
  rw [isDeclarable, Bool.and_eq_true] at declarable
  exact isTokenName_of_isIdentifier declarable.1

/-! ## Spellings along the tree -/

theorem ResolvedType.display_nullable (r : ResolvedType) :
    r.nullable.type.display = r.type.display ++ "?" := by
  obtain ⟨type, isReference⟩ := r
  cases type with
  | tuple elements => rfl
  | named identity display capability =>
      unfold ResolvedType.nullable
      dsimp only
      split <;> rfl

namespace Scope

variable {scope : Scope}

/-- Where nothing is declared, every name is spelled as it was written. -/
theorem display_nameType (undeclared : scope.registry = []) (isGlobal : Bool)
    (segments : List ResolvedSegment) :
    (scope.nameType isGlobal segments).type.display = writtenDisplay isGlobal segments := by
  have dotted (isGlobal : Bool) :
      (scope.dottedName isGlobal segments).type.display = writtenDisplay isGlobal segments := by
    have missed (path : String) (count arity : Nat) :
        scope.registry.lookup? path count arity = none := by
      rw [undeclared]
      simp [Registry.lookup?, Registry.byPath?, Registry.bySimpleName?]
    simp only [dottedName, missed, ite_self]
    split
    · rfl
    · split <;> rfl
  unfold nameType
  split
  · next written =>
      have alone : writtenDisplay false [⟨written, []⟩] = written := by
        simp [writtenDisplay, ResolvedSegment.display, genericDisplay, bracketed]
      rw [loneName?]
      split
      · exact alone.symm
      · cases found : Builtin.ofKeyword? written with
        | some builtin => exact alone.symm
        | none => exact dotted false
  · exact dotted isGlobal

theorem writes_writtenDisplay (isGlobal : Bool) {segments : List ResolvedSegment}
    {trees : List Segment} (some : segments ≠ [])
    (written : List.Forall₂ (Writes IsTokenName IsSegment)
      ((segments.map (·.display)).map String.toList) trees) :
    Writes IsTokenName IsType (writtenDisplay isGlobal segments).toList
      (.named isGlobal trees default) := by
  have path := Writes.dots written (by simpa using some)
  have root : IsTokenName "global" := isTokenName_of_isIdentifier (by decide)
  cases isGlobal with
  | false => simpa [writtenDisplay, String.toList_intercalate] using Writes.path path
  | true => simpa [writtenDisplay, String.toList_intercalate] using Writes.rooted root path

theorem length_emittedSegments (segments : List Segment) :
    (TypeExpr.emittedSegments segments).length = segments.length := by
  induction segments with
  | nil => rfl
  | cons segment rest ih =>
      cases segment
      rw [TypeExpr.emittedSegments, List.length_cons, List.length_cons, ih]

section Labels

variable {label : Option (String × Span)}
  (labels : ∀ written ∈ label, isIdentifier written.1 = true)

include labels

theorem bareLabels_emitted (type type' : TypeExpr) :
    bareLabels [.mk type' (label.map fun written => (escaped (bare written.1), default))] =
      bareLabels [.mk type label] := by
  cases label with
  | none => rfl
  | some written => simp [bareLabels, Element.label, bare_escaped_bare (labels written rfl)]

theorem relabelled_emitted (type type' : TypeExpr) (host : HostType) :
    relabelled (.mk type' (label.map fun written => (escaped (bare written.1), default))) host =
      relabelled (.mk type label) host := by
  cases label with
  | none => rfl
  | some written => simp [relabelled, Element.label, bare_escaped_bare (labels written rfl)]

end Labels

theorem isNullable_emitted (expr : TypeExpr) : isNullable expr.emitted = isNullable expr := by
  cases expr <;> rfl

mutual

/-- The tree of the emitted spelling resolves to the type, and the spelling is written along it. -/
theorem emitted_of_resolveType (undeclared : scope.registry = []) :
    ∀ {expr : TypeExpr} {r : ResolvedType},
    (∀ node ∈ expr.nodes, node.Labelled) → scope.resolveType expr = .ok r →
      scope.resolveType expr.emitted = .ok r ∧
        Writes IsTokenName IsType r.type.display.toList expr.emitted
  | .named isGlobal segments span, r, formed, succeeds => by
      rw [TypeExpr.nodes, List.forall_mem_cons] at formed
      obtain ⟨⟨⟨some, tokens⟩, -⟩, inside⟩ := formed
      obtain ⟨resolved, succeedsSegments, rfl⟩ := resolveType_named_eq_ok.mp succeeds
      obtain ⟨same, written⟩ :=
        emitted_of_resolveSegments undeclared tokens inside succeedsSegments
      have someResolved : resolved ≠ [] := by
        rintro rfl
        have names := written_resolveSegments succeedsSegments
        exact some (List.map_eq_nil_iff.mp names.symm)
      refine ⟨resolveType_named_eq_ok.mpr ⟨resolved, ?_, rfl⟩, ?_⟩
      · rw [length_emittedSegments]
        exact same
      · rw [display_nameType undeclared]
        exact writes_writtenDisplay isGlobal someResolved written
  | .tuple elements span, r, formed, succeeds => by
      rw [TypeExpr.nodes, List.forall_mem_cons] at formed
      obtain ⟨⟨some, identifiers⟩, inside⟩ := formed
      have labels : ∀ element ∈ elements, ∀ label ∈ element.label,
          isIdentifier label.1 = true := by
        intro element mem label isLabel
        exact identifiers label.1
          (List.mem_filterMap.mpr ⟨element, mem, by rw [isLabel, Option.map_some]⟩)
      obtain ⟨types, succeedsElements, rfl⟩ := resolveType_tuple_eq_ok.mp succeeds
      obtain ⟨same, written⟩ :=
        emitted_of_resolveElements undeclared labels inside succeedsElements
      refine ⟨resolveType_tuple_eq_ok.mpr ⟨types, same, rfl⟩, ?_⟩
      have someItems : (HostType.displays types).map String.toList ≠ [] := by
        rintro none
        rw [none, List.forall₂_nil_left_iff] at written
        cases elements with
        | nil => exact some rfl
        | cons element rest =>
            obtain ⟨type, label⟩ := element
            cases written
      rw [TypeExpr.emitted]
      simpa [HostType.display, String.toList_intercalate] using
        Writes.tuple isComma_spaced written someItems
  | .nullable inner span, r, formed, succeeds => by
      rw [TypeExpr.nodes, List.forall_mem_cons] at formed
      obtain ⟨once, x, succeedsInner, rfl⟩ := resolveType_nullable_eq_ok.mp succeeds
      obtain ⟨same, written⟩ := emitted_of_resolveType undeclared formed.2 succeedsInner
      refine ⟨resolveType_nullable_eq_ok.mpr ⟨?_, x, same, rfl⟩, ?_⟩
      · rwa [isNullable_emitted]
      · rw [ResolvedType.display_nullable, String.toList_append]
        exact written.nullable
  | .array element commas span, r, formed, succeeds => by
      rw [TypeExpr.nodes, List.forall_mem_cons] at formed
      obtain ⟨x, succeedsElement, rfl⟩ := resolveType_array_eq_ok.mp succeeds
      obtain ⟨same, written⟩ := emitted_of_resolveType undeclared formed.2 succeedsElement
      refine ⟨resolveType_array_eq_ok.mpr ⟨x, same, rfl⟩, ?_⟩
      rw [TypeExpr.emitted]
      simpa [ResolvedType.array, HostType.display] using written.array commas

theorem emitted_of_resolveSegments (undeclared : scope.registry = []) {isWhole : Bool} :
    ∀ {segments : List Segment} {resolved : List ResolvedSegment},
    (∀ segment ∈ segments, IsTokenName segment.name) →
    (∀ node ∈ TypeExpr.segmentsNodes segments, node.Labelled) →
    scope.resolveSegments isWhole segments = .ok resolved →
      scope.resolveSegments isWhole (TypeExpr.emittedSegments segments) = .ok resolved ∧
        List.Forall₂ (Writes IsTokenName IsSegment)
          ((resolved.map (·.display)).map String.toList) (TypeExpr.emittedSegments segments)
  | [], resolved, tokens, formed, succeeds => by
      cases succeeds
      exact ⟨rfl, .nil⟩
  | .mk name arguments span :: rest, resolved, tokens, formed, succeeds => by
      rw [List.forall_mem_cons] at tokens
      rw [TypeExpr.segmentsNodes, List.forall_mem_append] at formed
      obtain ⟨allowed, types, others, succeedsArguments, succeedsRest, rfl⟩ :=
        resolveSegments_cons_eq_ok.mp succeeds
      obtain ⟨same, written⟩ :=
        emitted_of_resolveArguments undeclared formed.1 succeedsArguments
      obtain ⟨sameRest, writtenRest⟩ :=
        emitted_of_resolveSegments undeclared tokens.2 formed.2 succeedsRest
      exact ⟨resolveSegments_cons_eq_ok.mpr ⟨allowed, types, others, same, sameRest, rfl⟩,
        .cons (writes_bracketed isComma_spaced tokens.1 written) writtenRest⟩

theorem emitted_of_resolveArguments (undeclared : scope.registry = []) :
    ∀ {arguments : List TypeExpr} {types : List HostType},
    (∀ node ∈ TypeExpr.argumentsNodes arguments, node.Labelled) →
    scope.resolveArguments arguments = .ok types →
      scope.resolveArguments (TypeExpr.emittedArguments arguments) = .ok types ∧
        List.Forall₂ (Writes IsTokenName IsType)
          ((types.map (·.display)).map String.toList) (TypeExpr.emittedArguments arguments)
  | [], types, formed, succeeds => by
      cases succeeds
      exact ⟨rfl, .nil⟩
  | argument :: rest, types, formed, succeeds => by
      rw [TypeExpr.argumentsNodes, List.forall_mem_append] at formed
      obtain ⟨r, others, succeedsFirst, succeedsRest, rfl⟩ :=
        resolveArguments_cons_eq_ok.mp succeeds
      obtain ⟨same, written⟩ := emitted_of_resolveType undeclared formed.1 succeedsFirst
      obtain ⟨sameRest, writtenRest⟩ :=
        emitted_of_resolveArguments undeclared formed.2 succeedsRest
      exact ⟨resolveArguments_cons_eq_ok.mpr ⟨r, others, same, sameRest, rfl⟩,
        .cons written writtenRest⟩

theorem emitted_of_resolveElements (undeclared : scope.registry = []) {seen : List String} :
    ∀ {elements : List Element} {types : List TupleElement},
    (∀ element ∈ elements, ∀ label ∈ element.label, isIdentifier label.1 = true) →
    (∀ node ∈ TypeExpr.elementsNodes elements, node.Labelled) →
    scope.resolveElements seen elements = .ok types →
      scope.resolveElements seen (TypeExpr.emittedElements elements) = .ok types ∧
        List.Forall₂ (Writes IsTokenName IsElement)
          ((HostType.displays types).map String.toList) (TypeExpr.emittedElements elements)
  | [], types, labels, formed, succeeds => by
      cases succeeds
      exact ⟨rfl, .nil⟩
  | .mk type label :: rest, types, labels, formed, succeeds => by
      rw [List.forall_mem_cons] at labels
      rw [TypeExpr.elementsNodes, List.forall_mem_append] at formed
      obtain ⟨r, others, succeedsFirst, fresh, succeedsRest, rfl⟩ :=
        resolveElements_cons_eq_ok.mp succeeds
      obtain ⟨same, written⟩ := emitted_of_resolveType undeclared formed.1 succeedsFirst
      obtain ⟨sameRest, writtenRest⟩ :=
        emitted_of_resolveElements undeclared labels.2 formed.2 succeedsRest
      have own : ∀ written ∈ label, isIdentifier written.1 = true := labels.1
      have stays : scope.resolveElements seen (TypeExpr.emittedElements (.mk type label :: rest)) =
          .ok (relabelled (.mk type label) r.type :: others) := by
        refine resolveElements_cons_eq_ok.mpr ⟨r, others, same, ?_, ?_, ?_⟩
        · rwa [bareLabels_emitted own type]
        · rwa [bareLabels_emitted own type]
        · exact congrArg (· :: others) (relabelled_emitted own type _ r.type)
      refine ⟨stays, ?_⟩
      cases label with
      | none => exact .cons written.unlabelled writtenRest
      | some label =>
          have token := isTokenName_escaped_bare (own label rfl)
          have first := Writes.labelled token written
          refine .cons ?_ writtenRest
          simpa using first

end

/-- Where nothing is declared, the spelling of a type that an expression resolves to denotes the
type itself, with its identity, its spelling, its capability and its labels, as long as the labels
in the expression are identifiers. So reading a spelling and spelling what was read change
nothing. -/
theorem denotes_display (undeclared : scope.registry = []) {text : String} {expr : TypeExpr}
    {type : HostType} (read : TypeExpr.parse text = .ok expr)
    (resolved : scope.resolve expr = .ok type)
    (labels : ∀ label ∈ expr.labels, isIdentifier label = true) :
    Denotes scope type.display type := by
  obtain ⟨r, succeeds, rfl⟩ := map_eq_ok.mp resolved
  have formed : ∀ node ∈ expr.nodes, node.Labelled := fun node mem =>
    ⟨TypeExpr.formed_of_parse read node mem,
      fun label isOwn => labels label (List.mem_flatMap.mpr ⟨node, mem, isOwn⟩)⟩
  obtain ⟨same, written⟩ := emitted_of_resolveType undeclared formed succeeds
  have within := (Spells.of_parse read).2
  obtain ⟨again, reread, sameTree⟩ :=
    (Spells.of_writes written).exists_parse (TypeExpr.within_emitted within)
  rw [← sameTree, resolveType_bare] at same
  exact ⟨again, reread, map_eq_ok.mpr ⟨r, same, rfl⟩⟩

/-- A nullable pair with labels that are written with marks, one of them needlessly, and a name from
the root with a type parameter within it. -/
theorem denotes_display_pair :
    let scope : Scope := { symbols := [("Acme.Box", .general)], typeParameters := ["T"] }
    ∃ type, Denotes scope "( int @left,global :: Acme.@Box<T?[ , ]> @class)?[]" type ∧
      type.display = "(int left, global::Acme.@Box<T?[,]> @class)?[]" ∧
      Denotes scope "(int left, global::Acme.@Box<T?[,]> @class)?[]" type := by
  intro scope
  have evaluated :
      ((TypeExpr.parse "( int @left,global :: Acme.@Box<T?[ , ]> @class)?[]").toOption.bind
        fun expr => (scope.resolve expr).toOption.map fun type => (expr.labels, type.display)) =
        some (["@left", "@class"], "(int left, global::Acme.@Box<T?[,]> @class)?[]") := by
    decide +kernel
  obtain ⟨expr, found, resolves⟩ := Option.bind_eq_some_iff.mp evaluated
  obtain ⟨type, resolved, seen⟩ := toOption_map_eq_some.mp resolves
  have read := toOption_eq_some.mp found
  rw [Prod.mk.injEq] at seen
  have identifiers : ∀ label ∈ expr.labels, isIdentifier label = true := by
    rw [seen.1]
    decide +kernel
  have again := denotes_display rfl read resolved identifiers
  rw [seen.2] at again
  exact ⟨type, ⟨expr, read, resolved⟩, seen.2, again⟩

end Scope

end ConversionSynthesis
