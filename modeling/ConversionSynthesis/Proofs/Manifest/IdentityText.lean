import ConversionSynthesis.Proofs.Manifest.Capability
import ConversionSynthesis.Proofs.Manifest.WellFormed

/-! # Types and the texts of their identities

Comparison takes tuples apart, but within a name only the text of an identity is left of them. The
text loses nothing: it is written along one tree, and what comparison sees of a type is told from
that tree, whatever the type was made of. So types with one identity are the same, and wrapping two
types alike leaves them as different as they were.
-/

namespace ConversionSynthesis

open Host HostType Grammar

namespace HostType

mutual

theorem structuralIdentity_core : ∀ a : HostType, a.core.structuralIdentity = a.structuralIdentity
  | named _ _ _ => rfl
  | tuple elements => by
      rw [core, structuralIdentity, structuralIdentity, structuralIdentities_core elements]

theorem structuralIdentities_core :
    ∀ elements, structuralIdentities (coreElements elements) = structuralIdentities elements
  | [] => rfl
  | .mk _ type :: rest => by
      rw [coreElements, structuralIdentities, structuralIdentities, structuralIdentity_core type,
        structuralIdentities_core rest]

end

theorem structuralIdentity_eq_of_core {a b : HostType} (same : a.core = b.core) :
    a.structuralIdentity = b.structuralIdentity := by
  rw [← structuralIdentity_core a, same, structuralIdentity_core]

/-- The type, and the types of the tuple elements within it at any depth. -/
def occurring (type : HostType) : List HostType :=
  type :: type.tuples.flatMap fun elements => elements.map (·.type)

theorem occurring_of_tuples_eq_nil {type : HostType} (none : type.tuples = []) :
    type.occurring = [type] := by
  rw [occurring, none, List.flatMap_nil]

theorem mem_occurring_tuple {elements : List TupleElement} {type : HostType}
    (occurs : type ∈ (tuple elements).occurring) :
    type = .tuple elements ∨ ∃ element ∈ elements, type ∈ element.type.occurring := by
  rw [occurring, List.mem_cons] at occurs
  refine occurs.imp_right fun inside => ?_
  have nested : ∀ {inner}, inner ∈ elementTuples elements →
      ∃ element ∈ elements, inner ∈ element.type.tuples := by
    intro inner mem
    clear occurs inside
    induction elements with
    | nil => cases mem
    | cons element rest ih =>
        obtain ⟨label, type⟩ := element
        rw [elementTuples, List.mem_append] at mem
        rcases mem with first | later
        · exact ⟨_, List.mem_cons_self, first⟩
        · obtain ⟨element, listed, found⟩ := ih later
          exact ⟨element, List.mem_cons_of_mem _ listed, found⟩
  obtain ⟨inner, mem, isElement⟩ := List.mem_flatMap.mp inside
  rw [tuples, List.mem_cons] at mem
  rcases mem with rfl | mem
  · obtain ⟨element, listed, rfl⟩ := List.mem_map.mp isElement
    exact ⟨element, listed, List.mem_cons_self⟩
  · obtain ⟨element, listed, found⟩ := nested mem
    exact ⟨element, listed, List.mem_cons_of_mem _ (List.mem_flatMap.mpr ⟨inner, found, isElement⟩)⟩

end HostType

namespace Scope

/-! ## What comparison sees along a tree -/

/-- The identity of the type is written along the tree, and what comparison sees of the type is what
it sees of the type that the tree comes to. -/
structure Depicts (type : HostType) (tree : TypeExpr) : Prop where
  written : Writes IsWord IsType type.structuralIdentity.toList tree
  core : (Scope.reading {} tree).core = type.core

/-- Types that are depicted are the same if their identities are. -/
theorem Depicts.same {type type' : HostType} {tree tree' : TypeExpr} (depicts : Depicts type tree)
    (depicts' : Depicts type' tree') (same : type.structuralIdentity = type'.structuralIdentity) :
    type.same type' = true := by
  have written := depicts.written
  rw [same] at written
  have sameTree : tree = tree' := written.unique depicts'.written
  rw [same_iff_core_eq, ← depicts.core, ← depicts'.core, sameTree]

theorem Depicts.structuralIdentity_reading {type : HostType} {tree : TypeExpr}
    (depicts : Depicts type tree) :
    (Scope.reading {} tree).structuralIdentity = type.structuralIdentity :=
  structuralIdentity_eq_of_core depicts.core

theorem identities_readArguments {types : List HostType} {trees : List TypeExpr}
    (depict : List.Forall₂ Depicts types trees) :
    (Scope.readArguments {} trees).map (·.structuralIdentity) =
      types.map (·.structuralIdentity) := by
  induction depict with
  | nil => rfl
  | cons first _ ih =>
      rw [readArguments, List.map_cons, List.map_cons, first.structuralIdentity_reading, ih]

theorem identities_readSegments {segments : List ResolvedSegment} {trees : List Segment}
    (depict : List.Forall₂ (SegmentAlong Depicts) segments trees) :
    (Scope.readSegments {} trees).map (·.identity) = segments.map (·.identity) := by
  induction depict with
  | nil => rfl
  | cons first _ ih =>
      obtain ⟨rfl, -, arguments⟩ := first
      rw [readSegments, List.map_cons, List.map_cons, ih, ResolvedSegment.identity_ofBare,
        identities_readArguments arguments]
      rfl

theorem coreElements_readElements {elements : List TupleElement} {trees : List TypeExpr}
    (depict : List.Forall₂ Depicts (elements.map (·.type)) trees) :
    coreElements (Scope.readElements {} (trees.map (.mk · none))) = coreElements elements := by
  induction elements generalizing trees with
  | nil =>
      cases depict
      rfl
  | cons element rest ih =>
      obtain ⟨label, type⟩ := element
      cases depict with
      | cons first others =>
          rw [List.map_cons, readElements, coreElements, coreElements, ih others, first.core]
          rfl

theorem core_undeclared (scope : Scope) {segments : List ResolvedSegment} (some : segments ≠ []) :
    (scope.undeclared segments).core =
      .named (".".intercalate (segments.map (·.identity))) "" .concrete := by
  have identity := scope.structuralIdentity_undeclared some
  rcases segments.eq_nil_or_concat' with rfl | ⟨before, last, rfl⟩
  · exact absurd rfl some
  · rw [undeclared_concat] at identity ⊢
    rw [← identity]
    split <;> rfl

/-! ## Types put together -/

theorem depicts_named {type : HostType} {segments : List ResolvedSegment} {trees : List Segment}
    (depict : List.Forall₂ (SegmentAlong Depicts) segments trees) (some : segments ≠ [])
    (same : type.core = .named (".".intercalate (segments.map (·.identity))) "" .concrete) :
    Depicts type (.named false trees default) where
  written := by
    rw [← structuralIdentity_core, same]
    exact writes_path (fun _ _ depicts => depicts.written) depict some
  core := by
    have someTrees : Scope.readSegments {} trees ≠ [] := by
      have identities := identities_readSegments depict
      intro none
      rw [none, List.map_nil, eq_comm, List.map_eq_nil_iff] at identities
      exact some identities
    rw [reading, core_undeclared _ someTrees, identities_readSegments depict, same]

theorem depicts_tuple {elements : List TupleElement} {trees : List TypeExpr}
    (depict : List.Forall₂ Depicts (elements.map (·.type)) trees) (some : elements ≠ []) :
    Depicts (.tuple elements) (.tuple (trees.map (.mk · none)) default) where
  written := writes_tuple (fun _ _ depicts => depicts.written) depict some
  core := by
    rw [reading, core, core, coreElements_readElements depict]

theorem depicts_array {r : ResolvedType} {tree : TypeExpr} (commas : Nat)
    (depicts : Depicts r.type tree) :
    Depicts (r.array commas).type (.array tree commas default) where
  written := by
    have array := depicts.written.array commas
    simpa [ResolvedType.array, structuralIdentity] using array
  core := by
    have identity := depicts.structuralIdentity_reading
    simp [reading, ResolvedType.array, essence, core, identity]

theorem exists_depicts_nullable {r : ResolvedType} {tree : TypeExpr}
    (depicts : Depicts r.type tree) : ∃ tree', Depicts r.nullable.type tree' := by
  have apart : ∀ display capability, Depicts
      (.named (r.type.structuralIdentity ++ "?") display capability) (.nullable tree default) := by
    intro display capability
    constructor
    · simpa [structuralIdentity] using depicts.written.nullable
    · rw [reading, core, core, depicts.structuralIdentity_reading]
  obtain ⟨type, isReference⟩ := r
  cases type with
  | tuple elements => exact ⟨_, apart _ _⟩
  | named identity display capability =>
      unfold ResolvedType.nullable
      dsimp only
      split
      -- The suffix on a reference shows in the spelling only.
      · exact ⟨tree, depicts.written, depicts.core⟩
      · exact ⟨_, apart _ _⟩

/-! ## Names -/

variable {scope : Scope}

theorem segmentAlong_of_isWord {name : String} (word : IsWord name) :
    SegmentAlong Depicts (.ofBare name []) (.mk name [] default) :=
  .mk (ResolvedSegment.name_ofBare _ _) word .nil

theorem depicts_of_isWord {name : String} (word : IsWord name) (display : String)
    (capability : Capability) :
    Depicts (.named name display capability) (.named false [.mk name [] default] default) := by
  refine depicts_named (.cons (segmentAlong_of_isWord word) .nil) (List.cons_ne_nil _ _) ?_
  simp [core, genericIdentity, bracketed]

theorem segmentAlong_marked {level : Level} (legal : level.Legal) :
    SegmentAlong Depicts level.marked level.segment := by
  refine .mk level.name_marked (isWord_of_isIdentifier legal.name) ?_
  rw [Level.marked, ResolvedSegment.arguments_ofBare, List.forall₂_map_left_iff,
    List.forall₂_map_right_iff, List.forall₂_same]
  exact fun parameter mem =>
    depicts_of_isWord (isWord_of_isIdentifier (legal.parameters parameter mem)) _ _

theorem exists_depicts_builtin {builtin : Builtin} (known : builtin ∈ builtins)
    (display : String) : ∃ tree, Depicts (ResolvedType.builtin builtin display).type tree := by
  have names : ∀ builtin ∈ builtins, isIdentifier builtin.simpleName = true ∧
      builtin.canonical = "System." ++ builtin.simpleName := by decide +kernel
  have root := segmentAlong_of_isWord (isWord_of_isIdentifier (by decide : isIdentifier "System"))
  have own := segmentAlong_of_isWord (isWord_of_isIdentifier (names builtin known).1)
  refine ⟨_, depicts_named (.cons root (.cons own .nil)) (List.cons_ne_nil _ _) ?_⟩
  rw [ResolvedType.builtin, core, (names builtin known).2]
  simp [genericIdentity, bracketed, String.intercalate_cons_cons]

/-- The segments that a declared type is found by need not be those down to it, which its identity
is made of. -/
theorem exists_depicts_dottedName {entries : List TypeEntry}
    (registry : scope.registry = entries.map (·.declared))
    (legal : ∀ entry ∈ entries, ∀ level ∈ entry.address.levels, level.Legal) (isGlobal : Bool)
    {segments : List ResolvedSegment} {trees : List Segment}
    (depict : List.Forall₂ (SegmentAlong Depicts) segments trees) (some : segments ≠ []) :
    ∃ tree, Depicts (scope.dottedName isGlobal segments).type tree := by
  obtain rfl | ⟨before, last, rfl⟩ := segments.eq_nil_or_concat'
  · exact absurd rfl some
  · have essence := scope.essence_type_dottedName isGlobal before last
    have undeclared (same : (scope.dottedName isGlobal (before ++ [last])).type.essence =
        scope.undeclared (before ++ [last])) :
        ∃ tree, Depicts (scope.dottedName isGlobal (before ++ [last])).type tree :=
      ⟨_, depicts_named depict some (by rw [← core_essence, same, core_undeclared _ some])⟩
    have plain := scope.undeclared_concat before last
    cases isBuiltin : builtinAt? before last with
    | some builtin =>
        rw [isBuiltin] at essence plain
        exact undeclared (essence.trans plain.symm)
    | none =>
        rw [isBuiltin] at essence plain
        cases found : scope.targetAt? before last with
        | none =>
            rw [found] at essence
            exact undeclared (essence.trans plain.symm)
        | some target =>
            have mem := (of_targetAt?_eq_some found).1
            rw [registry] at mem
            obtain ⟨entry, listed, rfl⟩ := List.mem_map.mp mem
            have levels := legal entry listed
            rw [TypeEntry.levels_eq, List.forall_mem_append, List.forall_mem_singleton] at levels
            obtain ⟨_, _, -, -, ending⟩ := exists_append_of_forall₂ depict
            cases ending with
            | cons segment =>
                obtain ⟨rfl, -, arguments⟩ := segment
                have segments := segmentsAlong_declared levels.2.name
                  (fun level mem => segmentAlong_marked (levels.1 level mem)) arguments
                refine ⟨_, depicts_named segments (by simp [declaredSegments]) ?_⟩
                rw [← core_essence, essence, found, identity_declaredSegments levels.1]
                rfl

theorem exists_depicts_nameType {entries : List TypeEntry}
    (registry : scope.registry = entries.map (·.declared))
    (legal : ∀ entry ∈ entries, ∀ level ∈ entry.address.levels, level.Legal) (isGlobal : Bool)
    {segments : List ResolvedSegment} (some : segments ≠ [])
    (within : ∀ segment ∈ segments, IsTokenName segment.written ∧
      ∀ type ∈ segment.arguments, ∃ tree, Depicts type tree) :
    ∃ tree, Depicts (scope.nameType isGlobal segments).type tree := by
  have each : ∀ segment ∈ segments, ∃ tree, SegmentAlong Depicts segment tree := by
    intro segment mem
    obtain ⟨token, arguments⟩ := within segment mem
    obtain ⟨trees, depict⟩ := exists_forall₂_iff.mpr arguments
    exact ⟨_, .mk rfl token.isWord_bare depict⟩
  obtain ⟨trees, depict⟩ := exists_forall₂_iff.mpr each
  have dotted := exists_depicts_dottedName registry legal isGlobal depict some
  unfold nameType
  split
  · next written =>
      cases lone : scope.loneName? written with
      | none => exact dotted
      | some resolved =>
          unfold loneName? at lone
          split at lone
          · cases lone
            have token := (within _ List.mem_cons_self).1
            exact ⟨_, depicts_of_isWord token.isWord _ _⟩
          · obtain ⟨builtin, isKeyword, rfl⟩ := Option.map_eq_some_iff.mp lone
            exact exists_depicts_builtin (List.mem_of_find?_eq_some isKeyword) written
  · exact dotted

/-- Where the names of declared types are identifiers, every type that is written is depicted, and
so are the types that occur in it. -/
theorem exists_depicts_of_mem_occurring {entries : List TypeEntry}
    (registry : scope.registry = entries.map (·.declared))
    (legal : ∀ entry ∈ entries, ∀ level ∈ entry.address.levels, level.Legal) {text : String}
    {type : HostType} (denotes : Denotes scope text type) :
    ∀ inner ∈ type.occurring, ∃ tree, Depicts inner tree := by
  have alone {type : HostType} (none : type.tuples = []) (depicts : ∃ tree, Depicts type tree) :
      ∀ inner ∈ type.occurring, ∃ tree, Depicts inner tree := by
    rw [occurring_of_tuples_eq_nil none, List.forall_mem_singleton]
    exact depicts
  have keeps : scope.Keeps fun type => ∀ inner ∈ type.occurring, ∃ tree, Depicts inner tree := by
    constructor
    case names =>
      intro isGlobal segments some within
      refine alone (tuples_nameType isGlobal segments)
        (exists_depicts_nameType registry legal isGlobal some fun segment mem => ?_)
      exact ⟨(within segment mem).1, fun type isArgument =>
        (within segment mem).2 type isArgument type List.mem_cons_self⟩
    case tuple =>
      intro elements some within inner occurs
      rcases mem_occurring_tuple occurs with rfl | ⟨element, listed, further⟩
      · have each : ∀ type ∈ elements.map (·.type), ∃ tree, Depicts type tree :=
          List.forall_mem_map.mpr fun element listed => within element listed _ List.mem_cons_self
        obtain ⟨trees, depict⟩ := exists_forall₂_iff.mpr each
        exact ⟨_, depicts_tuple depict some⟩
      · exact within element listed inner further
    case nullable =>
      intro r within
      obtain ⟨tree, depicts⟩ := within _ List.mem_cons_self
      exact alone (tuples_nullable r) (exists_depicts_nullable depicts)
    case array =>
      intro r commas within
      obtain ⟨tree, depicts⟩ := within _ List.mem_cons_self
      exact alone rfl ⟨_, depicts_array commas depicts⟩
  obtain ⟨expr, read, resolved⟩ := denotes
  obtain ⟨r, succeeds, rfl⟩ := map_eq_ok.mp resolved
  exact keeps.of_resolveType (TypeExpr.formed_of_parse read) succeeds

/-! ## Wrapped expressions -/

/-- Both expressions resolve, each in its scope, and to the same type. -/
def ResolveAlike (scope scope' : Scope) (x y : TypeExpr) : Prop :=
  ∃ a b, scope.resolve x = .ok a ∧ scope'.resolve y = .ok b ∧ a.same b = true

/-- The second expression resolves just if the first one does, and then to a name, whose identity is
made by `text` from the one of the first. -/
structure Wraps (scope : Scope) (text : String → String) (x wrapped : TypeExpr) : Prop where
  inner : ∀ type, scope.resolve wrapped = .ok type → ∃ a, scope.resolve x = .ok a
  outer : ∀ a, scope.resolve x = .ok a → ∃ display capability,
    scope.resolve wrapped = .ok (.named (text a.structuralIdentity) display capability)

theorem resolveAlike_wrapped_iff {scope' : Scope} {x y wrapped wrapped' : TypeExpr}
    {text : String → String} (injective : ∀ left right, text left = text right → left = right)
    (wraps : scope.Wraps text x wrapped) (wraps' : scope'.Wraps text y wrapped')
    (told : ∀ a b, scope.resolve x = .ok a → scope'.resolve y = .ok b →
      (a.same b = true ↔ a.structuralIdentity = b.structuralIdentity)) :
    ResolveAlike scope scope' wrapped wrapped' ↔ ResolveAlike scope scope' x y := by
  have compared {a b : HostType} (resolved : scope.resolve x = .ok a)
      (resolved' : scope'.resolve y = .ok b) :
      ResolveAlike scope scope' wrapped wrapped' ↔ a.same b = true := by
    obtain ⟨display, capability, whole⟩ := wraps.outer a resolved
    obtain ⟨display', capability', whole'⟩ := wraps'.outer b resolved'
    rw [told a b resolved resolved', ResolveAlike, whole, whole']
    simp only [Except.ok.injEq, exists_and_left, exists_eq_left', HostType.same, beq_iff_eq]
    exact ⟨injective _ _, congrArg text⟩
  constructor
  · intro alike
    obtain ⟨_, _, whole, whole', -⟩ := id alike
    obtain ⟨a, resolved⟩ := wraps.inner _ whole
    obtain ⟨b, resolved'⟩ := wraps'.inner _ whole'
    exact ⟨a, b, resolved, resolved', (compared resolved resolved').mp alike⟩
  · rintro ⟨a, b, resolved, resolved', same⟩
    exact (compared resolved resolved').mpr same

theorem wraps_array (commas : Nat) (span : Span) (x : TypeExpr) :
    scope.Wraps (· ++ ("[" ++ String.ofList (List.replicate commas ',') ++ "]")) x
      (.array x commas span) where
  inner type resolved := by
    obtain ⟨r, succeeds, -⟩ := map_eq_ok.mp resolved
    obtain ⟨element, succeedsElement, -⟩ := resolveType_array_eq_ok.mp succeeds
    exact ⟨element.type, map_eq_ok.mpr ⟨element, succeedsElement, rfl⟩⟩
  outer a resolved := by
    obtain ⟨element, succeeds, rfl⟩ := map_eq_ok.mp resolved
    have whole : scope.resolveType (.array x commas span) = .ok (element.array commas) :=
      resolveType_array_eq_ok.mpr ⟨element, succeeds, rfl⟩
    exact ⟨_, _, map_eq_ok.mpr ⟨_, whole, rfl⟩⟩

/-- A dotted name, the last segment of which has one type argument, without its places. -/
def genericOf (isGlobal : Bool) (before : List String) (name : String) (argument : TypeExpr) :
    TypeExpr :=
  .named isGlobal (before.map (Segment.mk · [] default) ++ [.mk name [argument] default]) default

/-- The name may be written with a type argument, and no type is declared by it. -/
structure UndeclaredGeneric (scope : Scope) (isGlobal : Bool) (before : List String)
    (name : String) : Prop where
  allowed : ∀ word ∈ before ++ [name], mayName (!isGlobal && before.isEmpty) word = true
  undeclared : scope.registry.lookup? (".".intercalate ((before ++ [name]).map bare))
    (before.length + 1) 1 = none

theorem resolveSegments_generic {isWhole : Bool} {before : List String} {name : String}
    {argument : TypeExpr} {resolved : List ResolvedSegment}
    (allowed : ∀ word ∈ before ++ [name], mayName isWhole word = true) :
    scope.resolveSegments isWhole
        (before.map (Segment.mk · [] default) ++ [.mk name [argument] default]) = .ok resolved ↔
      ∃ a, scope.resolve argument = .ok a ∧
        before.map (ResolvedSegment.mk · []) ++ [⟨name, [a]⟩] = resolved := by
  induction before generalizing resolved with
  | nil =>
      have last := allowed name List.mem_cons_self
      have nothing {types : List HostType} :
          scope.resolveArguments [] = .ok types ↔ [] = types := by
        rw [resolveArguments, Except.ok.injEq]
      have noMore {others : List ResolvedSegment} :
          scope.resolveSegments isWhole [] = .ok others ↔ [] = others := by
        rw [resolveSegments, Except.ok.injEq]
      simp [resolveSegments_cons_eq_ok, resolveArguments_cons_eq_ok, last, nothing, noMore,
        resolve, map_eq_ok]
  | cons first before ih =>
      rw [List.cons_append, List.forall_mem_cons] at allowed
      simp [resolveSegments_cons_eq_ok, resolveArguments, allowed.1, ih allowed.2]

theorem nameType_concat_of_arguments (isGlobal : Bool) (before : List ResolvedSegment)
    {last : ResolvedSegment} (some : last.arguments ≠ []) :
    scope.nameType isGlobal (before ++ [last]) = scope.dottedName isGlobal (before ++ [last]) := by
  unfold nameType
  split
  · next written lone =>
      rw [List.append_eq_singleton_iff] at lone
      rcases lone with ⟨-, same⟩ | ⟨-, none⟩
      · rw [(List.cons.inj same).1] at some
        exact absurd rfl some
      · cases none
  · rfl

theorem structuralIdentity_nameType_generic {isGlobal : Bool} {before : List String}
    {name : String} (generic : scope.UndeclaredGeneric isGlobal before name) (a : HostType) :
    (scope.nameType isGlobal
        (before.map (ResolvedSegment.mk · []) ++ [⟨name, [a]⟩])).type.structuralIdentity =
      ".".intercalate
        (before.map bare ++ [genericIdentity (bare name) [a.structuralIdentity]]) := by
  have path : pathOf (before.map (ResolvedSegment.mk · []) ++ [⟨name, [a]⟩]) =
      ".".intercalate ((before ++ [name]).map bare) := by
    simp [pathOf, ResolvedSegment.name, Function.comp_def]
  have notDeclared :
      scope.targetAt? (before.map (ResolvedSegment.mk · [])) ⟨name, [a]⟩ = none := by
    have missed := generic.undeclared
    rw [← path] at missed
    simp [targetAt?, missed]
  rw [nameType_concat_of_arguments isGlobal _ (List.cons_ne_nil _ _), ← structuralIdentity_essence,
    essence_type_dottedName, notDeclared]
  simp [builtinAt?, judged, structuralIdentity, nameParts, ResolvedSegment.identity,
    ResolvedSegment.name, Function.comp_def, genericIdentity, bracketed]

theorem wraps_genericOf {isGlobal : Bool} {before : List String} {name : String}
    (generic : scope.UndeclaredGeneric isGlobal before name) (x : TypeExpr) :
    scope.Wraps (fun identity =>
      ".".intercalate (before.map bare ++ [genericIdentity (bare name) [identity]])) x
      (genericOf isGlobal before name x) := by
  have isWhole : (!isGlobal && (before.map (Segment.mk · [] default) ++
      [Segment.mk name [x] default]).length == 1) = (!isGlobal && before.isEmpty) := by
    cases before <;> simp
  have steps {r : ResolvedType} : scope.resolveType (genericOf isGlobal before name x) = .ok r ↔
      ∃ a, scope.resolve x = .ok a ∧
        scope.nameType isGlobal (before.map (ResolvedSegment.mk · []) ++ [⟨name, [a]⟩]) = r := by
    rw [genericOf, resolveType_named_eq_ok, isWhole]
    simp [resolveSegments_generic generic.allowed]
  constructor
  case inner =>
    intro type resolved
    obtain ⟨r, succeeds, -⟩ := map_eq_ok.mp resolved
    obtain ⟨a, resolvedArgument, -⟩ := steps.mp succeeds
    exact ⟨a, resolvedArgument⟩
  case outer =>
    intro a resolved
    have succeeds := steps.mpr ⟨a, resolved, rfl⟩
    have identity := structuralIdentity_nameType_generic generic a
    obtain ⟨_, display, capability, named⟩ := @exists_named_nameType scope isGlobal
      (before.map (ResolvedSegment.mk · []) ++ [⟨name, [a]⟩])
    rw [named, structuralIdentity] at identity
    rw [identity] at named
    exact ⟨display, capability, map_eq_ok.mpr ⟨_, succeeds, named⟩⟩

theorem generic_injective (before : List String) (name : String) (left right : String)
    (same : ".".intercalate (before ++ [genericIdentity name [left]]) =
      ".".intercalate (before ++ [genericIdentity name [right]])) : left = right := by
  have cancelled : genericIdentity name [left] = genericIdentity name [right] := by
    cases before with
    | nil => simpa using same
    | cons first before =>
        rw [String.intercalate_append_of_ne_nil (List.cons_ne_nil _ _) (List.cons_ne_nil _ _),
          String.intercalate_append_of_ne_nil (List.cons_ne_nil _ _) (List.cons_ne_nil _ _)] at same
        simpa using same
  simpa [genericIdentity, bracketed] using cancelled

/-- Where every type that is written is depicted, sameness is equality of identities. -/
theorem same_iff_of_depicts {a b : HostType} (depicts : ∃ tree, Depicts a tree)
    (depicts' : ∃ tree, Depicts b tree) :
    a.same b = true ↔ a.structuralIdentity = b.structuralIdentity := by
  obtain ⟨tree, depicts⟩ := depicts
  obtain ⟨tree', depicts'⟩ := depicts'
  constructor
  · intro same
    exact structuralIdentity_eq_of_core ((same_iff_core_eq a b).mp same)
  · exact depicts.same depicts'

end Scope

open Scope

/-- In an accepted manifest, the types that occur in constructors and conversions are the same just
if their identities are. So it is when they are wrapped: whatever stands in arrays of one rank, or
as the only type argument of a name that is not declared, is the same just if the wholes are. -/
theorem Manifest.same_iff_structuralIdentity_eq {manifest : Manifest} {types : List TypeDecl}
    (accepted : manifest.declarations = .ok types) :
    (∀ type ∈ types, ∀ type' ∈ types,
      ∀ whole ∈ type.parameterTypes, ∀ whole' ∈ type'.parameterTypes,
      ∀ a ∈ whole.occurring, ∀ b ∈ whole'.occurring,
        (a.same b = true ↔ a.structuralIdentity = b.structuralIdentity)) ∧
    ∀ (parameters parameters' : List String) (text text' : String) (x y : TypeExpr),
      TypeExpr.parse text = .ok x → TypeExpr.parse text' = .ok y →
      let scope := { manifest.scope with typeParameters := parameters }
      let scope' := { manifest.scope with typeParameters := parameters' }
      (∀ commas span span',
        ResolveAlike scope scope' (.array x commas span) (.array y commas span') ↔
          ResolveAlike scope scope' x y) ∧
      ∀ isGlobal before name, manifest.scope.UndeclaredGeneric isGlobal before name →
        (ResolveAlike scope scope' (genericOf isGlobal before name x)
            (genericOf isGlobal before name y) ↔
          ResolveAlike scope scope' x y) := by
  have legal := legal_of_declarations accepted
  constructor
  · have depicted : ∀ type ∈ types, ∀ whole ∈ type.parameterTypes, ∀ inner ∈ whole.occurring,
        ∃ tree, Depicts inner tree := by
      intro type mem whole isParameter
      obtain ⟨entry, -, declares⟩ := exists_left_of_forall₂ (declarations_eq_ok.mp accepted) mem
      obtain ⟨text, -, denotes⟩ := declares.denotes_parameterTypes whole isParameter
      exact exists_depicts_of_mem_occurring rfl legal denotes
    intro type mem type' mem' whole isParameter whole' isParameter' a occurs b occurs'
    exact same_iff_of_depicts (depicted type mem whole isParameter a occurs)
      (depicted type' mem' whole' isParameter' b occurs')
  · intro parameters parameters' text text' x y read read' scope scope'
    have told (a b : HostType) (resolved : scope.resolve x = .ok a)
        (resolved' : scope'.resolve y = .ok b) :
        a.same b = true ↔ a.structuralIdentity = b.structuralIdentity :=
      same_iff_of_depicts
        (exists_depicts_of_mem_occurring rfl legal ⟨x, read, resolved⟩ a List.mem_cons_self)
        (exists_depicts_of_mem_occurring rfl legal ⟨y, read', resolved'⟩ b List.mem_cons_self)
    constructor
    · intro commas span span'
      refine resolveAlike_wrapped_iff ?_ (wraps_array commas span x) (wraps_array commas span' y)
        told
      exact fun left right same => by simpa using same
    · intro isGlobal before name generic
      have inner (parameters : List String) :
          UndeclaredGeneric { manifest.scope with typeParameters := parameters } isGlobal before
            name :=
        ⟨generic.allowed, generic.undeclared⟩
      exact resolveAlike_wrapped_iff (generic_injective _ _) (wraps_genericOf (inner parameters) x)
        (wraps_genericOf (inner parameters') y) told

/-- A generic type made from two spellings of one list of pairs. -/
def pairsEntry : TypeEntry :=
  { name := "Pairs", namespacePath := some "Demo", typeParameters := ["T"]
    constructors := [
      { parameters := [{ name := "first", type := "List<(int, T?[,])>" },
          { name := "second", type := "List < (System.Int32 left, T? [,] right) >" }] }] }

/-- The pairs are the same within a list as they are alone. -/
theorem Manifest.same_iff_structuralIdentity_eq_pairs :
    let manifest : Manifest := { types := [pairsEntry] }
    let scope := { manifest.scope with typeParameters := ["T"] }
    ∃ type, manifest.declarations = .ok [type] ∧
      (∃ a ∈ type.parameterTypes, ∃ b ∈ type.parameterTypes,
        a.display ≠ b.display ∧ a.same b = true) ∧
      ∃ x y, TypeExpr.parse "(int, T?[,])" = .ok x ∧
        TypeExpr.parse "(System.Int32 left, T?[,] right)" = .ok y ∧
        ResolveAlike scope scope x y ∧
        ResolveAlike scope scope (genericOf false [] "List" x) (genericOf false [] "List" y) := by
  intro manifest scope
  obtain ⟨types, accepted, seen⟩ := toOption_map_eq_some.mp
    (by decide +kernel : manifest.declarations.toOption.map (List.map fun type =>
      type.parameterTypes.map fun a => (a.structuralIdentity, a.display)) =
        some [[("List<(System.Int32,T?[,])>", "List<(int, T?[,])>"),
          ("List<(System.Int32,T?[,])>", "List<(System.Int32 left, T?[,] right)>")]])
  obtain ⟨type, rfl, parameters⟩ := List.map_eq_singleton_iff.mp seen
  obtain ⟨a, _, listed, first, rest⟩ := List.map_eq_cons_iff.mp parameters
  obtain ⟨b, rfl, second⟩ := List.map_eq_singleton_iff.mp rest
  obtain ⟨told, wrapped⟩ := same_iff_structuralIdentity_eq accepted
  have isFirst : a ∈ type.parameterTypes := by simp [listed]
  have isSecond : b ∈ type.parameterTypes := by simp [listed]
  have same := told type List.mem_cons_self type List.mem_cons_self a isFirst b isSecond
    a List.mem_cons_self b List.mem_cons_self
  rw [Prod.mk.injEq] at first second
  have alike : ∃ x y, TypeExpr.parse "(int, T?[,])" = .ok x ∧
      TypeExpr.parse "(System.Int32 left, T?[,] right)" = .ok y ∧ ResolveAlike scope scope x y := by
    let pair : HostType := .tuple
      [.mk none (.named "System.Int32" "" .concrete), .mk none (.named "T?[,]" "" .concrete)]
    obtain ⟨left, ⟨x, read, resolved⟩, isPair⟩ : ∃ type, Denotes scope "(int, T?[,])" type ∧
        type.same pair = true := exists_denotes (by decide +kernel)
    obtain ⟨right, ⟨y, read', resolved'⟩, isPair'⟩ : ∃ type,
        Denotes scope "(System.Int32 left, T?[,] right)" type ∧ type.same pair = true :=
      exists_denotes (by decide +kernel)
    rw [same_iff_core_eq] at isPair isPair'
    exact ⟨x, y, read, read', left, right, resolved, resolved',
      (same_iff_core_eq left right).mpr (isPair.trans isPair'.symm)⟩
  obtain ⟨x, y, read, read', resolved⟩ := alike
  have generic : manifest.scope.UndeclaredGeneric false [] "List" := ⟨by decide, by decide +kernel⟩
  refine ⟨type, accepted, ⟨a, isFirst, b, isSecond, ?_, same.mpr (first.1.trans second.1.symm)⟩,
    x, y, read, read', resolved, ?_⟩
  · rw [first.2, second.2]
    decide
  · exact ((wrapped ["T"] ["T"] _ _ x y read read').2 false [] "List" generic).mpr resolved

end ConversionSynthesis
