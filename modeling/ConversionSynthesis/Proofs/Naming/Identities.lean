import ConversionSynthesis.Proofs.Declaration.Essence
import ConversionSynthesis.Proofs.Naming.QualifiedSpelling
import ConversionSynthesis.Proofs.SideBySide
import ConversionSynthesis.Proofs.TypeExpr.Words

/-! # What an identity says of a type

The identity of a type is written along a tree, which can be told from the text. Where nothing is
declared, a tree comes to one type, whose capability the table decides. A type is read off its
identity if it is the one that the tree comes to. Types that are have one essence if they have one
identity.
-/

namespace ConversionSynthesis

open Host HostType Grammar

/-! ## The essence of a name -/

theorem bare_mark (name : String) : bare ("@" ++ name) = name := by
  have chars : ("@" ++ name).toList = '@' :: name.toList := String.toList_append
  rw [bare, chars, bareChars, String.ofList_toList]

namespace ResolvedSegment

/-- A segment with a name as the host sees it. -/
def ofBare (name : String) (arguments : List HostType) : ResolvedSegment :=
  ⟨"@" ++ name, arguments⟩

@[simp]
theorem name_ofBare (name : String) (arguments : List HostType) :
    (ofBare name arguments).name = name :=
  bare_mark name

@[simp]
theorem arguments_ofBare (name : String) (arguments : List HostType) :
    (ofBare name arguments).arguments = arguments :=
  rfl

@[simp]
theorem identity_ofBare (name : String) (arguments : List HostType) :
    (ofBare name arguments).identity =
      genericIdentity name (arguments.map (·.structuralIdentity)) := by
  rw [identity, name_ofBare, arguments_ofBare]

/-- The segment with its name bare and the essences of its arguments. -/
def stripped (segment : ResolvedSegment) : ResolvedSegment :=
  ofBare segment.name (segment.arguments.map HostType.essence)

theorem identity_stripped (segment : ResolvedSegment) :
    segment.stripped.identity = segment.identity := by
  simp [stripped, identity, Function.comp_def]

end ResolvedSegment

namespace Scope

/-- The capability that the table gives a name, unless it is the one that names have anyway. -/
def granted? (scope : Scope) (identity path simple : String) : Option Capability :=
  (scope.tableCapability? identity path simple).filter (· != .concrete)

/-- The essence of a name that is no builtin type. -/
def judged (scope : Scope) (identity path simple : String) (isGeneral : Bool) : HostType :=
  .named identity "" ((scope.granted? identity path simple).getD
    (ResolvedType.capabilityOf (isUniversalBase identity || isGeneral)))

/-- The path of segments. -/
def pathOf (segments : List ResolvedSegment) : String :=
  ".".intercalate (segments.map (·.name))

/-- Whether some argument of the segments is general. -/
def anyGeneral (segments : List ResolvedSegment) : Bool :=
  segments.any (·.arguments.any (·.isGeneralizable))

/-- The builtin type that segments name, if the last and those before have no arguments. -/
def builtinAt? (before : List ResolvedSegment) (last : ResolvedSegment) : Option Builtin :=
  if last.arguments.isEmpty && before.all (·.arguments.isEmpty) then
    Builtin.ofCanonical? (pathOf (before ++ [last]))
  else none

/-- The declared type that segments name. -/
def targetAt? (scope : Scope) (before : List ResolvedSegment) (last : ResolvedSegment) :
    Option DeclaredType :=
  if before.all (·.arguments.isEmpty) then
    scope.registry.lookup? (pathOf (before ++ [last])) (before.length + 1) last.arguments.length
  else none

variable {scope : Scope}

theorem essence_type_dottedName (isGlobal : Bool) (before : List ResolvedSegment)
    (last : ResolvedSegment) :
    (scope.dottedName isGlobal (before ++ [last])).type.essence =
      match builtinAt? before last with
      | some builtin =>
          .named builtin.canonical ""
            (ResolvedType.capabilityOf (isUniversalBase builtin.canonical))
      | none =>
          scope.judged (nameParts isGlobal (before ++ [last]) last.arguments
            (scope.targetAt? before last)).1 (pathOf (before ++ [last])) last.name
            (anyGeneral (before ++ [last])) := by
  have dropped : (before ++ [last]).dropLast = before := List.dropLast_concat
  have ending : ((before ++ [last]).map (·.name)).getLast?.getD "" = last.name := by simp
  have arguments : ((before ++ [last]).getLast?.map (·.arguments)).getD [] = last.arguments := by
    simp
  have length : ((before ++ [last]).map (·.name)).length = before.length + 1 := by simp
  simp only [dottedName, dropped, ending, arguments, length]
  have found : (if (last.arguments.isEmpty && before.all (·.arguments.isEmpty)) = true then
      Builtin.ofCanonical? (".".intercalate ((before ++ [last]).map (·.name))) else none) =
        builtinAt? before last := rfl
  rw [found]
  cases builtinAt? before last with
  | some builtin => rfl
  | none =>
      simp only [judged, granted?, anyGeneral, pathOf, targetAt?]
      split <;> (next given => rw [given]; rfl)

/-- The essence of the type that segments come to where nothing is declared. -/
def undeclared (scope : Scope) (segments : List ResolvedSegment) : HostType :=
  ({ scope with registry := [] }.dottedName false segments).type.essence

theorem undeclared_concat (before : List ResolvedSegment) (last : ResolvedSegment) :
    scope.undeclared (before ++ [last]) =
      match builtinAt? before last with
      | some builtin =>
          .named builtin.canonical ""
            (ResolvedType.capabilityOf (isUniversalBase builtin.canonical))
      | none =>
          scope.judged (".".intercalate ((before ++ [last]).map (·.identity)))
            (pathOf (before ++ [last])) last.name (anyGeneral (before ++ [last])) := by
  have nothing : targetAt? { scope with registry := [] } before last = none := by
    unfold targetAt?
    split
    · simp [Registry.lookup?, Registry.byPath?, Registry.bySimpleName?]
    · rfl
  rw [undeclared, essence_type_dottedName, nothing]
  rfl

/-- What a name comes to depends on the bare names and the essences of the arguments only. -/
theorem undeclared_stripped (segments : List ResolvedSegment) :
    scope.undeclared (segments.map ResolvedSegment.stripped) = scope.undeclared segments := by
  rcases segments.eq_nil_or_concat' with rfl | ⟨before, last, rfl⟩
  · rfl
  · have path : pathOf ((before ++ [last]).map ResolvedSegment.stripped) =
        pathOf (before ++ [last]) := by
      simp [pathOf, ResolvedSegment.stripped, Function.comp_def]
    have identities : ((before ++ [last]).map ResolvedSegment.stripped).map (·.identity) =
        (before ++ [last]).map (·.identity) := by
      simp only [List.map_map, Function.comp_def, ResolvedSegment.identity_stripped]
    have general : anyGeneral ((before ++ [last]).map ResolvedSegment.stripped) =
        anyGeneral (before ++ [last]) := by
      simp [anyGeneral, ResolvedSegment.stripped, Function.comp_def]
    have builtin : builtinAt? (before.map ResolvedSegment.stripped) last.stripped =
        builtinAt? before last := by
      rw [List.map_append, List.map_singleton] at path
      rw [builtinAt?, builtinAt?, path]
      simp [ResolvedSegment.stripped, Function.comp_def]
    rw [List.map_append, List.map_singleton] at path identities general
    rw [List.map_append, List.map_singleton, undeclared_concat, undeclared_concat, builtin, path,
      identities, general, ResolvedSegment.stripped, ResolvedSegment.name_ofBare]

theorem structuralIdentity_undeclared {segments : List ResolvedSegment} (some : segments ≠ []) :
    (scope.undeclared segments).structuralIdentity =
      ".".intercalate (segments.map (·.identity)) := by
  rcases segments.eq_nil_or_concat' with rfl | ⟨before, last, rfl⟩
  · exact absurd rfl some
  · rw [undeclared_concat]
    generalize found : builtinAt? before last = builtin?
    cases builtin? with
    | none => rfl
    | some builtin =>
        unfold builtinAt? at found
        split at found
        · next plain =>
            rw [Bool.and_eq_true, List.isEmpty_iff, List.all_eq_true] at plain
            -- No segment has arguments, so the identities are the names, and these the builtin's.
            have identity_eq : ∀ segment ∈ before ++ [last], segment.name = segment.identity := by
              rw [List.forall_mem_append, List.forall_mem_singleton]
              constructor
              · intro segment mem
                have none := List.isEmpty_iff.mp (plain.2 segment mem)
                simp [ResolvedSegment.identity, none, genericIdentity, bracketed]
              · simp [ResolvedSegment.identity, plain.1, genericIdentity, bracketed]
            rw [← List.map_congr_left identity_eq]
            exact ofCanonical?_canonical found
        · cases found

/-! ## The type that a tree comes to -/

mutual

/-- The essence of the type whose identity is written along a tree, if no declared type has it. -/
def reading (scope : Scope) : TypeExpr → HostType
  | .named _ segments _ => scope.undeclared (scope.readSegments segments)
  | .tuple elements _ => .tuple (scope.readElements elements)
  | .nullable inner _ =>
      .named ((scope.reading inner).structuralIdentity ++ "?") ""
        (ResolvedType.capabilityOf (scope.reading inner).isGeneralizable)
  | .array element commas _ =>
      (ResolvedType.array commas ⟨scope.reading element, false⟩).type.essence

def readSegments (scope : Scope) : List Segment → List ResolvedSegment
  | [] => []
  | .mk name arguments _ :: rest =>
      .ofBare name (scope.readArguments arguments) :: scope.readSegments rest

def readElements (scope : Scope) : List Element → List TupleElement
  | [] => []
  | .mk type _ :: rest => .mk none (scope.reading type) :: scope.readElements rest

def readArguments (scope : Scope) : List TypeExpr → List HostType
  | [] => []
  | argument :: rest => scope.reading argument :: scope.readArguments rest

end

/-- The identity of the type is written along the tree, and the tree comes to the type. -/
structure Identifies (scope : Scope) (type : HostType) (tree : TypeExpr) : Prop where
  written : Writes IsWord IsType type.structuralIdentity.toList tree
  reading : scope.reading tree = type.essence

/-- Types that are read off one identity have one essence. -/
theorem Identifies.sameEssence {type type' : HostType} {tree tree' : TypeExpr}
    (identifies : scope.Identifies type tree) (identifies' : scope.Identifies type' tree')
    (same : type.structuralIdentity = type'.structuralIdentity) : SameEssence type type' := by
  have written := identifies.written
  rw [same] at written
  have sameTree : tree = tree' := written.unique identifies'.written
  rw [SameEssence, ← identifies.reading, ← identifies'.reading, sameTree]

/-- A segment stands along one of a tree, and so do its arguments. -/
inductive SegmentAlong (along : HostType → TypeExpr → Prop) : ResolvedSegment → Segment → Prop
  | mk {segment : ResolvedSegment} {name trees} : segment.name = name → IsWord name →
      List.Forall₂ along segment.arguments trees →
      SegmentAlong along segment (.mk name trees default)

/-- A segment is read off one of a tree. -/
abbrev IdentifiesSegment (scope : Scope) : ResolvedSegment → Segment → Prop :=
  SegmentAlong scope.Identifies

theorem readArguments_eq {types : List HostType} {trees : List TypeExpr}
    (identify : List.Forall₂ scope.Identifies types trees) :
    scope.readArguments trees = types.map HostType.essence := by
  induction identify with
  | nil => rfl
  | cons first _ ih => rw [readArguments, first.reading, ih, List.map_cons]

theorem readSegments_eq {segments : List ResolvedSegment} {trees : List Segment}
    (identify : List.Forall₂ scope.IdentifiesSegment segments trees) :
    scope.readSegments trees = segments.map ResolvedSegment.stripped := by
  induction identify with
  | nil => rfl
  | cons first _ ih =>
      obtain ⟨rfl, -, arguments⟩ := first
      rw [readSegments, readArguments_eq arguments, ih, List.map_cons, ResolvedSegment.stripped]

theorem readElements_eq {elements : List TupleElement} {trees : List TypeExpr}
    (identify : List.Forall₂ scope.Identifies (elements.map (·.type)) trees) :
    scope.readElements (trees.map (.mk · none)) = essences elements := by
  induction elements generalizing trees with
  | nil =>
      cases identify
      rfl
  | cons element rest ih =>
      -- Labels are in no identity, and in no essence.
      obtain ⟨label, type⟩ := element
      cases identify with
      | cons first others =>
          rw [List.map_cons, readElements, essences, ih others, first.reading]
          rfl

/-! ## Types put together -/

section Writing

variable {along : HostType → TypeExpr → Prop}
  (written : ∀ type tree, along type tree →
    Writes IsWord IsType type.structuralIdentity.toList tree)

include written

theorem writes_arguments {types : List HostType} {trees : List TypeExpr}
    (pairs : List.Forall₂ along types trees) :
    List.Forall₂ (Writes IsWord IsType)
      ((types.map (·.structuralIdentity)).map String.toList) trees := by
  rw [List.map_map, List.forall₂_map_left_iff]
  exact pairs.imp written

theorem SegmentAlong.writes {segment : ResolvedSegment} {tree : Segment}
    (pairs : SegmentAlong along segment tree) :
    Writes IsWord IsSegment segment.identity.toList tree := by
  obtain ⟨rfl, word, arguments⟩ := pairs
  exact writes_bracketed isComma_plain word (writes_arguments written arguments)

theorem writes_path {segments : List ResolvedSegment} {trees : List Segment}
    (pairs : List.Forall₂ (SegmentAlong along) segments trees) (some : segments ≠ []) :
    Writes IsWord IsType (".".intercalate (segments.map (·.identity))).toList
      (.named false trees default) := by
  have texts : List.Forall₂ (Writes IsWord IsSegment)
      ((segments.map (·.identity)).map String.toList) trees := by
    rw [List.map_map, List.forall₂_map_left_iff]
    exact pairs.imp fun _ _ along => along.writes written
  rw [String.toList_intercalate]
  exact .path (.dots texts (by simpa using some))

theorem writes_tuple {elements : List TupleElement} {trees : List TypeExpr}
    (pairs : List.Forall₂ along (elements.map (·.type)) trees) (some : elements ≠ []) :
    Writes IsWord IsType (HostType.tuple elements).structuralIdentity.toList
      (.tuple (trees.map (.mk · none)) default) := by
  have texts : List.Forall₂ (Writes IsWord IsElement)
      (((elements.map (·.type)).map (·.structuralIdentity)).map String.toList)
      (trees.map (.mk · none)) := by
    rw [List.forall₂_map_right_iff]
    exact (writes_arguments written pairs).imp fun _ _ text => text.unlabelled
  have tuple := Writes.tuple isComma_plain texts (by simpa using some)
  rw [structuralIdentity, structuralIdentities_eq_map]
  simpa [String.toList_intercalate, Function.comp_def] using tuple

end Writing

/-- A name that comes to what its segments say where nothing is declared. -/
theorem identifies_named {type : HostType} {segments : List ResolvedSegment} {trees : List Segment}
    (identify : List.Forall₂ scope.IdentifiesSegment segments trees) (some : segments ≠ [])
    (same : type.essence = scope.undeclared segments) :
    scope.Identifies type (.named false trees default) where
  written := by
    rw [← structuralIdentity_essence, same, structuralIdentity_undeclared some]
    exact writes_path (fun _ _ identifies => identifies.written) identify some
  reading := by
    rw [reading, readSegments_eq identify, undeclared_stripped, same]

theorem identifies_tuple {elements : List TupleElement} {trees : List TypeExpr}
    (identify : List.Forall₂ scope.Identifies (elements.map (·.type)) trees)
    (some : elements ≠ []) :
    scope.Identifies (.tuple elements) (.tuple (trees.map (.mk · none)) default) where
  written := writes_tuple (fun _ _ identifies => identifies.written) identify some
  reading := by
    rw [reading, readElements_eq identify, essence]

theorem identifies_array {type : HostType} {tree : TypeExpr} (commas : Nat) (isReference : Bool)
    (identifies : scope.Identifies type tree) :
    scope.Identifies (ResolvedType.array commas ⟨type, isReference⟩).type
      (.array tree commas default) where
  written := by
    have array := identifies.written.array commas
    simpa [ResolvedType.array, structuralIdentity] using array
  reading := by
    rw [reading, identifies.reading]
    simp [ResolvedType.array, essence]

/-- A suffix on a type that is no reference makes a type of its own, and else keeps the type. -/
theorem exists_identifies_nullable {r : ResolvedType} {tree : TypeExpr}
    (identifies : scope.Identifies r.type tree) :
    ∃ tree', scope.Identifies r.nullable.type tree' := by
  have apart : ∀ display, scope.Identifies
      (.named (r.type.structuralIdentity ++ "?") display
        (ResolvedType.capabilityOf r.type.isGeneralizable)) (.nullable tree default) := by
    intro display
    constructor
    · simpa [structuralIdentity] using identifies.written.nullable
    · rw [reading, identifies.reading]
      simp [essence]
  obtain ⟨type, isReference⟩ := r
  cases type with
  | tuple elements => exact ⟨_, apart _⟩
  | named identity display capability =>
      unfold ResolvedType.nullable
      dsimp only
      split
      -- The suffix on a reference shows in the spelling only, so the tree stays as it is.
      · exact ⟨tree, identifies.written, identifies.reading⟩
      · exact ⟨_, apart _⟩

/-! ## Everything that resolves -/

/-- Names, tuples and suffixes keep a property of types: it holds of what they come to if it holds
of the types within them. -/
structure Keeps (scope : Scope) (holds : HostType → Prop) : Prop where
  names : ∀ isGlobal segments, segments ≠ [] →
    (∀ segment ∈ segments, IsTokenName segment.written ∧
      ∀ type ∈ segment.arguments, holds type) →
    holds (scope.nameType isGlobal segments).type
  tuple : ∀ elements : List TupleElement, elements ≠ [] →
    (∀ element ∈ elements, holds element.type) → holds (.tuple elements)
  nullable : ∀ r : ResolvedType, holds r.type → holds r.nullable.type
  array : ∀ (r : ResolvedType) (commas : Nat), holds r.type → holds (r.array commas).type

section Keeping

variable {holds : HostType → Prop}

mutual

/-- What names, tuples and suffixes keep holds of every type that an expression resolves to. -/
theorem Keeps.of_resolveType (keeps : scope.Keeps holds) :
    ∀ {expr : TypeExpr} {r : ResolvedType}, (∀ node ∈ expr.nodes, node.Formed) →
      scope.resolveType expr = .ok r → holds r.type
  | .named isGlobal segments span, r, formed, succeeds => by
      rw [TypeExpr.nodes, List.forall_mem_cons] at formed
      obtain ⟨⟨some, tokens⟩, inside⟩ := formed
      obtain ⟨resolved, succeedsSegments, rfl⟩ := resolveType_named_eq_ok.mp succeeds
      have each := keeps.of_resolveSegments tokens inside succeedsSegments
      refine keeps.names isGlobal resolved ?_ each
      rintro rfl
      have written := written_resolveSegments succeedsSegments
      exact some (List.map_eq_nil_iff.mp written.symm)
  | .tuple elements span, r, formed, succeeds => by
      rw [TypeExpr.nodes, List.forall_mem_cons] at formed
      obtain ⟨types, succeedsElements, rfl⟩ := resolveType_tuple_eq_ok.mp succeeds
      refine keeps.tuple types ?_ (keeps.of_resolveElements formed.2 succeedsElements)
      rintro rfl
      cases elements with
      | nil => exact formed.1 rfl
      | cons element rest =>
          obtain ⟨_, _, -, -, -, several⟩ := resolveElements_cons_eq_ok.mp succeedsElements
          cases several
  | .nullable inner span, r, formed, succeeds => by
      rw [TypeExpr.nodes, List.forall_mem_cons] at formed
      obtain ⟨-, x, succeedsInner, rfl⟩ := resolveType_nullable_eq_ok.mp succeeds
      exact keeps.nullable x (keeps.of_resolveType formed.2 succeedsInner)
  | .array element commas span, r, formed, succeeds => by
      rw [TypeExpr.nodes, List.forall_mem_cons] at formed
      obtain ⟨x, succeedsElement, rfl⟩ := resolveType_array_eq_ok.mp succeeds
      exact keeps.array x commas (keeps.of_resolveType formed.2 succeedsElement)

theorem Keeps.of_resolveSegments (keeps : scope.Keeps holds) {isWhole : Bool} :
    ∀ {segments : List Segment} {resolved : List ResolvedSegment},
    (∀ segment ∈ segments, IsTokenName segment.name) →
    (∀ node ∈ TypeExpr.segmentsNodes segments, node.Formed) →
    scope.resolveSegments isWhole segments = .ok resolved →
      ∀ segment ∈ resolved, IsTokenName segment.written ∧ ∀ type ∈ segment.arguments, holds type
  | [], resolved, tokens, formed, succeeds => by
      cases succeeds
      exact nofun
  | .mk name arguments span :: rest, resolved, tokens, formed, succeeds => by
      rw [List.forall_mem_cons] at tokens
      rw [TypeExpr.segmentsNodes, List.forall_mem_append] at formed
      obtain ⟨-, types, others, succeedsArguments, succeedsRest, rfl⟩ :=
        resolveSegments_cons_eq_ok.mp succeeds
      exact List.forall_mem_cons.mpr
        ⟨⟨tokens.1, keeps.of_resolveArguments formed.1 succeedsArguments⟩,
          keeps.of_resolveSegments tokens.2 formed.2 succeedsRest⟩

theorem Keeps.of_resolveArguments (keeps : scope.Keeps holds) :
    ∀ {arguments : List TypeExpr} {types : List HostType},
    (∀ node ∈ TypeExpr.argumentsNodes arguments, node.Formed) →
    scope.resolveArguments arguments = .ok types → ∀ type ∈ types, holds type
  | [], types, formed, succeeds => by
      cases succeeds
      exact nofun
  | argument :: rest, types, formed, succeeds => by
      rw [TypeExpr.argumentsNodes, List.forall_mem_append] at formed
      obtain ⟨r, others, succeedsFirst, succeedsRest, rfl⟩ :=
        resolveArguments_cons_eq_ok.mp succeeds
      exact List.forall_mem_cons.mpr ⟨keeps.of_resolveType formed.1 succeedsFirst,
        keeps.of_resolveArguments formed.2 succeedsRest⟩

theorem Keeps.of_resolveElements (keeps : scope.Keeps holds) {seen : List String} :
    ∀ {elements : List Element} {types : List TupleElement},
    (∀ node ∈ TypeExpr.elementsNodes elements, node.Formed) →
    scope.resolveElements seen elements = .ok types → ∀ element ∈ types, holds element.type
  | [], types, formed, succeeds => by
      cases succeeds
      exact nofun
  | .mk type label :: rest, types, formed, succeeds => by
      rw [TypeExpr.elementsNodes, List.forall_mem_append] at formed
      obtain ⟨r, others, succeedsFirst, -, succeedsRest, rfl⟩ :=
        resolveElements_cons_eq_ok.mp succeeds
      exact List.forall_mem_cons.mpr ⟨keeps.of_resolveType formed.1 succeedsFirst,
        keeps.of_resolveElements formed.2 succeedsRest⟩

end

end Keeping

/-- The scope gives names types that can be read off their identities, if this is so of the types
within the names. -/
def NamesIdentified (scope : Scope) : Prop :=
  ∀ isGlobal segments trees, List.Forall₂ scope.IdentifiesSegment segments trees → segments ≠ [] →
    ∃ tree, scope.Identifies (scope.nameType isGlobal segments).type tree

theorem exists_identifies (names : scope.NamesIdentified) {expr : TypeExpr} {r : ResolvedType}
    (formed : ∀ node ∈ expr.nodes, node.Formed) (succeeds : scope.resolveType expr = .ok r) :
    ∃ tree, scope.Identifies r.type tree := by
  have keeps : scope.Keeps fun type => ∃ tree, scope.Identifies type tree := by
    constructor
    case names =>
      intro isGlobal segments some within
      have each : ∀ segment ∈ segments, ∃ tree, scope.IdentifiesSegment segment tree := by
        intro segment mem
        obtain ⟨token, arguments⟩ := within segment mem
        obtain ⟨trees, identify⟩ := exists_forall₂_iff.mpr arguments
        exact ⟨_, .mk rfl token.isWord_bare identify⟩
      obtain ⟨trees, identify⟩ := exists_forall₂_iff.mpr each
      exact names isGlobal segments trees identify some
    case tuple =>
      intro elements some within
      obtain ⟨trees, identify⟩ := exists_forall₂_iff.mpr (List.forall_mem_map.mpr within)
      exact ⟨_, identifies_tuple identify some⟩
    case nullable => exact fun r ⟨_, identifies⟩ => exists_identifies_nullable identifies
    case array => exact fun r commas ⟨_, identifies⟩ =>
      ⟨_, identifies_array commas r.isReference identifies⟩
  exact keeps.of_resolveType formed succeeds

end Scope

end ConversionSynthesis
