import ConversionSynthesis.Proofs.Declaration.Essence
import ConversionSynthesis.Proofs.Naming.Resolving
import ConversionSynthesis.Proofs.TypeExpr.Completeness

/-! # Spelling a type differently

One type can be spelled in several ways: builtin types have keywords and dotted names, references
may carry a nullable suffix, and the elements of tuples may have labels. An expression with any of
its parts respelled resolves if the expression does, and both have one essence.
-/

namespace ConversionSynthesis

open Host HostType

/-! ## Essences of resolved types -/

namespace ResolvedType

def essence (r : ResolvedType) : ResolvedType :=
  ⟨r.type.essence, r.isReference⟩

theorem essence_nullable (r : ResolvedType) : r.essence.nullable.essence = r.nullable.essence := by
  obtain ⟨type, isReference⟩ := r
  cases type with
  | named identity display capability =>
      simp only [nullable, essence, HostType.essence, structuralIdentity, isGeneralizable]
      split <;> rfl
  | tuple elements =>
      have identity := structuralIdentity_essence (.tuple elements)
      have general := isGeneralizable_essence (.tuple elements)
      rw [HostType.essence] at identity general
      simp only [nullable, essence, HostType.essence, identity, general]

theorem essence_array (commas : Nat) (r : ResolvedType) :
    (r.essence.array commas).essence = (r.array commas).essence := by
  simp [array, essence, HostType.essence]

/-- A suffix on a reference changes the spelling only. -/
theorem essence_nullable_of_isReference {r : ResolvedType} {identity display : String}
    {capability : Capability} (named : r.type = .named identity display capability)
    (reference : r.isReference = true) : r.nullable.essence = r.essence := by
  obtain ⟨type, isReference⟩ := r
  subst named
  simp only [nullable, essence]
  rw [if_pos (.inr reference)]
  rfl

end ResolvedType

namespace ResolvedSegment

def essence (segment : ResolvedSegment) : ResolvedSegment :=
  ⟨segment.written, segment.arguments.map HostType.essence⟩

/-- A change to segments that leaves their bare names and the essences of their arguments. -/
structure KeepsEssence (change : ResolvedSegment → ResolvedSegment) : Prop where
  name : ∀ segment, (change segment).name = segment.name
  arguments : ∀ segment, (change segment).arguments = segment.arguments.map HostType.essence

theorem keepsEssence_essence : KeepsEssence essence :=
  ⟨fun _ => rfl, fun _ => rfl⟩

theorem KeepsEssence.identity {change : ResolvedSegment → ResolvedSegment}
    (keeps : KeepsEssence change) (segment : ResolvedSegment) :
    (change segment).identity = segment.identity := by
  simp [ResolvedSegment.identity, keeps.name, keeps.arguments, Function.comp_def]

end ResolvedSegment

namespace Scope

open ResolvedSegment

variable {scope : Scope} {change : ResolvedSegment → ResolvedSegment}

/-- The identity of a name and whether it is a reference, without its spelling. -/
theorem nameParts_map (keeps : KeepsEssence change) (isGlobal : Bool)
    (segments : List ResolvedSegment) (arguments : List HostType) (target : Option DeclaredType) :
    (nameParts isGlobal (segments.map change) (arguments.map HostType.essence) target).1 =
        (nameParts isGlobal segments arguments target).1 ∧
      (nameParts isGlobal (segments.map change) (arguments.map HostType.essence) target).2.2 =
        (nameParts isGlobal segments arguments target).2.2 := by
  cases target with
  | none => simp [nameParts, Function.comp_def, keeps.identity]
  | some declared => simp [nameParts, Function.comp_def]

/-- The essence of a name depends on the bare names of its segments and the essences of their
arguments only. -/
theorem essence_dottedName_map (keeps : KeepsEssence change) (isGlobal : Bool)
    (segments : List ResolvedSegment) :
    (scope.dottedName isGlobal (segments.map change)).essence =
      (scope.dottedName isGlobal segments).essence := by
  have names : (segments.map change).map (·.name) = segments.map (·.name) := by
    rw [List.map_map]
    exact List.map_congr_left fun segment _ => keeps.name segment
  have arguments :
      (((segments.map change).getLast?.map (·.arguments)).getD []) =
        ((segments.getLast?.map (·.arguments)).getD []).map HostType.essence := by
    rw [List.getLast?_map]
    cases segments.getLast? with
    | none => rfl
    | some last => exact keeps.arguments last
  have before : (segments.map change).dropLast.all (·.arguments.isEmpty) =
      segments.dropLast.all (·.arguments.isEmpty) := by
    rw [← List.map_dropLast, List.all_map]
    simp [Function.comp_def, keeps.arguments]
  have general : (segments.map change).any (·.arguments.any (·.isGeneralizable)) =
      segments.any (·.arguments.any (·.isGeneralizable)) := by
    simp [List.any_map, Function.comp_def, keeps.arguments]
  simp only [dottedName, names, arguments, before, general, List.isEmpty_map, List.length_map]
  split
  · rfl
  · obtain ⟨identity, reference⟩ := nameParts_map keeps isGlobal segments
      ((segments.getLast?.map (·.arguments)).getD [])
      (if segments.dropLast.all (·.arguments.isEmpty) then
        scope.registry.lookup? (".".intercalate (segments.map (·.name))) segments.length
          ((segments.getLast?.map (·.arguments)).getD []).length
        else none)
    simp only [identity, reference]
    split <;> rfl

theorem essence_dottedName (isGlobal : Bool) (segments : List ResolvedSegment) :
    (scope.dottedName isGlobal (segments.map ResolvedSegment.essence)).essence =
      (scope.dottedName isGlobal segments).essence :=
  essence_dottedName_map keepsEssence_essence isGlobal segments

theorem essence_nameType (isGlobal : Bool) (segments : List ResolvedSegment) :
    (scope.nameType isGlobal (segments.map ResolvedSegment.essence)).essence =
      (scope.nameType isGlobal segments).essence := by
  match isGlobal, segments with
  | false, [] => rfl
  | false, [⟨written, []⟩] => rfl
  | false, [⟨written, argument :: rest⟩] =>
      exact essence_dottedName false [⟨written, argument :: rest⟩]
  | false, ⟨written, []⟩ :: second :: rest =>
      exact essence_dottedName false (⟨written, []⟩ :: second :: rest)
  | false, ⟨written, argument :: arguments⟩ :: second :: rest =>
      exact essence_dottedName false (⟨written, argument :: arguments⟩ :: second :: rest)
  | true, segments => exact essence_dottedName true segments

end Scope

/-! ## Spellings of builtin types -/

/-- The last segment of the canonical name. -/
def Host.Builtin.simpleName (builtin : Builtin) : String :=
  String.ofList (builtin.canonical.toList.drop "System.".length)

/-- A whole expression spells a builtin type: by a keyword that is no type parameter at hand, or by
the canonical name, whether from the root or not. -/
inductive SpellsBuiltin (scope : Scope) (builtin : Builtin) : TypeExpr → Prop
  | keyword {word : String} (span span' : Span) : word ∈ builtin.keywords →
      word ∉ scope.typeParameters →
      SpellsBuiltin scope builtin (.named false [.mk word [] span] span')
  | dotted (isGlobal : Bool) (span span' span'' : Span) :
      SpellsBuiltin scope builtin
        (.named isGlobal [.mk "System" [] span, .mk builtin.simpleName [] span'] span'')

theorem ofKeyword?_of_mem {builtin : Builtin} (known : builtin ∈ builtins) {word : String}
    (spelled : word ∈ builtin.keywords) : Builtin.ofKeyword? word = some builtin := by
  revert word
  revert builtin
  decide

theorem simpleName_of_mem {builtin : Builtin} (known : builtin ∈ builtins) :
    Builtin.ofCanonical? ("System." ++ builtin.simpleName) = some builtin ∧
      bare builtin.simpleName = builtin.simpleName ∧
      isReserved builtin.simpleName = false := by
  revert builtin
  decide +kernel

theorem SpellsBuiltin.resolves {scope : Scope} {builtin : Builtin} (known : builtin ∈ builtins)
    {type : TypeExpr} (spells : SpellsBuiltin scope builtin type) :
    ∃ display, scope.resolveType type = .ok (.builtin builtin display) := by
  cases spells with
  | keyword span span' spelled free =>
      next word =>
      have found := ofKeyword?_of_mem known spelled
      refine ⟨word, Scope.resolveType_named_eq_ok.mpr ⟨[⟨word, []⟩], ?_, ?_⟩⟩
      · exact Scope.resolveSegments_cons_eq_ok.mpr
          ⟨by simp [Scope.mayName, found], [], [], rfl, rfl, rfl⟩
      · simp [Scope.nameType, Scope.loneName?, free, found]
  | dotted isGlobal span span' span'' =>
      obtain ⟨canonical, plain, notReserved⟩ := simpleName_of_mem known
      let path : List ResolvedSegment := [⟨"System", []⟩, ⟨builtin.simpleName, []⟩]
      refine ⟨Scope.writtenDisplay isGlobal path,
        Scope.resolveType_named_eq_ok.mpr ⟨path, ?_, ?_⟩⟩
      · have first : Scope.mayName (!isGlobal && false) "System" = true := by
          cases isGlobal <;> decide
        have last : Scope.mayName (!isGlobal && false) builtin.simpleName = true := by
          rw [Scope.mayName, notReserved]
          rfl
        exact Scope.resolveSegments_cons_eq_ok.mpr ⟨first, [], _, rfl,
          Scope.resolveSegments_cons_eq_ok.mpr ⟨last, [], [], rfl, rfl, rfl⟩, rfl⟩
      · have root : bare "System" = "System" := by decide
        have dotted : scope.nameType isGlobal path = scope.dottedName isGlobal path := by
          cases isGlobal <;> rfl
        rw [dotted]
        simp [Scope.dottedName, ResolvedSegment.name, plain, root, canonical, path]

/-! ## Respelled expressions -/

/-- The expression denotes a reference, on which a nullable suffix is an annotation. -/
def IsReference (scope : Scope) (type : TypeExpr) : Prop :=
  ∃ r, scope.resolveType type = .ok r ∧ r.isReference = true

mutual

/-- Any number of parts of an expression are spelled differently: builtin types in another way,
references with a nullable suffix or without, tuples with other labels. No suffix is put on another,
and no label comes twice in a tuple. -/
inductive Respelled (scope : Scope) : TypeExpr → TypeExpr → Prop
  | same (type : TypeExpr) : Respelled scope type type
  | builtin {builtin : Builtin} {type type' : TypeExpr} : builtin ∈ builtins →
      SpellsBuiltin scope builtin type → SpellsBuiltin scope builtin type' →
      Respelled scope type type'
  | named {isGlobal : Bool} {segments segments' : List Segment} {span span' : Span} :
      List.Forall₂ (RespelledSegment scope) segments segments' →
      Respelled scope (.named isGlobal segments span) (.named isGlobal segments' span')
  | tuple {elements elements' : List Element} {span span' : Span} :
      List.Forall₂ (RespelledElement scope) elements elements' →
      (Scope.bareLabels elements').Nodup →
      Respelled scope (.tuple elements span) (.tuple elements' span')
  | nullable {type type' : TypeExpr} {span span' : Span} : Respelled scope type type' →
      Scope.isNullable type' = false →
      Respelled scope (.nullable type span) (.nullable type' span')
  | array {type type' : TypeExpr} {commas : Nat} {span span' : Span} :
      Respelled scope type type' →
      Respelled scope (.array type commas span) (.array type' commas span')
  | mark {type type' : TypeExpr} {span : Span} : Respelled scope type type' →
      IsReference scope type → Scope.isNullable type' = false →
      Respelled scope type (.nullable type' span)
  | unmark {type type' : TypeExpr} {span : Span} : Respelled scope type type' →
      IsReference scope type → Respelled scope (.nullable type span) type'

inductive RespelledSegment (scope : Scope) : Segment → Segment → Prop
  | mk {name : String} {arguments arguments' : List TypeExpr} {span span' : Span} :
      List.Forall₂ (Respelled scope) arguments arguments' →
      RespelledSegment scope (.mk name arguments span) (.mk name arguments' span')

/-- The label of an element may change, come or go. -/
inductive RespelledElement (scope : Scope) : Element → Element → Prop
  | mk {type type' : TypeExpr} {label label' : Option (String × Span)} :
      Respelled scope type type' →
      RespelledElement scope (.mk type label) (.mk type' label')

end

/-! ## Resolution of respelled expressions -/

section Resolution

variable {scope : Scope}

theorem exists_named_nameType (isGlobal : Bool) (segments : List ResolvedSegment) :
    ∃ identity display capability,
      (scope.nameType isGlobal segments).type = .named identity display capability := by
  have dotted : ∃ identity display capability,
      (scope.dottedName isGlobal segments).type = .named identity display capability := by
    simp only [Scope.dottedName]
    split
    · exact ⟨_, _, _, rfl⟩
    · split <;> exact ⟨_, _, _, rfl⟩
  unfold Scope.nameType
  split
  · next written =>
      unfold Scope.loneName?
      split
      · exact ⟨_, _, _, rfl⟩
      · cases Builtin.ofKeyword? written with
        | some builtin => exact ⟨_, _, _, rfl⟩
        | none => exact dotted
  · exact dotted

/-- What resolves to a reference is no tuple. -/
theorem exists_named_of_isReference {type : TypeExpr} {r : ResolvedType}
    (resolved : scope.resolveType type = .ok r) (reference : r.isReference = true) :
    ∃ identity display capability, r.type = .named identity display capability := by
  cases type with
  | named isGlobal segments span =>
      obtain ⟨parts, -, rfl⟩ := Scope.resolveType_named_eq_ok.mp resolved
      exact exists_named_nameType isGlobal parts
  | tuple elements span =>
      obtain ⟨types, -, rfl⟩ := Scope.resolveType_tuple_eq_ok.mp resolved
      cases reference
  | nullable inner span =>
      obtain ⟨-, ⟨type, isReference⟩, -, rfl⟩ := Scope.resolveType_nullable_eq_ok.mp resolved
      cases type with
      | named identity display capability =>
          simp only [ResolvedType.nullable]
          split <;> exact ⟨_, _, _, rfl⟩
      | tuple elements => exact ⟨_, _, _, rfl⟩
  | array element commas span =>
      obtain ⟨r, -, rfl⟩ := Scope.resolveType_array_eq_ok.mp resolved
      exact ⟨_, _, _, rfl⟩

/-- The second expression resolves if the first one does, and to the same essence. -/
def ResolvesAlike (scope : Scope) (type type' : TypeExpr) : Prop :=
  ∀ r, scope.resolveType type = .ok r →
    ∃ r', scope.resolveType type' = .ok r' ∧ r'.essence = r.essence

/-! ### Lists of parts -/

theorem arguments_alike {arguments arguments' : List TypeExpr}
    (alike : List.Forall₂ (ResolvesAlike scope) arguments arguments') {types : List HostType}
    (resolved : scope.resolveArguments arguments = .ok types) :
    ∃ types', scope.resolveArguments arguments' = .ok types' ∧
      types'.map HostType.essence = types.map HostType.essence := by
  induction alike generalizing types with
  | nil => exact ⟨types, resolved, rfl⟩
  | cons first _ ih =>
      obtain ⟨r, others, found, rest, rfl⟩ := Scope.resolveArguments_cons_eq_ok.mp resolved
      obtain ⟨r', found', same⟩ := first r found
      obtain ⟨others', rest', sameOthers⟩ := ih rest
      refine ⟨r'.type :: others',
        Scope.resolveArguments_cons_eq_ok.mpr ⟨r', others', found', rest', rfl⟩, ?_⟩
      have sameFirst : r'.type.essence = r.type.essence := congrArg ResolvedType.type same
      rw [List.map_cons, List.map_cons, sameFirst, sameOthers]

/-- Segments with related names and arguments that resolve alike resolve one by one, if what is
related to a name that may stand in a segment may stand there too. -/
theorem exists_resolveSegments {names : String → String → Prop} {isWhole : Bool}
    (may : ∀ {name name'}, names name name' → Scope.mayName isWhole name = true →
      Scope.mayName isWhole name' = true)
    {segments segments' : List Segment}
    (alike : List.Forall₂ (fun segment segment' => names segment.name segment'.name ∧
      List.Forall₂ (ResolvesAlike scope) segment.arguments segment'.arguments) segments segments')
    {resolved : List ResolvedSegment}
    (found : scope.resolveSegments isWhole segments = .ok resolved) :
    ∃ resolved', scope.resolveSegments isWhole segments' = .ok resolved' ∧
      List.Forall₂ (fun part part' => names part.written part'.written ∧
        part'.arguments.map HostType.essence = part.arguments.map HostType.essence)
          resolved resolved' := by
  induction alike generalizing resolved with
  | nil =>
      cases found
      exact ⟨[], rfl, .nil⟩
  | @cons segment segment' _ _ first _ ih =>
      obtain ⟨name, arguments, span⟩ := segment
      obtain ⟨name', arguments', span'⟩ := segment'
      obtain ⟨related, alikeArguments⟩ := first
      obtain ⟨allowed, types, others, given, rest, rfl⟩ :=
        Scope.resolveSegments_cons_eq_ok.mp found
      obtain ⟨types', given', same⟩ := arguments_alike alikeArguments given
      obtain ⟨others', rest', sameOthers⟩ := ih rest
      exact ⟨⟨name', types'⟩ :: others', Scope.resolveSegments_cons_eq_ok.mpr
        ⟨may related allowed, types', others', given', rest', rfl⟩,
        .cons ⟨related, same⟩ sameOthers⟩

/-- Segments with one name and arguments that resolve alike. -/
def SegmentsAlike (scope : Scope) (segment segment' : Segment) : Prop :=
  segment'.name = segment.name ∧
    List.Forall₂ (ResolvesAlike scope) segment.arguments segment'.arguments

theorem segments_alike (isWhole : Bool) {segments segments' : List Segment}
    (alike : List.Forall₂ (SegmentsAlike scope) segments segments')
    {resolved : List ResolvedSegment}
    (found : scope.resolveSegments isWhole segments = .ok resolved) :
    ∃ resolved', scope.resolveSegments isWhole segments' = .ok resolved' ∧
      resolved'.map ResolvedSegment.essence = resolved.map ResolvedSegment.essence := by
  have may {name name' : String} (same : name' = name)
      (allowed : Scope.mayName isWhole name = true) : Scope.mayName isWhole name' = true :=
    same ▸ allowed
  obtain ⟨resolved', found', parts⟩ := exists_resolveSegments may alike found
  refine ⟨resolved', found', map_eq_of_forall₂ parts fun part part' same => ?_⟩
  rw [ResolvedSegment.essence, ResolvedSegment.essence, same.1, same.2]

theorem bareLabels_cons (element : Element) (rest : List Element) :
    Scope.bareLabels (element :: rest) = Scope.bareLabels [element] ++ Scope.bareLabels rest := by
  unfold Scope.bareLabels
  rw [← List.filterMap_append]
  rfl

/-- Elements resolve under any labels that are new and come once. -/
theorem elements_alike {elements elements' : List Element}
    (alike : List.Forall₂ (fun element element' => ResolvesAlike scope element.type element'.type)
      elements elements') {seen seen' : List String} {types : List TupleElement}
    (resolved : scope.resolveElements seen elements = .ok types)
    (distinct : (Scope.bareLabels elements').Nodup)
    (fresh : ∀ label ∈ Scope.bareLabels elements', label ∉ seen') :
    ∃ types', scope.resolveElements seen' elements' = .ok types' ∧
      essences types' = essences types := by
  induction alike generalizing seen seen' types with
  | nil =>
      cases resolved
      exact ⟨[], rfl, rfl⟩
  | cons first _ ih =>
      rw [bareLabels_cons, List.nodup_append] at distinct
      rw [bareLabels_cons, List.forall_mem_append] at fresh
      obtain ⟨-, distinct, apart⟩ := distinct
      obtain ⟨r, others, found, -, rest, rfl⟩ := Scope.resolveElements_cons_eq_ok.mp resolved
      obtain ⟨r', found', same⟩ := first r found
      obtain ⟨others', rest', sameOthers⟩ := ih rest distinct fun label mem => by
        rw [List.mem_append, not_or]
        exact ⟨fresh.2 label mem, fun before => apart label before label mem rfl⟩
      refine ⟨_, Scope.resolveElements_cons_eq_ok.mpr
        ⟨r', others', found', fresh.1, rest', rfl⟩, ?_⟩
      have sameFirst : r'.type.essence = r.type.essence := congrArg ResolvedType.type same
      rw [Scope.relabelled, Scope.relabelled, essences, essences, sameFirst, sameOthers]

/-! ### Expressions -/

variable {type type' : TypeExpr}

theorem builtin_alike {builtin : Builtin} (known : builtin ∈ builtins)
    (spells : SpellsBuiltin scope builtin type) (spells' : SpellsBuiltin scope builtin type') :
    ResolvesAlike scope type type' := by
  intro r resolved
  obtain ⟨display, found⟩ := spells.resolves known
  obtain ⟨display', found'⟩ := spells'.resolves known
  cases resolved.symm.trans found
  exact ⟨_, found', rfl⟩

theorem named_alike {isGlobal : Bool} {segments segments' : List Segment} {span span' : Span}
    (alike : List.Forall₂ (SegmentsAlike scope) segments segments') :
    ResolvesAlike scope (.named isGlobal segments span) (.named isGlobal segments' span') := by
  intro r resolved
  obtain ⟨parts, found, rfl⟩ := Scope.resolveType_named_eq_ok.mp resolved
  rw [alike.length_eq] at found
  obtain ⟨parts', found', same⟩ := segments_alike _ alike found
  refine ⟨_, Scope.resolveType_named_eq_ok.mpr ⟨parts', found', rfl⟩, ?_⟩
  rw [← Scope.essence_nameType isGlobal parts', same, Scope.essence_nameType]

theorem tuple_alike {elements elements' : List Element} {span span' : Span}
    (alike : List.Forall₂ (fun element element' => ResolvesAlike scope element.type element'.type)
      elements elements') (distinct : (Scope.bareLabels elements').Nodup) :
    ResolvesAlike scope (.tuple elements span) (.tuple elements' span') := by
  intro r resolved
  obtain ⟨types, found, rfl⟩ := Scope.resolveType_tuple_eq_ok.mp resolved
  obtain ⟨types', found', same⟩ :=
    elements_alike alike found distinct fun _ _ => List.not_mem_nil
  refine ⟨_, Scope.resolveType_tuple_eq_ok.mpr ⟨types', found', rfl⟩, ?_⟩
  rw [ResolvedType.essence, ResolvedType.essence, HostType.essence, HostType.essence, same]

theorem nullable_alike {span span' : Span} (alike : ResolvesAlike scope type type')
    (single : Scope.isNullable type' = false) :
    ResolvesAlike scope (.nullable type span) (.nullable type' span') := by
  intro r resolved
  obtain ⟨-, inner, found, rfl⟩ := Scope.resolveType_nullable_eq_ok.mp resolved
  obtain ⟨inner', found', same⟩ := alike inner found
  refine ⟨_, Scope.resolveType_nullable_eq_ok.mpr ⟨single, inner', found', rfl⟩, ?_⟩
  rw [← ResolvedType.essence_nullable, same, ResolvedType.essence_nullable]

theorem array_alike {commas : Nat} {span span' : Span} (alike : ResolvesAlike scope type type') :
    ResolvesAlike scope (.array type commas span) (.array type' commas span') := by
  intro r resolved
  obtain ⟨element, found, rfl⟩ := Scope.resolveType_array_eq_ok.mp resolved
  obtain ⟨element', found', same⟩ := alike element found
  refine ⟨_, Scope.resolveType_array_eq_ok.mpr ⟨element', found', rfl⟩, ?_⟩
  rw [← ResolvedType.essence_array, same, ResolvedType.essence_array]

theorem essence_nullable_of_resolved {r : ResolvedType} (resolved : scope.resolveType type = .ok r)
    (reference : r.isReference = true) : r.nullable.essence = r.essence := by
  obtain ⟨identity, display, capability, named⟩ :=
    exists_named_of_isReference resolved reference
  exact ResolvedType.essence_nullable_of_isReference named reference

theorem mark_alike {span : Span} (alike : ResolvesAlike scope type type')
    (reference : IsReference scope type) (single : Scope.isNullable type' = false) :
    ResolvesAlike scope type (.nullable type' span) := by
  intro r resolved
  obtain ⟨_, found, isReference⟩ := reference
  cases resolved.symm.trans found
  obtain ⟨r', found', same⟩ := alike r resolved
  refine ⟨_, Scope.resolveType_nullable_eq_ok.mpr ⟨single, r', found', rfl⟩, ?_⟩
  rw [← ResolvedType.essence_nullable, same, ResolvedType.essence_nullable,
    essence_nullable_of_resolved resolved isReference]

theorem unmark_alike {span : Span} (alike : ResolvesAlike scope type type')
    (reference : IsReference scope type) : ResolvesAlike scope (.nullable type span) type' := by
  intro r resolved
  obtain ⟨inner, found, isReference⟩ := reference
  obtain ⟨-, _, found', rfl⟩ := Scope.resolveType_nullable_eq_ok.mp resolved
  cases found.symm.trans found'
  obtain ⟨r', resolved', same⟩ := alike inner found
  exact ⟨r', resolved', same.trans (essence_nullable_of_resolved found isReference).symm⟩

/-! ### Induction -/

-- The lists of parts end one by one, so the size of both sides is what decreases throughout.
mutual

/-- A respelled expression resolves if the original one does, to the same essence. -/
theorem Respelled.alike {type type' : TypeExpr} :
    Respelled scope type type' → ResolvesAlike scope type type'
  | .same _ => fun r resolved => ⟨r, resolved, rfl⟩
  | .builtin known spells spells' => builtin_alike known spells spells'
  | .named segments => named_alike (respelledSegments_alike segments)
  | .tuple elements distinct => tuple_alike (respelledElements_alike elements) distinct
  | .nullable inner single => nullable_alike inner.alike single
  | .array inner => array_alike inner.alike
  | .mark inner reference single => mark_alike inner.alike reference single
  | .unmark inner reference => unmark_alike inner.alike reference
termination_by sizeOf type + sizeOf type'

theorem RespelledSegment.alike {segment segment' : Segment} :
    RespelledSegment scope segment segment' → SegmentsAlike scope segment segment'
  | .mk arguments => ⟨rfl, respelledArguments_alike arguments⟩
termination_by sizeOf segment + sizeOf segment'
decreasing_by
  simp only [Segment.arguments, Segment.mk.sizeOf_spec]
  omega

theorem RespelledElement.alike {element element' : Element} :
    RespelledElement scope element element' → ResolvesAlike scope element.type element'.type
  | .mk type => type.alike
termination_by sizeOf element + sizeOf element'
decreasing_by
  simp only [Element.mk.sizeOf_spec]
  omega

theorem respelledSegments_alike {segments segments' : List Segment} :
    List.Forall₂ (RespelledSegment scope) segments segments' →
      List.Forall₂ (SegmentsAlike scope) segments segments'
  | .nil => .nil
  | .cons segment segments => .cons segment.alike (respelledSegments_alike segments)
termination_by sizeOf segments + sizeOf segments'

theorem respelledArguments_alike {arguments arguments' : List TypeExpr} :
    List.Forall₂ (Respelled scope) arguments arguments' →
      List.Forall₂ (ResolvesAlike scope) arguments arguments'
  | .nil => .nil
  | .cons argument arguments => .cons argument.alike (respelledArguments_alike arguments)
termination_by sizeOf arguments + sizeOf arguments'

theorem respelledElements_alike {elements elements' : List Element} :
    List.Forall₂ (RespelledElement scope) elements elements' →
      List.Forall₂ (fun element element' => ResolvesAlike scope element.type element'.type)
        elements elements'
  | .nil => .nil
  | .cons element elements => .cons element.alike (respelledElements_alike elements)
termination_by sizeOf elements + sizeOf elements'

end

end Resolution

/-! ## The shape of respelled expressions -/

section Shape

variable {scope : Scope}

theorem SpellsBuiltin.parts {builtin : Builtin} {type : TypeExpr}
    (spells : SpellsBuiltin scope builtin type) :
    type.parts = [] ∧ ∀ elements span, type.head ≠ .tuple elements span := by
  cases spells <;> exact ⟨rfl, nofun⟩

theorem RespelledSegment.arguments {segment segment' : Segment} :
    RespelledSegment scope segment segment' →
      List.Forall₂ (Respelled scope) segment.arguments segment'.arguments
  | .mk arguments => arguments

theorem RespelledElement.type {element element' : Element} :
    RespelledElement scope element element' → Respelled scope element.type element'.type
  | .mk type => type

/-- Respelling goes on in the parts one level further in, and a tuple stays a tuple of as many
elements. -/
theorem Respelled.parts {type type' : TypeExpr} : Respelled scope type type' →
    List.Forall₂ (Respelled scope) type.parts type'.parts ∧
      ∀ elements' span', type'.head = .tuple elements' span' →
        ∃ elements span, type.head = .tuple elements span ∧ elements.length = elements'.length
  | .same type =>
      ⟨List.forall₂_same.mpr fun part _ => .same part, fun elements span same =>
        ⟨elements, span, same, rfl⟩⟩
  | .builtin _ spells spells' => by
      rw [spells.parts.1, spells'.parts.1]
      exact ⟨.nil, fun elements' span' same => absurd same (spells'.parts.2 _ _)⟩
  | .named segments =>
      ⟨List.rel_flatMap segments fun _ _ => RespelledSegment.arguments, nofun⟩
  | .tuple elements _ => by
      have types := elements.imp fun _ _ => RespelledElement.type
      refine ⟨List.forall₂_map_left_iff.mpr (List.forall₂_map_right_iff.mpr types), ?_⟩
      rintro elements' span' same
      cases same
      exact ⟨_, _, rfl, elements.length_eq⟩
  | .nullable inner _ => inner.parts
  | .array inner => inner.parts
  | .mark inner _ _ => inner.parts
  | .unmark inner _ => inner.parts
termination_by sizeOf type + sizeOf type'

/-- Every type within the respelled expression is respelled from one at the same level. -/
theorem Respelled.exists_atLevel {type type' part' : TypeExpr} {level : Nat}
    (respelled : Respelled scope type type') (occurs : TypeExpr.AtLevel type' level part') :
    ∃ part, TypeExpr.AtLevel type level part ∧ Respelled scope part part' := by
  induction occurs generalizing type with
  | whole type' => exact ⟨type, .whole type, respelled⟩
  | part isPart _ ih =>
      obtain ⟨inner, listed, innerRespelled⟩ := exists_left_of_forall₂ respelled.parts.1 isPart
      obtain ⟨part, inside, partRespelled⟩ := ih innerRespelled
      exact ⟨part, .part listed inside, partRespelled⟩

/-- Respelling makes no tuple too short, so that only the suffixes it adds can be too many. -/
theorem Respelled.within {type type' : TypeExpr} {cap : Nat}
    (respelled : Respelled scope type type') (within : type.Within cap)
    (capped : ∀ level part, TypeExpr.AtLevel type' level part → level + part.suffixCount ≤ cap) :
    type'.Within cap where
  capped := capped
  paired := by
    intro level part' occurs elements' span' isTuple
    obtain ⟨part, inside, partRespelled⟩ := respelled.exists_atLevel occurs
    obtain ⟨elements, span, wasTuple, sameLength⟩ := partRespelled.parts.2 elements' span' isTuple
    rw [← sameLength]
    exact within.paired level part inside elements span wasTuple

end Shape

end ConversionSynthesis
