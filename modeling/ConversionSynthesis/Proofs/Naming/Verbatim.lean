import ConversionSynthesis.Proofs.Naming.Identities
import ConversionSynthesis.Proofs.Naming.Tuples

/-! # The verbatim mark

The host takes a name with the verbatim mark and the same name without it for one, unless the name
means something else as a plain word. Expressions whose names differ in marks only resolve alike,
as long as a name that is a type parameter on its own stays as it is written: type parameters are
looked up as written, and everything else by the bare name.
-/

namespace ConversionSynthesis

open Host HostType

/-! ## Spellings of one name -/

/-- Plain words that name a builtin type without being reserved. -/
def contextualWords : List String :=
  ["dynamic", "nint", "nuint"]

/-- A bare name that means the same with the mark. -/
def IsMarkable (name : String) : Prop :=
  name ∉ reservedWords ++ contextualWords

/-- Two spellings of one name, which differ in the mark at most. -/
def SameName (written written' : String) : Prop :=
  written = written' ∨ bare written = bare written' ∧ IsMarkable (bare written)

instance : DecidablePred IsMarkable := fun name =>
  inferInstanceAs (Decidable (name ∉ reservedWords ++ contextualWords))

instance (written written' : String) : Decidable (SameName written written') :=
  inferInstanceAs (Decidable (_ ∨ _))

theorem eq_bare_or_eq_mark (name : String) : name = bare name ∨ name = "@" ++ bare name := by
  have chars : name.toList = (bare name).toList ∨ name.toList = '@' :: (bare name).toList := by
    rw [bare, String.toList_ofList]
    unfold bareChars
    split
    · next same => exact .inr same
    · exact .inl rfl
  simp only [← String.toList_inj, String.toList_append]
  exact chars

theorem bare_of_unmarkable :
    ∀ name ∈ reservedWords ++ contextualWords, bare name = name := by
  decide +kernel

theorem mem_unmarkable_of_keyword :
    ∀ builtin ∈ builtins, ∀ word ∈ builtin.keywords, word ∈ reservedWords ++ contextualWords := by
  decide +kernel

/-- A spelling of a markable name is no plain word. -/
theorem IsMarkable.not_mem {written : String} (markable : IsMarkable (bare written)) :
    written ∉ reservedWords ++ contextualWords := by
  intro mem
  rw [IsMarkable, bare_of_unmarkable written mem] at markable
  exact markable mem

theorem IsMarkable.mayName {written : String} (markable : IsMarkable (bare written))
    (isWhole : Bool) : Scope.mayName isWhole written = true := by
  have notReserved : isReserved written = false := by
    rw [← Bool.not_eq_true, isReserved, List.contains_iff_mem]
    exact fun mem => markable.not_mem (List.mem_append_left _ mem)
  rw [Scope.mayName, notReserved]
  rfl

theorem IsMarkable.ofKeyword?_eq_none {written : String} (markable : IsMarkable (bare written)) :
    Builtin.ofKeyword? written = none := by
  rw [Builtin.ofKeyword?, List.find?_eq_none]
  intro builtin known isKeyword
  exact markable.not_mem
    (mem_unmarkable_of_keyword builtin known written (List.contains_iff_mem.mp isKeyword))

namespace SameName

variable {written written' : String}

theorem symm (same : SameName written written') : SameName written' written := by
  rcases same with rfl | ⟨bares, markable⟩
  · exact .inl rfl
  · exact .inr ⟨bares.symm, bares ▸ markable⟩

theorem bare_eq (same : SameName written written') : bare written' = bare written := by
  rcases same with rfl | ⟨bares, -⟩
  · rfl
  · exact bares.symm

theorem mayName {isWhole : Bool} (same : SameName written written')
    (allowed : Scope.mayName isWhole written = true) : Scope.mayName isWhole written' = true := by
  rcases same with rfl | ⟨bares, markable⟩
  · exact allowed
  · rw [bares] at markable
    exact markable.mayName isWhole

/-- On its own, a name denotes the same builtin type or type parameter in both spellings, if that of
a type parameter stays. -/
theorem loneName?_eq {scope : Scope} (same : SameName written written')
    (stays : bare written ∈ scope.typeParameters.map bare → written' = written) :
    scope.loneName? written' = scope.loneName? written := by
  rcases same with rfl | ⟨bares, markable⟩
  · rfl
  · by_cases isParameter : bare written ∈ scope.typeParameters.map bare
    · rw [stays isParameter]
    · have free : ∀ spelled, bare spelled = bare written → spelled ∉ scope.typeParameters := by
        intro spelled spells mem
        exact isParameter (spells ▸ List.mem_map_of_mem mem)
      have keyword : ∀ spelled, bare spelled = bare written →
          Builtin.ofKeyword? spelled = none := by
        intro spelled spells
        rw [← spells] at markable
        exact markable.ofKeyword?_eq_none
      simp [Scope.loneName?, free written rfl, free written' bares.symm, keyword written rfl,
        keyword written' bares.symm]

end SameName

/-! ## Expressions that differ in marks -/

/-- A whole name without type arguments stays as it is written, if the name is one to keep. -/
def StaysAlone (kept : String → Prop) (isGlobal : Bool) (segments segments' : List Segment) :
    Prop :=
  ∀ name span, isGlobal = false → segments = [.mk name [] span] → kept (bare name) →
    segments'.map (·.name) = [name]

mutual

/-- Any number of names and labels in an expression are spelled with the mark or without it. -/
inductive Remarked (kept : String → Prop) : TypeExpr → TypeExpr → Prop
  | named {isGlobal : Bool} {segments segments' : List Segment} {span span' : Span} :
      List.Forall₂ (RemarkedSegment kept) segments segments' →
      StaysAlone kept isGlobal segments segments' →
      Remarked kept (.named isGlobal segments span) (.named isGlobal segments' span')
  | tuple {elements elements' : List Element} {span span' : Span} :
      List.Forall₂ (RemarkedElement kept) elements elements' →
      Remarked kept (.tuple elements span) (.tuple elements' span')
  | nullable {type type' : TypeExpr} {span span' : Span} : Remarked kept type type' →
      Remarked kept (.nullable type span) (.nullable type' span')
  | array {type type' : TypeExpr} {commas : Nat} {span span' : Span} : Remarked kept type type' →
      Remarked kept (.array type commas span) (.array type' commas span')

inductive RemarkedSegment (kept : String → Prop) : Segment → Segment → Prop
  | mk {name name' : String} {arguments arguments' : List TypeExpr} {span span' : Span} :
      SameName name name' → List.Forall₂ (Remarked kept) arguments arguments' →
      RemarkedSegment kept (.mk name arguments span) (.mk name' arguments' span')

inductive RemarkedElement (kept : String → Prop) : Element → Element → Prop
  | mk {type type' : TypeExpr} {label label' : Option (String × Span)} :
      Remarked kept type type' →
      Option.Rel (fun written written' => SameName written.1 written'.1) label label' →
      RemarkedElement kept (.mk type label) (.mk type' label')

end

/-! ## Resolution -/

namespace ResolvedSegment

theorem keepsEssence_stripped : KeepsEssence stripped :=
  ⟨fun _ => name_ofBare _ _, fun _ => rfl⟩

/-- Parts of a path with spellings of one name and arguments of one essence. -/
def Alike (part part' : ResolvedSegment) : Prop :=
  SameName part.written part'.written ∧
    part'.arguments.map HostType.essence = part.arguments.map HostType.essence

theorem Alike.symm {part part' : ResolvedSegment} (alike : part.Alike part') : part'.Alike part :=
  ⟨alike.1.symm, alike.2.symm⟩

theorem Alike.stripped_eq {part part' : ResolvedSegment} (alike : part.Alike part') :
    part'.stripped = part.stripped := by
  rw [stripped, stripped, name, name, alike.1.bare_eq, alike.2]

/-- A path of one part without arguments is like no other paths than those. -/
theorem exists_alone_of_alike {written : String} {parts : List ResolvedSegment}
    (alike : List.Forall₂ Alike [⟨written, []⟩] parts) :
    ∃ written', parts = [⟨written', []⟩] ∧ SameName written written' := by
  obtain ⟨⟨written', arguments⟩, _, ⟨spelled, plain⟩, none, rfl⟩ :=
    List.forall₂_cons_left_iff.mp alike
  cases none
  obtain rfl : arguments = [] := List.map_eq_nil_iff.mp plain
  exact ⟨written', rfl, spelled⟩

end ResolvedSegment

section Resolution

variable {scope : Scope}

/-- Segments with spellings of one name and arguments that resolve alike, either way. -/
def SegmentsSame (scope : Scope) (segment segment' : Segment) : Prop :=
  SameName segment.name segment'.name ∧
    List.Forall₂ (ResolvesAlike scope) segment.arguments segment'.arguments

theorem nameType_eq_dottedName {isGlobal : Bool} {parts : List ResolvedSegment}
    (notAlone : ∀ written, isGlobal = false → parts ≠ [⟨written, []⟩]) :
    scope.nameType isGlobal parts = scope.dottedName isGlobal parts := by
  unfold Scope.nameType
  split
  · exact absurd rfl (notAlone _ rfl)
  · rfl

/-- A name comes to one essence in both spellings. -/
theorem essence_nameType_of_alike {isGlobal : Bool} {parts parts' : List ResolvedSegment}
    (alike : List.Forall₂ ResolvedSegment.Alike parts parts')
    (stays : ∀ written written', isGlobal = false → parts = [⟨written, []⟩] →
      parts' = [⟨written', []⟩] → bare written ∈ scope.typeParameters.map bare →
        written' = written) :
    (scope.nameType isGlobal parts').essence = (scope.nameType isGlobal parts).essence := by
  have stripped : parts'.map ResolvedSegment.stripped = parts.map ResolvedSegment.stripped :=
    map_eq_of_forall₂ alike fun _ _ => ResolvedSegment.Alike.stripped_eq
  have dotted : (scope.dottedName isGlobal parts').essence =
      (scope.dottedName isGlobal parts).essence := by
    rw [← Scope.essence_dottedName_map ResolvedSegment.keepsEssence_stripped isGlobal parts',
      stripped, Scope.essence_dottedName_map ResolvedSegment.keepsEssence_stripped]
  by_cases alone : ∃ written, isGlobal = false ∧ parts = [⟨written, []⟩]
  · obtain ⟨written, rfl, rfl⟩ := alone
    obtain ⟨written', rfl, spelled⟩ := ResolvedSegment.exists_alone_of_alike alike
    simp only [Scope.nameType]
    rw [spelled.loneName?_eq (stays written written' rfl rfl rfl)]
    cases scope.loneName? written with
    | none => exact dotted
    | some resolved => rfl
  · have notAlone : ∀ written, isGlobal = false → parts ≠ [⟨written, []⟩] :=
      fun written plain only => alone ⟨written, plain, only⟩
    have notAlone' : ∀ written, isGlobal = false → parts' ≠ [⟨written, []⟩] := by
      rintro written' plain rfl
      have back := (alike.imp fun _ _ => ResolvedSegment.Alike.symm).flip
      obtain ⟨written, only, -⟩ := ResolvedSegment.exists_alone_of_alike back
      exact notAlone written plain only
    rw [nameType_eq_dottedName notAlone, nameType_eq_dottedName notAlone', dotted]

/-- A segment on its own resolves to one without arguments only if it has none. -/
theorem segments_of_alone {isWhole : Bool} {segments : List Segment} {written : String}
    (found : scope.resolveSegments isWhole segments = .ok [⟨written, []⟩]) :
    ∃ span, segments = [.mk written [] span] := by
  cases segments with
  | nil => cases found
  | cons segment rest =>
      obtain ⟨name, arguments, span⟩ := segment
      obtain ⟨-, types, others, given, more, same⟩ := Scope.resolveSegments_cons_eq_ok.mp found
      cases same
      have names := Scope.written_resolveSegments more
      obtain rfl : rest = [] := by simpa using names.symm
      cases arguments with
      | nil => exact ⟨span, rfl⟩
      | cons argument arguments =>
          obtain ⟨r, others, -, -, some⟩ := Scope.resolveArguments_cons_eq_ok.mp given
          cases some

theorem named_remarked {isGlobal : Bool} {segments segments' : List Segment} {span span' : Span}
    (same : List.Forall₂ (SegmentsSame scope) segments segments')
    (stays : StaysAlone (· ∈ scope.typeParameters.map bare) isGlobal segments segments') :
    ResolvesAlike scope (.named isGlobal segments span) (.named isGlobal segments' span') := by
  intro r resolved
  obtain ⟨parts, found, rfl⟩ := Scope.resolveType_named_eq_ok.mp resolved
  rw [same.length_eq] at found
  obtain ⟨parts', found', alike⟩ := exists_resolveSegments SameName.mayName same found
  refine ⟨_, Scope.resolveType_named_eq_ok.mpr ⟨parts', found', rfl⟩, ?_⟩
  refine essence_nameType_of_alike alike fun written written' plain alone alone' kept => ?_
  subst alone alone'
  obtain ⟨span, rfl⟩ := segments_of_alone found
  obtain ⟨span', rfl⟩ := segments_of_alone found'
  exact List.cons.inj (stays written span plain rfl kept) |>.1

theorem StaysAlone.symm {kept : String → Prop} {isGlobal : Bool}
    {segments segments' : List Segment} (stays : StaysAlone kept isGlobal segments segments')
    (same : List.Forall₂ (SegmentsSame scope) segments segments') :
    StaysAlone kept isGlobal segments' segments := by
  rintro name' span' plain rfl isKept
  obtain ⟨⟨name, arguments, span⟩, _, ⟨spelled, alike⟩, none, rfl⟩ :=
    List.forall₂_cons_right_iff.mp same
  cases none
  obtain rfl : arguments = [] := List.forall₂_nil_right_iff.mp alike
  have keptName : kept (bare name) := spelled.bare_eq ▸ isKept
  have names := stays name span plain rfl keptName
  exact names.symm

theorem tuple_remarked {elements elements' : List Element} {span span' : Span}
    (alike : List.Forall₂ (fun element element' => ResolvesAlike scope element.type element'.type)
      elements elements') (labels : Scope.bareLabels elements' = Scope.bareLabels elements) :
    ResolvesAlike scope (.tuple elements span) (.tuple elements' span') := by
  intro r resolved
  have distinct := Scope.nodup_bareLabels_of_resolveType resolved List.mem_cons_self
  exact tuple_alike alike (labels ▸ distinct) r resolved

theorem nullable_remarked {type type' : TypeExpr} {span span' : Span}
    (alike : ResolvesAlike scope type type')
    (sameShape : Scope.isNullable type' = Scope.isNullable type) :
    ResolvesAlike scope (.nullable type span) (.nullable type' span') := by
  intro r resolved
  have single := (Scope.resolveType_nullable_eq_ok.mp resolved).1
  exact nullable_alike alike (sameShape.trans single) r resolved

/-- Either expression resolves if the other one does, and to the same essence. -/
def ResolveTogether (scope : Scope) (type type' : TypeExpr) : Prop :=
  ResolvesAlike scope type type' ∧ ResolvesAlike scope type' type

theorem isNullable_remarked {kept : String → Prop} {type type' : TypeExpr} :
    Remarked kept type type' → Scope.isNullable type' = Scope.isNullable type
  | .named _ _ => rfl
  | .tuple _ => rfl
  | .nullable _ => rfl
  | .array _ => rfl

theorem bareLabels_remarked {kept : String → Prop} {elements elements' : List Element}
    (remarked : List.Forall₂ (RemarkedElement kept) elements elements') :
    Scope.bareLabels elements' = Scope.bareLabels elements := by
  induction remarked with
  | nil => rfl
  | cons first _ ih =>
      rw [bareLabels_cons, ih, bareLabels_cons]
      cases first with
      | mk _ labels =>
          cases labels with
          | none => rfl
          | some same => simp [Scope.bareLabels, Element.label, same.bare_eq]

-- As for respelled expressions, the size of both sides decreases throughout.
mutual

/-- Expressions that differ in marks resolve together. -/
theorem Remarked.together {type type' : TypeExpr} :
    Remarked (· ∈ scope.typeParameters.map bare) type type' → ResolveTogether scope type type'
  | .named segments stays => by
      have same := remarkedSegments_together segments
      have forth := same.imp fun _ _ => And.left
      have back := (same.imp fun _ _ => And.right).flip
      exact ⟨named_remarked forth stays, named_remarked back (stays.symm forth)⟩
  | .tuple elements => by
      have same := remarkedElements_together elements
      have labels := bareLabels_remarked elements
      exact ⟨tuple_remarked (same.imp fun _ _ => And.left) labels,
        tuple_remarked (same.imp fun _ _ => And.right).flip labels.symm⟩
  | .nullable inner => by
      have same := inner.together
      have shape := isNullable_remarked inner
      exact ⟨nullable_remarked same.1 shape, nullable_remarked same.2 shape.symm⟩
  | .array inner => by
      have same := inner.together
      exact ⟨array_alike same.1, array_alike same.2⟩
termination_by sizeOf type + sizeOf type'

theorem RemarkedSegment.together {segment segment' : Segment} :
    RemarkedSegment (· ∈ scope.typeParameters.map bare) segment segment' →
      SegmentsSame scope segment segment' ∧ SegmentsSame scope segment' segment
  | .mk name arguments => by
      have same := remarkedArguments_together arguments
      exact ⟨⟨name, same.imp fun _ _ => And.left⟩,
        ⟨name.symm, (same.imp fun _ _ => And.right).flip⟩⟩
termination_by sizeOf segment + sizeOf segment'

theorem RemarkedElement.together {element element' : Element} :
    RemarkedElement (· ∈ scope.typeParameters.map bare) element element' →
      ResolveTogether scope element.type element'.type
  | .mk type _ => type.together
termination_by sizeOf element + sizeOf element'
decreasing_by
  simp only [Element.mk.sizeOf_spec]
  omega

theorem remarkedSegments_together {segments segments' : List Segment} :
    List.Forall₂ (RemarkedSegment (· ∈ scope.typeParameters.map bare)) segments segments' →
      List.Forall₂ (fun segment segment' => SegmentsSame scope segment segment' ∧
        SegmentsSame scope segment' segment) segments segments'
  | .nil => .nil
  | .cons segment segments => .cons segment.together (remarkedSegments_together segments)
termination_by sizeOf segments + sizeOf segments'

theorem remarkedArguments_together {arguments arguments' : List TypeExpr} :
    List.Forall₂ (Remarked (· ∈ scope.typeParameters.map bare)) arguments arguments' →
      List.Forall₂ (ResolveTogether scope) arguments arguments'
  | .nil => .nil
  | .cons argument arguments => .cons argument.together (remarkedArguments_together arguments)
termination_by sizeOf arguments + sizeOf arguments'

theorem remarkedElements_together {elements elements' : List Element} :
    List.Forall₂ (RemarkedElement (· ∈ scope.typeParameters.map bare)) elements elements' →
      List.Forall₂ (fun element element' => ResolveTogether scope element.type element'.type)
        elements elements'
  | .nil => .nil
  | .cons element elements => .cons element.together (remarkedElements_together elements)
termination_by sizeOf elements + sizeOf elements'

end

theorem ResolvesAlike.resolve {expr expr' : TypeExpr} {type : HostType}
    (alike : ResolvesAlike scope expr expr') (resolved : scope.resolve expr = .ok type) :
    ∃ type', scope.resolve expr' = .ok type' ∧ SameEssence type type' := by
  obtain ⟨r, found, rfl⟩ := map_eq_ok.mp resolved
  obtain ⟨r', found', same⟩ := alike r found
  exact ⟨r'.type, map_eq_ok.mpr ⟨r', found', rfl⟩, (congrArg ResolvedType.type same).symm⟩

theorem HostType.SameEssence.same {type type' : HostType} (same : SameEssence type type') :
    type.same type' = true := by
  rw [same_iff_core_eq, ← core_essence type, same, core_essence]

/-- The mark is of no matter to resolution, but on a name that is a type parameter on its own:
whatever marks are added or left out, both expressions resolve or neither does, and they denote one
type that is as general and as much of an interface. -/
theorem Scope.resolve_remarked {expr expr' : TypeExpr}
    (remarked : Remarked (· ∈ scope.typeParameters.map bare) expr expr') :
    ((∃ type, scope.resolve expr = .ok type) ↔ ∃ type', scope.resolve expr' = .ok type') ∧
      ∀ type type', scope.resolve expr = .ok type → scope.resolve expr' = .ok type' →
        type.same type' = true ∧ type'.isGeneralizable = type.isGeneralizable ∧
          type'.isInterface = type.isInterface := by
  obtain ⟨forth, back⟩ := remarked.together
  refine ⟨⟨?_, ?_⟩, ?_⟩
  · rintro ⟨type, resolved⟩
    obtain ⟨type', resolved', -⟩ := forth.resolve resolved
    exact ⟨type', resolved'⟩
  · rintro ⟨type', resolved'⟩
    obtain ⟨type, resolved, -⟩ := back.resolve resolved'
    exact ⟨type, resolved⟩
  · intro type type' resolved resolved'
    obtain ⟨other, found, same⟩ := forth.resolve resolved
    cases resolved'.symm.trans found
    exact ⟨same.same, same.isGeneralizable_eq, same.isInterface_eq⟩

end Resolution

/-! ## A type parameter with the mark -/

/-- A name on its own. -/
def aloneExpr (name : String) : TypeExpr :=
  .named false [.mk name [] default] default

/-- A list of pairs, made of a type in a namespace and of the type parameter `T`. -/
def pairsExpr (list space label : String) : TypeExpr :=
  .named false [.mk list [.tuple [
    .mk (.named false [.mk space [] default, .mk "Point" [] default] default)
      (some (label, default)),
    .mk (aloneExpr "T") none] default] default] default

/-- A generic type, with an interface among the symbols. -/
def genericManifest : Manifest :=
  { types := [{ name := "Point", namespacePath := some "Demo", typeParameters := ["T"] }]
    symbols := [("List", .interface)] }

/-- What the types in an entry of that manifest may refer to. -/
def genericScope : Scope :=
  { genericManifest.scope with typeParameters := ["T"] }

theorem Scope.resolve_remarked_pairs :
    Remarked (· ∈ genericScope.typeParameters.map bare) (pairsExpr "List" "Demo" "left")
        (pairsExpr "@List" "@Demo" "@left") ∧
      ∃ type type', genericScope.resolve (pairsExpr "List" "Demo" "left") = .ok type ∧
        genericScope.resolve (pairsExpr "@List" "@Demo" "@left") = .ok type' ∧
        type.same type' = true ∧ type'.isInterface = true := by
  have remarked : Remarked (· ∈ genericScope.typeParameters.map bare)
      (pairsExpr "List" "Demo" "left") (pairsExpr "@List" "@Demo" "@left") := by
    have point : Remarked (· ∈ genericScope.typeParameters.map bare)
        (.named false [.mk "Demo" [] default, .mk "Point" [] default] default)
        (.named false [.mk "@Demo" [] default, .mk "Point" [] default] default) := by
      refine .named (.cons (.mk ?_ .nil) (.cons (.mk (.inl rfl) .nil) .nil)) ?_
      · decide +kernel
      · intro name span _ alone
        cases alone
    have parameter : Remarked (· ∈ genericScope.typeParameters.map bare) (aloneExpr "T")
        (aloneExpr "T") := by
      refine .named (.cons (.mk (.inl rfl) .nil) .nil) ?_
      intro name span _ alone _
      cases alone
      rfl
    refine .named (.cons (.mk ?list (.cons (.tuple (.cons (.mk point (.some ?label))
      (.cons (.mk parameter .none) .nil))) .nil)) .nil) ?path
    case list => decide +kernel
    case label => exact (by decide +kernel : SameName "left" "@left")
    case path =>
      intro name span _ alone
      cases alone
  obtain ⟨type, resolved, isInterface⟩ := toOption_map_eq_some.mp
    (by decide +kernel : (genericScope.resolve (pairsExpr "List" "Demo" "left")).toOption.map
      (·.isInterface) = some true)
  obtain ⟨together, alike⟩ := Scope.resolve_remarked remarked
  obtain ⟨type', resolved'⟩ := together.mp ⟨type, resolved⟩
  obtain ⟨same, -, interface⟩ := alike type type' resolved resolved'
  exact ⟨remarked, type, type', resolved, resolved', same, interface.trans isInterface⟩

/-- With the mark, a type parameter on its own is taken for a name that is not known. -/
theorem Scope.resolve_remarked_parameter :
    (∃ types, genericManifest.declarations = .ok types) ∧
      Remarked (fun _ => False) (aloneExpr "T") (aloneExpr "@T") ∧
      ∃ type type', genericScope.resolve (aloneExpr "T") = .ok type ∧
        genericScope.resolve (aloneExpr "@T") = .ok type' ∧
        type.same type' = true ∧ type'.isGeneralizable ≠ type.isGeneralizable := by
  refine ⟨⟨_, by with_unfolding_all rfl⟩, ?_, ?_⟩
  · exact .named (.cons (.mk (by decide +kernel) .nil) .nil) nofun
  · exact ⟨_, _, by with_unfolding_all rfl, by with_unfolding_all rfl, by decide +kernel,
      by decide +kernel⟩

end ConversionSynthesis
