import ConversionSynthesis.Proofs.Naming.Faults
import ConversionSynthesis.Proofs.TypeExpr.CheckedReading
import ConversionSynthesis.Proofs.TypeExpr.ErrorSpans

/-! # Resolution by checked steps

Resolution once more, by steps that may have no result: the segments before the last one are
counted by taking one from their number, and a builtin type is looked up in the list of all of them
by its canonical name. An expression that was read resolves in this way as it does otherwise, to a
type or an error, and the error points into the text.
-/

namespace ConversionSynthesis.Checked

open Host

/-- The builtin type of a canonical name. -/
def builtin (canonical display : String) : Option ResolvedType := do
  return .builtin (← Builtin.ofCanonical? canonical) display

/-- The builtin type or type parameter that a lone name denotes as written, if it denotes one. -/
def loneName (scope : Scope) (written : String) : Option (Option ResolvedType) := do
  if scope.typeParameters.contains written then return some (.typeParameter written)
  else
    match Builtin.ofKeyword? written with
    | some found => return some (← builtin found.canonical written)
    | none => return none

/-- The type that a dotted name denotes, once it is neither a type parameter nor a keyword. -/
def dottedName (scope : Scope) (isGlobal : Bool) (segments : List ResolvedSegment) :
    Option ResolvedType := do
  let names := segments.map (·.name)
  let path := ".".intercalate names
  let arguments := (segments.getLast?.map (·.arguments)).getD []
  let before := segments.take (← oneLess? segments.length)
  let isPlainBefore := before.all (·.arguments.isEmpty)
  match if arguments.isEmpty && isPlainBefore then Builtin.ofCanonical? path else none with
  | some found => builtin found.canonical (Scope.writtenDisplay isGlobal segments)
  | none =>
      let target :=
        if isPlainBefore then scope.registry.lookup? path names.length arguments.length else none
      let (identity, display, isReference) := Scope.nameParts isGlobal segments arguments target
      let isGeneral := isUniversalBase identity ||
        segments.any (·.arguments.any (·.isGeneralizable))
      match scope.tableCapability? identity path (names.getLast?.getD "") with
      | some .interface => return ⟨.named identity display .interface, true⟩
      | some .general => return ⟨.named identity display .general, isReference⟩
      | some .concrete | none =>
          return ⟨.named identity display (ResolvedType.capabilityOf isGeneral), isReference⟩

def nameType (scope : Scope) (isGlobal : Bool) (segments : List ResolvedSegment) :
    Option ResolvedType := do
  match isGlobal, segments with
  | false, [⟨written, []⟩] =>
      match ← loneName scope written with
      | some found => return found
      | none => dottedName scope false segments
  | _, _ => dottedName scope isGlobal segments

mutual

def resolveType (scope : Scope) : TypeExpr → ExceptT ResolveError Option ResolvedType
  | .named isGlobal segments _ => do
      let isWhole := !isGlobal && segments.length == 1
      nameType scope isGlobal (← resolveSegments scope isWhole segments)
  | .tuple elements _ => do
      return ⟨.tuple (← resolveElements scope [] elements), false⟩
  | .nullable inner span => do
      if Scope.isNullable inner then throw ⟨.nullableTwice, span⟩
      else return (← resolveType scope inner).nullable
  | .array element commas _ => do
      return (← resolveType scope element).array commas

def resolveSegments (scope : Scope) (isWhole : Bool) :
    List Segment → ExceptT ResolveError Option (List ResolvedSegment)
  | [] => return []
  | .mk name arguments span :: rest => do
      if Scope.mayName isWhole name then
        let types ← resolveArguments scope arguments
        return ⟨name, types⟩ :: (← resolveSegments scope isWhole rest)
      else throw ⟨.reservedName name, span⟩

def resolveArguments (scope : Scope) :
    List TypeExpr → ExceptT ResolveError Option (List HostType)
  | [] => return []
  | argument :: rest => do
      let resolved ← resolveType scope argument
      return resolved.type :: (← resolveArguments scope rest)

def resolveElements (scope : Scope) (seen : List String) :
    List Element → ExceptT ResolveError Option (List TupleElement)
  | [] => return []
  | .mk type none :: rest => do
      let resolved ← resolveType scope type
      return .mk none resolved.type :: (← resolveElements scope seen rest)
  | .mk type (some (written, span)) :: rest => do
      let resolved ← resolveType scope type
      let label := bare written
      if seen.contains label then throw ⟨.duplicateLabel label, span⟩
      else
        return .mk (some label) resolved.type :: (← resolveElements scope (seen ++ [label]) rest)

end

def resolve (scope : Scope) (expr : TypeExpr) : ExceptT ResolveError Option HostType := do
  return (← resolveType scope expr).type

/-! ## Names -/

section

variable {scope : Scope}

/-- Every builtin type is listed under its canonical name. -/
theorem ofCanonical?_of_mem :
    ∀ found ∈ builtins, Builtin.ofCanonical? found.canonical = some found := by
  decide

theorem builtin_of_mem {found : Builtin} (listed : found ∈ builtins) (display : String) :
    builtin found.canonical display = some (.builtin found display) := by
  rw [builtin, ofCanonical?_of_mem found listed]
  rfl

theorem loneName_eq (written : String) :
    loneName scope written = some (scope.loneName? written) := by
  unfold loneName Scope.loneName?
  split
  · rfl
  · cases known : Builtin.ofKeyword? written with
    | none => rfl
    | some found =>
        simp only [builtin_of_mem (List.mem_of_find?_eq_some known)]
        rfl

theorem oneLess?_length {α : Type} {xs : List α} (some : xs ≠ []) :
    oneLess? xs.length = .some (xs.length - 1) := by
  cases xs with
  | nil => exact absurd rfl some
  | cons x xs => rfl

theorem dottedName_eq (isGlobal : Bool) {segments : List ResolvedSegment}
    (some : segments ≠ []) :
    dottedName scope isGlobal segments = .some (scope.dottedName isGlobal segments) := by
  unfold dottedName Scope.dottedName
  simp only [oneLess?_length some, Option.bind_eq_bind, Option.bind_some, List.dropLast_eq_take]
  generalize known : (if (((segments.getLast?.map (·.arguments)).getD []).isEmpty &&
      (segments.take (segments.length - 1)).all (·.arguments.isEmpty)) = true
    then Builtin.ofCanonical? (".".intercalate (segments.map (·.name))) else none) = found?
  cases found? with
  | some found =>
      have listed := List.mem_of_find?_eq_some (Option.ite_none_right_eq_some.mp known).2
      exact builtin_of_mem listed _
  | none =>
      dsimp only
      generalize scope.tableCapability? _ _ _ = capability?
      rcases capability? with _ | _ | _ | _ <;> rfl

theorem nameType_eq (isGlobal : Bool) {segments : List ResolvedSegment}
    (some : segments ≠ []) :
    nameType scope isGlobal segments = .some (scope.nameType isGlobal segments) := by
  cases isGlobal with
  | true => exact dottedName_eq true some
  | false =>
      rcases segments with _ | ⟨⟨written, _ | ⟨argument, arguments⟩⟩, _ | ⟨next, rest⟩⟩
      · exact absurd rfl some
      · unfold nameType Scope.nameType
        dsimp only
        rw [loneName_eq, Option.bind_eq_bind, Option.bind_some]
        cases scope.loneName? written with
        | none => exact dottedName_eq false some
        | some found => rfl
      all_goals exact dottedName_eq false some

end

/-! ## Expressions -/

section

variable {scope : Scope}

mutual

/-- No step of resolving an expression goes wrong, if no path within it is empty. -/
theorem run_resolveType : ∀ expr : TypeExpr, (∀ node ∈ expr.nodes, node.Formed) →
    (resolveType scope expr).run = some (scope.resolveType expr)
  | .named isGlobal segments span, formed => by
      have inside := (List.forall_mem_cons.mp formed).2
      rw [resolveType, Scope.resolveType]
      refine run_map_of_some (run_resolveSegments _ segments inside) fun resolved succeeds => ?_
      have some : resolved ≠ [] := by
        have written := Scope.written_resolveSegments succeeds
        have someSegments := (List.forall_mem_cons.mp formed).1.1
        rintro rfl
        exact someSegments (List.map_eq_nil_iff.mp written.symm)
      rw [nameType_eq isGlobal some]
      rfl
  | .tuple elements span, formed => by
      have inside := (List.forall_mem_cons.mp formed).2
      rw [resolveType, Scope.resolveType]
      exact run_map_of_some (run_resolveElements [] elements inside) fun _ _ => rfl
  | .nullable inner span, formed => by
      have inside := (List.forall_mem_cons.mp formed).2
      rw [resolveType, Scope.resolveType]
      split
      · rfl
      · exact run_map_of_some (run_resolveType inner inside) fun _ _ => rfl
  | .array element commas span, formed => by
      have inside := (List.forall_mem_cons.mp formed).2
      rw [resolveType, Scope.resolveType]
      exact run_map_of_some (run_resolveType element inside) fun _ _ => rfl

theorem run_resolveSegments (isWhole : Bool) : ∀ segments : List Segment,
    (∀ node ∈ TypeExpr.segmentsNodes segments, node.Formed) →
      (resolveSegments scope isWhole segments).run = some (scope.resolveSegments isWhole segments)
  | [], _ => by
      rw [resolveSegments]
      rfl
  | .mk name arguments span :: rest, formed => by
      have inside := List.forall_mem_append.mp formed
      rw [resolveSegments, Scope.resolveSegments_cons]
      split
      · refine run_bind_of_some (run_resolveArguments arguments inside.1) fun _ _ => ?_
        exact run_map_of_some (run_resolveSegments isWhole rest inside.2) fun _ _ => rfl
      · rfl

theorem run_resolveArguments : ∀ arguments : List TypeExpr,
    (∀ node ∈ TypeExpr.argumentsNodes arguments, node.Formed) →
      (resolveArguments scope arguments).run = some (scope.resolveArguments arguments)
  | [], _ => by
      rw [resolveArguments]
      rfl
  | argument :: rest, formed => by
      have inside := List.forall_mem_append.mp formed
      rw [resolveArguments, Scope.resolveArguments_cons]
      refine run_bind_of_some (run_resolveType argument inside.1) fun _ _ => ?_
      exact run_map_of_some (run_resolveArguments rest inside.2) fun _ _ => rfl

theorem run_resolveElements (seen : List String) : ∀ elements : List Element,
    (∀ node ∈ TypeExpr.elementsNodes elements, node.Formed) →
      (resolveElements scope seen elements).run = some (scope.resolveElements seen elements)
  | [], _ => by
      rw [resolveElements]
      rfl
  | .mk type none :: rest, formed => by
      have inside := List.forall_mem_append.mp formed
      rw [resolveElements, Scope.resolveElements_unlabelled]
      refine run_bind_of_some (run_resolveType type inside.1) fun _ _ => ?_
      exact run_map_of_some (run_resolveElements seen rest inside.2) fun _ _ => rfl
  | .mk type (some (written, span)) :: rest, formed => by
      have inside := List.forall_mem_append.mp formed
      rw [resolveElements, Scope.resolveElements_labelled]
      refine run_bind_of_some (run_resolveType type inside.1) fun _ _ => ?_
      dsimp only
      split
      · rfl
      · exact run_map_of_some (run_resolveElements _ rest inside.2) fun _ _ => rfl

end

theorem run_resolve {expr : TypeExpr} (formed : ∀ node ∈ expr.nodes, node.Formed) :
    (resolve scope expr).run = some (scope.resolve expr) :=
  run_map_of_some (run_resolveType expr formed) fun _ _ => rfl

end

end ConversionSynthesis.Checked
