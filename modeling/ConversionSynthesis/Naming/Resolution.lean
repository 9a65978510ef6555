import ConversionSynthesis.Host.Builtin
import ConversionSynthesis.Naming.Scope
import ConversionSynthesis.TypeExpr.Basic

/-! # From type expressions to host types

Resolution gives every spelling of a type one identity: keywords and their dotted names fold to the
canonical name, declared types to their full path. It also decides what a parameter of the type
accepts.
-/

namespace ConversionSynthesis

open Host

inductive ResolveFault where
  /-- Two elements of a tuple have one label. -/
  | duplicateLabel (label : String)
  | reservedName (name : String)
  /-- A nullable type is made nullable once more. -/
  | nullableTwice
deriving DecidableEq, Repr

def ResolveFault.message : ResolveFault → String
  | duplicateLabel label => "duplicate tuple element name '" ++ label ++ "'"
  | reservedName name => "keyword '" ++ name ++ "' is not a type name here"
  | nullableTwice => "nullable of a nullable type"

structure ResolveError where
  fault : ResolveFault
  span : Span
deriving DecidableEq, Repr

def ResolveError.message (error : ResolveError) : String :=
  error.fault.message

/-- A resolved type, and whether it is a reference, which may be null without a change of type. -/
structure ResolvedType where
  type : HostType
  isReference : Bool

structure ResolvedSegment where
  written : String
  arguments : List HostType

namespace ResolvedSegment

def name (segment : ResolvedSegment) : String :=
  bare segment.written

def identity (segment : ResolvedSegment) : String :=
  genericIdentity segment.name (segment.arguments.map (·.structuralIdentity))

def display (segment : ResolvedSegment) : String :=
  genericDisplay segment.written (segment.arguments.map (·.display))

end ResolvedSegment

namespace ResolvedType

/-- The capability of a type that is only as general as its parts. -/
def capabilityOf (isGeneral : Bool) : Capability :=
  if isGeneral then .general else .concrete

def typeParameter (name : String) : ResolvedType :=
  ⟨.named name name .general, false⟩

def builtin (builtin : Builtin) (display : String) : ResolvedType :=
  ⟨.named builtin.canonical display (capabilityOf (isUniversalBase builtin.canonical)),
    !builtin.isValue⟩

/-- The nullable form: an annotation on references, a type of its own on anything else. -/
def nullable (inner : ResolvedType) : ResolvedType :=
  let display := inner.type.display ++ "?"
  let apart : HostType :=
    .named (inner.type.structuralIdentity ++ "?") display (capabilityOf inner.type.isGeneralizable)
  let type :=
    match inner.type with
    | .named identity _ capability =>
        if capability = .interface ∨ inner.isReference = true then
          .named identity display capability
        else apart
    | .tuple _ => apart
  ⟨type, inner.isReference⟩

/-- The array with one dimension more than `commas`. -/
def array (commas : Nat) (element : ResolvedType) : ResolvedType :=
  let brackets := "[" ++ String.ofList (List.replicate commas ',') ++ "]"
  ⟨.named (element.type.structuralIdentity ++ brackets) (element.type.display ++ brackets)
    (capabilityOf element.type.isGeneralizable), true⟩

end ResolvedType

namespace Scope

def writtenDisplay (isGlobal : Bool) (segments : List ResolvedSegment) : String :=
  (if isGlobal then "global::" else "") ++ ".".intercalate (segments.map (·.display))

/-- The builtin type or type parameter that a lone name denotes as written. -/
def loneName? (scope : Scope) (written : String) : Option ResolvedType :=
  if scope.typeParameters.contains written then some (.typeParameter written)
  else (Builtin.ofKeyword? written).map (.builtin · written)

/-- The identity and spelling of a name, and whether it denotes a declared reference type: those of
the declared type that `target` is, or else those of the name itself. -/
def nameParts (isGlobal : Bool) (segments : List ResolvedSegment)
    (arguments : List HostType) (target : Option DeclaredType) : String × String × Bool :=
  match target with
  | some declared =>
      (below declared.prefixIdentity
        (genericIdentity declared.name (arguments.map (·.structuralIdentity))),
      "global::" ++
        below declared.prefixDisplay (genericDisplay declared.name (arguments.map (·.display))),
      declared.kind.isReference)
  | none =>
      (".".intercalate (segments.map (·.identity)), writtenDisplay isGlobal segments, false)

/-- The capability that the table gives a name by its identity, its path or its last segment. -/
def tableCapability? (scope : Scope) (identity path simple : String) : Option Capability :=
  (scope.symbols.lookup? identity).or
    ((scope.symbols.lookup? path).or (scope.symbols.lookup? simple))

/-- The type that a dotted name denotes, once it is neither a type parameter nor a keyword. -/
def dottedName (scope : Scope) (isGlobal : Bool) (segments : List ResolvedSegment) :
    ResolvedType :=
  let names := segments.map (·.name)
  let path := ".".intercalate names
  let arguments := (segments.getLast?.map (·.arguments)).getD []
  let isPlainBefore := segments.dropLast.all (·.arguments.isEmpty)
  match if arguments.isEmpty && isPlainBefore then Builtin.ofCanonical? path else none with
  | some builtin => .builtin builtin (writtenDisplay isGlobal segments)
  | none =>
      let target :=
        if isPlainBefore then scope.registry.lookup? path names.length arguments.length else none
      let (identity, display, isReference) := nameParts isGlobal segments arguments target
      let isGeneral := isUniversalBase identity ||
        segments.any (·.arguments.any (·.isGeneralizable))
      match scope.tableCapability? identity path (names.getLast?.getD "") with
      | some .interface => ⟨.named identity display .interface, true⟩
      | some .general => ⟨.named identity display .general, isReference⟩
      | some .concrete | none =>
          ⟨.named identity display (ResolvedType.capabilityOf isGeneral), isReference⟩

def nameType (scope : Scope) (isGlobal : Bool) (segments : List ResolvedSegment) : ResolvedType :=
  match isGlobal, segments with
  | false, [⟨written, []⟩] => (scope.loneName? written).getD (scope.dottedName false segments)
  | _, _ => scope.dottedName isGlobal segments

/-- Whether a name may stand in a segment: reserved words may only as whole builtin types. -/
def mayName (isWhole : Bool) (written : String) : Bool :=
  !isReserved written || (isWhole && (Builtin.ofKeyword? written).isSome)

def isNullable : TypeExpr → Bool
  | .nullable .. => true
  | _ => false

mutual

def resolveType (scope : Scope) : TypeExpr → Except ResolveError ResolvedType
  | .named isGlobal segments _ =>
      (scope.resolveSegments (!isGlobal && segments.length == 1) segments).map
        (scope.nameType isGlobal)
  | .tuple elements _ =>
      (scope.resolveElements [] elements).map fun elements => ⟨.tuple elements, false⟩
  | .nullable inner span =>
      if isNullable inner then .error ⟨.nullableTwice, span⟩
      else (scope.resolveType inner).map (·.nullable)
  | .array element commas _ => (scope.resolveType element).map (·.array commas)

/-- The segments of a name with their resolved arguments; `isWhole` says that the only segment is
the whole name. -/
def resolveSegments (scope : Scope) (isWhole : Bool) :
    List Segment → Except ResolveError (List ResolvedSegment)
  | [] => .ok []
  | .mk name arguments span :: rest =>
      if mayName isWhole name then
        match scope.resolveArguments arguments with
        | .error error => .error error
        | .ok types => (scope.resolveSegments isWhole rest).map (⟨name, types⟩ :: ·)
      else .error ⟨.reservedName name, span⟩

def resolveArguments (scope : Scope) : List TypeExpr → Except ResolveError (List HostType)
  | [] => .ok []
  | argument :: rest =>
      match scope.resolveType argument with
      | .error error => .error error
      | .ok resolved => (scope.resolveArguments rest).map (resolved.type :: ·)

/-- The elements of a tuple after those with the labels `seen`; every label is new. -/
def resolveElements (scope : Scope) (seen : List String) :
    List Element → Except ResolveError (List TupleElement)
  | [] => .ok []
  | .mk type none :: rest =>
      match scope.resolveType type with
      | .error error => .error error
      | .ok resolved => (scope.resolveElements seen rest).map (.mk none resolved.type :: ·)
  | .mk type (some (written, span)) :: rest =>
      match scope.resolveType type with
      | .error error => .error error
      | .ok resolved =>
          let label := bare written
          if seen.contains label then .error ⟨.duplicateLabel label, span⟩
          else
            (scope.resolveElements (seen ++ [label]) rest).map
              (.mk (some label) resolved.type :: ·)

end

def resolve (scope : Scope) (expr : TypeExpr) : Except ResolveError HostType :=
  (scope.resolveType expr).map (·.type)

end Scope

end ConversionSynthesis
