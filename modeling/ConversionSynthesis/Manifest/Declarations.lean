import ConversionSynthesis.Manifest.Fault
import ConversionSynthesis.Manifest.Schema
import ConversionSynthesis.Text.Pieces
import ConversionSynthesis.TypeExpr.Parser

/-! # From manifests to declarations

Every entry of a manifest is checked, and the types of its parameters are resolved with all types
of the manifest at hand. The first fault in reading order is the one reported.
-/

namespace ConversionSynthesis

open Host

def require (condition : Bool) (place : DeclPlace) (fault : DeclFault) : Except DeclError Unit :=
  if condition then .ok () else .error ⟨place, fault⟩

def valueOr {α : Type} (value : Option α) (place : DeclPlace) (fault : DeclFault) :
    Except DeclError α :=
  match value with
  | some value => .ok value
  | none => .error ⟨place, fault⟩

def requireName (place : DeclPlace) (role : NameRole) (name : String) : Except DeclError Unit :=
  require (isDeclarable name) place (.invalidName role name)

def requireKind (place : DeclPlace) (text : String) : Except DeclError TypeKind :=
  valueOr (TypeKind.ofKeyword? text) place (.unknownKind text)

def requireAccessibility (place : DeclPlace) (text : String) : Except DeclError Accessibility :=
  valueOr (Accessibility.ofKeyword? text) place (.unknownAccessibility text)

/-- Requires that the names behind those of `seen` may be declared and differ from all before. -/
def requireTypeParameters (place : DeclPlace) (seen : List String) :
    List String → Except DeclError Unit
  | [] => .ok ()
  | name :: rest => do
      requireName place .typeParameter name
      require (!seen.contains name) place (.duplicateTypeParameter name)
      requireTypeParameters place (seen ++ [name]) rest

/-- The path that an import names, behind the word that imports the members of a type. -/
def importedPath (path : String) : List Char :=
  (Text.behind? "static ".toList path.toList).getD path.toList

def isImport (path : String) : Bool :=
  (Text.piecesFrom '.' [] (importedPath path)).all isIdentifier

def resolveText (scope : Scope) (place : DeclPlace) (text : String) : Except DeclError HostType :=
  if Text.allBlank text then .error ⟨place, .emptyParameterType⟩
  else
    match TypeExpr.parse text with
    | .error error => .error ⟨place, .unreadableType text error⟩
    | .ok expr =>
        match scope.resolve expr with
        | .error error => .error ⟨place, .unresolvedType text error⟩
        | .ok type => .ok type

namespace TypeEntry

/-- The namespace of a type; an empty one is the global one. -/
def namespace? (entry : TypeEntry) : Option String :=
  entry.namespacePath.filter fun path => !path.isEmpty

def declared (entry : TypeEntry) : DeclaredType :=
  let outer (segment : String → List String → String) : List String :=
    entry.namespace?.toList ++ entry.enclosing.map fun e => segment e.name e.typeParameters
  { path := ".".intercalate (outer (fun name _ => name) ++ [entry.name])
    name := entry.name
    prefixIdentity := ".".intercalate (outer genericIdentity)
    prefixDisplay := ".".intercalate (outer genericDisplay)
    arity := entry.typeParameters.length
    kind := (TypeKind.ofKeyword? entry.kind).getD .classType }

def typeParametersInScope (entry : TypeEntry) : List String :=
  entry.enclosing.flatMap (·.typeParameters) ++ entry.typeParameters

end TypeEntry

def EnclosingEntry.check (place : DeclPlace) (entry : EnclosingEntry) :
    Except DeclError EnclosingType := do
  requireName place .enclosing entry.name
  requireTypeParameters place [] entry.typeParameters
  let kind ← requireKind place entry.kind
  let accessibility ← requireAccessibility place entry.accessibility
  return { name := entry.name, kind, accessibility, typeParameters := entry.typeParameters }

/-- The enclosing types that entries declare, from `depth` on; none has the name of the one around
it, which is `outer` for the first. -/
def checkEnclosing (place : DeclPlace) (depth : Nat) (outer : Option String) :
    List EnclosingEntry → Except DeclError (List EnclosingType)
  | [] => .ok []
  | entry :: rest => do
      let here := { place with part := .enclosing depth }
      let first ← entry.check here
      require (outer != some entry.name) here (.nestedInNamesake entry.name)
      let others ← checkEnclosing place (depth + 1) (some entry.name) rest
      return first :: others

/-- The parameters that entries declare, from `position` on; their names differ from those of
`seen` and from each other. -/
def checkParameters (scope : Scope) (place : Nat → DeclPlace) (position : Nat)
    (seen : List String) : List ParameterEntry → Except DeclError (List Parameter)
  | [] => .ok []
  | entry :: rest => do
      let here := place position
      require (!entry.name.isEmpty) here .emptyParameterName
      requireName here .parameter entry.name
      let name := bare entry.name
      require (!seen.contains name) here (.duplicateParameter name)
      let type ← resolveText scope here entry.type
      let others ← checkParameters scope place (position + 1) (seen ++ [name]) rest
      return ⟨name, type⟩ :: others

def ConstructorEntry.check (scope : Scope) (place : DeclPlace) (index : Nat)
    (entry : ConstructorEntry) : Except DeclError Constructor := do
  let accessibility ←
    requireAccessibility { place with part := .constructor index } entry.accessibility
  let parameters ← checkParameters scope
    (fun parameter => { place with part := .constructorParameter index parameter }) 0 []
    entry.parameters
  return { accessibility, isOptedOut := entry.optOut, isObsolete := entry.isObsolete, parameters }

def ConversionEntry.check (scope : Scope) (place : DeclPlace) (index : Nat)
    (entry : ConversionEntry) : Except DeclError Conversion := do
  let kind ← valueOr (ConversionKind.ofKeyword? entry.kind)
    { place with part := .conversion index } (.unknownConversionKind entry.kind)
  let parameters ← entry.parameters.zipIdx.mapM fun (text, parameter) =>
    resolveText scope { place with part := .conversionParameter index parameter } text
  return ⟨kind, parameters⟩

/-- The type that the entry at a position declares; names refer to what is in `scope`, and to the
type parameters of the entry. -/
def TypeEntry.check (scope : Scope) (index : Nat) (entry : TypeEntry) :
    Except DeclError TypeDecl := do
  let place : DeclPlace := { index, name := entry.name }
  requireName place .type entry.name
  let kind ← requireKind place entry.kind
  let accessibility ← requireAccessibility place entry.accessibility
  let namespacePath := entry.namespace?
  for segment in namespacePath.toList.flatMap (Text.pieces '.') do
    requireName place .namespaceSegment segment
  requireTypeParameters place [] entry.typeParameters
  let enclosing ← checkEnclosing place 0 none entry.enclosing
  require ((entry.enclosing.getLast?.map (·.name)) != some entry.name) place
    (.nestedInNamesake entry.name)
  for path in entry.usings do
    require (isImport path) place (.invalidUsing path)
  let inner := { scope with typeParameters := entry.typeParametersInScope }
  let constructors ← entry.constructors.zipIdx.mapM fun (constructor, index) =>
    constructor.check inner place index
  let conversions ← entry.conversions.zipIdx.mapM fun (conversion, index) =>
    conversion.check inner place index
  return {
    name := entry.name
    namespacePath
    enclosing
    kind
    accessibility
    typeParameters := entry.typeParameters
    isAbstract := entry.isAbstract
    isStatic := entry.isStatic
    isExtensible := entry.isPartial && entry.enclosing.all (·.isPartial)
    isOptedOut := entry.optOut
    usings := entry.usings
    constructors
    conversions }

namespace Manifest

def scope (manifest : Manifest) : Scope :=
  { registry := manifest.types.map (·.declared), symbols := manifest.symbols }

def declarations (manifest : Manifest) : Except DeclError (List TypeDecl) :=
  let scope := manifest.scope
  manifest.types.zipIdx.mapM fun (entry, index) => entry.check scope index

end Manifest

end ConversionSynthesis
