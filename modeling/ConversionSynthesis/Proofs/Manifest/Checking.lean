import Mathlib.Data.List.Chain
import ConversionSynthesis.Manifest.Declarations
import ConversionSynthesis.Proofs.Sequence
import ConversionSynthesis.Proofs.SideBySide

/-! # What accepted entries declare

For every kind of entry, the relation between the entry and what it declares. Checking an entry
succeeds exactly with what the entry declares. No place in the manifest occurs in the relations:
places only tell where a fault lies.
-/

namespace ConversionSynthesis

open Host

/-! ## Requirements -/

theorem require_eq_ok {condition : Bool} {place : DeclPlace} {fault : DeclFault} {u : Unit} :
    require condition place fault = .ok u ↔ condition = true := by
  unfold require
  cases condition <;> simp

theorem valueOr_eq_ok {α : Type} {value : Option α} {place : DeclPlace} {fault : DeclFault}
    {x : α} :
    valueOr value place fault = .ok x ↔ value = some x := by
  unfold valueOr
  cases value <;> simp

/-! ## Texts of types -/

/-- A text denotes a type if it can be read and what is read names the type. -/
def Denotes (scope : Scope) (text : String) (type : HostType) : Prop :=
  ∃ expr, TypeExpr.parse text = .ok expr ∧ scope.resolve expr = .ok type

theorem Denotes.unique {scope : Scope} {text : String} {type type' : HostType}
    (denotes : Denotes scope text type) (denotes' : Denotes scope text type') : type = type' := by
  obtain ⟨expr, read, resolved⟩ := denotes
  obtain ⟨expr', read', resolved'⟩ := denotes'
  cases read.symm.trans read'
  exact Except.ok.inj (resolved.symm.trans resolved')

theorem scan_of_allBlank {text : List Char} (blank : text.all Text.isBlank = true)
    (offset : Nat) : Token.scan offset text = .ok [] := by
  induction text generalizing offset with
  | nil => rw [Token.scan]
  | cons c rest ih =>
      rw [List.all_cons, Bool.and_eq_true] at blank
      unfold Token.scan
      rw [if_pos blank.1]
      exact ih blank.2 (offset + c.utf8Size)

/-- Blank texts are no types, so that the check for them turns none away. -/
theorem not_blank_of_parse {text : String} {expr : TypeExpr}
    (read : TypeExpr.parse text = .ok expr) : Text.allBlank text = false := by
  rw [← Bool.not_eq_true]
  intro blank
  rw [TypeExpr.parse, Token.lex, scan_of_allBlank blank] at read
  cases read

theorem resolveText_eq_ok {scope : Scope} {place : DeclPlace} {text : String} {type : HostType} :
    resolveText scope place text = .ok type ↔ Denotes scope text type := by
  unfold resolveText
  constructor
  · intro resolved
    split at resolved
    · cases resolved
    · split at resolved
      · cases resolved
      · next expr read =>
          split at resolved
          · cases resolved
          · next found =>
              cases resolved
              exact ⟨expr, read, found⟩
  · rintro ⟨expr, read, found⟩
    simp [not_blank_of_parse read, read, found]

/-! ## Names -/

/-- A list of type parameters that may be declared together. -/
structure DeclarableParameters (names : List String) : Prop where
  declarable : ∀ name ∈ names, isDeclarable name = true
  distinct : names.Nodup

theorem requireTypeParameters_eq_ok {place : DeclPlace} {seen names : List String} {u : Unit} :
    requireTypeParameters place seen names = .ok u ↔
      (∀ name ∈ names, isDeclarable name = true) ∧ names.Nodup ∧ ∀ name ∈ names, name ∉ seen := by
  induction names generalizing seen with
  | nil => simp [requireTypeParameters]
  | cons name rest ih =>
      simp only [requireTypeParameters, requireName, bind_eq_ok, require_eq_ok, ih,
        List.forall_mem_cons, List.nodup_cons, List.mem_append, List.mem_singleton, not_or,
        Bool.not_eq_true', List.contains_eq_mem, decide_eq_false_iff_not, exists_const]
      constructor
      · rintro ⟨legal, fresh, declarable, distinct, apart⟩
        exact ⟨⟨legal, declarable⟩, ⟨fun mem => (apart name mem).2 rfl, distinct⟩, fresh,
          fun other mem => (apart other mem).1⟩
      · rintro ⟨⟨legal, declarable⟩, ⟨once, distinct⟩, fresh, apart⟩
        refine ⟨legal, fresh, declarable, distinct, fun other mem => ⟨apart other mem, ?_⟩⟩
        rintro rfl
        exact once mem

theorem requireTypeParameters_nil_eq_ok {place : DeclPlace} {names : List String} {u : Unit} :
    requireTypeParameters place [] names = .ok u ↔ DeclarableParameters names := by
  rw [requireTypeParameters_eq_ok]
  constructor
  · rintro ⟨declarable, distinct, _⟩
    exact ⟨declarable, distinct⟩
  · rintro ⟨declarable, distinct⟩
    exact ⟨declarable, distinct, fun _ _ => List.not_mem_nil⟩

/-! ## Constructors and conversions -/

structure ParameterEntry.Declares (scope : Scope) (entry : ParameterEntry)
    (parameter : Parameter) : Prop where
  declarable : isDeclarable entry.name = true
  name : parameter.name = bare entry.name
  type : Denotes scope entry.type parameter.type

theorem isEmpty_of_isDeclarable {name : String} (declarable : isDeclarable name = true) :
    name.isEmpty = false := by
  rw [← Bool.not_eq_true, String.isEmpty_iff]
  rintro rfl
  revert declarable
  decide

theorem checkParameters_eq_ok {scope : Scope} {place : Nat → DeclPlace} {position : Nat}
    {seen : List String} {entries : List ParameterEntry} {parameters : List Parameter} :
    checkParameters scope place position seen entries = .ok parameters ↔
      List.Forall₂ (ParameterEntry.Declares scope) entries parameters ∧
        (parameters.map (·.name)).Nodup ∧ ∀ p ∈ parameters, p.name ∉ seen := by
  induction entries generalizing position seen parameters with
  | nil =>
      rw [checkParameters, List.forall₂_nil_left_iff, Except.ok.injEq, eq_comm]
      constructor
      · rintro rfl
        simp
      · exact And.left
  | cons entry rest ih =>
      simp only [checkParameters, requireName, bind_eq_ok, require_eq_ok, resolveText_eq_ok,
        pure_eq_ok, ih, List.mem_append, List.mem_singleton, not_or, Bool.not_eq_true',
        List.contains_eq_mem, decide_eq_false_iff_not, exists_const]
      constructor
      · rintro ⟨_, declarable, fresh, type, denoted, others, ⟨declared, distinct, apart⟩, rfl⟩
        refine ⟨.cons ⟨declarable, rfl, denoted⟩ declared, ?_, ?_⟩
        · rw [List.map_cons, List.nodup_cons]
          refine ⟨?_, distinct⟩
          intro mem
          obtain ⟨p, p_mem, same⟩ := List.mem_map.mp mem
          exact (apart p p_mem).2 same
        · rw [List.forall_mem_cons]
          exact ⟨fresh, fun p mem => (apart p mem).1⟩
      · rintro ⟨declared, distinct, apart⟩
        cases declared with
        | cons first others =>
            rw [List.map_cons, List.nodup_cons] at distinct
            rw [List.forall_mem_cons] at apart
            obtain ⟨declarable, name, denoted⟩ := first
            refine ⟨isEmpty_of_isDeclarable declarable, declarable, name ▸ apart.1, _, denoted, _,
              ⟨others, distinct.2, fun p mem => ⟨apart.2 p mem, ?_⟩⟩, ?_⟩
            · intro same
              exact distinct.1 (name ▸ same ▸ List.mem_map_of_mem mem)
            · rw [← name]

/-- What a constructor entry declares. -/
structure ConstructorEntry.Declares (scope : Scope) (entry : ConstructorEntry)
    (constructor : Constructor) : Prop where
  accessibility : Accessibility.ofKeyword? entry.accessibility = some constructor.accessibility
  isOptedOut : constructor.isOptedOut = entry.optOut
  isObsolete : constructor.isObsolete = entry.isObsolete
  parameters :
    List.Forall₂ (ParameterEntry.Declares scope) entry.parameters constructor.parameters
  distinct : (constructor.parameters.map (·.name)).Nodup

theorem ConstructorEntry.check_eq_ok {scope : Scope} {place : DeclPlace} {index : Nat}
    {entry : ConstructorEntry} {constructor : Constructor} :
    entry.check scope place index = .ok constructor ↔ entry.Declares scope constructor := by
  simp only [check, requireAccessibility, bind_eq_ok, valueOr_eq_ok, checkParameters_eq_ok,
    pure_eq_ok]
  constructor
  · rintro ⟨accessibility, known, parameters, ⟨declared, distinct, _⟩, rfl⟩
    exact ⟨known, rfl, rfl, declared, distinct⟩
  · rintro ⟨known, optedOut, obsolete, declared, distinct⟩
    refine ⟨_, known, _, ⟨declared, distinct, fun _ _ => List.not_mem_nil⟩, ?_⟩
    rw [← optedOut, ← obsolete]

/-- What a conversion entry declares. -/
structure ConversionEntry.Declares (scope : Scope) (entry : ConversionEntry)
    (conversion : Conversion) : Prop where
  kind : ConversionKind.ofKeyword? entry.kind = some conversion.kind
  parameters : List.Forall₂ (Denotes scope) entry.parameters conversion.parameters

theorem ConversionEntry.check_eq_ok {scope : Scope} {place : DeclPlace} {index : Nat}
    {entry : ConversionEntry} {conversion : Conversion} :
    entry.check scope place index = .ok conversion ↔ entry.Declares scope conversion := by
  have listed (types : List HostType) :
      (entry.parameters.zipIdx.mapM fun written =>
        resolveText scope { place with part := .conversionParameter index written.2 } written.1) =
          .ok types ↔ List.Forall₂ (Denotes scope) entry.parameters types :=
    mapM_zipIdx_eq_ok 0 fun _ _ _ => resolveText_eq_ok
  simp only [check, bind_eq_ok, valueOr_eq_ok, pure_eq_ok]
  constructor
  · rintro ⟨kind, known, parameters, denoted, rfl⟩
    exact ⟨known, (listed parameters).mp denoted⟩
  · rintro ⟨known, denoted⟩
    exact ⟨_, known, _, (listed _).mpr denoted, rfl⟩

/-! ## Types -/

/-- What the entry of an enclosing type declares. -/
structure EnclosingEntry.Declares (entry : EnclosingEntry) (type : EnclosingType) : Prop where
  declarable : isDeclarable entry.name = true
  parameters : DeclarableParameters entry.typeParameters
  kind : TypeKind.ofKeyword? entry.kind = some type.kind
  accessibility : Accessibility.ofKeyword? entry.accessibility = some type.accessibility
  name : type.name = entry.name
  typeParameters : type.typeParameters = entry.typeParameters

theorem EnclosingEntry.check_eq_ok {place : DeclPlace} {entry : EnclosingEntry}
    {type : EnclosingType} : entry.check place = .ok type ↔ entry.Declares type := by
  simp only [check, requireName, requireKind, requireAccessibility, bind_eq_ok, require_eq_ok,
    valueOr_eq_ok, requireTypeParameters_nil_eq_ok, pure_eq_ok, exists_const]
  constructor
  · rintro ⟨declarable, parameters, kind, knownKind, accessibility, known, rfl⟩
    exact ⟨declarable, parameters, knownKind, known, rfl, rfl⟩
  · rintro ⟨declarable, parameters, knownKind, known, name, typeParameters⟩
    refine ⟨declarable, parameters, _, knownKind, _, known, ?_⟩
    rw [← name, ← typeParameters]

theorem checkEnclosing_eq_ok {place : DeclPlace} {depth : Nat} {outer : Option String}
    {entries : List EnclosingEntry} {types : List EnclosingType} :
    checkEnclosing place depth outer entries = .ok types ↔
      List.Forall₂ EnclosingEntry.Declares entries types ∧
        (outer.toList ++ entries.map (·.name)).IsChain (· ≠ ·) := by
  induction entries generalizing depth outer types with
  | nil =>
      rw [checkEnclosing, List.forall₂_nil_left_iff, Except.ok.injEq, eq_comm]
      refine (and_iff_left ?_).symm
      cases outer with
      | none => exact .nil
      | some name => exact .singleton name
  | cons entry rest ih =>
      have link : (outer.toList ++ (entry :: rest).map (·.name)).IsChain (· ≠ ·) ↔
          (outer != some entry.name) = true ∧
            ((some entry.name).toList ++ rest.map (·.name)).IsChain (· ≠ ·) := by
        cases outer with
        | none => simp
        | some name => simp [List.isChain_cons_cons]
      simp only [checkEnclosing, bind_eq_ok, EnclosingEntry.check_eq_ok, require_eq_ok, ih,
        pure_eq_ok, exists_const, link]
      constructor
      · rintro ⟨first, declared, apart, others, ⟨rest, chain⟩, rfl⟩
        exact ⟨.cons declared rest, apart, chain⟩
      · rintro ⟨declared, apart, chain⟩
        cases declared with
        | cons first others => exact ⟨_, first, apart, _, ⟨others, chain⟩, rfl⟩

/-- The scope of the types that an entry writes. -/
def TypeEntry.inner (entry : TypeEntry) (scope : Scope) : Scope :=
  { scope with
    typeParameters := entry.enclosing.flatMap (·.typeParameters) ++ entry.typeParameters }

/-- What the entry of a type declares. -/
structure TypeEntry.Declares (scope : Scope) (entry : TypeEntry) (type : TypeDecl) : Prop where
  declarable : isDeclarable entry.name = true
  kind : TypeKind.ofKeyword? entry.kind = some type.kind
  accessibility : Accessibility.ofKeyword? entry.accessibility = some type.accessibility
  namespaceDeclarable :
    ∀ segment ∈ entry.namespace?.toList.flatMap (Text.pieces '.'), isDeclarable segment = true
  parameters : DeclarableParameters entry.typeParameters
  enclosing : List.Forall₂ EnclosingEntry.Declares entry.enclosing type.enclosing
  apart : (entry.enclosing.map (·.name) ++ [entry.name]).IsChain (· ≠ ·)
  imports : ∀ path ∈ entry.usings, isImport path = true
  constructors :
    List.Forall₂ (ConstructorEntry.Declares (entry.inner scope)) entry.constructors
      type.constructors
  conversions :
    List.Forall₂ (ConversionEntry.Declares (entry.inner scope)) entry.conversions type.conversions
  name : type.name = entry.name
  namespacePath : type.namespacePath = entry.namespace?
  typeParameters : type.typeParameters = entry.typeParameters
  isAbstract : type.isAbstract = entry.isAbstract
  isStatic : type.isStatic = entry.isStatic
  isExtensible : type.isExtensible = (entry.isPartial && entry.enclosing.all (·.isPartial))
  isOptedOut : type.isOptedOut = entry.optOut
  usings : type.usings = entry.usings

/-- The chain of names down to a type, taken apart at the type. -/
theorem TypeEntry.apart_iff {entry : TypeEntry} :
    (entry.enclosing.map (·.name) ++ [entry.name]).IsChain (· ≠ ·) ↔
      (entry.enclosing.map (·.name)).IsChain (· ≠ ·) ∧
        (entry.enclosing.getLast?.map (·.name) != some entry.name) = true := by
  rw [List.isChain_append, List.getLast?_map]
  cases entry.enclosing.getLast? <;> simp

/-- Checking an entry succeeds with what the entry declares, wherever it stands. -/
theorem TypeEntry.check_eq_ok {scope : Scope} {index : Nat} {entry : TypeEntry}
    {type : TypeDecl} : entry.check scope index = .ok type ↔ entry.Declares scope type := by
  have constructors (place : DeclPlace) (types : List Constructor) :
      (entry.constructors.zipIdx.mapM fun written =>
        written.1.check (entry.inner scope) place written.2) = .ok types ↔
          List.Forall₂ (ConstructorEntry.Declares (entry.inner scope)) entry.constructors types :=
    mapM_zipIdx_eq_ok 0 fun _ _ _ => ConstructorEntry.check_eq_ok
  have conversions (place : DeclPlace) (types : List Conversion) :
      (entry.conversions.zipIdx.mapM fun written =>
        written.1.check (entry.inner scope) place written.2) = .ok types ↔
          List.Forall₂ (ConversionEntry.Declares (entry.inner scope)) entry.conversions types :=
    mapM_zipIdx_eq_ok 0 fun _ _ _ => ConversionEntry.check_eq_ok
  simp only [check, requireName, requireKind, requireAccessibility, bind_eq_ok, require_eq_ok,
    valueOr_eq_ok, requireTypeParameters_nil_eq_ok, checkEnclosing_eq_ok, forIn_eq_ok, pure_eq_ok,
    exists_const]
  constructor
  · rintro ⟨declarable, kind, knownKind, accessibility, known, segments, parameters, enclosing,
      ⟨declared, chain⟩, last, imports, cs, builtCs, ops, builtOps, rfl⟩
    exact {
      declarable
      kind := knownKind
      accessibility := known
      namespaceDeclarable := segments
      parameters
      enclosing := declared
      apart := apart_iff.mpr ⟨chain, last⟩
      imports
      constructors := (constructors _ cs).mp builtCs
      conversions := (conversions _ ops).mp builtOps
      name := rfl
      namespacePath := rfl
      typeParameters := rfl
      isAbstract := rfl
      isStatic := rfl
      isExtensible := rfl
      isOptedOut := rfl
      usings := rfl }
  · intro declares
    obtain ⟨chain, last⟩ := apart_iff.mp declares.apart
    refine ⟨declares.declarable, _, declares.kind, _, declares.accessibility,
      declares.namespaceDeclarable, declares.parameters, _, ⟨declares.enclosing, chain⟩, last,
      declares.imports, _, (constructors _ _).mpr declares.constructors, _,
      (conversions _ _).mpr declares.conversions, ?_⟩
    rw [← declares.name, ← declares.namespacePath, ← declares.typeParameters,
      ← declares.isAbstract, ← declares.isStatic, ← declares.isExtensible, ← declares.isOptedOut,
      ← declares.usings]

theorem TypeEntry.Declares.unique {scope : Scope} {entry : TypeEntry} {type type' : TypeDecl}
    (declares : entry.Declares scope type) (declares' : entry.Declares scope type') :
    type = type' := by
  have checked : entry.check scope 0 = .ok type := TypeEntry.check_eq_ok.mpr declares
  have checked' : entry.check scope 0 = .ok type' := TypeEntry.check_eq_ok.mpr declares'
  exact Except.ok.inj (checked.symm.trans checked')

theorem Manifest.declarations_eq_ok {manifest : Manifest} {types : List TypeDecl} :
    manifest.declarations = .ok types ↔
      List.Forall₂ (TypeEntry.Declares manifest.scope) manifest.types types :=
  mapM_zipIdx_eq_ok 0 fun _ _ _ => TypeEntry.check_eq_ok

theorem Manifest.exists_declarations_iff {manifest : Manifest} :
    (∃ types, manifest.declarations = .ok types) ↔
      ∀ entry ∈ manifest.types, ∃ type, entry.Declares manifest.scope type := by
  simp only [declarations_eq_ok]
  exact exists_forall₂_iff

end ConversionSynthesis
