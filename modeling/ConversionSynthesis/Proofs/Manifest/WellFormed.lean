import ConversionSynthesis.Proofs.Manifest.Rewriting
import ConversionSynthesis.Proofs.Naming.Levels
import ConversionSynthesis.Proofs.Naming.Tuples

/-! # Well-formed manifests

What is asked of each kind of entry, without regard to the order in which it is checked or to where
it stands. A manifest is accepted just if all of its entries are well formed, and then every tuple
in what it declares is a proper one.
-/

namespace ConversionSynthesis

open Host

/-! ## Words and paths -/

/-- The words that declare a kind. -/
def Host.TypeKind.spellings : List (List String) :=
  [["class"], ["struct"], ["record"], ["record", "class"], ["record", "struct"]]

theorem exists_ofKeyword?_kind_iff {text : String} :
    (∃ kind, TypeKind.ofKeyword? text = some kind) ↔ Text.words text ∈ TypeKind.spellings := by
  unfold TypeKind.ofKeyword? TypeKind.ofWords? TypeKind.spellings
  split <;> simp_all

/-- The words that declare an accessibility level. -/
def Host.Accessibility.spellings : List (List String) :=
  [["private"], ["private", "protected"], ["protected", "private"], ["protected"], ["internal"],
    ["protected", "internal"], ["internal", "protected"], ["public"]]

theorem exists_ofKeyword?_accessibility_iff {text : String} :
    (∃ level, Accessibility.ofKeyword? text = some level) ↔
      Text.words text ∈ Accessibility.spellings := by
  unfold Accessibility.ofKeyword? Accessibility.ofWords? Accessibility.spellings
  split <;> simp_all

theorem exists_ofKeyword?_conversionKind_iff {text : String} :
    (∃ kind, ConversionKind.ofKeyword? text = some kind) ↔
      text = "implicit" ∨ text = "explicit" := by
  unfold ConversionKind.ofKeyword?
  split <;> simp_all

/-- A path of one legal name or more, joined by dots. -/
def IsDotted (legal : String → Bool) (path : String) : Prop :=
  ∃ names, names ≠ [] ∧ (∀ name ∈ names, legal name = true) ∧ path = ".".intercalate names

/-- The path of an import, behind the word for the members of a type if that is there. -/
def IsImportOf (legal : String → Bool) (path : String) : Prop :=
  ∃ imported, IsDotted legal imported ∧ (path = imported ∨ path = "static " ++ imported)

theorem isDotted_iff {legal : String → Bool}
    (identifiers : ∀ name, legal name = true → isIdentifier name = true) {path : String} :
    IsDotted legal path ↔ ∀ piece ∈ Text.pieces '.' path, legal piece = true := by
  constructor
  · rintro ⟨names, some, allLegal, rfl⟩
    have dotless : ∀ name ∈ names, '.' ∉ name.toList := fun name mem =>
      not_mem_of_isIdentifier (identifiers name (allLegal name mem)) (by decide) (by decide)
    rwa [pieces_intercalate rfl some dotless]
  · intro allLegal
    have some : Text.pieces '.' path ≠ [] := by
      rw [← List.length_pos_iff, Text.pieces, Text.length_piecesFrom]
      omega
    exact ⟨Text.pieces '.' path, some, allLegal, (Text.intercalate_pieces path).symm⟩

theorem isIdentifier_of_isDeclarable {name : String} (declarable : isDeclarable name = true) :
    isIdentifier name = true :=
  (Bool.and_eq_true_iff.mp declarable).1

theorem importedPath_static (path : String) : importedPath ("static " ++ path) = path.toList := by
  have found : Text.behind? "static ".toList ("static " ++ path).toList = some path.toList := by
    rw [Text.behind?_eq_some_iff, String.toList_append]
  rw [importedPath, found, Option.getD_some]

/-- No blank stands in a dotted path, so that it does not start with a word and a blank. -/
theorem importedPath_of_isDotted {legal : String → Bool}
    (identifiers : ∀ name, legal name = true → isIdentifier name = true) {path : String}
    (dotted : IsDotted legal path) : importedPath path = path.toList := by
  obtain ⟨names, -, allLegal, rfl⟩ := dotted
  have noBlank : ' ' ∉ (".".intercalate names).toList :=
    not_mem_intercalate (by decide) fun name mem =>
      not_mem_of_isIdentifier (identifiers name (allLegal name mem)) (by decide) (by decide)
  have plain : Text.behind? "static ".toList (".".intercalate names).toList = none := by
    rw [Option.eq_none_iff_forall_ne_some]
    intro rest found
    rw [Text.behind?_eq_some_iff.mp found] at noBlank
    exact noBlank (by simp)
  rw [importedPath, plain, Option.getD_none]

theorem eq_importedPath (path : String) :
    path = String.ofList (importedPath path) ∨
      path = "static " ++ String.ofList (importedPath path) := by
  cases found : Text.behind? "static ".toList path.toList with
  | none =>
      left
      rw [importedPath, found, Option.getD_none, String.ofList_toList]
  | some rest =>
      right
      rw [importedPath, found, Option.getD_some, ← String.toList_inj,
        Text.behind?_eq_some_iff.mp found]
      simp

theorem isImportOf_iff {legal : String → Bool}
    (identifiers : ∀ name, legal name = true → isIdentifier name = true) {path : String} :
    IsImportOf legal path ↔
      ∀ piece ∈ Text.piecesFrom '.' [] (importedPath path), legal piece = true := by
  have pieces : (∀ piece ∈ Text.piecesFrom '.' [] (importedPath path), legal piece = true) ↔
      IsDotted legal (String.ofList (importedPath path)) := by
    rw [isDotted_iff identifiers, Text.pieces, String.toList_ofList]
  rw [pieces]
  constructor
  · rintro ⟨imported, dotted, rfl | rfl⟩
    · rwa [importedPath_of_isDotted identifiers dotted, String.ofList_toList]
    · rwa [importedPath_static, String.ofList_toList]
  · intro dotted
    exact ⟨_, dotted, eq_importedPath path⟩

theorem isImport_iff {path : String} : isImport path = true ↔ IsImportOf isIdentifier path := by
  rw [isImportOf_iff fun _ => id, isImport, List.all_eq_true]

/-! ## Entries -/

structure ParameterEntry.WellFormed (scope : Scope) (entry : ParameterEntry) : Prop where
  name : isDeclarable entry.name = true
  type : ∃ type, Denotes scope entry.type type

/-- Names of parameters are told apart without their marks. -/
structure ConstructorEntry.WellFormed (scope : Scope) (entry : ConstructorEntry) : Prop where
  accessibility : Text.words entry.accessibility ∈ Accessibility.spellings
  parameters : ∀ parameter ∈ entry.parameters, parameter.WellFormed scope
  distinct : (entry.parameters.map fun parameter => bare parameter.name).Nodup

structure ConversionEntry.WellFormed (scope : Scope) (entry : ConversionEntry) : Prop where
  kind : entry.kind = "implicit" ∨ entry.kind = "explicit"
  parameters : ∀ text ∈ entry.parameters, ∃ type, Denotes scope text type

structure EnclosingEntry.WellFormed (entry : EnclosingEntry) : Prop where
  name : isDeclarable entry.name = true
  kind : Text.words entry.kind ∈ TypeKind.spellings
  accessibility : Text.words entry.accessibility ∈ Accessibility.spellings
  typeParameters : DeclarableParameters entry.typeParameters

/-- The types that an entry writes refer to the type parameters of the entry and of those around it,
and to nothing else that `scope` does not have. -/
structure TypeEntry.WellFormed (scope : Scope) (entry : TypeEntry) : Prop where
  name : isDeclarable entry.name = true
  kind : Text.words entry.kind ∈ TypeKind.spellings
  accessibility : Text.words entry.accessibility ∈ Accessibility.spellings
  namespacePath : ∀ path ∈ entry.namespacePath, path = "" ∨ IsDotted isDeclarable path
  typeParameters : DeclarableParameters entry.typeParameters
  enclosing : ∀ outer ∈ entry.enclosing, outer.WellFormed
  /-- No type is nested right in a type of the same written name. -/
  apart : (entry.enclosing.map (·.name) ++ [entry.name]).IsChain (· ≠ ·)
  usings : ∀ path ∈ entry.usings, IsImportOf isIdentifier path
  constructors : ∀ constructor ∈ entry.constructors, constructor.WellFormed (entry.inner scope)
  conversions : ∀ conversion ∈ entry.conversions, conversion.WellFormed (entry.inner scope)

def Manifest.WellFormed (manifest : Manifest) : Prop :=
  ∀ entry ∈ manifest.types, entry.WellFormed manifest.scope

/-! ## Well-formed entries are those that declare something -/

section Entries

variable {scope : Scope}

theorem ParameterEntry.exists_declares_iff {entry : ParameterEntry} :
    (∃ parameter, entry.Declares scope parameter) ↔ entry.WellFormed scope := by
  constructor
  · rintro ⟨parameter, declarable, -, denotes⟩
    exact ⟨declarable, parameter.type, denotes⟩
  · rintro ⟨declarable, type, denotes⟩
    exact ⟨⟨bare entry.name, type⟩, declarable, rfl, denotes⟩

theorem ConstructorEntry.exists_declares_iff {entry : ConstructorEntry} :
    (∃ constructor, entry.Declares scope constructor) ↔ entry.WellFormed scope := by
  have names {parameters : List Parameter}
      (declared : List.Forall₂ (ParameterEntry.Declares scope) entry.parameters parameters) :
      parameters.map (·.name) = entry.parameters.map fun parameter => bare parameter.name :=
    map_eq_of_forall₂ declared fun _ _ declares => declares.name
  constructor
  · rintro ⟨constructor, known, -, -, declared, distinct⟩
    refine ⟨exists_ofKeyword?_accessibility_iff.mp ⟨_, known⟩, ?_, names declared ▸ distinct⟩
    intro parameter mem
    exact ParameterEntry.exists_declares_iff.mp (exists_forall₂_iff.mp ⟨_, declared⟩ parameter mem)
  · rintro ⟨known, wellFormed, distinct⟩
    obtain ⟨accessibility, known⟩ := exists_ofKeyword?_accessibility_iff.mpr known
    obtain ⟨parameters, declared⟩ := exists_forall₂_iff.mpr fun parameter mem =>
      ParameterEntry.exists_declares_iff.mpr (wellFormed parameter mem)
    exact ⟨⟨accessibility, entry.optOut, entry.isObsolete, parameters⟩, known, rfl, rfl, declared,
      (names declared).symm ▸ distinct⟩

theorem ConversionEntry.exists_declares_iff {entry : ConversionEntry} :
    (∃ conversion, entry.Declares scope conversion) ↔ entry.WellFormed scope := by
  constructor
  · rintro ⟨conversion, known, denoted⟩
    exact ⟨exists_ofKeyword?_conversionKind_iff.mp ⟨_, known⟩, exists_forall₂_iff.mp ⟨_, denoted⟩⟩
  · rintro ⟨known, denoted⟩
    obtain ⟨kind, known⟩ := exists_ofKeyword?_conversionKind_iff.mpr known
    obtain ⟨parameters, denoted⟩ := exists_forall₂_iff.mpr denoted
    exact ⟨⟨kind, parameters⟩, known, denoted⟩

theorem EnclosingEntry.exists_declares_iff {entry : EnclosingEntry} :
    (∃ type, entry.Declares type) ↔ entry.WellFormed := by
  constructor
  · rintro ⟨type, declares⟩
    exact ⟨declares.declarable, exists_ofKeyword?_kind_iff.mp ⟨_, declares.kind⟩,
      exists_ofKeyword?_accessibility_iff.mp ⟨_, declares.accessibility⟩, declares.parameters⟩
  · rintro ⟨declarable, known, knownLevel, parameters⟩
    obtain ⟨kind, known⟩ := exists_ofKeyword?_kind_iff.mpr known
    obtain ⟨accessibility, knownLevel⟩ := exists_ofKeyword?_accessibility_iff.mpr knownLevel
    exact ⟨⟨entry.name, kind, accessibility, entry.typeParameters⟩, declarable, parameters, known,
      knownLevel, rfl, rfl⟩

theorem TypeEntry.namespace_declarable_iff {entry : TypeEntry} :
    (∀ segment ∈ entry.namespace?.toList.flatMap (Text.pieces '.'), isDeclarable segment = true) ↔
      ∀ path ∈ entry.namespacePath, path = "" ∨ IsDotted isDeclarable path := by
  unfold namespace?
  cases entry.namespacePath with
  | none => simp
  | some path =>
      by_cases empty : path = ""
      · simp [empty]
      · simp [empty, isDotted_iff fun _ => isIdentifier_of_isDeclarable]

theorem TypeEntry.exists_declares_iff {entry : TypeEntry} :
    (∃ type, entry.Declares scope type) ↔ entry.WellFormed scope := by
  constructor
  · rintro ⟨type, declares⟩
    exact {
      name := declares.declarable
      kind := exists_ofKeyword?_kind_iff.mp ⟨_, declares.kind⟩
      accessibility := exists_ofKeyword?_accessibility_iff.mp ⟨_, declares.accessibility⟩
      namespacePath := namespace_declarable_iff.mp declares.namespaceDeclarable
      typeParameters := declares.parameters
      enclosing := fun outer mem => EnclosingEntry.exists_declares_iff.mp
        (exists_forall₂_iff.mp ⟨_, declares.enclosing⟩ outer mem)
      apart := declares.apart
      usings := fun path mem => isImport_iff.mp (declares.imports path mem)
      constructors := fun constructor mem => ConstructorEntry.exists_declares_iff.mp
        (exists_forall₂_iff.mp ⟨_, declares.constructors⟩ constructor mem)
      conversions := fun conversion mem => ConversionEntry.exists_declares_iff.mp
        (exists_forall₂_iff.mp ⟨_, declares.conversions⟩ conversion mem) }
  · intro wellFormed
    obtain ⟨kind, known⟩ := exists_ofKeyword?_kind_iff.mpr wellFormed.kind
    obtain ⟨accessibility, knownLevel⟩ :=
      exists_ofKeyword?_accessibility_iff.mpr wellFormed.accessibility
    obtain ⟨enclosing, outer⟩ := exists_forall₂_iff.mpr fun outer mem =>
      EnclosingEntry.exists_declares_iff.mpr (wellFormed.enclosing outer mem)
    obtain ⟨constructors, built⟩ := exists_forall₂_iff.mpr fun constructor mem =>
      ConstructorEntry.exists_declares_iff.mpr (wellFormed.constructors constructor mem)
    obtain ⟨conversions, converts⟩ := exists_forall₂_iff.mpr fun conversion mem =>
      ConversionEntry.exists_declares_iff.mpr (wellFormed.conversions conversion mem)
    exact ⟨{
      name := entry.name
      namespacePath := entry.namespace?
      enclosing, kind, accessibility
      typeParameters := entry.typeParameters
      isAbstract := entry.isAbstract
      isStatic := entry.isStatic
      isExtensible := entry.isPartial && entry.enclosing.all (·.isPartial)
      isOptedOut := entry.optOut
      usings := entry.usings
      constructors, conversions }, {
      declarable := wellFormed.name
      kind := known
      accessibility := knownLevel
      namespaceDeclarable := namespace_declarable_iff.mpr wellFormed.namespacePath
      parameters := wellFormed.typeParameters
      enclosing := outer
      apart := wellFormed.apart
      imports := fun path mem => isImport_iff.mpr (wellFormed.usings path mem)
      constructors := built
      conversions := converts
      name := rfl
      namespacePath := rfl
      typeParameters := rfl
      isAbstract := rfl
      isStatic := rfl
      isExtensible := rfl
      isOptedOut := rfl
      usings := rfl }⟩

end Entries

/-! ## The types that are declared -/

/-- The types of all parameters, of constructors and then of conversions. -/
def TypeDecl.parameterTypes (type : TypeDecl) : List HostType :=
  type.constructors.flatMap (fun constructor => constructor.parameters.map (·.type)) ++
    type.conversions.flatMap (·.parameters)

theorem TypeEntry.Declares.denotes_parameterTypes {scope : Scope} {entry : TypeEntry}
    {type : TypeDecl} (declares : entry.Declares scope type) :
    ∀ parameterType ∈ type.parameterTypes,
      ∃ text ∈ entry.texts, Denotes (entry.inner scope) text parameterType := by
  have texts := TypeEntry.forall_mem_texts.mp fun text (mem : text ∈ entry.texts) => mem
  refine List.forall_mem_append.mpr ⟨?constructors, ?conversions⟩
  case constructors =>
    intro parameterType mem
    obtain ⟨constructor, built, mem⟩ := List.mem_flatMap.mp mem
    obtain ⟨parameter, listed, rfl⟩ := List.mem_map.mp mem
    obtain ⟨written, isWritten, declares⟩ := exists_left_of_forall₂ declares.constructors built
    obtain ⟨source, isSource, denotes⟩ := exists_left_of_forall₂ declares.parameters listed
    exact ⟨source.type, texts.1 written isWritten source isSource, denotes.type⟩
  case conversions =>
    intro parameterType mem
    obtain ⟨conversion, converts, listed⟩ := List.mem_flatMap.mp mem
    obtain ⟨written, isWritten, declares⟩ := exists_left_of_forall₂ declares.conversions converts
    obtain ⟨text, isText, denotes⟩ := exists_left_of_forall₂ declares.parameters listed
    exact ⟨text, texts.2 written isWritten text isText, denotes⟩

theorem TypeEntry.Declares.properTuples {scope : Scope} {entry : TypeEntry} {type : TypeDecl}
    (declares : entry.Declares scope type) :
    ∀ parameterType ∈ type.parameterTypes, ∀ elements ∈ parameterType.tuples,
      ProperTuple elements := by
  intro parameterType isParameter
  obtain ⟨text, -, expr, read, resolved⟩ :=
    declares.denotes_parameterTypes parameterType isParameter
  exact Scope.properTuple_of_resolve read resolved

/-- A manifest is accepted just if it is well formed. Its entries then declare the types one by one,
with their constructors and conversions in order, and every tuple in these is a proper one. -/
theorem Manifest.accepted_iff_wellFormed (manifest : Manifest) :
    ((∃ types, manifest.declarations = .ok types) ↔ manifest.WellFormed) ∧
      ∀ types, manifest.declarations = .ok types →
        List.Forall₂ (TypeEntry.Declares manifest.scope) manifest.types types ∧
          ∀ type ∈ types, ∀ parameterType ∈ type.parameterTypes,
            ∀ elements ∈ parameterType.tuples, ProperTuple elements := by
  constructor
  · rw [exists_declarations_iff]
    exact forall₂_congr fun entry _ => TypeEntry.exists_declares_iff
  · intro types accepted
    have declared := declarations_eq_ok.mp accepted
    refine ⟨declared, ?_⟩
    intro type mem
    obtain ⟨entry, _, declares⟩ := exists_left_of_forall₂ declared mem
    exact declares.properTuples

/-- A generic type within another one, made from a pair that holds a pair. -/
def ledgerEntry : TypeEntry :=
  { name := "Ledger", namespacePath := some "Demo.@namespace", kind := "record struct"
    accessibility := "internal protected", typeParameters := ["T"]
    enclosing := [{ name := "Books", typeParameters := ["U"] }]
    usings := ["System", "static System.Math"]
    constructors := [
      { parameters := [{ name := "@params", type := "(T left, (U, int) right)" },
          { name := "count", type := "int" }] }]
    conversions := [{ kind := "explicit", parameters := ["string?"] }] }

theorem Manifest.accepted_iff_wellFormed_ledger :
    let manifest : Manifest := { types := [ledgerEntry] }
    let doubled : Manifest := { types := [{ ledgerEntry with typeParameters := ["T", "T"] }] }
    manifest.WellFormed ∧ ¬ doubled.WellFormed ∧
      ∃ type, manifest.declarations = .ok [type] ∧
        (type.parameterTypes.flatMap (·.tuples)).map List.length = [2, 2] ∧
        ∀ parameterType ∈ type.parameterTypes, ∀ elements ∈ parameterType.tuples,
          ProperTuple elements := by
  intro manifest doubled
  obtain ⟨types, accepted, seen⟩ := toOption_map_eq_some.mp
    (by decide +kernel : manifest.declarations.toOption.map (List.map fun type =>
      (type.parameterTypes.flatMap (·.tuples)).map List.length) = some [[2, 2]])
  have rejected : doubled.declarations.toOption.isNone = true := by decide +kernel
  obtain ⟨type, rfl, lengths⟩ := List.map_eq_singleton_iff.mp seen
  refine ⟨(accepted_iff_wellFormed manifest).1.mp ⟨_, accepted⟩, ?_, type, accepted, lengths, ?_⟩
  · intro wellFormed
    obtain ⟨types, accepted⟩ := (accepted_iff_wellFormed doubled).1.mpr wellFormed
    rw [accepted] at rejected
    cases rejected
  · exact ((accepted_iff_wellFormed manifest).2 _ accepted).2 type List.mem_cons_self

end ConversionSynthesis
