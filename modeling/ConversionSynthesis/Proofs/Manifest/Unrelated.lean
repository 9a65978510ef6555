import ConversionSynthesis.Proofs.Batch.Clashes
import ConversionSynthesis.Proofs.Manifest.Order
import ConversionSynthesis.Proofs.Naming.Levels
import ConversionSynthesis.Proofs.TypeExpr.Inside

/-! # Types that nothing refers to

A declared type is found under its path or its simple name, and both end in that name. So one more
type in a manifest is out of reach of every dotted name that ends in another one. If all names in a
manifest do, its types come to the same with and without the added one.
-/

namespace ConversionSynthesis

open Host

/-! ## The end of a path -/

/-- A path ends in the name of a type, the verbatim mark of either aside. -/
def EndsIn (name : String) (path : List String) : Prop :=
  path.getLast?.map bare = some (bare name)

/-- The path is not empty and its last name stems from a token. -/
def EndsInToken (path : List String) : Prop :=
  ∃ before last, path = before ++ [last] ∧ IsTokenName last

theorem endsInToken_of_parse {text : String} {expr : TypeExpr}
    (read : TypeExpr.parse text = .ok expr) : ∀ path ∈ expr.paths, EndsInToken path := by
  intro path mem
  obtain ⟨node, listed, isPath⟩ := List.mem_filterMap.mp mem
  have formed := TypeExpr.formed_of_parse read node listed
  cases node with
  | named isGlobal segments span =>
      cases isPath
      obtain ⟨some, names⟩ := formed
      have split := List.dropLast_concat_getLast some
      refine ⟨segments.dropLast.map (·.name), (segments.getLast some).name, ?_, ?_⟩
      · have mapped := congrArg (List.map Segment.name) split
        rw [List.map_append, List.map_singleton] at mapped
        exact mapped.symm
      · exact names _ (List.getLast_mem some)
  | tuple | nullable | array => cases isPath

/-- A name without a mark is bare. -/
theorem bare_eq_self_of_continues {name : String}
    (continues : ∀ c ∈ name.toList, continuesName c = true) : bare name = name := by
  have plain : name.toList.head? ≠ some '@' := by
    intro marked
    have mark : continuesName '@' = false := by decide
    rw [continues '@' (List.mem_of_mem_head? marked)] at mark
    cases mark
  rw [bare, bareChars_of_plain plain, String.ofList_toList]

/-- A path that leads to a declared name ends in it. -/
theorem endsIn_of_eq {added : String} {outer path : List String}
    (identifier : isIdentifier added = true) (token : EndsInToken path)
    (same : ".".intercalate (path.map bare) = ".".intercalate (outer ++ [added])) :
    EndsIn added path := by
  obtain ⟨before, last, rfl, isToken⟩ := token
  have chars := isToken.chars_bare.2
  have noDot : '.' ∉ (bare last).toList := by
    intro mem
    have dot : continuesName '.' = false := by decide
    rw [chars '.' mem] at dot
    cases dot
  have noDotAdded : '.' ∉ added.toList :=
    not_mem_of_isIdentifier identifier (by decide) (by decide)
  rw [List.map_append, List.map_singleton] at same
  have last_eq : bare last = added := last_eq_of_intercalate_eq rfl noDot noDotAdded same
  have added_bare : bare added = added := last_eq ▸ bare_eq_self_of_continues chars
  rw [EndsIn, List.getLast?_concat, Option.map_some, last_eq, added_bare]

/-! ## One more declared type -/

/-- Names that do not end in the added type's denote the same with it and without it. -/
theorem agreeOn_append_cons {added : TypeEntry} (identifier : isIdentifier added.name = true)
    (before after : Registry) (symbols : SymbolTable) (typeParameters : List String) :
    Scope.AgreeOn (fun path => EndsInToken path ∧ ¬ EndsIn added.name path)
      { registry := before ++ after, symbols, typeParameters }
      { registry := before ++ added.declared :: after, symbols, typeParameters } := by
  intro isGlobal segments known
  obtain ⟨token, elsewhere⟩ := known
  have names : segments.map (·.name) = (segments.map (·.written)).map bare := by
    rw [List.map_map]
    rfl
  apply Scope.nameType_congr_at
  · intro arity
    rw [names]
    symm
    apply Registry.lookup?_append_cons
    · intro same
      exact elsewhere (endsIn_of_eq identifier token same.symm)
    · intro single same
      have alone : ".".intercalate ([] ++ [added.name]) = added.name := by simp
      have path : ".".intercalate ((segments.map (·.written)).map bare) =
          ".".intercalate ([] ++ [added.name]) := by
        rw [alone]
        exact same.symm
      exact elsewhere (endsIn_of_eq identifier token path)
  · rfl
  · rfl

/-- No dotted name in a text ends in the name. -/
def AvoidsName (name text : String) : Prop :=
  ∀ expr, TypeExpr.parse text = .ok expr → ∀ path ∈ expr.paths, ¬ EndsIn name path

namespace Manifest

variable {manifest : Manifest} {before after : List TypeEntry} {added : TypeEntry}

/-- A text that avoids the name of the added type denotes the same with that type and without it. -/
theorem carries_append_cons (identifier : isIdentifier added.name = true)
    (split : manifest.types = before ++ after) (entry : TypeEntry) :
    Carries (fun text text' => text' = text ∧ AvoidsName added.name text) (· = ·)
      (entry.inner manifest.scope)
      (entry.inner (manifest.withTypes (before ++ added :: after)).scope) := by
  rintro text _ type ⟨rfl, avoids⟩ ⟨expr, read, resolved⟩
  refine ⟨type, ⟨expr, read, ?_⟩, rfl⟩
  have agree := agreeOn_append_cons identifier (before.map (·.declared)) (after.map (·.declared))
    manifest.symbols entry.typeParametersInScope
  have within : ∀ path ∈ expr.paths, EndsInToken path ∧ ¬ EndsIn added.name path :=
    fun path mem => ⟨endsInToken_of_parse read path mem, avoids expr read path mem⟩
  have same := Scope.resolveType_congr_on agree within
  rw [← List.map_append, ← split, ← List.map_cons, ← List.map_append] at same
  rw [← resolved, Scope.resolve, Scope.resolve]
  exact congrArg (Except.map _) same.symm

/-- An entry that avoids the name of the added type declares the same with that type and without
it. -/
theorem declares_append_cons (identifier : isIdentifier added.name = true)
    (split : manifest.types = before ++ after) {entry : TypeEntry} {type type' : TypeDecl}
    (unrelated : ∀ text ∈ entry.texts, AvoidsName added.name text)
    (declares : entry.Declares manifest.scope type)
    (declares' : entry.Declares (manifest.withTypes (before ++ added :: after)).scope type') :
    type = type' := by
  have stays := TypeEntry.Rewritten.of_texts
    (fun text text' => text' = text ∧ AvoidsName added.name text)
    fun text mem => ⟨rfl, unrelated text mem⟩
  obtain ⟨same, declaresSame, like⟩ :=
    declares.carry (carries_append_cons identifier split entry) stays
  rw [like.eq]
  exact declaresSame.unique declares'

/-- One more type that no dotted name in the manifest can refer to leaves the other types as they
are. So the reports on them are the same, and if both batches give units, those of the manifest are
the ones with the added type but for its own unit, in the same order. -/
theorem declarations_unrelated {types types' : List TypeDecl}
    (split : manifest.types = before ++ after)
    (accepted : manifest.declarations = .ok types)
    (accepted' : (manifest.withTypes (before ++ added :: after)).declarations = .ok types')
    (unrelated : ∀ entry ∈ manifest.types, ∀ text ∈ entry.texts, AvoidsName added.name text) :
    ∃ typesBefore type typesAfter,
      types = typesBefore ++ typesAfter ∧ types' = typesBefore ++ type :: typesAfter ∧
      typesBefore.length = before.length ∧
      (∀ tuples name?,
        explainAll types tuples name? =
          explainAll typesBefore tuples name? ++ explainAll typesAfter tuples name? ∧
        explainAll types' tuples name? =
          explainAll typesBefore tuples name? ++ explainAll [type] tuples name? ++
            explainAll typesAfter tuples name?) ∧
      ∀ settings isCancelledAt isCancelledAt' units units',
        generateAll settings isCancelledAt types = .ok units →
        generateAll settings isCancelledAt' types' = .ok units' →
        ∃ unitsBefore unitsAfter, units = unitsBefore ++ unitsAfter ∧
          units' = unitsBefore ++ (type.unit? settings.tuples settings.options).toList ++
            unitsAfter := by
  have declared := declarations_eq_ok.mp accepted
  have declared' := declarations_eq_ok.mp accepted'
  rw [split] at declared unrelated
  rw [List.forall_mem_append] at unrelated
  obtain ⟨typesBefore, typesAfter, rfl, front, back⟩ := exists_append_of_forall₂ declared
  obtain ⟨front', rest, rfl, declaredFront, declaredRest⟩ := exists_append_of_forall₂ declared'
  cases declaredRest with
  | @cons _ type _ back' declaresAdded declaredBack =>
      have identifier : isIdentifier added.name = true :=
        (Bool.and_eq_true_iff.mp declaresAdded.declarable).1
      have sameFront : typesBefore = front' :=
        eq_of_forall₂_of_agree front declaredFront fun entry mem _ _ =>
          declares_append_cons identifier split (unrelated.1 entry mem)
      have sameBack : typesAfter = back' :=
        eq_of_forall₂_of_agree back declaredBack fun entry mem _ _ =>
          declares_append_cons identifier split (unrelated.2 entry mem)
      subst sameFront sameBack
      refine ⟨typesBefore, type, typesAfter, rfl, rfl, front.length_eq.symm, ?reports, ?units⟩
      case reports =>
        intro tuples name?
        simp only [explainAll, ← List.map_append, ← List.filter_append, List.append_assoc,
          List.singleton_append, and_self]
      case units =>
        intro settings isCancelledAt isCancelledAt' units units' generated generated'
        have given := (generateAll_eq_ok.mp generated).2.1
        have given' := (generateAll_eq_ok.mp generated').2.1
        rw [List.filterMap_append] at given
        rw [List.filterMap_append, List.filterMap_cons] at given'
        refine ⟨_, _, given, ?_⟩
        rw [given']
        cases type.unit? settings.tuples settings.options <;> simp

/-- A type with a constructor from `Demo.Part`. -/
def partHolder : TypeEntry :=
  { name := "Holder"
    constructors := [{ parameters := [{ name := "part", type := "Demo.Part" }] }] }

/-- A type in the namespace `Demo`. -/
def demoType (name : String) : TypeEntry :=
  { name, namespacePath := some "Demo" }

theorem declarations_unrelated_spare :
    let manifest : Manifest := { types := [partHolder, demoType "Part"] }
    (∀ entry ∈ manifest.types, ∀ text ∈ entry.texts, AvoidsName "Spare" text) ∧
      ∃ holder spare part, manifest.declarations = .ok [holder, part] ∧
        (manifest.withTypes [partHolder, demoType "Spare", demoType "Part"]).declarations =
          .ok [holder, spare, part] := by
  intro manifest
  have read : (TypeExpr.parse "Demo.Part").toOption.map TypeExpr.paths =
      some [["Demo", "Part"]] := by
    decide +kernel
  have unrelated : ∀ entry ∈ manifest.types, ∀ text ∈ entry.texts, AvoidsName "Spare" text := by
    intro entry listed text mem
    have only : text = "Demo.Part" := by
      rcases List.mem_pair.mp listed with rfl | rfl
      · simpa [partHolder, TypeEntry.texts] using mem
      · cases mem
    subst only
    intro expr parsed path isPath
    obtain ⟨expr', parsed', paths⟩ := toOption_map_eq_some.mp read
    cases parsed.symm.trans parsed'
    rw [paths, List.mem_singleton] at isPath
    subst isPath
    unfold EndsIn
    decide
  obtain ⟨types, accepted⟩ : ∃ types, manifest.declarations = .ok types :=
    ⟨_, by with_unfolding_all rfl⟩
  obtain ⟨types', accepted'⟩ : ∃ types',
      (manifest.withTypes ([partHolder] ++ demoType "Spare" :: [demoType "Part"])).declarations =
        .ok types' :=
    ⟨_, by with_unfolding_all rfl⟩
  obtain ⟨front, spare, back, rfl, rfl, length, -⟩ :=
    declarations_unrelated rfl accepted accepted' unrelated
  have lengths := (declarations_eq_ok.mp accepted).length_eq
  obtain ⟨holder, rfl⟩ := List.length_eq_one_iff.mp length
  obtain ⟨part, rfl⟩ := List.length_eq_one_iff.mp (Nat.succ.inj lengths.symm)
  exact ⟨unrelated, holder, spare, part, accepted, accepted'⟩

end Manifest

end ConversionSynthesis
