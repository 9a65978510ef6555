import Mathlib.Data.List.Nodup
import ConversionSynthesis.Proofs.Manifest.WellFormed
import ConversionSynthesis.Proofs.Operand.Forwarding

/-! # Names within a signature

The parameters of a constructor have different names, and so have the elements of a tuple that are
labelled. Elements without a label take the name of their position, which is checked against no
label: a signature repeats a name just where a label is the name of such a position.
-/

namespace ConversionSynthesis

open TupleElement

/-! ## Tuples -/

/-- An element is labelled with the name of a position, and the element there has no label. -/
def ShadowsPosition (elements : List TupleElement) : Prop :=
  ∃ (i j : Nat) (labelled plain : TupleElement), elements[i]? = some labelled ∧
    elements[j]? = some plain ∧ labelled.label = some (positionalLabel j) ∧ plain.label = none

variable {elements : List TupleElement}

theorem labelAt_of_label {index : Nat} {element : TupleElement} {label : String}
    (found : elements[index]? = some element) (labelled : element.label = some label) :
    labelAt elements index = label := by
  rw [labelAt, found, Option.bind_some, labelled, Option.getD_some]

theorem labelAt_of_plain {index : Nat} {element : TupleElement}
    (found : elements[index]? = some element) (plain : element.label = none) :
    labelAt elements index = positionalLabel index := by
  rw [labelAt, found, Option.bind_some, plain, Option.getD_none]

theorem names_tupleSignature (elements : List TupleElement) :
    (Constructor.tupleSignature elements).map (·.name) =
      (List.range elements.length).map (labelAt elements) := by
  apply List.ext_getElem
  · simp [Constructor.tupleSignature]
  · intro i _ _
    simp [Constructor.tupleSignature]

/-- A label stands at one position only. -/
theorem eq_of_label (distinct : (elements.filterMap (·.label)).Nodup) {i j : Nat}
    {a b : TupleElement} {label : String} (atI : elements[i]? = some a)
    (atJ : elements[j]? = some b) (labelled : a.label = some label)
    (labelled' : b.label = some label) : i = j := by
  have apart := List.pairwise_iff_getElem.mp (List.pairwise_filterMap.mp distinct)
  obtain ⟨boundI, rfl⟩ := List.getElem?_eq_some_iff.mp atI
  obtain ⟨boundJ, rfl⟩ := List.getElem?_eq_some_iff.mp atJ
  rcases Nat.lt_trichotomy i j with less | same | more
  · exact absurd rfl (apart i j boundI boundJ less label labelled label labelled')
  · exact same
  · exact absurd rfl (apart j i boundJ boundI more label labelled' label labelled)

/-- Two positions have one name only if a label is the name of a position without one. -/
theorem eq_or_shadowsPosition (distinct : (elements.filterMap (·.label)).Nodup) {i j : Nat}
    (boundI : i < elements.length) (boundJ : j < elements.length)
    (same : labelAt elements i = labelAt elements j) : i = j ∨ ShadowsPosition elements := by
  have atI := List.getElem?_eq_getElem boundI
  have atJ := List.getElem?_eq_getElem boundJ
  cases labelI : elements[i].label with
  | some label =>
      rw [labelAt_of_label atI labelI] at same
      cases labelJ : elements[j].label with
      | some label' =>
          rw [labelAt_of_label atJ labelJ] at same
          subst same
          exact .inl (eq_of_label distinct atI atJ labelI labelJ)
      | none =>
          rw [labelAt_of_plain atJ labelJ] at same
          exact .inr ⟨i, j, _, _, atI, atJ, same ▸ labelI, labelJ⟩
  | none =>
      rw [labelAt_of_plain atI labelI] at same
      cases labelJ : elements[j].label with
      | some label =>
          rw [labelAt_of_label atJ labelJ] at same
          exact .inr ⟨j, i, _, _, atJ, atI, same ▸ labelJ, labelI⟩
      | none =>
          rw [labelAt_of_plain atJ labelJ] at same
          exact .inl (positionalLabel_injective same)

theorem nodup_names_tupleSignature (distinct : (elements.filterMap (·.label)).Nodup) :
    ((Constructor.tupleSignature elements).map (·.name)).Nodup ↔ ¬ ShadowsPosition elements := by
  rw [names_tupleSignature, List.nodup_map_iff_inj_on List.nodup_range]
  constructor
  · rintro injective ⟨i, j, labelled, plain, atI, atJ, label, none⟩
    have same : labelAt elements i = labelAt elements j := by
      rw [labelAt_of_label atI label, labelAt_of_plain atJ none]
    have boundI := (List.getElem?_eq_some_iff.mp atI).1
    have boundJ := (List.getElem?_eq_some_iff.mp atJ).1
    cases injective i (List.mem_range.mpr boundI) j (List.mem_range.mpr boundJ) same
    cases atI.symm.trans atJ
    cases label.symm.trans none
  · intro apart i memI j memJ same
    have either := eq_or_shadowsPosition distinct (List.mem_range.mp memI) (List.mem_range.mp memJ)
    exact (either same).resolve_right apart

/-! ## Constructors -/

/-- The signature of a constructor has no name twice, unless it is read off a tuple with a label
that is the name of a position without one. -/
theorem nodup_names_signature {constructor : Constructor} (tuples : TupleSupport)
    (distinct : (constructor.parameters.map (·.name)).Nodup)
    (proper : ∀ elements, constructor.soleTuple? = some elements → ProperTuple elements) :
    ((constructor.signature tuples).map (·.name)).Nodup ↔
      ¬ ∃ elements, tuples = .native ∧ constructor.soleTuple? = some elements ∧
        ShadowsPosition elements := by
  have parameters : ((constructor.parameters.map fun parameter =>
      (⟨parameter.name, parameter.type⟩ : SignatureElement)).map (·.name)).Nodup := by
    rwa [List.map_map]
  unfold Constructor.signature
  cases tuples with
  | absent => simpa using parameters
  | native =>
      cases sole : constructor.soleTuple? with
      | none => simpa using parameters
      | some elements =>
          have inTuple := nodup_names_tupleSignature (proper elements sole).distinct
          simpa using inTuple

theorem mem_tuples_of_soleTuple? {constructor : Constructor} {elements : List TupleElement}
    (sole : constructor.soleTuple? = some elements) :
    ∃ parameter ∈ constructor.parameters, elements ∈ parameter.type.tuples := by
  unfold Constructor.soleTuple? at sole
  split at sole
  · next only listed =>
      refine ⟨only, by rw [listed]; exact List.mem_singleton_self _, ?_⟩
      cases type : only.type with
      | named identity display capability =>
          rw [type] at sole
          cases sole
      | tuple within =>
          rw [type] at sole
          cases sole
          exact List.mem_cons_self
  · cases sole

/-! ## Accepted manifests -/

/-- In a manifest that is accepted, the signature of a constructor has no name twice, unless it is
read off a tuple in which a label is the name of a position without one. -/
theorem Manifest.signature_names {manifest : Manifest} {types : List TypeDecl}
    (accepted : manifest.declarations = .ok types) :
    ∀ type ∈ types, ∀ constructor ∈ type.constructors, ∀ tuples : TupleSupport,
      ((constructor.signature tuples).map (·.name)).Nodup ↔
        ¬ ∃ elements, tuples = .native ∧ constructor.soleTuple? = some elements ∧
          ShadowsPosition elements := by
  intro type mem constructor built tuples
  obtain ⟨entry, -, declares⟩ := exists_left_of_forall₂ (declarations_eq_ok.mp accepted) mem
  obtain ⟨source, -, declared⟩ := exists_left_of_forall₂ declares.constructors built
  refine nodup_names_signature tuples declared.distinct fun elements sole => ?_
  obtain ⟨parameter, listed, inside⟩ := mem_tuples_of_soleTuple? sole
  have isParameter : parameter.type ∈ type.parameterTypes :=
    List.mem_append_left _ (List.mem_flatMap.mpr ⟨constructor, built, List.mem_map_of_mem listed⟩)
  exact declares.properTuples parameter.type isParameter elements inside

/-- A type made from a tuple, all but the last element labelled, and from two values. -/
def markerEntry : TypeEntry :=
  { name := "Marker"
    constructors := [
      { parameters := [{ name := "parts", type := "(int Item1, string @class, bool)" }] },
      { parameters := [{ name := "Item2", type := "int" }, { name := "other", type := "int" }] }] }

theorem Manifest.signature_names_marker :
    ∃ type, Manifest.declarations { types := [markerEntry] } = .ok [type] ∧
      type.constructors.map (fun constructor => (constructor.signature .native).map (·.name)) =
        [["Item1", "class", "Item3"], ["Item2", "other"]] ∧
      ∀ constructor ∈ type.constructors, ∀ tuples : TupleSupport,
        ((constructor.signature tuples).map (·.name)).Nodup := by
  let labels (constructor : Constructor) : Option (List (Option String)) :=
    constructor.soleTuple?.map (List.map (·.label))
  let names (constructor : Constructor) : List String :=
    (constructor.signature .native).map (·.name)
  obtain ⟨types, accepted, seen⟩ := toOption_map_eq_some.mp
    (by decide +kernel : (Manifest.declarations { types := [markerEntry] }).toOption.map
      (List.map fun type => (type.constructors.map names, type.constructors.map labels)) =
        some [([["Item1", "class", "Item3"], ["Item2", "other"]],
          [some [some "Item1", some "class", none], none])])
  obtain ⟨type, rfl, shape⟩ := List.map_eq_singleton_iff.mp seen
  obtain ⟨named, labelled⟩ := Prod.mk.inj shape
  refine ⟨type, accepted, named, ?_⟩
  intro constructor built tuples
  refine (signature_names accepted type List.mem_cons_self constructor built tuples).mpr ?_
  -- Only the third element has no label, and `Item3` labels none of them.
  rintro ⟨elements, -, sole, i, j, first, second, atI, atJ, label, plain⟩
  have mem : labels constructor ∈ type.constructors.map labels := List.mem_map_of_mem built
  have known : elements.map (·.label) = [some "Item1", some "class", none] := by
    rw [labelled, List.mem_cons, List.mem_singleton] at mem
    simpa [labels, sole] using mem
  have third : j = 2 := by
    have unlabelled : (elements.map (·.label))[j]? = some none := by
      rw [List.getElem?_map, atJ, Option.map_some, plain]
    rw [known] at unlabelled
    rcases j with _ | _ | _ | j
    · cases unlabelled
    · cases unlabelled
    · rfl
    · cases unlabelled
  have item : some "Item3" ∈ elements.map (·.label) := by
    subst third
    exact List.mem_of_getElem? (by rw [List.getElem?_map, atI, Option.map_some, label]; rfl)
  rw [known] at item
  revert item
  decide

/-- A pair with the first element labelled by the name of the second, which has no label. -/
theorem Manifest.signature_names_repeated :
    let entry : TypeEntry := { name := "Pair", constructors := [
      { parameters := [{ name := "parts", type := "(int Item2, int)" }] }] }
    ∃ type, Manifest.declarations { types := [entry] } = .ok [type] ∧
      ∃ constructor ∈ type.constructors,
        (constructor.signature .native).map (·.name) = ["Item2", "Item2"] := by
  intro entry
  obtain ⟨types, accepted, seen⟩ := toOption_map_eq_some.mp
    (by decide +kernel : (Manifest.declarations { types := [entry] }).toOption.map
      (List.map fun type => type.constructors.map fun constructor =>
        (constructor.signature .native).map (·.name)) = some [[["Item2", "Item2"]]])
  obtain ⟨type, rfl, names⟩ := List.map_eq_singleton_iff.mp seen
  obtain ⟨constructor, listed, repeated⟩ := List.map_eq_singleton_iff.mp names
  exact ⟨type, accepted, constructor, by simp [listed], repeated⟩

end ConversionSynthesis
