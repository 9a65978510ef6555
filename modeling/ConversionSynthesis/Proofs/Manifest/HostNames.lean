import ConversionSynthesis.Proofs.Manifest.Unrelated
import ConversionSynthesis.Proofs.Manifest.WellFormed
import ConversionSynthesis.Proofs.Naming.Verbatim

/-! # Clashes as the host sees them

The host takes two names for one if they are the same without their marks. Parameters and the labels
of tuples are compared that way, so that no two of them clash in what is accepted. Type parameters
and the names of types around a type are compared as they are written, so that they clash just where
one name is written with the mark and without it.
-/

namespace ConversionSynthesis

open Host

/-! ## Names without their marks -/

theorem bare_bare {name : String} (identifier : isIdentifier name = true) :
    bare (bare name) = bare name :=
  bare_eq_self_of_continues (isTokenName_of_isIdentifier identifier).chars_bare.2

/-- Identifiers are one name to the host if they are equal but for a mark on one of them. -/
theorem bare_eq_bare_iff {name name' : String} (identifier : isIdentifier name = true)
    (identifier' : isIdentifier name' = true) :
    bare name = bare name' ↔ name = name' ∨ name' = "@" ++ name ∨ name = "@" ++ name' := by
  constructor
  · intro same
    rcases eq_bare_or_eq_mark name with plain | marked <;>
      rcases eq_bare_or_eq_mark name' with plain' | marked'
    · exact .inl (by rw [plain, plain', same])
    · exact .inr (.inl (by rw [marked', ← same, ← plain]))
    · exact .inr (.inr (by rw [marked, same, ← plain']))
    · exact .inl (by rw [marked, marked', same])
  · rintro (rfl | rfl | rfl)
    · rfl
    · have stripped := bare_bare identifier'
      rwa [bare_mark] at stripped ⊢
    · have stripped := bare_bare identifier
      rw [bare_mark] at stripped ⊢
      exact stripped.symm

/-- Distinct names are distinct to the host unless one of them is listed with and without mark. -/
theorem nodup_map_bare_iff {names : List String}
    (identifiers : ∀ name ∈ names, isIdentifier name = true) (distinct : names.Nodup) :
    (names.map bare).Nodup ↔ ∀ name ∈ names, "@" ++ name ∉ names := by
  rw [List.nodup_map_iff_inj_on distinct]
  constructor
  · intro injective name mem marked
    have same : bare name = bare ("@" ++ name) :=
      (bare_eq_bare_iff (identifiers _ mem) (identifiers _ marked)).mpr (.inr (.inl rfl))
    have lengths := congrArg String.length (injective name mem _ marked same)
    simp at lengths
  · intro once name mem name' mem' same
    rcases (bare_eq_bare_iff (identifiers _ mem) (identifiers _ mem')).mp same with
      same | rfl | rfl
    · exact same
    · exact absurd mem' (once name mem)
    · exact absurd mem (once name' mem')

theorem isChain_map_bare_iff {names : List String}
    (identifiers : ∀ name ∈ names, isIdentifier name = true) (apart : names.IsChain (· ≠ ·)) :
    (names.map bare).IsChain (· ≠ ·) ↔
      names.IsChain fun outer inner => inner ≠ "@" ++ outer ∧ outer ≠ "@" ++ inner := by
  induction names with
  | nil => simp
  | cons outer rest ih =>
      cases rest with
      | nil => simp
      | cons inner rest =>
          rw [List.forall_mem_cons] at identifiers
          rw [List.isChain_cons_cons] at apart
          have first := bare_eq_bare_iff identifiers.1 (identifiers.2 inner List.mem_cons_self)
          have others := ih identifiers.2 apart.2
          rw [List.map_cons] at others
          rw [List.map_cons, List.map_cons, List.isChain_cons_cons, List.isChain_cons_cons, others,
            ne_eq, first, not_or, not_or]
          exact and_congr_left fun _ => and_iff_right apart.1

/-! ## The names of an entry -/

namespace TypeEntry

/-- To the host, the parameters of a constructor have different names, and so have the elements of
a tuple at any depth in a type that is written. -/
structure MembersApart (entry : TypeEntry) : Prop where
  parameters : ∀ constructor ∈ entry.constructors,
    (constructor.parameters.map fun parameter => bare parameter.name).Nodup
  labels : ∀ text ∈ entry.texts, ∀ expr, TypeExpr.parse text = .ok expr →
    ∀ elements span, .tuple elements span ∈ expr.nodes → (Scope.bareLabels elements).Nodup

/-- To the host, no two names clash: neither those of members, nor the type parameters of a type,
nor the names of a type and of the one right around it. -/
structure NamesApart (entry : TypeEntry) : Prop extends MembersApart entry where
  typeParameters : ∀ level ∈ entry.address.nesting, (level.2.map bare).Nodup
  containers : (entry.address.nesting.map fun level => bare level.1).IsChain (· ≠ ·)

/-- No two type parameters of a type, and no two types of which one is right within the other, have
names that differ in the mark only. -/
structure SpelledOnce (entry : TypeEntry) : Prop where
  typeParameters : ∀ level ∈ entry.address.nesting, ∀ name ∈ level.2, "@" ++ name ∉ level.2
  containers : (entry.address.nesting.map (·.1)).IsChain fun outer inner =>
    inner ≠ "@" ++ outer ∧ outer ≠ "@" ++ inner

theorem names_nesting (entry : TypeEntry) :
    entry.address.nesting.map (·.1) = entry.enclosing.map (·.name) ++ [entry.name] := by
  simp [Address.nesting, address, Function.comp_def]

namespace WellFormed

variable {scope : Scope} {entry : TypeEntry}

theorem nesting (wellFormed : entry.WellFormed scope) :
    ∀ level ∈ entry.address.nesting,
      isIdentifier level.1 = true ∧ DeclarableParameters level.2 := by
  refine Address.forall_mem_nesting.mpr ⟨List.forall_mem_map.mpr fun outer mem => ?_,
    isIdentifier_of_isDeclarable wellFormed.name, wellFormed.typeParameters⟩
  have around := wellFormed.enclosing outer mem
  exact ⟨isIdentifier_of_isDeclarable around.name, around.typeParameters⟩

theorem exists_denotes_of_mem_texts (wellFormed : entry.WellFormed scope) :
    ∀ text ∈ entry.texts, ∃ type, Denotes (entry.inner scope) text type := by
  refine forall_mem_texts.mpr ⟨?_, ?_⟩
  · intro constructor built parameter listed
    exact ((wellFormed.constructors constructor built).parameters parameter listed).type
  · intro conversion converts
    exact (wellFormed.conversions conversion converts).parameters

theorem membersApart (wellFormed : entry.WellFormed scope) : entry.MembersApart where
  parameters constructor built := (wellFormed.constructors constructor built).distinct
  labels := by
    intro text mem expr read elements span listed
    obtain ⟨type, expr', read', resolved⟩ := wellFormed.exists_denotes_of_mem_texts text mem
    cases read.symm.trans read'
    obtain ⟨r, succeeds, -⟩ := map_eq_ok.mp resolved
    exact Scope.nodup_bareLabels_of_resolveType succeeds listed

theorem namesApart_iff (wellFormed : entry.WellFormed scope) :
    entry.NamesApart ↔ entry.SpelledOnce := by
  have typeParameters : (∀ level ∈ entry.address.nesting, (level.2.map bare).Nodup) ↔
      ∀ level ∈ entry.address.nesting, ∀ name ∈ level.2, "@" ++ name ∉ level.2 := by
    refine forall₂_congr fun level mem => ?_
    have declarable := (wellFormed.nesting level mem).2
    exact nodup_map_bare_iff
      (fun name listed => isIdentifier_of_isDeclarable (declarable.declarable name listed))
      declarable.distinct
  have names : ∀ name ∈ entry.address.nesting.map (·.1), isIdentifier name = true :=
    List.forall_mem_map.mpr fun level mem => (wellFormed.nesting level mem).1
  have containers : (entry.address.nesting.map fun level => bare level.1).IsChain (· ≠ ·) ↔
      (entry.address.nesting.map (·.1)).IsChain fun outer inner =>
        inner ≠ "@" ++ outer ∧ outer ≠ "@" ++ inner := by
    rw [← isChain_map_bare_iff names (by rw [names_nesting]; exact wellFormed.apart), List.map_map]
    rfl
  constructor
  · intro apart
    exact ⟨typeParameters.mp apart.typeParameters, containers.mp apart.containers⟩
  · intro once
    exact ⟨wellFormed.membersApart, typeParameters.mpr once.typeParameters,
      containers.mpr once.containers⟩

end WellFormed

end TypeEntry

/-! ## Accepted manifests -/

/-- In a manifest that is accepted, no two parameters of a constructor and no two elements of a
tuple have one name to the host. Names clash in it just where two type parameters, or a type and the
one right around it, have names that differ in the mark only. -/
theorem Manifest.names_apart {manifest : Manifest} {types : List TypeDecl}
    (accepted : manifest.declarations = .ok types) :
    ∀ entry ∈ manifest.types, entry.MembersApart ∧ (entry.NamesApart ↔ entry.SpelledOnce) := by
  intro entry mem
  have wellFormed : entry.WellFormed manifest.scope :=
    TypeEntry.exists_declares_iff.mp (exists_declarations_iff.mp ⟨types, accepted⟩ entry mem)
  exact ⟨wellFormed.membersApart, wellFormed.namesApart_iff⟩

theorem Manifest.names_apart_ledger :
    (∃ types, Manifest.declarations { types := [ledgerEntry] } = .ok types) ∧
      ledgerEntry.NamesApart := by
  obtain ⟨types, accepted⟩ :
      ∃ types, Manifest.declarations { types := [ledgerEntry] } = .ok types :=
    ⟨_, by with_unfolding_all rfl⟩
  have once : ledgerEntry.SpelledOnce := by
    have nesting : ledgerEntry.address.nesting = [("Books", ["U"]), ("Ledger", ["T"])] := rfl
    constructor
    · rw [nesting]
      decide
    · rw [nesting]
      decide
  exact ⟨⟨types, accepted⟩, (names_apart accepted ledgerEntry (by simp)).2.mpr once⟩

/-- Type parameters `T` and `@T`, and a type `@Outer` right within a type `Outer`, are accepted. -/
theorem Manifest.names_clash :
    let doubled : TypeEntry := { name := "Box", typeParameters := ["T", "@T"] }
    let inner : TypeEntry := { name := "@Outer", enclosing := [{ name := "Outer" }] }
    (∃ types, Manifest.declarations { types := [doubled, inner] } = .ok types) ∧
      ¬ doubled.NamesApart ∧ ¬ inner.NamesApart := by
  refine ⟨⟨_, by with_unfolding_all rfl⟩, ?_, ?_⟩
  · intro apart
    have distinct := apart.typeParameters ("Box", ["T", "@T"]) (Address.own_mem_nesting _)
    revert distinct
    decide
  · intro apart
    have differ := apart.containers
    revert differ
    decide

end ConversionSynthesis
