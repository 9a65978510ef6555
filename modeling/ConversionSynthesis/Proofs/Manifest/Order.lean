import Mathlib.Data.List.Perm.Basic
import ConversionSynthesis.Proofs.Manifest.Rewriting
import ConversionSynthesis.Proofs.Naming.Lookup
import ConversionSynthesis.Proofs.Naming.Resolving

/-! # The order of a manifest

All types of a manifest are at hand for each of them, so a manifest is accepted in every order of
its types if it is in one. What a type comes to is the same in every order as long as no two types
contest one path; otherwise the last of them takes it.
-/

namespace ConversionSynthesis

section Scopes

variable {scope scope' : Scope}

/-- A text denotes something in every scope or in none. -/
theorem carries_any : Carries (· = ·) (fun _ _ => True) scope scope' := by
  rintro text _ type rfl ⟨expr, read, resolved⟩
  obtain ⟨r, found, rfl⟩ := map_eq_ok.mp resolved
  obtain ⟨r', found'⟩ :=
    exists_ok_of_outcome_eq (Scope.outcome_resolveType scope scope' expr) found
  exact ⟨r'.type, ⟨expr, read, map_eq_ok.mpr ⟨r', found', rfl⟩⟩, trivial⟩

/-- A text denotes the same type where names do. -/
theorem carries_same (names : scope.nameType = scope'.nameType) :
    Carries (· = ·) (· = ·) scope scope' := by
  rintro text _ type rfl ⟨expr, read, resolved⟩
  refine ⟨type, ⟨expr, read, ?_⟩, rfl⟩
  rw [Scope.resolve, ← Scope.resolveType_congr names]
  exact resolved

end Scopes

namespace Manifest

variable {manifest : Manifest} {order : List TypeEntry}

/-- The manifest with its types in another order, or with other types. -/
def withTypes (manifest : Manifest) (types : List TypeEntry) : Manifest :=
  { manifest with types }

theorem declarations_eq_map {declare : TypeEntry → TypeDecl}
    (declares : ∀ entry ∈ manifest.types, entry.Declares manifest.scope (declare entry)) :
    manifest.declarations = .ok (manifest.types.map declare) := by
  rw [declarations_eq_ok, List.forall₂_map_right_iff, List.forall₂_same]
  exact declares

/-- Without contested paths, names denote the same types in every order. -/
theorem nameType_inner_withTypes (uncontested : manifest.scope.registry.Uncontested)
    (perm : order.Perm manifest.types) (entry : TypeEntry) :
    (entry.inner manifest.scope).nameType =
      (entry.inner (manifest.withTypes order).scope).nameType :=
  Scope.nameType_congr
    (fun _ segments _ => (Registry.lookup?_perm uncontested (perm.map _) segments).symm) rfl rfl

theorem declares_withTypes (uncontested : manifest.scope.registry.Uncontested)
    (perm : order.Perm manifest.types) {entry : TypeEntry} {type : TypeDecl}
    (declares : entry.Declares manifest.scope type) :
    entry.Declares (manifest.withTypes order).scope type := by
  obtain ⟨type', declares', like⟩ := declares.carry
    (carries_same (nameType_inner_withTypes uncontested perm entry)) (.refl entry)
  rw [like.eq]
  exact declares'

/-- An accepted manifest is accepted in every order of its types. If no two types contest a path,
every entry declares in every order what it declares in this one. -/
theorem declarations_permute {types : List TypeDecl}
    (accepted : manifest.declarations = .ok types) (perm : order.Perm manifest.types) :
    (∃ types', (manifest.withTypes order).declarations = .ok types') ∧
      (manifest.scope.registry.Uncontested → ∃ declare : TypeEntry → TypeDecl,
        manifest.declarations = .ok (manifest.types.map declare) ∧
          (manifest.withTypes order).declarations = .ok (order.map declare)) := by
  have declared := exists_declarations_iff.mp ⟨types, accepted⟩
  constructor
  · refine exists_declarations_iff.mpr fun entry mem => ?_
    obtain ⟨type, declares⟩ := declared entry (perm.mem_iff.mp mem)
    obtain ⟨type', declares', _⟩ := declares.carry carries_any (.refl entry)
    exact ⟨type', declares'⟩
  · intro uncontested
    have : Nonempty TypeDecl := ⟨{ name := "" }⟩
    choose! declare declares using declared
    refine ⟨declare, declarations_eq_map declares, declarations_eq_map fun entry mem => ?_⟩
    exact declares_withTypes uncontested perm (declares entry (perm.mem_iff.mp mem))

/-! ## Two types with one path -/

/-- A type inside another one with these type parameters. -/
def innerType (outerParameters : List String) : TypeEntry :=
  { name := "Inner", enclosing := [{ name := "Outer", typeParameters := outerParameters }] }

/-- A type with a constructor from `Outer.Inner`. -/
def innerHolder : TypeEntry :=
  { name := "Holder"
    constructors := [{ parameters := [{ name := "inner", type := "Outer.Inner" }] }] }

theorem declarations_permute_holder :
    ∃ declare : TypeEntry → TypeDecl,
      Manifest.declarations { types := [innerHolder, innerType []] } =
          .ok [declare innerHolder, declare (innerType [])] ∧
        Manifest.declarations { types := [innerType [], innerHolder] } =
          .ok [declare (innerType []), declare innerHolder] := by
  have uncontested :
      (Manifest.scope { types := [innerHolder, innerType []] }).registry.Uncontested := by
    unfold Registry.Uncontested
    decide +kernel
  obtain ⟨types, accepted⟩ :
      ∃ types, Manifest.declarations { types := [innerHolder, innerType []] } = .ok types :=
    ⟨_, by with_unfolding_all rfl⟩
  exact (declarations_permute accepted (List.Perm.swap innerHolder (innerType []) [])).2 uncontested

/-- The identities of the parameters of constructors, type by type. -/
def parameterIdentities (types : List TypeDecl) : List (List (Option String)) :=
  types.map fun type => type.constructors.flatMap fun constructor =>
    constructor.parameters.map (·.type.identity?)

/-- `Outer.Inner` and `Outer<T>.Inner` contest one path: what the holder takes is the one declared
last. -/
theorem declarations_contested :
    let manifest : Manifest := { types := [innerType ["T"], innerType [], innerHolder] }
    let order := [innerType [], innerType ["T"], innerHolder]
    order.Perm manifest.types ∧
      manifest.declarations.map (·.map TypeDecl.identity) =
        .ok ["Outer<T>.Inner", "Outer.Inner", "Holder"] ∧
      manifest.declarations.map parameterIdentities = .ok [[], [], [some "Outer.Inner"]] ∧
      (manifest.withTypes order).declarations.map parameterIdentities =
        .ok [[], [], [some "Outer<T>.Inner"]] := by
  refine ⟨.swap _ _ _, ?_, ?_, ?_⟩ <;> with_unfolding_all rfl

end Manifest

end ConversionSynthesis
