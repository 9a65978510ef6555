import ConversionSynthesis.Naming.Scope

/-! # Looking names up

Declared types are found by path and number of type parameters, where the last one declared wins, or
by a simple name that only one of them has. The order of declaration shows only if two types contest
one path.
-/

namespace ConversionSynthesis

namespace Registry

variable {registry order : Registry} {declared : DeclaredType} {path : String} {arity : Nat}

/-- No two declared types are found under one path and one number of type parameters. -/
def Uncontested (registry : Registry) : Prop :=
  ∀ a ∈ registry, ∀ b ∈ registry, a.path = b.path → a.arity = b.arity → a = b

theorem of_byPath?_eq_some (found : registry.byPath? path arity = some declared) :
    declared ∈ registry ∧ declared.path = path ∧ declared.arity = arity := by
  have mem := List.mem_of_find?_eq_some found
  have key := List.find?_some found
  rw [Bool.and_eq_true, beq_iff_eq, beq_iff_eq] at key
  exact ⟨List.mem_reverse.mp mem, key⟩

theorem of_bySimpleName?_eq_some {name : String}
    (found : registry.bySimpleName? name arity = some declared) :
    declared ∈ registry ∧ declared.name = name ∧ declared.arity = arity := by
  unfold bySimpleName? at found
  split at found
  · next only alone =>
      cases found
      have kept : declared ∈ registry.filter fun d => d.name == name && d.arity == arity := by
        rw [alone]
        exact List.mem_singleton_self declared
      simpa using kept
  · cases found

theorem exists_byPath?_of_mem (mem : declared ∈ registry) :
    ∃ last, registry.byPath? declared.path declared.arity = some last := by
  rw [← Option.isSome_iff_exists, byPath?, List.find?_isSome]
  exact ⟨declared, List.mem_reverse.mpr mem, by simp⟩

theorem byPath?_eq_some_iff (uncontested : registry.Uncontested) :
    registry.byPath? path arity = some declared ↔
      declared ∈ registry ∧ declared.path = path ∧ declared.arity = arity := by
  refine ⟨of_byPath?_eq_some, ?_⟩
  rintro ⟨mem, rfl, rfl⟩
  obtain ⟨last, found⟩ := exists_byPath?_of_mem mem
  obtain ⟨last_mem, same_path, same_arity⟩ := of_byPath?_eq_some found
  rw [found, uncontested last last_mem declared mem same_path same_arity]

theorem Uncontested.perm (uncontested : registry.Uncontested) (perm : order.Perm registry) :
    order.Uncontested :=
  fun a a_mem b b_mem => uncontested a (perm.mem_iff.mp a_mem) b (perm.mem_iff.mp b_mem)

theorem byPath?_perm (uncontested : registry.Uncontested) (perm : order.Perm registry) :
    order.byPath? path arity = registry.byPath? path arity := by
  refine Option.ext fun declared => ?_
  rw [byPath?_eq_some_iff (uncontested.perm perm), byPath?_eq_some_iff uncontested, perm.mem_iff]

theorem bySimpleName?_perm (perm : order.Perm registry) (name : String) :
    order.bySimpleName? name arity = registry.bySimpleName? name arity := by
  have filtered := perm.filter fun declared => declared.name == name && declared.arity == arity
  unfold bySimpleName?
  split
  · next only alone =>
      rw [alone] at filtered
      rw [← List.singleton_perm.mp filtered]
  · next several =>
      split
      · next only alone =>
          rw [alone] at filtered
          exact absurd (List.perm_singleton.mp filtered) (several only)
      · rfl

theorem lookup?_perm (uncontested : registry.Uncontested) (perm : order.Perm registry)
    (segments : Nat) :
    order.lookup? path segments arity = registry.lookup? path segments arity := by
  rw [lookup?, lookup?, byPath?_perm uncontested perm, bySimpleName?_perm perm]

/-- One more declared type is irrelevant to names that are neither its path nor its simple name. -/
theorem lookup?_append_cons {before after : Registry} {added : DeclaredType} {segments : Nat}
    (otherPath : added.path ≠ path) (otherName : segments = 1 → added.name ≠ path) :
    lookup? (before ++ added :: after) path segments arity =
      lookup? (before ++ after) path segments arity := by
  have missed : byPath? (before ++ added :: after) path arity =
      byPath? (before ++ after) path arity := by
    simp [byPath?, List.find?_append, otherPath]
  rw [lookup?, lookup?, missed]
  by_cases single : segments = 1
  · have unnamed : bySimpleName? (before ++ added :: after) path arity =
        bySimpleName? (before ++ after) path arity := by
      have different := otherName single
      simp [bySimpleName?, different]
    rw [unnamed]
  · rw [if_neg single, if_neg single]

end Registry

end ConversionSynthesis
