import Mathlib.Data.List.Forall2

/-! # Lists side by side

Two lists whose items are related one by one. What is the same for related items is the same for the
lists: what is found in them, at which position, and what is left of them.
-/

namespace ConversionSynthesis

variable {α β γ : Type} {related : α → β → Prop} {xs : List α} {ys : List β}

theorem exists_left_of_forall₂ (pairs : List.Forall₂ related xs ys) {y : β} (mem : y ∈ ys) :
    ∃ x ∈ xs, related x y := by
  induction pairs with
  | nil => cases mem
  | cons first rest ih =>
      cases mem with
      | head => exact ⟨_, List.mem_cons_self, first⟩
      | tail _ mem =>
          obtain ⟨x, x_mem, later⟩ := ih mem
          exact ⟨x, List.mem_cons_of_mem _ x_mem, later⟩

theorem exists_getElem?_of_forall₂ (pairs : List.Forall₂ related xs ys) {index : Nat} {x : α}
    (found : xs[index]? = some x) : ∃ y, ys[index]? = some y ∧ related x y := by
  induction pairs generalizing index with
  | nil => cases found
  | cons first _ ih =>
      cases index with
      | zero =>
          cases found
          exact ⟨_, rfl, first⟩
      | succ index => exact ih found

/-- Every item has a partner just if there is a list beside the whole one. -/
theorem exists_forall₂_iff : (∃ ys, List.Forall₂ related xs ys) ↔ ∀ x ∈ xs, ∃ y, related x y := by
  induction xs with
  | nil => simp
  | cons x xs ih =>
      rw [List.forall_mem_cons, ← ih]
      constructor
      · rintro ⟨_, _ | ⟨first, rest⟩⟩
        exact ⟨⟨_, first⟩, _, rest⟩
      · rintro ⟨⟨y, first⟩, ys, rest⟩
        exact ⟨y :: ys, .cons first rest⟩

theorem forall₂_with_mem (pairs : List.Forall₂ related xs ys) :
    List.Forall₂ (fun x y => x ∈ xs ∧ y ∈ ys ∧ related x y) xs ys :=
  List.forall₂_iff_zip.mpr ⟨pairs.length_eq, fun mem =>
    ⟨(List.of_mem_zip mem).1, (List.of_mem_zip mem).2, List.forall₂_zip pairs mem⟩⟩

theorem map_eq_of_forall₂ (pairs : List.Forall₂ related xs ys) {f : α → γ} {g : β → γ}
    (each : ∀ x y, related x y → g y = f x) : ys.map g = xs.map f := by
  induction pairs with
  | nil => rfl
  | cons first _ ih => rw [List.map_cons, List.map_cons, each _ _ first, ih]

theorem eq_of_forall₂ {same : α → α → Prop} {xs ys : List α} (each : ∀ x y, same x y → x = y)
    (pairs : List.Forall₂ same xs ys) : xs = ys :=
  List.forall₂_eq_eq_eq ▸ pairs.imp each

theorem exists_append_of_forall₂ {xs' : List α} (pairs : List.Forall₂ related (xs ++ xs') ys) :
    ∃ zs zs', ys = zs ++ zs' ∧ List.Forall₂ related xs zs ∧ List.Forall₂ related xs' zs' := by
  induction xs generalizing ys with
  | nil => exact ⟨[], ys, rfl, .nil, pairs⟩
  | cons x xs ih =>
      rw [List.cons_append, List.forall₂_cons_left_iff] at pairs
      obtain ⟨y, others, first, rest, rfl⟩ := pairs
      obtain ⟨zs, zs', rfl, front, back⟩ := ih rest
      exact ⟨y :: zs, zs', rfl, .cons first front, back⟩

/-- Items have the same partners under two relations that agree on them. -/
theorem eq_of_forall₂_of_agree {related' : α → β → Prop} {zs : List β}
    (pairs : List.Forall₂ related xs ys) (pairs' : List.Forall₂ related' xs zs)
    (agree : ∀ x ∈ xs, ∀ y z, related x y → related' x z → y = z) : ys = zs := by
  induction pairs generalizing zs with
  | nil =>
      cases pairs'
      rfl
  | cons first _ ih =>
      cases pairs' with
      | cons first' rest' =>
          rw [List.forall_mem_cons] at agree
          rw [agree.1 _ _ first first', ih rest' agree.2]

theorem findIdx?_eq_of_forall₂ (pairs : List.Forall₂ related xs ys) {p : α → Bool} {q : β → Bool}
    (each : ∀ x y, related x y → q y = p x) : ys.findIdx? q = xs.findIdx? p := by
  have same : ys.map q = xs.map p := map_eq_of_forall₂ pairs each
  have left : (ys.map q).findIdx? id = ys.findIdx? q := List.findIdx?_map
  have right : (xs.map p).findIdx? id = xs.findIdx? p := List.findIdx?_map
  rw [← left, ← right, same]

theorem map_find?_eq_of_forall₂ (pairs : List.Forall₂ related xs ys) {p : α → Bool} {q : β → Bool}
    {f : α → γ} {g : β → γ} (each : ∀ x y, related x y → q y = p x ∧ g y = f x) :
    (ys.find? q).map g = (xs.find? p).map f := by
  induction pairs with
  | nil => rfl
  | cons first _ ih =>
      obtain ⟨property, value⟩ := each _ _ first
      rw [List.find?_cons, List.find?_cons, property]
      split
      · rw [Option.map_some, Option.map_some, value]
      · exact ih

/-- A search passes over items that it would not end at. -/
theorem find?_eq_of_forall₂ {xs ys : List α} {test : α → Bool}
    (pairs : List.Forall₂ (fun x y => y = x ∨ test x = false ∧ test y = false) xs ys) :
    ys.find? test = xs.find? test := by
  induction pairs with
  | nil => rfl
  | cons first _ ih =>
      rcases first with rfl | ⟨skips, skips'⟩
      · rw [List.find?_cons, List.find?_cons, ih]
      · rw [List.find?_cons, List.find?_cons, skips, skips', ih]

theorem forall₂_zip_right (pairs : List.Forall₂ related xs ys) (zs : List γ) :
    List.Forall₂ (fun x y => related x.1 y.1 ∧ y.2 = x.2) (xs.zip zs) (ys.zip zs) := by
  induction pairs generalizing zs with
  | nil => exact .nil
  | cons first _ ih =>
      cases zs with
      | nil => exact .nil
      | cons z zs => exact .cons ⟨first, rfl⟩ (ih zs)

theorem forall₂_zipIdx (pairs : List.Forall₂ related xs ys) (start : Nat) :
    List.Forall₂ (fun x y => related x.1 y.1 ∧ y.2 = x.2) (xs.zipIdx start) (ys.zipIdx start) := by
  rw [List.zipIdx_eq_zip_range', List.zipIdx_eq_zip_range', ← pairs.length_eq]
  exact forall₂_zip_right pairs _

/-- A list beside the same list with another item in the place of one. -/
theorem forall₂_zipIdx_set {place : Nat} {x : α} (found : xs[place]? = some x) (y : α) :
    List.Forall₂ (fun entry entry' => entry'.2 = entry.2 ∧
        (entry'.1 = entry.1 ∧ entry.2 ≠ place ∨ entry.1 = x ∧ entry'.1 = y ∧ entry.2 = place))
      xs.zipIdx (xs.set place y).zipIdx := by
  refine List.forall₂_iff_get.mpr ⟨by simp, fun index bound bound' => ?_⟩
  obtain ⟨_, same⟩ := List.getElem?_eq_some_iff.mp found
  by_cases here : place = index
  · subst here
    simp [same]
  · simp [here, Ne.symm here]

theorem forall₂_filter (pairs : List.Forall₂ related xs ys) {p : α → Bool} {q : β → Bool}
    (each : ∀ x y, related x y → q y = p x) :
    List.Forall₂ related (xs.filter p) (ys.filter q) := by
  induction pairs with
  | nil => exact .nil
  | cons first _ ih =>
      rw [List.filter_cons, List.filter_cons, each _ _ first]
      split
      · exact .cons first ih
      · exact ih

/-- If what items declare is carried over one by one, it is carried over in a row. -/
theorem forall₂_carry {α' β' : Type} {rewrites : α → α' → Prop} {declares : α → β → Prop}
    {declares' : α' → β' → Prop} {alike : β → β' → Prop} {xs : List α} {xs' : List α'}
    {ys : List β} (rewritten : List.Forall₂ rewrites xs xs')
    (declared : List.Forall₂ declares xs ys)
    (carries : ∀ x x' y, rewrites x x' → declares x y → ∃ y', declares' x' y' ∧ alike y y') :
    ∃ ys', List.Forall₂ declares' xs' ys' ∧ List.Forall₂ alike ys ys' := by
  induction rewritten generalizing ys with
  | nil =>
      cases declared
      exact ⟨[], .nil, .nil⟩
  | cons first rest ih =>
      cases declared with
      | cons firstDeclared restDeclared =>
          obtain ⟨y', declared', like⟩ := carries _ _ _ first firstDeclared
          obtain ⟨ys', declareds', likes⟩ := ih restDeclared
          exact ⟨y' :: ys', .cons declared' declareds', .cons like likes⟩

end ConversionSynthesis
