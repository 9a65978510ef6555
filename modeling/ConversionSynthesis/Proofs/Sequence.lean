import Mathlib.Data.List.Forall2

/-! # Steps that may fail

When a step made of others succeeds, and with what. The outcome of a step leaves its value out, so
that steps can be compared by whether they fail, and how. Steps that go through states are run one
after the other. A checked step may have no result at all.
-/

namespace ConversionSynthesis

variable {α β ε : Type}

theorem bind_eq_ok {first : Except ε α} {next : α → Except ε β} {y : β} :
    (first >>= next) = .ok y ↔ ∃ x, first = .ok x ∧ next x = .ok y := by
  cases first with
  | error e => exact iff_of_false nofun nofun
  | ok x => exact ⟨fun h => ⟨x, rfl, h⟩, fun ⟨_, same, h⟩ => by cases same; exact h⟩

theorem map_eq_ok {result : Except ε α} {f : α → β} {y : β} :
    result.map f = .ok y ↔ ∃ x, result = .ok x ∧ f x = y := by
  cases result <;> simp [Except.map]

theorem bind_eq_error {first : Except ε α} {next : α → Except ε β} {error : ε} :
    (first >>= next) = .error error ↔
      first = .error error ∨ ∃ x, first = .ok x ∧ next x = .error error := by
  cases first with
  | error e =>
      constructor
      · intro failed
        cases failed
        exact .inl rfl
      · rintro (same | ⟨_, impossible, _⟩)
        · cases same
          rfl
        · cases impossible
  | ok x =>
      refine ⟨fun h => .inr ⟨x, rfl, h⟩, ?_⟩
      rintro (impossible | ⟨_, same, h⟩)
      · cases impossible
      · cases same
        exact h

theorem map_eq_error {result : Except ε α} {f : α → β} {error : ε} :
    result.map f = .error error ↔ result = .error error := by
  cases result <;> simp [Except.map]

/-- Maps agree on a step if they do on the value it may give. -/
theorem map_congr_ok {result : Except ε α} {f g : α → β}
    (same : ∀ x, result = .ok x → f x = g x) : result.map f = result.map g := by
  cases result with
  | error e => rfl
  | ok x => exact congrArg Except.ok (same x rfl)

theorem toOption_eq_some {result : Except ε α} {x : α} :
    result.toOption = some x ↔ result = .ok x := by
  cases result <;> simp [Except.toOption]

theorem toOption_map_eq_some {result : Except ε α} {f : α → β} {y : β} :
    result.toOption.map f = some y ↔ ∃ x, result = .ok x ∧ f x = y := by
  cases result <;> simp [Except.toOption]

theorem pure_eq_ok {x y : α} : (pure x : Except ε α) = .ok y ↔ x = y := by
  rw [show (pure x : Except ε α) = .ok x from rfl, Except.ok.injEq]

theorem forIn_eq_ok {xs : List α} {check : α → Except ε Unit} {u : PUnit} :
    (forIn xs PUnit.unit fun x _ => do
        check x
        pure (ForInStep.yield PUnit.unit)) = .ok u ↔ ∀ x ∈ xs, check x = .ok () := by
  induction xs with
  | nil => simp [pure_eq_ok]
  | cons x xs ih =>
      rw [List.forIn_cons, bind_eq_ok, List.forall_mem_cons, ← ih]
      constructor
      · rintro ⟨_, first, rest⟩
        obtain ⟨_, checked, stepped⟩ := bind_eq_ok.mp first
        cases stepped
        exact ⟨checked, rest⟩
      · rintro ⟨checked, rest⟩
        exact ⟨.yield PUnit.unit, bind_eq_ok.mpr ⟨(), checked, rfl⟩, rest⟩

theorem mapM_zipIdx_eq_ok {xs : List α} {ys : List β} {check : α × Nat → Except ε β}
    {declares : α → β → Prop} (start : Nat)
    (each : ∀ x i y, check (x, i) = .ok y ↔ declares x y) :
    (xs.zipIdx start).mapM check = .ok ys ↔ List.Forall₂ declares xs ys := by
  induction xs generalizing start ys with
  | nil =>
      rw [List.zipIdx_nil, List.mapM_nil, pure_eq_ok, List.forall₂_nil_left_iff]
      exact eq_comm
  | cons x xs ih =>
      rw [List.zipIdx_cons, List.mapM_cons, bind_eq_ok]
      constructor
      · rintro ⟨y, checked, rest⟩
        obtain ⟨ys, others, built⟩ := bind_eq_ok.mp rest
        cases built
        exact .cons ((each x start y).mp checked) ((ih (start + 1)).mp others)
      · intro declared
        cases declared with
        | cons first others =>
            exact ⟨_, (each x start _).mpr first,
              bind_eq_ok.mpr ⟨_, (ih (start + 1)).mpr others, rfl⟩⟩

/-! ## Outcomes -/

/-- The outcome of a step without its value: success, or the error. -/
def outcome (result : Except ε α) : Except ε Unit :=
  result.map fun _ => ()

theorem outcome_map (f : α → β) (result : Except ε α) :
    outcome (result.map f) = outcome result := by
  cases result <;> rfl

theorem exists_ok_of_outcome_eq {result : Except ε α} {result' : Except ε β} {x : α}
    (same : outcome result = outcome result') (succeeds : result = .ok x) :
    ∃ y, result' = .ok y := by
  rw [succeeds] at same
  cases result' with
  | error e => cases same
  | ok y => exact ⟨y, rfl⟩

/-- Steps with one outcome go on alike, if what follows does. -/
theorem outcome_bind {γ δ : Type} {first : Except ε α} {first' : Except ε β}
    {next : α → Except ε γ} {next' : β → Except ε δ} (same : outcome first = outcome first')
    (rest : ∀ x y, outcome (next x) = outcome (next' y)) :
    outcome (first >>= next) = outcome (first' >>= next') := by
  cases first with
  | error e =>
      cases first' with
      | error e' => cases same; rfl
      | ok y => cases same
  | ok x =>
      cases first' with
      | error e' => cases same
      | ok y => exact rest x y

/-! ## Steps through states -/

section

variable {σ : Type}

theorem bind_apply {first : StateM σ α} {start next : σ} {value : α}
    (ran : first start = (value, next)) (further : α → StateM σ β) :
    (first >>= further) start = further value next := by
  simp only [bind, StateT.bind, ran]

theorem mapM_cons_apply (step : α → StateM σ β) (first : α) (rest : List α) (start : σ) :
    (first :: rest).mapM step start =
      ((step first start).1 :: (rest.mapM step (step first start).2).1,
        (rest.mapM step (step first start).2).2) := by
  rw [List.mapM_cons]
  rfl

theorem length_mapM (step : α → StateM σ β) (xs : List α) (start : σ) :
    (xs.mapM step start).1.length = xs.length := by
  induction xs generalizing start with
  | nil => rfl
  | cons x xs ih => rw [mapM_cons_apply, List.length_cons, List.length_cons, ih]

end

/-! ## Checked steps -/

section

variable {next : α → ExceptT ε Option β}

theorem lift_bind_of_some {first : Option α} {x : α} (ran : first = some x) :
    ((liftM first : ExceptT ε Option α) >>= next) = next x := by
  rw [ran]
  rfl

/-- Checked steps go on as unchecked ones do, if each of them has the same result. -/
theorem run_bind_of_some {first : ExceptT ε Option α} {result : Except ε α}
    {further : α → Except ε β} (ran : first.run = some result)
    (same : ∀ x, result = .ok x → (next x).run = some (further x)) :
    (first >>= next).run = some (result >>= further) := by
  rw [ExceptT.run_bind, ran]
  cases result with
  | error e => rfl
  | ok x => exact same x rfl

theorem run_map_of_some {first : ExceptT ε Option α} {result : Except ε α} {f : α → β}
    (ran : first.run = some result)
    (same : ∀ x, result = .ok x → (next x).run = some (.ok (f x))) :
    (first >>= next).run = some (result.map f) := by
  rw [ExceptT.run_bind, ran]
  cases result with
  | error e => rfl
  | ok x => exact same x rfl

end

end ConversionSynthesis
