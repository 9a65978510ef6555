import ConversionSynthesis.Candidate
import ConversionSynthesis.Proofs.Signature.Sameness

/-! # The first candidate wins

The pass over the candidates looks only at the survivors before each of them. Here it is compared
with a rule that speaks of all candidates and knows no state: candidates covered by a written
conversion go first, and of those that are left the first of each class of rivals stays.
-/

namespace ConversionSynthesis

/-- Whether a written conversion has the signature of a candidate. -/
def Conversion.covers (tuples : TupleSupport) (conversion : Conversion) (candidate : Candidate) :
    Bool :=
  tuples.sameSignature conversion.parameters candidate.signature.types

/-- Whether two candidates have one signature. -/
def Candidate.rivals (tuples : TupleSupport) (a b : Candidate) : Bool :=
  tuples.sameSignature a.signature.types b.signature.types

/-- The first phase of the rule: the candidates that no written conversion covers. -/
def uncovered (tuples : TupleSupport) (written : List Conversion) (candidates : List Candidate) :
    List Candidate :=
  candidates.filter fun candidate => !written.any (·.covers tuples candidate)

/-- The second phase of the rule: the first candidate of each class of rivals. -/
def firstOfEach (tuples : TupleSupport) : List Candidate → List Candidate
  | [] => []
  | candidate :: rest =>
      candidate :: (firstOfEach tuples rest).filter fun later => !candidate.rivals tuples later

/-- The entry at `index` has a property, and none before it has. -/
def IsFirst {α : Type} (property : α → Bool) (entries : List α) (index : Nat) : Prop :=
  (∃ entry, entries[index]? = some entry ∧ property entry = true) ∧
    ∀ earlier < index, ∀ entry, entries[earlier]? = some entry → property entry = false

theorem findIdx?_eq_some_iff_isFirst {α : Type} (property : α → Bool) (entries : List α)
    (index : Nat) : entries.findIdx? property = some index ↔ IsFirst property entries index := by
  rw [List.findIdx?_eq_some_iff_getElem]
  constructor
  · rintro ⟨bound, holds, before⟩
    refine ⟨⟨entries[index], List.getElem?_eq_getElem bound, holds⟩, ?_⟩
    intro earlier lt entry found
    obtain ⟨_, rfl⟩ := List.getElem?_eq_some_iff.mp found
    simpa using before earlier lt
  · rintro ⟨⟨entry, found, holds⟩, before⟩
    obtain ⟨bound, rfl⟩ := List.getElem?_eq_some_iff.mp found
    refine ⟨bound, holds, ?_⟩
    intro earlier lt
    simpa using before earlier lt _ (List.getElem?_eq_getElem (Nat.lt_trans lt bound))

namespace Candidate

variable {tuples : TupleSupport} {a b : Candidate}

theorem rivals_refl (tuples : TupleSupport) (a : Candidate) : a.rivals tuples a = true :=
  TupleSupport.sameSignature_refl tuples _

theorem rivals_comm (tuples : TupleSupport) (a b : Candidate) :
    a.rivals tuples b = b.rivals tuples a :=
  TupleSupport.sameSignature_comm tuples _ _

/-- Rivals have the same rivals. -/
theorem rivals_congr (h : a.rivals tuples b = true) (c : Candidate) :
    c.rivals tuples a = c.rivals tuples b :=
  TupleSupport.sameSignature_congr h _

theorem covers_congr (h : a.rivals tuples b = true) (conversion : Conversion) :
    conversion.covers tuples a = conversion.covers tuples b :=
  TupleSupport.sameSignature_congr h _

end Candidate

/-! ## The rule without state -/

section Rule

variable {tuples : TupleSupport} {written : List Conversion} {candidates : List Candidate}

theorem mem_uncovered {x : Candidate} :
    x ∈ uncovered tuples written candidates ↔
      x ∈ candidates ∧ ∀ c ∈ written, c.covers tuples x = false := by
  simp [uncovered]

theorem uncovered_cons_of_free {x : Candidate} (free : ∀ c ∈ written, c.covers tuples x = false) :
    uncovered tuples written (x :: candidates) = x :: uncovered tuples written candidates :=
  List.filter_cons_of_pos (by simpa using free)

theorem uncovered_cons_of_covered {x : Candidate}
    (covered : ¬ ∀ c ∈ written, c.covers tuples x = false) :
    uncovered tuples written (x :: candidates) = uncovered tuples written candidates :=
  List.filter_cons_of_neg (by simpa using covered)

theorem firstOfEach_sublist (tuples : TupleSupport) (candidates : List Candidate) :
    (firstOfEach tuples candidates).Sublist candidates := by
  induction candidates with
  | nil => exact List.Sublist.refl _
  | cons candidate rest ih => exact (List.filter_sublist.trans ih).cons_cons candidate

theorem pairwise_firstOfEach (tuples : TupleSupport) (candidates : List Candidate) :
    (firstOfEach tuples candidates).Pairwise fun a b => a.rivals tuples b = false := by
  induction candidates with
  | nil => exact List.Pairwise.nil
  | cons candidate rest ih =>
      refine List.pairwise_cons.mpr ⟨?_, ih.filter _⟩
      intro later mem
      simpa using (List.mem_filter.mp mem).2

/-- Every candidate is represented by exactly one rival among the first ones. -/
theorem countP_rivals_firstOfEach {x : Candidate} (mem : x ∈ candidates) :
    (firstOfEach tuples candidates).countP (·.rivals tuples x) = 1 := by
  induction candidates with
  | nil => simp at mem
  | cons candidate rest ih =>
      simp only [firstOfEach, List.countP_cons, List.countP_filter]
      by_cases h : candidate.rivals tuples x = true
      · have none : (firstOfEach tuples rest).countP
            (fun later => later.rivals tuples x && !candidate.rivals tuples later) = 0 := by
          rw [List.countP_eq_zero]
          intro later _ both
          simp only [Bool.and_eq_true, Bool.not_eq_true'] at both
          have rival : candidate.rivals tuples later = true := by
            rw [Candidate.rivals_comm, Candidate.rivals_congr h]
            exact both.1
          rw [rival] at both
          exact Bool.false_ne_true both.2.symm
        rw [none, h]
        rfl
      · have rest_mem : x ∈ rest := by
          rcases List.mem_cons.mp mem with rfl | mem
          · exact absurd (Candidate.rivals_refl tuples x) h
          · exact mem
        rw [← ih rest_mem, if_neg h, Nat.add_zero]
        apply List.countP_congr
        intro later _
        simp only [Bool.and_eq_true, Bool.not_eq_true', and_iff_left_iff_imp]
        intro rival
        rw [Candidate.rivals_congr rival]
        exact Bool.eq_false_iff.mpr h

end Rule

/-! ## The pass against the rule -/

namespace Verdict

variable {tuples : TupleSupport} {written : List Conversion}

/-- The fate of a signature when all signatures before it count, surviving or not. -/
def amongAll (tuples : TupleSupport) (written : List Conversion) (earlier : List Signature)
    (signature : Signature) : Verdict :=
  match written.findIdx? fun c => tuples.sameSignature c.parameters signature.types with
  | some conversion => collides conversion
  | none =>
      match earlier.findIdx? fun s => tuples.sameSignature s.types signature.types with
      | some position => duplicates position
      | none => survives

/-- The survivors `kept` stand for all the signatures `earlier`: whatever no conversion covers
finds the same first match among either. -/
def Stands (tuples : TupleSupport) (written : List Conversion) (earlier : List Signature)
    (kept : List (Nat × Signature)) : Prop :=
  ∀ signature : Signature,
    (∀ c ∈ written, tuples.sameSignature c.parameters signature.types = false) →
    (kept.find? fun s => tuples.sameSignature s.2.types signature.types).map (·.1) =
      earlier.findIdx? fun s => tuples.sameSignature s.types signature.types

theorem stands_nil : Stands tuples written [] [] := by
  intro signature _
  rfl

theorem ofSignature_eq_amongAll {earlier : List Signature} {kept : List (Nat × Signature)}
    (stands : Stands tuples written earlier kept) (signature : Signature) :
    ofSignature tuples written kept signature = amongAll tuples written earlier signature := by
  unfold ofSignature amongAll
  cases found : written.findIdx? fun c => tuples.sameSignature c.parameters signature.types with
  | some conversion => rfl
  | none =>
      have clear := stands signature (by simpa using List.findIdx?_eq_none_iff.mp found)
      rw [← clear]
      cases kept.find? fun s => tuples.sameSignature s.2.types signature.types <;> rfl

/-- A signature that does not survive adds no first match: what it covers is covered already. -/
theorem findIdx?_append_of_not_survives {earlier : List Signature} {signature other : Signature}
    (dropped : amongAll tuples written earlier signature ≠ survives)
    (free : ∀ c ∈ written, tuples.sameSignature c.parameters other.types = false) :
    (earlier ++ [signature]).findIdx? (fun s => tuples.sameSignature s.types other.types) =
      earlier.findIdx? fun s => tuples.sameSignature s.types other.types := by
  rw [List.findIdx?_append]
  by_cases same : tuples.sameSignature signature.types other.types = true
  · have found : (earlier.findIdx? fun s =>
        tuples.sameSignature s.types signature.types).isSome := by
      have clear : (written.findIdx? fun c =>
          tuples.sameSignature c.parameters signature.types) = none := by
        rw [List.findIdx?_eq_none_iff]
        intro c mem
        rw [TupleSupport.sameSignature_congr same]
        exact free c mem
      unfold amongAll at dropped
      rw [clear] at dropped
      cases matched : earlier.findIdx? fun s => tuples.sameSignature s.types signature.types with
      | none => simp [matched] at dropped
      | some position => rfl
    have alike : (fun s : Signature => tuples.sameSignature s.types signature.types) =
        fun s => tuples.sameSignature s.types other.types := by
      funext s
      exact TupleSupport.sameSignature_congr same s.types
    rw [alike] at found
    obtain ⟨position, matched⟩ := Option.isSome_iff_exists.mp found
    rw [matched]
    rfl
  · simp [same]

/-- One step of the pass keeps the survivors standing for all. -/
theorem Stands.step {earlier : List Signature} {kept : List (Nat × Signature)}
    (stands : Stands tuples written earlier kept) (signature : Signature) :
    Stands tuples written (earlier ++ [signature])
      (if ofSignature tuples written kept signature = survives
        then kept ++ [(earlier.length, signature)] else kept) := by
  intro other free
  rw [ofSignature_eq_amongAll stands]
  split
  · rw [List.find?_append, List.findIdx?_append, ← stands other free]
    cases kept.find? fun s => tuples.sameSignature s.2.types other.types with
    | some first => rfl
    | none =>
        cases tuples.sameSignature signature.types other.types <;> simp_all
  · rename_i dropped
    rw [stands other free, findIdx?_append_of_not_survives dropped free]

/-- A whole pass judges every signature as if all the earlier ones counted. -/
theorem getElem?_passFrom {earlier : List Signature} {kept : List (Nat × Signature)}
    (stands : Stands tuples written earlier kept) (signatures : List Signature) (index : Nat) :
    (passFrom tuples written kept earlier.length signatures)[index]? =
      signatures[index]?.map (amongAll tuples written (earlier ++ signatures.take index)) := by
  induction signatures generalizing earlier kept index with
  | nil => rfl
  | cons signature rest ih =>
      cases index with
      | zero => simp [passFrom, ofSignature_eq_amongAll stands]
      | succ index =>
          have later := ih (stands.step signature) index
          simpa [passFrom] using later

section AmongAll

variable {earlier : List Signature} {signature : Signature}

theorem amongAll_eq_collides_iff (conversion : Nat) :
    amongAll tuples written earlier signature = collides conversion ↔
      written.findIdx? (fun c => tuples.sameSignature c.parameters signature.types) =
        some conversion := by
  unfold amongAll
  split
  · rename_i first matched
    rw [matched, collides.injEq, Option.some.injEq]
  · rename_i free
    rw [free]
    split <;> exact ⟨nofun, nofun⟩

theorem amongAll_eq_duplicates_iff (position : Nat) :
    amongAll tuples written earlier signature = duplicates position ↔
      written.findIdx? (fun c => tuples.sameSignature c.parameters signature.types) = none ∧
        earlier.findIdx? (fun s => tuples.sameSignature s.types signature.types) =
          some position := by
  unfold amongAll
  split
  · rename_i first matched
    rw [matched]
    exact ⟨nofun, nofun⟩
  · rename_i free
    rw [free]
    split
    · rename_i first matched
      rw [matched, duplicates.injEq, Option.some.injEq]
      exact (and_iff_right rfl).symm
    · rename_i unmatched
      rw [unmatched]
      exact ⟨nofun, nofun⟩

theorem amongAll_eq_survives_iff :
    amongAll tuples written earlier signature = survives ↔
      written.findIdx? (fun c => tuples.sameSignature c.parameters signature.types) = none ∧
        earlier.findIdx? (fun s => tuples.sameSignature s.types signature.types) = none := by
  unfold amongAll
  split
  · rename_i first matched
    rw [matched]
    exact ⟨nofun, nofun⟩
  · rename_i free
    rw [free]
    split
    · rename_i first matched
      rw [matched]
      exact ⟨nofun, nofun⟩
    · rename_i unmatched
      rw [unmatched]
      exact ⟨fun _ => ⟨rfl, rfl⟩, fun _ => rfl⟩

end AmongAll

end Verdict

theorem getElem?_verdicts (tuples : TupleSupport) (written : List Conversion)
    (candidates : List Candidate) (index : Nat) :
    (verdicts tuples written candidates)[index]? = candidates[index]?.map fun candidate =>
      Verdict.amongAll tuples written ((candidates.take index).map (·.signature))
        candidate.signature := by
  have stands : Verdict.Stands tuples written [] [] := Verdict.stands_nil
  have pass := Verdict.getElem?_passFrom stands (candidates.map (·.signature)) index
  simpa [verdicts, Option.map_map, Function.comp_def] using pass

/-! ### What each fate says -/

section Fates

variable {tuples : TupleSupport} {written : List Conversion} {candidates : List Candidate}
  {index : Nat} {x : Candidate}

theorem verdict_eq_collides_iff (found : candidates[index]? = some x) (conversion : Nat) :
    (verdicts tuples written candidates)[index]? = some (.collides conversion) ↔
      IsFirst (·.covers tuples x) written conversion := by
  rw [getElem?_verdicts, found, Option.map_some, Option.some.injEq,
    Verdict.amongAll_eq_collides_iff, ← findIdx?_eq_some_iff_isFirst]
  rfl

theorem verdict_eq_duplicates_iff (found : candidates[index]? = some x) (j : Nat) :
    (verdicts tuples written candidates)[index]? = some (.duplicates j) ↔
      (∀ c ∈ written, c.covers tuples x = false) ∧ j < index ∧
        IsFirst (·.rivals tuples x) candidates j := by
  rw [getElem?_verdicts, found, Option.map_some, Option.some.injEq,
    Verdict.amongAll_eq_duplicates_iff, List.findIdx?_eq_none_iff, List.findIdx?_map,
    List.findIdx?_take, ← findIdx?_eq_some_iff_isFirst]
  simp only [Option.bind_eq_some_iff, Option.guard_eq_some_iff, decide_eq_true_eq]
  refine and_congr Iff.rfl ⟨?_, ?_⟩
  · rintro ⟨_, matched, rfl, lt⟩
    exact ⟨lt, matched⟩
  · rintro ⟨lt, matched⟩
    exact ⟨j, matched, rfl, lt⟩

theorem verdict_eq_survives_iff (found : candidates[index]? = some x) :
    (verdicts tuples written candidates)[index]? = some .survives ↔
      (∀ c ∈ written, c.covers tuples x = false) ∧
        ∀ j < index, ∀ y, candidates[j]? = some y → y.rivals tuples x = false := by
  rw [getElem?_verdicts, found, Option.map_some, Option.some.injEq,
    Verdict.amongAll_eq_survives_iff, List.findIdx?_eq_none_iff, List.findIdx?_map,
    List.findIdx?_eq_none_iff]
  refine and_congr Iff.rfl ⟨?_, ?_⟩
  · intro distinct j lt y at_j
    exact distinct y (List.mem_of_getElem? (by rw [List.getElem?_take, if_pos lt, at_j]))
  · intro distinct y mem
    obtain ⟨j, at_j⟩ := List.mem_iff_getElem?.mp mem
    rw [List.getElem?_take] at at_j
    split at at_j
    · rename_i lt
      exact distinct j lt y at_j
    · simp at at_j

/-- A duplicate points to a survivor, although its rivals were sought among all candidates. -/
theorem verdict_of_duplicates {j : Nat} (found : candidates[index]? = some x)
    (dropped : (verdicts tuples written candidates)[index]? = some (.duplicates j)) :
    (verdicts tuples written candidates)[j]? = some .survives := by
  obtain ⟨free, _, ⟨y, at_j, rival⟩, before⟩ := (verdict_eq_duplicates_iff found j).mp dropped
  rw [verdict_eq_survives_iff at_j]
  constructor
  · intro c mem
    rw [Candidate.covers_congr rival]
    exact free c mem
  · intro earlier lt z at_earlier
    rw [Candidate.rivals_congr rival]
    exact before earlier lt z at_earlier

end Fates

/-! ## The survivors -/

theorem Verdict.ofSignature_eq_survives_iff {tuples : TupleSupport} {written : List Conversion}
    {kept : List (Nat × Signature)} {signature : Signature} :
    ofSignature tuples written kept signature = survives ↔
      (∀ c ∈ written, tuples.sameSignature c.parameters signature.types = false) ∧
        ∀ s ∈ kept, tuples.sameSignature s.2.types signature.types = false := by
  unfold ofSignature
  split
  · rename_i first matched
    refine ⟨nofun, ?_⟩
    rintro ⟨free, _⟩
    rw [List.findIdx?_eq_none_iff.mpr free] at matched
    simp at matched
  · rename_i free
    rw [List.findIdx?_eq_none_iff] at free
    split
    · rename_i first matched
      refine ⟨nofun, ?_⟩
      rintro ⟨_, fresh⟩
      have same := List.find?_some matched
      rw [fresh first (List.mem_of_find?_eq_some matched)] at same
      simp at same
    · rename_i unmatched
      exact ⟨fun _ => ⟨free, by simpa using unmatched⟩, fun _ => rfl⟩

theorem any_same_of_rival {tuples : TupleSupport} {kept : List (Nat × Signature)}
    {s : Nat × Signature} {x later : Candidate} (mem : s ∈ kept)
    (same : tuples.sameSignature s.2.types x.signature.types = true)
    (rival : x.rivals tuples later = true) :
    kept.any (fun s => tuples.sameSignature s.2.types later.signature.types) = true := by
  have known : tuples.sameSignature s.2.types later.signature.types = true := by
    rw [← same]
    exact (TupleSupport.sameSignature_congr rival _).symm
  rw [List.any_eq_true]
  exact ⟨s, mem, known⟩

/-- The pass drops from the rule's survivors those with a rival among the ones it already has. -/
theorem filter_passFrom (tuples : TupleSupport) (written : List Conversion)
    (kept : List (Nat × Signature)) (position : Nat) (candidates : List Candidate) :
    ((candidates.zip (Verdict.passFrom tuples written kept position
        (candidates.map (·.signature)))).filter fun entry => entry.2 = .survives).map (·.1) =
      (firstOfEach tuples (uncovered tuples written candidates)).filter fun x =>
        !kept.any fun s => tuples.sameSignature s.2.types x.signature.types := by
  induction candidates generalizing kept position with
  | nil => rfl
  | cons x rest ih =>
      simp only [List.map_cons, Verdict.passFrom, List.zip_cons_cons]
      by_cases stays : Verdict.ofSignature tuples written kept x.signature = .survives
      · obtain ⟨free, fresh⟩ := (Verdict.ofSignature_eq_survives_iff).mp stays
        rw [if_pos stays, List.filter_cons_of_pos (by simpa using stays), List.map_cons, ih,
          uncovered_cons_of_free free, firstOfEach, List.filter_cons_of_pos (by simpa using fresh),
          List.filter_filter]
        congr 1
        apply List.filter_congr
        intro later _
        simp [Candidate.rivals]
      · rw [if_neg stays, List.filter_cons_of_neg (by simpa using stays), ih]
        by_cases free : ∀ c ∈ written, c.covers tuples x = false
        · have rivalled : ∃ s ∈ kept, tuples.sameSignature s.2.types x.signature.types = true := by
            rw [Verdict.ofSignature_eq_survives_iff] at stays
            simpa using not_and.mp stays free
          obtain ⟨s, mem, same⟩ := rivalled
          rw [uncovered_cons_of_free free, firstOfEach, List.filter_cons_of_neg,
            List.filter_filter]
          · apply List.filter_congr
            intro later _
            by_cases rival : x.rivals tuples later = true
            · simp [any_same_of_rival mem same rival]
            · simp [rival]
          · simpa using ⟨s.1, s.2, mem, same⟩
        · rw [uncovered_cons_of_covered free]

theorem survivors_eq_firstOfEach (tuples : TupleSupport) (written : List Conversion)
    (candidates : List Candidate) :
    survivors tuples written candidates =
      firstOfEach tuples (uncovered tuples written candidates) := by
  have pass := filter_passFrom tuples written [] 0 candidates
  exact pass.trans (List.filter_eq_self.mpr (by simp))

theorem mem_survivors_free {tuples : TupleSupport} {written : List Conversion}
    {candidates : List Candidate} {x : Candidate}
    (mem : x ∈ survivors tuples written candidates) : ∀ c ∈ written, c.covers tuples x = false := by
  rw [survivors_eq_firstOfEach] at mem
  exact (mem_uncovered.mp ((firstOfEach_sublist tuples _).subset mem)).2

theorem survivors_sublist (tuples : TupleSupport) (written : List Conversion)
    (candidates : List Candidate) : (survivors tuples written candidates).Sublist candidates := by
  rw [survivors_eq_firstOfEach]
  exact (firstOfEach_sublist tuples _).trans List.filter_sublist

theorem pairwise_survivors (tuples : TupleSupport) (written : List Conversion)
    (candidates : List Candidate) :
    (survivors tuples written candidates).Pairwise fun a b => a.rivals tuples b = false := by
  rw [survivors_eq_firstOfEach]
  exact pairwise_firstOfEach tuples _

/-- A candidate that no conversion covers has exactly one rival among the survivors. -/
theorem countP_rivals_survivors {tuples : TupleSupport} {written : List Conversion}
    {candidates : List Candidate} {x : Candidate} (mem : x ∈ candidates)
    (free : ∀ c ∈ written, c.covers tuples x = false) :
    (survivors tuples written candidates).countP (·.rivals tuples x) = 1 := by
  rw [survivors_eq_firstOfEach]
  exact countP_rivals_firstOfEach (mem_uncovered.mpr ⟨mem, free⟩)

/-- The pass is the rule of two phases, candidate by candidate and as a whole. -/
theorem verdicts_two_phase (tuples : TupleSupport) (written : List Conversion)
    (candidates : List Candidate) :
    let fates := verdicts tuples written candidates
    let kept := survivors tuples written candidates
    kept = firstOfEach tuples (uncovered tuples written candidates) ∧
    (∀ (i : Nat) (x : Candidate), candidates[i]? = some x →
      (∀ k, fates[i]? = some (.collides k) ↔ IsFirst (·.covers tuples x) written k) ∧
      (∀ j, fates[i]? = some (.duplicates j) ↔
        (∀ c ∈ written, c.covers tuples x = false) ∧ j < i ∧
          IsFirst (·.rivals tuples x) candidates j) ∧
      (∀ j, fates[i]? = some (.duplicates j) → fates[j]? = some .survives) ∧
      (fates[i]? = some .survives ↔
        (∀ c ∈ written, c.covers tuples x = false) ∧
          ∀ j < i, ∀ y, candidates[j]? = some y → y.rivals tuples x = false)) ∧
    fates.length = candidates.length ∧
    kept.Sublist candidates ∧
    kept.Pairwise (fun a b => a.rivals tuples b = false) ∧
    (∀ x ∈ kept, ∀ c ∈ written, c.covers tuples x = false) ∧
    (∀ (i : Nat) (x : Candidate), candidates[i]? = some x → fates[i]? ≠ some .survives →
      (∃ c ∈ written, c.covers tuples x = true) ∨ kept.countP (·.rivals tuples x) = 1) := by
  intro fates kept
  refine ⟨survivors_eq_firstOfEach tuples written candidates, ?_, length_verdicts _ _ _,
    survivors_sublist tuples written candidates, pairwise_survivors tuples written candidates,
    fun x mem => mem_survivors_free mem, ?_⟩
  · intro i x found
    exact ⟨verdict_eq_collides_iff found, verdict_eq_duplicates_iff found,
      fun j dropped => verdict_of_duplicates found dropped, verdict_eq_survives_iff found⟩
  · intro i x found _
    by_cases free : ∀ c ∈ written, c.covers tuples x = false
    · exact Or.inr (countP_rivals_survivors (List.mem_of_getElem? found) free)
    · refine Or.inl ?_
      simpa using free

/-- A text, two numbers one by one, and the same two numbers in a tuple. -/
def textThenPairs : List Candidate :=
  let number : HostType := .named "System.Int32" "int" .concrete
  [⟨0, {}, [⟨"s", .named "System.String" "string" .concrete⟩]⟩,
    ⟨1, {}, [⟨"x", number⟩, ⟨"y", number⟩]⟩,
    ⟨2, {}, [⟨"pair", .tuple [.mk none number, .mk (some "y") number]⟩]⟩]

/-- With a conversion from text in place, the tuple yields to the numbers. -/
theorem verdicts_textThenPairs :
    let written : List Conversion := [{ parameters := [.named "System.String" "String" .concrete] }]
    let fates := verdicts .native written textThenPairs
    fates[0]? = some (.collides 0) ∧ fates[2]? = some (.duplicates 1) ∧
      fates[1]? = some .survives ∧
      (survivors .native written textThenPairs).countP (·.rivals .native textThenPairs[2]) = 1 := by
  intro written fates
  have rule := (verdicts_two_phase .native written textThenPairs).2.1
  have first := (rule 0 textThenPairs[0] rfl).1 0
  have third := rule 2 textThenPairs[2] rfl
  have drop : fates[2]? = some (.duplicates 1) := by
    rw [third.2.1 1, ← findIdx?_eq_some_iff_isFirst]
    decide
  refine ⟨?_, drop, third.2.2.1 1 drop, ?_⟩
  · rw [first, ← findIdx?_eq_some_iff_isFirst]
    decide
  · have represented := (verdicts_two_phase .native written textThenPairs).2.2.2.2.2.2
      2 textThenPairs[2] rfl (by decide)
    exact represented.resolve_left (by decide)

end ConversionSynthesis
