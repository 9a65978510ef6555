import ConversionSynthesis.Fragment.Unit
import ConversionSynthesis.Proofs.Candidate.FirstWins

/-! # The candidates behind a unit

A candidate carries its constructor and the constructor's position, and the candidates of a type
stand in the order of these positions. The unit of a type is the text of its surviving candidates.
-/

namespace ConversionSynthesis

namespace TypeDecl

variable {type : TypeDecl} {tuples : TupleSupport}

theorem mem_candidates {x : Candidate} :
    x ∈ type.candidates tuples ↔
      type.constructors[x.index]? = some x.constructor ∧
        type.ineligibility? x.constructor tuples = none ∧
        x.signature = x.constructor.signature tuples := by
  simp only [candidates, List.mem_map, List.mem_filter, Option.isNone_iff_eq_none]
  constructor
  · rintro ⟨⟨c, i⟩, ⟨mem, eligible⟩, rfl⟩
    exact ⟨List.mem_zipIdx_iff_getElem?.mp mem, eligible, rfl⟩
  · rintro ⟨found, eligible, signature⟩
    refine ⟨(x.constructor, x.index), ⟨List.mem_zipIdx_iff_getElem?.mpr found, eligible⟩, ?_⟩
    rw [← signature]

theorem index_lt_length {x : Candidate} (mem : x ∈ type.candidates tuples) :
    x.index < type.constructors.length := by
  obtain ⟨found, _, _⟩ := mem_candidates.mp mem
  exact (List.getElem?_eq_some_iff.mp found).choose

theorem index_ne_of_ineligible {x : Candidate} {index : Nat} {c : Constructor}
    {reason : Ineligibility} (mem : x ∈ type.candidates tuples)
    (found : type.constructors[index]? = some c)
    (ineligible : type.ineligibility? c tuples = some reason) : x.index ≠ index := by
  intro same
  obtain ⟨found', eligible, _⟩ := mem_candidates.mp mem
  rw [same, found, Option.some.injEq] at found'
  rw [← found', ineligible] at eligible
  simp at eligible

theorem pairwise_index_candidates (type : TypeDecl) (tuples : TupleSupport) :
    (type.candidates tuples).Pairwise fun a b => a.index < b.index := by
  have positions : type.constructors.zipIdx.Pairwise fun a b => a.2 < b.2 := by
    apply List.pairwise_map.mp
    rw [List.zipIdx_map_snd]
    exact List.pairwise_lt_range'
  exact List.pairwise_map.mpr (positions.filter _)

/-- The candidates whose operators the unit of the type holds. -/
def emitted (type : TypeDecl) (tuples : TupleSupport) : List Candidate :=
  match type.rejection? with
  | some _ => []
  | none => survivors tuples type.conversions (type.candidates tuples)

theorem unit?_eq (type : TypeDecl) (tuples : TupleSupport) (options : UnitOptions) :
    type.unit? tuples options =
      if type.emitted tuples = [] then none
      else some ⟨type.unitIdentifier options, type.unitText (type.emitted tuples) options⟩ := by
  unfold unit? emitted
  cases type.rejection? with
  | some reason => rfl
  | none => cases survivors tuples type.conversions (type.candidates tuples) <;> rfl

theorem emitted_of_accepted (accepted : type.rejection? = none) :
    type.emitted tuples = survivors tuples type.conversions (type.candidates tuples) := by
  simp [emitted, accepted]

theorem emitted_sublist (type : TypeDecl) (tuples : TupleSupport) :
    (type.emitted tuples).Sublist (type.candidates tuples) := by
  unfold emitted
  split
  · exact List.nil_sublist _
  · exact survivors_sublist tuples _ _

theorem pairwise_rivals_emitted (type : TypeDecl) (tuples : TupleSupport) :
    (type.emitted tuples).Pairwise fun a b => a.rivals tuples b = false := by
  unfold emitted
  split
  · exact List.Pairwise.nil
  · exact pairwise_survivors tuples _ _

end TypeDecl

end ConversionSynthesis
