import ConversionSynthesis.Signature

/-! # Sameness of types and signatures

Comparison looks at identities and at the shape of tuples and at nothing else. What it looks at is
kept apart as the core of a type, so that two types are the same exactly if their cores are equal.
The laws of an equivalence, for types, for sequences and for signatures, are then those of equality.
-/

namespace ConversionSynthesis

namespace HostType

mutual

/-- What comparison sees of a type: a name is left with its identity, a tuple with the cores of its
elements. -/
def core : HostType → HostType
  | named identity _ _ => named identity "" .concrete
  | tuple elements => tuple (coreElements elements)

/-- What comparison sees of tuple elements. -/
def coreElements : List TupleElement → List TupleElement
  | [] => []
  | .mk _ type :: rest => .mk none type.core :: coreElements rest

end

mutual

theorem same_iff_core_eq : ∀ a b : HostType, a.same b = true ↔ a.core = b.core
  | named _ _ _, named _ _ _ => by simp [same, core]
  | named _ _ _, tuple _ => by simp [same, core]
  | tuple _, named _ _ _ => by simp [same, core]
  | tuple left, tuple right => by
      simp only [same, core, tuple.injEq]
      exact sameElements_iff_coreElements_eq left right

theorem sameElements_iff_coreElements_eq :
    ∀ left right : List TupleElement,
      sameElements left right = true ↔ coreElements left = coreElements right
  | [], [] => by simp [sameElements, coreElements]
  | [], .mk _ _ :: _ => by simp [sameElements, coreElements]
  | .mk _ _ :: _, [] => by simp [sameElements, coreElements]
  | .mk _ a :: left, .mk _ b :: right => by
      simp only [sameElements, coreElements, Bool.and_eq_true, List.cons.injEq,
        TupleElement.mk.injEq, true_and]
      rw [same_iff_core_eq a b, sameElements_iff_coreElements_eq left right]

end

theorem sameTypes_iff_map_core_eq (left right : List HostType) :
    sameTypes left right = true ↔ left.map core = right.map core := by
  induction left generalizing right with
  | nil => cases right <;> simp [sameTypes]
  | cons a left ih =>
      cases right with
      | nil => simp [sameTypes]
      | cons b right => simp [sameTypes, same_iff_core_eq, ih]

theorem coreElements_eq_map (elements : List TupleElement) :
    coreElements elements = elements.map fun element => .mk none element.type.core := by
  induction elements with
  | nil => rfl
  | cons element rest ih => cases element; simp [coreElements, ih, TupleElement.type]

end HostType

namespace TupleSupport

/-- What comparison sees of a sequence of types. -/
def signatureCore (tuples : TupleSupport) (types : List HostType) : List HostType :=
  (tuples.unpacked types).map HostType.core

theorem sameSignature_iff (tuples : TupleSupport) (left right : List HostType) :
    tuples.sameSignature left right = true ↔
      tuples.signatureCore left = tuples.signatureCore right :=
  HostType.sameTypes_iff_map_core_eq _ _

theorem signatureCore_eq (tuples : TupleSupport) (types : List HostType) :
    tuples.signatureCore types = tuples.unpacked (types.map HostType.core) := by
  match tuples, types with
  | .absent, _ => rfl
  | .native, [] => rfl
  | .native, [.named _ _ _] => rfl
  | .native, [.tuple elements] =>
      simp [signatureCore, unpacked, HostType.core, HostType.coreElements_eq_map,
        TupleElement.type, Function.comp_def]
  | .native, _ :: _ :: _ => simp [signatureCore, unpacked]

theorem sameSignature_refl (tuples : TupleSupport) (types : List HostType) :
    tuples.sameSignature types types = true :=
  (sameSignature_iff tuples types types).mpr rfl

theorem sameSignature_comm (tuples : TupleSupport) (left right : List HostType) :
    tuples.sameSignature left right = tuples.sameSignature right left := by
  rw [Bool.eq_iff_iff, sameSignature_iff, sameSignature_iff]
  exact eq_comm

theorem sameSignature_congr {tuples : TupleSupport} {left right : List HostType}
    (h : tuples.sameSignature left right = true) (other : List HostType) :
    tuples.sameSignature other left = tuples.sameSignature other right := by
  rw [Bool.eq_iff_iff, sameSignature_iff, sameSignature_iff,
    (sameSignature_iff tuples left right).mp h]

end TupleSupport

end ConversionSynthesis
