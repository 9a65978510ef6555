import ConversionSynthesis.Proofs.SideBySide
import ConversionSynthesis.Proofs.Signature.Sameness

/-! # What decisions see of a type

Decisions look at the identity and the capability of a name and at the elements of a tuple. The
essence of a type is what is left without spellings and labels, which serve the text of a unit only.
Whatever is asked of a type on the way to a decision can be asked of its essence.
-/

namespace ConversionSynthesis

namespace HostType

mutual

/-- A type without spellings and labels. -/
def essence : HostType → HostType
  | named identity _ capability => named identity "" capability
  | tuple elements => tuple (essences elements)

def essences : List TupleElement → List TupleElement
  | [] => []
  | .mk _ type :: rest => .mk none type.essence :: essences rest

end

/-- Types that differ in spellings and labels only. -/
def SameEssence (a b : HostType) : Prop :=
  a.essence = b.essence

theorem map_type_essences (elements : List TupleElement) :
    (essences elements).map (·.type) = elements.map (·.type.essence) := by
  induction elements with
  | nil => rfl
  | cons element rest ih =>
      cases element
      rw [essences, List.map_cons, List.map_cons, ih]
      rfl

@[simp]
theorem identity?_essence (a : HostType) : a.essence.identity? = a.identity? := by
  cases a <;> rfl

@[simp]
theorem isInterface_essence (a : HostType) : a.essence.isInterface = a.isInterface := by
  cases a <;> rfl

mutual

@[simp]
theorem isGeneralizable_essence : ∀ a : HostType, a.essence.isGeneralizable = a.isGeneralizable
  | named _ _ _ => rfl
  | tuple elements => anyGeneralizable_essences elements

theorem anyGeneralizable_essences :
    ∀ elements, anyGeneralizable (essences elements) = anyGeneralizable elements
  | [] => rfl
  | .mk _ type :: rest => by
      rw [essences, anyGeneralizable, anyGeneralizable, isGeneralizable_essence type,
        anyGeneralizable_essences rest]

end

mutual

@[simp]
theorem structuralIdentity_essence :
    ∀ a : HostType, a.essence.structuralIdentity = a.structuralIdentity
  | named _ _ _ => rfl
  | tuple elements => by
      rw [essence, structuralIdentity, structuralIdentity, structuralIdentities_essences elements]

theorem structuralIdentities_essences :
    ∀ elements, structuralIdentities (essences elements) = structuralIdentities elements
  | [] => rfl
  | .mk _ type :: rest => by
      rw [essences, structuralIdentities, structuralIdentities, structuralIdentity_essence type,
        structuralIdentities_essences rest]

end

mutual

@[simp]
theorem core_essence : ∀ a : HostType, a.essence.core = a.core
  | named _ _ _ => rfl
  | tuple elements => by rw [essence, core, core, coreElements_essences elements]

theorem coreElements_essences :
    ∀ elements, coreElements (essences elements) = coreElements elements
  | [] => rfl
  | .mk _ type :: rest => by
      rw [essences, coreElements, coreElements, core_essence type, coreElements_essences rest]

end

namespace SameEssence

variable {a b : HostType}

theorem identity?_eq (same : SameEssence a b) : b.identity? = a.identity? := by
  rw [← identity?_essence b, ← same, identity?_essence]

theorem isInterface_eq (same : SameEssence a b) : b.isInterface = a.isInterface := by
  rw [← isInterface_essence b, ← same, isInterface_essence]

theorem isGeneralizable_eq (same : SameEssence a b) : b.isGeneralizable = a.isGeneralizable := by
  rw [← isGeneralizable_essence b, ← same, isGeneralizable_essence]

end SameEssence

/-! ## Sequences of types -/

theorem map_essence_eq {types types' : List HostType}
    (alike : List.Forall₂ SameEssence types types') : types.map essence = types'.map essence :=
  (map_eq_of_forall₂ alike fun _ _ same => Eq.symm same).symm

end HostType

open HostType

theorem TupleSupport.unpacked_map_essence (tuples : TupleSupport) (types : List HostType) :
    tuples.unpacked (types.map essence) = (tuples.unpacked types).map essence := by
  match tuples, types with
  | .native, [.tuple elements] =>
      rw [List.map_singleton, essence, unpacked, unpacked, map_type_essences, List.map_map]
      rfl
  | .native, [.named _ _ _] => rfl
  | .native, [] => rfl
  | .native, _ :: _ :: _ => simp [unpacked]
  | .absent, _ => rfl

theorem TupleSupport.signatureCore_map_essence (tuples : TupleSupport) (types : List HostType) :
    tuples.signatureCore (types.map essence) = tuples.signatureCore types := by
  rw [signatureCore, signatureCore, unpacked_map_essence, List.map_map]
  exact List.map_congr_left fun type _ => core_essence type

/-- Whether two signatures are the same can be told from the essences of their types. -/
theorem TupleSupport.sameSignature_of_essence {left left' right right' : List HostType}
    (tuples : TupleSupport) (leftSame : left.map essence = left'.map essence)
    (rightSame : right.map essence = right'.map essence) :
    tuples.sameSignature left right = tuples.sameSignature left' right' := by
  rw [Bool.eq_iff_iff, sameSignature_iff, sameSignature_iff,
    ← signatureCore_map_essence tuples left, ← signatureCore_map_essence tuples right, leftSame,
    rightSame, signatureCore_map_essence, signatureCore_map_essence]

end ConversionSynthesis
