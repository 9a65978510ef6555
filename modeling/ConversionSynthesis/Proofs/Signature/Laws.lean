import ConversionSynthesis.Proofs.SideBySide
import ConversionSynthesis.Proofs.Signature.Sameness

/-! # The laws of signature comparison

With and without tuples of the host, comparison of signatures is an equivalence, and it sees neither
spellings nor capabilities nor labels. A host with tuples tells fewer signatures apart: it takes a
lone tuple for the elements of it, and that is the only difference.
-/

namespace ConversionSynthesis

namespace HostType

mutual

/-- The second type is the first one with other spellings and capabilities of names and with other
labels in tuples. -/
inductive Retouched : HostType → HostType → Prop
  | named (identity display display' : String) (capability capability' : Capability) :
      Retouched (.named identity display capability) (.named identity display' capability')
  | tuple {elements elements' : List TupleElement} : RetouchedElements elements elements' →
      Retouched (.tuple elements) (.tuple elements')

inductive RetouchedElements : List TupleElement → List TupleElement → Prop
  | nil : RetouchedElements [] []
  | cons {type type' : HostType} {rest rest' : List TupleElement}
      (label label' : Option String) : Retouched type type' → RetouchedElements rest rest' →
      RetouchedElements (.mk label type :: rest) (.mk label' type' :: rest')

end

mutual

theorem Retouched.core_eq : ∀ {a b : HostType}, Retouched a b → a.core = b.core
  | _, _, .named _ _ _ _ _ => rfl
  | _, _, .tuple elements => by rw [core, core, elements.coreElements_eq]

theorem RetouchedElements.coreElements_eq : ∀ {left right : List TupleElement},
    RetouchedElements left right → coreElements left = coreElements right
  | _, _, .nil => rfl
  | _, _, .cons _ _ type rest => by
      rw [coreElements, coreElements, type.core_eq, rest.coreElements_eq]

end

theorem coreElements_eq_iff (left right : List TupleElement) :
    coreElements left = coreElements right ↔
      (left.map (·.type)).map core = (right.map (·.type)).map core := by
  rw [← sameElements_iff_coreElements_eq, sameElements_eq_sameTypes, sameTypes_iff_map_core_eq]

end HostType

open HostType

/-- The sequence is a tuple alone. -/
def IsLoneTuple (types : List HostType) : Prop :=
  ∃ elements, types = [.tuple elements]

namespace TupleSupport

variable {left right left' right' : List HostType}

theorem unpacked_of_not_lone {types : List HostType} (notLone : ¬ IsLoneTuple types)
    (tuples : TupleSupport) : tuples.unpacked types = types := by
  unfold unpacked
  split
  · next elements => exact absurd ⟨elements, rfl⟩ notLone
  · rfl

theorem sameSignature_of_retouched (tuples : TupleSupport)
    (leftRetouched : List.Forall₂ Retouched left left')
    (rightRetouched : List.Forall₂ Retouched right right') :
    tuples.sameSignature left' right' = tuples.sameSignature left right := by
  have cores {types types' : List HostType} (retouched : List.Forall₂ Retouched types types') :
      types'.map core = types.map core :=
    map_eq_of_forall₂ retouched fun _ _ each => each.core_eq.symm
  rw [Bool.eq_iff_iff, sameSignature_iff, sameSignature_iff]
  simp only [signatureCore_eq, cores leftRetouched, cores rightRetouched]

/-- Where tuples are kept whole, what is the same is so type by type, and stays the same when lone
tuples are unpacked. -/
theorem sameSignature_native_of_absent (same : absent.sameSignature left right = true) :
    native.sameSignature left right = true := by
  rw [sameSignature_iff] at same ⊢
  have cores : left.map core = right.map core := same
  rw [signatureCore_eq, signatureCore_eq, cores]

/-- Where both sequences are lone tuples, or neither is, it does not matter whether lone tuples are
unpacked. -/
theorem sameSignature_native_eq_absent (alike : IsLoneTuple left ↔ IsLoneTuple right) :
    native.sameSignature left right = absent.sameSignature left right := by
  rw [Bool.eq_iff_iff, sameSignature_iff, sameSignature_iff]
  by_cases lone : IsLoneTuple left
  · obtain ⟨elements', rfl⟩ := alike.mp lone
    obtain ⟨elements, rfl⟩ := lone
    simp only [signatureCore, unpacked, List.map_singleton, core, List.cons.injEq, tuple.injEq,
      and_true]
    exact (coreElements_eq_iff elements elements').symm
  · have notLone : ¬ IsLoneTuple right := fun isLone => lone (alike.mpr isLone)
    rw [signatureCore, signatureCore, unpacked_of_not_lone lone, unpacked_of_not_lone notLone]
    rfl

/-- Comparison is an equivalence on sequences of types, with tuples of the host or without, which
spellings, capabilities and labels do not affect. What is the same without tuples is the same with
them, and the converse fails only for one lone tuple against another sequence. -/
theorem sameSignature_laws :
    (∀ tuples : TupleSupport,
      Equivalence fun left right => tuples.sameSignature left right = true) ∧
    (∀ (tuples : TupleSupport) (left left' right right' : List HostType),
      List.Forall₂ Retouched left left' → List.Forall₂ Retouched right right' →
        tuples.sameSignature left' right' = tuples.sameSignature left right) ∧
    (∀ left right : List HostType, absent.sameSignature left right = true →
      native.sameSignature left right = true) ∧
    ∀ left right : List HostType,
      native.sameSignature left right ≠ absent.sameSignature left right →
        (IsLoneTuple left ↔ ¬ IsLoneTuple right) := by
  refine ⟨fun tuples => ⟨?refl, ?symm, ?trans⟩, ?retouched, ?implies, ?differ⟩
  case refl => exact tuples.sameSignature_refl
  case symm =>
    intro left right same
    rw [sameSignature_comm, same]
  case trans =>
    intro left middle right same same'
    rw [← sameSignature_congr same', same]
  case retouched =>
    intro tuples left left' right right' leftRetouched rightRetouched
    exact tuples.sameSignature_of_retouched leftRetouched rightRetouched
  case implies => exact fun left right => sameSignature_native_of_absent
  case differ =>
    intro left right differ
    have notAlike : ¬ (IsLoneTuple left ↔ IsLoneTuple right) :=
      fun alike => differ (sameSignature_native_eq_absent alike)
    exact iff_not_comm.mp (not_iff.mp notAlike).symm

/-- A pair of numbers is the two numbers where the host has tuples, however it is spelled. -/
theorem sameSignature_laws_pair :
    let number : HostType := .named "System.Int32" "int" .concrete
    let respelled : HostType := .named "System.Int32" "global::System.Int32" .general
    let pair : HostType := .tuple [.mk (some "a") number, .mk none number]
    let pair' : HostType := .tuple [.mk none respelled, .mk (some "b") number]
    List.Forall₂ Retouched [pair] [pair'] ∧
      native.sameSignature [pair'] [number, number] = true ∧
      native.sameSignature [pair] [number, number] ≠
        absent.sameSignature [pair] [number, number] ∧
      ¬ IsLoneTuple [number, number] := by
  intro number respelled pair pair'
  have retouched : Retouched pair pair' :=
    .tuple (.cons _ _ (.named _ _ _ _ _) (.cons _ _ (.named _ _ _ _ _) .nil))
  have differ : native.sameSignature [pair] [number, number] ≠
      absent.sameSignature [pair] [number, number] := by decide
  have unpacked : native.sameSignature [pair] [number, number] = true := by decide
  obtain ⟨equivalence, unaffected, -, onlyLone⟩ := sameSignature_laws
  have same : Retouched number number := .named _ _ _ _ _
  have respelling := unaffected native _ _ _ _ (.cons retouched .nil)
    (.cons same (.cons same .nil))
  exact ⟨.cons retouched .nil, respelling.trans unpacked, differ,
    (onlyLone _ _ differ).mp ⟨_, rfl⟩⟩

end TupleSupport

end ConversionSynthesis
