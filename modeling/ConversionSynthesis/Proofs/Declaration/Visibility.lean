import ConversionSynthesis.Eligibility
import ConversionSynthesis.Proofs.SideBySide

/-! # Visibility of constructors

A context admits a level if it is no more visible than that asks for, so contexts may be lowered and
levels raised. The contexts of a type are walked from the type outwards, and the first of them that
does not admit the level of a constructor is the one that speaks against it.
-/

namespace ConversionSynthesis

open Host

namespace Host.Accessibility

/-! ## The order of levels -/

/-- One level grants at most what the other one does. -/
instance : LE Accessibility where
  le a b := a.compare? b = some .lt ∨ a.compare? b = some .eq

instance (a b : Accessibility) : Decidable (a ≤ b) :=
  inferInstanceAs (Decidable (a.compare? b = some .lt ∨ a.compare? b = some .eq))

variable {context context' level level' : Accessibility} {contexts contexts' : List Accessibility}

theorem eq_pub_of_le (above : pub ≤ level) : level = pub := by
  revert above
  cases level <;> decide

/-- A context that admits a level admits every level above. -/
theorem admits_of_le_level (raised : level ≤ level') (admitted : context.admits level = true) :
    context.admits level' = true := by
  revert raised admitted
  cases level <;> cases level' <;> cases context <;> decide

theorem admits_of_le_context (lowered : context' ≤ context)
    (admitted : context.admits level = true) : context'.admits level = true := by
  cases level with
  | pub => rfl
  | internal | protInternal =>
      have notPublic : context ≠ pub := bne_iff_ne.mp admitted
      refine bne_iff_ne.mpr fun isPublic => notPublic ?_
      rw [isPublic] at lowered
      exact eq_pub_of_le lowered
  | priv | privProt | prot => cases admitted

theorem admits_eq_false_iff :
    context.admits level = false ↔ level ∈ [priv, prot, privProt] ∨
      level ∈ [internal, protInternal] ∧ context = pub := by
  cases level <;> simp [admits]

/-! ## Chains of contexts -/

theorem firstRejecting?_eq_none_iff :
    firstRejecting? contexts level = none ↔ ∀ context ∈ contexts, context.admits level = true := by
  simp [firstRejecting?]

theorem firstRejecting?_eq_some_iff :
    firstRejecting? contexts level = some context ↔
      context.admits level = false ∧ ∃ inner outer, contexts = inner ++ context :: outer ∧
        ∀ closer ∈ inner, closer.admits level = true := by
  simp [firstRejecting?, List.find?_eq_some_iff_append]

/-- No context rejects a level that was raised, if all are lowered and none did before. -/
theorem firstRejecting?_of_le (lowered : List.Forall₂ (· ≤ ·) contexts' contexts)
    (raised : level ≤ level') (visible : firstRejecting? contexts level = none) :
    firstRejecting? contexts' level' = none := by
  rw [firstRejecting?_eq_none_iff] at visible ⊢
  induction lowered with
  | nil => exact nofun
  | cons first _ ih =>
      obtain ⟨admitted, others⟩ := List.forall_mem_cons.mp visible
      exact List.forall_mem_cons.mpr
        ⟨admits_of_le_level raised (admits_of_le_context first admitted), ih others⟩

/-- Along a chain with one context at least, a level is rejected if it is restricted, or grants
access within its project only and one of the contexts is public. -/
theorem exists_firstRejecting?_iff (some : contexts ≠ []) :
    (∃ context, firstRejecting? contexts level = .some context) ↔
      level ∈ [priv, prot, privProt] ∨ level ∈ [internal, protInternal] ∧ pub ∈ contexts := by
  have rejecting : (∃ context, firstRejecting? contexts level = .some context) ↔
      ∃ context ∈ contexts, context.admits level = false := by
    rw [← Option.isSome_iff_exists, firstRejecting?, List.find?_isSome]
    simp
  rw [rejecting]
  constructor
  · rintro ⟨context, mem, rejected⟩
    rcases admits_eq_false_iff.mp rejected with restricted | ⟨inner, rfl⟩
    · exact .inl restricted
    · exact .inr ⟨inner, mem⟩
  · rintro (restricted | ⟨inner, mem⟩)
    · obtain ⟨context, mem⟩ := List.exists_mem_of_ne_nil contexts some
      exact ⟨context, mem, admits_eq_false_iff.mpr (.inl restricted)⟩
    · exact ⟨pub, mem, admits_eq_false_iff.mpr (.inr ⟨inner, rfl⟩)⟩

end Host.Accessibility

/-! ## Declarations with other levels -/

/-- The same enclosing type, with a level that is no higher. -/
structure EnclosingType.Lowered (outer lowered : EnclosingType) : Prop where
  frame : lowered = { outer with accessibility := lowered.accessibility }
  level : lowered.accessibility ≤ outer.accessibility

/-- The same declaration, with levels of the type and the types around it that are no higher. -/
structure TypeDecl.Lowered (type lowered : TypeDecl) : Prop where
  frame : lowered =
    { type with accessibility := lowered.accessibility, enclosing := lowered.enclosing }
  level : lowered.accessibility ≤ type.accessibility
  enclosing : List.Forall₂ EnclosingType.Lowered type.enclosing lowered.enclosing

namespace TypeDecl.Lowered

variable {type lowered : TypeDecl}

theorem chain (lower : type.Lowered lowered) :
    List.Forall₂ (· ≤ ·) lowered.accessibilityChain type.accessibilityChain := by
  refine .cons lower.level ?_
  rw [List.forall₂_map_left_iff, List.forall₂_map_right_iff, List.forall₂_reverse_iff]
  exact (lower.enclosing.imp fun _ _ outer => outer.level).flip

theorem identity (lower : type.Lowered lowered) : lowered.identity = type.identity := by
  have names : lowered.enclosing.map (fun outer => (outer.name, outer.typeParameters)) =
      type.enclosing.map fun outer => (outer.name, outer.typeParameters) :=
    map_eq_of_forall₂ lower.enclosing fun _ _ outer => by rw [outer.frame]
  have address : lowered.address = type.address := by
    rw [TypeDecl.address, names, lower.frame]
    rfl
  rw [TypeDecl.identity, TypeDecl.path, address, lower.frame]
  rfl

theorem parameterFault? (lower : type.Lowered lowered) (parameters : List Parameter) :
    lowered.parameterFault? parameters = type.parameterFault? parameters := by
  simp only [TypeDecl.parameterFault?, lower.identity]

end TypeDecl.Lowered

namespace TypeDecl

variable {type lowered : TypeDecl} {c : Constructor} {tuples : TupleSupport}

/-- The contexts of a type are its own level and then those of the types around it, the innermost,
which is listed last, before the others. -/
theorem accessibilityChain_split_iff {level : Accessibility} {P : Accessibility → Prop} :
    (∃ inner outer, type.accessibilityChain = inner ++ level :: outer ∧
        ∀ closer ∈ inner, P closer) ↔
      level = type.accessibility ∨ P type.accessibility ∧
        ∃ further outer closer, type.enclosing = further ++ outer :: closer ∧
          outer.accessibility = level ∧ ∀ between ∈ closer, P between.accessibility := by
  constructor
  · rintro ⟨inner, outer, split, admitted⟩
    cases inner with
    | nil =>
        rw [accessibilityChain, List.nil_append, List.cons.injEq] at split
        exact .inl split.1.symm
    | cons own inner =>
        rw [accessibilityChain, List.cons_append, List.cons.injEq, List.map_eq_append_iff] at split
        obtain ⟨rfl, closer, rest, order, rfl, split⟩ := split
        obtain ⟨found, further, rfl, rfl, rfl⟩ := List.map_eq_cons_iff.mp split
        rw [List.forall_mem_cons, List.forall_mem_map] at admitted
        -- The chain goes outwards and the types around are listed inwards: both parts turn round.
        refine .inr ⟨admitted.1, further.reverse, found, closer.reverse, ?_, rfl, ?_⟩
        · simpa using congrArg List.reverse order
        · exact fun between mem => admitted.2 between (List.mem_reverse.mp mem)
  · rintro (rfl | ⟨own, further, found, closer, split, rfl, admitted⟩)
    · exact ⟨[], _, rfl, List.forall_mem_nil _⟩
    · refine ⟨type.accessibility :: closer.reverse.map (·.accessibility),
        further.reverse.map (·.accessibility), ?_, ?_⟩
      · simp [accessibilityChain, split]
      · rw [List.forall_mem_cons, List.forall_mem_map]
        exact ⟨own, fun between mem => admitted between (List.mem_reverse.mp mem)⟩

/-- The constructor or the type asks for no conversion. -/
def OptsOut (type : TypeDecl) (c : Constructor) : Prop :=
  (c.isOptedOut || type.isOptedOut) = true

theorem eligible_iff :
    type.ineligibility? c tuples = none ↔ ¬ type.OptsOut c ∧ c.isObsolete = false ∧
      Accessibility.firstRejecting? type.accessibilityChain c.accessibility = none ∧
      type.parameterFault? c.parameters = none ∧
      ¬ (tuples = .absent ∧ 1 < c.parameters.length) := by
  unfold ineligibility? OptsOut
  split
  · simp_all
  split
  · simp_all
  split
  · simp_all
  split <;> simp_all

theorem parameterFault?_ne_inaccessible (type : TypeDecl) (parameters : List Parameter)
    (level context : Accessibility) :
    type.parameterFault? parameters ≠ some (.inaccessible level context) := by
  obtain _ | ⟨only, _ | ⟨second, rest⟩⟩ := parameters
  · simp [parameterFault?]
  · simp only [parameterFault?]
    split_ifs <;> simp
  · simp [parameterFault?]

/-- A constructor without marks is inaccessible if a context rejects its level, and the first one
that does is reported. -/
theorem inaccessible_iff (active : ¬ type.OptsOut c) (current : c.isObsolete = false)
    {level context : Accessibility} :
    type.ineligibility? c tuples = some (.inaccessible level context) ↔
      level = c.accessibility ∧
        Accessibility.firstRejecting? type.accessibilityChain c.accessibility = some context := by
  have notFault := type.parameterFault?_ne_inaccessible c.parameters level context
  have unmarked : ¬ (c.isOptedOut || type.isOptedOut) = true := active
  rw [ineligibility?, if_neg unmarked, if_neg (by simp [current])]
  cases Accessibility.firstRejecting? type.accessibilityChain c.accessibility with
  | some rejecting => simp [eq_comm]
  | none =>
      refine iff_of_false ?_ (by simp)
      cases fault : type.parameterFault? c.parameters with
      | some reason => rwa [fault] at notFault
      | none =>
          dsimp only
          split_ifs <;> simp

/-- What qualifies goes on to qualify when its own level is raised and those of its contexts are
lowered. A constructor without marks is inaccessible just if its level is restricted, or grants
access within its project only while the type or one around it is public. The context reported is
the innermost that does not admit the level: the type's own, or else that of a type around it which
holds only types, the declared one among them, that do admit it. -/
theorem visibility_monotone (type : TypeDecl) (c : Constructor) (tuples : TupleSupport) :
    (type.ineligibility? c tuples = none → ∀ level lowered, c.accessibility ≤ level →
      type.Lowered lowered →
        lowered.ineligibility? { c with accessibility := level } tuples = none) ∧
    (¬ type.OptsOut c → c.isObsolete = false →
      ((∃ level context, type.ineligibility? c tuples = some (.inaccessible level context)) ↔
        c.accessibility ∈ [.priv, .prot, .privProt] ∨
          c.accessibility ∈ [.internal, .protInternal] ∧
            (type.accessibility = .pub ∨ ∃ outer ∈ type.enclosing, outer.accessibility = .pub)) ∧
      ∀ level context, type.ineligibility? c tuples = some (.inaccessible level context) ↔
        level = c.accessibility ∧ context.admits level = false ∧
          (context = type.accessibility ∨ type.accessibility.admits level = true ∧
            ∃ further outer closer, type.enclosing = further ++ outer :: closer ∧
              outer.accessibility = context ∧
              ∀ between ∈ closer, between.accessibility.admits level = true)) := by
  constructor
  · intro eligible level lowered raised lower
    obtain ⟨active, current, visible, faultless, fits⟩ := eligible_iff.mp eligible
    have marks : lowered.isOptedOut = type.isOptedOut := by rw [lower.frame]
    refine eligible_iff.mpr ⟨?_, current, ?_, ?_, fits⟩
    · rwa [OptsOut, marks]
    · exact Accessibility.firstRejecting?_of_le lower.chain raised visible
    · rw [lower.parameterFault?, faultless]
  · intro active current
    constructor
    · have inChain : .pub ∈ type.accessibilityChain ↔
          type.accessibility = .pub ∨ ∃ outer ∈ type.enclosing, outer.accessibility = .pub := by
        simp [accessibilityChain, eq_comm]
      have someContext : type.accessibilityChain ≠ [] := List.cons_ne_nil _ _
      rw [← inChain, ← Accessibility.exists_firstRejecting?_iff someContext]
      simp only [inaccessible_iff active current]
      exact ⟨fun ⟨_, context, _, rejecting⟩ => ⟨context, rejecting⟩,
        fun ⟨context, rejecting⟩ => ⟨_, context, rfl, rejecting⟩⟩
    · intro level context
      rw [inaccessible_iff active current, Accessibility.firstRejecting?_eq_some_iff,
        accessibilityChain_split_iff]
      exact and_congr_right fun same => by rw [same]

/-- A meter in a lab on a site, with a constructor. -/
def meterDecl (site level : Accessibility) : TypeDecl where
  name := "Meter"
  enclosing :=
    [{ name := "Site", accessibility := site }, { name := "Lab", accessibility := .protInternal }]
  accessibility := .internal
  constructors := [{
    accessibility := level
    parameters := [⟨"value", .named "System.Int32" "int" .concrete⟩] }]

/-- On a site for the project and what derives from it, a constructor for the project qualifies, and
so it does for more on a private site. On a public site it is the site that rejects it, behind the
lab and the meter. No context admits a private constructor, and the meter's own one is reported. -/
theorem visibility_monotone_meter :
    let c := (meterDecl .pub .internal).constructors[0]
    let hidden := (meterDecl .pub .priv).constructors[0]
    (meterDecl .protInternal .internal).ineligibility? c .native = none ∧
      (meterDecl .priv .internal).ineligibility? { c with accessibility := .protInternal }
        .native = none ∧
      (∃ level context, (meterDecl .pub .internal).ineligibility? c .native =
        some (.inaccessible level context)) ∧
      (meterDecl .pub .internal).ineligibility? c .native =
        some (.inaccessible .internal .pub) ∧
      (meterDecl .pub .priv).ineligibility? hidden .native =
        some (.inaccessible .priv .internal) ∧
      Accessibility.pub.admits .priv = false := by
  intro c hidden
  have eligible : (meterDecl .protInternal .internal).ineligibility? c .native = none := by
    decide +kernel
  have lower : (meterDecl .protInternal .internal).Lowered (meterDecl .priv .internal) :=
    ⟨rfl, by decide, .cons ⟨rfl, by decide⟩ (.cons ⟨rfl, by decide⟩ .nil)⟩
  have active : ¬ (meterDecl .pub .internal).OptsOut c := by simp [OptsOut, c, meterDecl]
  have active' : ¬ (meterDecl .pub .priv).OptsOut hidden := by simp [OptsOut, hidden, meterDecl]
  obtain ⟨rejected, reported⟩ :=
    (visibility_monotone (meterDecl .pub .internal) c .native).2 active rfl
  obtain ⟨-, reported'⟩ :=
    (visibility_monotone (meterDecl .pub .priv) hidden .native).2 active' rfl
  refine ⟨eligible, (visibility_monotone _ c .native).1 eligible _ _ (by decide) lower,
    rejected.mpr (.inr ⟨by decide, .inr ⟨_, List.mem_cons_self, rfl⟩⟩), ?_, ?_, rfl⟩
  · have lab : ∀ between ∈ [({ name := "Lab", accessibility := .protInternal } : EnclosingType)],
        between.accessibility.admits .internal = true := List.forall_mem_singleton.mpr rfl
    exact (reported _ _).mpr ⟨rfl, rfl, .inr ⟨rfl, [], _, _, rfl, rfl, lab⟩⟩
  · exact (reported' _ _).mpr ⟨rfl, rfl, .inl rfl⟩

end TypeDecl

end ConversionSynthesis
