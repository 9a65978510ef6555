import ConversionSynthesis.Proofs.Declaration.Alike
import ConversionSynthesis.Proofs.Manifest.Checking

/-! # Entries with other texts

An entry may be rewritten by writing its types in other texts. Where each new text denotes a type
like the one before, the entry still declares something, and that is like what it declared before.
What rewriting texts and being like each other mean is left open here.
-/

namespace ConversionSynthesis

variable (rewrites : String → String → Prop) (alike : HostType → HostType → Prop)

/-! ## Entries side by side -/

/-- The same entry of a parameter, up to a text. -/
structure ParameterEntry.Rewritten (entry entry' : ParameterEntry) : Prop where
  name : entry'.name = entry.name
  type : rewrites entry.type entry'.type

/-- The same entry of a constructor, up to texts. -/
structure ConstructorEntry.Rewritten (entry entry' : ConstructorEntry) : Prop where
  accessibility : entry'.accessibility = entry.accessibility
  optOut : entry'.optOut = entry.optOut
  isObsolete : entry'.isObsolete = entry.isObsolete
  parameters :
    List.Forall₂ (ParameterEntry.Rewritten rewrites) entry.parameters entry'.parameters

/-- The same entry of a conversion, up to texts. -/
structure ConversionEntry.Rewritten (entry entry' : ConversionEntry) : Prop where
  kind : entry'.kind = entry.kind
  parameters : List.Forall₂ rewrites entry.parameters entry'.parameters

/-- The same entry of a type, up to texts. -/
structure TypeEntry.Rewritten (entry entry' : TypeEntry) : Prop where
  frame : entry' =
    { entry with constructors := entry'.constructors, conversions := entry'.conversions }
  constructors :
    List.Forall₂ (ConstructorEntry.Rewritten rewrites) entry.constructors entry'.constructors
  conversions :
    List.Forall₂ (ConversionEntry.Rewritten rewrites) entry.conversions entry'.conversions

/-- The texts of types that an entry holds. -/
def TypeEntry.texts (entry : TypeEntry) : List String :=
  entry.constructors.flatMap (fun constructor => constructor.parameters.map (·.type)) ++
    entry.conversions.flatMap (·.parameters)

theorem TypeEntry.forall_mem_texts {entry : TypeEntry} {holds : String → Prop} :
    (∀ text ∈ entry.texts, holds text) ↔
      (∀ constructor ∈ entry.constructors, ∀ parameter ∈ constructor.parameters,
        holds parameter.type) ∧
      ∀ conversion ∈ entry.conversions, ∀ text ∈ conversion.parameters, holds text := by
  simp only [texts, List.forall_mem_append, List.forall_mem_flatMap, List.forall_mem_map]

/-- An entry stays as it is if its texts do. -/
theorem TypeEntry.Rewritten.of_texts {entry : TypeEntry}
    (stays : ∀ text ∈ entry.texts, rewrites text text) : entry.Rewritten rewrites entry where
  frame := rfl
  constructors := by
    rw [List.forall₂_same]
    intro constructor listed
    have parameters :
        List.Forall₂ (ParameterEntry.Rewritten rewrites) constructor.parameters
          constructor.parameters := by
      rw [List.forall₂_same]
      intro parameter mem
      exact ⟨rfl, (forall_mem_texts.mp stays).1 constructor listed parameter mem⟩
    exact ⟨rfl, rfl, rfl, parameters⟩
  conversions := by
    rw [List.forall₂_same]
    intro conversion listed
    have parameters : List.Forall₂ rewrites conversion.parameters conversion.parameters := by
      rw [List.forall₂_same]
      exact (forall_mem_texts.mp stays).2 conversion listed
    exact ⟨rfl, parameters⟩

theorem TypeEntry.Rewritten.refl (entry : TypeEntry) : entry.Rewritten (· = ·) entry :=
  .of_texts (· = ·) fun _ _ => rfl

/-! ## Carrying declarations over -/

variable {rewrites alike} {scope scope' : Scope}

/-- Rewriting a text carries its type in one scope over to a like type in the other. -/
def Carries (rewrites : String → String → Prop) (alike : HostType → HostType → Prop)
    (scope scope' : Scope) : Prop :=
  ∀ text text' type, rewrites text text' → Denotes scope text type →
    ∃ type', Denotes scope' text' type' ∧ alike type type'

theorem ParameterEntry.Declares.carry (carries : Carries rewrites alike scope scope')
    {entry entry' : ParameterEntry} {parameter : Parameter}
    (rewritten : entry.Rewritten rewrites entry') (declares : entry.Declares scope parameter) :
    ∃ parameter', entry'.Declares scope' parameter' ∧ parameter.Alike alike parameter' := by
  obtain ⟨type', denoted, like⟩ := carries _ _ _ rewritten.type declares.type
  refine ⟨⟨parameter.name, type'⟩, ⟨?_, ?_, denoted⟩, ⟨rfl, like⟩⟩
  · rw [rewritten.name]
    exact declares.declarable
  · rw [rewritten.name]
    exact declares.name

theorem ConstructorEntry.Declares.carry (carries : Carries rewrites alike scope scope')
    {entry entry' : ConstructorEntry} {constructor : Constructor}
    (rewritten : entry.Rewritten rewrites entry')
    (declares : entry.Declares scope constructor) :
    ∃ constructor', entry'.Declares scope' constructor' ∧
      constructor.Alike alike constructor' := by
  obtain ⟨parameters', declared, like⟩ := forall₂_carry rewritten.parameters declares.parameters
    fun _ _ _ => ParameterEntry.Declares.carry carries
  have names : parameters'.map (·.name) = constructor.parameters.map (·.name) :=
    map_eq_of_forall₂ like fun _ _ => Parameter.Alike.name
  refine ⟨{ constructor with parameters := parameters' },
    ⟨?_, ?_, ?_, declared, names ▸ declares.distinct⟩, ⟨rfl, rfl, rfl, like⟩⟩
  · rw [rewritten.accessibility]
    exact declares.accessibility
  · rw [rewritten.optOut]
    exact declares.isOptedOut
  · rw [rewritten.isObsolete]
    exact declares.isObsolete

theorem ConversionEntry.Declares.carry (carries : Carries rewrites alike scope scope')
    {entry entry' : ConversionEntry} {conversion : Conversion}
    (rewritten : entry.Rewritten rewrites entry') (declares : entry.Declares scope conversion) :
    ∃ conversion', entry'.Declares scope' conversion' ∧ conversion.Alike alike conversion' := by
  obtain ⟨parameters', denoted, like⟩ :=
    forall₂_carry rewritten.parameters declares.parameters carries
  refine ⟨⟨conversion.kind, parameters'⟩, ⟨?_, denoted⟩, ⟨rfl, like⟩⟩
  rw [rewritten.kind]
  exact declares.kind

theorem TypeEntry.Declares.carry {entry entry' : TypeEntry} {type : TypeDecl}
    (carries : Carries rewrites alike (entry.inner scope) (entry.inner scope'))
    (rewritten : entry.Rewritten rewrites entry') (declares : entry.Declares scope type) :
    ∃ type', entry'.Declares scope' type' ∧ type.Alike alike type' := by
  obtain ⟨frame, constructors, conversions⟩ := rewritten
  obtain ⟨constructors', builtConstructors, likeConstructors⟩ :=
    forall₂_carry constructors declares.constructors
      fun _ _ _ => ConstructorEntry.Declares.carry carries
  obtain ⟨conversions', builtConversions, likeConversions⟩ :=
    forall₂_carry conversions declares.conversions
      fun _ _ _ => ConversionEntry.Declares.carry carries
  refine ⟨{ type with constructors := constructors', conversions := conversions' }, ?_,
    ⟨rfl, likeConstructors, likeConversions⟩⟩
  generalize entry'.constructors = cs at *
  generalize entry'.conversions = ops at *
  subst frame
  exact { declares with constructors := builtConstructors, conversions := builtConversions }

end ConversionSynthesis
