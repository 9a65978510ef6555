import ConversionSynthesis.Declaration.TypeDecl
import ConversionSynthesis.Proofs.SideBySide

/-! # Declarations up to like types

Two declarations are alike if they agree in everything but the types of parameters, and these are
like each other in a sense that is left open here.
-/

namespace ConversionSynthesis

section

variable (alike : HostType → HostType → Prop)

/-- The same parameter, up to a like type. -/
structure Parameter.Alike (parameter parameter' : Parameter) : Prop where
  name : parameter'.name = parameter.name
  type : alike parameter.type parameter'.type

/-- The same constructor, up to like types. -/
structure Constructor.Alike (constructor constructor' : Constructor) : Prop where
  accessibility : constructor'.accessibility = constructor.accessibility
  isOptedOut : constructor'.isOptedOut = constructor.isOptedOut
  isObsolete : constructor'.isObsolete = constructor.isObsolete
  parameters :
    List.Forall₂ (Parameter.Alike alike) constructor.parameters constructor'.parameters

/-- The same conversion, up to like types. -/
structure Conversion.Alike (conversion conversion' : Conversion) : Prop where
  kind : conversion'.kind = conversion.kind
  parameters : List.Forall₂ alike conversion.parameters conversion'.parameters

/-- The same declaration, up to like types. -/
structure TypeDecl.Alike (type type' : TypeDecl) : Prop where
  frame : type' =
    { type with constructors := type'.constructors, conversions := type'.conversions }
  constructors :
    List.Forall₂ (Constructor.Alike alike) type.constructors type'.constructors
  conversions :
    List.Forall₂ (Conversion.Alike alike) type.conversions type'.conversions

end

/-! ## Equal types -/

theorem Constructor.Alike.eq {constructor constructor' : Constructor}
    (like : constructor.Alike (· = ·) constructor') : constructor = constructor' := by
  obtain ⟨accessibility, isOptedOut, isObsolete, parameters⟩ := like
  have same := eq_of_forall₂ (fun p p' like => by
    obtain ⟨name, type⟩ := like
    cases p
    cases p'
    simp_all) parameters
  cases constructor
  cases constructor'
  simp_all

theorem Conversion.Alike.eq {conversion conversion' : Conversion}
    (like : conversion.Alike (· = ·) conversion') : conversion = conversion' := by
  obtain ⟨kind, parameters⟩ := like
  have same := eq_of_forall₂ (fun _ _ => id) parameters
  cases conversion
  cases conversion'
  simp_all

theorem TypeDecl.Alike.eq {type type' : TypeDecl} (like : type.Alike (· = ·) type') :
    type = type' := by
  rw [like.frame, ← eq_of_forall₂ (fun _ _ => Constructor.Alike.eq) like.constructors,
    ← eq_of_forall₂ (fun _ _ => Conversion.Alike.eq) like.conversions]

end ConversionSynthesis
