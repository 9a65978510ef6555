import ConversionSynthesis.Declaration.HostType

/-! # Manifests

A manifest lists declarations as they were found, with all spellings still text. Entries that give
no value for a field get the one stated here.
-/

namespace ConversionSynthesis

structure ParameterEntry where
  name : String := ""
  type : String := ""
deriving DecidableEq, Repr

structure ConstructorEntry where
  accessibility : String := "public"
  optOut : Bool := false
  isObsolete : Bool := false
  parameters : List ParameterEntry := []
deriving DecidableEq, Repr

structure ConversionEntry where
  kind : String := "implicit"
  parameters : List String := []
deriving DecidableEq, Repr

structure EnclosingEntry where
  name : String := ""
  kind : String := "class"
  accessibility : String := "public"
  isPartial : Bool := true
  typeParameters : List String := []
deriving DecidableEq, Repr

structure TypeEntry where
  name : String := ""
  namespacePath : Option String := none
  kind : String := "class"
  accessibility : String := "public"
  isPartial : Bool := true
  isAbstract : Bool := false
  isStatic : Bool := false
  optOut : Bool := false
  typeParameters : List String := []
  /-- The types around it, the outermost first. -/
  enclosing : List EnclosingEntry := []
  usings : List String := []
  constructors : List ConstructorEntry := []
  conversions : List ConversionEntry := []
deriving DecidableEq, Repr

structure Manifest where
  hasTuples : Bool := true
  /-- The capabilities of names that the manifest does not declare, or declares as such. -/
  symbols : List (String × Capability) := []
  types : List TypeEntry := []
deriving DecidableEq, Repr

end ConversionSynthesis
