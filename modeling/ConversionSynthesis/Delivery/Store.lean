import ConversionSynthesis.Delivery.Sink

/-! # Units in memory -/

namespace ConversionSynthesis

/-- Units in the order they came in; no identifier comes twice. -/
structure UnitStore where
  units : List GeneratedUnit := []
deriving DecidableEq, Repr

namespace UnitStore

def holds (store : UnitStore) (identifier : String) : Bool :=
  store.units.any (·.identifier == identifier)

def push (store : UnitStore) (unit : GeneratedUnit) : UnitStore :=
  ⟨store.units ++ [unit]⟩

def sink : Sink (StateM UnitStore) := fun unit store =>
  if !isUnitIdentifier unit.identifier then (.error (.invalidIdentifier unit.identifier), store)
  else if store.holds unit.identifier then
    (.error (.duplicateIdentifier unit.identifier), store)
  else (.ok (), store.push unit)

@[simp]
theorem units_push (store : UnitStore) (unit : GeneratedUnit) :
    (store.push unit).units = store.units ++ [unit] := rfl

end UnitStore

end ConversionSynthesis
