import ConversionSynthesis.Fragment.Unit
import ConversionSynthesis.Report

/-! # Whole batches of types

A batch turns a list of types into the list of their units. The work is done by a pool of workers,
of whom no more is asked than that results keep the order of the types and that no error is lost. A
run that some worker finds cancelled gives no units at all.
-/

namespace ConversionSynthesis

inductive BatchError where
  | cancelled
  /-- Two types, named in order, have one unit identifier. -/
  | duplicateIdentifier (identifier first second : String)
deriving DecidableEq, Repr

def BatchError.message : BatchError → String
  | cancelled => "generation cancelled"
  | duplicateIdentifier identifier first second =>
      "types '" ++ first ++ "' and '" ++ second ++ "' both generate '" ++ identifier ++ "'"

structure WorkerPool (α β ε : Type) where
  mapM : (work : α → Except ε β) → (items : List α) → Except ε (List β)
  /-- Results come in the order of the items. -/
  keepsOrder : ∀ {work items results}, items.map work = results.map .ok →
    mapM work items = .ok results
  /-- Where work fails, the error of an item on which it fails is all that is given. -/
  reportsError : ∀ {work items}, (∃ item ∈ items, ∃ error, work item = .error error) →
    ∃ item ∈ items, ∃ error, work item = .error error ∧ mapM work items = .error error

namespace WorkerPool

variable {α β ε : Type} {work : α → Except ε β} {items : List α}

theorem mapM_eq_ok {results : List β} (all : items.map work = results.map .ok) :
    items.mapM work = .ok results := by
  induction items generalizing results with
  | nil =>
      cases List.map_eq_nil_iff.mp all.symm
      rfl
  | cons item rest ih =>
      obtain ⟨result, results, rfl, first, others⟩ := List.map_eq_cons_iff.mp all.symm
      rw [List.mapM_cons, ← first, ih others.symm]
      rfl

theorem exists_mapM_eq_error (some : ∃ item ∈ items, ∃ error, work item = .error error) :
    ∃ item ∈ items, ∃ error, work item = .error error ∧ items.mapM work = .error error := by
  induction items with
  | nil =>
      obtain ⟨_, mem, _⟩ := some
      cases mem
  | cons item rest ih =>
      cases first : work item with
      | error error =>
          refine ⟨item, List.mem_cons_self, error, first, ?_⟩
          rw [List.mapM_cons, first]
          rfl
      | ok result =>
          obtain ⟨failing, mem, error, failed⟩ := some
          have later : failing ∈ rest := by
            rcases List.mem_cons.mp mem with rfl | later
            · rw [first] at failed
              cases failed
            · exact later
          obtain ⟨failing, mem, error, failed, stopped⟩ := ih ⟨failing, later, error, failed⟩
          refine ⟨failing, List.mem_cons_of_mem _ mem, error, failed, ?_⟩
          rw [List.mapM_cons, first, stopped]
          rfl

def inTurn : WorkerPool α β ε where
  mapM work items := items.mapM work
  keepsOrder := mapM_eq_ok
  reportsError := exists_mapM_eq_error

end WorkerPool

abbrev BatchPool := WorkerPool (TypeDecl × Nat) (Option GeneratedUnit) BatchError

structure BatchSettings where
  tuples : TupleSupport := .native
  options : UnitOptions := {}
  workers : Option Nat := none
  /-- The workers that a run has which asks for so many. -/
  pool : Option Nat → BatchPool := fun _ => .inTurn

namespace Batch

/-- The unit of a type with its position, unless its worker finds the run cancelled there. -/
def attempt (settings : BatchSettings) (isCancelledAt : Nat → Bool) (entry : TypeDecl × Nat) :
    Except BatchError (Option GeneratedUnit) :=
  if isCancelledAt entry.2 then .error .cancelled
  else .ok (entry.1.unit? settings.tuples settings.options)

def attempts (settings : BatchSettings) (isCancelledAt : Nat → Bool) (types : List TypeDecl) :
    Except BatchError (List (Option GeneratedUnit)) :=
  (settings.pool settings.workers).mapM (attempt settings isCancelledAt) types.zipIdx

/-- The units among what types gave, in order; `claimed` lists the identifiers given before, each
with the identity of its type. -/
def collect (claimed : List (String × String)) :
    List (TypeDecl × Option GeneratedUnit) → Except BatchError (List GeneratedUnit)
  | [] => .ok []
  | (_, none) :: rest => collect claimed rest
  | (type, some unit) :: rest =>
      match claimed.lookup unit.identifier with
      | some first => .error (.duplicateIdentifier unit.identifier first type.identity)
      | none =>
          (collect ((unit.identifier, type.identity) :: claimed) rest).map (unit :: ·)

end Batch

/-- The units of types, in order; types without one are passed over. `isCancelledAt` says at which
positions the worker finds the run cancelled. -/
def generateAll (settings : BatchSettings) (isCancelledAt : Nat → Bool) (types : List TypeDecl) :
    Except BatchError (List GeneratedUnit) :=
  match Batch.attempts settings isCancelledAt types with
  | .error error => .error error
  | .ok results => Batch.collect [] (types.zip results)

/-- The reports on types, in order: on all, or on those with a simple name or an identity. -/
def explainAll (types : List TypeDecl) (tuples : TupleSupport) (name? : Option String) :
    List TypeReport :=
  (types.filter fun type =>
    match name? with
    | none => true
    | some name => type.name == name || type.identity == name).map (·.explain tuples)

end ConversionSynthesis
