import ConversionSynthesis.CommandLine.Arguments
import ConversionSynthesis.Delivery.Directory
import ConversionSynthesis.Delivery.Stream
import ConversionSynthesis.Manifest.Loading

/-! # Running commands

A command asks its surroundings for files and hands them what it prints. It loads its manifest
before it does anything else.
-/

namespace ConversionSynthesis.CommandLine

/-- What a command asks of its surroundings. -/
structure Surroundings (m : Type → Type) extends FileAccess m where
  fileSize? : (path : String) → m (Option Nat)
  fileText? : (path : String) → m (Option String)
  print : (text : String) → m Unit
  /-- The workers of a run that asks for so many, or why there are none. -/
  pool : (workers : Option Nat) → m (Except String BatchPool)

inductive Failure where
  | load (error : LoadError)
  | delivery (error : DeliveryError)
  | noWorkers (reason : String)
  | unknownType (name : String)
deriving DecidableEq, Repr

def Failure.message : Failure → String
  | load error => error.message
  | delivery error => "Error: " ++ error.message
  | noWorkers reason => "Error: failed to build worker pool: " ++ reason
  | unknownType name => "No type named '" ++ name ++ "' in manifest"

/-- The lines that tell of a failure: its words, and for a manifest also its code and its help. -/
def Failure.report : Failure → List String
  | load error => [error.code, error.message] ++ error.help?.toList
  | failure => [failure.message]

section

variable {m : Type → Type} [Monad m]

def Surroundings.printLine (around : Surroundings m) (text : String) : m Unit :=
  around.print (text ++ "\n")

def loadManifest (around : Surroundings m) (path : String) :
    m (Except LoadError Declarations) := do
  match ← around.fileSize? path with
  | none => pure (.error (.unreadable path))
  | some size =>
      if maxManifestSize < size then pure (.error (.tooLarge path size))
      else
        match ← around.fileText? path with
        | none => pure (.error (.unreadable path))
        | some text => pure (Declarations.ofText path text)

def withWorkers (around : Surroundings m) (settings : BatchSettings)
    (run : BatchSettings → m (Except DeliveryError Nat)) : m (Except Failure Nat) := do
  match ← around.pool settings.workers with
  | .error reason => pure (.error (.noWorkers reason))
  | .ok pool =>
      match ← run { settings with pool := fun _ => pool } with
      | .error error => pure (.error (.delivery error))
      | .ok count => pure (.ok count)

def generate (around : Surroundings m) (settings : BatchSettings) (types : List TypeDecl) :
    Target → m (Except Failure Unit)
  | .stdout => do
      let write (text : String) : m Bool := do
        around.print text
        pure true
      match ← withWorkers around settings fun settings =>
        generateInto settings (fun _ => false) types (listingSink write) with
      | .error failure => pure (.error failure)
      | .ok _ => pure (.ok ())
  | .directory path => do
      match ← UnitDirectory.create around.toFileAccess path with
      | .error error => pure (.error (.delivery (.sink error)))
      | .ok directory =>
          let sink := UnitDirectory.sink around.toFileAccess
          match ← withWorkers around settings fun settings =>
            (generateInto settings (fun _ => false) types sink).run' directory with
          | .error failure => pure (.error failure)
          | .ok count =>
              around.printLine ("✓ Generated " ++ toString count ++ " unit(s) in: " ++ path)
              pure (.ok ())

/-- Reports on types, or on those with a name; there must be some. -/
def explain (around : Surroundings m) (types : List TypeDecl) (tuples : TupleSupport)
    (name? : Option String) : m (Except Failure Unit) := do
  match explainAll types tuples name?, name? with
  | [], some name => pure (.error (.unknownType name))
  | reports, _ =>
      for report in reports do
        around.printLine report.message
      pure (.ok ())

def Command.run (around : Surroundings m) : Command → m (Except Failure Unit)
  | .generate manifest target tuples workers => do
      match ← loadManifest around manifest with
      | .error error => pure (.error (.load error))
      | .ok declarations =>
          let settings : BatchSettings := { tuples := declarations.tuples.meet tuples, workers }
          CommandLine.generate around settings declarations.types target
  | .explain manifest name? tuples => do
      match ← loadManifest around manifest with
      | .error error => pure (.error (.load error))
      | .ok declarations =>
          CommandLine.explain around declarations.types (declarations.tuples.meet tuples) name?
  | .check manifest => do
      match ← loadManifest around manifest with
      | .error error => pure (.error (.load error))
      | .ok declarations =>
          around.printLine ("✓ " ++ toString declarations.types.length ++ " type(s) validated")
          pure (.ok ())

end

end ConversionSynthesis.CommandLine
