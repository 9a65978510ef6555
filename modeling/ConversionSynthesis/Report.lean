import ConversionSynthesis.Candidate

/-! # Reports of decisions

A report names the outcome of every constructor of a type, or the reason why the type gets no
conversions at all.
-/

namespace ConversionSynthesis

inductive Outcome where
  | synthesized (signature : Signature)
  | ineligible (reason : Ineligibility)
  | collides (conversion : Nat)
  /-- An earlier constructor claims the same signature. -/
  | duplicates (constructor : Nat)

structure ConstructorReport where
  index : Nat
  outcome : Outcome

/-- The decisions about one type; a rejected type has no outcomes. -/
structure TypeReport where
  identity : String
  rejection : Option Rejection
  constructors : List ConstructorReport

namespace Outcome

def isSynthesized : Outcome → Bool
  | synthesized _ => true
  | _ => false

def message : Outcome → String
  | synthesized signature =>
      "synthesized (" ++
        ", ".intercalate (signature.map fun e => e.type.display ++ " " ++ e.name) ++ ")"
  | ineligible reason => "skipped: " ++ reason.message
  | collides conversion =>
      "skipped: collides with user-written conversion #" ++ toString conversion
  | duplicates constructor => "skipped: duplicates constructor #" ++ toString constructor

/-- The outcome that a verdict on a candidate amounts to, when `indices` are the positions of the
candidates' constructors. -/
def ofVerdict (indices : List Nat) (candidate : Candidate) : Verdict → Outcome
  | .survives => synthesized candidate.signature
  | .collides conversion => collides conversion
  | .duplicates earlier => duplicates (indices.getD earlier 0)

end Outcome

namespace TypeReport

def synthesizedCount (report : TypeReport) : Nat :=
  report.constructors.countP (·.outcome.isSynthesized)

def message (report : TypeReport) : String :=
  match report.rejection with
  | some rejection => report.identity ++ ": not a candidate (" ++ rejection.message ++ ")"
  | none =>
      if report.constructors.isEmpty then report.identity ++ ": no constructors"
      else
        report.identity ++ String.join (report.constructors.map fun entry =>
          "\n  constructor #" ++ toString entry.index ++ ": " ++ entry.outcome.message)

end TypeReport

namespace TypeDecl

def judged (type : TypeDecl) (tuples : TupleSupport) : List (Candidate × Verdict) :=
  let candidates := type.candidates tuples
  candidates.zip (verdicts tuples type.conversions candidates)

/-- The outcomes by the position of the constructor: the reasons against constructors come first,
and every verdict then takes the place of its candidate's constructor. -/
def outcomeSlots (type : TypeDecl) (tuples : TupleSupport) : List (Option Outcome) :=
  let indices := (type.candidates tuples).map (·.index)
  (type.judged tuples).foldl
    (fun slots entry => slots.set entry.1.index (some (.ofVerdict indices entry.1 entry.2)))
    (type.constructors.map fun constructor =>
      (type.ineligibility? constructor tuples).map .ineligible)

/-- The decisions about a type; a position without an outcome would be left out. -/
def explain (type : TypeDecl) (tuples : TupleSupport) : TypeReport :=
  match type.rejection? with
  | some rejection => ⟨type.identity, some rejection, []⟩
  | none =>
      ⟨type.identity, none, (type.outcomeSlots tuples).zipIdx.filterMap fun entry =>
        entry.1.map fun outcome => ⟨entry.2, outcome⟩⟩

end TypeDecl

end ConversionSynthesis
