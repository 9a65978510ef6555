import ConversionSynthesis.Signature
import ConversionSynthesis.Text.Digits

/-! # Command lines

A command line names a command, its manifest and its options, in any order behind the command. Words
are read from left to right, and the first one that asks for help or cannot be understood decides.
-/

namespace ConversionSynthesis.CommandLine

inductive Target where
  | directory (path : String)
  | stdout
deriving DecidableEq, Repr

inductive Command where
  | generate (manifest : String) (target : Target) (tuples : TupleSupport) (workers : Option Nat)
  | explain (manifest : String) (type : Option String) (tuples : TupleSupport)
  | check (manifest : String)
deriving DecidableEq, Repr

inductive Interruption where
  | usage
  | help
  | version
deriving DecidableEq, Repr

def defaultDirectory : String := "implicitgen_output"

structure OptionSpec where
  long : String
  short : Option Char := none
  accepts? : Option (String → Bool) := none

structure Given where
  operand : Option String := none
  /-- The options by their long names, each with its value; a flag has an empty one. -/
  options : List (String × String) := []
deriving DecidableEq, Repr

namespace Given

def has (given : Given) (long : String) : Bool :=
  (given.options.lookup long).isSome

def value? (given : Given) (long : String) : Option String :=
  given.options.lookup long

def addOperand (given : Given) (word : String) : Except Interruption Given :=
  if given.operand.isSome || word.isEmpty then .error .usage
  else .ok { given with operand := some word }

def addOption (given : Given) (spec : OptionSpec) (value : String) : Except Interruption Given :=
  if given.has spec.long || !(spec.accepts?.getD fun _ => true) value then .error .usage
  else .ok { given with options := given.options ++ [(spec.long, value)] }

end Given

inductive Word where
  | operand (text : String)
  /-- Two dashes alone: all further words are operands. -/
  | endOfOptions
  /-- A name behind two dashes, and what follows its equals sign. -/
  | long (name : String) (attached : Option String)
  | short (letter : Char) (attached : List Char)
deriving DecidableEq, Repr

/-- The part before the first equals sign, and the part behind it, if there is one. -/
def splitAtEquals : List Char → List Char × Option (List Char)
  | [] => ([], none)
  | c :: rest =>
      if c = '=' then ([], some rest)
      else
        let (front, back) := splitAtEquals rest
        (c :: front, back)

def Word.ofText (text : String) : Word :=
  match text.toList with
  | ['-', '-'] => endOfOptions
  | '-' :: '-' :: rest =>
      let (name, attached) := splitAtEquals rest
      long (String.ofList name) (attached.map String.ofList)
  | '-' :: letter :: rest => short letter rest
  | _ => operand text

/-- Whether a word may follow an option as its value: a lone dash may, but nothing else that starts
with one. -/
def mayBeValue (text : String) : Bool :=
  match Word.ofText text with
  | .operand _ => true
  | _ => false

inductive Meaning where
  | operand (text : String)
  | endOfOptions
  | option (spec : OptionSpec) (value : String)
  /-- An option whose value is the next word. -/
  | optionOfNext (spec : OptionSpec)

def optionMeaning (spec? : Option OptionSpec) (attached : Option String) :
    Except Interruption Meaning :=
  match spec? with
  | none => .error .usage
  | some spec =>
      match spec.accepts?, attached with
      | none, none => .ok (.option spec "")
      | none, some _ => .error .usage
      | some _, none => .ok (.optionOfNext spec)
      | some _, some value => .ok (.option spec value)

/-- The meaning of a word to a command that knows these options. An equals sign may stand between a
letter and its value. -/
def meaning (specs : List OptionSpec) : Word → Except Interruption Meaning
  | .operand text => .ok (.operand text)
  | .endOfOptions => .ok .endOfOptions
  | .long "help" none => .error .help
  | .long name attached => optionMeaning (specs.find? (·.long == name)) attached
  | .short 'h' _ => .error .help
  | .short letter attached =>
      let spec? := specs.find? (·.short == some letter)
      match attached with
      | [] => optionMeaning spec? none
      | '=' :: value => optionMeaning spec? (some (String.ofList value))
      | value => optionMeaning spec? (some (String.ofList value))

def readOperands (given : Given) : List String → Except Interruption Given
  | [] => .ok given
  | word :: rest => do
      let given ← given.addOperand word
      readOperands given rest

def readWords (specs : List OptionSpec) (given : Given) : List String → Except Interruption Given
  | [] => .ok given
  | word :: rest => do
      match ← meaning specs (.ofText word) with
      | .operand text =>
          let given ← given.addOperand text
          readWords specs given rest
      | .endOfOptions => readOperands given rest
      | .option spec value =>
          let given ← given.addOption spec value
          readWords specs given rest
      | .optionOfNext spec =>
          match rest with
          | [] => .error .usage
          | value :: rest =>
              if mayBeValue value then
                let given ← given.addOption spec value
                readWords specs given rest
              else .error .usage

/-- The number of workers that a text asks for: a number from 1 to 65535, with a plus sign or
without. -/
def workers? (text : String) : Option Nat :=
  let digits :=
    match text.toList with
    | '+' :: digits => digits
    | digits => digits
  (Text.decimal? digits).filter fun count => 1 ≤ count && count ≤ 65535

def noTuples : OptionSpec := { long := "no-tuples" }

def generateOptions : List OptionSpec := [
  { long := "out-dir", short := some 'o', accepts? := some fun path => !path.isEmpty },
  { long := "stdout" },
  noTuples,
  { long := "threads", accepts? := some fun text => (workers? text).isSome }]

def explainOptions : List OptionSpec := [
  { long := "type", accepts? := some fun _ => true },
  noTuples]

namespace Given

def tuples (given : Given) : TupleSupport :=
  if given.has "no-tuples" then .absent else .native

def manifest (given : Given) : Except Interruption String :=
  match given.operand with
  | some path => .ok path
  | none => .error .usage

/-- Where the options send units; they must not say so twice. -/
def target (given : Given) : Except Interruption Target :=
  match given.value? "out-dir", given.has "stdout" with
  | some _, true => .error .usage
  | some path, false => .ok (.directory path)
  | none, true => .ok .stdout
  | none, false => .ok (.directory defaultDirectory)

end Given

namespace Command

def ofGenerate (words : List String) : Except Interruption Command := do
  let given ← readWords generateOptions {} words
  let manifest ← given.manifest
  let target ← given.target
  return generate manifest target given.tuples ((given.value? "threads").bind workers?)

def ofExplain (words : List String) : Except Interruption Command := do
  let given ← readWords explainOptions {} words
  let manifest ← given.manifest
  return explain manifest (given.value? "type") given.tuples

def ofCheck (words : List String) : Except Interruption Command := do
  let given ← readWords [] {} words
  let manifest ← given.manifest
  return check manifest

def names : List String := ["generate", "explain", "check", "help"]

/-- Why words that name no command give none. -/
def interruption (word : String) (rest : List String) : Interruption :=
  if word = "help" then
    match rest with
    | [] => .help
    | [name] => if names.contains name then .help else .usage
    | _ => .usage
  else
    match Word.ofText word with
    | .long "help" none => .help
    | .long "version" none => .version
    | .short 'h' _ => .help
    | .short 'V' _ => .version
    | _ => .usage

def ofWords : List String → Except Interruption Command
  | [] => .error .usage
  | "generate" :: rest => ofGenerate rest
  | "explain" :: rest => ofExplain rest
  | "check" :: rest => ofCheck rest
  | word :: rest => .error (interruption word rest)

end Command

end ConversionSynthesis.CommandLine
