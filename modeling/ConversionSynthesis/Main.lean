import ConversionSynthesis.CommandLine.Run

/-! # The program

The outermost layer: it connects commands to the files and the output of a process.
-/

namespace ConversionSynthesis.CommandLine

def succeeds (action : IO Unit) : IO Bool :=
  try
    action
    pure true
  catch _ => pure false

def attempt? {α : Type} (action : IO α) : IO (Option α) :=
  try
    return some (← action)
  catch _ => pure none

def processSurroundings : Surroundings IO where
  makeDirectory path :=
    if path.isEmpty then pure true else succeeds (IO.FS.createDirAll path)
  write path text := succeeds (IO.FS.writeFile path text)
  fileSize? path := attempt? do
    let file ← IO.FS.realPath path
    return (← file.metadata).byteSize.toNat
  fileText? path := attempt? (IO.FS.readFile path)
  print text := IO.print text
  pool _ := pure (.ok .inTurn)

def helpText : String :=
  "Generate implicit conversion operators from constructor declarations\n\n" ++
  "Usage: implicitgen <COMMAND>\n\n" ++
  "Commands:\n" ++
  "  generate <MANIFEST> [-o, --out-dir <DIR>] [--stdout] [--no-tuples] [--threads <N>]\n" ++
  "  explain <MANIFEST> [--type <NAME>] [--no-tuples]\n" ++
  "  check <MANIFEST>\n" ++
  "  help [COMMAND]\n\n" ++
  "Options:\n" ++
  "  -h, --help\n" ++
  "  -V, --version"

def stop : Interruption → IO UInt32
  | .usage => do
      IO.eprintln helpText
      return 2
  | .help => do
      IO.println helpText
      return 0
  | .version => do
      IO.println "implicitgen 0.1.0"
      return 0

def runWords (words : List String) : IO UInt32 := do
  match Command.ofWords words with
  | .error interruption => stop interruption
  | .ok command =>
      match ← command.run processSurroundings with
      | .ok () => return 0
      | .error failure =>
          for line in failure.report do
            IO.eprintln line
          return 1

end ConversionSynthesis.CommandLine

def main (words : List String) : IO UInt32 :=
  ConversionSynthesis.CommandLine.runWords words
