import ConversionSynthesis.Delivery.Sink
import ConversionSynthesis.Text.Pieces

/-! # Units as files of a directory

Every unit becomes a file under its identifier. The directory must not lead outside by way of `..`,
and an identifier names a file in it and nothing else.
-/

namespace ConversionSynthesis

/-- The ways to change files; each says whether it went well. -/
structure FileAccess (m : Type → Type) where
  makeDirectory : (path : String) → m Bool
  write : (path text : String) → m Bool

def isAbsolute (path : String) : Bool :=
  path.toList.head? == some '/'

/-- Whether a name in a path leads on; the other names stay where they are. -/
def leadsOn (name : String) : Bool :=
  name != "" && name != "."

/-- What tells paths apart: where they start, and the names in them that lead on. A path may start
at the root, or say with a dot that it starts at the current directory. -/
def pathComponents (path : String) : List String :=
  let pieces := Text.pieces '/' path
  let start :=
    if isAbsolute path then ["/"]
    else if pieces.head? == some "." then ["."]
    else []
  start ++ pieces.filter leadsOn

def samePath (left right : String) : Bool :=
  pathComponents left == pathComponents right

/-- The path of a name in a directory; the empty path stands for the current one. A name that is an
absolute path stands for itself. -/
def pathIn (directory name : String) : String :=
  if isAbsolute name || directory.isEmpty then name
  else if directory.toList.getLast? = some '/' then directory ++ name
  else directory ++ "/" ++ name

def leadsUpwards (path : String) : Bool :=
  (pathComponents path).contains ".."

structure UnitDirectory where
  path : String
  written : List String := []
deriving DecidableEq, Repr

namespace UnitDirectory

def create {m : Type → Type} [Monad m] (files : FileAccess m) (path : String) :
    m (Except SinkError UnitDirectory) := do
  if leadsUpwards path then pure (.error (.invalidDirectory path))
  else if ← files.makeDirectory path then pure (.ok { path })
  else pure (.error (.unwritable path))

/-- The sink that writes units to a directory; a file that it wrote is never written again. -/
def sink {m : Type → Type} [Monad m] (files : FileAccess m) : Sink (StateT UnitDirectory m) :=
  fun unit directory => do
    let path := pathIn directory.path unit.identifier
    if !isUnitIdentifier unit.identifier then
      pure (.error (.invalidIdentifier unit.identifier), directory)
    else if directory.written.any (samePath path) then
      pure (.error (.duplicateIdentifier unit.identifier), directory)
    else if ← files.write path unit.text then
      pure (.ok (), { directory with written := directory.written ++ [path] })
    else pure (.error (.unwritable path), directory)

end UnitDirectory

end ConversionSynthesis
