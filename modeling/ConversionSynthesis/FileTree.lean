import ConversionSynthesis.Delivery.Directory
import ConversionSynthesis.Text.Bytes

/-! # File trees

A file tree holds files and directories below one root: all there are, or only those of the current
directory. Paths are walked name by name: empty names and `.` stay, `..` goes up, and a walk leads
only through directories. What lies outside of the root cannot be reached.
-/

namespace ConversionSynthesis

inductive Contents where
  | ofText (text : String)
  | ofBytes (bytes : List UInt8)
  | zeros (count : Nat)
deriving DecidableEq, Repr

namespace Contents

def size : Contents → Nat
  | ofText text => text.utf8ByteSize
  | ofBytes bytes => bytes.length
  | zeros count => count

def text? : Contents → Option String
  | ofText text => some text
  | ofBytes bytes => Text.ofBytes? bytes
  | zeros count => some ("".pushn '\x00' count)

end Contents

inductive FileNode where
  | file (contents : Contents)
  | directory
deriving DecidableEq, Repr

abbrev FilePlace := List String

def maxNameSize : Nat := 255

def maxPathSize : Nat := 4095

/-- The files and directories of a tree by their places, without the root. -/
structure FileTree where
  nodes : List (FilePlace × FileNode) := []
  /-- The current directory, if the tree holds all files; else it is the root. -/
  current? : Option FilePlace := none
deriving DecidableEq, Repr

namespace FileTree

def node? (tree : FileTree) (place : FilePlace) : Option FileNode :=
  if place.isEmpty then some .directory else tree.nodes.lookup place

def hasDirectory (tree : FileTree) (place : FilePlace) : Bool :=
  tree.node? place == some .directory

def insert (tree : FileTree) (place : FilePlace) (node : FileNode) : FileTree :=
  { tree with nodes := tree.nodes.filter (·.1 != place) ++ [(place, node)] }

def start (tree : FileTree) (path : String) : FilePlace :=
  if isAbsolute path then [] else tree.current?.getD []

/-- Whether a path can be walked at all; an absolute one needs a tree of all files. -/
def isWalkable (tree : FileTree) (path : String) : Bool :=
  !path.isEmpty && path.utf8ByteSize ≤ maxPathSize &&
    (!isAbsolute path || tree.current?.isSome) && !path.toList.contains '\x00'

/-- The place that names lead to from a directory; nothing needs to be there. -/
def walk (tree : FileTree) (here : FilePlace) : List String → Option FilePlace
  | [] => some here
  | name :: rest =>
      if !tree.hasDirectory here || maxNameSize < name.utf8ByteSize then none
      else if name == "" || name == "." then tree.walk here rest
      else if name == ".." then
        if here.isEmpty && tree.current?.isNone then none else tree.walk here.dropLast rest
      else tree.walk (here ++ [name]) rest

def locate (tree : FileTree) (path : String) : Option FilePlace :=
  if tree.isWalkable path then tree.walk (tree.start path) (Text.pieces '/' path) else none

def contents? (tree : FileTree) (path : String) : Option Contents :=
  match (tree.locate path).bind tree.node? with
  | some (.file contents) => some contents
  | _ => none

def write (tree : FileTree) (path text : String) : Option FileTree :=
  match tree.locate path with
  | none => none
  | some place =>
      if tree.hasDirectory place then none else some (tree.insert place (.file (.ofText text)))

/-- Makes the directories that names lead to, one below the other, as far as possible. The place of
the last one comes with the tree, if all could be made. -/
def grow (tree : FileTree) (here : FilePlace) : List String → FileTree × Option FilePlace
  | [] => (tree, some here)
  | name :: rest =>
      if maxNameSize < name.utf8ByteSize then (tree, none)
      else
        let place := here ++ [name]
        match tree.node? place with
        | some .directory => tree.grow place rest
        | some (.file _) => (tree, none)
        | none => (tree.insert place .directory).grow place rest

def properNames (path : String) : List String :=
  (Text.pieces '/' path).filter leadsOn

def placeOf (tree : FileTree) (path : String) : FilePlace :=
  tree.start path ++ properNames path

/-- Whether the last name of a path stays where it is, which a missing directory cannot bear. -/
def endsInDot (path : String) : Bool :=
  ((Text.pieces '/' path).filter (· != "")).getLast? == some "."

/-- Makes the directory at a path, with all directories on the way, unless there is one, and says
whether it is there. The empty path asks for nothing. -/
def makeDirectory (tree : FileTree) (path : String) : FileTree × Bool :=
  let names := properNames path
  if path.isEmpty then (tree, true)
  else if !tree.isWalkable path || names.contains ".." then (tree, false)
  else if endsInDot path then
    let (grown, _) := tree.grow (tree.start path) names.dropLast
    (grown, grown.hasDirectory (tree.placeOf path))
  else
    let (grown, place) := tree.grow (tree.start path) names
    (grown, place.isSome)

def plant (tree : FileTree) (path : String) (node : FileNode) : FileTree :=
  let place := tree.placeOf path
  if place.isEmpty then tree else (tree.grow [] place.dropLast).1.insert place node

end FileTree

end ConversionSynthesis
