import ConversionSynthesis.CommandLine.Run
import ConversionSynthesis.FileTree

/-! # Commands on file trees

A session runs commands on a file tree and collects what they print, so that all effects of a
command are a value.
-/

namespace ConversionSynthesis.CommandLine

structure Session where
  files : FileTree := {}
  printed : String := ""
deriving DecidableEq, Repr

namespace Session

def surroundings : Surroundings (StateM Session) where
  makeDirectory path session :=
    let (files, made) := session.files.makeDirectory path
    (made, { session with files })
  write path text session :=
    match session.files.write path text with
    | none => (false, session)
    | some files => (true, { session with files })
  fileSize? path session := ((session.files.contents? path).map (·.size), session)
  fileText? path session := ((session.files.contents? path).bind (·.text?), session)
  print text session := ((), { session with printed := session.printed ++ text })
  pool _ session := (.ok .inTurn, session)

end Session

end ConversionSynthesis.CommandLine
