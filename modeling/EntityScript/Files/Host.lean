import EntityScript.Files.Workspace

/-!
# Hosts

What a command needs from where it runs: files, and two streams for text. A workspace together with
the texts written so far is such a place.
-/

namespace EntityScript

/-- A place in which commands run. -/
class Host (m : Type → Type) where
  /-- The content of a file. -/
  read : String → m (Except FileError ByteArray)
  /-- Writes a text as the whole content of a file. -/
  write : String → String → m (Except FileError Unit)
  pathExists : String → m Bool
  /-- Writes a text to the output. -/
  print : String → m Unit
  /-- Writes a text to the stream for diagnostics. -/
  report : String → m Unit

namespace Host

/-- The text of a file. -/
def readText {m : Type → Type} [Monad m] [Host m] (path : String) :
    m (Except FileError String) := do
  return (← read path) >>= textOfBytes

end Host

/-- A workspace and the texts written so far. -/
structure Session where
  workspace : Workspace := {}
  output : String := ""
  diagnostics : String := ""

namespace Session

instance : Host (StateM Session) where
  read path := fun s => (s.workspace.read path, s)
  write path text := fun s =>
    match s.workspace.write path text.toUTF8 with
    | .ok workspace => (.ok (), { s with workspace })
    | .error e => (.error e, s)
  pathExists path := fun s => (s.workspace.pathExists path, s)
  print text := fun s => ((), { s with output := s.output ++ text })
  report text := fun s => ((), { s with diagnostics := s.diagnostics ++ text })

end Session

end EntityScript
