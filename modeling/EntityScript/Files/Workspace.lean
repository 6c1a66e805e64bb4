import EntityScript.Files.Error
import EntityScript.Files.Path
import EntityScript.Text.Occurrence

/-!
# Workspaces

A workspace is a directory with all that is in it. Paths are taken from it; a path that leads out
of it finds nothing. Every part of a path but the last one has to be a directory, also where the
path then goes up again.
-/

namespace EntityScript

/-- A file or a directory. -/
inductive Entry where
  | directory
  | file (content : ByteArray)

/-- The names that lead to an entry, the last one first. -/
abbrev Location :=
  List (List Char)

/-- The entries of a directory and of those below it. -/
structure Workspace where
  entries : List (Location × Entry) := []

namespace Workspace

/-! ### Entries -/

/-- The entry at a location; the workspace itself is a directory. -/
def entry? (ws : Workspace) : Location → Option Entry
  | [] => some .directory
  | names => (ws.entries.find? (·.1 == names)).map (·.2)

/-- The workspace with an entry at a location, in place of any that was there. -/
def put (ws : Workspace) (names : Location) (e : Entry) : Workspace :=
  if ws.entries.any (·.1 == names) then
    ⟨ws.entries.map fun item => if item.1 == names then (names, e) else item⟩
  else ⟨ws.entries ++ [(names, e)]⟩

/-- The workspace with directories at a location and above it, where nothing was. -/
def makeDirectories (ws : Workspace) : Location → Workspace
  | [] => ws
  | name :: names =>
    let ws := ws.makeDirectories names
    if (ws.entry? (name :: names)).isSome then ws else ws.put (name :: names) .directory

/-! ### Paths -/

/-- The length in bytes that a name may have. -/
def nameLimit : Nat :=
  255

/-- The location that parts lead to from a location. -/
def walk (ws : Workspace) (names : Location) : List (List Char) → Except FileError Location
  | [] => .ok names
  | part :: parts =>
    match ws.entry? names with
    | none => .error .notFound
    | some (.file _) => .error .notADirectory
    | some .directory =>
      if Path.isVoid part then ws.walk names parts
      else if part = Path.above then
        match names with
        | [] => .error .notFound
        | _ :: names => ws.walk names parts
      else if nameLimit < Text.byteLength part then .error .invalidFilename
      else ws.walk (part :: names) parts

/-- The location of a path. -/
def locate (ws : Workspace) (path : String) : Except FileError Location :=
  if path.toList.contains (Char.ofNat 0) then .error .invalidInput
  else if path.isEmpty || Path.isAbsolute path then .error .notFound
  else ws.walk [] (Path.split path.toList)

/-- There is something at a path. -/
def pathExists (ws : Workspace) (path : String) : Bool :=
  match ws.locate path with
  | .ok names => (ws.entry? names).isSome
  | .error _ => false

/-! ### Reading and writing -/

/-- The content of the file at a path. -/
def read (ws : Workspace) (path : String) : Except FileError ByteArray := do
  let names ← ws.locate path
  match ws.entry? names with
  | none => .error .notFound
  | some .directory => .error .isADirectory
  | some (.file content) => .ok content

/-- The workspace after a file was written, in place of the one that was there. A path that ends in
a slash can only be that of a directory. -/
def write (ws : Workspace) (path : String) (content : ByteArray) :
    Except FileError Workspace := do
  let endsInSlash := path.toList.getLast? == some '/'
  let names ← ws.locate (if endsInSlash then Path.trimSlashes path else path)
  match names with
  | [] => .error .isADirectory
  | _ :: parents =>
    match ws.entry? parents with
    | none => .error .notFound
    | some (.file _) => .error .notADirectory
    | some .directory =>
      match ws.entry? names with
      | some .directory => .error .isADirectory
      | _ => if endsInSlash then .error .isADirectory else .ok (ws.put names (.file content))

end Workspace

end EntityScript
