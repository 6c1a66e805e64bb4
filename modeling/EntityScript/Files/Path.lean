/-!
# Paths

Paths are texts with `/` between their parts. Empty parts and the parts `.` other than one at the
start of a relative path have no meaning; the functions here pass over them.
-/

namespace EntityScript

namespace Path

/-! ### Parts -/

/-- The parts between slashes. -/
def split : List Char → List (List Char)
  | [] => [[]]
  | c :: s =>
    if c = '/' then [] :: split s
    else match split s with
      | [] => [[c]]
      | part :: parts => (c :: part) :: parts

/-- The parts with a slash between any two. -/
def unsplit : List (List Char) → List Char
  | [] => []
  | [part] => part
  | part :: parts => part ++ '/' :: unsplit parts

/-- The part that stands for the directory itself. -/
def here : List Char :=
  ['.']

/-- The part that stands for the directory above. -/
def above : List Char :=
  ['.', '.']

/-- The part has no meaning inside a path. -/
def isVoid (part : List Char) : Bool :=
  part.isEmpty || part == here

/-- The path starts at the root of all files. -/
def isAbsolute (path : String) : Bool :=
  path.toList.head? == some '/'

/-- The path without the slashes at its end. -/
def trimSlashes (path : String) : String :=
  String.ofList (path.toList.reverse.dropWhile (· == '/')).reverse

/-- What stands before the parts proper: the root, or a dot at the start. -/
def lead (s : List Char) : List Char :=
  if s.head? = some '/' then ['/']
  else if s = here ∨ here ++ ['/'] <+: s then here
  else []

/-- The parts of a path after its lead, the last one first, without void parts before it. -/
def reversedParts (s : List Char) : List (List Char) :=
  (split (s.drop (lead s).length)).reverse.dropWhile isVoid

/-! ### Parent, name and extension -/

/-- The path without its last part; none for the root and for the empty path. -/
def parent? (path : String) : Option String :=
  let s := path.toList
  match reversedParts s with
  | _ :: parts => some (String.ofList (lead s ++ unsplit (parts.dropWhile isVoid).reverse))
  | [] => if lead s = here then some "" else none

/-- The last part, if it is a name. -/
def fileName? (path : String) : Option (List Char) :=
  match reversedParts path.toList with
  | part :: _ => if part = above then none else some part
  | [] => none

/-- What stands after the last dot of the name. A dot that begins the name is none. -/
def extension? (path : String) : Option String := do
  let name ← fileName? path
  let after := name.reverse.takeWhile (· != '.')
  if after.length + 1 < name.length then some (String.ofList after.reverse) else none

/-- The path taken from a directory, unless it is absolute. -/
def join (directory path : String) : String :=
  if isAbsolute path || directory.isEmpty then path
  else if directory.toList.getLast? = some '/' then directory ++ path
  else directory ++ "/" ++ path

end Path

end EntityScript
