import EntityScript.Markup.Event
import EntityScript.Markup.Reference
import EntityScript.Template.Node
import EntityScript.Text.Blank

/-!
# Reading templates

A template is read from the events of its markup. `treesOf` keeps the open elements on a stack and
gives the tree of elements and texts; blank text between markup is dropped, character data never
is. A single element around everything is taken for the root, unless it has a meaning of its own.
-/

namespace EntityScript

namespace Template

open Markup (Event Ending Reading)

/-! ### Faults -/

/-- Why a text is no template. -/
inductive DocumentFault where
  | markup (f : Markup.Fault) (offset : Nat)
  | reference (f : Markup.ReferenceFault)
  /-- The document ends inside an element. -/
  | unclosedElement (name : String)
  /-- An end tag stands outside every element. -/
  | unexpectedEnd (name : String)
deriving DecidableEq, Repr

namespace DocumentFault

/-- The message of a fault. -/
def message : DocumentFault → String
  | markup f offset => f.message ++ " at byte " ++ toString offset
  | reference f => f.message
  | unclosedElement name => "unclosed element <" ++ name ++ ">"
  | unexpectedEnd name => "unexpected closing tag </" ++ name ++ ">"

end DocumentFault

/-! ### Trees -/

/-- A document as elements and texts. -/
inductive Tree where
  | element (name : String) (children : List Tree)
  | text (s : String)

/-- The tree that an event gives by itself, if any; a blank text gives none. -/
def treeOfEvent? : Event → Except DocumentFault (Option Tree)
  | .empty name => .ok (some (.element name []))
  | .text raw =>
    match Markup.unescape raw with
    | .error f => .error (.reference f)
    | .ok s => .ok (if Text.allBlank s.toList then none else some (.text s))
  | .data s => .ok (some (.text s))
  | .start _ | .stop _ | .aside => .ok none

/-- The trees of the events. `siblings` are the trees read so far at the current level, and
`opened` the open elements with the trees before them, innermost first; all lists of trees have
the last one first. -/
def treesFrom (siblings : List Tree) (opened : List (String × List Tree)) (ending : Ending) :
    List Event → Except DocumentFault (List Tree)
  | [] =>
    match ending with
    | .fault f offset => .error (.markup f offset)
    | .complete =>
      match opened with
      | [] => .ok siblings.reverse
      | (name, _) :: _ => .error (.unclosedElement name)
  | .start name :: events => treesFrom [] ((name, siblings) :: opened) ending events
  -- The reader checks that the name is that of the innermost element, so it is not compared again.
  | .stop found :: events =>
    match opened with
    | [] => .error (.unexpectedEnd found)
    | (name, before) :: opened =>
      treesFrom (.element name siblings.reverse :: before) opened ending events
  | e :: events =>
    match treeOfEvent? e with
    | .error f => .error f
    | .ok tree => treesFrom (tree.toList ++ siblings) opened ending events

/-- The trees of a document. -/
def treesOf (r : Reading) : Except DocumentFault (List Tree) :=
  treesFrom [] [] r.ending r.events

/-! ### Nodes -/

/-- The name of the element that repeats its content for every entity. -/
def entityElement : String :=
  "entity"

/-- The name of the element that repeats its text for every attribute. -/
def attributeListElement : String :=
  "attribute_list"

/-- The name of the element that groups. -/
def templateElement : String :=
  "template"

/-- An element of this name can be the root of a template. -/
def isRootName (name : String) : Bool :=
  name != entityElement && name != attributeListElement

/-- The children of the root, if there is one; else the trees themselves. -/
def unwrapRoot : List Tree → List Tree
  | [.element name children] =>
    if isRootName name then children else [.element name children]
  | trees => trees

/-- The first text among the trees. -/
def firstText? (trees : List Tree) : Option String :=
  trees.findSome? fun
    | .text s => some s
    | .element _ _ => none

mutual

/-- The node of a tree. -/
def Tree.node : Tree → Node
  | .text s => .literal s
  | .element name children =>
    if name = entityElement then .entity (Tree.nodes children)
    else if name = attributeListElement then .attributeList (firstText? children)
    else if name = templateElement then .container (Tree.nodes children)
    else .ignored name

/-- The nodes of the trees. -/
def Tree.nodes : List Tree → List Node
  | [] => []
  | t :: ts => t.node :: Tree.nodes ts

end

namespace Document

/-- The template that the events of a document give. -/
def ofReading (r : Reading) : Except DocumentFault Document := do
  let trees ← treesOf r
  .ok ⟨Tree.nodes (unwrapRoot trees)⟩

/-- Reads a template. -/
def parse (s : String) : Except DocumentFault Document :=
  ofReading (Markup.read s)

end Document

end Template

end EntityScript
