/-!
# Template nodes

A template is a list of nodes. A literal is text with slugs in it; an entity node repeats its
children for every entity; an attribute list repeats its fragment for every attribute of the
current entity; a container only groups; an element of any other name is kept by its name and does
nothing.
-/

namespace EntityScript

namespace Template

/-- A node of a template. -/
inductive Node where
  | literal (text : String)
  | entity (children : List Node)
  | attributeList (fragment : Option String)
  | container (children : List Node)
  | ignored (name : String)
deriving Repr

namespace Node

/-- The name of a node in logs and outlines. -/
def name : Node → String
  | literal _ => "#cdata-section"
  | entity _ => "entity"
  | attributeList _ => "attribute_list"
  | container _ => "template"
  | ignored name => name

end Node

/-- A template that has been read. -/
structure Document where
  nodes : List Node
deriving Repr

end Template

end EntityScript
