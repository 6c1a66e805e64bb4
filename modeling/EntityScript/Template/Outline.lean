import EntityScript.Template.Node
import EntityScript.Template.Slug

/-!
# Outlines

The outline of a template lists its nodes, one on a line, children two columns further in than
their parent. Under a text stand its slugs, each with its scope, property and modifier.
-/

namespace EntityScript

namespace Template

/-- The blanks at the start of a line of the given depth. -/
def indentation (depth : Nat) : String :=
  String.ofList (List.replicate (2 * depth) ' ')

/-- The line of a slug. -/
def Slug.outline (depth : Nat) (g : Slug) : String :=
  let modifier := if g.modifier = .identity then "none" else g.modifier.keyword
  indentation depth ++ g.raw ++ " -> " ++ g.scope.name ++ " " ++ g.property ++ " [" ++ modifier ++
    "]\n"

/-- The lines of the slugs of a text. -/
def outlineSlugs (depth : Nat) (text : String) : String :=
  String.join ((scan text).map (Slug.outline depth))

mutual

/-- The lines of a node. -/
def Node.outline (depth : Nat) (n : Node) : String :=
  indentation depth ++ n.name ++ "\n" ++
    match n with
    | .literal text => outlineSlugs (depth + 1) text
    | .attributeList (some fragment) => outlineSlugs (depth + 1) fragment
    | .entity children | .container children => Node.outlines (depth + 1) children
    | .attributeList none | .ignored _ => ""

/-- The lines of a list of nodes. -/
def Node.outlines (depth : Nat) : List Node → String
  | [] => ""
  | n :: ns => n.outline depth ++ Node.outlines depth ns

end

/-- The outline of a template. -/
def Document.outline (d : Document) : String :=
  Node.outlines 0 d.nodes

end Template

end EntityScript
