import EntityScript.Yaml.Token

/-!
# Nodes

A YAML document as scalars, sequences, mappings and aliases. A sequence keeps its items and a
mapping its members in their order, duplicates included. An alias stands for a node that was marked
by an anchor; anchors are numbered, and a number that is given twice stands for the later node.
-/

namespace EntityScript

namespace Yaml

/-- A node of a document. -/
inductive Node where
  | scalar (tag : Option (List Char)) (style : ScalarStyle) (text : List Char)
  | sequence (items : List Node)
  | mapping (members : List (Node × Node))
  | alias (target : Nat)
deriving Inhabited

/-- The node where nothing is written. -/
def Node.empty : Node :=
  .scalar none .plain []

/-- A document: its root, and the nodes with anchors in the order in which they begin. -/
structure Document where
  root : Node
  anchored : List (Nat × Node) := []

/-- The node that a node stands for. -/
def Document.resolve (d : Document) : Node → Node
  | .alias target =>
    match d.anchored.reverse.find? (·.1 == target) with
    | some (_, n) => n
    | none => .alias target
  | n => n

end Yaml

end EntityScript
