import EntityScript.Yaml.Layout
import EntityScript.Yaml.Node

/-!
# Grammar

How tokens form nodes. A part that may be left out (a key, a value, an item) is an empty plain
scalar. A text holds one document; it may begin with directives and be closed by markers.
-/

namespace EntityScript

namespace Yaml

/-! ### State -/

/-- What is still to be read, and what the text has said so far about names. -/
structure Reading where
  tokens : List Token
  /-- The texts that tag handles stand for. -/
  handles : List (List Char × List Char) := []
  /-- The numbers of the anchors, by their names. -/
  numbers : List (List Char × Nat) := []

/-- A node, with the nodes that carry anchors in it in the order in which they begin. -/
structure Parsed where
  node : Node
  anchored : List (Nat × Node) := []

namespace Parsed

/-- A part that is left out. -/
def empty : Parsed :=
  ⟨.empty, []⟩

/-- The node, which carries the numbered anchor if there is one, with those of its parts. -/
def of (number : Option Nat) (node : Node) (inner : List (Nat × Node)) : Parsed :=
  ⟨node, (number.map (·, node)).toList ++ inner⟩

/-- The sequence of items. -/
def sequence (number : Option Nat) (items : List Parsed) : Parsed :=
  .of number (.sequence (items.map (·.node))) (items.flatMap (·.anchored))

/-- The mapping of members. -/
def mapping (number : Option Nat) (members : List (Parsed × Parsed)) : Parsed :=
  .of number (.mapping (members.map fun (k, v) => (k.node, v.node)))
    (members.flatMap fun (k, v) => k.anchored ++ v.anchored)

end Parsed

namespace Reading

/-- The reading of other tokens from here on. -/
def resume (r : Reading) (ts : List Token) : Reading :=
  { r with tokens := ts }

/-! ### Anchors and tags -/

/-- Gives an anchor its number: that of names in use before it. -/
def define (r : Reading) (name : List Char) : Nat × Reading :=
  let number := r.numbers.length
  let others := r.numbers.filter (·.1 != name)
  (number, { r with numbers := (name, number) :: others })

/-- The text of a tag, if its handle is known. -/
def tagText? (r : Reading) (handle suffix : List Char) : Option (List Char) :=
  if handle.isEmpty then some suffix
  else (r.handles.find? (·.1 == handle)).map (·.2 ++ suffix)

/-- The properties of a node. -/
structure Properties where
  number : Option Nat := none
  tag : Option (List Char) := none

/-- The node has no properties. -/
def Properties.isEmpty (p : Properties) : Bool :=
  p.number.isNone && p.tag.isNone

/-- Reads the properties of a node: an anchor and a tag, in either order. -/
def readProperties (r : Reading) : Option (Properties × Reading) :=
  match r.tokens with
  | .anchor name :: .tag handle suffix :: ts | .tag handle suffix :: .anchor name :: ts => do
    let tag ← r.tagText? handle suffix
    let (number, r) := r.define name
    some (⟨some number, some tag⟩, r.resume ts)
  | .anchor name :: ts =>
    let (number, r) := r.define name
    some (⟨some number, none⟩, r.resume ts)
  | .tag handle suffix :: ts => do
    let tag ← r.tagText? handle suffix
    some (⟨none, some tag⟩, r.resume ts)
  | _ => some ({}, r)

/-- The tag of a scalar; the lone exclamation mark is none. -/
def Properties.scalarTag (p : Properties) : Option (List Char) :=
  if p.tag = some ['!'] then none else p.tag

/-! ### Nodes -/

/-- No item of a block sequence stands here. -/
def omitsItem : List Token → Bool
  | .blockEntry :: _ | .blockEnd :: _ => true
  | _ => false

/-- No item of a sequence without indentation, and no part of a member of a block mapping, stands
here. -/
def omitsPart : List Token → Bool
  | .blockEntry :: _ | .key :: _ | .value :: _ | .blockEnd :: _ => true
  | _ => false

/-- No part of a member of a block mapping stands here. A sequence without indentation may. -/
def omitsMemberPart : List Token → Bool
  | .key :: _ | .value :: _ | .blockEnd :: _ => true
  | _ => false

/-- No key stands here, inside brackets. -/
def omitsFlowKey : List Token → Bool
  | .value :: _ | .flowEntry :: _ | .flowSequenceEnd :: _ | .flowMappingEnd :: _ => true
  | _ => false

/-- No value stands here, inside brackets. -/
def omitsFlowValue : List Token → Bool
  | .flowEntry :: _ | .flowSequenceEnd :: _ | .flowMappingEnd :: _ => true
  | _ => false

mutual

/-- Reads a node. In `block` context it may be a block collection; where `bare` is set it may be a
sequence whose dashes stand in the column of the keys around it. -/
def node (block bare : Bool) : Nat → Reading → Option (Parsed × Reading)
  | 0, _ => none
  | fuel + 1, r =>
    match r.tokens with
    | .alias name :: ts =>
      (r.numbers.find? (·.1 == name)).map fun (_, number) => (⟨.alias number, []⟩, r.resume ts)
    | _ => do
      let (p, r) ← r.readProperties
      match r.tokens, block, bare with
      -- The dashes of such a sequence stand where keys do, so no token begins or ends it.
      | .blockEntry :: _, _, true =>
        let (items, r) ← bareItems fuel r
        some (.sequence p.number items, r)
      | .scalar style text :: ts, _, _ =>
        some (.of p.number (.scalar p.scalarTag style text) [], r.resume ts)
      | .flowSequenceStart :: ts, _, _ =>
        let (items, r) ← flowItems true fuel (r.resume ts)
        some (.sequence p.number items, r)
      | .flowMappingStart :: ts, _, _ =>
        let (members, r) ← flowMembers true fuel (r.resume ts)
        some (.mapping p.number members, r)
      | .blockSequenceStart :: ts, true, _ =>
        let (items, r) ← blockItems fuel (r.resume ts)
        some (.sequence p.number items, r)
      | .blockMappingStart :: ts, true, _ =>
        let (members, r) ← blockMembers fuel (r.resume ts)
        some (.mapping p.number members, r)
      | _, _, _ =>
        -- A tag or an anchor by itself stands for an empty scalar.
        if p.isEmpty then none else some (.of p.number (.scalar p.tag .plain []) [], r)

/-- Reads the items of a block sequence to its end. -/
def blockItems : Nat → Reading → Option (List Parsed × Reading)
  | 0, _ => none
  | fuel + 1, r =>
    match r.tokens with
    | .blockEnd :: ts => some ([], r.resume ts)
    | .blockEntry :: ts => do
      let (item, r) ← if omitsItem ts then some (.empty, r.resume ts)
        else node true false fuel (r.resume ts)
      let (items, r) ← blockItems fuel r
      some (item :: items, r)
    | _ => none

/-- Reads the items of a sequence without indentation of its own. -/
def bareItems : Nat → Reading → Option (List Parsed × Reading)
  | 0, _ => none
  | fuel + 1, r =>
    match r.tokens with
    | .blockEntry :: ts => do
      let (item, r) ← if omitsPart ts then some (.empty, r.resume ts)
        else node true false fuel (r.resume ts)
      let (items, r) ← bareItems fuel r
      some (item :: items, r)
    | _ => some ([], r)

/-- Reads the members of a block mapping to its end. -/
def blockMembers : Nat → Reading → Option (List (Parsed × Parsed) × Reading)
  | 0, _ => none
  | fuel + 1, r =>
    match r.tokens with
    | .blockEnd :: ts => some ([], r.resume ts)
    -- Both the key and the value of a member may be left out.
    | .key :: ts => do
      let (key, r) ← if omitsMemberPart ts then some (.empty, r.resume ts)
        else node true true fuel (r.resume ts)
      let (value, r) ← match r.tokens with
        | .value :: ts =>
          if omitsMemberPart ts then some (.empty, r.resume ts)
          else node true true fuel (r.resume ts)
        | _ => some (.empty, r)
      let (members, r) ← blockMembers fuel r
      some ((key, value) :: members, r)
    | _ => none

/-- Reads the items of a sequence in brackets to its end. An item with a key is a mapping of one
member. Where the key is left out, the token that shows it is passed over. -/
def flowItems (first : Bool) : Nat → Reading → Option (List Parsed × Reading)
  | 0, _ => none
  | fuel + 1, r =>
    match r.tokens with
    | .flowSequenceEnd :: ts => some ([], r.resume ts)
    | ts => do
      -- A comma stands before every item but the first.
      let ts ← match first, ts with
        | true, ts => some ts
        | false, .flowEntry :: ts => some ts
        | false, _ => none
      match ts with
      -- The last item may have a comma behind it.
      | .flowSequenceEnd :: ts => some ([], r.resume ts)
      | .key :: ts =>
        let (key, r) ← if omitsFlowKey ts then some (.empty, r.resume (ts.drop 1))
          else node false false fuel (r.resume ts)
        let (value, r) ← match r.tokens with
          | .value :: ts =>
            if omitsFlowValue ts then some (.empty, r.resume ts)
            else node false false fuel (r.resume ts)
          | _ => some (.empty, r)
        let (items, r) ← flowItems false fuel r
        some (.mapping none [(key, value)] :: items, r)
      | ts =>
        let (item, r) ← node false false fuel (r.resume ts)
        let (items, r) ← flowItems false fuel r
        some (item :: items, r)

/-- Reads the members of a mapping in brackets to its end. -/
def flowMembers (first : Bool) : Nat → Reading → Option (List (Parsed × Parsed) × Reading)
  | 0, _ => none
  | fuel + 1, r =>
    match r.tokens with
    | .flowMappingEnd :: ts => some ([], r.resume ts)
    | ts => do
      let ts ← match first, ts with
        | true, ts => some ts
        | false, .flowEntry :: ts => some ts
        | false, _ => none
      match ts with
      | .flowMappingEnd :: ts => some ([], r.resume ts)
      | .key :: ts =>
        let (key, r) ← if omitsFlowKey ts then some (.empty, r.resume ts)
          else node false false fuel (r.resume ts)
        let (value, r) ← match r.tokens with
          | .value :: ts =>
            if omitsFlowValue ts then some (.empty, r.resume ts)
            else node false false fuel (r.resume ts)
          | _ => some (.empty, r)
        let (members, r) ← flowMembers false fuel r
        some ((key, value) :: members, r)
      -- A key without a value stands for a member without one.
      | ts =>
        let (key, r) ← node false false fuel (r.resume ts)
        let (members, r) ← flowMembers false fuel r
        some ((key, .empty) :: members, r)

end

/-! ### Documents -/

/-- The handles that every document knows. -/
def defaultHandles : List (List Char × List Char) :=
  [(['!'], ['!']), (['!', '!'], "tag:yaml.org,2002:".toList)]

/-- Reads the directives of a document: at most one version, which must be known, and a handle at
most once. -/
def readDirectives (sawVersion : Bool) (handles : List (List Char × List Char)) :
    List Token → Option (List (List Char × List Char) × List Token)
  | .versionDirective major minor :: ts =>
    if sawVersion || major != 1 || (minor != 1 && minor != 2) then none
    else readDirectives true handles ts
  | .tagDirective handle replacement :: ts =>
    if handles.any (·.1 == handle) then none
    else readDirectives sawVersion ((handle, replacement) :: handles) ts
  | ts => some (handles, ts)

/-- No root stands here. -/
def omitsRoot : List Token → Bool
  | [] | .versionDirective .. :: _ | .tagDirective .. :: _ | .documentStart :: _
  | .documentEnd :: _ => true
  | _ => false

/-- Reads the root of a document, after the marker of its start or without one. -/
def root (r : Reading) : Option (Parsed × Reading) :=
  -- Each token takes at most four steps.
  let read (r : Reading) := node true false (4 * r.tokens.length + 4) r
  match r.tokens with
  | .versionDirective .. :: _ | .tagDirective .. :: _ | .documentStart :: _ => do
    let (handles, ts) ← readDirectives false [] r.tokens
    match ts with
    | .documentStart :: ts =>
      let r : Reading := { r with tokens := ts, handles := handles ++ defaultHandles }
      if omitsRoot ts then some (.empty, r) else read r
    | _ => none
  | _ => read { r with handles := defaultHandles }

end Reading

/-- The document of the tokens; a text without any is an empty document. -/
def Document.ofTokens? (ts : List Token) : Option Document :=
  if ts.isEmpty then some ⟨.empty, []⟩
  else do
    let (p, r) ← Reading.root { tokens := ts }
    if r.tokens.all (· == .documentEnd) then some ⟨p.node, p.anchored⟩ else none

/-- The document that a text writes. -/
def Document.ofText? (s : String) : Option Document := do
  let ts ← tokens? s.toList
  Document.ofTokens? ts

end Yaml

end EntityScript
