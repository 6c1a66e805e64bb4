import EntityScript.Proofs.Yaml.Documents
import EntityScript.Yaml.Grammar

/-!
# The nodes of written documents

A readable value is parsed to a node (`Value.node`) in which its words and texts are scalars with
the styles in which they are written, and nothing carries an anchor. So the text of a document is
parsed to the mapping of its members (`ofText?_document`).
-/

namespace EntityScript

namespace Yaml

namespace Value

mutual

/-- The node of a value. -/
def node : Value → Node
  | .word s => .scalar none .plain s.toList
  | .text s => .scalar none (styleOf s.toList) s.toList
  | .sequence vs => .sequence (itemNodes vs)
  | .mapping members => .mapping (memberNodes members)

/-- The nodes of the items of a sequence. -/
def itemNodes : List Value → List Node
  | [] => []
  | v :: vs => v.node :: itemNodes vs

/-- The nodes of the members of a mapping. -/
def memberNodes : List (String × Value) → List (Node × Node)
  | [] => []
  | (key, v) :: members => (.scalar none .plain key.toList, v.node) :: memberNodes members

end

end Value

/-- A node without anchors in it. -/
def Parsed.bare (n : Node) : Parsed :=
  ⟨n, []⟩

theorem Parsed.sequence_bare (ns : List Node) :
    Parsed.sequence none (ns.map .bare) = .bare (.sequence ns) := by
  rw [Parsed.sequence, List.map_map, List.flatMap_map]
  simp [Parsed.of, Parsed.bare, Function.comp_def]

/-- The members of a mapping as the parser gives them. -/
def Parsed.bareMembers (ns : List (Node × Node)) : List (Parsed × Parsed) :=
  ns.map fun m => (.bare m.1, .bare m.2)

theorem Parsed.mapping_bareMembers (ns : List (Node × Node)) :
    Parsed.mapping none (bareMembers ns) = .bare (.mapping ns) := by
  rw [Parsed.mapping, bareMembers, List.map_map, List.flatMap_map]
  simp [Parsed.of, Parsed.bare, Function.comp_def]

namespace Reading

open Parsed Value

variable {r : Reading} {ts : List Token} {block bare : Bool}

@[simp] theorem tokens_resume : (r.resume ts).tokens = ts :=
  rfl

@[simp] theorem resume_resume {ts' : List Token} : (r.resume ts).resume ts' = r.resume ts' :=
  rfl

/-! ### Steps of the parser -/

theorem node_scalar {style : ScalarStyle} {text : List Char} (fuel : Nat)
    (h : r.tokens = .scalar style text :: ts) :
    node block bare (fuel + 1) r = some (.bare (.scalar none style text), r.resume ts) := by
  rw [node.eq_def]
  simp [h, readProperties]
  rfl

/-- Two brackets are parsed to an empty sequence. -/
theorem node_brackets (fuel : Nat) (h : r.tokens = .flowSequenceStart :: .flowSequenceEnd :: ts) :
    node block bare (fuel + 2) r = some (.bare (.sequence []), r.resume ts) := by
  have hitems : flowItems true (fuel + 1) (r.resume (.flowSequenceEnd :: ts)) =
      some (([] : List Node).map .bare, r.resume ts) := by
    rw [flowItems.eq_def]
    rfl
  rw [node.eq_def]
  simp [h, readProperties, hitems, ← Parsed.sequence_bare]

variable {fuel : Nat} {r' : Reading}

theorem node_sequence (ts : List Token) {ns : List Node} (h : r.tokens = .blockEntry :: ts)
    (hitems : bareItems fuel r = some (ns.map .bare, r')) :
    node block true (fuel + 1) r = some (.bare (.sequence ns), r') := by
  rw [node.eq_def]
  simp [h, readProperties, hitems, ← Parsed.sequence_bare]

theorem node_mapping {ns : List (Node × Node)} (h : r.tokens = .blockMappingStart :: ts)
    (hmembers : blockMembers fuel (r.resume ts) = some (bareMembers ns, r')) :
    node true bare (fuel + 1) r = some (.bare (.mapping ns), r') := by
  rw [node.eq_def]
  simp [h, readProperties, hmembers, ← Parsed.mapping_bareMembers]

theorem bareItems_cons {n : Node} {ns : List Node} {r₁ : Reading} (h : r.tokens = .blockEntry :: ts)
    (hpart : omitsPart ts = false)
    (hnode : node true false fuel (r.resume ts) = some (.bare n, r₁))
    (hitems : bareItems fuel r₁ = some (ns.map .bare, r')) :
    bareItems (fuel + 1) r = some ((n :: ns).map .bare, r') := by
  rw [bareItems.eq_def]
  simp [h, hpart, hnode, hitems]

/-- Behind a value there is a further key, or the end of the mapping. -/
def EndsValue (ts : List Token) : Prop :=
  ∃ t ts', ts = t :: ts' ∧ (t = .key ∨ t = .blockEnd)

/-- Items end where no dash stands. A key or the end of the mapping stands there. -/
theorem bareItems_nil (h : EndsValue r.tokens) :
    bareItems (fuel + 1) r = some (([] : List Node).map .bare, r) := by
  obtain ⟨t, ts, heq, rfl | rfl⟩ := h
  all_goals
    rw [bareItems.eq_def]
    simp [heq]

/-- A member is parsed by its key and its value, and then the others. The key is a plain scalar, so
it takes one step of fuel. -/
theorem blockMembers_cons {key : List Char} {n : Node} {ns : List (Node × Node)} {r₁ : Reading}
    (h : r.tokens = .key :: .scalar .plain key :: .value :: ts)
    (hpart : omitsMemberPart ts = false)
    (hnode : node true true (fuel + 1) (r.resume ts) = some (.bare n, r₁))
    (hmembers : blockMembers (fuel + 1) r₁ = some (bareMembers ns, r')) :
    blockMembers (fuel + 2) r =
      some (bareMembers ((.scalar none .plain key, n) :: ns), r') := by
  have hkey : node true true (fuel + 1) (r.resume (.scalar .plain key :: .value :: ts)) =
      some (.bare (.scalar none .plain key), r.resume (.value :: ts)) := node_scalar fuel rfl
  have hpart' : omitsMemberPart (.scalar .plain key :: .value :: ts) = false := rfl
  rw [blockMembers.eq_def]
  simp [h, hpart', hkey, hpart, hnode, hmembers, bareMembers]

theorem blockMembers_nil (h : r.tokens = .blockEnd :: ts) :
    blockMembers (fuel + 1) r = some (bareMembers [], r.resume ts) := by
  rw [blockMembers.eq_def]
  simp [h, bareMembers]

/-! ### Readable values -/

theorem omitsPart_mapping (members : List (String × Value)) (ts : List Token) :
    omitsPart ((Value.mapping members).tokens ++ ts) = false := by
  rw [Value.tokens]
  rfl

/-- The tokens of a value begin a node, so no value is taken for one that is left out. -/
theorem omitsMemberPart_tokens (v : Value) (ts : List Token) :
    omitsMemberPart (v.tokens ++ ts) = false := by
  match v with
  | .word s | .text s | .sequence [] | .mapping members =>
    rw [Value.tokens]
    rfl
  | .sequence (v :: vs) =>
    rw [Value.tokens, itemTokens]
    · rfl
    · exact List.cons_ne_nil v vs

/-- Behind a value stands what its reader expects there. -/
theorem endsValue_memberTokens (members : List (String × Value)) (ts : List Token) :
    EndsValue (memberTokens members ++ .blockEnd :: ts) := by
  cases members with
  | nil => exact ⟨_, _, by rw [memberTokens]; rfl, Or.inr rfl⟩
  | cons member members => exact ⟨_, _, by rw [memberTokens]; rfl, Or.inl rfl⟩

/-! Each token takes two steps of fuel at most, one for the list in which it stands and one for the
node that begins with it. -/

/-- The tokens of the value are parsed to its node, where there is fuel for each of the tokens. -/
def Parses (v : Value) : Prop :=
  ∀ {fuel r ts}, r.tokens = v.tokens ++ ts → EndsValue ts → 2 * r.tokens.length + 2 ≤ fuel →
    node true true fuel r = some (.bare v.node, r.resume ts)

/-- The tokens of items are parsed to their nodes, up to what comes after the sequence. -/
def ParsesItems (vs : List Value) : Prop :=
  ∀ {fuel r ts}, r.tokens = itemTokens vs ++ ts → EndsValue ts → 2 * r.tokens.length + 1 ≤ fuel →
    bareItems fuel r = some ((itemNodes vs).map .bare, r.resume ts)

/-- The tokens of members are parsed to their nodes, up to the end of the mapping. -/
def ParsesMembers (members : List (String × Value)) : Prop :=
  ∀ {fuel r ts}, r.tokens = memberTokens members ++ .blockEnd :: ts →
    2 * r.tokens.length + 1 ≤ fuel →
    blockMembers fuel r = some (bareMembers (memberNodes members), r.resume ts)

variable {v : Value} {vs : List Value} {key : String} {members : List (String × Value)}

/-- A scalar is parsed to its node. This is the case of words and of texts. -/
theorem parses_scalar {style : ScalarStyle} {text : List Char}
    (htokens : v.tokens = [.scalar style text]) (hnode : v.node = .scalar none style text) :
    Parses v := by
  intro fuel r ts h _ hfuel
  rw [htokens] at h
  obtain ⟨fuel, rfl⟩ := Nat.exists_eq_add_one_of_ne_zero (Nat.ne_zero_of_lt hfuel)
  rw [hnode]
  exact node_scalar fuel h

/-- A sequence is parsed if its items are; an empty one stands in brackets. The items stand in lines
of their own, right behind the key. -/
theorem parses_sequence (hvs : ParsesItems vs) : Parses (.sequence vs) := by
  intro fuel r ts h hts hfuel
  -- An empty sequence is written as a pair of brackets, any other as a block of items.
  cases vs with
  | nil =>
    rw [Value.tokens] at h
    obtain ⟨fuel, rfl⟩ := Nat.exists_eq_add_of_le' (Nat.le_trans (Nat.le_add_left 2 _) hfuel)
    rw [Value.node, itemNodes]
    exact node_brackets fuel h
  | cons v vs =>
    have htokens : (Value.sequence (v :: vs)).tokens = itemTokens (v :: vs) := by
      rw [Value.tokens]
      exact List.cons_ne_nil v vs
    rw [htokens] at h
    obtain ⟨fuel, rfl⟩ := Nat.exists_eq_add_one_of_ne_zero (Nat.ne_zero_of_lt hfuel)
    rw [Value.node]
    refine node_sequence (v.tokens ++ itemTokens vs ++ ts) ?_ (hvs h hts (by omega))
    rw [h, itemTokens]
    rfl

/-- A mapping is parsed in any place: behind a key, behind a dash and as the root. What stands
behind it is left for the caller. -/
theorem node_tokens_mapping (hmembers : ParsesMembers members) (ts : List Token) {fuel : Nat}
    (h : r.tokens = (Value.mapping members).tokens ++ ts) (hfuel : 2 * r.tokens.length ≤ fuel) :
    node true bare fuel r = some (.bare (Value.mapping members).node, r.resume ts) := by
  rw [Value.tokens] at h
  simp only [List.append_assoc, List.cons_append, List.nil_append] at h
  have hlength := congrArg List.length h
  rw [List.length_cons] at hlength
  obtain ⟨fuel, rfl⟩ := Nat.exists_eq_add_one_of_ne_zero (show fuel ≠ 0 by omega)
  rw [Value.node]
  exact node_mapping h (hmembers rfl (by rw [tokens_resume]; omega))

/-- No items are parsed to no nodes. -/
theorem parsesItems_nil : ParsesItems [] := by
  intro fuel r ts h hts hfuel
  rw [itemTokens, List.nil_append] at h
  obtain ⟨fuel, rfl⟩ := Nat.exists_eq_add_one_of_ne_zero (Nat.ne_zero_of_lt hfuel)
  rw [itemNodes, ← h]
  exact bareItems_nil (h ▸ hts)

/-- Items are parsed from the first one on, which is a mapping. Each is given as much fuel as its
tokens need. -/
theorem parsesItems_cons (hmembers : ParsesMembers members) (hvs : ParsesItems vs) :
    ParsesItems (.mapping members :: vs) := by
  intro fuel r ts h hts hfuel
  rw [itemTokens] at h
  simp only [List.append_assoc, List.cons_append] at h
  have hlength := congrArg List.length h
  rw [List.length_cons, List.length_append] at hlength
  obtain ⟨fuel, rfl⟩ := Nat.exists_eq_add_one_of_ne_zero (Nat.ne_zero_of_lt hfuel)
  rw [itemNodes]
  refine bareItems_cons h (omitsPart_mapping members _)
    (node_tokens_mapping hmembers (itemTokens vs ++ ts) rfl ?_) (hvs rfl hts ?_)
  all_goals
    simp only [tokens_resume, List.length_append] at hlength ⊢
    omega

/-- No members are parsed to no nodes. -/
theorem parsesMembers_nil : ParsesMembers [] := by
  intro fuel r ts h hfuel
  rw [memberTokens, List.nil_append] at h
  obtain ⟨fuel, rfl⟩ := Nat.exists_eq_add_one_of_ne_zero (Nat.ne_zero_of_lt hfuel)
  rw [memberNodes]
  exact blockMembers_nil h

/-- Members are parsed from the first one on. The value of a member may be of any kind. -/
theorem parsesMembers_cons (hv : Parses v) (hmembers : ParsesMembers members) :
    ParsesMembers ((key, v) :: members) := by
  intro fuel r ts h hfuel
  rw [memberTokens] at h
  simp only [List.append_assoc, List.cons_append, List.nil_append] at h
  have hlength := congrArg List.length h
  simp only [List.length_cons, List.length_append] at hlength
  obtain ⟨fuel, rfl⟩ := Nat.exists_eq_add_of_le' (show 2 ≤ fuel by omega)
  rw [memberNodes]
  refine blockMembers_cons h (omitsMemberPart_tokens v _)
    (hv rfl (endsValue_memberTokens members ts) ?_) (hmembers rfl ?_)
  all_goals
    simp only [tokens_resume, List.length_append, List.length_cons]
    omega

mutual

/-- **The tokens of a readable value are parsed to its node.** The induction is on the value, with
the three statements for values, items and members together. -/
theorem parses_of_isReadable : ∀ v : Value, v.IsReadable → Parses v
  | .word s, _ => parses_scalar (by rw [Value.tokens]) (by rw [Value.node])
  | .text s, _ => parses_scalar (by rw [Value.tokens]) (by rw [Value.node])
  | .sequence vs, h => by
    rw [IsReadable] at h
    exact parses_sequence (parsesItems_of_areReadable vs h)
  | .mapping members, h => by
    rw [IsReadable] at h
    exact fun htokens _ hfuel =>
      node_tokens_mapping (parsesMembers_of_haveReadable members h.2) _ htokens (by omega)

/-- The tokens of readable items are parsed to their nodes. -/
theorem parsesItems_of_areReadable : ∀ vs : List Value, AreReadable vs → ParsesItems vs
  | [], _ => parsesItems_nil
  | .mapping members :: vs, h => by
    rw [AreReadable, IsReadable] at h
    exact parsesItems_cons (parsesMembers_of_haveReadable members h.1.2.2)
      (parsesItems_of_areReadable vs h.2)
  | .word _ :: _, h | .text _ :: _, h | .sequence _ :: _, h => by
    rw [AreReadable] at h
    exact h.1.1.elim

/-- The tokens of readable members are parsed to their nodes. -/
theorem parsesMembers_of_haveReadable :
    ∀ members : List (String × Value), HaveReadable members → ParsesMembers members
  | [], _ => parsesMembers_nil
  | (_, v) :: members, h => by
    rw [HaveReadable] at h
    exact parsesMembers_cons (parses_of_isReadable v h.1.2)
      (parsesMembers_of_haveReadable members h.2)

end

/-- The tokens of a mapping are parsed as the root of a document. There is nothing behind it, and no
anchor to resolve. -/
theorem root_tokens_mapping (hmembers : ParsesMembers members) :
    root { tokens := (Value.mapping members).tokens } =
      some (.bare (Value.mapping members).node, { tokens := [], handles := defaultHandles }) := by
  have hnode : node true false (4 * (Value.mapping members).tokens.length + 4)
      { tokens := (Value.mapping members).tokens, handles := defaultHandles } =
      some (.bare (Value.mapping members).node, { tokens := [], handles := defaultHandles }) :=
    node_tokens_mapping hmembers [] (List.append_nil _).symm (by dsimp only; omega)
  rw [Value.tokens] at hnode ⊢
  rw [root]
  exact hnode

end Reading

/-! ### Documents -/

open Value Reading

/-- **A written document is read as the mapping of its members**, and nothing in it has an
anchor. -/
theorem ofText?_document {members : List (String × Value)} (hne : members ≠ [])
    (h : HaveReadable members) :
    Document.ofText? (document members) = some { root := .mapping (memberNodes members) } := by
  have hroot := root_tokens_mapping (parsesMembers_of_haveReadable members h)
  rw [Value.node, Value.tokens] at hroot
  rw [Document.ofText?, tokens?_document hne h, Option.bind_eq_bind, Option.bind_some,
    Document.ofTokens?, hroot]
  rfl

end Yaml

end EntityScript
