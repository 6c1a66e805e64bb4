import EntityScript.Json.Token

/-!
# Drafts

A draft is the tree of a text that need not be JSON to its end: where the text breaks off, so does
the tree, and the place says what a reader meets there. Reading a value from a draft in the order
of the text therefore finds the same first problem as reading the text itself.
-/

namespace EntityScript

namespace Json

/-- What is met where a text stops being JSON. -/
structure Break where
  /-- Met by a reader of values, items or members. -/
  reading : Fault
  /-- Met when the value is skipped. -/
  skipping : Fault
  /-- Met by a reader of a name, or of an object that wraps one. -/
  naming : Fault

namespace Break

/-- A break that every reader meets as the same fault. -/
def all (fault : Fault) : Break :=
  ⟨fault, fault, fault⟩

end Break

/-- A value as far as a text gives it. -/
inductive Draft where
  | null
  | bool (b : Bool)
  | number (n : Numeral)
  | string (text : Option String)
  | array (items : List Draft) (ending : Option Break)
  | object (members : List (Option String × Draft)) (ending : Option Break)
  | broken (b : Break)

/-! ### Tokens to drafts -/

/-- What is met where a comma or a closing bracket is due. -/
def unfinished : List Token → Break
  | [] => .all .truncated
  | _ :: _ => .all .malformed

/-- What is met where a member's name is due; `first` if no member stands before. -/
def badKey (first : Bool) : List Token → Break
  | [] => ⟨.truncated, .truncated, if first then .truncated else .malformed⟩
  | .cutString reading skipping :: _ => ⟨reading, skipping, if first then reading else .malformed⟩
  | .cutScalar reading _ :: _ => ⟨.malformed, .malformed, if first then reading else .malformed⟩
  | .comma :: _ | .colon :: _ | .closeArray :: _ | .closeObject :: _ => .all .malformed
  | _ :: _ => ⟨.malformed, .malformed, if first then .mismatch else .malformed⟩

mutual

/-- The draft at the start of the tokens, and the tokens after it. -/
def draftWithin : Nat → List Token → Draft × List Token
  | 0, ts => (.broken (.all .malformed), ts)
  | _ + 1, [] => (.broken (.all .truncated), [])
  | fuel + 1, t :: ts =>
    match t with
    | .null => (.null, ts)
    | .bool b => (.bool b, ts)
    | .number n => (.number n, ts)
    | .string text => (.string text, ts)
    -- A string or scalar that the text breaks off in is the last token that counts.
    | .cutString reading skipping => (.broken ⟨reading, skipping, reading⟩, [])
    | .cutScalar reading skipping => (.broken ⟨reading, skipping, .malformed⟩, [])
    | .openArray =>
      match ts with
      | .closeArray :: ts => (.array [] none, ts)
      -- Here the text ends behind the bracket, which is no item that is missing.
      | [] => (.array [] (some (.all .truncated)), [])
      | ts =>
        let (items, ending, ts) := itemsWithin fuel ts
        (.array items ending, ts)
    | .openObject =>
      match ts with
      | .closeObject :: ts => (.object [] none, ts)
      | ts =>
        let (members, ending, ts) := membersWithin true fuel ts
        (.object members ending, ts)
    | .comma | .colon | .closeArray | .closeObject => (.broken (.all .malformed), [])

/-- The items of an array up to its end, how it ends, and the tokens after it. -/
def itemsWithin : Nat → List Token → List Draft × Option Break × List Token
  | 0, ts => ([], some (.all .malformed), ts)
  | fuel + 1, ts =>
    let (item, ts) := draftWithin fuel ts
    match ts with
    | .comma :: ts =>
      let (items, ending, ts) := itemsWithin fuel ts
      (item :: items, ending, ts)
    | .closeArray :: ts => ([item], none, ts)
    | ts => ([item], some (unfinished ts), [])

/-- The members of an object up to its end, how it ends, and the tokens after it. -/
def membersWithin (first : Bool) :
    Nat → List Token → List (Option String × Draft) × Option Break × List Token
  | 0, ts => ([], some (.all .malformed), ts)
  | fuel + 1, ts =>
    match ts with
    | .string key :: .colon :: ts =>
      let (v, ts) := draftWithin fuel ts
      match ts with
      | .comma :: ts =>
        let (members, ending, ts) := membersWithin false fuel ts
        ((key, v) :: members, ending, ts)
      | .closeObject :: ts => ([(key, v)], none, ts)
      | ts => ([(key, v)], some (unfinished ts), [])
    | .string key :: ts => ([(key, .broken (unfinished ts))], none, [])
    | ts => ([], some (badKey first ts), [])

end

/-- A text as a draft, and whether anything but white space follows it. -/
structure Document where
  root : Draft
  hasTrailing : Bool

/-- The draft of a text. -/
def Document.ofText (s : List Char) : Document :=
  let ts := tokens s
  let (root, rest) := draftWithin (2 * ts.length + 2) ts
  ⟨root, !rest.isEmpty⟩

/-! ### Complete values -/

mutual

/-- The draft of a value. -/
def Value.draft : Value → Draft
  | .null => .null
  | .bool b => .bool b
  | .number n => .number n
  | .string s => .string (some s)
  | .array items => .array (Value.drafts items) none
  | .object members => .object (Value.memberDrafts members) none

/-- The drafts of the items of an array. -/
def Value.drafts : List Value → List Draft
  | [] => []
  | v :: vs => v.draft :: Value.drafts vs

/-- The drafts of the members of an object. -/
def Value.memberDrafts : List (String × Value) → List (Option String × Draft)
  | [] => []
  | (key, v) :: members => (some key, v.draft) :: Value.memberDrafts members

end

/-- How deep arrays and objects may be nested in a value that is read whole. -/
def depthLimit : Nat :=
  127

mutual

/-- The value that a draft holds, with at most `depth` levels of arrays and objects. -/
def Draft.value (depth : Nat) : Draft → Except Fault Value
  | .null => .ok .null
  | .bool b => .ok (.bool b)
  | .number n => if n.isOutOfRange then .error .malformed else .ok (.number n)
  | .string none => .error .malformed
  | .string (some s) => .ok (.string s)
  | .array items ending =>
    match depth with
    | 0 => .error .malformed
    | depth + 1 => do
      let items ← Draft.values depth items
      match ending with
      | none => .ok (.array items)
      | some b => .error b.reading
  | .object members ending =>
    match depth with
    | 0 => .error .malformed
    | depth + 1 => do
      let members ← Draft.memberValues depth members
      match ending with
      | none => .ok (.object members)
      | some b => .error b.reading
  | .broken b => .error b.reading

/-- The values of the items of an array. -/
def Draft.values (depth : Nat) : List Draft → Except Fault (List Value)
  | [] => .ok []
  | d :: ds => do
    let v ← d.value depth
    let vs ← Draft.values depth ds
    .ok (v :: vs)

/-- The values of the members of an object. -/
def Draft.memberValues (depth : Nat) :
    List (Option String × Draft) → Except Fault (List (String × Value))
  | [] => .ok []
  | (none, _) :: _ => .error .malformed
  | (some key, d) :: members => do
    let v ← d.value depth
    let members ← Draft.memberValues depth members
    .ok ((key, v) :: members)

end

mutual

/-- The fault that skipping a draft meets, if any. -/
def Draft.skip : Draft → Except Fault Unit
  | .array items ending => do
    Draft.skipItems items
    match ending with
    | none => .ok ()
    | some b => .error b.skipping
  | .object members ending => do
    Draft.skipMembers members
    match ending with
    | none => .ok ()
    | some b => .error b.skipping
  | .broken b => .error b.skipping
  | _ => .ok ()

/-- The fault that skipping the items of an array meets, if any. -/
def Draft.skipItems : List Draft → Except Fault Unit
  | [] => .ok ()
  | d :: ds => do
    d.skip
    Draft.skipItems ds

/-- The fault that skipping the members of an object meets, if any. -/
def Draft.skipMembers : List (Option String × Draft) → Except Fault Unit
  | [] => .ok ()
  | (_, d) :: members => do
    d.skip
    Draft.skipMembers members

end

end Json

end EntityScript
