import EntityScript.Proofs.Command.Running
import EntityScript.Proofs.Json.Values

/-!
# What is loaded of a dump

A dump lists its records as the objects of an array, or as the elements of an array that an object
holds under the name `value` (`Lists`). Its shapes are tried in order, and the last one, a single
entity, is that of any object whose known members can be read, as unknown ones are skipped. Of an
array of objects either all are read or none (`value_decodeShapes_array`). But where the list under
`value` cannot be read, its object is read as one entity, with whatever members it has beside the
list: the records are lost.

**Main statement**: what a dump is loaded as, and when none of its records is lost: exactly when all
of them can be read and `value` is named once, or else the whole object is no entity either
(`loadMetadata_eq_ok_iff`).
-/

namespace EntityScript

namespace Metadata

open Json (Decoder Value)
open Json.Decoder (membersNamed singleField value wholeValue)

/-! ### Records of a dump -/

/-- The entities are those that the values are read as, one by one. -/
def AreReadAs (vs : List Value) (es : List Entity) : Prop :=
  List.Forall₂ (fun v e => value Entity.decode v = .ok e) vs es

/-- The value lists others as a dump does its records. -/
inductive Lists : Value → List Value → Prop
  /-- The objects of an array. -/
  | array {vs : List Value} (h : ∀ v ∈ vs, ∃ ms, v = .object ms) : Lists (.array vs) vs
  /-- The elements of the array under the name `value`. -/
  | envelope {ms : List (String × Value)} {vs : List Value} (h : ("value", .array vs) ∈ ms) :
    Lists (.object ms) vs

/-- The value is no object in which several members are named `value`. -/
def ListsOnce : Value → Prop
  | .object ms => (membersNamed "value" ms).length = 1
  | _ => True

/-! ### Shapes -/

/-- Reads the entities of a complete value, in the first shape in which it can be read. -/
def decodeShapes : Decoder (List Entity) := fun d =>
  match Decoder.list Entity.decode d with
  | .ok entities => .ok entities
  | .error _ =>
    match decodeEnvelope d with
    | .ok entities => .ok entities
    | .error _ =>
      match Entity.decode d with
      | .ok entity => .ok [entity]
      | .error _ => .error .mismatch

theorem decodeDump_eq :
    decodeDump = fun d => d.value Json.depthLimit >>= value decodeShapes := rfl

theorem loadDump_eq_ok_iff {s : String} {v : Value} {es : List Entity}
    (hs : wholeValue s = .ok v) : loadDump s = .ok es ↔ value decodeShapes v = .ok es := by
  rw [loadDump, decodeDump_eq]
  exact Decoder.text_value_eq_ok_iff hs

/-- A shape is taken when those before it cannot be read. Which one is taken depends on faults only,
and not on what a dump looks like. -/
theorem value_decodeShapes_eq_ok_iff {v : Value} {es : List Entity} :
    value decodeShapes v = .ok es ↔
      value (Decoder.list Entity.decode) v = .ok es ∨
      (∀ fs, value (Decoder.list Entity.decode) v ≠ .ok fs) ∧
        (value decodeEnvelope v = .ok es ∨
        (∀ fs, value decodeEnvelope v ≠ .ok fs) ∧
          ∃ e, value Entity.decode v = .ok e ∧ es = [e]) := by
  have hshapes : value decodeShapes v =
      match value (Decoder.list Entity.decode) v with
      | .ok entities => .ok entities
      | .error _ =>
        match value decodeEnvelope v with
        | .ok entities => .ok entities
        | .error _ =>
          match value Entity.decode v with
          | .ok entity => .ok [entity]
          | .error _ => .error .mismatch := rfl
  -- The shapes are tried in this order and each failure is dropped, so a later shape counts only
  -- where the earlier ones all fail.
  rw [hshapes]
  cases value (Decoder.list Entity.decode) v with
  | ok fs => simp
  | error _ =>
    cases value decodeEnvelope v with
    | ok fs => simp
    | error _ => cases value Entity.decode v <;> simp [eq_comm]

/-! ### Arrays -/

/-- An entity that is read from an array of objects is read from none of them: its first field, a
text, is not read from an object. -/
theorem eq_nil_of_value_decode_array {vs : List Value} {e : Entity}
    (h : ∀ v ∈ vs, ∃ ms, v = .object ms) (he : value Entity.decode (.array vs) = .ok e) :
    vs = [] := by
  cases vs with
  | nil => rfl
  | cons v vs =>
    obtain ⟨ms, rfl⟩ := h v List.mem_cons_self
    cases he

/-- **Of an array of objects** either all are read, one by one, or none. An entity may be read from
an array as well, but only from an empty one. -/
theorem value_decodeShapes_array {vs : List Value} {es : List Entity}
    (h : ∀ v ∈ vs, ∃ ms, v = .object ms) :
    value decodeShapes (.array vs) = .ok es ↔ AreReadAs vs es := by
  rw [value_decodeShapes_eq_ok_iff, Decoder.value_list_eq_ok_iff, AreReadAs]
  refine or_iff_left ?_
  -- An array is no envelope, and is read as an entity only if it is empty, when it is a list.
  rintro ⟨hlist, henvelope | ⟨-, e, he, -⟩⟩
  · cases henvelope
  · obtain rfl := eq_nil_of_value_decode_array h he
    exact hlist [] rfl

/-! ### Envelopes -/

/-- An object with a list under `value` is read as an envelope if that name is its only one and the
list can be read. -/
theorem value_decodeEnvelope_eq_ok_iff {ms : List (String × Value)} {vs : List Value}
    {es : List Entity} (h : ("value", .array vs) ∈ ms) :
    value decodeEnvelope (.object ms) = .ok es ↔ ListsOnce (.object ms) ∧ AreReadAs vs es := by
  have hnamed : ("value", .array vs) ∈ membersNamed "value" ms :=
    List.mem_filter.mpr ⟨h, beq_self_eq_true "value"⟩
  have hsingle : value decodeEnvelope (.object ms) =
      value (Decoder.record (singleField "value" (Decoder.list Entity.decode)) [])
        (.object ms) := rfl
  rw [hsingle, Decoder.value_record_singleField_eq_ok_iff, ListsOnce, List.length_eq_one_iff]
  constructor
  · rintro ⟨v, hone, hread⟩
    rw [hone, List.mem_singleton] at hnamed
    obtain rfl := (Prod.mk.inj hnamed).2
    exact ⟨⟨_, hone⟩, Decoder.value_list_eq_ok_iff.mp hread⟩
  · rintro ⟨⟨m, hone⟩, hread⟩
    rw [hone, List.mem_singleton] at hnamed
    exact ⟨.array vs, by rw [hone, hnamed], Decoder.value_list_eq_ok_iff.mpr hread⟩

/-- An object with a list under `value` gives the entities of the list if all of them can be read,
and otherwise the entity that its other members describe. -/
theorem value_decodeShapes_envelope {ms : List (String × Value)} {vs : List Value}
    {es : List Entity} (h : ("value", .array vs) ∈ ms) :
    value decodeShapes (.object ms) = .ok es ↔
      (ListsOnce (.object ms) ∧ AreReadAs vs es) ∨
      ¬ (ListsOnce (.object ms) ∧ ∃ fs, AreReadAs vs fs) ∧
        ∃ e, value Entity.decode (.object ms) = .ok e ∧ es = [e] := by
  have hlist (fs : List Entity) : value (Decoder.list Entity.decode) (.object ms) ≠ .ok fs := nofun
  rw [value_decodeShapes_eq_ok_iff]
  simp only [value_decodeEnvelope_eq_ok_iff h, hlist, false_or, ne_eq, not_false_eq_true,
    implies_true, true_and, ← not_exists, exists_and_left]

/-- Both ways to list records come to the same: either all of them are read, or the whole value is
read as one entity. -/
theorem value_decodeShapes_of_lists {v : Value} {vs : List Value} {es : List Entity}
    (hlists : Lists v vs) :
    value decodeShapes v = .ok es ↔
      (ListsOnce v ∧ AreReadAs vs es) ∨
      ¬ (ListsOnce v ∧ ∃ fs, AreReadAs vs fs) ∧
        ∃ e, value Entity.decode v = .ok e ∧ es = [e] := by
  cases hlists with
  | array h =>
    have honce : ListsOnce (.array vs) := trivial
    rw [value_decodeShapes_array h, and_iff_right honce, and_iff_right honce]
    refine (or_iff_left ?_).symm
    rintro ⟨hnone, e, he, -⟩
    obtain rfl := eq_nil_of_value_decode_array h he
    exact hnone ⟨[], .nil⟩
  | envelope h => exact value_decodeShapes_envelope h

/-! ### Loading -/

/-- What the file at a path is loaded as in a session, and the session after that. -/
def loadIn (session : Session) (path : String) :
    Except Command.Fault (List Entity) × Session :=
  (Command.loadMetadata path : ExceptT Command.Fault (StateM Session) (List Entity)) session

theorem loadIn_eq {session : Session} {path s : String}
    (hfile : session.workspace.read path >>= textOfBytes = .ok s) :
    loadIn session path = ((loadDump s).mapError (.parsingMetadata path), session) :=
  Command.runIn_loadMetadata (fun _ _ => rfl) hfile

/-- **What a dump is loaded as.** Its records are read one by one if all of them can be and `value`
is named once. Otherwise nothing is loaded of an array of objects, and of an object the entity that
it is itself, if it is one. So no record is lost silently exactly in the first case and where the
value is no entity itself, or one that its only record is read as. -/
theorem loadMetadata_eq_ok_iff {session : Session} {path s : String} {v : Value}
    {vs : List Value} (hfile : session.workspace.read path >>= textOfBytes = .ok s)
    (hs : wholeValue s = .ok v) (hlists : Lists v vs) :
    (∀ es, (loadIn session path).1 = .ok es ↔
      (ListsOnce v ∧ AreReadAs vs es) ∨
      ¬ (ListsOnce v ∧ ∃ fs, AreReadAs vs fs) ∧ ∃ e, value Entity.decode v = .ok e ∧ es = [e]) ∧
    (v = .array vs → ∀ es, (loadIn session path).1 = .ok es ↔ AreReadAs vs es) ∧
    ((∀ es, (loadIn session path).1 = .ok es → AreReadAs vs es) ↔
      (ListsOnce v ∧ ∃ es, AreReadAs vs es) ∨
      ∀ e, value Entity.decode v = .ok e → AreReadAs vs [e]) := by
  have hload : ∀ es, (loadIn session path).1 = .ok es ↔ value decodeShapes v = .ok es := by
    intro es
    rw [← loadDump_eq_ok_iff hs, loadIn_eq hfile]
    cases loadDump s <;> simp [Except.mapError]
  have hshapes : ∀ es, (loadIn session path).1 = .ok es ↔ _ := fun es =>
    (hload es).trans (value_decodeShapes_of_lists hlists)
  refine ⟨hshapes, ?_, ?_⟩
  · rintro rfl es
    cases hlists with
    | array h => exact (hload es).trans (value_decodeShapes_array h)
  · constructor
    · intro hkept
      -- Where the list cannot be read, the entity of the whole object is what is loaded.
      refine or_iff_not_imp_left.mpr fun hlost e he => ?_
      exact hkept [e] ((hshapes [e]).mpr (.inr ⟨hlost, e, he, rfl⟩))
    · rintro hkept es hes
      obtain ⟨-, hread⟩ | ⟨hlost, e, he, rfl⟩ := (hshapes es).mp hes
      · exact hread
      · exact (hkept.resolve_left hlost) e he

/-- A list of two records, beside a member that no shape knows. Both are read, and the other member
is skipped. -/
theorem loadMetadata_two_records :
    let s := "\x7b\"count\":null,\"value\":[\x7b\"LogicalName\":\"a\"\x7d,\x7b\x7d]\x7d"
    let session : Session := { workspace := ⟨[(["dump.json".toList], .file s.toUTF8)]⟩ }
    (loadIn session "dump.json").1 = .ok [{ logicalName := "a" }, {}] := by
  intro s session
  let vs : List Value := [.object [("LogicalName", .string "a")], .object []]
  have hfile : session.workspace.read "dump.json" >>= textOfBytes = .ok s := by decide +kernel
  have htokens : Json.tokens s.toList =
      [.openObject, .string (some "count"), .colon, .null, .comma, .string (some "value"), .colon,
        .openArray, .openObject, .string (some "LogicalName"), .colon, .string (some "a"),
        .closeObject, .comma, .openObject, .closeObject, .closeArray, .closeObject] := by
    decide +kernel
  have hs : wholeValue s = .ok (.object [("count", .null), ("value", .array vs)]) :=
    Decoder.wholeValue_of_tokens htokens rfl rfl
  have hlists : Lists (.object [("count", .null), ("value", .array vs)]) vs :=
    .envelope (List.mem_cons_of_mem _ List.mem_cons_self)
  have hread : AreReadAs vs [{ logicalName := "a" }, {}] :=
    .cons (by decide +kernel) (.cons (by decide +kernel) .nil)
  exact ((loadMetadata_eq_ok_iff hfile hs hlists).1 _).mpr (.inl ⟨rfl, hread⟩)

/-- The only record of an object with a list, whose name is not a text: the object is loaded as an
entity without a name. The list by itself is not loaded. -/
theorem loadMetadata_unreadable_record :
    let s := "\x7b\"value\":[\x7b\"LogicalName\":5\x7d]\x7d"
    let v : Value := .object [("LogicalName", .number (.ofInt 5))]
    let session : Session := { workspace := ⟨[(["dump.json".toList], .file s.toUTF8)]⟩ }
    wholeValue s = .ok (.object [("value", .array [v])]) ∧
      value Entity.decode v = .error .mismatch ∧
      (loadIn session "dump.json").1 = .ok [{}] ∧
      loadDump "[\x7b\"LogicalName\":5\x7d]" = .error .mismatch := by
  intro s v session
  have htokens : Json.tokens s.toList =
      [.openObject, .string (some "value"), .colon, .openArray, .openObject,
        .string (some "LogicalName"), .colon, .number (.ofInt 5), .closeObject, .closeArray,
        .closeObject] := by
    decide +kernel
  have hrange : (Json.Numeral.ofInt 5).isOutOfRange = false := by decide +kernel
  refine ⟨Decoder.wholeValue_of_tokens htokens rfl ?_, by decide +kernel, by decide +kernel,
    by decide +kernel⟩
  simp [Json.Draft.value, Json.Draft.values, Json.Draft.memberValues, Json.depthLimit, hrange, v,
    bind, Except.bind]

end Metadata

end EntityScript
