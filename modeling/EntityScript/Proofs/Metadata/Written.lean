import EntityScript.Proofs.Json.Records
import EntityScript.Proofs.Metadata.Dumps

/-!
# Written dumps

What is written of a record is read back: the fields are written in their order with all that they
hold, and every value of a field is read back from what is written of it (`Entity.readsBack`). An
object that is written of an entity has no member `value`, and an array that is written of a list is
no entity, so the shapes of a dump do not get in each other's way although they are tried in order.

Writing uses few levels of arrays and objects (`Entity.fits`), so what else an envelope holds may
use nearly all that reading allows.

**Main statement**: a dump is loaded as it was written, in each of its shapes (`loadIn_written`).
-/

namespace EntityScript

namespace Metadata

open Json (Decoder Value)
open Json.Decoder

/-! ### Records are read back -/

theorem LocalizedLabel.readsBack : ReadsBack decode encode := fun _ =>
  record_object (by decide) <| .field .string (by decide) <| .field .int32 (by decide) <| .nil _

/-- A label is read back with all of its texts, that in the language of whoever exported it among
them. -/
theorem Label.readsBack : ReadsBack decode encode := fun _ => by
  refine record_object (by decide) ?_
  refine .field (.list LocalizedLabel.readsBack) (by decide) ?_
  refine .field (.option LocalizedLabel.readsBack nofun) (by decide) ?_
  exact .nil _

/-- The type of an attribute is read back from its name, also where that is not one of the known
ones. -/
theorem TypeCode.readsBack : ReadsBack decode encode :=
  .oneOf fun t => congrArg some t.ofName_name

theorem RequiredLevel.readsBack : ReadsBack decode encode :=
  .oneOf RequiredLevel.ofName?_name

/-- A managed value is read back, whatever its default is, if the value in it is. -/
theorem Managed.readsBack {α : Type} {read : Decoder α} {encode : α → Value}
    (h : ReadsBack read encode) (value : α) :
    ReadsBack (Managed.decode read value) (Managed.encode encode) := fun m => by
  have hnames : ((Managed.fields read).flatMap (·.names)).Nodup := by
    show ["Value", "CanBeChanged", "ManagedPropertyLogicalName"].Nodup
    decide
  refine record_object hnames ?_
  refine .field h (by decide) ?_
  refine .field .bool (by decide) ?_
  refine .field (.option .string nofun) (by decide) ?_
  exact .nil _

theorem readsBack_typeName : ReadsBack decodeTypeName encodeTypeName := fun _ =>
  record_object (by decide) <| .field .string (by decide) <| .nil _

/-- **An attribute is read back** from its object, field by field. The fields are written in the
order in which they are declared. -/
theorem Attribute.readsBack : ReadsBack decode encode := fun a => by
  refine record_object (by decide) ?_
  refine .field (.option .string nofun) (by decide) ?_
  refine .field .string (by decide) ?_
  refine .field .string (by decide) ?_
  refine .field (.option .string nofun) (by decide) ?_
  refine .field (.option TypeCode.readsBack nofun) (by decide) ?_
  refine .field (.option readsBack_typeName nofun) (by decide) ?_
  refine .field (.option .string nofun) (by decide) ?_
  refine .field (.option .int32 nofun) (by decide) ?_
  refine .field (.option .bool nofun) (by decide) ?_
  refine .field (.option .bool nofun) (by decide) ?_
  refine .field (.option .bool nofun) (by decide) ?_
  refine .field (.option .bool nofun) (by decide) ?_
  refine .field (.option .bool nofun) (by decide) ?_
  refine .field (.option .bool nofun) (by decide) ?_
  refine .field (.option .bool nofun) (by decide) ?_
  refine .field (.option (Managed.readsBack .bool _) nofun) (by decide) ?_
  refine .field (.option (Managed.readsBack RequiredLevel.readsBack _) nofun) (by decide) ?_
  refine .field Label.readsBack (by decide) ?_
  refine .field Label.readsBack (by decide) ?_
  exact .nil _

/-- **An entity is read back** from its object, with all of its attributes. Its own fields come
first, and then the list of attributes. -/
theorem Entity.readsBack : ReadsBack decode encode := fun e => by
  refine record_object (by decide) ?_
  refine .field (.option .string nofun) (by decide) ?_
  refine .field .string (by decide) ?_
  refine .field .string (by decide) ?_
  refine .field (.option .string nofun) (by decide) ?_
  refine .field (.option .string nofun) (by decide) ?_
  refine .field (.option .int32 nofun) (by decide) ?_
  refine .field (.option .string nofun) (by decide) ?_
  refine .field (.option .string nofun) (by decide) ?_
  refine .field (.option .bool nofun) (by decide) ?_
  refine .field (.option .bool nofun) (by decide) ?_
  refine .field (.option .bool nofun) (by decide) ?_
  refine .field (.option (Managed.readsBack .bool _) nofun) (by decide) ?_
  refine .field Label.readsBack (by decide) ?_
  refine .field Label.readsBack (by decide) ?_
  refine .field Label.readsBack (by decide) ?_
  refine .field (.list Attribute.readsBack) (by decide) ?_
  exact .nil _

/-! ### Records are within the limits -/

section Limits

variable (depth : Nat)

theorem LocalizedLabel.fits (l : LocalizedLabel) : l.encode.Fits (depth + 1) := by
  refine .object ?_
  simp only [List.forall_mem_cons]
  exact ⟨.string _, .int32 _, nofun⟩

/-- A label takes three levels: its own object, the list in it, and the objects of that list. -/
theorem Label.fits (l : Label) : l.encode.Fits (depth + 3) := by
  refine .object ?_
  simp only [List.forall_mem_cons]
  exact ⟨.list (LocalizedLabel.fits depth) _, .option (LocalizedLabel.fits (depth + 1)) _, nofun⟩

/-- A managed value takes one level more than the value. -/
theorem Managed.fits {α : Type} {encode : α → Value} (h : ∀ a, (encode a).Fits depth)
    (m : Managed α) : (m.encode encode).Fits (depth + 1) := by
  refine .object ?_
  simp only [List.forall_mem_cons]
  exact ⟨h _, .bool _, .option .string _, nofun⟩

theorem fits_encodeTypeName (name : String) : (encodeTypeName name).Fits (depth + 1) :=
  .object (List.forall_mem_singleton.mpr (.string name))

/-- An attribute takes one level more than its labels. Labels are the deepest of its fields. -/
theorem Attribute.fits (a : Attribute) : a.encode.Fits (depth + 4) := by
  refine .object ?_
  simp only [List.forall_mem_cons]
  exact ⟨.option .string _, .string _, .string _, .option .string _,
    .option (fun _ => .string _) _, .option (fits_encodeTypeName _) _, .option .string _,
    .option .int32 _, .option .bool _, .option .bool _, .option .bool _, .option .bool _,
    .option .bool _, .option .bool _, .option .bool _, .option (Managed.fits _ .bool) _,
    .option (Managed.fits _ fun _ => .string _) _, Label.fits depth _, Label.fits depth _, nofun⟩

/-- An entity takes two levels more than its attributes, for its own object and their list. -/
theorem Entity.fits (e : Entity) : e.encode.Fits (depth + 6) := by
  refine .object ?_
  simp only [List.forall_mem_cons]
  exact ⟨.option .string _, .string _, .string _, .option .string _, .option .string _,
    .option .int32 _, .option .string _, .option .string _, .option .bool _, .option .bool _,
    .option .bool _, .option (Managed.fits _ .bool) _, Label.fits _ _, Label.fits _ _,
    Label.fits _ _, .list (Attribute.fits depth) _, nofun⟩

theorem fits_list_encode (es : List Entity) :
    (Value.list Entity.encode es).Fits (depth + 7) :=
  .list (Entity.fits depth) es

end Limits

/-! ### Shapes -/

theorem value_decodeShapes_list (es : List Entity) :
    value decodeShapes (.list Entity.encode es) = .ok es :=
  value_decodeShapes_eq_ok_iff.mpr (.inl (ReadsBack.list Entity.readsBack es))

/-- An object with a list of entities under `value` is read as an envelope: no object is a list. The
name must not be there twice. -/
theorem value_decodeShapes_value {ms : List (String × Value)} {es : List Entity}
    (h : membersNamed "value" ms = [("value", .list Entity.encode es)]) :
    value decodeShapes (.object ms) = .ok es := by
  have hmem : ("value", .list Entity.encode es) ∈ ms :=
    (List.mem_filter.mp (h ▸ List.mem_singleton_self _ :
      ("value", .list Entity.encode es) ∈ membersNamed "value" ms)).1
  refine (value_decodeShapes_envelope hmem).mpr (.inl ⟨congrArg List.length h, ?_⟩)
  exact List.forall₂_map_left_iff.mpr (List.forall₂_same.mpr fun e _ => Entity.readsBack e)

/-- An entity has no member of the name `value`, so it is no envelope, and the last shape reads
it. -/
theorem value_decodeShapes_encode (e : Entity) : value decodeShapes e.encode = .ok [e] := by
  have henvelope (fs : List Entity) : value decodeEnvelope e.encode ≠ .ok fs := by
    intro h
    obtain ⟨v, hone, -⟩ := value_record_singleField_eq_ok_iff.mp h
    cases hone
  exact value_decodeShapes_eq_ok_iff.mpr
    (.inr ⟨nofun, .inr ⟨henvelope, e, Entity.readsBack e, rfl⟩⟩)

/-! ### Loading -/

theorem textOfBytes_toUTF8 (s : String) : textOfBytes s.toUTF8 = .ok s := by
  have hvalid : s.toUTF8.IsValidUTF8 := s.isValidUTF8
  rw [textOfBytes, String.fromUTF8?, dif_pos hvalid]
  rfl

section

variable {session : Session} {path s : String} {v : Value} {es : List Entity}

/-- A file whose text writes a value, however it is laid out, is loaded as the value is. Here the
three shapes are alike. -/
theorem loadIn_of_wholeValue (hfile : session.workspace.read path >>= textOfBytes = .ok s)
    (hs : wholeValue s = .ok v) (hv : value decodeShapes v = .ok es) :
    loadIn session path = (.ok es, session) := by
  rw [loadIn_eq hfile, (loadDump_eq_ok_iff hs).mpr hv]
  rfl

/-- A file that holds the compact text of a value is loaded as the value is. Its bytes are those of
the text. -/
theorem loadIn_of_compact (hfile : session.workspace.read path = .ok v.compact.toUTF8)
    (hfits : v.Fits Json.depthLimit) (hv : value decodeShapes v = .ok es) :
    loadIn session path = (.ok es, session) := by
  refine loadIn_of_wholeValue (s := v.compact) ?_ (wholeValue_compact hfits) hv
  rw [hfile]
  exact textOfBytes_toUTF8 v.compact

end

/-- The object of a list of entities under the name `value`, among members of other names. -/
def envelope (before after : List (String × Value)) (es : List Entity) : Value :=
  .object (before ++ ("value", .list Entity.encode es) :: after)

variable {before after : List (String × Value)} {es : List Entity}

/-- An envelope has one member of the name `value`. -/
theorem membersNamed_envelope (h : ∀ m ∈ before ++ after, m.1 ≠ "value") :
    membersNamed "value" (before ++ ("value", .list Entity.encode es) :: after) =
      [("value", .list Entity.encode es)] := by
  obtain ⟨hbefore, hafter⟩ := List.forall_mem_append.mp h
  have hnone (ms : List (String × Value)) (hms : ∀ m ∈ ms, m.1 ≠ "value") :
      ms.filter (·.1 == "value") = [] :=
    List.filter_eq_nil_iff.mpr fun m hm => by simpa using hms m hm
  rw [membersNamed, List.filter_append, hnone before hbefore, List.nil_append]
  exact membersNamed_cons_self.trans (congrArg (List.cons _) (hnone after hafter))

/-- An envelope is within the limits if its other members are, with one level less. That of the
envelope itself is one of those that reading allows. -/
theorem fits_envelope (h : ∀ m ∈ before ++ after, m.2.Fits (Json.depthLimit - 1)) :
    (envelope before after es).Fits Json.depthLimit := by
  obtain ⟨hbefore, hafter⟩ := List.forall_mem_append.mp h
  refine .object (List.forall_mem_append.mpr ⟨hbefore, List.forall_mem_cons.mpr ⟨?_, hafter⟩⟩)
  exact fits_list_encode _ es

/-- **A dump is loaded as it was written**, in each of its shapes: a list of entities, an object
that holds such a list beside other members, and a single entity. The file may hold the compact text
of the dump, or any other text that writes the same value. -/
theorem loadIn_written {session : Session} {path : String} :
    (∀ es, session.workspace.read path = .ok (Value.list Entity.encode es).compact.toUTF8 →
      loadIn session path = (.ok es, session)) ∧
    (∀ es before after,
      (∀ m ∈ before ++ after, m.1 ≠ "value" ∧ m.2.Fits (Json.depthLimit - 1)) →
      session.workspace.read path = .ok (envelope before after es).compact.toUTF8 →
      loadIn session path = (.ok es, session)) ∧
    (∀ e : Entity, session.workspace.read path = .ok e.encode.compact.toUTF8 →
      loadIn session path = (.ok [e], session)) ∧
    ∀ s v, session.workspace.read path >>= textOfBytes = .ok s → wholeValue s = .ok v →
      (∀ es, v = .list Entity.encode es → loadIn session path = (.ok es, session)) ∧
      (∀ es ms, v = .object ms → membersNamed "value" ms = [("value", .list Entity.encode es)] →
        loadIn session path = (.ok es, session)) ∧
      ∀ e : Entity, v = e.encode → loadIn session path = (.ok [e], session) := by
  refine ⟨fun es hfile => ?_, fun es before after hothers hfile => ?_, fun e hfile => ?_,
    fun s v hfile hs => ⟨?_, ?_, ?_⟩⟩
  · exact loadIn_of_compact hfile (fits_list_encode _ es) (value_decodeShapes_list es)
  · -- The other members may stand on both sides of the list, but none of them is called like it.
    have hone : membersNamed "value" (before ++ ("value", .list Entity.encode es) :: after) =
        [("value", .list Entity.encode es)] := membersNamed_envelope fun m hm => (hothers m hm).1
    exact loadIn_of_compact hfile (fits_envelope fun m hm => (hothers m hm).2)
      (value_decodeShapes_value hone)
  · exact loadIn_of_compact hfile (Entity.fits _ e) (value_decodeShapes_encode e)
  · rintro es rfl
    exact loadIn_of_wholeValue hfile hs (value_decodeShapes_list es)
  · rintro es ms rfl hone
    exact loadIn_of_wholeValue hfile hs (value_decodeShapes_value hone)
  · rintro e rfl
    exact loadIn_of_wholeValue hfile hs (value_decodeShapes_encode e)

/-- An entity with a negative number, a quote and a type without a name of its own, beside a count
that is named twice. -/
theorem loadIn_written_envelope :
    let e : Entity := {
      logicalName := "a\"b", objectTypeCode := some (-5)
      attributes :=
        [{ attributeType := some .unknown, requiredLevel := some ⟨.none, true, none⟩ }] }
    let counts : List (String × Value) := [("count", .nat 1), ("count", .array [.null])]
    let session : Session := { workspace :=
      ⟨[(["dump.json".toList], .file (envelope counts [] [e]).compact.toUTF8)]⟩ }
    (∀ m ∈ counts ++ [], m.1 ≠ "value" ∧ m.2.Fits (Json.depthLimit - 1)) ∧
      loadIn session "dump.json" = (.ok [e], session) := by
  intro e counts session
  have hothers : ∀ m ∈ counts ++ [], m.1 ≠ "value" ∧ m.2.Fits (Json.depthLimit - 1) := by
    refine List.forall_mem_cons.mpr ⟨⟨by decide, .int32 1⟩, List.forall_mem_singleton.mpr ?_⟩
    exact ⟨by decide, .array (List.forall_mem_singleton.mpr (.null _))⟩
  exact ⟨hothers, loadIn_written.2.1 [e] counts [] hothers rfl⟩

end Metadata

end EntityScript
