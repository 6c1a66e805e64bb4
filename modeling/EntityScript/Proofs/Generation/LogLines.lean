import EntityScript.Proofs.Generation.LogProjection
import EntityScript.Proofs.Generation.SingleLines

/-!
# Lines of logs

A log puts each message on a line of its own, behind the mark of its level. Nothing is done about
line feeds inside a message: the text after one begins a line that has no mark. So every line of a
log is marked exactly when each message repeats the mark after all of its line feeds, and the
messages are read back from the lines (`Log.messages?`) exactly when none of them has a line feed
(`Log.LinesOf`).

Which texts can bring a line feed into a message is settled in `Proofs.Generation.SingleLines`;
without one in these, the log of a run has a marked line for each message, and is read back.

**Main statement**: `Generator.linesOf_log`.
-/

namespace EntityScript

open Metadata (Entity)

/-! ### Marks -/

/-- What stands in front of a message in a log of the level. -/
def LogLevel.mark (l : LogLevel) : List Char :=
  (l.name ++ ": ").toList

theorem LogLevel.isSingle_mark (l : LogLevel) : Text.IsSingle l.mark := by
  cases l <;> decide

namespace Log

/-- Every line of the text has the mark of the level. -/
def IsMarked (l : LogLevel) (text : String) : Prop :=
  ∀ line ∈ Text.lines text.toList, l.mark <+: line

instance (l : LogLevel) (text : String) : Decidable (IsMarked l text) :=
  List.decidableBAll (fun line : List Char => l.mark <+: line) _

/-- The messages in a log of the level, read line by line; none if a line has no mark. -/
def messages? (l : LogLevel) (text : String) : Option (List String) :=
  (Text.lines text.toList).mapM fun line => (Template.dropPrefix? l.mark line).map String.ofList

/-- What the lines of a log of the level are, for the messages that it has. -/
structure LinesOf (l : LogLevel) (ms : List String) (text : String) : Prop where
  /-- No line is left open. -/
  ends_line : text = "" ∨ text.toList.getLast? = some '\n'
  /-- Lines inside a message have the mark only if the message itself has it there. -/
  isMarked_iff : IsMarked l text ↔
    ∀ m ∈ ms, ∀ line ∈ (Text.lines (m.toList ++ ['\n'])).tail, l.mark <+: line
  /-- Each message is one line exactly where none has a line feed. -/
  messages?_iff : messages? l text = some ms ↔ ∀ m ∈ ms, IsLine m

variable {l : LogLevel} {ms : List String}

/-! ### Lines of a log -/

theorem toList_join_messages (l : LogLevel) (ms : List String) :
    (String.join (ms.map fun m => l.name ++ ": " ++ m ++ "\n")).toList =
      (ms.map fun m => l.mark ++ m.toList).flatMap (· ++ ['\n']) := by
  rw [String.toList_join, List.flatMap_map, List.flatMap_map]
  refine List.flatMap_congr fun m _ => ?_
  rw [String.toList_append, String.toList_append]
  rfl

theorem lines_join_messages (l : LogLevel) (ms : List String) :
    Text.lines (String.join (ms.map fun m => l.name ++ ": " ++ m ++ "\n")).toList =
      ms.flatMap fun m => Text.lines (l.mark ++ (m.toList ++ ['\n'])) := by
  rw [toList_join_messages, Text.lines_flatMap_concat, List.flatMap_map]
  simp only [List.append_assoc]

/-- The first line of a message has the mark in any case. So what counts is what stands behind the
line feeds of the message. -/
theorem forall_lines_marked_iff (m : String) :
    (∀ line ∈ Text.lines (l.mark ++ (m.toList ++ ['\n'])), l.mark <+: line) ↔
      ∀ line ∈ (Text.lines (m.toList ++ ['\n'])).tail, l.mark <+: line := by
  obtain ⟨first, others, h⟩ := Text.exists_lines_concat m.toList
  rw [Text.lines_append_of_eq_cons l.isSingle_mark h, h, List.forall_mem_cons, List.tail_cons]
  exact and_iff_right (List.prefix_append l.mark first)

theorem mapM_dropPrefix?_eq_some_iff {p : List Char} {ls : List (List Char)} :
    (ls.mapM fun line => (Template.dropPrefix? p line).map String.ofList) = some ms ↔
      ls = ms.map fun m => p ++ m.toList := by
  induction ls generalizing ms with
  | nil => cases ms <;> simp
  | cons line ls ih =>
    simp only [List.mapM_cons, Option.bind_eq_bind, Option.bind_eq_some_iff, ih,
      Option.map_eq_some_iff, Template.dropPrefix?_eq_some_iff]
    constructor
    · rintro ⟨_, ⟨rest, rfl, rfl⟩, ns, rfl, ⟨⟩⟩
      rw [List.map_cons, String.toList_ofList]
    · intro h
      obtain ⟨m, ns, rfl, hline, hls⟩ := List.map_eq_cons_iff.mp h.symm
      exact ⟨m, ⟨m.toList, hline.symm, String.ofList_toList⟩, ns, hls.symm, rfl⟩

theorem messages?_eq_some_iff {text : String} :
    messages? l text = some ms ↔ Text.lines text.toList = ms.map fun m => l.mark ++ m.toList :=
  mapM_dropPrefix?_eq_some_iff

theorem messages?_join_eq_some_iff :
    messages? l (String.join (ms.map fun m => l.name ++ ": " ++ m ++ "\n")) = some ms ↔
      ∀ m ∈ ms, IsLine m := by
  rw [messages?_eq_some_iff]
  constructor
  · intro h m hm
    have hline : l.mark ++ m.toList ∈ Text.lines
        (String.join (ms.map fun m => l.name ++ ": " ++ m ++ "\n")).toList :=
      h ▸ List.mem_map_of_mem hm
    exact (Text.isSingle_append.mp (Text.isSingle_of_mem_lines hline)).2
  · intro h
    rw [lines_join_messages, ← List.flatMap_singleton' (ms.map _), List.flatMap_map]
    refine List.flatMap_congr fun m hm => ?_
    rw [← List.append_assoc]
    exact (Text.isSingle_append.mpr ⟨l.isSingle_mark, h m hm⟩).lines_concat

/-- **The lines of a log**, whatever messages it has. The three properties follow from how the
messages are divided into lines. -/
theorem linesOf_join_messages (l : LogLevel) (ms : List String) :
    LinesOf l ms (String.join (ms.map fun m => l.name ++ ": " ++ m ++ "\n")) where
  ends_line := by
    rcases List.eq_nil_or_concat ms with rfl | ⟨ms, m, rfl⟩
    · exact .inl rfl
    · refine .inr ?_
      rw [toList_join_messages, List.concat_eq_append, List.map_append, List.flatMap_append,
        List.map_singleton, List.flatMap_singleton, ← List.append_assoc, List.getLast?_concat]
  isMarked_iff := by
    simp only [IsMarked, lines_join_messages, List.mem_flatMap, ← forall_lines_marked_iff]
    exact ⟨fun h m hm line hline => h line ⟨m, hm, hline⟩,
      fun h line ⟨m, hm, hline⟩ => h m hm line hline⟩
  messages?_iff := messages?_join_eq_some_iff

theorem LinesOf.of_lines {text : String} (h : LinesOf l ms text) (hms : ∀ m ∈ ms, IsLine m) :
    IsMarked l text ∧ messages? l text = some ms := by
  refine ⟨h.isMarked_iff.mpr fun m hm => ?_, h.messages?_iff.mpr hms⟩
  rw [(hms m hm).lines_concat]
  exact List.forall_mem_nil _

end Log

/-! ### Runs of a generator -/

namespace Generator

open Template (Document)

variable {g : Generator} {l : LogLevel}

theorem linesOf_runFresh (hlevel : g.config.loggingLevel = l) (hl : l ≠ .none) (r : Run String) :
    Log.LinesOf l (r.messages l) (g.runFresh r).1.log.text := by
  rw [text_log_runFresh hlevel hl]
  exact Log.linesOf_join_messages l (r.messages l)

/-- **Lines of the log of a run**, at any level that keeps something: the log ends with its last
line; its lines all have the mark of the level exactly when each message repeats the mark after all
of its line feeds; and the messages are read back from the lines exactly when none of them has a
line feed. That is so when the name of the project, the values of the properties, and the slugs and
names in the template have none, for a template from a file also its path and the message of a fault
in it. -/
theorem linesOf_log (hlevel : g.config.loggingLevel = l) (hl : l ≠ .none) (es : List Entity) :
    (∀ d : Document,
      let ms := (running (g.job es) d).messages l
      let text := (g.generateWith d es).1.log.text
      Log.LinesOf l ms text ∧
        ((g.job es).HasLines → (∀ item ∈ d.listing, item.2.HasLines g.config) →
          Log.IsMarked l text ∧ Log.messages? l text = some ms)) ∧
    ∀ content : Except FileError String,
      let ms := (loading g.config.scriptTemplate content >>= running (g.job es)).messages l
      let text := (g.generate content es).1.log.text
      Log.LinesOf l ms text ∧
        ((g.job es).HasLines → FileHasLines g.config content →
          Log.IsMarked l text ∧ Log.messages? l text = some ms) := by
  constructor
  · intro d ms text
    have hlines : Log.LinesOf l ms text := linesOf_runFresh hlevel hl (running (g.job es) d)
    exact ⟨hlines, fun hjob hd => hlines.of_lines ((says_running hjob hd).forall_messages l)⟩
  · intro content ms text
    have hlines : Log.LinesOf l ms text := linesOf_runFresh hlevel hl
      (loading g.config.scriptTemplate content >>= running (g.job es))
    refine ⟨hlines, fun hjob hcontent => hlines.of_lines ?_⟩
    exact (hcontent.says_loading_running hjob rfl).forall_messages l

/-- The template that has nothing but an entity node. It is what the file of the example holds. -/
theorem parse_entity : Document.parse "<entity/>" = .ok ⟨[.entity []]⟩ := by
  have hread : Markup.read "<entity/>" = ⟨[.empty "entity"], .complete⟩ := by decide +kernel
  have hitems : Template.Items (Markup.read "<entity/>").events [.element "entity" []] := by
    rw [hread]
    exact .empty .nil
  exact Template.parse_eq_ok_iff.mpr ⟨congrArg Markup.Reading.ending hread, _, hitems, rfl⟩

/-- A slug with line feeds around it, which no message takes in; and a template in a file. The log
of both calls has a marked line for every message. -/
theorem linesOf_log_account :
    let g := Generator.new { loggingLevel := .verbose }
    let es : List Entity := [{ logicalName := "account" }]
    let d : Document := ⟨[.entity [.literal "\n\x7b#ent (logicalname)#\x7d\n"]]⟩
    let ms := (running (g.job es) d).messages .verbose
    (g.job es).HasLines ∧ (∀ item ∈ d.listing, item.2.HasLines g.config) ∧
      FileHasLines g.config (.ok "<entity/>") ∧ ms.length = 16 ∧
      Log.messages? .verbose (g.generateWith d es).1.log.text = some ms ∧
      Log.IsMarked .verbose (g.generate (.ok "<entity/>") es).1.log.text := by
  intro g es d ms
  have hjob : (g.job es).HasLines := by decide +kernel
  have hd : ∀ item ∈ d.listing, item.2.HasLines g.config := by decide +kernel
  have hlength : ms.length = 16 := by decide +kernel
  have hfile : FileHasLines g.config (.ok "<entity/>") := by
    refine ⟨by decide, ?_, ?_⟩
    · rintro _ f ⟨⟩ hf
      cases parse_entity.symm.trans hf
    · rintro _ _ ⟨⟩ hd
      obtain rfl := Except.ok.inj (parse_entity.symm.trans hd)
      decide +kernel
  obtain ⟨hwith, hload⟩ := linesOf_log (g := g) (l := .verbose) rfl (by decide) es
  exact ⟨hjob, hd, hfile, hlength, ((hwith d).2 hjob hd).2, ((hload _).2 hjob hfile).1⟩

/-- A description on two lines breaks the log: the second line has no mark, and the messages are not
read back. -/
theorem unmarked_line_of_description :
    let g := Generator.new { loggingLevel := .verbose }
    let description : Metadata.Label := { localizedLabels := [⟨"Line one\nLine two", 1033⟩] }
    let es : List Entity := [{ logicalName := "account", description }]
    let d : Document := ⟨[.entity []]⟩
    let text := (g.generateWith d es).1.log.text
    Document.parse "<entity/>" = .ok d ∧ "Line two".toList ∈ Text.lines text.toList ∧
      ¬ Log.IsMarked .verbose text ∧
      Log.messages? .verbose text ≠ some ((running (g.job es) d).messages .verbose) := by
  intro g description es d text
  let ms := (running (g.job es) d).messages .verbose
  have hm : "Property Name: description, Property Value: Line one\nLine two" ∈ ms := by
    decide +kernel
  have htext : text = _ := text_log_runFresh (l := .verbose) rfl (by decide) (running (g.job es) d)
  have hline : "Line two".toList ∈ Text.lines text.toList := by
    rw [htext, Log.lines_join_messages]
    exact List.mem_flatMap.mpr ⟨_, hm, by decide +kernel⟩
  refine ⟨parse_entity, hline, fun hmarked => absurd (hmarked _ hline) (by decide), fun hread => ?_⟩
  rw [htext, Log.messages?_join_eq_some_iff] at hread
  exact absurd (hread _ hm) (by decide)

end Generator

end EntityScript
