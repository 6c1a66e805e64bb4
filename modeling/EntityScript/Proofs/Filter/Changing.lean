import EntityScript.Proofs.Filter.Current
import EntityScript.Proofs.Json.Compact

/-!
# Changing a rule

A rule comes by its pattern and its kind in three ways: it is made, it is changed in place or its
definition is read. Only making a rule can leave none. The other two leave the rule that is made
from the pattern and the kind, and where none is made the rule of containment of the same pattern
(`Rule.newOrContains`); a change then reports the fault that making the rule has.

Nothing else of a rule has a part in its changes, so rules that compare equal are one and the same
after a change, and after every further one (`Rule.changeAll_eq_of_beq`).

**Main statement**: the three ways agree for every pattern and every kind, whatever a rule was
before it was changed (`Rule.changed_and_read_as_made`).
-/

namespace EntityScript

/-! ### Readings of parts -/

namespace ConfigFormat

variable {α β : Type}

/-- What is read and then turned into something else can be turned into it before the rest of the
text is looked at: a fault of the text is the same in both orders. -/
theorem decode?_map (k : α → β) (json : Json.Decoder α) (yaml : Yaml.Decoder α) (f : ConfigFormat)
    (s : String) :
    f.decode? (fun d => (json d).map k) (fun doc n => (yaml doc n).map k) s =
      (f.decode? json yaml s).map k := by
  cases f with
  | json =>
    simp only [decode?, Json.Decoder.text]
    -- In JSON there may be more text after a value, which is looked at only after the value is
    -- read.
    cases json (Json.Document.ofText s.toList).root with
    | error fault => rfl
    | ok a => cases hasTrailing : (Json.Document.ofText s.toList).hasTrailing <;> rfl
  | yaml => exact (Option.map_bind ..).symm

end ConfigFormat

namespace Filter

open Json.Decoder (text value)

namespace Rule

/-! ### Making a rule, or the rule of containment -/

/-- The rule of a pattern and a kind; where there is none, that of containment and the fault. -/
def newOrContains (pattern : String) (kind : MatchKind) : Rule × Except InvalidRegex Unit :=
  match new pattern kind with
  | .ok r => (r, .ok ())
  | .error fault => (contains pattern, .error fault)

/-- A fault names the pattern as it was written, and not the lowered one that was compiled. The
message of a fault can therefore be compared with what was entered. -/
theorem eq_of_new_eq_error {pattern : String} {kind : MatchKind} {fault : InvalidRegex}
    (h : new pattern kind = .error fault) : fault = ⟨pattern⟩ := by
  cases kind with
  | regEx =>
    rw [new, compile] at h
    cases hexpression : Regex.compile? (Text.lower pattern.toList) with
    | some e =>
      rw [hexpression] at h
      cases h
    | none =>
      rw [hexpression] at h
      exact (Except.error.inj h).symm
  | equals | contains | startsWith | endsWith => cases h

/-- **Compiling anew is making anew**: neither the expression nor anything else is kept. All that is
said about changes below follows from this equation. -/
theorem recompile_eq (r : Rule) : r.recompile = newOrContains r.pattern r.kind := by
  obtain ⟨pattern, kind, expression⟩ := r
  cases kind with
  | regEx =>
    simp only [recompile, newOrContains, new]
    cases compile pattern <;> rfl
  | equals | contains | startsWith | endsWith => rfl

theorem setPattern_eq (r : Rule) (pattern : String) :
    r.setPattern pattern = newOrContains pattern r.kind :=
  recompile_eq _

theorem setKind_eq (r : Rule) (kind : MatchKind) : r.setKind kind = newOrContains r.pattern kind :=
  recompile_eq _

theorem restore_eq (pattern : String) (kind : MatchKind) :
    restore pattern kind = (newOrContains pattern kind).1 :=
  congrArg Prod.fst (recompile_eq _)

/-! ### Sequences of changes -/

/-- The rule after some changes, one after the other. -/
def changeAll (r : Rule) (cs : List Change) : Rule :=
  cs.foldl change r

/-- A change does not tell rules of one pattern and one kind from each other, as it makes the new
rule from nothing else. -/
theorem change_congr {r r' : Rule} (hpattern : r.pattern = r'.pattern) (hkind : r.kind = r'.kind)
    (c : Change) : r.change c = r'.change c := by
  cases c with
  | pattern pattern => simp only [change, setPattern_eq, hkind]
  | kind kind => simp only [change, setKind_eq, hpattern]

/-- **Nothing of an earlier expression remains**: rules that compare equal are one and the same
after any changes. One change is needed for that, as before it they may carry different
expressions. -/
theorem changeAll_eq_of_beq {r r' : Rule} (h : (r == r') = true) {cs : List Change}
    (hcs : cs ≠ []) : r.changeAll cs = r'.changeAll cs := by
  -- The first change makes them the same; the further ones have nothing to tell them apart by.
  cases cs with
  | nil => exact absurd rfl hcs
  | cons c cs =>
    have hboth := Bool.and_eq_true_iff.mp h
    have hchange : r.change c = r'.change c :=
      change_congr (of_decide_eq_true hboth.1) (of_decide_eq_true hboth.2) c
    rw [changeAll, changeAll, List.foldl_cons, List.foldl_cons, hchange]

end Rule

/-! ### Definitions that are written and read -/

namespace StoredRule

/-- Reads a definition from YAML. -/
def ofYaml : Yaml.Decoder StoredRule :=
  Yaml.Decoder.record yamlFields {}

/-- The definition of a rule is read back from what is written of the rule: both fields are written
under the names that the decoder looks for. -/
theorem value_decode_encode (r : Rule) : value decode r.encode = .ok ⟨r.pattern, r.kind⟩ := by
  obtain ⟨pattern, kind, expression⟩ := r
  cases kind <;> rfl

end StoredRule

namespace Rule

/-- A rule is read as its definition, and then made from it. Whether that is possible depends on the
definition alone. -/
theorem decode?_eq_map (f : ConfigFormat) (s : String) :
    f.decode? decode ofYaml s =
      (f.decode? StoredRule.decode StoredRule.ofYaml s).map StoredRule.rule :=
  ConfigFormat.decode?_map StoredRule.rule StoredRule.decode StoredRule.ofYaml f s

/-- What is written of a rule is read as the rule that its pattern and its kind give, whatever its
expression is. -/
theorem value_decode_encode (r : Rule) :
    value decode r.encode = .ok (restore r.pattern r.kind) := by
  have hdefinition : StoredRule.decode r.encode.draft = .ok ⟨r.pattern, r.kind⟩ :=
    StoredRule.value_decode_encode r
  rw [value, decode, hdefinition]
  rfl

/-- There are no numerals in what is written of a rule, so none of them can be ill formed. This is
what reading back the compact text of a rule asks for. -/
theorem isWellFormed_encode (r : Rule) : r.encode.IsWellFormed :=
  fun _ hn => absurd hn List.not_mem_nil

/-! ### The three ways -/

/-- The rule is the one that is made from the pattern and the kind, or the rule of containment of
the pattern where that fails. -/
structure IsAsMade (pattern : String) (kind : MatchKind) (r : Rule) : Prop where
  of_ok : ∀ made, new pattern kind = .ok made → r = made
  of_error : ∀ fault, new pattern kind = .error fault → r = contains pattern

/-- The rule after a change is as it is made from the pattern and the kind, and the change succeeds
and fails as making it does. -/
structure ChangesAsMade (pattern : String) (kind : MatchKind)
    (after : Rule × Except InvalidRegex Unit) : Prop where
  rule_isAsMade : IsAsMade pattern kind after.1
  ok_iff : after.2 = .ok () ↔ ∃ made, new pattern kind = .ok made
  of_error : ∀ fault, new pattern kind = .error fault →
    after.2 = .error fault ∧ fault = ⟨pattern⟩

/-- A rule that is made, or replaced by one of containment, is so as making it says, with the same
fault. The two cases are those of the constructor, and in each the other one is excluded. -/
theorem changesAsMade_newOrContains (pattern : String) (kind : MatchKind) :
    ChangesAsMade pattern kind (newOrContains pattern kind) := by
  cases h : new pattern kind with
  | ok r =>
    have hnone : ∀ fault, new pattern kind ≠ .error fault := fun fault => by rw [h]; nofun
    rw [newOrContains, h]
    exact ⟨⟨fun made hmade => Except.ok.inj (h.symm.trans hmade), fun fault hfault =>
      absurd hfault (hnone fault)⟩, iff_of_true rfl ⟨r, h⟩, fun fault hfault =>
      absurd hfault (hnone fault)⟩
  | error fault =>
    have hnone : ∀ made, new pattern kind ≠ .ok made := fun made => by rw [h]; nofun
    rw [newOrContains, h]
    refine ⟨⟨fun made hmade => absurd hmade (hnone made), fun _ _ => rfl⟩, iff_of_false nofun ?_,
      fun fault' hfault =>
      ⟨congrArg Except.error (Except.error.inj (h.symm.trans hfault)), eq_of_new_eq_error hfault⟩⟩
    rintro ⟨made, hmade⟩
    exact hnone made hmade

theorem isAsMade_restore (pattern : String) (kind : MatchKind) :
    IsAsMade pattern kind (restore pattern kind) := by
  rw [restore_eq]
  exact (changesAsMade_newOrContains pattern kind).rule_isAsMade

/-- **Rules are changed and read as they are made.** A rule with another pattern, or of another
kind, is the very rule that is made from what it has then; where none can be made, the change
reports the same fault, which names the pattern as it was written, and leaves the rule of
containment. A rule that is read from a text is the one that is made from the definition in the
text, or else the rule of containment, and every pattern and kind can be written as a definition.
What a rule was before, apart from its pattern and its kind, leaves no trace in it after a
change. -/
theorem changed_and_read_as_made (r : Rule) (pattern : String) (kind : MatchKind) :
    ChangesAsMade pattern r.kind (r.setPattern pattern) ∧
    ChangesAsMade r.pattern kind (r.setKind kind) ∧
    (∀ (format : ConfigFormat) written s,
      format.decode? StoredRule.decode StoredRule.ofYaml written = some s →
        ∃ r', format.decode? decode ofYaml written = some r' ∧ IsAsMade s.pattern s.kind r') ∧
    (∃ r', text decode (encode ⟨pattern, kind, none⟩).compact = .ok r' ∧
      IsAsMade pattern kind r') ∧
    ∀ r' cs, (r == r') = true → cs ≠ [] → r.changeAll cs = r'.changeAll cs := by
  refine ⟨?_, ?_, fun format written s hread => ⟨s.rule, ?_, isAsMade_restore _ _⟩,
    ⟨restore pattern kind, ?_, isAsMade_restore _ _⟩,
    fun r' cs heq hcs => changeAll_eq_of_beq heq hcs⟩
  · rw [setPattern_eq]
    exact changesAsMade_newOrContains pattern r.kind
  · rw [setKind_eq]
    exact changesAsMade_newOrContains r.pattern kind
  · rw [decode?_eq_map, hread, Option.map_some]
  · rw [Json.Decoder.text_compact decode (isWellFormed_encode _), value_decode_encode]

/-- A group without an end is no expression; this is the faulty pattern of the examples here. It is
evaluated through the reader of patterns. -/
theorem new_regEx_unclosed : new "(" .regEx = .error ⟨"("⟩ := by
  have hexpression : Regex.compile? (Text.lower "(".toList) = none :=
    Option.isNone_iff_eq_none.mp (by decide +kernel)
  rw [new, compile, hexpression]
  rfl

/-- A pattern that is no expression: the change is a fault, the definition is read all the same, and
an expression left over from elsewhere does not show after a change. -/
theorem changed_and_read_as_made_of_fault :
    let r := contains "("
    let leftover : Rule := ⟨"(", .contains, expressionOf? "a+"⟩
    new "(" .regEx = .error ⟨"("⟩ ∧
      (r.setKind .regEx).1 = r ∧ (r.setKind .regEx).2 = .error ⟨"("⟩ ∧
      ConfigFormat.json.decode? StoredRule.decode StoredRule.ofYaml
        (encode ⟨"(", .regEx, none⟩).compact = some ⟨"(", .regEx⟩ ∧
      ConfigFormat.json.decode? decode ofYaml (encode ⟨"(", .regEx, none⟩).compact = some r ∧
      (r == leftover) = true ∧ r.changeAll [.pattern "a"] = leftover.changeAll [.pattern "a"] := by
  intro r leftover
  have hfault := new_regEx_unclosed
  have hdefinition : ConfigFormat.json.decode? StoredRule.decode StoredRule.ofYaml
      (encode ⟨"(", .regEx, none⟩).compact = some ⟨"(", .regEx⟩ := by
    rw [ConfigFormat.decode?, Json.Decoder.text_compact _ (isWellFormed_encode _),
      StoredRule.value_decode_encode]
    rfl
  have heq : (r == leftover) = true := by decide
  obtain ⟨-, hkind, hread, -, hchanges⟩ := changed_and_read_as_made r "a" .regEx
  obtain ⟨r', hr', hmade⟩ := hread .json _ _ hdefinition
  obtain rfl : r' = r := hmade.of_error _ hfault
  exact ⟨hfault, hkind.rule_isAsMade.of_error _ hfault, (hkind.of_error _ hfault).1, hdefinition,
    hr', heq, hchanges leftover [.pattern "a"] heq (List.cons_ne_nil _ _)⟩

end Rule

end Filter

end EntityScript
