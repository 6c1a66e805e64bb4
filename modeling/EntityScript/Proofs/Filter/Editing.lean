import EntityScript.Proofs.Filter.Current

/-!
# Rules under editing

Rules come from constructors and from stored texts, are changed in place, and are copied and moved
between sets. `Action` is one such step of a program that holds some rule sets, and `perform` what
it does to them; a step that fails may still change a rule. Whatever makes or changes a rule ends
in one that is current, so every step keeps the sets current (`AllCurrent.perform`), and every
sequence of steps does (`AllCurrent.performAll`).

**Main statement**: every rule that a sequence of steps can reach is current, and two of them that
compare equal match the same names (`Rule.Reachable.current_and_eq_sound`).
-/

namespace EntityScript

namespace Filter

/-! ### Programs over rule sets -/

/-- A way to come by a rule. -/
inductive Rule.Making where
  | new (pattern : String) (kind : MatchKind)
  | equals (pattern : String)
  | contains (pattern : String)
  | startsWith (pattern : String)
  | endsWith (pattern : String)
  | regEx (pattern : String)
  /-- The rule is read from a text. -/
  | ofText (format : ConfigFormat) (text : String)

/-- The rule that is made, if there is no fault. -/
def Rule.Making.rule? : Rule.Making → Option Rule
  | new pattern kind => (Rule.new pattern kind).toOption
  | equals pattern => some (.equals pattern)
  | contains pattern => some (.contains pattern)
  | startsWith pattern => some (.startsWith pattern)
  | endsWith pattern => some (.endsWith pattern)
  | regEx pattern => (Rule.regEx pattern).toOption
  | ofText format text => format.decode? Rule.decode Rule.ofYaml text

/-- However a rule is made, it is current. The constructors that can fail give no rule then, and a
text gives one that was compiled while it was read. -/
theorem Rule.isCurrent_of_making {m : Rule.Making} {r : Rule} (h : m.rule? = some r) :
    r.IsCurrent := by
  cases m with
  | new pattern kind => exact isCurrent_of_new (Json.Decoder.toOption_eq_some_iff.mp h)
  | equals pattern => exact Option.some.inj h ▸ isCurrent_equals pattern
  | contains pattern => exact Option.some.inj h ▸ isCurrent_contains pattern
  | startsWith pattern => exact Option.some.inj h ▸ isCurrent_startsWith pattern
  | endsWith pattern => exact Option.some.inj h ▸ isCurrent_endsWith pattern
  | regEx pattern => exact isCurrent_of_new (Json.Decoder.toOption_eq_some_iff.mp h)
  -- The two formats are one case, since both decoders give current rules.
  | ofText format text =>
    exact ConfigFormat.of_decode? isCurrent_of_decode isCurrent_of_ofYaml h

/-- A step of a program that holds some rule sets. Sets are named by `i` and `k`, places in them by
`j` and `l`. -/
inductive Action where
  /-- A rule is made and added to a set. -/
  | make (i : Nat) (m : Rule.Making)
  /-- A rule is changed in place. -/
  | change (i j : Nat) (c : Rule.Change)
  | erase (i j : Nat)
  | exchange (i j l : Nat)
  /-- A copy of a rule is added to another set, or to its own. -/
  | copy (i j k : Nat)
  /-- A rule is taken from its set and added to another one. -/
  | move (i j k : Nat)
  /-- A set becomes a copy of another one. -/
  | assign (i k : Nat)
  /-- A set is read from a text. -/
  | load (i : Nat) (format : ConfigFormat) (text : String)
  /-- Two sets become the filters of entities and of attributes of a configuration. -/
  | loadConfig (i k : Nat) (format : ConfigFormat) (text : String)

/-- The rule at a place of a set. -/
def ruleAt? (sets : List RuleSet) (i j : Nat) : Option Rule :=
  sets[i]?.bind (·.rules[j]?)

/-- The sets with one more rule in one of them, if there is a rule. -/
def pushTo (k : Nat) (r : Option Rule) (sets : List RuleSet) : List RuleSet :=
  match r with
  | some r => sets.modify k (·.push r)
  | none => sets

/-- The sets with one of them replaced, if there is one to replace it. -/
def replaceAt (i : Nat) (s : Option RuleSet) (sets : List RuleSet) : List RuleSet :=
  match s with
  | some s => sets.set i s
  | none => sets

/-- The sets after an action. Where there is no set or rule of the names that it gives, or no rule
can be made, nothing changes. -/
def perform (sets : List RuleSet) : Action → List RuleSet
  | .make i m => pushTo i m.rule? sets
  | .change i j c => sets.modify i (·.modify j (·.change c))
  | .erase i j => sets.modify i (·.erase j)
  | .exchange i j l => replaceAt i (sets[i]?.bind (·.exchange? j l)) sets
  | .copy i j k => pushTo k (ruleAt? sets i j) sets
  | .move i j k => pushTo k (ruleAt? sets i j) (sets.modify i (·.erase j))
  | .assign i k => replaceAt i sets[k]? sets
  | .load i format text => replaceAt i (format.decode? RuleSet.decode RuleSet.ofYaml text) sets
  | .loadConfig i k format text =>
    let config := (format.read text).toOption
    replaceAt k (config.map (·.attributeFilters)) (replaceAt i (config.map (·.entityFilters)) sets)

/-- The sets after some actions, one after the other. -/
def performAll (sets : List RuleSet) (actions : List Action) : List RuleSet :=
  actions.foldl perform sets

/-! ### What steps preserve -/

/-- What holds of all items of a list, and is kept by a function, holds of all items after the
function is applied at one place, also if there is no such place. -/
theorem forall_mem_modify {α : Type} {P : α → Prop} {l : List α} {f : α → α}
    (h : ∀ a ∈ l, P a) (hf : ∀ a, P a → P (f a)) (i : Nat) : ∀ a ∈ l.modify i f, P a := by
  intro a ha
  obtain ⟨j, hj⟩ := List.mem_iff_getElem?.mp ha
  rw [List.getElem?_modify] at hj
  obtain ⟨b, hb, rfl⟩ := Option.map_eq_some_iff.mp hj
  have hPb : P b := h b (List.mem_of_getElem? hb)
  split
  · exact hf b hPb
  · exact hPb

namespace RuleSet.IsCurrent

variable {s : RuleSet}

theorem push (h : s.IsCurrent) {r : Rule} (hr : r.IsCurrent) : (s.push r).IsCurrent :=
  fun _ hmem => (List.mem_append.mp hmem).elim (h _) fun hlast =>
    List.mem_singleton.mp hlast ▸ hr

theorem erase (h : s.IsCurrent) (j : Nat) : (s.erase j).IsCurrent :=
  fun _ hmem => h _ (List.mem_of_mem_eraseIdx hmem)

/-- A rule that is changed in place is current after that, whatever it was before. A change that
fails leaves a rule that is current as well. -/
theorem change (h : s.IsCurrent) (j : Nat) (c : Rule.Change) :
    (s.modify j (·.change c)).IsCurrent :=
  forall_mem_modify h (fun r _ => r.isCurrent_change c) j

/-- Two rules that change places are still the rules of the set. Their order is no part of being
current. -/
theorem of_exchange? (h : s.IsCurrent) {j l : Nat} {s' : RuleSet}
    (hs' : s.exchange? j l = some s') : s'.IsCurrent := by
  obtain ⟨a, ha, hs'⟩ := Option.bind_eq_some_iff.mp hs'
  obtain ⟨b, hb, hs'⟩ := Option.bind_eq_some_iff.mp hs'
  obtain rfl := Option.some.inj hs'
  intro r hr
  -- A rule of the new set was there before, or it is one of the two that were exchanged.
  rcases List.mem_or_eq_of_mem_set hr with hr | rfl
  · rcases List.mem_or_eq_of_mem_set hr with hr | rfl
    · exact h r hr
    · exact h r (List.mem_of_getElem? hb)
  · exact h r (List.mem_of_getElem? ha)

end RuleSet.IsCurrent

/-- All sets are current. -/
def AllCurrent (sets : List RuleSet) : Prop :=
  ∀ s ∈ sets, s.IsCurrent

namespace AllCurrent

variable {sets : List RuleSet} (h : AllCurrent sets)

include h

/-- A rule that is looked up in current sets is current, so copies and moves bring in nothing
else. -/
theorem ruleAt? {i j : Nat} {r : Rule} (hr : ruleAt? sets i j = some r) : r.IsCurrent := by
  obtain ⟨s, hs, hr⟩ := Option.bind_eq_some_iff.mp hr
  exact h s (List.mem_of_getElem? hs) r (List.mem_of_getElem? hr)

/-- Adding a rule, where there is one, to one of the sets keeps them all current. Which of the sets
it is does not matter. -/
theorem pushTo (k : Nat) {r : Option Rule} (hr : ∀ {a}, r = some a → a.IsCurrent) :
    AllCurrent (pushTo k r sets) := by
  cases r with
  | none => exact h
  | some a => exact forall_mem_modify h (fun _ hs => hs.push (hr rfl)) k

/-- Replacing one of the sets, where there is another to replace it, keeps them all current. The
other sets are not touched. -/
theorem replaceAt (i : Nat) {s : Option RuleSet} (hs : ∀ {a}, s = some a → a.IsCurrent) :
    AllCurrent (replaceAt i s sets) := by
  cases s with
  | none => exact h
  | some a =>
    intro t ht
    rcases List.mem_or_eq_of_mem_set ht with ht | rfl
    · exact h t ht
    · exact hs rfl

/-- What one action preserves. There is one case for each kind of action, and it says no more than
where the rules come from that the action brings in: from a constructor, a change, another set or a
text. -/
theorem perform (action : Action) : AllCurrent (perform sets action) := by
  cases action with
  | make i m => exact h.pushTo i Rule.isCurrent_of_making
  | change i j c => exact forall_mem_modify h (fun _ hs => hs.change j c) i
  | erase i j => exact forall_mem_modify h (fun _ hs => hs.erase j) i
  | exchange i j l =>
    refine h.replaceAt i fun {s'} hs' => ?_
    obtain ⟨s, hs, hs'⟩ := Option.bind_eq_some_iff.mp hs'
    exact (h s (List.mem_of_getElem? hs)).of_exchange? hs'
  | copy i j k => exact h.pushTo k h.ruleAt?
  | move i j k =>
    -- The rule is looked up before it is erased, in sets that are current already.
    have herased : AllCurrent (sets.modify i (·.erase j)) :=
      forall_mem_modify h (fun _ hs => hs.erase j) i
    exact herased.pushTo k h.ruleAt?
  | assign i k => exact h.replaceAt i fun hs => h _ (List.mem_of_getElem? hs)
  | load i format text =>
    exact h.replaceAt i
      (ConfigFormat.of_decode? RuleSet.isCurrent_of_decode RuleSet.isCurrent_of_ofYaml)
  | loadConfig i k format text =>
    have hconfig : ∀ {c}, (format.read text).toOption = some c → c.HasCurrentRules := by
      intro c hc
      rw [ConfigFormat.toOption_read] at hc
      exact ConfigFormat.of_decode? Config.hasCurrentRules_of_decode
        Config.hasCurrentRules_of_ofYaml hc
    refine (h.replaceAt i fun hs => ?_).replaceAt k fun hs => ?_
    · obtain ⟨c, hc, rfl⟩ := Option.map_eq_some_iff.mp hs
      exact (hconfig hc).entityFilters
    · obtain ⟨c, hc, rfl⟩ := Option.map_eq_some_iff.mp hs
      exact (hconfig hc).attributeFilters

/-- What a sequence of actions preserves, by induction on the sequence; the sets are general, as
every action leaves others behind. -/
theorem performAll (actions : List Action) : AllCurrent (performAll sets actions) := by
  induction actions generalizing sets with
  | nil => exact h
  | cons action actions ih => exact ih (h.perform action)

end AllCurrent

/-! ### Reachable rules -/

namespace Rule

/-- A program that starts with some empty sets can come to hold the rule. -/
def Reachable (r : Rule) : Prop :=
  ∃ n actions, ∃ s ∈ performAll (List.replicate n .empty) actions, r ∈ s.rules

/-- A reachable rule is current: the empty sets at the start are, and no sequence of actions changes
that. -/
theorem Reachable.isCurrent {r : Rule} (h : r.Reachable) : r.IsCurrent := by
  obtain ⟨n, actions, s, hs, hr⟩ := h
  have hstart : AllCurrent (List.replicate n .empty) := fun t ht =>
    (List.mem_replicate.mp ht).2 ▸ RuleSet.isCurrent_empty
  exact hstart.performAll actions s hs r hr

/-- Rules that compare equal have one pattern and one kind. The comparison does not look at their
expressions, which is why being current has to make up for it. -/
theorem eq_of_beq {r r' : Rule} (h : (r == r') = true) :
    r.pattern = r'.pattern ∧ r.kind = r'.kind := by
  have hboth := Bool.and_eq_true_iff.mp h
  exact ⟨of_decide_eq_true hboth.1, of_decide_eq_true hboth.2⟩

/-- **A reachable rule has a compiled expression exactly if its kind is that of regular
expressions**, and then that of its pattern in lower case; it matches what its pattern and its kind
say, and so does every reachable rule that compares equal to it. -/
theorem Reachable.current_and_eq_sound {r : Rule} (h : r.Reachable) :
    (r.expression.isSome = true ↔ r.kind = .regEx) ∧
    (∀ e, r.expression = some e → expressionOf? r.pattern = some e) ∧
    (∀ name, r.matchesName name = r.kind.accepts r.pattern name) ∧
    ∀ r' : Rule, r'.Reachable → (r == r') = true →
      ∀ name, r.matchesName name = r'.matchesName name := by
  have hcurrent : r.IsCurrent := h.isCurrent
  refine ⟨hcurrent.isSome_iff, fun _ => hcurrent.expressionOf?_eq, hcurrent.matchesName_eq, ?_⟩
  intro r' h' heq name
  -- Both rules match what the one pattern and the one kind say.
  obtain ⟨hpattern, hkind⟩ := eq_of_beq heq
  rw [hcurrent.matchesName_eq, h'.isCurrent.matchesName_eq, hpattern, hkind]

/-- A rule of containment that was to become a regular expression, and whose pattern is none, goes
on matching what it matched. -/
theorem Reachable.current_and_eq_sound_after_fault :
    let r := ((contains "(").setKind .regEx).1
    r.Reachable ∧ (contains "(").Reachable ∧ r.expression.isSome = false ∧
      ∀ name, r.matchesName name = (contains "(").matchesName name := by
  intro r
  have hr : r.Reachable :=
    ⟨1, [.make 0 (.contains "("), .change 0 0 (.kind .regEx)], ⟨[r]⟩, List.mem_singleton_self _,
      List.mem_singleton_self _⟩
  have hr' : (contains "(").Reachable :=
    ⟨1, [.make 0 (.contains "(")], ⟨[contains "("]⟩, List.mem_singleton_self _,
      List.mem_singleton_self _⟩
  have hkind : r.kind = .contains := by decide +kernel
  have heq : (r == contains "(") = true := by decide +kernel
  obtain ⟨hsome, -, -, hsound⟩ := hr.current_and_eq_sound
  refine ⟨hr, hr', ?_, hsound _ hr' heq⟩
  exact Bool.eq_false_iff.mpr fun h => absurd (hsome.mp h) (by rw [hkind]; decide)

end Rule

end Filter

end EntityScript
