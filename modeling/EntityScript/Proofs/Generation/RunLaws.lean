import EntityScript.Generation.Run

/-!
# Laws of runs

A run is a value, and runs form a monad that obeys the usual laws. What a chain of runs records and
how it ends follow from its links.

* **Chains**: `concat` performs runs of texts one after the other and puts the texts together; it
  ends as the first link that fails, if one does (`outcome_concat`), and it takes appended lists
  apart (`concat_append`).
* **Levels**: `without l` forgets the messages of one level. That commutes with every way in which
  runs are put together, so two runs that differ at one level only can be compared link by link.
* **Logs**: a log gains the lines of the records of its own level, in their order
  (`text_recordAll`); a level that is forgotten is missed by no log of another level
  (`recordAll_without`).
-/

namespace EntityScript

attribute [ext] Run

namespace Run

variable {α β : Type}

/-! ### The monad laws -/

@[simp] theorem records_pure (a : α) : (Pure.pure a : Run α).records = [] := rfl

@[simp] theorem outcome_pure (a : α) : (Pure.pure a : Run α).outcome = .ok a := rfl

/-- A chain ends as its first link if that fails, else as the second. The records have no part in
this, so outcomes can be computed apart from logs. -/
@[simp] theorem outcome_bind (r : Run α) (f : α → Run β) :
    (r >>= f).outcome = r.outcome >>= fun a => (f a).outcome := by
  change (r.bind f).outcome = _
  cases h : r.outcome <;> simp only [Run.bind, h] <;> rfl

theorem bind_of_ok {r : Run α} {a : α} (h : r.outcome = .ok a) (f : α → Run β) :
    r >>= f = ⟨r.records ++ (f a).records, (f a).outcome⟩ := by
  change r.bind f = _
  simp only [Run.bind, h]

/-- A chain whose first link fails has the records up to there and never comes to the second one.
This is what keeps the message of a failure the last one of a run. -/
theorem bind_of_error {r : Run α} {e : Failure} (h : r.outcome = .error e) (f : α → Run β) :
    r >>= f = ⟨r.records, .error e⟩ := by
  change r.bind f = _
  simp only [Run.bind, h]

instance : LawfulMonad Run := LawfulMonad.mk' Run
  (by
    intro α r
    change r.bind (fun a => Run.pure a) = r
    obtain ⟨records, _ | a⟩ := r <;> simp [Run.bind, Run.pure])
  (by intro α β a f; rfl)
  (by
    intro α β γ r f g
    cases h : r.outcome with
    | error e => rw [bind_of_error h, bind_of_error h, bind_of_error rfl]
    | ok a =>
      rw [bind_of_ok h, bind_of_ok h]
      cases h' : (f a).outcome with
      | error e => rw [bind_of_error h', bind_of_error rfl]
      | ok b => rw [bind_of_ok h', bind_of_ok rfl, List.append_assoc])

/-! ### Chains -/

/-- The runs one after the other, and their texts put together. -/
def concat : List (Run String) → Run String
  | [] => Pure.pure ""
  | r :: rs => do
    let text ← r
    let rest ← concat rs
    Pure.pure (text ++ rest)

@[simp] theorem concat_nil : concat [] = Pure.pure "" := rfl

theorem concat_cons (r : Run String) (rs : List (Run String)) :
    concat (r :: rs) =
      r >>= fun text => concat rs >>= fun rest => Pure.pure (text ++ rest) := rfl

/-- A chain over two lists is a chain over the first one and then one over the second, their texts
put together. The induction is on the first list, as the chain is built from its front. -/
theorem concat_append (rs ss : List (Run String)) :
    concat (rs ++ ss) =
      concat rs >>= fun text => concat ss >>= fun rest => Pure.pure (text ++ rest) := by
  induction rs with
  | nil => simp only [List.nil_append, concat_nil, pure_bind, String.empty_append, bind_pure]
  | cons r rs ih =>
    simp only [List.cons_append, concat_cons, ih, bind_assoc, pure_bind, String.append_assoc]

/-- **The end of a chain**: the texts of all links put together, or the failure of the first link
that fails. What the links record does not show, so this is `List.mapM` over their outcomes. -/
theorem outcome_concat (rs : List (Run String)) :
    (concat rs).outcome = String.join <$> rs.mapM outcome := by
  induction rs with
  | nil => rfl
  -- The two failures are told apart here: that of the first link wins over any later one.
  | cons r rs ih =>
    simp only [concat_cons, outcome_bind, outcome_pure, ih, List.mapM_cons, map_bind]
    cases r.outcome with
    | error e => rfl
    | ok text =>
      cases rs.mapM outcome with
      | error e => rfl
      | ok texts => exact congrArg Except.ok String.join_cons.symm

/-! ### One level less -/

/-- The run without what it records at a level. -/
def without (l : LogLevel) (r : Run α) : Run α :=
  ⟨r.records.filter (·.level != l), r.outcome⟩

@[simp] theorem outcome_without (l : LogLevel) (r : Run α) :
    (r.without l).outcome = r.outcome := rfl

@[simp] theorem without_pure (l : LogLevel) (a : α) :
    (Pure.pure a : Run α).without l = Pure.pure a := rfl

/-- Forgetting a level commutes with going on from one run to the next, since it does not change how
the first one ends. All comparisons of runs that differ on one level go through this law. -/
@[simp] theorem without_bind (l : LogLevel) (r : Run α) (f : α → Run β) :
    (r >>= f).without l = r.without l >>= fun a => (f a).without l := by
  cases h : r.outcome with
  | error e => rw [bind_of_error h, bind_of_error (by rw [outcome_without, h])]; rfl
  | ok a =>
    rw [bind_of_ok h, bind_of_ok (by rw [outcome_without, h])]
    simp only [without, List.filter_append]

/-- A message of the level that is forgotten leaves nothing at all. All other messages stay where
they are. -/
theorem without_record (l : LogLevel) (message : String) :
    (record l message).without l = Pure.pure () := by
  simp only [without, record, bne_self_eq_false, List.filter_cons_of_neg, Bool.false_eq_true,
    not_false_eq_true, List.filter_nil]
  rfl

/-- Failures are recorded on the level of exceptions; while another level is forgotten, recording
them before or after makes no difference. -/
theorem without_recordFailure {l : LogLevel} (hl : l ≠ .exception) (r : Run α) :
    r.recordFailure.without l = (r.without l).recordFailure := by
  have hne : (LogLevel.exception != l) = true := by simpa using hl.symm
  cases h : r.outcome <;> simp [recordFailure, without, h, hne]

/-! ### The messages of one level -/

/-- The messages that the run records at a level, in their order. -/
def messages (l : LogLevel) (r : Run α) : List String :=
  (r.records.filter (·.level == l)).map (·.message)

section

variable {l : LogLevel}

@[simp] theorem messages_pure (l : LogLevel) (a : α) : (Pure.pure a : Run α).messages l = [] := rfl

theorem messages_bind_of_ok {r : Run α} {a : α} (h : r.outcome = .ok a) (f : α → Run β) :
    (r >>= f).messages l = r.messages l ++ (f a).messages l := by
  simp only [messages, bind_of_ok h, List.filter_append, List.map_append]

theorem messages_bind_of_error {r : Run α} {e : Failure} (h : r.outcome = .error e)
    (f : α → Run β) : (r >>= f).messages l = r.messages l := by
  simp only [messages, bind_of_error h]

/-- A chain is silent on a level if its links are, whether or not the first one succeeds. Whether
the second one is reached is of no matter for this. -/
theorem messages_bind_eq_nil {r : Run α} {f : α → Run β} (hr : r.messages l = [])
    (hf : ∀ a, (f a).messages l = []) : (r >>= f).messages l = [] := by
  cases h : r.outcome with
  | error e => rw [messages_bind_of_error h, hr]
  | ok a => rw [messages_bind_of_ok h, hr, hf, List.nil_append]

/-- What is computed from the outcome of a run adds no message. Most chains end in this way, to put
a text together. -/
@[simp] theorem messages_bind_pure (r : Run α) (f : α → β) :
    (r >>= fun a => Pure.pure (f a)).messages l = r.messages l := by
  cases h : r.outcome with
  | error e => rw [messages_bind_of_error h]
  | ok a => rw [messages_bind_of_ok h, messages_pure, List.append_nil]

@[simp] theorem messages_record (l : LogLevel) (message : String) :
    (record l message).messages l = [message] := by
  simp only [messages, record, beq_self_eq_true, List.filter_cons_of_pos, List.filter_nil,
    List.map_cons, List.map_nil]

theorem messages_record_of_ne {l' : LogLevel} (hl : l' ≠ l) (message : String) :
    (record l' message).messages l = [] := by
  simp [messages, record, hl]

@[simp] theorem messages_recordAll (l : LogLevel) (ms : List String) :
    (recordAll l ms).messages l = ms := by
  simp [messages, recordAll, List.filter_map, Function.comp_def]

theorem messages_recordAll_of_ne {l' : LogLevel} (hl : l' ≠ l) (ms : List String) :
    (recordAll l' ms).messages l = [] := by
  simp [messages, recordAll, List.filter_map, Function.comp_def, hl]

/-- The messages of a level are all there when those of another level are forgotten: the two filters
that decide this look at the same record, and one implies the other. -/
theorem messages_without_of_ne {l' : LogLevel} (hl : l ≠ l') (r : Run α) :
    (r.without l').messages l = r.messages l := by
  have hkeeps : ∀ x : LogRecord, ((x.level == l) && (x.level != l')) = (x.level == l) := by
    intro x
    -- A record of the level asked for passes both filters, any other one fails the first.
    by_cases hx : x.level = l
    · simp only [hx, beq_self_eq_true, Bool.true_and, bne_iff_ne, ne_eq, hl, not_false_eq_true]
    · rw [beq_eq_false_iff_ne.mpr hx, Bool.false_and]
  simp only [messages, without, List.filter_filter, hkeeps]

theorem messages_recordFailure (hl : l ≠ .exception) (r : Run α) :
    r.recordFailure.messages l = r.messages l := by
  cases h : r.outcome <;> simp [messages, recordFailure, h, hl.symm]

end

@[simp] theorem outcome_recordFailure (r : Run α) : r.recordFailure.outcome = r.outcome := by
  cases h : r.outcome <;> simp only [recordFailure, h]

end Run

/-! ### Logs of runs -/

attribute [ext] Log

namespace Log

/-- No record changes the level of a log, so it can be read off from the start of the log. What is
kept of the records depends on nothing else. -/
@[simp] theorem level_recordAll (log : Log) (rs : List LogRecord) :
    (log.recordAll rs).level = log.level := by
  induction rs generalizing log with
  | nil => rfl
  | cons r rs ih =>
    simp only [recordAll, List.foldl_cons] at ih ⊢
    rw [ih, record]
    split <;> rfl

/-- **The text of a log**: the lines of the records that it keeps are added, in their order. The
induction is on the records and has the log general, as every record changes it. -/
theorem text_recordAll (log : Log) (rs : List LogRecord) :
    (log.recordAll rs).text =
      log.text ++ String.join ((rs.filter (keeps log.level)).map LogRecord.line) := by
  induction rs generalizing log with
  | nil => simp [recordAll]
  | cons r rs ih =>
    simp only [recordAll, List.foldl_cons] at ih ⊢
    rw [ih, record]
    by_cases h : keeps log.level r = true
    · simp only [h, if_true, List.filter_cons_of_pos, List.map_cons, String.join_cons,
        String.append_assoc]
    · simp only [h, Bool.false_eq_true, if_false, not_false_eq_true, List.filter_cons_of_neg]

/-- A log takes nothing from records of another level than its own, so two runs that differ on
another level only leave it in the same state. -/
theorem recordAll_without {log : Log} {l : LogLevel} (hl : log.level ≠ l) {α : Type} (r : Run α) :
    log.recordAll (r.without l).records = log.recordAll r.records := by
  have hkeeps : ∀ x : LogRecord, (keeps log.level x && (x.level != l)) = keeps log.level x := by
    intro x
    -- What the log keeps is of its own level, so it is not of the one that is forgotten.
    by_cases h : x.level = log.level
    · have : (x.level != l) = true := by simpa [h] using hl
      rw [this, Bool.and_true]
    · simp [keeps, h]
  refine Log.ext (by rw [level_recordAll, level_recordAll]) ?_
  rw [text_recordAll, text_recordAll]
  simp only [Run.without, List.filter_filter, hkeeps]

end Log

end EntityScript
