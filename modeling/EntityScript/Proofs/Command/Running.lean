import EntityScript.Command.Perform
import EntityScript.Proofs.Files.Storage

/-!
# Commands that run in a state

On a host whose states can be told, a command ends in some way and leaves some state. How it does so
follows from its parts: a fault ends the command in the state in which it is met, and reading files
leaves the state as it is (`ReadsQuietly`), so that what a command loads depends on nothing that it
loaded before.
-/

namespace EntityScript

namespace Command

open Host (ReadsQuietly textIn writeIn)

variable {σ α β : Type}

/-- How a command ends that runs in a state, and the state after that. -/
def runIn (c : ExceptT Fault (StateM σ) α) (s : σ) : Except Fault α × σ :=
  (c : StateM σ (Except Fault α)) s

/-! ### Sequences -/

/-- What the host does by itself never fails as a command, it only changes the state. -/
@[simp]
theorem runIn_lift (x : StateM σ α) (s : σ) :
    runIn (ExceptT.lift x) s = (.ok (x s).1, (x s).2) := rfl

/-- The second command runs in the state after the first one, unless that failed; then its fault is
that of the whole and its state is left as it is. -/
theorem runIn_bind (c : ExceptT Fault (StateM σ) α) (f : α → ExceptT Fault (StateM σ) β) (s : σ) :
    runIn (c >>= f) s =
      match runIn c s with
      | (.ok a, s') => runIn (f a) s'
      | (.error e, s') => (.error e, s') := by
  change (match (c : StateM σ (Except Fault α)) s with
    | (r, s') => (ExceptT.bindCont f r : StateM σ (Except Fault β)) s') = _
  rw [runIn]
  cases (c : StateM σ (Except Fault α)) s with
  | mk r s' => cases r <;> rfl

theorem runIn_bind_of_ok {c : ExceptT Fault (StateM σ) α} {f : α → ExceptT Fault (StateM σ) β}
    {a : α} {s s' : σ} (h : runIn c s = (.ok a, s')) : runIn (c >>= f) s = runIn (f a) s' := by
  rw [runIn_bind, h]

/-- A command that fails is the end, in the state in which it failed: nothing is undone. What it did
before that stays done. -/
theorem runIn_bind_of_error {c : ExceptT Fault (StateM σ) α}
    {f : α → ExceptT Fault (StateM σ) β} {e : Fault} {s s' : σ} (h : runIn c s = (.error e, s')) :
    runIn (c >>= f) s = (.error e, s') := by
  rw [runIn_bind, h]

/-! ### Files -/

variable [Host (StateM σ)]

/-- A command that writes a file does what the host does and no more, and turns a fault of the host
into one of the command. The state may have changed although there is a fault. -/
@[simp]
theorem runIn_writeText (path text : String) (fault : FileError → Fault) (s : σ) :
    runIn (writeText path text fault) s =
      ((writeIn s path text).1.mapError fault, (writeIn s path text).2) := by
  change runIn (ExceptT.lift (Host.write path text : StateM σ (Except FileError Unit)) >>= _) s = _
  rw [runIn_bind_of_ok (runIn_lift _ s), writeIn]
  cases ((Host.write path text : StateM σ (Except FileError Unit)) s).1 <;> rfl

theorem runIn_lift_readText (hread : ReadsQuietly σ) (path : String) (s : σ) :
    runIn (ExceptT.lift (Host.readText path : StateM σ (Except FileError String))) s =
      (.ok (textIn s path), s) :=
  congrArg (Prod.mk _) (hread s path)

/-- A command that reads a file gives its text, or the fault under the name that the command has for
it, and leaves the state in both cases. -/
theorem runIn_readText (hread : ReadsQuietly σ) (path : String) (fault : FileError → Fault)
    (s : σ) : runIn (readText path fault) s = ((textIn s path).mapError fault, s) := by
  change runIn (ExceptT.lift (Host.readText path : StateM σ (Except FileError String)) >>= _) s = _
  rw [runIn_bind_of_ok (runIn_lift_readText hread path s)]
  cases textIn s path <;> rfl

/-- A file of records is loaded as its text is, and nothing else happens. Whether the text can be
read as records is up to `Metadata.loadDump`. -/
theorem runIn_loadMetadata (hread : ReadsQuietly σ) {path text : String} {s : σ}
    (htext : textIn s path = .ok text) :
    runIn (loadMetadata path) s =
      ((Metadata.loadDump text).mapError (.parsingMetadata path), s) := by
  have hreadText : runIn (readText path (.readingMetadata path)) s = (.ok text, s) := by
    rw [runIn_readText hread, htext, Except.mapError]
  rw [loadMetadata, runIn_bind_of_ok hreadText]
  cases Metadata.loadDump text <;> rfl

/-! ### Commands that load -/

/-- The command leaves every state as it is. -/
def IsQuiet (c : ExceptT Fault (StateM σ) α) : Prop :=
  ∀ s, (runIn c s).2 = s

namespace IsQuiet

omit [Host (StateM σ)] in
theorem pure (a : α) : IsQuiet (pure a : ExceptT Fault (StateM σ) α) :=
  fun _ => rfl

omit [Host (StateM σ)] in
theorem throw (e : Fault) : IsQuiet (throw e : ExceptT Fault (StateM σ) α) :=
  fun _ => rfl

omit [Host (StateM σ)] in
/-- Quiet commands are quiet one after the other, also when the first one fails: the second is then
not run, and the state is still the one from the start. -/
theorem bind {c : ExceptT Fault (StateM σ) α} {f : α → ExceptT Fault (StateM σ) β}
    (hc : IsQuiet c) (hf : ∀ a, IsQuiet (f a)) : IsQuiet (c >>= f) := by
  intro s
  have hs := hc s
  rw [runIn_bind]
  cases hrun : runIn c s with
  | mk r s' =>
    rw [hrun] at hs
    -- The state after the first command is the one before it, so the second starts from there.
    obtain rfl : s' = s := hs
    cases r with
    | ok a => exact hf a s'
    | error e => rfl

theorem readText (hread : ReadsQuietly σ) (path : String) (fault : FileError → Fault) :
    IsQuiet (readText path fault : ExceptT Fault (StateM σ) String) := fun s => by
  rw [runIn_readText hread]

/-- Loading a configuration is quiet: it reads one file, and all that can go wrong after that is in
the name or in the text of the file. -/
theorem loadConfig (hread : ReadsQuietly σ) (path : String) :
    IsQuiet (loadConfig path : ExceptT Fault (StateM σ) Config) :=
  bind (readText hread path _) fun text => by
    dsimp only
    split
    · exact throw _
    · split
      · exact pure _
      · exact throw _

/-- Loading records is quiet for the same reason. It reads one file and converts what it holds. -/
theorem loadMetadata (hread : ReadsQuietly σ) (path : String) :
    IsQuiet (loadMetadata path : ExceptT Fault (StateM σ) (List Metadata.Entity)) :=
  bind (readText hread path _) fun text => by
    split
    · exact pure _
    · exact throw _

/-- So the configuration of a run is found without a change to any file, whether it is loaded or the
default one is taken. -/
theorem configure (hread : ReadsQuietly σ) (a : GenerateArguments) :
    IsQuiet (configure a : ExceptT Fault (StateM σ) Config) := by
  unfold Command.configure
  -- Without a path the default configuration is taken, and no file is read at all.
  split
  · exact bind (loadConfig hread _) fun config => pure _
  · exact bind (pure _) fun config => pure _

end IsQuiet

end Command

end EntityScript
