import EntityScript.Files.Host
import Mathlib.Tactic.SplitIfs

/-!
# The files behind a host

What a command leaves behind is told by files and not by paths, as two paths may lead to one file.
A `FileView` says of the states of a host which file a path leads to and what is in it. The view is
faithful (`FileView.IsFaithful`) when a write replaces the whole content of the file that its path
leads to or fails, and nothing else that a command may do changes what is in a file.

A session keeps its files in a workspace, where a location is a file. That a write makes no
directory is what keeps every path leading where it led before (`Workspace.toOption_locate_eq`).

**Main statement**: the files of a session are seen faithfully (`Session.isFaithful_files`).
-/

namespace EntityScript

/-! ### Operations in a state -/

namespace Host

variable {σ : Type} [Host (StateM σ)]

/-- The text of a file in a state. -/
def textIn (s : σ) (path : String) : Except FileError String :=
  ((readText path : StateM σ (Except FileError String)) s).1

/-- What writing a text to a file gives in a state, and the state after that. -/
def writeIn (s : σ) (path text : String) : Except FileError Unit × σ :=
  (write path text : StateM σ (Except FileError Unit)) s

/-- Reading a file leaves the state as it is. -/
def ReadsQuietly (σ : Type) [Host (StateM σ)] : Prop :=
  ∀ (s : σ) (path : String), ((read path : StateM σ (Except FileError ByteArray)) s).2 = s

end Host

/-! ### Views of files -/

/-- The files behind the states of a host. -/
structure FileView (σ : Type) where
  /-- What files are told apart by. -/
  File : Type
  /-- The file that a path leads to, whether or not it is there. -/
  fileAt? : σ → String → Option File
  /-- What is in a file, if it is there. -/
  content? : σ → File → Option ByteArray

namespace FileView

variable {σ : Type} (v : FileView σ)

/-- The path is given and leads to the file. -/
def Names (s : σ) (path : Option String) (f : v.File) : Prop :=
  ∃ p, path = some p ∧ v.fileAt? s p = some f

/-- Paths lead where they led before, and files other than the `changed` ones are as they were. -/
structure KeepsBut (changed : v.File → Prop) (s s' : σ) : Prop where
  fileAt?_eq : ∀ path, v.fileAt? s' path = v.fileAt? s path
  content?_eq : ∀ f, ¬ changed f → v.content? s' f = v.content? s f

/-- The path leads to a file that holds exactly the text. -/
def Holds (s : σ) (path text : String) : Prop :=
  ∃ f, v.Names s path f ∧ v.content? s f = some text.toUTF8

/-- Nothing but a write changes a file, and a write replaces the whole content of the file that its
path leads to, or fails. -/
structure IsFaithful [Host (StateM σ)] : Prop where
  readsQuietly : Host.ReadsQuietly σ
  print_keeps : ∀ (s : σ) (text : String),
    v.KeepsBut (fun _ => False) s ((Host.print text : StateM σ Unit) s).2
  report_keeps : ∀ (s : σ) (text : String),
    v.KeepsBut (fun _ => False) s ((Host.report text : StateM σ Unit) s).2
  write_keeps : ∀ (s : σ) (path text : String),
    v.KeepsBut (v.Names s path) s (Host.writeIn s path text).2
  write_holds : ∀ (s : σ) (path text : String), (Host.writeIn s path text).1 = .ok () →
    v.Holds (Host.writeIn s path text).2 path text

namespace KeepsBut

variable {v} {changed : v.File → Prop} {s s' s'' : σ}

theorem refl (changed : v.File → Prop) (s : σ) : v.KeepsBut changed s s :=
  ⟨fun _ => rfl, fun _ _ => rfl⟩

theorem trans (h : v.KeepsBut changed s s') (h' : v.KeepsBut changed s' s'') :
    v.KeepsBut changed s s'' :=
  ⟨fun path => (h'.fileAt?_eq path).trans (h.fileAt?_eq path),
    fun f hf => (h'.content?_eq f hf).trans (h.content?_eq f hf)⟩

theorem mono {more : v.File → Prop} (hmore : ∀ f, changed f → more f)
    (h : v.KeepsBut changed s s') : v.KeepsBut more s s' :=
  ⟨h.fileAt?_eq, fun f hf => h.content?_eq f fun hchanged => hf (hmore f hchanged)⟩

theorem names_iff (h : v.KeepsBut changed s s') {path : Option String} {f : v.File} :
    v.Names s' path f ↔ v.Names s path f := by
  simp only [Names, h.fileAt?_eq]

/-- A file is as it was where nothing that its path leads to is changed. This is how a file that was
written before is known to be there at the end. -/
theorem holds (h : v.KeepsBut changed s s') {path text : String}
    (hpath : ∀ f, v.Names s path f → ¬ changed f) (hs : v.Holds s path text) :
    v.Holds s' path text := by
  obtain ⟨f, hf, hcontent⟩ := hs
  exact ⟨f, h.names_iff.mpr hf, (h.content?_eq f (hpath f hf)).trans hcontent⟩

end KeepsBut

end FileView

/-! ### Entries of a workspace -/

namespace Workspace

variable {ws : Workspace} {names l : Location} {e : Entry}

/-- Every location but the root is looked up among the entries. The root is always a directory and
has no entry. -/
theorem lookup_of_ne_nil (ws : Workspace) (h : names ≠ []) :
    ws.entry? names = (ws.entries.find? (·.1 == names)).map (·.2) := by
  cases names with
  | nil => exact absurd rfl h
  | cons name names => rfl

/-- An entry that is put at a location is found there, whether it takes the place of another one or
is added behind the others. -/
theorem lookup_put_self (h : names ≠ []) : Workspace.entry? (ws.put names e) names = some e := by
  rw [lookup_of_ne_nil _ h, put]
  split_ifs with hany
  · -- The entry that is found is replaced where it stands.
    obtain ⟨item, hitem, hname⟩ := List.any_eq_true.mp hany
    have hkeys : ((fun item : Location × Entry => item.1 == names) ∘
        fun item => if item.1 == names then (names, e) else item) = (·.1 == names) := by
      funext item
      by_cases hitem : item.1 = names <;> simp [hitem]
    have hsome : (ws.entries.find? (·.1 == names)).isSome :=
      List.find?_isSome.mpr ⟨item, hitem, hname⟩
    obtain ⟨found, hfound⟩ := Option.isSome_iff_exists.mp hsome
    have hfoundName : (found.1 == names) = true :=
      List.find?_some (p := fun item : Location × Entry => item.1 == names) hfound
    rw [List.find?_map, hkeys, hfound, Option.map_some, Option.map_some, if_pos hfoundName]
  · have hnone : ws.entries.find? (·.1 == names) = none := by
      refine List.find?_eq_none.mpr fun item hitem hname => hany ?_
      exact List.any_eq_true.mpr ⟨item, hitem, hname⟩
    simp [List.find?_append, hnone]

/-- Everything else is found as before: replacing an entry keeps the locations of the others, and an
entry that is added stands behind them. -/
theorem lookup_put_of_ne (h : l ≠ names) : Workspace.entry? (ws.put names e) l = ws.entry? l := by
  by_cases hl : l = []
  · subst hl
    rfl
  · rw [lookup_of_ne_nil _ hl, lookup_of_ne_nil _ hl, put]
    split_ifs with hany
    · -- Replacing entries does not change their locations, so the search stops at the same item.
      have hkeys : ((fun item : Location × Entry => item.1 == l) ∘
          fun item => if item.1 == names then (names, e) else item) = (·.1 == l) := by
        funext item
        by_cases hitem : item.1 = names <;> simp [hitem]
      rw [List.find?_map, hkeys]
      cases hfound : ws.entries.find? (·.1 == l) with
      | none => rfl
      | some found =>
        have hfoundName : found.1 = l := beq_iff_eq.mp
          (List.find?_some (p := fun item : Location × Entry => item.1 == l) hfound)
        have hother : ¬ (found.1 == names) = true := by
          rw [hfoundName, beq_iff_eq]
          exact h
        rw [Option.map_some, Option.map_some, if_neg hother, Option.map_some]
    · have hnew : (names == l) = false :=
        beq_eq_false_iff_ne.mpr h.symm
      simp [List.find?_append, hnew]

/-! ### Where paths lead -/

/-- The workspaces have the same directories. -/
def SameDirectories (ws ws' : Workspace) : Prop :=
  ∀ l, ws'.entry? l = some .directory ↔ ws.entry? l = some .directory

/-- A file that is put where no directory is changes no directory. The condition cannot be left out,
as putting a file over a directory takes it away. -/
theorem sameDirectories_put_file (content : ByteArray) (hnil : names ≠ [])
    (h : ws.entry? names ≠ some .directory) :
    SameDirectories ws (ws.put names (.file content)) := by
  intro l
  by_cases hl : l = names
  · subst hl
    rw [lookup_put_self hnil]
    exact ⟨nofun, fun hdirectory => absurd hdirectory h⟩
  · rw [lookup_put_of_ne hl]

/-- A walk goes through directories only: with parts of the path left, it fails anywhere else. So a
file has nothing below it. -/
theorem walk_cons_of_ne_directory {part : List Char} {parts : List (List Char)}
    (h : ws.entry? names ≠ some .directory) : (ws.walk names (part :: parts)).toOption = none := by
  simp only [walk]
  split
  · rfl
  · rfl
  · next hdirectory => exact absurd hdirectory h

/-- A walk along the parts of a path asks for directories only, so it ends at the same place where
the directories are the same. The induction is on the parts, with the place where it stands
general. -/
theorem toOption_walk_eq {ws' : Workspace} (h : SameDirectories ws ws') (parts : List (List Char)) :
    (ws'.walk names parts).toOption = (ws.walk names parts).toOption := by
  induction parts generalizing names with
  | nil => rfl
  | cons part parts ih =>
    -- Where there is no directory, the walk fails in both workspaces, if not for the same cause.
    by_cases hdirectory : ws.entry? names = some .directory
    · simp only [walk, hdirectory, (h names).mpr hdirectory]
      split_ifs
      · exact ih
      · split
        · rfl
        · exact ih
      · rfl
      · exact ih
    · rw [walk_cons_of_ne_directory hdirectory,
        walk_cons_of_ne_directory fun hdirectory' => hdirectory ((h names).mp hdirectory')]

/-- **A path leads where it led before** as long as the directories are the same. The cause of a
failure may be another one, so only the location is compared. -/
theorem toOption_locate_eq {ws' : Workspace} (h : SameDirectories ws ws') (path : String) :
    (ws'.locate path).toOption = (ws.locate path).toOption := by
  rw [locate, locate]
  split_ifs
  · rfl
  · rfl
  · exact toOption_walk_eq h _

/-! ### Reading and writing -/

/-- What is in the file at a location, if there is one. -/
def content? (ws : Workspace) (names : Location) : Option ByteArray :=
  match ws.entry? names with
  | some (.file content) => some content
  | _ => none

theorem content?_put_self {content : ByteArray} (h : names ≠ []) :
    (ws.put names (.file content)).content? names = some content := by
  rw [content?, lookup_put_self h]

theorem content?_put_of_ne (h : l ≠ names) : (ws.put names e).content? l = ws.content? l := by
  rw [content?, content?, lookup_put_of_ne h]

/-- A write that succeeds puts the file where its path leads, and there was no directory. So it
changes the content of one file and nothing about the others. -/
theorem eq_put_of_write_eq_ok {path : String} {content : ByteArray} {ws' : Workspace}
    (h : ws.write path content = .ok ws') :
    ∃ names, ws.locate path = .ok names ∧ names ≠ [] ∧ ws.entry? names ≠ some .directory ∧
      ws' = ws.put names (.file content) := by
  cases hslash : path.toList.getLast? == some '/' with
  | true =>
    -- A path that ends in a slash is none of a file.
    exfalso
    simp only [write, hslash, if_true] at h
    cases hlocate : ws.locate (Path.trimSlashes path) with
    | error cause => rw [hlocate] at h; cases h
    | ok names =>
      rw [hlocate] at h
      simp only [bind, Except.bind] at h
      split at h
      · cases h
      · split at h
        · cases h
        · cases h
        · split at h <;> cases h
  | false =>
    -- What is left are the checks of the write, each of which fails but for the last.
    simp only [write, hslash, Bool.false_eq_true, if_false] at h
    cases hlocate : ws.locate path with
    | error cause => rw [hlocate] at h; cases h
    | ok names =>
      rw [hlocate] at h
      simp only [bind, Except.bind] at h
      split at h
      · cases h
      · split at h
        · cases h
        · cases h
        · split at h
          · cases h
          · next hentry => exact ⟨_, rfl, List.cons_ne_nil _ _, hentry, (Except.ok.inj h).symm⟩

end Workspace

/-! ### Sessions -/

namespace Session

/-- The files of a session are those of its workspace. -/
def files : FileView Session where
  File := Location
  fileAt? s path := (s.workspace.locate path).toOption
  content? s names := s.workspace.content? names

theorem writeIn_snd_of_ok {s : Session} {path text : String} {ws : Workspace}
    (h : s.workspace.write path text.toUTF8 = .ok ws) :
    (Host.writeIn s path text).2 = { s with workspace := ws } := by
  simp only [Host.writeIn, Host.write, h]

/-- **The files of a session are seen faithfully**: reading, printing and reporting leave the
workspace alone, and a write that succeeds is one entry put at the location that its path leads
to. -/
theorem isFaithful_files : files.IsFaithful where
  readsQuietly _ _ := rfl
  print_keeps s _ := ⟨fun _ => rfl, fun _ _ => rfl⟩
  report_keeps s _ := ⟨fun _ => rfl, fun _ _ => rfl⟩
  -- A write that fails leaves the session, and one that succeeds makes no directory.
  write_keeps s path text := by
    cases hwrite : s.workspace.write path text.toUTF8 with
    | error cause =>
      rw [show (Host.writeIn s path text).2 = s by simp only [Host.writeIn, Host.write, hwrite]]
      exact .refl _ s
    | ok ws =>
      rw [writeIn_snd_of_ok hwrite]
      obtain ⟨names, hlocate, hnil, hentry, rfl⟩ := Workspace.eq_put_of_write_eq_ok hwrite
      refine ⟨Workspace.toOption_locate_eq (Workspace.sameDirectories_put_file _ hnil hentry),
        fun f hf => ?_⟩
      have hother : f ≠ names := by
        rintro rfl
        exact hf ⟨path, rfl, congrArg Except.toOption hlocate⟩
      exact Workspace.content?_put_of_ne hother
  write_holds s path text h := by
    cases hwrite : s.workspace.write path text.toUTF8 with
    | error cause => simp only [Host.writeIn, Host.write, hwrite, reduceCtorEq] at h
    | ok ws =>
      rw [writeIn_snd_of_ok hwrite]
      obtain ⟨names, hlocate, hnil, hentry, rfl⟩ := Workspace.eq_put_of_write_eq_ok hwrite
      have hsame := Workspace.toOption_locate_eq
        (Workspace.sameDirectories_put_file text.toUTF8 hnil hentry) path
      exact ⟨names, ⟨path, rfl, hsame.trans (congrArg Except.toOption hlocate)⟩,
        Workspace.content?_put_self hnil⟩

end Session

end EntityScript
