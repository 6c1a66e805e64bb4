import EntityScript.Proofs.Yaml.Fetching

/-!
# The tokens of written values

A value is readable (`Value.IsReadable`) when its keys are short and need no quotes, its words stand
for themselves, and what is nested in it is not empty. The tokens of a readable value are those of
its parts (`Value.tokens`), with what begins and ends a mapping, which only the layout shows.

**Main statement**: the text of a readable document has the tokens of its members
(`tokens?_document`).
-/

namespace EntityScript

namespace Yaml

namespace Value

/-! ### Readable values -/

/-- The value is a mapping with members. -/
def IsRecord : Value → Prop
  | .mapping (_ :: _) => True
  | _ => False

/-- The text is written as a key without quotes, and short enough for one. -/
def IsKeyword (key : String) : Prop :=
  styleOf key.toList = .plain ∧ key.toList.length ≤ keyLimit

instance (key : String) : Decidable (IsKeyword key) :=
  inferInstanceAs (Decidable (_ ∧ _))

mutual

/-- The value can be written behind a key such that it is read back. -/
def IsReadable : Value → Prop
  | .word s => s.toList ≠ [] ∧ allowsPlain s.toList = true
  | .text _ => True
  | .sequence items => AreReadable items
  | .mapping members => members ≠ [] ∧ HaveReadable members

/-- The values can be the items of a sequence. -/
def AreReadable : List Value → Prop
  | [] => True
  | v :: vs => (v.IsRecord ∧ v.IsReadable) ∧ AreReadable vs

/-- The members can be those of a mapping. -/
def HaveReadable : List (String × Value) → Prop
  | [] => True
  | (key, v) :: members => (IsKeyword key ∧ v.IsReadable) ∧ HaveReadable members

end

theorem isReadable_text (s : String) : (text s).IsReadable := by
  rw [IsReadable]
  trivial

/-! ### Tokens -/

mutual

/-- The tokens of a value behind a key. -/
def tokens : Value → List Token
  | .word s => [.scalar .plain s.toList]
  | .text s => [.scalar (styleOf s.toList) s.toList]
  | .sequence [] => [.flowSequenceStart, .flowSequenceEnd]
  | .sequence items => itemTokens items
  | .mapping members => .blockMappingStart :: memberTokens members ++ [.blockEnd]

/-- The tokens of the items of a sequence that is not indented. -/
def itemTokens : List Value → List Token
  | [] => []
  | v :: vs => .blockEntry :: v.tokens ++ itemTokens vs

/-- The tokens of the members of a mapping. -/
def memberTokens : List (String × Value) → List Token
  | [] => []
  | (key, v) :: members =>
    [.key, .scalar .plain key.toList, .value] ++ v.tokens ++ memberTokens members

end

end Value

namespace Layout

open Value

variable {key : String} {v : Value} {vs : List Value} {members : List (String × Value)}
  {l : Layout} {x k column : Nat} {r : List Char} {ts : List Token} {columns : List Nat}

theorem isKey_of_isKeyword (h : IsKeyword key) : IsKey key.toList := by
  have hstyle := of_styleOf key.toList
  rw [h.1] at hstyle
  exact ⟨hstyle.1, hstyle.2, h.2⟩

theorem beginsToken_of_isKeyword (h : IsKeyword key) (t : List Char) :
    BeginsToken (key.toList ++ t) :=
  beginsToken_of_allowsPlain (isKey_of_isKeyword h).ne_nil (isKey_of_isKeyword h).allowsPlain t

theorem writeScalar_of_isKeyword (h : IsKeyword key) (indent : Nat) :
    writeScalar indent key.toList = key.toList := by
  rw [writeScalar, h.1]

/-! ### What a reader does with the parts of a value -/

/-- The text behind a key is read with the tokens of the value, up to what comes next. -/
def ReadsAfter (v : Value) : Prop :=
  ∀ {l : Layout} {x k column r ts columns},
    l.IsAt (v.writeAfter x ++ (spaces k ++ r)) column ts (x :: columns) false →
    x < column → k ≤ x → BeginsToken r →
    ∃ l', Steps l l' ∧ l'.Faces r k (ts ++ v.tokens) (x :: columns)

/-- The lines of members are read with the tokens of the members, up to what comes next. -/
def ReadsMembers (members : List (String × Value)) : Prop :=
  ∀ {l : Layout} {x k k₀ r r₀ ts columns},
    writeMembers x members ++ (spaces k ++ r) = spaces k₀ ++ r₀ → BeginsToken r₀ →
    l.Faces r₀ k₀ ts (x :: columns) → k ≤ x → BeginsToken r →
    ∃ l', Steps l l' ∧ l'.Faces r k (ts ++ memberTokens members) (x :: columns)

/-- The lines of items are read with the tokens of the items, up to what comes next. -/
def ReadsItems (vs : List Value) : Prop :=
  ∀ {l : Layout} {x k k₀ r r₀ ts columns},
    writeItems x vs ++ (spaces k ++ r) = spaces k₀ ++ r₀ → BeginsToken r₀ →
    l.Faces r₀ k₀ ts (x :: columns) → k ≤ x → BeginsToken r →
    ∃ l', Steps l l' ∧ l'.Faces r k (ts ++ itemTokens vs) (x :: columns)

/-- The indentation of a line is given by the line. So two ways to write what comes next are one. -/
theorem eq_of_spaces_append_eq {m n : Nat} {s t : List Char} (h : spaces m ++ s = spaces n ++ t)
    (hs : StartsWord s) (ht : StartsWord t) : m = n ∧ s = t := by
  induction m generalizing n with
  | zero =>
    cases n with
    | zero => exact ⟨rfl, h⟩
    | succ n =>
      obtain rfl : s = ' ' :: (spaces n ++ t) := h
      exact absurd (startsWord_cons.mp hs) (by decide)
  | succ m ih =>
    cases n with
    | zero =>
      obtain rfl : ' ' :: (spaces m ++ s) = t := h
      exact absurd (startsWord_cons.mp ht) (by decide)
    | succ n =>
      obtain ⟨rfl, rfl⟩ := ih (List.cons.inj h).2
      exact ⟨rfl, rfl⟩

/-- What comes after a key begins with a blank or ends the line. -/
theorem endsWord_writeAfter (x : Nat) (v : Value) (t : List Char) :
    endsWord (v.writeAfter x ++ t) = true := by
  unfold writeAfter
  split
  · rfl
  · rw [endLine]
    split <;> rfl
  all_goals rfl

/-- What comes after some members is a further one, or what comes after all of them. -/
theorem exists_writeMembers_eq (hmembers : HaveReadable members) (hk : k ≤ x) (hr : BeginsToken r) :
    ∃ k₀ r₀, writeMembers x members ++ (spaces k ++ r) = spaces k₀ ++ r₀ ∧ k₀ ≤ x ∧
      BeginsToken r₀ := by
  cases members with
  | nil => exact ⟨k, r, by rw [writeMembers, List.nil_append], hk, hr⟩
  | cons member members =>
    obtain ⟨key, v⟩ := member
    rw [HaveReadable] at hmembers
    refine ⟨x, key.toList ++ ':' :: (v.writeAfter x ++ (writeMembers x members ++ (spaces k ++ r))),
      ?_, Nat.le_refl x, beginsToken_of_isKeyword hmembers.1.1 _⟩
    rw [writeMembers, writeScalar_of_isKeyword hmembers.1.1]
    simp only [List.append_assoc, List.cons_append]

/-- What comes after some items is a further one, or what comes after all of them. -/
theorem exists_writeItems_eq (vs : List Value) (hk : k ≤ x) (hr : BeginsToken r) :
    ∃ k₀ r₀, writeItems x vs ++ (spaces k ++ r) = spaces k₀ ++ r₀ ∧ k₀ ≤ x ∧ BeginsToken r₀ := by
  cases vs with
  | nil => exact ⟨k, r, by rw [writeItems, List.nil_append], hk, hr⟩
  | cons v vs =>
    refine ⟨x, '-' :: (writeItem x v ++ (writeItems x vs ++ (spaces k ++ r))), ?_, Nat.le_refl x,
      beginsToken_cons (by decide)⟩
    rw [writeItems]
    simp only [List.append_assoc, List.cons_append]

/-! ### Members -/

/-- Behind a key, its value and the members after it are read. -/
theorem ReadsAfter.exists_steps (hv : ReadsAfter v) (hmembers : ReadsMembers members)
    (hreadable : HaveReadable members)
    (h : l.IsAt (v.writeAfter x ++ (writeMembers x members ++ (spaces k ++ r))) column ts
      (x :: columns) false)
    (hcolumn : x < column) (hk : k ≤ x) (hr : BeginsToken r) :
    ∃ l', Steps l l' ∧ l'.Faces r k (ts ++ (v.tokens ++ memberTokens members)) (x :: columns) := by
  obtain ⟨k₀, r₀, heq, hk₀, hr₀⟩ := exists_writeMembers_eq hreadable hk hr
  rw [heq] at h
  obtain ⟨l₁, hsteps₁, hfaces₁⟩ := hv h hcolumn hk₀ hr₀
  obtain ⟨l₂, hsteps₂, hfaces₂⟩ := hmembers heq hr₀ hfaces₁ hk hr
  exact ⟨l₂, hsteps₁.trans hsteps₂, by rwa [List.append_assoc] at hfaces₂⟩

/-- No members are read without a step. -/
theorem readsMembers_nil : ReadsMembers [] := by
  intro l x k k₀ r r₀ ts columns heq hr₀ hfaces hk hr
  -- What the layout faces is what comes after the members.
  rw [writeMembers, List.nil_append] at heq
  obtain ⟨rfl, rfl⟩ := eq_of_spaces_append_eq heq hr.startsWord hr₀.startsWord
  exact ⟨l, .refl, by rwa [memberTokens, List.append_nil]⟩

/-- A further member is read. -/
theorem readsMembers_cons (hkey : IsKeyword key) (hv : ReadsAfter v)
    (hmembers : ReadsMembers members) (hreadable : HaveReadable members) :
    ReadsMembers ((key, v) :: members) := by
  intro l x k k₀ r r₀ ts columns heq hr₀ hfaces hk hr
  rw [writeMembers, writeScalar_of_isKeyword hkey] at heq
  simp only [List.append_assoc, List.cons_append] at heq
  obtain ⟨rfl, rfl⟩ := eq_of_spaces_append_eq heq
    (beginsToken_of_isKeyword hkey _).startsWord hr₀.startsWord
  obtain ⟨l₁, hsteps₁, hat⟩ := exists_steps_key hfaces (isKey_of_isKeyword hkey)
    (endsWord_writeAfter x v _)
  obtain ⟨l₂, hsteps₂, hfaces₂⟩ := hv.exists_steps hmembers hreadable hat (by omega) hk hr
  refine ⟨l₂, hsteps₁.trans hsteps₂, ?_⟩
  simpa [memberTokens] using hfaces₂

/-- The members of a mapping are read from the first one on, which begins it. -/
theorem exists_steps_block (hkey : IsKeyword key) (hv : ReadsAfter v)
    (hmembers : ReadsMembers members) (hreadable : HaveReadable members)
    (h : l.Faces
      (key.toList ++ ':' :: (v.writeAfter x ++ (writeMembers x members ++ (spaces k ++ r))))
      x ts columns)
    (hcolumns : ∀ y ∈ columns.head?, y < x) (hk : k ≤ x) (hr : BeginsToken r) :
    ∃ l', Steps l l' ∧
      l'.Faces r k (ts ++ .blockMappingStart :: memberTokens ((key, v) :: members))
        (x :: columns) := by
  obtain ⟨l₁, hsteps₁, hat⟩ := exists_steps_firstKey h (isKey_of_isKeyword hkey)
    (endsWord_writeAfter x v _) hcolumns
  obtain ⟨l₂, hsteps₂, hfaces₂⟩ := hv.exists_steps hmembers hreadable hat (by omega) hk hr
  refine ⟨l₂, hsteps₁.trans hsteps₂, ?_⟩
  simpa [memberTokens] using hfaces₂

/-! ### Items -/

/-- No items are read without a step. -/
theorem readsItems_nil : ReadsItems [] := by
  intro l x k k₀ r r₀ ts columns heq hr₀ hfaces hk hr
  rw [writeItems, List.nil_append] at heq
  obtain ⟨rfl, rfl⟩ := eq_of_spaces_append_eq heq hr.startsWord hr₀.startsWord
  exact ⟨l, .refl, by rwa [itemTokens, List.append_nil]⟩

/-- A further item is read: its dash, and the mapping behind it from its first key to where it
ends. -/
theorem readsItems_cons (hkey : IsKeyword key) (hv : ReadsAfter v) (hmembers : ReadsMembers members)
    (hreadable : HaveReadable members) (hvs : ReadsItems vs) :
    ReadsItems (.mapping ((key, v) :: members) :: vs) := by
  intro l x k k₀ r r₀ ts columns heq hr₀ hfaces hk hr
  rw [writeItems, writeItem, writeScalar_of_isKeyword hkey] at heq
  simp only [List.append_assoc, List.cons_append] at heq
  have hdash (t : List Char) : StartsWord ('-' :: t) := startsWord_cons.mpr (by decide)
  obtain ⟨rfl, rfl⟩ := eq_of_spaces_append_eq heq (hdash _) hr₀.startsWord
  obtain ⟨l₁, hstep₁, hat⟩ := exists_step_dash hfaces
  obtain ⟨k₁, r₁, heq₁, hk₁, hr₁⟩ := exists_writeItems_eq vs hk hr
  rw [heq₁] at hat
  -- The first key stands in the line of the dash, right of the mapping around the sequence.
  obtain ⟨m, hm, hnext⟩ := exists_next?_of_isAt (k := 1) hat (beginsToken_of_isKeyword hkey _)
  have hfirst : l₁.Faces (key.toList ++ ':' :: (v.writeAfter (x + 2) ++
      (writeMembers (x + 2) members ++ (spaces k₁ ++ r₁)))) (x + 2) (ts ++ [.blockEntry])
      (x :: columns) := ⟨m, hm, hnext⟩
  obtain ⟨l₂, hsteps₂, hfaces₂⟩ := exists_steps_block hkey hv hmembers hreadable hfirst
    (fun y hy => Option.some.inj hy ▸ by omega) (by omega) hr₁
  obtain ⟨l₃, hsteps₃, hfaces₃⟩ := hvs heq₁ hr₁ (hfaces₂.blockEnd (by omega)) hk hr
  refine ⟨l₃, .trans (.head hstep₁ hsteps₂) hsteps₃, ?_⟩
  simpa [itemTokens, Value.tokens] using hfaces₃

/-! ### Values -/

/-- A word is read as a plain scalar. -/
theorem readsAfter_word {s : String} (hne : s.toList ≠ []) (hs : allowsPlain s.toList = true) :
    ReadsAfter (.word s) := by
  intro l x k column r ts columns hat hcolumn hk hr
  unfold writeAfter at hat
  simp only [List.append_assoc, List.cons_append, List.nil_append] at hat
  obtain ⟨l', hstep, hfaces⟩ := exists_step_plain hat hne hs hcolumn hk hr
  refine ⟨l', .single hstep, ?_⟩
  rwa [Value.tokens]

/-- A text is read in the style in which it is written. -/
theorem readsAfter_text (s : String) : ReadsAfter (.text s) := by
  intro l x k column r ts columns hat hcolumn hk hr
  unfold writeAfter at hat
  obtain ⟨l', hstep, hfaces⟩ := exists_step_text hat hcolumn hk hr
  refine ⟨l', .single hstep, ?_⟩
  rwa [Value.tokens]

/-- A sequence is read item by item, from the lines behind its key, or in brackets if it is
empty. -/
theorem readsAfter_sequence (hvs : ReadsItems vs) : ReadsAfter (.sequence vs) := by
  intro l x k column r ts columns hat hcolumn hk hr
  unfold writeAfter at hat
  cases vs with
  | nil =>
    obtain ⟨l', hsteps, hfaces⟩ := exists_steps_brackets hat hcolumn hr
    refine ⟨l', hsteps, ?_⟩
    rwa [Value.tokens]
  | cons v vs =>
    dsimp only at hat
    obtain ⟨k₀, r₀, heq, hk₀, hr₀⟩ := exists_writeItems_eq (v :: vs) hk hr
    rw [List.cons_append, heq] at hat
    obtain ⟨l', hsteps, hfaces⟩ := hvs heq hr₀ (faces_of_newline hat hr₀) hk hr
    refine ⟨l', hsteps, ?_⟩
    rwa [Value.tokens]
    exact List.cons_ne_nil v vs

/-- A mapping is read from its first key to where it ends. -/
theorem readsAfter_mapping (hkey : IsKeyword key) (hv : ReadsAfter v)
    (hmembers : ReadsMembers members) (hreadable : HaveReadable members) :
    ReadsAfter (.mapping ((key, v) :: members)) := by
  intro l x k column r ts columns hat hcolumn hk hr
  unfold writeAfter at hat
  rw [writeMembers, writeScalar_of_isKeyword hkey] at hat
  simp only [List.append_assoc, List.cons_append] at hat
  obtain ⟨l', hsteps, hfaces⟩ := exists_steps_block hkey hv hmembers hreadable
    (faces_of_newline hat (beginsToken_of_isKeyword hkey _))
    (fun y hy => Option.some.inj hy ▸ by omega) (by omega) hr
  refine ⟨l', hsteps, ?_⟩
  have hend := hfaces.blockEnd (by omega)
  rw [Value.tokens]
  simpa using hend

/-! ### Readable values -/

mutual

/-- **A readable value is read behind its key**, with its tokens. The induction is on the value,
together with its items and members. -/
theorem readsAfter_of_isReadable : ∀ v : Value, v.IsReadable → ReadsAfter v
  | .word s, h => by
    rw [IsReadable] at h
    exact readsAfter_word h.1 h.2
  | .text s, _ => readsAfter_text s
  | .sequence vs, h => by
    rw [IsReadable] at h
    exact readsAfter_sequence (readsItems_of_areReadable vs h)
  | .mapping [], h => by
    rw [IsReadable] at h
    exact absurd rfl h.1
  | .mapping ((key, v) :: members), h => by
    rw [IsReadable, HaveReadable] at h
    obtain ⟨-, ⟨hkey, hv⟩, hmembers⟩ := h
    exact readsAfter_mapping hkey (readsAfter_of_isReadable v hv)
      (readsMembers_of_haveReadable members hmembers) hmembers

/-- Readable items are read, one after the other. -/
theorem readsItems_of_areReadable : ∀ vs : List Value, AreReadable vs → ReadsItems vs
  | [], _ => readsItems_nil
  | .mapping ((key, v) :: members) :: vs, h => by
    rw [AreReadable, IsReadable, HaveReadable] at h
    obtain ⟨⟨-, -, ⟨hkey, hv⟩, hmembers⟩, hvs⟩ := h
    exact readsItems_cons hkey (readsAfter_of_isReadable v hv)
      (readsMembers_of_haveReadable members hmembers) hmembers (readsItems_of_areReadable vs hvs)
  | .mapping [] :: _, h | .word _ :: _, h | .text _ :: _, h | .sequence _ :: _, h => by
    rw [AreReadable] at h
    exact h.1.1.elim

/-- Readable members are read, one after the other. -/
theorem readsMembers_of_haveReadable :
    ∀ members : List (String × Value), HaveReadable members → ReadsMembers members
  | [], _ => readsMembers_nil
  | (key, v) :: members, h => by
    rw [HaveReadable] at h
    obtain ⟨⟨hkey, hv⟩, hmembers⟩ := h
    exact readsMembers_cons hkey (readsAfter_of_isReadable v hv)
      (readsMembers_of_haveReadable members hmembers) hmembers

end

end Layout

end Yaml

end EntityScript
