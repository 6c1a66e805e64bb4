import EntityScript.Proofs.Markup.Pieces

/-!
# Reading written documents

The events of a written document are those of its items in order (`Item.events`). The reader takes
them one at a time: `IsNext` is one step of it, and `Reads` a run, for which fuel and offsets no
longer matter. A step for each kind of item, whatever follows it, gives a run over every item and,
by induction over the items inside it, over whole documents (`Item.reads`, `Item.readsAll`).

**Main statement**: a well-formed document is read to its end as its events (`read_writeAll`).
-/

namespace EntityScript

namespace Markup

/-! ### Runs of the reader -/

/-- A text ends here: nothing follows, or markup. -/
def IsTextEnd (s : List Char) : Prop :=
  ∀ c ∈ s.head?, c = '<'

/-- The reader takes the event from the start of the text, and `rest` is left. -/
def IsNext (opened : List String) (s : List Char) (e : Event) (rest : List Char) : Prop :=
  rest.length < s.length ∧ ∀ fuel offset, ∃ offset',
    let later := readWithin fuel (openedAfter opened e) offset' rest
    readWithin (fuel + 1) opened offset s = ⟨e :: later.events, later.ending⟩

/-- A text up to the next markup is taken as one event. Its references are resolved later, when the
tree is built. -/
theorem isNext_text {raw rest : List Char} (hne : raw ≠ []) (hraw : '<' ∉ raw)
    (hrest : IsTextEnd rest) (opened : List String) :
    IsNext opened (raw ++ rest) (.text (String.ofList raw)) rest := by
  have hpass : ∀ c ∈ raw, (c != '<') = true := fun c hc =>
    bne_iff_ne.mpr fun heq => hraw (heq ▸ hc)
  have htake : (raw ++ rest).takeWhile (· != '<') = raw := by
    rw [List.takeWhile_append_of_pos hpass]
    cases rest with
    | nil => exact List.append_nil raw
    | cons c rest => simp [hrest c rfl]
  have hdrop : (raw ++ rest).dropWhile (· != '<') = rest := by
    rw [List.dropWhile_append_of_pos hpass]
    cases rest with
    | nil => rfl
    | cons c rest => simp [hrest c rfl]
  obtain ⟨c, t, rfl⟩ := List.exists_cons_of_ne_nil hne
  have hc : c ≠ '<' := bne_iff_ne.mp (hpass c List.mem_cons_self)
  refine ⟨?_, fun fuel offset => ⟨offset + Text.byteLength (c :: t), ?_⟩⟩
  · rw [List.length_append, List.length_cons]
    omega
  · -- The last pattern of the reader is the one for text: the input is not empty and no bracket
    -- opens it.
    rw [List.cons_append, readWithin, ← List.cons_append, htake, hdrop]
    · rfl
    · exact List.cons_ne_nil _ _
    · exact fun _ heq => hc (List.cons.inj heq).1

/-- A piece of markup is taken with the `<` before it. What is behind the markup is left to the next
step. -/
theorem isNext_markup {opened : List String} {s t rest : List Char} {e : Event} (hne : s ≠ [])
    (hs : s ++ rest = '<' :: t) (ht : markupPiece opened t = .event e rest) :
    IsNext opened (s ++ rest) e rest := by
  have hlength : s.length + rest.length = t.length + 1 := by
    rw [← List.length_append, hs, List.length_cons]
  have hpos : 0 < s.length := List.length_pos_iff.mpr hne
  rw [hs]
  refine ⟨by rw [List.length_cons]; omega, fun fuel offset =>
    ⟨offset + (1 + (Text.byteLength t - Text.byteLength rest)), ?_⟩⟩
  rw [readWithin, ht]

/-- The reader takes the events one after the other. -/
inductive Reads : List String → List Char → List Event → List String → List Char → Prop
  | nil {opened : List String} {s : List Char} : Reads opened s [] opened s
  | cons {opened opened' : List String} {s rest rest' : List Char} {e : Event} {es : List Event}
      (h : IsNext opened s e rest) (hrest : Reads (openedAfter opened e) rest es opened' rest') :
      Reads opened s (e :: es) opened' rest'

namespace Reads

variable {opened opened' opened'' : List String} {s s' s'' : List Char} {es es' : List Event}

/-- Runs are put together where the first one leaves what the second one begins with. The elements
that are open in between are those after the first run. -/
theorem append (h : Reads opened s es opened' s') (h' : Reads opened' s' es' opened'' s'') :
    Reads opened s (es ++ es') opened'' s'' := by
  induction h with
  | nil => exact h'
  | cons hnext _ ih => exact .cons hnext (ih h')

theorem of_isNext {e : Event} (h : IsNext opened s e s') :
    Reads opened s [e] (openedAfter opened e) s' :=
  .cons h .nil

/-- Reading goes on until nothing is left, if it may take so many steps. This is where fuel and
offsets are dropped for good. -/
theorem readWithin_eq (h : Reads opened s es opened' []) {fuel : Nat} (hfuel : s.length < fuel)
    (offset : Nat) : readWithin fuel opened offset s = ⟨es, .complete⟩ := by
  generalize hend : ([] : List Char) = s' at h
  induction h generalizing fuel offset with
  | nil =>
    subst hend
    cases fuel <;> rfl
  | cons hnext _ ih =>
    -- The rest is shorter, so one unit of fuel less is enough for it.
    obtain ⟨hshorter, hstep⟩ := hnext
    obtain ⟨fuel, rfl⟩ := Nat.exists_eq_succ_of_ne_zero (Nat.ne_zero_of_lt hfuel)
    obtain ⟨offset', hread⟩ := hstep fuel offset
    rw [hread, ih (by omega) offset' hend]

end Reads

namespace Item

/-! ### Items -/

mutual

/-- The events of an item. -/
def events : Item → List Event
  | text raw _ => [.text raw]
  | data s => [.data s]
  | comment _ | instruction _ => [.aside]
  | element tag children _ => .start tag.name :: (eventsAll children ++ [.stop tag.name])
  | emptyElement tag => [.empty tag.name]

/-- The events of some items. -/
def eventsAll : List Item → List Event
  | [] => []
  | i :: is => i.events ++ eventsAll is

end

/-- Items other than texts start with markup, so a text in front of one ends there. So no two texts
of a document run into each other. -/
theorem exists_write_eq_cons {i : Item} (h : i.isText = false) : ∃ s, i.write = '<' :: s := by
  cases i with
  | text raw s => cases h
  | data s => exact ⟨_, rfl⟩
  | comment s => exact ⟨_, rfl⟩
  | instruction s => exact ⟨_, rfl⟩
  | element tag children gap => exact ⟨_, rfl⟩
  | emptyElement tag => exact ⟨_, rfl⟩

theorem isTextEnd_enclose (s : List Char) (stop : String) (rest : List Char) :
    IsTextEnd (enclose "</" s stop ++ rest) :=
  fun _ hc => (Option.some.inj hc).symm

/-- Items that do not start with a text end one, whether there are any or not. An empty list is
followed by what follows the items. -/
theorem isTextEnd_writeAll {is : List Item} (h : startsWithText is = false) {rest : List Char}
    (hrest : IsTextEnd rest) : IsTextEnd (writeAll is ++ rest) := by
  cases is with
  | nil => exact hrest
  | cons i is =>
    obtain ⟨s, hs⟩ := exists_write_eq_cons h
    rw [writeAll, hs]
    exact fun c hc => (Option.some.inj hc).symm

section

variable (opened : List String) (rest : List Char)

/-- A section of character data is taken as one event. It may be empty, unlike a text. -/
theorem isNext_data {s : String} (h : ¬ "]]>".toList <:+: s.toList) :
    IsNext opened (enclose "<![CDATA[" s.toList "]]>" ++ rest) (.data s) rest := by
  have hpiece : markupPiece opened _ = .event (.data (String.ofList s.toList)) rest :=
    markupPiece_data h
  rw [String.ofList_toList] at hpiece
  exact isNext_markup (by simp [enclose]) (by simp [enclose]) hpiece

theorem isNext_comment {s : List Char} (h : ¬ "--".toList <:+: s) :
    IsNext opened (enclose "<!--" s "-->" ++ rest) .aside rest :=
  isNext_markup (by simp [enclose]) (by simp [enclose]) (markupPiece_comment h)

theorem isNext_instruction {s : List Char} (h : ¬ "?>".toList <:+: '?' :: s) :
    IsNext opened (enclose "<?" s "?>" ++ rest) .aside rest :=
  isNext_markup (by simp [enclose]) (by simp [enclose]) (markupPiece_instruction h)

theorem isNext_start {tag : Tag} (h : tag.WellFormed) :
    IsNext opened (enclose "<" tag.write ">" ++ rest) (.start tag.name) rest :=
  isNext_markup (by simp [enclose]) (by simp [enclose]) (h.markupPiece_start opened rest)

theorem isNext_empty {tag : Tag} (h : tag.WellFormed) :
    IsNext opened (enclose "<" tag.write "/>" ++ rest) (.empty tag.name) rest :=
  isNext_markup (by simp [enclose]) (by simp [enclose]) (h.markupPiece_empty opened rest)

/-- The tag behind the content of an element is taken as its end, where that element is the
innermost. -/
theorem isNext_stop {name : String} {gap : List Char} (hname : IsName name.toList)
    (hgap : IsGap gap) :
    IsNext (name :: opened) (enclose "</" (name.toList ++ gap) ">" ++ rest) (.stop name) rest :=
  isNext_markup (by simp [enclose]) (by simp [enclose]) (markupPiece_stop hname hgap opened rest)

end

mutual

/-- An item is read as its events, whatever follows it. The induction is on the item, and the
elements that are open around it are arbitrary. -/
theorem reads (i : Item) (h : i.WellFormed) (opened : List String) {rest : List Char}
    (hrest : i.isText = true → IsTextEnd rest) :
    Reads opened (i.write ++ rest) i.events opened rest := by
  cases i with
  | text raw s =>
    rw [WellFormed] at h
    rw [write, events]
    have hne : raw.toList ≠ [] := fun hnil => h.1 (String.toList_eq_nil_iff.mp hnil)
    have hnext := isNext_text hne (lt_not_mem_of_spells h.2) (hrest rfl) opened
    rw [String.ofList_toList] at hnext
    exact .of_isNext hnext
  | data s =>
    rw [WellFormed] at h
    rw [write, events]
    exact .of_isNext (isNext_data opened rest h)
  | comment s =>
    rw [WellFormed] at h
    rw [write, events]
    exact .of_isNext (isNext_comment opened rest h)
  | instruction s =>
    rw [WellFormed] at h
    rw [write, events]
    exact .of_isNext (isNext_instruction opened rest h)
  | element tag children gap =>
    rw [WellFormed] at h
    rw [write, events, List.append_assoc, List.append_assoc]
    refine .cons (isNext_start opened _ h.1) ?_
    -- The closing tag begins with a bracket, so a text that ends the children stops in front of it.
    exact (readsAll children h.2.1 (tag.name :: opened) (isTextEnd_enclose _ _ _)).append
      (.of_isNext (isNext_stop opened rest h.1.name h.2.2))
  | emptyElement tag =>
    rw [WellFormed] at h
    rw [write, events]
    exact .of_isNext (isNext_empty opened rest h)

/-- Items are read as their events one after the other, if a text among them ends before the next
one. -/
theorem readsAll (is : List Item) (h : AllWellFormed is) (opened : List String) {rest : List Char}
    (hrest : IsTextEnd rest) : Reads opened (writeAll is ++ rest) (eventsAll is) opened rest := by
  cases is with
  | nil => exact .nil
  | cons i is =>
    rw [AllWellFormed] at h
    obtain ⟨hi, htexts, his⟩ := h
    rw [writeAll, eventsAll, List.append_assoc]
    -- A text ends where the next item starts, which is then no text.
    refine (reads i hi opened fun htext => ?_).append (readsAll is his opened hrest)
    rw [htext, Bool.true_and] at htexts
    exact isTextEnd_writeAll htexts hrest

end

end Item

/-- **A well-formed document is read as its events** if it does not start with a byte-order
mark. -/
theorem read_writeAll {is : List Item} (h : Item.AllWellFormed is)
    (hmark : (Item.writeAll is).head? ≠ some '\ufeff') :
    read (String.ofList (Item.writeAll is)) = ⟨Item.eventsAll is, .complete⟩ := by
  have hreads : Reads [] (Item.writeAll is) (Item.eventsAll is) [] [] := by
    have hend : IsTextEnd [] := fun c hc => nomatch hc
    have hall := Item.readsAll is h [] hend
    rwa [List.append_nil] at hall
  rw [read, String.toList_ofList]
  split
  · next heq => exact absurd (by rw [heq]; rfl) hmark
  · exact hreads.readWithin_eq (Nat.lt_succ_self _) 0

end Markup

end EntityScript
