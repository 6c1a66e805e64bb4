import EntityScript.Proofs.Markup.Nesting
import EntityScript.Proofs.Template.Conversion

/-!
# Reading templates by recursion

The recursive reading of a document is a grammar of its events (`Items`): an element is a start tag,
the items inside it and its end tag; comments and blank texts are passed over. The reader of
templates keeps a stack instead. What it has read so far leaves a partial derivation on the stack
(`Leaves`): the items of each open element up to the start tag of the next one, and those of the
innermost. One event keeps this (`exists_step`), and so does a run of the loop (`exists_run`).

**Main statement**: a document is read as what the grammar makes of its events if they are nested,
all texts can be unescaped and the reader meets no fault; otherwise its first fault is reported, an
element that is not closed only if there is no other (`Document.ofReading_eq_descent`).
-/

namespace EntityScript

namespace Template

open Markup (EndsMatch Ending Event Nested Reading openedAfter)

/-! ### The grammar -/

/-- The events are read as the trees, in their order and by recursion over the elements. -/
inductive Items : List Event → List Tree → Prop
  | nil : Items [] []
  | text {raw s : String} {es : List Event} {ts : List Tree} (hs : Markup.unescape raw = .ok s)
    (hblank : Text.allBlank s.toList = false) (h : Items es ts) :
    Items (.text raw :: es) (.text s :: ts)
  | blank {raw s : String} {es : List Event} {ts : List Tree} (hs : Markup.unescape raw = .ok s)
    (hblank : Text.allBlank s.toList = true) (h : Items es ts) : Items (.text raw :: es) ts
  | data {s : String} {es : List Event} {ts : List Tree} (h : Items es ts) :
    Items (.data s :: es) (.text s :: ts)
  | aside {es : List Event} {ts : List Tree} (h : Items es ts) : Items (.aside :: es) ts
  | empty {name : String} {es : List Event} {ts : List Tree} (h : Items es ts) :
    Items (.empty name :: es) (.element name [] :: ts)
  | element {name : String} {inside es : List Event} {children ts : List Tree}
    (hinside : Items inside children) (h : Items es ts) :
    Items (.start name :: (inside ++ .stop name :: es)) (.element name children :: ts)

/-- Items are put together where their events are. So the grammar is that of a list. -/
theorem Items.append {es fs : List Event} {ts us : List Tree} (h : Items es ts)
    (h' : Items fs us) : Items (es ++ fs) (ts ++ us) := by
  induction h with
  | nil => exact h'
  | text hs hblank _ ih => exact .text hs hblank ih
  | blank hs hblank _ ih => exact .blank hs hblank ih
  | data _ ih => exact .data ih
  | aside _ ih => exact .aside ih
  | empty _ ih => exact .empty ih
  | element hinside _ _ ih =>
    rw [List.cons_append, List.append_assoc, List.cons_append]
    exact .element hinside ih

/-- An event that is no tag is read as its own tree, if it has one. Comments, instructions and blank
texts have none. -/
theorem Items.of_treeOfEvent? {e : Event} {tree : Option Tree} {es : List Event} {ts : List Tree}
    (he : e.isTag = false) (htree : treeOfEvent? e = .ok tree) (h : Items es ts) :
    Items (e :: es) (tree.toList ++ ts) := by
  cases e with
  | start name | stop name => cases he
  | empty name =>
    cases htree
    exact .empty h
  | data s =>
    cases htree
    exact .data h
  | aside =>
    cases htree
    exact .aside h
  | text raw =>
    rw [treeOfEvent?] at htree
    split at htree
    · cases htree
    next s hs =>
      cases hblank : Text.allBlank s.toList with
      | true =>
        rw [hblank] at htree
        cases htree
        exact .blank hs hblank h
      | false =>
        rw [hblank] at htree
        cases htree
        exact .text hs hblank h

/-! ### Texts -/

/-- Every text can be unescaped. -/
def TextsUnescape (es : List Event) : Prop :=
  ∀ raw, .text raw ∈ es → ∃ s, Markup.unescape raw = .ok s

/-- An event by itself gives a tree or is passed over, unless it is a text that cannot be
unescaped. -/
theorem exists_treeOfEvent? {e : Event} (h : TextsUnescape [e]) :
    ∃ tree, treeOfEvent? e = .ok tree := by
  cases e with
  | start name | stop name | aside => exact ⟨none, rfl⟩
  | empty name => exact ⟨some (.element name []), rfl⟩
  | data s => exact ⟨some (.text s), rfl⟩
  | text raw =>
    obtain ⟨s, hs⟩ := h raw List.mem_cons_self
    rw [treeOfEvent?, hs]
    exact ⟨_, rfl⟩

theorem textsUnescape_append {es fs : List Event} :
    TextsUnescape (es ++ fs) ↔ TextsUnescape es ∧ TextsUnescape fs := by
  simp only [TextsUnescape, List.mem_append, or_imp, forall_and]

theorem textsUnescape_cons {e : Event} {es : List Event} :
    TextsUnescape (e :: es) ↔ TextsUnescape [e] ∧ TextsUnescape es :=
  (textsUnescape_append : TextsUnescape ([e] ++ es) ↔ _)

theorem textsUnescape_singleton_of {e : Event} (h : ∀ raw, e ≠ .text raw) : TextsUnescape [e] :=
  fun raw hraw => absurd (List.mem_singleton.mp hraw).symm (h raw)

/-- There is a first text that cannot be unescaped, or none at all. The loop reports the first, so
it has to be told from the others. -/
theorem textsUnescape_or_exists (es : List Event) : TextsUnescape es ∨
    ∃ before raw after f, es = before ++ .text raw :: after ∧ TextsUnescape before ∧
      Markup.unescape raw = .error f := by
  induction es with
  | nil => exact .inl fun raw hraw => absurd hraw List.not_mem_nil
  | cons e es ih =>
    by_cases he : TextsUnescape [e]
    · obtain hes | ⟨before, raw, after, f, rfl, hbefore, hraw⟩ := ih
      · exact .inl (textsUnescape_cons.mpr ⟨he, hes⟩)
      · exact .inr ⟨e :: before, raw, after, f, rfl, textsUnescape_cons.mpr ⟨he, hbefore⟩, hraw⟩
    · obtain ⟨raw, hraw⟩ := Classical.not_forall.mp he
      obtain ⟨hmem, hnone⟩ := Classical.not_imp.mp hraw
      obtain rfl := List.mem_singleton.mp hmem
      refine .inr ⟨[], raw, es, ?_⟩
      cases hs : Markup.unescape raw with
      | ok s => exact absurd ⟨s, hs⟩ hnone
      | error f => exact ⟨f, rfl, fun _ h => absurd h List.not_mem_nil, rfl⟩

/-- What the grammar reads has texts that can be unescaped. There is no other rule for a text than
the one that unescapes it. -/
theorem Items.textsUnescape {es : List Event} {ts : List Tree} (h : Items es ts) :
    TextsUnescape es := by
  induction h with
  | nil => exact fun raw hraw => absurd hraw List.not_mem_nil
  | text hs _ _ ih | blank hs _ _ ih =>
    refine textsUnescape_cons.mpr ⟨fun raw hraw => ?_, ih⟩
    cases List.mem_singleton.mp hraw
    exact ⟨_, hs⟩
  | data _ ih | aside _ ih | empty _ ih =>
    exact textsUnescape_cons.mpr ⟨textsUnescape_singleton_of nofun, ih⟩
  | @element name _ _ _ _ _ _ ihinside ih =>
    have hstart : TextsUnescape [.start name] := textsUnescape_singleton_of nofun
    have hstop : TextsUnescape [.stop name] := textsUnescape_singleton_of nofun
    exact textsUnescape_cons.mpr ⟨hstart, textsUnescape_append.mpr
      ⟨ihinside, textsUnescape_cons.mpr ⟨hstop, ih⟩⟩⟩

/-- What the grammar reads is nested. The induction is on the derivation. -/
theorem Items.nested {es : List Event} {ts : List Tree} (h : Items es ts) : Nested es := by
  induction h with
  | nil => exact .nil
  | text _ _ _ ih | blank _ _ _ ih | data _ ih | aside _ ih | empty _ ih => exact .cons rfl ih
  | element _ _ ihinside ih => exact .element ihinside ih

/-- Nested events are read by the grammar, if their texts can be unescaped. The induction is on the
nesting, which has the shape of the grammar. -/
theorem exists_items_of_nested {es : List Event} (h : Nested es) (htexts : TextsUnescape es) :
    ∃ ts, Items es ts := by
  induction h with
  | nil => exact ⟨[], .nil⟩
  | cons he _ ih =>
    obtain ⟨htext, hes⟩ := textsUnescape_cons.mp htexts
    obtain ⟨tree, htree⟩ := exists_treeOfEvent? htext
    obtain ⟨ts, hts⟩ := ih hes
    exact ⟨_, hts.of_treeOfEvent? he htree⟩
  | element _ _ ihinside ih =>
    obtain ⟨hinside, hrest⟩ := textsUnescape_append.mp (textsUnescape_cons.mp htexts).2
    obtain ⟨children, hchildren⟩ := ihinside hinside
    obtain ⟨ts, hts⟩ := ih (textsUnescape_cons.mp hrest).2
    exact ⟨_, .element hchildren hts⟩

/-- **The grammar reads nested events** whose texts can be unescaped, and no others. Both conditions
can be checked without building a tree. -/
theorem exists_items_iff {es : List Event} :
    (∃ ts, Items es ts) ↔ TextsUnescape es ∧ Nested es :=
  ⟨fun ⟨_, h⟩ => ⟨h.textsUnescape, h.nested⟩, fun ⟨htexts, h⟩ => exists_items_of_nested h htexts⟩

/-! ### The loop -/

/-- Events other than tags that open or close give their trees by themselves, and leave the stack as
it is. -/
theorem treesFrom_of_treeOfEvent? {siblings : List Tree} {opened : List (String × List Tree)}
    {ending : Ending} {e : Event} {es : List Event} {tree : Option Tree} (he : e.isTag = false)
    (h : treeOfEvent? e = .ok tree) :
    treesFrom siblings opened ending (e :: es) =
      treesFrom (tree.toList ++ siblings) opened ending es := by
  cases e with
  | start name | stop name => cases he
  | empty name | text raw | data s | aside => rw [treesFrom, h] <;> simp

/-- The loop reads items as the grammar does, whatever is on the stack and whatever follows. An
element is read with itself on the stack, and taken off at its end. -/
theorem treesFrom_items {es : List Event} {ts : List Tree} (h : Items es ts)
    (siblings : List Tree) (opened : List (String × List Tree)) (ending : Ending)
    (rest : List Event) :
    treesFrom siblings opened ending (es ++ rest) =
      treesFrom (ts.reverse ++ siblings) opened ending rest := by
  -- The stack is general, as the items inside an element are read with the element on it.
  induction h generalizing siblings opened rest with
  | nil => rfl
  | @text raw s es ts hs hblank _ ih =>
    have htree : treeOfEvent? (.text raw) = .ok (some (.text s)) := by
      rw [treeOfEvent?, hs]
      simp [hblank]
    rw [List.cons_append, treesFrom_of_treeOfEvent? rfl htree, ih, List.reverse_cons,
      List.append_assoc]
    rfl
  | @blank raw s es ts hs hblank _ ih =>
    have htree : treeOfEvent? (.text raw) = .ok none := by
      rw [treeOfEvent?, hs]
      simp [hblank]
    rw [List.cons_append, treesFrom_of_treeOfEvent? rfl htree, ih]
    rfl
  | data _ ih | empty _ ih =>
    rw [List.cons_append, treesFrom_of_treeOfEvent? rfl rfl, ih, List.reverse_cons,
      List.append_assoc]
    rfl
  | aside _ ih =>
    rw [List.cons_append, treesFrom_of_treeOfEvent? rfl rfl, ih]
    rfl
  | element _ _ ihinside ih =>
    rw [List.cons_append, List.append_assoc, List.cons_append, treesFrom, ihinside, treesFrom, ih,
      List.append_nil, List.reverse_reverse, List.reverse_cons, List.append_assoc]
    rfl

/-! ### Partial derivations -/

/-- The events read so far leave these trees and open elements: `siblings` are the items after the
innermost start tag that is still open, and each open element has the items before its start tag. -/
inductive Leaves : List Event → (siblings : List Tree) → (opened : List (String × List Tree)) → Prop
  | top {es : List Event} {siblings : List Tree} (h : Items es siblings.reverse) :
    Leaves es siblings []
  | inside {before es : List Event} {name : String} {outer siblings : List Tree}
    {opened : List (String × List Tree)} (hbefore : Leaves before outer opened)
    (h : Items es siblings.reverse) :
    Leaves (before ++ .start name :: es) siblings ((name, outer) :: opened)

section

variable {read es : List Event} {siblings ts : List Tree} {opened : List (String × List Tree)}

theorem Leaves.nil : Leaves [] [] [] :=
  .top .nil

/-- Items that are read leave their trees on the innermost level. What is on the stack below stays
as it is. -/
theorem Leaves.append (h : Leaves read siblings opened) (hes : Items es ts) :
    Leaves (read ++ es) (ts.reverse ++ siblings) opened := by
  cases h with
  | top h =>
    refine .top ?_
    rw [List.reverse_append, List.reverse_reverse]
    exact h.append hes
  | inside hbefore h =>
    rw [List.append_assoc, List.cons_append]
    refine .inside hbefore ?_
    rw [List.reverse_append, List.reverse_reverse]
    exact h.append hes

/-- **One event** that fits the open elements keeps the partial derivation. A start tag opens a
level; an end tag closes one, and makes an item of what it holds. -/
theorem exists_step {e : Event} (h : Leaves read siblings opened) (htext : TextsUnescape [e])
    (hstop : ∀ name, e = .stop name → (opened.map Prod.fst).head? = some name) :
    ∃ siblings' opened', Leaves (read ++ [e]) siblings' opened' ∧
      opened'.map Prod.fst = openedAfter (opened.map Prod.fst) e ∧
      ∀ ending rest, treesFrom siblings opened ending (e :: rest) =
        treesFrom siblings' opened' ending rest := by
  cases e with
  | start name =>
    exact ⟨[], (name, siblings) :: opened, .inside h .nil, rfl, fun _ _ => rfl⟩
  | stop name =>
    cases h with
    | top h => cases hstop name rfl
    | @inside before es name' outer siblings opened hbefore h =>
      obtain rfl : name' = name := Option.some.inj (hstop name rfl)
      -- The items after the start tag become an item of the element around them.
      have helement : Items (.start name' :: (es ++ [.stop name']))
          [.element name' siblings.reverse] := .element h .nil
      refine ⟨.element name' siblings.reverse :: outer, opened, ?_, rfl, fun _ _ => rfl⟩
      rw [List.append_assoc, List.cons_append]
      exact hbefore.append helement
  | empty name | text raw | data s | aside =>
    obtain ⟨tree, htree⟩ := exists_treeOfEvent? htext
    have hitem := Items.nil.of_treeOfEvent? rfl htree
    refine ⟨_, opened, h.append hitem, rfl, fun ending rest => ?_⟩
    rw [treesFrom_of_treeOfEvent? rfl htree]
    cases tree <;> rfl

/-- **A run of the loop** over events whose texts can be unescaped gets to their end and keeps the
partial derivation. The induction is on the events, and each of them is a step. -/
theorem exists_run (h : Leaves read siblings opened) (htexts : TextsUnescape es)
    (hends : EndsMatch (opened.map Prod.fst) es) :
    ∃ siblings' opened', Leaves (read ++ es) siblings' opened' ∧
      ∀ ending rest, treesFrom siblings opened ending (es ++ rest) =
        treesFrom siblings' opened' ending rest := by
  induction es generalizing read siblings opened with
  | nil => exact ⟨siblings, opened, by rwa [List.append_nil], fun _ _ => rfl⟩
  | cons e es ih =>
    obtain ⟨htext, htexts⟩ := textsUnescape_cons.mp htexts
    obtain ⟨siblings₁, opened₁, h₁, hnames, hstep⟩ := exists_step h htext hends.1
    obtain ⟨siblings₂, opened₂, h₂, hrun⟩ := ih h₁ htexts (hnames ▸ hends.2)
    refine ⟨siblings₂, opened₂, ?_, fun ending rest => ?_⟩
    · rwa [List.append_assoc] at h₂
    · rw [List.cons_append, hstep, hrun]

end

/-! ### Faults -/

/-- A reading reports its first text that cannot be unescaped; without one, the fault of the reader;
without that, the innermost element that is open at the end. -/
inductive Reports : Reading → DocumentFault → Prop
  | reference {before after : List Event} {raw : String} {f : Markup.ReferenceFault}
    {ending : Ending} (hbefore : TextsUnescape before) (hraw : Markup.unescape raw = .error f) :
    Reports ⟨before ++ .text raw :: after, ending⟩ (.reference f)
  | markup {es : List Event} {f : Markup.Fault} {offset : Nat} (htexts : TextsUnescape es) :
    Reports ⟨es, .fault f offset⟩ (.markup f offset)
  | unclosed {before inside : List Event} {name : String}
    (htexts : TextsUnescape (before ++ .start name :: inside)) (hinside : Nested inside) :
    Reports ⟨before ++ .start name :: inside, .complete⟩ (.unclosedElement name)

/-- **Every document** has a reading by the grammar or a fault to report. Which of the two is
decided by its texts, by its end, and by what is still open there. -/
theorem exists_items_or_reports {r : Reading} (hends : EndsMatch [] r.events) :
    (r.ending = .complete ∧ ∃ ts, Items r.events ts) ∨ ∃ f, Reports r f := by
  obtain ⟨es, ending⟩ := r
  obtain htexts | ⟨before, raw, after, f, rfl, hbefore, hraw⟩ := textsUnescape_or_exists es
  · -- The stack that the loop ends with is either the reading or shows what is open.
    obtain ⟨siblings, opened, hleaves, -⟩ := exists_run .nil htexts hends
    rw [List.nil_append] at hleaves
    cases ending with
    | fault f offset => exact .inr ⟨_, .markup htexts⟩
    | complete =>
      cases hleaves with
      | top h => exact .inl ⟨rfl, _, h⟩
      | inside _ h => exact .inr ⟨_, .unclosed htexts h.nested⟩
  · exact .inr ⟨_, .reference hbefore hraw⟩

/-- The loop makes of a complete document what the grammar makes of it. It begins with an empty
stack and ends with one. -/
theorem treesOf_of_items {es : List Event} {ts : List Tree} (h : Items es ts) :
    treesOf ⟨es, .complete⟩ = .ok ts := by
  have hall := treesFrom_items h [] [] .complete []
  rw [List.append_nil, List.append_nil] at hall
  rw [treesOf, hall, treesFrom, List.reverse_reverse]

/-- The loop reports what there is to report. The cases are those of the faults, in the order in
which the loop meets them. -/
theorem treesOf_of_reports {r : Reading} {f : DocumentFault} (hends : EndsMatch [] r.events)
    (h : Reports r f) : treesOf r = .error f := by
  cases h with
  -- The texts before the faulty reference have been read, and the fault ends the descent there.
  | @reference before after raw f ending hbefore hraw =>
    obtain ⟨siblings, opened, -, hrun⟩ := exists_run .nil hbefore hends.of_append
    rw [treesOf, hrun, treesFrom, treeOfEvent?, hraw] <;> simp
  | @markup es f offset htexts =>
    obtain ⟨siblings, opened, -, hrun⟩ := exists_run .nil htexts hends
    have hend := hrun (.fault f offset) []
    rw [List.append_nil] at hend
    exact hend
  | @unclosed before inside name htexts hinside =>
    -- The elements inside the unclosed one are closed, so the descent comes back to it at the end
    -- of the input.
    obtain ⟨hbefore, hafter⟩ := textsUnescape_append.mp htexts
    obtain ⟨ts, hts⟩ := exists_items_of_nested hinside (textsUnescape_cons.mp hafter).2
    obtain ⟨siblings, opened, -, hrun⟩ := exists_run .nil hbefore hends.of_append
    have hitems := treesFrom_items hts [] ((name, siblings) :: opened) .complete []
    rw [List.append_nil] at hitems
    rw [treesOf, hrun, treesFrom, hitems]
    rfl

/-- The loop gives trees exactly where the grammar does. This is where the stack disappears from the
statements. -/
theorem treesOf_eq_ok_iff {r : Reading} {ts : List Tree} (hends : EndsMatch [] r.events) :
    treesOf r = .ok ts ↔ r.ending = .complete ∧ Items r.events ts := by
  constructor
  · intro htrees
    obtain ⟨hcomplete, us, hus⟩ | ⟨f, hf⟩ := exists_items_or_reports hends
    · obtain ⟨es, ending⟩ := r
      obtain rfl := hcomplete
      rw [treesOf_of_items hus] at htrees
      exact ⟨rfl, Except.ok.inj htrees ▸ hus⟩
    · rw [treesOf_of_reports hends hf] at htrees
      cases htrees
  · obtain ⟨es, ending⟩ := r
    rintro ⟨rfl, h⟩
    exact treesOf_of_items h

/-- The loop gives a fault exactly where there is one to report. So a document has one fault at
most. -/
theorem treesOf_eq_error_iff {r : Reading} {f : DocumentFault} (hends : EndsMatch [] r.events) :
    treesOf r = .error f ↔ Reports r f := by
  refine ⟨fun hfault => ?_, treesOf_of_reports hends⟩
  obtain ⟨hcomplete, ts, hts⟩ | ⟨g, hg⟩ := exists_items_or_reports hends
  · rw [(treesOf_eq_ok_iff hends).mpr ⟨hcomplete, hts⟩] at hfault
    cases hfault
  · rw [treesOf_of_reports hends hg] at hfault
    exact Except.error.inj hfault ▸ hg

/-! ### Documents -/

/-- The nodes of a document are made of its trees without the root. In this form the code is met;
below, the nodes are described by themselves. -/
theorem Document.ofReading_eq_ok_iff {r : Reading} {d : Document} :
    Document.ofReading r = .ok d ↔
      ∃ ts, treesOf r = .ok ts ∧ d = ⟨Tree.nodes (unwrapRoot ts)⟩ := by
  rw [Document.ofReading]
  cases treesOf r with
  | error f => exact ⟨nofun, nofun⟩
  | ok ts =>
    constructor
    · intro h
      exact ⟨ts, rfl, (Except.ok.inj h).symm⟩
    · rintro ⟨us, hus, rfl⟩
      exact Except.ok.inj hus ▸ rfl

/-- A document that has trees has nodes; so it has no faults but those of its trees. -/
theorem Document.ofReading_eq_error_iff {r : Reading} {f : DocumentFault} :
    Document.ofReading r = .error f ↔ treesOf r = .error f := by
  rw [Document.ofReading]
  cases treesOf r with
  | error g => exact ⟨fun h => Except.error.inj h ▸ rfl, fun h => Except.error.inj h ▸ rfl⟩
  | ok ts => exact ⟨nofun, nofun⟩

/-- The nodes of a document are what the trees of its events are converted to, without the root. The
relations say what the two functions of the reader do. -/
theorem Document.ofReading_eq_ok_iff_converts {r : Reading} {d : Document}
    (hends : EndsMatch [] r.events) : Document.ofReading r = .ok d ↔
      r.ending = .complete ∧
        ∃ ts us, Items r.events ts ∧ Unwraps ts us ∧ List.Forall₂ Converts us d.nodes := by
  simp only [ofReading_eq_ok_iff, treesOf_eq_ok_iff hends, unwraps_iff, forall₂_converts_iff]
  constructor
  · rintro ⟨ts, ⟨hcomplete, hitems⟩, rfl⟩
    exact ⟨hcomplete, ts, unwrapRoot ts, hitems, rfl, rfl⟩
  · rintro ⟨hcomplete, ts, us, hitems, rfl, hnodes⟩
    obtain ⟨ns⟩ := d
    exact ⟨ts, ⟨hcomplete, hitems⟩, congrArg Document.mk hnodes⟩

/-- **Reading with a stack is reading by recursion.** If end tags match, a document is read exactly
when it is complete, its texts can be unescaped and its events are nested. Then the grammar has one
reading for it, and its nodes are what the trees of that reading, without their root, are converted
to, one by one and in their order. Otherwise its first fault is reported, which is never that of an
end tag outside every element. -/
theorem Document.ofReading_eq_descent {r : Reading} (hends : EndsMatch [] r.events) :
    ((∃ d, Document.ofReading r = .ok d) ↔
      r.ending = .complete ∧ TextsUnescape r.events ∧ Nested r.events) ∧
    (∀ d, Document.ofReading r = .ok d ↔
      r.ending = .complete ∧
        ∃ ts us, Items r.events ts ∧ Unwraps ts us ∧ List.Forall₂ Converts us d.nodes) ∧
    (∀ ts us, Items r.events ts → Items r.events us → ts = us) ∧
    (∀ f, Document.ofReading r = .error f ↔ Reports r f) ∧
    ∀ name, Document.ofReading r ≠ .error (.unexpectedEnd name) := by
  have herror (f : DocumentFault) : Document.ofReading r = .error f ↔ Reports r f :=
    ofReading_eq_error_iff.trans (treesOf_eq_error_iff hends)
  refine ⟨?_, fun d => ofReading_eq_ok_iff_converts hends, fun ts us hts hus => ?_, herror,
    fun name h => ?_⟩
  · rw [← exists_items_iff]
    constructor
    · rintro ⟨d, hd⟩
      obtain ⟨ts, htrees, -⟩ := ofReading_eq_ok_iff.mp hd
      obtain ⟨hcomplete, hitems⟩ := (treesOf_eq_ok_iff hends).mp htrees
      exact ⟨hcomplete, ts, hitems⟩
    · rintro ⟨hcomplete, ts, hitems⟩
      have htrees : treesOf r = .ok ts := (treesOf_eq_ok_iff hends).mpr ⟨hcomplete, hitems⟩
      exact ⟨_, ofReading_eq_ok_iff.mpr ⟨ts, htrees, rfl⟩⟩
  · exact Except.ok.inj ((treesOf_of_items hts).symm.trans (treesOf_of_items hus))
  · cases (herror _).mp h

/-- A root behind a comment is taken off. What is in it keeps its order: a text, an entity without
the blank text in it, and an element that is ignored. The attribute list has the first text below
it, which is blank but marked as data. An element that is closed does not hide one that is not. -/
theorem Document.ofReading_rooted_and_unclosed :
    let rooted := Markup.read
      "<!-- --><p>a<entity> <attribute_list><b/><![CDATA[ ]]></attribute_list></entity><f/></p>"
    let unclosed := Markup.read "<template><entity>a<b></b>"
    (EndsMatch [] rooted.events ∧ Document.ofReading rooted =
      .ok ⟨[.literal "a", .entity [.attributeList (some " ")], .ignored "f"]⟩) ∧
    EndsMatch [] unclosed.events ∧
      Document.ofReading unclosed = .error (.unclosedElement "entity") := by
  intro rooted unclosed
  have hrooted : EndsMatch [] rooted.events := Markup.endsMatch_read _
  have hunclosed : EndsMatch [] unclosed.events := Markup.endsMatch_read _
  refine ⟨⟨hrooted, ?_⟩, hunclosed, ?_⟩
  · have hread : rooted = ⟨[.aside, .start "p", .text "a", .start "entity", .text " ",
        .start "attribute_list", .empty "b", .data " ", .stop "attribute_list", .stop "entity",
        .empty "f", .stop "p"], .complete⟩ := by
      decide +kernel
    have hlist : Items [.empty "b", .data " "] [.element "b" [], .text " "] := .empty (.data .nil)
    have hentity : Items [.text " ", .start "attribute_list", .empty "b", .data " ",
        .stop "attribute_list"] [.element "attribute_list" [.element "b" [], .text " "]] :=
      .blank rfl rfl (.element hlist .nil)
    have hroot : Items [.text "a", .start "entity", .text " ", .start "attribute_list",
        .empty "b", .data " ", .stop "attribute_list", .stop "entity", .empty "f"]
        [.text "a", .element "entity" [.element "attribute_list" [.element "b" [], .text " "]],
          .element "f" []] :=
      .text rfl rfl (.element hentity (.empty .nil))
    have hfirst : IsFirstText " " [.element "b" [], .text " "] :=
      ⟨[.element "b" []], [], rfl, fun u hu => nomatch List.mem_singleton.mp hu⟩
    have hnodes : List.Forall₂ Converts
        [.text "a", .element "entity" [.element "attribute_list" [.element "b" [], .text " "]],
          .element "f" []]
        [.literal "a", .entity [.attributeList (some " ")], .ignored "f"] :=
      .cons (.text "a") (.cons (.entity (.cons (.fragment hfirst) .nil))
        (.cons (.ignored [] (by decide) (by decide) (by decide)) .nil))
    refine ((Document.ofReading_eq_descent hrooted).2.1 _).mpr ?_
    rw [hread]
    exact ⟨rfl, _, _, .aside (.element hroot .nil), .root (by decide) (by decide), hnodes⟩
  · have hread : unclosed = ⟨[.start "template"] ++
        .start "entity" :: [.text "a", .start "b", .stop "b"], .complete⟩ := by decide +kernel
    have htexts : TextsUnescape ([.start "template"] ++
        .start "entity" :: [.text "a", .start "b", .stop "b"]) := by
      intro raw hraw
      obtain rfl : raw = "a" := by simpa using hraw
      exact ⟨"a", rfl⟩
    have hnested : Nested [.text "a", .start "b", .stop "b"] := .cons rfl (.element .nil .nil)
    refine ((Document.ofReading_eq_descent hunclosed).2.2.2.1 _).mpr ?_
    rw [hread]
    exact .unclosed htexts hnested

end Template

end EntityScript
