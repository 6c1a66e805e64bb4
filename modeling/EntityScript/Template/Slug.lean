import EntityScript.Text.Blank
import EntityScript.Text.Case
import EntityScript.Text.Occurrence

/-!
# Slugs

A slug is a placeholder in a text: an opener, the keyword of a scope, perhaps a modifier, and the
name of a property in parentheses. Blanks may stand after the keywords and anywhere in the name.

`Spelling` is a slug as it is written, part by part, and `Spelling.parse?` reads one. `passages`
divides a text into its slugs and the characters between them, from left to right; where an opener
starts no slug, the search goes on after the opener. `scan` gives the slugs with byte offsets.
-/

namespace EntityScript

namespace Template

/-! ### Scopes and modifiers -/

/-- The kind of record that a slug reads from. -/
inductive SlugScope where
  /-- The current entity. -/
  | ent
  /-- The current attribute. -/
  | attr
deriving DecidableEq, Repr

/-- What is done to the value of a property before it is inserted. -/
inductive Modifier where
  | identity
  | upper
  | lower
  /-- The first character in upper case. -/
  | title
  /-- The type of the attribute in scripts. -/
  | dataType
  /-- The name of the attribute in the web interface. -/
  | webApi
deriving DecidableEq, Repr

namespace Modifier

/-- The keyword of a modifier; none for the identity. -/
def keyword : Modifier → String
  | identity => ""
  | upper => "upper"
  | lower => "lower"
  | title => "title"
  | dataType => "dt"
  | webApi => "api"

/-- All modifiers. -/
def all : List Modifier :=
  [identity, upper, lower, title, dataType, webApi]

/-- The modifier of a keyword. -/
def ofKeyword? (s : String) : Option Modifier :=
  all.find? (·.keyword == s)

/-- The text after the modifier. Type and web name need the attribute and leave a text as it is. -/
def apply : Modifier → String → String
  | upper, s => Text.uppercase s
  | lower, s => Text.lowercase s
  | title, s => Text.titlecase s
  | identity, s | dataType, s | webApi, s => s

end Modifier

namespace SlugScope

/-- The keyword of a scope. -/
def keyword : SlugScope → String
  | ent => "ent"
  | attr => "attr"

/-- The name of a scope in messages. -/
def name : SlugScope → String
  | ent => "entity"
  | attr => "attribute"

/-- The modifiers that have a keyword in the scope. -/
def modifiers : SlugScope → List Modifier
  | ent => [.upper, .lower, .title]
  | attr => [.upper, .lower, .title, .dataType, .webApi]

end SlugScope

/-! ### Spellings -/

/-- The characters that open a slug. -/
def opener : List Char :=
  ['\x7b', '#']

/-- The characters that close a slug. -/
def closer : List Char :=
  [')', '#', '\x7d']

/-- A slug as it is written. -/
structure Spelling where
  scope : SlugScope
  /-- The blanks after the keyword of the scope. -/
  gap : List Char
  modifier : Modifier
  /-- The blanks after the keyword of the modifier. -/
  modifierGap : List Char
  /-- What stands between the parentheses. -/
  inner : List Char
deriving DecidableEq, Repr

namespace Spelling

/-- The text of a slug. -/
def toList (w : Spelling) : List Char :=
  opener ++ w.scope.keyword.toList ++ w.gap ++ w.modifier.keyword.toList ++ w.modifierGap ++
    '(' :: w.inner ++ closer

/-- The name of the property: what stands between the parentheses, without blanks and in lower
case. -/
def property (w : Spelling) : String :=
  String.ofList (Text.lower (w.inner.filter (!Text.isBlank ·)))

end Spelling

/-- The text after `p`, if it starts with `p`. -/
def dropPrefix? (p s : List Char) : Option (List Char) :=
  if p.isPrefixOf s then some (s.drop p.length) else none

/-- The text before the first closer and the text after it. -/
def splitAtCloser : List Char → Option (List Char × List Char)
  | [] => none
  | c :: s =>
    match dropPrefix? closer (c :: s) with
    | some rest => some ([], rest)
    | none => (splitAtCloser s).map fun (inner, rest) => (c :: inner, rest)

/-- Reads the keyword of a scope. -/
def readScope (s : List Char) : Option (SlugScope × List Char) :=
  match dropPrefix? SlugScope.attr.keyword.toList s with
  | some rest => some (.attr, rest)
  | none => (dropPrefix? SlugScope.ent.keyword.toList s).map fun rest => (.ent, rest)

/-- Reads the keyword of the modifier, if the blanks after it end at a parenthesis. -/
def readKeyword (m : Modifier) (s : List Char) : Option (Modifier × List Char × List Char) :=
  match dropPrefix? m.keyword.toList s with
  | none => none
  | some rest =>
    match Text.trimStart rest with
    | '(' :: body => some (m, rest.takeWhile Text.isBlank, '(' :: body)
    | _ => none

/-- Reads a modifier of the scope and the blanks after it; the identity if there is none. -/
def readModifier (scope : SlugScope) (s : List Char) : Modifier × List Char × List Char :=
  (scope.modifiers.findSome? (readKeyword · s)).getD (.identity, [], s)

/-- Reads a slug after its opener, and gives the text after it. -/
def Spelling.parse? (s : List Char) : Option (Spelling × List Char) := do
  let (scope, s) ← readScope s
  let gap := s.takeWhile Text.isBlank
  let m := readModifier scope (Text.trimStart s)
  let body ← dropPrefix? ['('] m.2.2
  let (inner, rest) ← splitAtCloser body
  if inner.contains '\n' then none
  else some (⟨scope, gap, m.1, m.2.1, inner⟩, rest)

/-! ### Slugs of a text -/

/-- A slug at a place in a text. -/
structure Slug where
  spelling : Spelling
  /-- The byte offset of the opener. -/
  start : Nat
deriving DecidableEq, Repr

namespace Slug

/-- The scope that the slug reads from. -/
def scope (g : Slug) : SlugScope :=
  g.spelling.scope

/-- The modifier of the slug. -/
def modifier (g : Slug) : Modifier :=
  g.spelling.modifier

/-- The name of the property. -/
def property (g : Slug) : String :=
  g.spelling.property

/-- The slug as it is written. -/
def raw (g : Slug) : String :=
  String.ofList g.spelling.toList

/-- The byte offset after the closer. -/
def stop (g : Slug) : Nat :=
  g.start + Text.byteLength g.spelling.toList

end Slug

/-- What is left after a prefix is shorter by its length. -/
theorem length_of_dropPrefix? {p s rest : List Char} (h : dropPrefix? p s = some rest) :
    rest.length + p.length = s.length := by
  simp only [dropPrefix?] at h
  split at h
  · next hp =>
    obtain ⟨t, rfl⟩ := List.isPrefixOf_iff_prefix.mp hp
    simp only [Option.some.injEq, List.drop_left] at h
    subst h
    simp only [List.length_append]
    omega
  · cases h

/-- Less text is left behind a closer. -/
theorem length_of_splitAtCloser {s inner rest : List Char}
    (h : splitAtCloser s = some (inner, rest)) : rest.length < s.length := by
  induction s generalizing inner with
  | nil => cases h
  | cons c s ih =>
    simp only [splitAtCloser] at h
    split at h
    · next r hr =>
      simp only [Option.some.injEq, Prod.mk.injEq] at h
      obtain ⟨-, rfl⟩ := h
      have := length_of_dropPrefix? hr
      simp only [closer, List.length_cons, List.length_nil] at this
      simp only [List.length_cons]
      omega
    · simp only [Option.map_eq_some_iff, Prod.exists, Prod.mk.injEq] at h
      obtain ⟨inner', rest', h, -, rfl⟩ := h
      have := ih h
      simp only [List.length_cons]
      omega

/-- Reading the keyword of a scope leaves less text. -/
theorem length_readScope {s rest : List Char} {scope : SlugScope}
    (h : readScope s = some (scope, rest)) : rest.length < s.length := by
  simp only [readScope] at h
  split at h
  · next r hr =>
    simp only [Option.some.injEq, Prod.mk.injEq] at h
    obtain ⟨-, rfl⟩ := h
    have := length_of_dropPrefix? hr
    have : SlugScope.attr.keyword.toList.length = 4 := by decide
    omega
  · simp only [Option.map_eq_some_iff, Prod.mk.injEq] at h
    obtain ⟨r, hr, -, rfl⟩ := h
    have := length_of_dropPrefix? hr
    have : SlugScope.ent.keyword.toList.length = 3 := by decide
    omega

/-- Reading a modifier takes nothing away from behind it; there may be none to read. -/
theorem length_readModifier (scope : SlugScope) (s : List Char) :
    (readModifier scope s).2.2.length ≤ s.length := by
  simp only [readModifier]
  cases h : scope.modifiers.findSome? (readKeyword · s) with
  | none => simp
  | some r =>
    obtain ⟨m, -, hr⟩ := List.exists_of_findSome?_eq_some h
    simp only [readKeyword] at hr
    split at hr
    · cases hr
    · next rest hrest =>
      have h₁ := length_of_dropPrefix? hrest
      have h₂ := Text.length_trimStart_le rest
      split at hr
      · next body hbody =>
        simp only [Option.some.injEq] at hr
        subst hr
        rw [hbody] at h₂
        simp only [Option.getD_some]
        omega
      · cases hr

/-- Reading a slug leaves less text. By this measure the search for passages comes to an end. -/
theorem length_parse? {s rest : List Char} {w : Spelling}
    (h : Spelling.parse? s = some (w, rest)) : rest.length < s.length := by
  simp only [Spelling.parse?, Option.bind_eq_bind, Option.bind_eq_some_iff, Prod.exists] at h
  obtain ⟨scope, s₁, h₁, body, h₂, inner, rest', h₃, h₄⟩ := h
  split at h₄
  · cases h₄
  · simp only [Option.some.injEq, Prod.mk.injEq] at h₄
    obtain ⟨-, rfl⟩ := h₄
    have l₁ := length_readScope h₁
    have l₂ := Text.length_trimStart_le s₁
    have l₃ := length_readModifier scope (Text.trimStart s₁)
    have l₄ := length_of_dropPrefix? h₂
    have l₅ := length_of_splitAtCloser h₃
    omega

/-! ### Passages -/

/-- What a text consists of: slugs, and the characters between them. -/
inductive Passage where
  | plain (c : Char)
  | slug (w : Spelling)
deriving DecidableEq, Repr

/-- The text of a passage. -/
def Passage.toList : Passage → List Char
  | plain c => [c]
  | slug w => w.toList

/-- The passages of a text, from left to right. -/
def passages (s : List Char) : List Passage :=
  match s with
  | [] => []
  | c :: rest =>
    match _opened : dropPrefix? opener (c :: rest) with
    | none => .plain c :: passages rest
    | some body =>
      match _read : Spelling.parse? body with
      | some (w, after) => .slug w :: passages after
      -- The opener is text then, and what stands behind it is searched again.
      | none => opener.map .plain ++ passages body
termination_by s.length
decreasing_by
  · simp
  · have := length_of_dropPrefix? _opened
    have := length_parse? _read
    simp only [opener, List.length_cons, List.length_nil] at *
    omega
  · have := length_of_dropPrefix? _opened
    simp only [opener, List.length_cons, List.length_nil] at *
    omega

/-- The slugs among passages, the first of which begins at the byte offset `start`. -/
def slugsFrom (start : Nat) : List Passage → List Slug
  | [] => []
  | .plain c :: ps => slugsFrom (start + c.utf8Size) ps
  | .slug w :: ps => ⟨w, start⟩ :: slugsFrom (start + Text.byteLength w.toList) ps

/-- The slugs of a text, from left to right. -/
def scan (s : String) : List Slug :=
  slugsFrom 0 (passages s.toList)

end Template

end EntityScript
