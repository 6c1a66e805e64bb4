import EntityScript.Unicode.Binary
import EntityScript.Unicode.Category
import EntityScript.Unicode.CharSet

/-!
# Expressions

A regular expression after its flags and classes have been worked out: sets of characters,
conditions on places, sequence, choice and repetition. `Matches` says between which places of a
text an expression matches. `ends` computes all places where a match that starts at one of several
places can end, each step at most once for every place, so that no choice is ever tried twice.
-/

namespace EntityScript

namespace Regex

open Unicode (CharSet)

/-! ### Expressions and places -/

/-- A condition on a place in the text. Words are made of Unicode or of ASCII characters. -/
inductive Look where
  | startText
  | endText
  | startLine
  | endLine
  /-- Before a line, where a carriage return also ends one. -/
  | startLineCr
  | endLineCr
  | boundary (unicode : Bool)
  | notBoundary (unicode : Bool)
  | wordStart (unicode : Bool)
  | wordEnd (unicode : Bool)
  | wordStartHalf (unicode : Bool)
  | wordEndHalf (unicode : Bool)
deriving DecidableEq, Repr

/-- A regular expression. -/
inductive Expr where
  | empty
  | set (s : CharSet)
  | look (l : Look)
  | concat (a b : Expr)
  | alternate (a b : Expr)
  /-- At least `min` and at most `max` times. -/
  | repetition (min : Nat) (max : Option Nat) (a : Expr)
  | capture (a : Expr)
deriving Repr

/-- The characters of words. -/
def wordSet : CharSet :=
  CharSet.normalize <|
    CharSet.ofText Unicode.propertyAlphabetic.written ++
      Unicode.categoriesSet [Unicode.categoryMn, Unicode.categoryMc, Unicode.categoryMe,
        Unicode.categoryNd, Unicode.categoryPc] ++
      CharSet.ofText Unicode.propertyJoinControl.written

/-- The characters of words in ASCII. -/
def asciiWordSet : CharSet :=
  [(0x30, 0x39), (0x41, 0x5A), (0x5F, 0x5F), (0x61, 0x7A)]

/-- The character is part of a word. -/
def isWordChar (unicode : Bool) (c : Char) : Bool :=
  if c.toNat < 0x80 then asciiWordSet.contains c else unicode && wordSet.contains c

/-- The condition holds between the two characters at a place, if there are any. -/
def Look.holds (before after : Option Char) : Look → Bool
  | .startText => before.isNone
  | .endText => after.isNone
  | .startLine => before.all (· = '\n')
  | .endLine => after.all (· = '\n')
  | .startLineCr => before.all fun c => c = '\n' || (c = '\r' && after != some '\n')
  | .endLineCr => after.all fun c => c = '\r' || (c = '\n' && before != some '\r')
  | .boundary u => before.any (isWordChar u) != after.any (isWordChar u)
  | .notBoundary u => before.any (isWordChar u) == after.any (isWordChar u)
  | .wordStart u => !before.any (isWordChar u) && after.any (isWordChar u)
  | .wordEnd u => before.any (isWordChar u) && !after.any (isWordChar u)
  | .wordStartHalf u => !before.any (isWordChar u)
  | .wordEndHalf u => !after.any (isWordChar u)

/-- The character before a place. -/
def charBefore? (text : Array Char) (i : Nat) : Option Char :=
  if i = 0 then none else text[i - 1]?

/-! ### Meaning -/

/-- The expression matches the part of the text between two places. -/
inductive Matches (text : Array Char) : Expr → Nat → Nat → Prop where
  | empty {i} : Matches text .empty i i
  | set {s i c} : text[i]? = some c → s.contains c = true → Matches text (.set s) i (i + 1)
  | look {l i} : l.holds (charBefore? text i) text[i]? = true → Matches text (.look l) i i
  | concat {a b i j k} : Matches text a i j → Matches text b j k → Matches text (.concat a b) i k
  | left {a b i j} : Matches text a i j → Matches text (.alternate a b) i j
  | right {a b i j} : Matches text b i j → Matches text (.alternate a b) i j
  | stop {max a i} : Matches text (.repetition 0 max a) i i
  | more {max a i j k} : max ≠ some 0 → Matches text a i j →
      Matches text (.repetition 0 (max.map (· - 1)) a) j k → Matches text (.repetition 0 max a) i k
  | required {min max a i j k} : max ≠ some 0 → Matches text a i j →
      Matches text (.repetition min (max.map (· - 1)) a) j k →
      Matches text (.repetition (min + 1) max a) i k
  | capture {a i j} : Matches text a i j → Matches text (.capture a) i j

/-! ### Sets of places -/

/-- The places of both lists; ascending lists give an ascending list. -/
def mergePlaces : List Nat → List Nat → List Nat
  | [], js => js
  | is, [] => is
  | i :: is, j :: js =>
    if i < j then i :: mergePlaces is (j :: js)
    else if j < i then j :: mergePlaces (i :: is) js
    else i :: mergePlaces is js
termination_by is js => is.length + js.length

/-- The places of the first list that are not in the second; both lists are ascending. -/
def removePlaces : List Nat → List Nat → List Nat
  | [], _ => []
  | is, [] => is
  | i :: is, j :: js =>
    if i < j then i :: removePlaces is (j :: js)
    else if j < i then removePlaces (i :: is) js
    else removePlaces is js
termination_by is js => is.length + js.length

/-- The places after exactly `count` steps; they stay once a step changes nothing. -/
def iterateSteps (step : List Nat → List Nat) : Nat → List Nat → List Nat
  | 0, places => places
  | count + 1, places =>
    let next := step places
    if next == places then places else iterateSteps step count next

/-- All places within `count` more steps, when `seen` have been reached and `latest` are those
reached last. -/
def closeSteps (step : List Nat → List Nat) :
    Nat → (seen latest : List Nat) → List Nat
  | 0, seen, _ => seen
  | count + 1, seen, latest =>
    match removePlaces (step latest) seen with
    | [] => seen
    | new => closeSteps step count (mergePlaces seen new) new

/-- Where the matches end that start at one of the places. -/
def Expr.ends (text : Array Char) : Expr → List Nat → List Nat
  | .empty, places => places
  | .set s, places =>
    places.filterMap fun i =>
      match text[i]? with
      | some c => if s.contains c then some (i + 1) else none
      | none => none
  | .look l, places => places.filter fun i => l.holds (charBefore? text i) text[i]?
  | .concat a b, places => b.ends text (a.ends text places)
  | .alternate a b, places => mergePlaces (a.ends text places) (b.ends text places)
  | .repetition min max a, places =>
    let start := iterateSteps (a.ends text) min places
    -- Without a bound, every round but the last reaches a new place of the text.
    let rounds := match max with
      | some max => max - min
      | none => text.size + 1
    closeSteps (a.ends text) rounds start start
  | .capture a, places => a.ends text places

/-- The expression matches some part of the text. -/
def Expr.isMatch (e : Expr) (text : List Char) : Bool :=
  let text := text.toArray
  !(e.ends text (List.range (text.size + 1))).isEmpty

end Regex

end EntityScript
