import TypeSchema.Unicode.Names
import TypeSchema.Unicode.CaseMap

/-!
# Regular expressions

What a regular expression means: which stretches of a text it matches.  A part of the text is given
by two positions, counted in characters.  Of the ways in which an expression can match, those that
come first in the order of its branches, and those that repeat more (or less, where a repetition is
lazy), are preferred; only captures depend on that.
-/

namespace TypeSchema

/-- Conditions on a position in a text; the flag asks for ASCII word characters. -/
inductive Regex.Condition where
  | textStart
  | textEnd
  | lineStart
  | lineEnd
  | lineStartCrlf
  | lineEndCrlf
  | wordBoundary (ascii : Bool)
  | notWordBoundary (ascii : Bool)
  | wordStart (ascii : Bool)
  | wordEnd (ascii : Bool)
  | wordStartHalf (ascii : Bool)
  | wordEndHalf (ascii : Bool)
deriving DecidableEq, Repr

/-- A regular expression. -/
inductive Regex where
  | empty
  /-- One character of a set. -/
  | chars (rs : Unicode.Ranges)
  | condition (c : Regex.Condition)
  | seq (a b : Regex)
  | alt (a b : Regex)
  /-- At least `min` times, and at most `max` times if that is given. -/
  | rep (r : Regex) (min : Nat) (max : Option Nat) (lazy : Bool)
  /-- Remember what `r` matches. -/
  | capture (name : String) (r : Regex)
deriving DecidableEq, Repr, Inhabited

namespace Regex

/-- The character at a position, if the text goes on there. -/
def after? (text : Array Char) (i : Nat) : Option Char := text[i]?

/-- The character before a position, unless the text starts there. -/
def before? (text : Array Char) (i : Nat) : Option Char :=
  match i with
  | 0 => none
  | j + 1 => text[j]?

/-- An ASCII letter or digit, or the underscore. -/
def isAsciiWord (c : Char) : Bool := c.isAlphanum || c = '_'

/-- A character of words. -/
def isWord (ascii : Bool) (c : Char) : Bool :=
  if ascii || c.toNat < 0x80 then isAsciiWord c else Unicode.wordCharacters.has c.toNat

/-- The condition holds at a position. -/
def Condition.holds (c : Condition) (text : Array Char) (i : Nat) : Bool :=
  let before := before? text i
  let after := after? text i
  match c with
  | .textStart => i = 0
  | .textEnd => i = text.size
  | .lineStart => before.all (· = '\n')
  | .lineEnd => after.all (· = '\n')
  | .lineStartCrlf => before.all (· = '\n') || (before = some '\r' && after ≠ some '\n')
  | .lineEndCrlf => after.all (· = '\r') || (after = some '\n' && before ≠ some '\r')
  | .wordBoundary a => before.any (isWord a) != after.any (isWord a)
  | .notWordBoundary a => before.any (isWord a) == after.any (isWord a)
  | .wordStart a => !before.any (isWord a) && after.any (isWord a)
  | .wordEnd a => before.any (isWord a) && !after.any (isWord a)
  | .wordStartHalf a => !before.any (isWord a)
  | .wordEndHalf a => !after.any (isWord a)

/-! ## Which texts match -/

/-- Ascending positions put together, each once. -/
def merge : List Nat → List Nat → List Nat
  | [], b => b
  | a, [] => a
  | x :: xs, y :: ys =>
    if x < y then x :: merge xs (y :: ys)
    else if y < x then y :: merge (x :: xs) ys
    else x :: merge xs ys
termination_by a b => a.length + b.length

/-- Apply a step `n` times; once it changes nothing, no further step does. -/
def stepTimes (step : List Nat → List Nat) : Nat → List Nat → List Nat
  | 0, s => s
  | n + 1, s =>
    let s' := step s
    if s' = s then s else stepTimes step n s'

/-- All positions that up to `n` steps lead to; once a step adds none, no further step does. -/
def stepUpTo (step : List Nat → List Nat) : Nat → List Nat → List Nat
  | 0, s => s
  | n + 1, s =>
    let s' := merge s (step s)
    if s' = s then s else stepUpTo step n s'

/-- The positions at which a match that starts at one of the positions `s` can end. -/
def ends (text : Array Char) : Regex → List Nat → List Nat
  | .empty, s => s
  | .chars rs, s =>
    s.filterMap fun i =>
      match text[i]? with
      | some c => if rs.has c.toNat then some (i + 1) else none
      | none => none
  | .condition c, s => s.filter (c.holds text)
  | .seq a b, s => ends text b (ends text a s)
  | .alt a b, s => merge (ends text a s) (ends text b s)
  | .rep r min max _, s =>
    let least := stepTimes (ends text r) min s
    match max with
    | some m => stepUpTo (ends text r) (m - min) least
    | none => stepUpTo (ends text r) (text.size + 1) least
  | .capture _ r, s => ends text r s

/-- A part of the text matches. -/
def isMatch (r : Regex) (text : String) : Bool :=
  let cs := text.toList.toArray
  !(ends cs r (List.range (cs.size + 1))).isEmpty

/-! ## What groups capture -/

/-- What the groups of a match hold, by their names. -/
abbrev Captures := List (String × List Char)

/-- The positions and captures that up to `n` repetitions lead to, preferred ones first.  A
repetition that takes no character is not repeated. -/
def repetitions (step : Nat → Captures → List (Nat × Captures)) (lazy : Bool) :
    Nat → Nat → Captures → List (Nat × Captures)
  | 0, i, caps => [(i, caps)]
  | n + 1, i, caps =>
    let further := (step i caps).flatMap fun (j, caps') =>
      if i < j then repetitions step lazy n j caps' else []
    if lazy then (i, caps) :: further else further ++ [(i, caps)]

/-- The ways in which a match that starts at `i` can end, preferred ones first. -/
def ways (text : Array Char) : Regex → Nat → Captures → List (Nat × Captures)
  | .empty, i, caps => [(i, caps)]
  | .chars rs, i, caps =>
    match text[i]? with
    | some c => if rs.has c.toNat then [(i + 1, caps)] else []
    | none => []
  | .condition c, i, caps => if c.holds text i then [(i, caps)] else []
  | .seq a b, i, caps => (ways text a i caps).flatMap fun (j, caps') => ways text b j caps'
  | .alt a b, i, caps => ways text a i caps ++ ways text b i caps
  | .rep r min max lazy, i, caps =>
    (repeatTimes (ways text r) min i caps).flatMap fun (j, caps') =>
      repetitions (ways text r) lazy
        (match max with
          | some m => m - min
          | none => text.size + 1) j caps'
  | .capture name r, i, caps =>
    (ways text r i caps).map fun (j, caps') =>
      (j, (name, (text.extract i j).toList) :: caps')
where
  /-- The ways of exactly `n` repetitions. -/
  repeatTimes (step : Nat → Captures → List (Nat × Captures)) :
      Nat → Nat → Captures → List (Nat × Captures)
    | 0, i, caps => [(i, caps)]
    | n + 1, i, caps => (step i caps).flatMap fun (j, caps') => repeatTimes step n j caps'

/-- The captures of the preferred match that starts first. -/
def captures? (r : Regex) (text : String) : Option Captures :=
  let cs := text.toList.toArray
  (List.range (cs.size + 1)).findSome? fun i => ((ways cs r i []).head?).map (·.2)

/-- What a group holds after a match. -/
def Captures.get? (caps : Captures) (name : String) : Option (List Char) :=
  (caps.find? (·.1 = name)).map (·.2)

/-- The expression between the start and the end of a text. -/
def anchored (r : Regex) : Regex :=
  .seq (.condition .textStart) (.seq r (.condition .textEnd))

end Regex

end TypeSchema
