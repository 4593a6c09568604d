import TypeSchema.Regex.Basic

/-!
# The size of a matcher

How many bytes a matcher for an expression takes, roughly: a state for each byte that can be
matched, with as many copies of a repeated part as it is counted.  Expressions beyond a limit are
refused.
-/

namespace TypeSchema.Regex

/-- The longest stretch that an expression matches is the empty one. -/
def matchesOnlyEmpty : Regex → Bool
  | .empty => true
  | .chars _ => false
  | .condition _ => true
  | .seq a b => matchesOnlyEmpty a && matchesOnlyEmpty b
  | .alt a b => matchesOnlyEmpty a && matchesOnlyEmpty b
  | .rep r _ max _ => matchesOnlyEmpty r || max == some 0
  | .capture _ r => matchesOnlyEmpty r

/-- The number of bytes of a code point's encoding. -/
def encodedLength (n : Nat) : Nat :=
  if n < 0x80 then 1 else if n < 0x800 then 2 else if n < 0x10000 then 3 else 4

/-- The bytes of one state. -/
def stateBytes : Nat := 32

/-- The bytes for one character of a set. -/
def setBytes (rs : Unicode.Ranges) : Nat :=
  match rs with
  | [(lo, hi)] => if lo = hi then stateBytes * encodedLength lo else stateBytes + 8 * encodedLength hi
  | rs => stateBytes + rs.foldr (fun (_, hi) n => (if hi < 0x80 then 8 else 60) + n) 0

/-- The bytes of a matcher. -/
def bytes : Regex → Nat
  | .empty => stateBytes
  | .chars rs => setBytes rs
  | .condition _ => stateBytes
  | .seq a b => bytes a + bytes b
  | .alt a b => bytes a + bytes b + 2 * stateBytes
  | .rep r min max _ =>
    let least := if matchesOnlyEmpty r then Nat.min min 1 else min
    match max with
    | none => Nat.max least 1 * bytes r + 2 * stateBytes
    | some m =>
      let most := if matchesOnlyEmpty r then Nat.min m 1 else m
      least * bytes r + (most - least) * (bytes r + stateBytes) + stateBytes
  | .capture _ r => bytes r + 2 * stateBytes

/-- The limit on the bytes of a matcher. -/
def maxBytes : Nat := 10 * 1024 * 1024

end TypeSchema.Regex
