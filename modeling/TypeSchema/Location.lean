import TypeSchema.Text.Numeral

/-!
# Locations

Where a declaration, a tag or an error comes from: a source, and a line and column in it that
count from one.  Line zero stands for the source as a whole.
-/

namespace TypeSchema

/-- A place in a source. -/
structure Location where
  source : String
  line : Nat
  column : Nat
deriving DecidableEq, Repr, Inhabited

namespace Location

/-- The place of whatever is made by a call and not read from a source. -/
def api : Location := ⟨"<api>", 0, 0⟩

/-- A line or a column as it is kept: the greatest number of 32 bits stands for those beyond. -/
def counted (n : Nat) : Nat := min n (UInt32.size - 1)

/-- The place in the text of a source that comes after `n` characters. -/
def after (source : String) (text : List Char) (n : Nat) : Location :=
  let before := text.take n
  ⟨source, counted (before.count '\n' + 1),
    counted ((before.reverse.takeWhile (· ≠ '\n')).length + 1)⟩

/-- The text of a location: the source alone for line zero. -/
def text (l : Location) : String :=
  if l.line = 0 then l.source
  else l.source ++ ":" ++ Numeral.ofNat l.line ++ ":" ++ Numeral.ofNat l.column

/-- `l`, or `other` where `l` is the place of a call. -/
def orElse (l other : Location) : Location :=
  if l = api then other else l

end Location

end TypeSchema
