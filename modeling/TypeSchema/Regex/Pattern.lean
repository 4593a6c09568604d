import TypeSchema.Regex.Meaning
import TypeSchema.Regex.Reading
import TypeSchema.Regex.Size

/-!
# Patterns

A pattern is a regular expression that a whole text has to match.  The source is put between
anchors as it stands, so it is the source with its anchors that has to be an expression.
-/

namespace TypeSchema

namespace Regex

/-- The matcher of an expression, unless it has no meaning or is too large. -/
def ofExpression (ignoreCase : Bool) (e : Expression) : Option Regex := do
  let (r, _) ← e.meaning (Flags.initial ignoreCase)
  if r.bytes ≤ maxBytes then some r else none

/-- The matcher of a text that writes an expression. -/
def ofChars (ignoreCase : Bool) (cs : List Char) : Option Regex := do
  let e ← Expression.ofChars cs
  ofExpression ignoreCase e

end Regex

/-- A regular expression for whole texts. -/
structure Pattern where
  source : String
  regex : Regex

namespace Pattern

/-- A source between its anchors. -/
def anchoredText (source : String) : List Char :=
  "^(?:".toList ++ source.toList ++ ")$".toList

/-- An expression between its anchors. -/
def anchored (e : Regex.Expression) : Regex.Expression :=
  .sequence (.anchor .caret) (.sequence (.group (.flags []) e) (.anchor .dollar))

/-- The pattern of a source. -/
def ofSource (source : String) : Option Pattern :=
  (Regex.ofChars false (anchoredText source)).map (⟨source, ·⟩)

/-- The text as a whole matches. -/
def isFullMatch (p : Pattern) (text : String) : Bool :=
  p.regex.isMatch text

end Pattern

end TypeSchema
