import TypeSchema.Regex.Pattern

/-!
# Shorthand classes of ASCII characters

In patterns of JSON Schemas the shorthand classes for digits and for word characters stand for ASCII
characters only, and the one for blanks stands for a short list.
-/

namespace TypeSchema.Regex

/-- The characters of a shorthand class, as items between brackets. -/
def Shorthand.asciiItems : Shorthand → List ClassItem
  | .digit => [.range '0' '9' false]
  | .word =>
    [.range 'A' 'Z' false, .range 'a' 'z' false, .range '0' '9' false, .char '_' .plain]
  | .space =>
    [' ', '\t', '\n', '\r', '\x0b', '\x0c', '\u00a0', '\ufeff', '\u2003', '\u2029'].map
      (.char · .plain)

mutual

/-- The item without shorthand classes. -/
def ClassItem.spelledOut : ClassItem → ClassItem
  | .shorthand kind negated => .nested negated (.items kind.asciiItems)
  | .nested negated body => .nested negated body.spelledOut
  | .char c s => .char c s
  | .range lo hi byte => .range lo hi byte
  | .ascii kind negated => .ascii kind negated
  | .unicode name negated => .unicode name negated

/-- The set without shorthand classes. -/
def ClassSet.spelledOut : ClassSet → ClassSet
  | .items list => .items (ClassItem.allSpelledOut list)
  | .operation op lhs rhs => .operation op lhs.spelledOut rhs.spelledOut

/-- The items without shorthand classes. -/
def ClassItem.allSpelledOut : List ClassItem → List ClassItem
  | [] => []
  | i :: rest => i.spelledOut :: ClassItem.allSpelledOut rest

end

/-- The expression without shorthand classes. -/
def Expression.spelledOut : Expression → Expression
  | .shorthand kind negated => .bracket negated (.items kind.asciiItems)
  | .bracket negated body => .bracket negated body.spelledOut
  | .group kind body => .group kind body.spelledOut
  | .repeated body count lazy => .repeated body.spelledOut count lazy
  | .sequence first rest => .sequence first.spelledOut rest.spelledOut
  | .either first second => .either first.spelledOut second.spelledOut
  | e => e

/-- The matcher of a pattern of a JSON Schema. -/
def ofSchemaPattern (source : String) : Option Regex := do
  let e ← Expression.ofChars source.toList
  ofExpression false e.spelledOut

end TypeSchema.Regex
