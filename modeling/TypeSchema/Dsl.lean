import TypeSchema.ValueType.Constraints

/-!
# Angle brackets

Types in the angle brackets of schema sources.  A single value is written `<kind tag=value>`, and an
arity other than one stands before the closing bracket.  The header of a class or dictionary with
members ends in a colon, and the members follow on lines of their own, indented by four spaces.
-/

namespace TypeSchema

namespace Dsl

/-- A string between quotes. -/
def quoted (s : String) : String :=
  String.ofList
    ('"' :: s.toList.flatMap (fun c => if c = '\\' ∨ c = '"' then ['\\', c] else [c]) ++ ['"'])

/-- Strings between brackets. -/
def quotedList (items : List String) : String :=
  "[" ++ ", ".intercalate (items.map quoted) ++ "]"

/-- A tag and its value, behind a blank. -/
def tag (name value : String) : String := " " ++ name ++ "=" ++ value

/-- A tag, if there is something to say. -/
def bound {α : Type} (name : String) (v : Option α) (text : α → String) : String :=
  match v with
  | some a => tag name (text a)
  | none => ""

/-- A tag for a switch that is on. -/
def switch (name : String) (on : Bool) : String := if on then tag name "true" else ""

/-- A kind with its tags. -/
def header (keyword tags : String) : String := "<" ++ keyword ++ tags ++ ">"

/-- The stretches of a text between line feeds: the first one, and those that follow. -/
def pieces : List Char → List Char × List (List Char)
  | [] => ([], [])
  | c :: cs =>
    let (first, rest) := pieces cs
    if c = '\n' then ([], first :: rest) else (c :: first, rest)

/-- A line without the carriage return at its end. -/
def withoutReturn (line : List Char) : List Char :=
  match line.reverse with
  | '\r' :: before => before.reverse
  | _ => line

/-- Stretches as lines: the last one is a line only if there is something in it, and only the others
end in a line feed, which a carriage return may precede. -/
def linesOf : List Char → List (List Char) → List (List Char)
  | last, [] => if last = [] then [] else [last]
  | line, next :: rest => withoutReturn line :: linesOf next rest

/-- The lines of a text. -/
def lines (cs : List Char) : List (List Char) :=
  linesOf (pieces cs).1 (pieces cs).2

/-- A text with an arity before the last closing bracket of its first line. -/
def withArity (a : Arity) (cs : List Char) : List Char :=
  let first := cs.takeWhile (· ≠ '\n')
  let rest := cs.dropWhile (· ≠ '\n')
  match first.reverse.span (· ≠ '>') with
  | (after, '>' :: before) =>
    before.reverse ++ ' ' :: a.text.toList ++ '>' :: after.reverse ++ rest
  | _ => cs

/-- A text under its arity; one value is not said. -/
def collected (a : Arity) (s : String) : String :=
  if a.isSingle then s else String.ofList (withArity a s.toList)

/-- Four spaces. -/
def indent : List Char := [' ', ' ', ' ', ' ']

/-- The lines of a member: its name stands behind the opening bracket of the first, and all are
indented. -/
def memberLines (name : String) (rendered : String) : List Char :=
  match lines rendered.toList with
  | [] => []
  | first :: rest =>
    indent ++ '<' :: name.toList ++ ' ' :: first.dropWhile (· = '<') ++
    rest.flatMap fun line => '\n' :: indent ++ line

/-- Characters without those at the end that are `c`. -/
def trimEnd (c : Char) (cs : List Char) : List Char :=
  (cs.reverse.dropWhile (· = c)).reverse

/-- What stands between the brackets of the first line. -/
def headOf (rendered : String) : List Char :=
  match lines rendered.toList with
  | [] => []
  | first :: _ => trimEnd '>' ((trimEnd ':' first).dropWhile (· = '<'))

/-- The tags of the limits on integers. -/
def intTags (l : IntLimits) : String :=
  bound "min" l.min (Numeral.ofInt ·.toInt) ++ bound "max" l.max (Numeral.ofInt ·.toInt) ++
  bound "bytes" l.bytes (Numeral.ofNat ·.toNat)

/-- The tags of the limits on numbers. -/
def numberTags (l : NumberLimits) : String :=
  bound "min" l.min Double.text ++ bound "max" l.max Double.text

/-- The tags of the limits on strings. -/
def stringTags (l : StringLimits) : String :=
  bound "validation_expression" l.expression (quoted ·.source) ++
  (if l.minLength = StringLimits.initial.minLength then ""
    else tag "min_length" (Numeral.ofNat l.minLength.toNat)) ++
  bound "max_length" l.maxLength (Numeral.ofNat ·.toNat)

/-- The tags of an enumeration. -/
def enumTags (l : EnumLimits) : String :=
  tag "values" (quotedList l.values) ++ bound "friendly_values" l.friendly quotedList

/-- A header with members, which have been written already. -/
def withMembers (keyword : String) (exact : Bool) (members : List Char) : String :=
  let head := header keyword (switch "require_exact_match" exact)
  if members.isEmpty then head else head ++ ":" ++ String.ofList members

end Dsl

open Dsl

mutual

/-- The notation of a type. -/
def ValueType.dsl : ValueType → String
  | .mk kind arity _ => collected arity kind.dsl

/-- The notation of a single value of a kind. -/
def Kind.dsl : Kind → String
  | .bool => header "bool" ""
  | .int l => header "int" (intTags l)
  | .number l => header "number" (numberTags l)
  | .string l => header "string" (stringTags l)
  | .enumeration l => header "enum" (enumTags l)
  | .date => header "date" ""
  | .time => header "time" ""
  | .dateTime => header "datetime" ""
  | .duration => header "duration" ""
  | .guid => header "guid" ""
  | .uri => header "uri" ""
  | .filename l =>
    header "filename" (switch "ensure_exists" l.ensureExists ++ switch "match_any" l.matchAny)
  | .directory e => header "directory" (switch "ensure_exists" e)
  | .object members exact => withMembers "class" exact (Member.dslLines members)
  | .dict members exact => withMembers "dict" exact (Member.dslLines members)
  | .anyOf alternatives =>
    "<(" ++ " | ".intercalate ((ValueType.dslHeads alternatives).map String.ofList) ++ ")>"

/-- The lines of members, each behind a line feed. -/
def Member.dslLines : List Member → List Char
  | [] => []
  | .mk name type :: rest => '\n' :: memberLines name type.dsl ++ Member.dslLines rest

/-- What stands between the brackets of alternatives; members are not repeated. -/
def ValueType.dslHeads : List ValueType → List (List Char)
  | [] => []
  | t :: rest => headOf t.dsl :: ValueType.dslHeads rest

end

end TypeSchema
