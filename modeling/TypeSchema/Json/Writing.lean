import TypeSchema.Json
import TypeSchema.Double.Shortest

/-!
# Writing JSON

Values as text, on one line or indented by two spaces.  Doubles have the fewest digits that read
back and always show that they are doubles, by a point or by a power of ten.
-/

namespace TypeSchema.Json

/-- Doubles from `1e-5` to below `1e16` show their digits in place, others a power of ten. -/
def numberLayout : Double.Layout := ⟨some (-5), some 15, ".0", .even⟩

/-- The text of a number. -/
def Number.text : Number → String
  | .int i => Numeral.ofInt i
  | .float d => if d.isFinite then numberLayout.text d else "null"

/-- The hexadecimal digit of a number below sixteen. -/
def hexDigit (n : Nat) : Char :=
  if n < 10 then Char.ofNat ('0'.toNat + n) else Char.ofNat ('a'.toNat + n - 10)

/-- A character as it stands in a string. -/
def escapeChar (c : Char) : List Char :=
  match c with
  | '"' => ['\\', '"']
  | '\\' => ['\\', '\\']
  | '\x08' => ['\\', 'b']
  | '\x0c' => ['\\', 'f']
  | '\n' => ['\\', 'n']
  | '\r' => ['\\', 'r']
  | '\t' => ['\\', 't']
  | c =>
    if c.toNat < 0x20 then ['\\', 'u', '0', '0', hexDigit (c.toNat / 16), hexDigit (c.toNat % 16)]
    else [c]

/-- A string between quotes. -/
def quoted (s : String) : String :=
  String.ofList ('"' :: s.toList.flatMap escapeChar ++ ['"'])

mutual

/-- The text of a value on one line, without spaces. -/
def compact : Json → String
  | .null => "null"
  | .bool b => if b then "true" else "false"
  | .number n => n.text
  | .string s => quoted s
  | .array items => "[" ++ compactItems items ++ "]"
  | .object fields => "\x7b" ++ compactFields fields ++ "\x7d"

/-- Items with commas between them. -/
def compactItems : List Json → String
  | [] => ""
  | [j] => compact j
  | j :: rest => compact j ++ "," ++ compactItems rest

/-- Fields with commas between them. -/
def compactFields : List (String × Json) → String
  | [] => ""
  | [(n, j)] => quoted n ++ ":" ++ compact j
  | (n, j) :: rest => quoted n ++ ":" ++ compact j ++ "," ++ compactFields rest

end

/-- A new line at a depth of indentation. -/
def newLine (depth : Nat) : String :=
  String.ofList ('\n' :: List.replicate (2 * depth) ' ')

mutual

/-- The text of a value over several lines, its own lines indented by `depth` steps. -/
def pretty (depth : Nat) : Json → String
  | .array [] => "[]"
  | .array items => "[" ++ prettyItems (depth + 1) items ++ newLine depth ++ "]"
  | .object [] => "\x7b\x7d"
  | .object fields => "\x7b" ++ prettyFields (depth + 1) fields ++ newLine depth ++ "\x7d"
  | .null => "null"
  | .bool b => if b then "true" else "false"
  | .number n => n.text
  | .string s => quoted s

/-- Items on lines of their own. -/
def prettyItems (depth : Nat) : List Json → String
  | [] => ""
  | [j] => newLine depth ++ pretty depth j
  | j :: rest => newLine depth ++ pretty depth j ++ "," ++ prettyItems depth rest

/-- Fields on lines of their own. -/
def prettyFields (depth : Nat) : List (String × Json) → String
  | [] => ""
  | [(n, j)] => newLine depth ++ quoted n ++ ": " ++ pretty depth j
  | (n, j) :: rest =>
    newLine depth ++ quoted n ++ ": " ++ pretty depth j ++ "," ++ prettyFields depth rest

end

end TypeSchema.Json
