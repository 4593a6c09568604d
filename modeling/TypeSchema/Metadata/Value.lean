import TypeSchema.Double.Shortest
import TypeSchema.Text.Quoted

/-!
# Metadata values

What a tag of a declaration can hold.
-/

namespace TypeSchema

/-- The value of a tag. -/
inductive Metadata.Value where
  | string (s : String)
  | integer (i : Int64)
  | number (d : Double)
  | bool (b : Bool)
  | list (items : List String)
deriving DecidableEq, Repr

/-- The type of value that a tag takes.  A number may be written as an integer. -/
inductive Metadata.Host where
  | string
  | integer
  | number
  | bool
  | list
deriving DecidableEq, Repr

namespace Metadata

/-- The word for a type of value. -/
def Host.word : Host → String
  | .string => "string"
  | .integer => "integer"
  | .number => "number"
  | .bool => "bool"
  | .list => "list"

/-- The type of a value. -/
def Value.host : Value → Host
  | .string _ => .string
  | .integer _ => .integer
  | .number _ => .number
  | .bool _ => .bool
  | .list _ => .list

/-- A tag that takes values of the type takes this one. -/
def Host.accepts (h : Host) (v : Value) : Bool :=
  h == v.host || (h == .number && v.host == .integer)

/-- The text of a value; texts stand between quotes. -/
def Value.text : Value → String
  | .string s => Text.quoted s
  | .integer i => Numeral.ofInt i.toInt
  | .number d => d.text
  | .bool b => if b then "true" else "false"
  | .list items => "[" ++ ", ".intercalate (items.map Text.quoted) ++ "]"

end Metadata

end TypeSchema
