/-!
# Fundamental kinds

The kinds of value that need no declaration, with the keywords that name them.
-/

namespace TypeSchema

/-- A kind that is built in. -/
inductive Fundamental where
  | bool | int | number | string | enumeration | date | time | dateTime | duration | guid | uri
  | filename | directory
deriving DecidableEq, Repr

namespace Fundamental

/-- The keyword of a kind. -/
def keyword : Fundamental → String
  | .bool => "bool"
  | .int => "int"
  | .number => "number"
  | .string => "string"
  | .enumeration => "enum"
  | .date => "date"
  | .time => "time"
  | .dateTime => "datetime"
  | .duration => "duration"
  | .guid => "guid"
  | .uri => "uri"
  | .filename => "filename"
  | .directory => "directory"

/-- All kinds, in the order in which they are listed. -/
def all : List Fundamental :=
  [.bool, .int, .number, .string, .enumeration, .date, .time, .dateTime, .duration, .guid, .uri,
    .filename, .directory]

/-- The kind of a keyword. -/
def ofKeyword? (s : String) : Option Fundamental := all.find? (·.keyword = s)

/-- Reading the keyword of a kind gives it back. -/
theorem ofKeyword?_keyword (k : Fundamental) : ofKeyword? k.keyword = some k := by
  cases k <;> decide

end Fundamental

end TypeSchema
