import TypeSchema.Calendar.Duration
import TypeSchema.Calendar.Time
import TypeSchema.Double
import TypeSchema.Guid
import TypeSchema.Path
import TypeSchema.Uri

/-!
# Values

The values that types accept.  The fields of an object and the entries of a map stand in ascending
order of their names, each name once.
-/

namespace TypeSchema

/-- A value. -/
inductive Value where
  /-- Nothing; it stands for a value that is not there. -/
  | null
  | bool (b : Bool)
  | int (i : Int64)
  | float (d : Double)
  | string (s : String)
  | date (d : Date)
  | time (t : Time)
  | dateTime (dt : DateTime)
  | duration (d : Duration)
  | guid (g : Guid)
  | uri (u : Uri)
  | path (p : Path)
  | list (items : List Value)
  /-- An instance of a class. -/
  | object (fields : List (String × Value))
  /-- A dictionary. -/
  | map (entries : List (String × Value))

namespace Value

instance : Inhabited Value := ⟨.null⟩

/-- The word for the type of a value. -/
def typeName : Value → String
  | .null => "null"
  | .bool _ => "bool"
  | .int _ => "int"
  | .float _ => "float"
  | .string _ => "string"
  | .date _ => "date"
  | .time _ => "time"
  | .dateTime _ => "datetime"
  | .duration _ => "duration"
  | .guid _ => "guid"
  | .uri _ => "uri"
  | .path _ => "path"
  | .list _ => "list"
  | .object _ => "object"
  | .map _ => "map"

/-- The value is nothing. -/
def isNull : Value → Bool
  | .null => true
  | _ => false

/-- The items of a list. -/
def items? : Value → Option (List Value)
  | .list items => some items
  | _ => none

end Value

end TypeSchema
