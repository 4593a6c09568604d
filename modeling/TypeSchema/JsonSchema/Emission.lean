import TypeSchema.Json
import TypeSchema.ValueType.Constraints

/-!
# JSON Schema

The JSON Schema of a type: which JSON values stand for its values.  Collections are arrays; a type
that may hold at most one value is described like one that holds exactly one, and only the list of
required members tells them apart.
-/

namespace TypeSchema

namespace JsonSchema

/-- What durations look like. -/
def durationPattern : String := "^-?(?:\\d+\\.)?\\d\x7b1,2\x7d:[0-5]?\\d:[0-5]?\\d(?:\\.\\d\x7b1,9\x7d)?$"

/-- The field for the type of a value. -/
def typeField (name : String) : String × Json := ("type", .string name)

/-- A field, if there is something to say. -/
def bound {α : Type} (name : String) (v : Option α) (write : α → Json) : List (String × Json) :=
  match v with
  | some a => [(name, write a)]
  | none => []

/-- A string of a format. -/
def formatted (format : String) : Json :=
  .object [typeField "string", ("format", .string format)]

/-- A string that is not empty. -/
def nonEmpty : Json := .object [typeField "string", ("minLength", .ofNat 1)]

/-- An integer; the width stands in for a bound that is not given. -/
def ofIntLimits (l : IntLimits) : Json :=
  .object (typeField "integer" ::
    bound "minimum" (l.min.or (l.widthBounds.map (·.1))) (.ofInt ·.toInt) ++
    bound "maximum" (l.max.or (l.widthBounds.map (·.2))) (.ofInt ·.toInt))

/-- A number. -/
def ofNumberLimits (l : NumberLimits) : Json :=
  .object (typeField "number" :: bound "minimum" l.min .ofDouble ++ bound "maximum" l.max .ofDouble)

/-- A string; the pattern is put between anchors, for it has to match as a whole. -/
def ofStringLimits (l : StringLimits) : Json :=
  .object (typeField "string" ::
    (if 0 < l.minLength then [("minLength", .ofNat l.minLength.toNat)] else []) ++
    bound "maxLength" l.maxLength (.ofNat ·.toNat) ++
    bound "pattern" l.expression fun p => .string ("^(?:" ++ p.source ++ ")$"))

/-- One of some strings. -/
def ofValues (values : List String) : Json :=
  .object [typeField "string", ("enum", .array (values.map .string))]

/-- The members that have to be there, in ascending order of their names. -/
def requiredNames (members : List Member) : List String :=
  ((members.filter fun m => m.type.arity.min ≠ 0).map (·.name)).mergeSort (fun a b => !(b < a))

/-- An object with members, once these have been described. -/
def ofProperties (properties : List (String × Json)) (members : List Member) (exact : Bool) : Json :=
  .object ([typeField "object", ("properties", .object properties)] ++
    (match requiredNames members with
      | [] => []
      | names => [("required", .array (names.map .string))]) ++
    if exact then [("additionalProperties", .bool false)] else [])

/-- A collection of items; at least one item is no less than what collections have anyway. -/
def collected (a : Arity) (item : Json) : Json :=
  if a.isCollection then
    .object ([typeField "array", ("items", item)] ++
      (if 1 < a.min then [("minItems", .ofNat a.min.toNat)] else []) ++
      bound "maxItems" a.max (.ofNat ·.toNat))
  else item

end JsonSchema

open JsonSchema

mutual

/-- The JSON Schema of a type. -/
def ValueType.jsonSchema : ValueType → Json
  | .mk kind arity _ => collected arity kind.jsonSchema

/-- The JSON Schema of a single value of a kind. -/
def Kind.jsonSchema : Kind → Json
  | .bool => .object [typeField "boolean"]
  | .int l => ofIntLimits l
  | .number l => ofNumberLimits l
  | .string l => ofStringLimits l
  | .enumeration l => ofValues l.values
  | .date => formatted "date"
  | .time => formatted "time"
  | .dateTime => formatted "date-time"
  | .duration => .object [typeField "string", ("pattern", .string durationPattern)]
  | .guid => formatted "uuid"
  | .uri => formatted "uri"
  | .filename _ => nonEmpty
  | .directory _ => nonEmpty
  | .object members exact => ofProperties (Member.jsonProperties members) members exact
  | .dict members exact => ofProperties (Member.jsonProperties members) members exact
  | .anyOf alternatives => .object [("anyOf", .array (ValueType.jsonSchemas alternatives))]

/-- The JSON Schemas of members under their names. -/
def Member.jsonProperties : List Member → List (String × Json)
  | [] => []
  | .mk name type :: rest => (name, type.jsonSchema) :: Member.jsonProperties rest

/-- The JSON Schemas of types. -/
def ValueType.jsonSchemas : List ValueType → List Json
  | [] => []
  | t :: rest => t.jsonSchema :: ValueType.jsonSchemas rest

end

end TypeSchema
