import TypeSchema.Json.Writing
import TypeSchema.JsonSchema.Emission
import TypeSchema.Dsl
import TypeSchema.XmlSchema

/-!
# Formats

The formats in which a type can be written down, with the names they go by.
-/

namespace TypeSchema

/-- A format for types. -/
inductive Format where
  | jsonSchema
  | xmlSchema
  | dsl
deriving DecidableEq, Repr

namespace Format

/-- The format of a name. -/
def ofName? : String → Option Format
  | "json" => some .jsonSchema
  | "json-schema" => some .jsonSchema
  | "xml" => some .xmlSchema
  | "xsd" => some .xmlSchema
  | "xml-schema" => some .xmlSchema
  | "dsl" => some .dsl
  | _ => none

/-- The wording for a name that no format has. -/
def unknownMessage (name : String) : String :=
  "unknown format " ++ Rejection.inQuotes name ++ " (expected json, xml or dsl)"

/-- A type in the format. -/
def render (f : Format) (t : ValueType) : String :=
  match f with
  | .jsonSchema => Json.pretty 0 t.jsonSchema
  | .xmlSchema => t.xmlSchema
  | .dsl => t.dsl

/-- A single value of a type in the format; JSON stands on one line. -/
def renderItem (f : Format) (t : ValueType) : String :=
  match f with
  | .jsonSchema => Json.compact t.kind.jsonSchema
  | .xmlSchema => t.kind.xmlSchema
  | .dsl => t.kind.dsl

end Format

end TypeSchema
