import TypeSchema.Json.Comparison
import TypeSchema.Regex.AsciiShorthand

/-!
# Which values are JSON Schemas

A schema is true, false, or an object whose known keywords have values of the right form.  A pattern
has to be a regular expression.
-/

namespace TypeSchema.JsonSchema

/-- A type of JSON values. -/
inductive TypeName where
  | array | boolean | integer | null | number | object | string
deriving DecidableEq, Repr

/-- The word for a type. -/
def TypeName.word : TypeName → String
  | .array => "array"
  | .boolean => "boolean"
  | .integer => "integer"
  | .null => "null"
  | .number => "number"
  | .object => "object"
  | .string => "string"

/-- All types in alphabetical order. -/
def TypeName.all : List TypeName := [.array, .boolean, .integer, .null, .number, .object, .string]

/-- The type of a word. -/
def TypeName.ofWord? (s : String) : Option TypeName := TypeName.all.find? (·.word = s)

/-- The value is of the type.  Numbers without a fraction are integers. -/
def TypeName.holds : TypeName → Json → Bool
  | .array, .array _ => true
  | .boolean, .bool _ => true
  | .integer, .number n => n.isWhole
  | .null, .null => true
  | .number, .number _ => true
  | .object, .object _ => true
  | .string, .string _ => true
  | _, _ => false

/-- The form of the value of a keyword. -/
inductive Form where
  | text
  | switch
  | number
  | positive
  /-- A whole number that is not negative. -/
  | count
  | pattern
  | types
  | anything
  | values
  /-- Strings, each once. -/
  | names
  | schema
  /-- At least one schema. -/
  | schemas
  /-- Schemas under names. -/
  | schemaMap
  /-- Schemas under patterns. -/
  | patternMap
  /-- Strings, each once, under names. -/
  | namesMap
deriving DecidableEq, Repr

/-- The form of the value of a keyword that is known. -/
def Form.ofKeyword? (s : String) : Option Form :=
  if s ∈ ["title", "description", "$comment", "format", "contentEncoding", "contentMediaType",
      "$id", "$schema", "$ref", "$anchor", "$dynamicRef", "$dynamicAnchor"] then some .text
  else if s ∈ ["uniqueItems", "deprecated", "readOnly", "writeOnly"] then some .switch
  else if s ∈ ["minimum", "maximum", "exclusiveMinimum", "exclusiveMaximum"] then some .number
  else if s = "multipleOf" then some .positive
  else if s ∈ ["minLength", "maxLength", "minItems", "maxItems", "minProperties", "maxProperties",
      "minContains", "maxContains"] then some .count
  else if s = "pattern" then some .pattern
  else if s = "type" then some .types
  else if s ∈ ["const", "default"] then some .anything
  else if s ∈ ["enum", "examples"] then some .values
  else if s = "required" then some .names
  else if s ∈ ["items", "additionalProperties", "contains", "propertyNames", "not", "if", "then",
      "else", "unevaluatedItems", "unevaluatedProperties", "contentSchema"] then some .schema
  else if s ∈ ["anyOf", "allOf", "oneOf", "prefixItems"] then some .schemas
  else if s ∈ ["properties", "dependentSchemas", "$defs", "definitions"] then some .schemaMap
  else if s = "patternProperties" then some .patternMap
  else if s = "dependentRequired" then some .namesMap
  else none

/-- A string that names a type. -/
def typeName? : Json → Option TypeName
  | .string s => TypeName.ofWord? s
  | _ => none

/-- The types that a value names, one or several. -/
def typeNames? : Json → Option (List TypeName)
  | .array items =>
    match items.mapM typeName? with
    | some names => if names ≠ [] ∧ names.Nodup then some names else none
    | none => none
  | j => (typeName? j).map ([·])

/-- A whole number that is not negative. -/
def count? : Json → Option Nat
  | .number n =>
    if n.isWhole && 0 ≤ n.ratio.1 then some (n.ratio.1.toNat / n.ratio.2) else none
  | _ => none

/-- Strings, each once. -/
def names? : Json → Option (List String)
  | .array items =>
    match items.mapM (fun j => match j with
      | .string s => some s
      | _ => none) with
    | some names => if names.Nodup then some names else none
    | none => none
  | _ => none

/-- The value has a form that holds no schemas. -/
def Form.holds (f : Form) (j : Json) : Bool :=
  match f, j with
  | .text, .string _ => true
  | .switch, .bool _ => true
  | .number, .number _ => true
  | .positive, .number n => 0 < n.ratio.1
  | .count, j => (count? j).isSome
  | .pattern, .string s => (Regex.ofSchemaPattern s).isSome
  | .types, j => (typeNames? j).isSome
  | .anything, _ => true
  | .values, .array _ => true
  | .names, j => (names? j).isSome
  | .namesMap, .object fields => fields.all fun f => (names? f.2).isSome
  | _, _ => false

mutual

/-- The value is a schema. -/
def isSchema : Json → Bool
  | .bool _ => true
  | .object fields => areKeywords fields
  | _ => false

/-- Fields are keywords with values of the right form, or unknown. -/
def areKeywords : List (String × Json) → Bool
  | [] => true
  | (name, v) :: rest =>
    (match Form.ofKeyword? name with
      | none => true
      | some .schema => isSchema v
      | some .schemas => isSchemaList v
      | some .schemaMap => isSchemaMap v
      | some .patternMap => isSchemaMap v
      | some f => f.holds v) && areKeywords rest

/-- The value is a list of schemas that is not empty. -/
def isSchemaList : Json → Bool
  | .array [] => false
  | .array items => areSchemas items
  | _ => false

/-- All items are schemas. -/
def areSchemas : List Json → Bool
  | [] => true
  | j :: rest => isSchema j && areSchemas rest

/-- The value is an object whose fields are schemas. -/
def isSchemaMap : Json → Bool
  | .object fields => areFieldSchemas fields
  | _ => false

/-- The values of all fields are schemas. -/
def areFieldSchemas : List (String × Json) → Bool
  | [] => true
  | (_, v) :: rest => isSchema v && areFieldSchemas rest

end

end TypeSchema.JsonSchema
