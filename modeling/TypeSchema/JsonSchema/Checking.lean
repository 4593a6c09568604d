import TypeSchema.Json.Writing
import TypeSchema.JsonSchema.Basic
import TypeSchema.JsonSchema.Emission

/-!
# Checking values against JSON Schemas

Which demands of a schema a JSON value fails to meet.  The keywords that types give rise to are
checked: types, bounds of numbers, of lengths and of counts, patterns, listed values, items,
properties and choices.  A keyword only speaks of values of its type.
-/

namespace TypeSchema

namespace JsonSchema

/-- A demand that a value fails to meet. -/
inductive Demand where
  | nothing
  | type (name : TypeName)
  | types (names : List TypeName)
  | minimum (limit : Json.Number)
  | maximum (limit : Json.Number)
  | minLength (limit : Nat)
  | maxLength (limit : Nat)
  | minItems (limit : Nat)
  | maxItems (limit : Nat)
  | pattern (source : String)
  | listed (values : List Json)
  | required (name : String)
  | noFurther (names : List String)
  | anyOf

/-- A value that fails to meet a demand, with the way to it. -/
structure Violation where
  path : List String
  value : Json
  demand : Demand

/-- A number of things. -/
def counted (n : Nat) (thing : String) : String :=
  Numeral.ofNat n ++ " " ++ thing ++ if n = 1 then "" else "s"

/-- The wording of a violation. -/
def Violation.message (v : Violation) : String :=
  let text := Json.compact v.value
  match v.demand with
  | .nothing => "False schema does not allow " ++ text
  | .type name => text ++ " is not of type " ++ Rejection.inQuotes name.word
  | .types names =>
    text ++ " is not of types " ++
    ", ".intercalate ((TypeName.all.filter (· ∈ names)).map fun n => Rejection.inQuotes n.word)
  | .minimum limit => text ++ " is less than the minimum of " ++ limit.text
  | .maximum limit => text ++ " is greater than the maximum of " ++ limit.text
  | .minLength n => text ++ " is shorter than " ++ counted n "character"
  | .maxLength n => text ++ " is longer than " ++ counted n "character"
  | .minItems n => text ++ " has less than " ++ counted n "item"
  | .maxItems n => text ++ " has more than " ++ counted n "item"
  | .pattern source => text ++ " does not match " ++ Rejection.inQuotes source
  | .listed values => text ++ " is not one of " ++ Json.compact (.array values)
  | .required name => Json.quoted name ++ " is a required property"
  | .noFurther names =>
    "Additional properties are not allowed (" ++
    ", ".intercalate (names.map fun n => "'" ++ n ++ "'") ++
    (if names.length = 1 then " was" else " were") ++ " unexpected)"
  | .anyOf => text ++ " is not valid under any of the schemas listed in the 'anyOf' keyword"

/-- A segment as it stands in a pointer. -/
def escapeSegment (s : String) : String :=
  String.ofList (s.toList.flatMap fun c =>
    match c with
    | '~' => ['~', '0']
    | '/' => ['~', '1']
    | c => [c])

/-- The way to the value, as a pointer. -/
def Violation.pointer (v : Violation) : String :=
  String.join (v.path.map fun s => "/" ++ escapeSegment s)

/-- The violation as seen from what encloses the value. -/
def Violation.within (segment : String) (v : Violation) : Violation :=
  { v with path := segment :: v.path }

/-- A violation of the value itself, unless the demand is met. -/
def demand (met : Bool) (v : Json) (d : Demand) : List Violation :=
  if met then [] else [⟨[], v, d⟩]

/-- The violation of a demand for a type. -/
def checkTypes (names : List TypeName) (v : Json) : List Violation :=
  match names with
  | [name] => demand (name.holds v) v (.type name)
  | names => demand (names.any (·.holds v)) v (.types names)

/-- The violations of a keyword that holds no schemas. -/
def checkPlain (keyword : String) (s v : Json) : List Violation :=
  match keyword, s, v with
  | "type", s, v => (((typeNames? s).map (checkTypes · v))).getD []
  | "minimum", .number limit, .number n => demand (!n.lt limit) v (.minimum limit)
  | "maximum", .number limit, .number n => demand (!limit.lt n) v (.maximum limit)
  | "minLength", s, .string t =>
    ((count? s).map fun n => demand (n ≤ t.length) v (.minLength n)).getD []
  | "maxLength", s, .string t =>
    ((count? s).map fun n => demand (t.length ≤ n) v (.maxLength n)).getD []
  | "minItems", s, .array items =>
    ((count? s).map fun n => demand (n ≤ items.length) v (.minItems n)).getD []
  | "maxItems", s, .array items =>
    ((count? s).map fun n => demand (items.length ≤ n) v (.maxItems n)).getD []
  | "pattern", .string p, .string t =>
    ((Regex.ofSchemaPattern p).map fun r => demand (r.isMatch t) v (.pattern p)).getD []
  | "enum", .array values, v => demand (values.any (Json.same · v)) v (.listed values)
  | "required", .array names, .object fields =>
    names.flatMap fun name =>
      match name with
      | .string n => demand (fields.any (·.1 = n)) v (.required n)
      | _ => []
  | _, _, _ => []

/-- The fields of an object; other values have none. -/
def fieldsOf : Json → List (String × Json)
  | .object fields => fields
  | _ => []

/-- The items of an array; other values have none. -/
def itemsOf : Json → List Json
  | .array items => items
  | _ => []

/-- The names of the properties that a schema describes. -/
def propertyNames (keywords : List (String × Json)) : Option (List String) :=
  (Fields.find? "properties" keywords).map fun p => (fieldsOf p).map (·.1)

/-- Properties are left to the keyword for further ones, where that speaks of values at all. -/
def furtherRules (keywords : List (String × Json)) : Bool :=
  match Fields.find? "additionalProperties" keywords with
  | some (.bool false) => true
  | some (.object _) => true
  | _ => false

/-- The violations of items, each behind its place. -/
def checkItems (check : Json → List Violation) (i : Nat) : List Json → List Violation
  | [] => []
  | v :: rest => (check v).map (·.within (Numeral.ofNat i)) ++ checkItems check (i + 1) rest

/-- The violations of fields, each behind its name. -/
def checkFields (check : String → Json → List Violation) (fields : List (String × Json)) :
    List Violation :=
  fields.flatMap fun (name, v) => (check name v).map (·.within name)

/-- The violations of the demand that there be no further properties. -/
def checkNoFurther (known : Option (List String)) (v : Json) : List Violation :=
  match known with
  | none => ((fieldsOf v).head?.map fun f => [⟨[], f.2, .nothing⟩]).getD []
  | some names =>
    match ((fieldsOf v).map (·.1)).filter (· ∉ names) with
    | [] => []
    | further => [⟨[], v, .noFurther further⟩]

mutual

/-- The demands of a schema that a value fails to meet. -/
def check : Json → Json → List Violation
  | .bool b, v => demand b v .nothing
  | .object keywords, v =>
    checkKeywords keywords (fun name w => checkProperty keywords name w) keywords v
  | _, _ => []

/-- The demands of keywords that a value fails to meet; `all` are the keywords of the schema, and
`property` checks the field of a name against the property of that name. -/
def checkKeywords (all : List (String × Json)) (property : String → Json → List Violation) :
    List (String × Json) → Json → List Violation
  | [], _ => []
  | (keyword, s) :: rest, v =>
    (match keyword with
      | "items" => checkItems (check s) 0 (itemsOf v)
      | "anyOf" => demand (meetsAny s v) v .anyOf
      | "properties" =>
        if furtherRules all then []
        else (fieldsOf s).flatMap fun (name, _) =>
          checkFields property ((fieldsOf v).filter (·.1 = name))
      | "additionalProperties" =>
        match s with
        | .bool true => []
        | .bool false => checkFields property (fieldsOf v) ++ checkNoFurther (propertyNames all) v
        | s =>
          checkFields
            (fun name w =>
              if ((propertyNames all).getD []).contains name then property name w else check s w)
            (fieldsOf v)
      | keyword => checkPlain keyword s v) ++
    checkKeywords all property rest v

/-- The demands that the property of a name makes of a value. -/
def checkProperty : List (String × Json) → String → Json → List Violation
  | [], _, _ => []
  | (keyword, s) :: rest, name, v =>
    if keyword = "properties" then checkNamed s name v else checkProperty rest name v

/-- The demands that the schema under a name makes of a value. -/
def checkNamed : Json → String → Json → List Violation
  | .object properties, name, v => checkField properties name v
  | _, _, _ => []

/-- The demands that the first schema under a name makes of a value. -/
def checkField : List (String × Json) → String → Json → List Violation
  | [], _, _ => []
  | (n, s) :: rest, name, v => if n = name then check s v else checkField rest name v

/-- The value meets one of the schemas of a list. -/
def meetsAny : Json → Json → Bool
  | .array alternatives, v => meetsOneOf alternatives v
  | _, _ => false

/-- The value meets one of the schemas. -/
def meetsOneOf : List Json → Json → Bool
  | [], _ => false
  | s :: rest, v => (check s v).isEmpty || meetsOneOf rest v

end

end JsonSchema

/-- Why a JSON value does not stand for a value of a type. -/
inductive PayloadError where
  /-- What should describe the values is no schema. -/
  | rejectedSchema
  | invalid (violations : List JsonSchema.Violation)

/-- The wording of an error. -/
def PayloadError.message : PayloadError → String
  | .rejectedSchema => "emitted JSON Schema was rejected"
  | .invalid violations =>
    "validation failed with " ++ Numeral.ofNat violations.length ++ " error(s)"

/-- The exit code of a program that ends with the error. -/
def PayloadError.exitCode : PayloadError → Nat
  | .rejectedSchema => 2
  | .invalid _ => 1

/-- A JSON value meets all demands of a schema. -/
def Json.checkAgainst (payload schema : Json) : Except PayloadError Unit :=
  if JsonSchema.isSchema schema then
    match JsonSchema.check schema payload with
    | [] => .ok ()
    | violations => .error (.invalid violations)
  else .error .rejectedSchema

/-- A JSON value stands for a value of the type. -/
def ValueType.checkPayload (t : ValueType) (payload : Json) : Except PayloadError Unit :=
  payload.checkAgainst t.jsonSchema

end TypeSchema
