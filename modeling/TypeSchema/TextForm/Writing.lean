import TypeSchema.TextForm.Basic
import TypeSchema.ValueType.Validation

/-!
# Writing texts

The one text that is written for a value.  A value that its type rejects has none, nor has a date
whose year has no four digits.
-/

namespace TypeSchema

/-- A date with a year of four digits. -/
def checkYear (d : Date) : Except SchemaError Unit :=
  if d.hasFourDigitYear then .ok () else .error (.invalidValue (.here (.yearForm d.year)))

/-- The text of a path: every separator is a slash. -/
def Path.slashedText (p : Path) : String :=
  String.ofList (p.text.toList.map fun c => if c = '\\' then '/' else c)

/-- The value is of another type than the kind asks for. -/
def unwritable (expected : String) (v : Value) : Except SchemaError String :=
  .error (.invalidValue (.here (.mismatch expected v.typeName)))

mutual

/-- The text of a single value of a kind. -/
def Kind.textOf (files : FileTree) : Kind → Value → Except SchemaError String
  | .bool, v => match v with
    | .bool b => .ok (if b then "true" else "false")
    | v => unwritable "bool" v
  | .int _, v => match v with
    | .int i => .ok (Numeral.ofInt i.toInt)
    | v => unwritable "int" v
  | .number _, v => match v with
    | .float d => .ok d.text
    | .int i => .ok (Double.ofInt i.toInt).text
    | v => unwritable "number" v
  | .string _, v => match v with
    | .string s => .ok s
    | v => unwritable "string" v
  | .enumeration _, v => match v with
    | .string s => .ok s
    | v => unwritable "string" v
  | .date, v => match v with
    | .date d => do checkYear d; return d.text
    | v => unwritable "date" v
  | .time, v => match v with
    | .time t => .ok t.text
    | v => unwritable "time" v
  | .dateTime, v => match v with
    | .dateTime dt => do checkYear dt.date; return dt.text
    | v => unwritable "datetime" v
  | .duration, v => match v with
    | .duration d => .ok d.text
    | v => unwritable "duration" v
  | .guid, v => match v with
    | .guid g => .ok g.text
    | v => unwritable "guid" v
  | .uri, v => match v with
    | .uri u => .ok u.text
    | v => unwritable "uri" v
  | .filename _, v => match v with
    | .path p => .ok p.slashedText
    | v => unwritable "path" v
  | .directory _, v => match v with
    | .path p => .ok p.slashedText
    | v => unwritable "path" v
  | .object _ _, _ => .error (.unsupported .classText .api)
  | .dict _ _, _ => .error (.unsupported .dictionaryText .api)
  | .anyOf alternatives, v => ValueType.firstTextOf files alternatives v

/-- The text of a value under the first alternative that accepts it as a single value. -/
def ValueType.firstTextOf (files : FileTree) : List ValueType → Value → Except SchemaError String
  | [], v => unwritable "a value accepted by one of the alternatives" v
  | .mk kind arity hook :: rest, v =>
    match (ValueType.mk kind arity hook).validateItem files v with
    | .ok _ => kind.textOf files v
    | .error _ => ValueType.firstTextOf files rest v

end

/-- The text of a single value that the type accepts. -/
def ValueType.writeText (files : FileTree) (t : ValueType) (v : Value) :
    Except SchemaError String :=
  match t.validateItem files v with
  | .ok _ => t.kind.textOf files v
  | .error r => .error (.invalidValue r)

end TypeSchema
