import TypeSchema.Regex.Pattern
import TypeSchema.TextForm.Shape
import TypeSchema.ValueType.Constraints

/-!
# Text forms

The texts that stand for values of a type, as a list of forms in the order in which they are tried.
Classes and dictionaries have none; a choice has those of its alternatives.
-/

namespace TypeSchema

/-- How the value of a text that has a form is read. -/
inductive TextForm.Reader where
  | bool (b : Bool)
  | int
  | number
  | string
  /-- One of the accepted texts; the value stands at its place among the values. -/
  | enumeration (accepted values : List String)
  | date
  | time
  | dateTime
  | duration
  | guid
  | uri
  | path

/-- A form of texts. -/
structure TextForm where
  /-- The regular expression that the whole text has to match, as written. -/
  source : String
  ignoreCase : Bool
  regex : Regex
  reader : TextForm.Reader

namespace TextForm

/-- The form of texts that an expression describes. -/
def ofExpression (e : Regex.Expression) (ignoreCase : Bool) (reader : Reader) :
    Except SchemaError TextForm :=
  match Regex.ofExpression ignoreCase (Pattern.anchored e) with
  | some r => .ok ⟨String.ofList e.text, ignoreCase, r, reader⟩
  | none => .error (.constraint ["validation_expression"] .expression)

/-- The text as a whole has the form. -/
def isMatch (f : TextForm) (text : String) : Bool := f.regex.isMatch text

/-- The expression of a form, with a remark if case does not count. -/
def text (f : TextForm) : String :=
  if f.ignoreCase then f.source ++ " (case-insensitive)" else f.source

/-- The forms of strings: what the pattern describes, or anything at all that is not too short. -/
def ofStringLimits (l : StringLimits) : Except SchemaError TextForm :=
  match l.expression with
  | some p => .ok ⟨p.source, false, p.regex, .string⟩
  | none => ofExpression (anything (if l.minLength = 0 then .many else .more)) false .string

/-- The forms of enumerations: the values themselves, and their friendly names. -/
def ofEnumLimits (l : EnumLimits) : Except SchemaError (List TextForm) := do
  let values ← ofExpression (choice l.values) true (.enumeration l.values l.values)
  match l.friendly with
  | none => return [values]
  | some names =>
    return [values, ← ofExpression (choice names) true (.enumeration names l.values)]

/-- The forms of integers; the width stands in for a bound that is not given. -/
def ofIntLimits (l : IntLimits) : Except SchemaError TextForm :=
  ofExpression
    (int (l.min.or (l.widthBounds.map (·.1))) (l.max.or (l.widthBounds.map (·.2)))) false .int

end TextForm

mutual

/-- The forms of texts for single values of a type. -/
def ValueType.textForms : ValueType → Except SchemaError (List TextForm)
  | .mk kind _ _ => kind.textForms

/-- The forms of texts for values of a kind. -/
def Kind.textForms : Kind → Except SchemaError (List TextForm)
  | .bool => do
    return [← TextForm.ofExpression TextForm.trueWords true (.bool true),
      ← TextForm.ofExpression TextForm.falseWords true (.bool false)]
  | .int l => do return [← TextForm.ofIntLimits l]
  | .number l => do
    return [← TextForm.ofExpression (TextForm.number l.min l.max) false .number]
  | .string l => do return [← TextForm.ofStringLimits l]
  | .enumeration l => TextForm.ofEnumLimits l
  | .date => TextForm.dates.mapM (TextForm.ofExpression · false .date)
  | .time => do return [← TextForm.ofExpression TextForm.time false .time]
  | .dateTime => TextForm.dateTimes.mapM (TextForm.ofExpression · true .dateTime)
  | .duration => do return [← TextForm.ofExpression TextForm.duration false .duration]
  | .guid => do return [← TextForm.ofExpression TextForm.guid true .guid]
  | .uri => do return [← TextForm.ofExpression TextForm.uri false .uri]
  | .filename _ => do
    return [← TextForm.ofExpression (TextForm.anything .more) false .path]
  | .directory _ => do
    return [← TextForm.ofExpression (TextForm.anything .more) false .path]
  | .object _ _ => .error (.unsupported .classText .api)
  | .dict _ _ => .error (.unsupported .dictionaryText .api)
  | .anyOf alternatives => ValueType.allTextForms alternatives

/-- The forms of texts of all alternatives. -/
def ValueType.allTextForms : List ValueType → Except SchemaError (List TextForm)
  | [] => .ok []
  | t :: rest => do
    let forms ← t.textForms
    let more ← ValueType.allTextForms rest
    return forms ++ more

end

end TypeSchema
