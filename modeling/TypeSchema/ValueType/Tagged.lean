import TypeSchema.Metadata.Basic
import TypeSchema.ValueType.Constraints

/-!
# Types from tags

A fundamental kind becomes a type under the constraints that tags give it: each tag has to be
known, of the right type and meant for the kind, and all together have to agree.
-/

namespace TypeSchema

open Metadata (Item)

/-- A length that a tag gives. -/
def Metadata.lengthOf (tag : String) (v : Int64) : Except SchemaError UInt64 :=
  if v < 0 then .error (.constraint [tag] .negative) else .ok v.toUInt64

/-- The bounds with what a tag says of them. -/
def IntLimits.tagged (l : IntLimits) (tag : String) (v : Metadata.Value) :
    Except SchemaError IntLimits :=
  match tag, v with
  | "min", .integer i => .ok { l with min := some i }
  | "max", .integer i => .ok { l with max := some i }
  | "bytes", .integer i =>
    if 0 ≤ i ∧ i ≤ 255 then .ok { l with bytes := some i.toInt.toNat.toUInt8 }
    else .error (.constraint [tag] .width)
  | _, .number _ => .error (.constraint [tag] .fractionalBound)
  | _, _ => .ok l

/-- The bounds with what a tag says of them; integers widen. -/
def NumberLimits.tagged (l : NumberLimits) (tag : String) (v : Metadata.Value) : NumberLimits :=
  match tag, v with
  | "min", .integer i => { l with min := some (.ofInt i.toInt) }
  | "min", .number d => { l with min := some d }
  | "max", .integer i => { l with max := some (.ofInt i.toInt) }
  | "max", .number d => { l with max := some d }
  | _, _ => l

/-- The limits with what a tag says of them. -/
def StringLimits.tagged (l : StringLimits) (tag : String) (v : Metadata.Value) :
    Except SchemaError StringLimits :=
  match tag, v with
  | "min_length", .integer i => return { l with minLength := ← Metadata.lengthOf tag i }
  | "max_length", .integer i => return { l with maxLength := some (← Metadata.lengthOf tag i) }
  | "validation_expression", .string s =>
    match Pattern.ofSource s with
    | some p => .ok { l with expression := some p }
    | none => .error (.constraint ["validation_expression"] .expression)
  | _, _ => .ok l

/-- The values with what a tag says of them. -/
def EnumLimits.tagged (l : EnumLimits) (tag : String) (v : Metadata.Value) : EnumLimits :=
  match tag, v with
  | "values", .list items => { l with values := items }
  | "friendly_values", .list items => { l with friendly := some items }
  | _, _ => l

/-- The demands with what a tag says of them. -/
def FilenameLimits.tagged (l : FilenameLimits) (tag : String) (v : Metadata.Value) :
    FilenameLimits :=
  match tag, v with
  | "ensure_exists", .bool b => { l with ensureExists := b }
  | "match_any", .bool b => { l with matchAny := b }
  | _, _ => l

/-- The kind under the constraint that a tag gives it, if it gives one. -/
def Kind.tagged (k : Kind) (tag : String) (v : Metadata.Value) : Except SchemaError Kind :=
  match k with
  | .int l => return .int (← l.tagged tag v)
  | .number l => .ok (.number (l.tagged tag v))
  | .string l => return .string (← l.tagged tag v)
  | .enumeration l => .ok (.enumeration (l.tagged tag v))
  | .filename l => .ok (.filename (l.tagged tag v))
  | .directory e =>
    match tag, v with
    | "ensure_exists", .bool b => .ok (.directory b)
    | _, _ => .ok (.directory e)
  | k => .ok k

/-- The kind under the constraint of an item that applies to `base`. -/
def Kind.taggedBy (base : Fundamental) (k : Kind) (item : Item) : Except SchemaError Kind := do
  let spec ← item.check
  if spec.appliesTo base then
    (k.tagged item.tag item.value).mapError (·.placedAt item.place)
  else throw (.metadataConstraint [item.tag] (.notForKind base) item.place)

/-- The type of a fundamental kind under tags; what the tags do wrong together is blamed on
`place`. -/
def ValueType.ofMetadata (base : Fundamental) (m : Metadata) (place : Location) :
    Except SchemaError ValueType := do
  let kind ← m.items.foldlM (Kind.taggedBy base) (Kind.ofFundamental base)
  (ValueType.ofKind kind).mapError (·.placedAt place)

end TypeSchema
