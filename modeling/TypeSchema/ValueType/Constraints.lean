import TypeSchema.Error
import TypeSchema.ValueType

/-!
# Constraints

What the constraints of a kind have to satisfy together: bounds in order and within the width,
values that are there and differ, members with distinct names.  A type is made from a kind only if
they do.
-/

namespace TypeSchema

/-- No negative value is allowed by the lower bound. -/
def IntLimits.isUnsigned (l : IntLimits) : Bool :=
  match l.min with
  | some m => 0 ≤ m
  | none => false

/-- The least and the greatest integer of a width; the sign takes a bit unless the lower bound
makes it needless.  Eight bytes without sign go no further than with it. -/
def widthRange (unsigned : Bool) (bytes : Nat) : Int64 × Int64 :=
  match unsigned, bytes with
  | true, 1 => (0, 0xFF)
  | true, 2 => (0, 0xFFFF)
  | true, 4 => (0, 0xFFFFFFFF)
  | true, _ => (0, Int64.maxValue)
  | false, 1 => (-0x80, 0x7F)
  | false, 2 => (-0x8000, 0x7FFF)
  | false, 4 => (-0x80000000, 0x7FFFFFFF)
  | false, _ => (Int64.minValue, Int64.maxValue)

/-- The range that the width implies, if there is a width of one, two, four or eight bytes. -/
def IntLimits.widthBounds (l : IntLimits) : Option (Int64 × Int64) :=
  match l.bytes with
  | some b =>
    if b ∈ [1, 2, 4, 8] then some (widthRange l.isUnsigned b.toNat) else none
  | none => none

/-- The first item that an earlier one equals. -/
def firstRepeated (seen : List String) : List String → Option String
  | [] => none
  | s :: rest => if s ∈ seen then some s else firstRepeated (s :: seen) rest

/-- A bound, under its tag, is within the width. -/
def checkWidth (bytes : UInt8) (range : Int64 × Int64) (tag : String) (bound : Option Int64) :
    Except SchemaError Unit :=
  match bound with
  | some v =>
    if v < range.1 ∨ range.2 < v then
      .error (.constraint ["bytes", tag] (.tooWide tag v bytes.toNat))
    else .ok ()
  | none => .ok ()

/-- The bounds are in order and within the width. -/
def IntLimits.check (l : IntLimits) : Except SchemaError Unit := do
  match l.min, l.max with
  | some min, some max =>
    if max < min then throw (.constraint ["min", "max"] (.crossedInts min max))
  | _, _ => pure ()
  match l.bytes with
  | none => pure ()
  | some bytes =>
    match l.widthBounds with
    | none => throw (.constraint ["bytes"] (.unknownWidth bytes.toNat))
    | some range =>
      checkWidth bytes range "min" l.min
      checkWidth bytes range "max" l.max

/-- A bound, under its tag, is a number. -/
def checkNumber (tag : String) (bound : Option Double) : Except SchemaError Unit :=
  if bound.any Double.isNaN then .error (.constraint [tag] .notANumber) else .ok ()

/-- The bounds are numbers in order. -/
def NumberLimits.check (l : NumberLimits) : Except SchemaError Unit := do
  checkNumber "min" l.min
  checkNumber "max" l.max
  match l.min, l.max with
  | some min, some max =>
    if max.lt min then throw (.constraint ["min", "max"] (.crossedNumbers min max))
  | _, _ => pure ()

/-- The lengths are in order and leave room for a character. -/
def StringLimits.check (l : StringLimits) : Except SchemaError Unit :=
  match l.maxLength with
  | none => .ok ()
  | some max =>
    if max < l.minLength then
      .error (.constraint ["min_length", "max_length"] (.crossedLengths l.minLength max))
    else if max = 0 then .error (.constraint ["max_length"] .zeroLength)
    else .ok ()

/-- There are values, each once, and as many friendly names if there are any. -/
def EnumLimits.check (l : EnumLimits) : Except SchemaError Unit :=
  if l.values = [] then .error (.constraint ["values"] .noValues)
  else match firstRepeated [] l.values with
    | some v => .error (.constraint ["values"] (.repeatedValue v))
    | none =>
      match l.friendly with
      | none => .ok ()
      | some names =>
        if names.length = l.values.length then .ok ()
        else
          .error (.constraint ["values", "friendly_values"]
            (.friendlyCount l.values.length names.length))

/-- The names are not empty and differ from those in `seen` and from each other. -/
def Member.checkNames (seen : List String) : List Member → Except SchemaError Unit
  | [] => .ok ()
  | m :: rest =>
    if m.name = "" then .error (.constraint ["members"] .unnamedMember)
    else if m.name ∈ seen then .error (.constraint ["members"] (.repeatedMember m.name))
    else Member.checkNames (m.name :: seen) rest

/-- The constraints of a kind agree with each other. -/
def Kind.checkConstraints : Kind → Except SchemaError Unit
  | .int l => l.check
  | .number l => l.check
  | .string l => l.check
  | .enumeration l => l.check
  | .object members _ => Member.checkNames [] members
  | .dict members _ => Member.checkNames [] members
  | .anyOf alternatives =>
    if alternatives.isEmpty then .error (.constraint ["alternatives"] .noAlternatives) else .ok ()
  | _ => .ok ()

/-- The type of a single value of a kind whose constraints agree. -/
def ValueType.ofKind (k : Kind) : Except SchemaError ValueType := do
  k.checkConstraints
  return .mk k .single none

end TypeSchema
