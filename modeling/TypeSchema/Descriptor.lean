import TypeSchema.ValueType.Constraints

/-!
# Descriptors

A descriptor is the written form of a type: the same kinds and constraints, where a pattern is
still its source, what is left out has not been filled in, and nothing has been checked.  Checks
from outside have no written form.
-/

namespace TypeSchema

mutual

/-- The written form of a type; without an arity it stands for a single value. -/
inductive Descriptor where
  | mk (arity : Option Arity) (shape : Descriptor.Shape)

/-- The written form of a kind. -/
inductive Descriptor.Shape where
  | bool
  | int (limits : IntLimits)
  | number (limits : NumberLimits)
  | string (expression : Option String) (minLength maxLength : Option UInt64)
  | enumeration (limits : EnumLimits)
  | date
  | time
  | dateTime
  | duration
  | guid
  | uri
  | filename (limits : FilenameLimits)
  | directory (ensureExists : Bool)
  | object (parts : List Descriptor.Part) (exact : Bool)
  | dict (parts : List Descriptor.Part) (exact : Bool)
  | anyOf (alternatives : List Descriptor)

/-- The written form of a member. -/
inductive Descriptor.Part where
  | mk (name : String) (type : Descriptor)

end

namespace Descriptor

/-- The written arity. -/
def arity : Descriptor → Option Arity
  | .mk a _ => a

/-- The written kind. -/
def shape : Descriptor → Shape
  | .mk _ s => s

/-! ## From types -/

/-- The written form of the limits on a string: what holds without further limits is left out. -/
def Shape.ofLimits (l : StringLimits) : Shape :=
  .string (l.expression.map (·.source))
    (if l.minLength = StringLimits.initial.minLength then none else some l.minLength) l.maxLength

mutual

/-- The descriptor of a type. -/
def ofType : ValueType → Descriptor
  | .mk k a _ => .mk (if a.isSingle then none else some a) (shapeOf k)

/-- The written form of a kind. -/
def shapeOf : Kind → Shape
  | .bool => .bool
  | .int l => .int l
  | .number l => .number l
  | .string l => .ofLimits l
  | .enumeration l => .enumeration l
  | .date => .date
  | .time => .time
  | .dateTime => .dateTime
  | .duration => .duration
  | .guid => .guid
  | .uri => .uri
  | .filename l => .filename l
  | .directory e => .directory e
  | .object members exact => .object (partsOf members) exact
  | .dict members exact => .dict (partsOf members) exact
  | .anyOf alternatives => .anyOf (ofTypes alternatives)

/-- The written forms of members. -/
def partsOf : List Member → List Part
  | [] => []
  | .mk n t :: rest => .mk n (ofType t) :: partsOf rest

/-- The descriptors of types. -/
def ofTypes : List ValueType → List Descriptor
  | [] => []
  | t :: rest => ofType t :: ofTypes rest

end

/-! ## To types -/

/-- The pattern of a written expression. -/
def patternOf : Option String → Except SchemaError (Option Pattern)
  | none => .ok none
  | some source =>
    match Pattern.ofSource source with
    | some p => .ok (some p)
    | none => .error (.constraint ["validation_expression"] .expression)

mutual

/-- The type that a descriptor stands for, if its constraints agree. -/
def toType : Descriptor → Except SchemaError ValueType
  | .mk arity shape => do
    let kind ← kindOf shape
    let type ← ValueType.ofKind kind
    return match arity with
      | some a => type.withArity a
      | none => type

/-- The kind that a written one stands for; its parts are checked, it itself is not. -/
def kindOf : Shape → Except SchemaError Kind
  | .bool => .ok .bool
  | .int l => .ok (.int l)
  | .number l => .ok (.number l)
  | .string expression minLength maxLength => do
    let expression ← patternOf expression
    return .string ⟨expression, minLength.getD StringLimits.initial.minLength, maxLength⟩
  | .enumeration l => .ok (.enumeration l)
  | .date => .ok .date
  | .time => .ok .time
  | .dateTime => .ok .dateTime
  | .duration => .ok .duration
  | .guid => .ok .guid
  | .uri => .ok .uri
  | .filename l => .ok (.filename l)
  | .directory e => .ok (.directory e)
  | .object parts exact => do return .object (← membersOf parts) exact
  | .dict parts exact => do return .dict (← membersOf parts) exact
  | .anyOf alternatives => do return .anyOf (← toTypes alternatives)

/-- The members that written ones stand for. -/
def membersOf : List Part → Except SchemaError (List Member)
  | [] => .ok []
  | .mk n d :: rest => do
    let type ← toType d
    let members ← membersOf rest
    return .mk n type :: members

/-- The types that descriptors stand for. -/
def toTypes : List Descriptor → Except SchemaError (List ValueType)
  | [] => .ok []
  | d :: rest => do
    let type ← toType d
    let types ← toTypes rest
    return type :: types

end

end Descriptor

end TypeSchema
