import TypeSchema.Arity
import TypeSchema.Fundamental
import TypeSchema.Regex.Pattern
import TypeSchema.Value

/-!
# Value types

A value type says what kind of value is accepted, with which constraints, and how many of them.
Kinds are the fundamental ones, classes and dictionaries of named members, and choices between
alternatives.
-/

namespace TypeSchema

/-- Bounds of an integer, and the width in bytes that it has to fit in. -/
structure IntLimits where
  min : Option Int64
  max : Option Int64
  bytes : Option UInt8
deriving DecidableEq, Repr

/-- Bounds of a number. -/
structure NumberLimits where
  min : Option Double
  max : Option Double
deriving DecidableEq, Repr

/-- Limits on a string: a pattern and bounds of its length in characters. -/
structure StringLimits where
  expression : Option Pattern
  minLength : UInt64
  maxLength : Option UInt64

/-- The values of an enumeration, and names to show for them. -/
structure EnumLimits where
  values : List String
  friendly : Option (List String)
deriving DecidableEq, Repr

/-- What a filename has to lead to, if anything. -/
structure FilenameLimits where
  ensureExists : Bool
  /-- Accept anything that is there, not only files. -/
  matchAny : Bool
deriving DecidableEq, Repr

/-- A check given from outside; two checks are the same if their names are. -/
structure Hook where
  name : String
  check : Value → Except String Unit

mutual

/-- A type of values. -/
inductive ValueType where
  | mk (kind : Kind) (arity : Arity) (hook : Option Hook)

/-- A kind of value with its constraints. -/
inductive Kind where
  | bool
  | int (limits : IntLimits)
  | number (limits : NumberLimits)
  | string (limits : StringLimits)
  | enumeration (limits : EnumLimits)
  | date
  | time
  | dateTime
  | duration
  | guid
  | uri
  | filename (limits : FilenameLimits)
  | directory (ensureExists : Bool)
  /-- Objects with members; `exact` rejects fields that are no members. -/
  | object (members : List Member) (exact : Bool)
  /-- Maps with members; `exact` rejects entries that are no members. -/
  | dict (members : List Member) (exact : Bool)
  /-- What one of the alternatives accepts. -/
  | anyOf (alternatives : List ValueType)

/-- A named part of a class or dictionary. -/
inductive Member where
  | mk (name : String) (type : ValueType)

end

/-- The name of a member. -/
def Member.name : Member → String
  | .mk n _ => n

/-- The type of a member. -/
def Member.type : Member → ValueType
  | .mk _ t => t

/-- The first member of a name. -/
def Member.find? (name : String) (members : List Member) : Option Member :=
  List.find? (·.name = name) members

namespace ValueType

/-- The kind of value. -/
def kind : ValueType → Kind
  | .mk k _ _ => k

/-- How many values. -/
def arity : ValueType → Arity
  | .mk _ a _ => a

/-- The check given from outside. -/
def hook : ValueType → Option Hook
  | .mk _ _ h => h

/-- The type with another arity. -/
def withArity (t : ValueType) (a : Arity) : ValueType := .mk t.kind a t.hook

/-- The type with a check from outside. -/
def withHook (t : ValueType) (h : Hook) : ValueType := .mk t.kind t.arity (some h)

end ValueType

/-- Without further limits a string must not be empty. -/
def StringLimits.initial : StringLimits := ⟨none, 1, none⟩

namespace Kind

/-- A fundamental kind without constraints. -/
def ofFundamental : Fundamental → Kind
  | .bool => .bool
  | .int => .int ⟨none, none, none⟩
  | .number => .number ⟨none, none⟩
  | .string => .string .initial
  | .enumeration => .enumeration ⟨[], none⟩
  | .date => .date
  | .time => .time
  | .dateTime => .dateTime
  | .duration => .duration
  | .guid => .guid
  | .uri => .uri
  | .filename => .filename ⟨false, false⟩
  | .directory => .directory false

/-- The keyword of a kind. -/
def keyword : Kind → String
  | .bool => Fundamental.bool.keyword
  | .int _ => Fundamental.int.keyword
  | .number _ => Fundamental.number.keyword
  | .string _ => Fundamental.string.keyword
  | .enumeration _ => Fundamental.enumeration.keyword
  | .date => Fundamental.date.keyword
  | .time => Fundamental.time.keyword
  | .dateTime => Fundamental.dateTime.keyword
  | .duration => Fundamental.duration.keyword
  | .guid => Fundamental.guid.keyword
  | .uri => Fundamental.uri.keyword
  | .filename _ => Fundamental.filename.keyword
  | .directory _ => Fundamental.directory.keyword
  | .object _ _ => "class"
  | .dict _ _ => "dict"
  | .anyOf _ => "any_of"

/-- The members and the exactness of a class. -/
def object? : Kind → Option (List Member × Bool)
  | .object members exact => some (members, exact)
  | _ => none

end Kind

/-! ## Sameness -/

/-- Both bounds are absent, or both are numbers of one value. -/
def sameBound : Option Double → Option Double → Bool
  | none, none => true
  | some a, some b => a.same b
  | _, _ => false

/-- The same limits; patterns are the same if their sources are. -/
def StringLimits.same (a b : StringLimits) : Bool :=
  a.expression.map (·.source) == b.expression.map (·.source) &&
  a.minLength == b.minLength && a.maxLength == b.maxLength

mutual

/-- The two types have the same kind, arity and check. -/
def ValueType.same : ValueType → ValueType → Bool
  | .mk k a h, .mk k' a' h' =>
    a == a' && k.same k' && h.map (·.name) == h'.map (·.name)

/-- The two kinds have the same constraints, down to the last member. -/
def Kind.same : Kind → Kind → Bool
  | .bool, .bool => true
  | .int l, .int l' => l == l'
  | .number l, .number l' => sameBound l.min l'.min && sameBound l.max l'.max
  | .string l, .string l' => l.same l'
  | .enumeration l, .enumeration l' => l == l'
  | .date, .date => true
  | .time, .time => true
  | .dateTime, .dateTime => true
  | .duration, .duration => true
  | .guid, .guid => true
  | .uri, .uri => true
  | .filename l, .filename l' => l == l'
  | .directory e, .directory e' => e == e'
  | .object ms e, .object ms' e' => e == e' && Member.same ms ms'
  | .dict ms e, .dict ms' e' => e == e' && Member.same ms ms'
  | .anyOf ts, .anyOf ts' => ValueType.sameAll ts ts'
  | _, _ => false

/-- The two lists have the same members. -/
def Member.same : List Member → List Member → Bool
  | [], [] => true
  | .mk n t :: ms, .mk n' t' :: ms' => n == n' && t.same t' && Member.same ms ms'
  | _, _ => false

/-- The two lists have the same types. -/
def ValueType.sameAll : List ValueType → List ValueType → Bool
  | [], [] => true
  | t :: ts, t' :: ts' => t.same t' && ValueType.sameAll ts ts'
  | _, _ => false

end

end TypeSchema
