import TypeSchema.Text.Blank
import TypeSchema.Text.Numeral

/-!
# Arity

How many items a value holds: at least `min`, and at most `max` where there is a maximum.  An
arity has a shorthand text, `?`, `*`, `+`, `{n}`, `{n,}` or `{n,m}`; reading admits padding and
redundant spellings, writing chooses the shortest one.
-/

namespace TypeSchema

/-- The number of items a value may hold: the bounds are in order and leave room for an item. -/
structure Arity where
  min : UInt32
  max : Option UInt32
  ordered : ∀ m, max = some m → min ≤ m ∧ 1 ≤ m
deriving DecidableEq, Repr

namespace Arity

/-- Why bounds or a shorthand text make no arity. -/
inductive Fault where
  | shape
  | bound
  | zeroMaximum
  | crossedBounds
deriving DecidableEq, Repr

/-- The wording of a fault. -/
def Fault.message : Fault → String
  | .shape => "expected '?', '*', '+' or '\x7bn,m\x7d'"
  | .bound => "bounds must be non-negative integers"
  | .zeroMaximum => "maximum must be at least 1"
  | .crossedBounds => "minimum is greater than maximum"

/-- `min` items or more. -/
def atLeast (min : UInt32) : Arity := ⟨min, none, by simp⟩

/-- Exactly one item. -/
def single : Arity := ⟨1, some 1, by simp⟩

/-- At most one item. -/
def optional : Arity := ⟨0, some 1, by simp⟩

/-- Any number of items. -/
def zeroOrMore : Arity := atLeast 0

/-- Any number of items but none. -/
def oneOrMore : Arity := atLeast 1

instance : Inhabited Arity := ⟨single⟩

/-- The arity of two bounds that are in order and leave room for an item. -/
def ofBounds (min : UInt32) (max : Option UInt32) : Except Fault Arity :=
  match max with
  | none => .ok (atLeast min)
  | some m =>
    if zero : m = 0 then .error .zeroMaximum
    else if crossed : m < min then .error .crossedBounds
    else
      .ok ⟨min, some m, by
        intro _ same
        cases same
        have positive : m.toNat ≠ 0 := fun h => zero (UInt32.toNat_inj.mp h)
        simp only [UInt32.lt_iff_toNat_lt] at crossed
        simp only [UInt32.le_iff_toNat_le, UInt32.reduceToNat]
        omega⟩

/-- One bound of a shorthand text. -/
def readBound (cs : List Char) : Except Fault UInt32 :=
  match Numeral.readNat Numeral.max32 (Text.trim cs) with
  | .ok n => .ok n.toUInt32
  | .error _ => .error .bound

/-- What stands between the braces of a shorthand text. -/
def readBounds (inner : List Char) : Except Fault (UInt32 × Option UInt32) :=
  match inner.span (· ≠ ',') with
  | (low, _ :: high) => do
    let min ← readBound low
    if Text.trim high = [] then return (min, none)
    let max ← readBound high
    return (min, some max)
  | (only, []) => do
    let n ← readBound only
    return (n, some n)

/-- The characters between an opening brace and a closing one. -/
def unbraced : List Char → Option (List Char)
  | '{' :: rest =>
    match rest.reverse with
    | '}' :: inner => some inner.reverse
    | _ => none
  | _ => none

/-- Read a shorthand text, which blanks may surround. -/
def ofChars (cs : List Char) : Except Fault Arity :=
  match Text.trim cs with
  | ['?'] => .ok optional
  | ['*'] => .ok zeroOrMore
  | ['+'] => .ok oneOrMore
  | shorthand =>
    match unbraced shorthand with
    | none => .error .shape
    | some inner => do
      let (min, max) ← readBounds inner
      ofBounds min max

/-- The text of two bounds, both written out. -/
def boundsText (min : UInt32) (max : Option UInt32) : String :=
  match max with
  | some m => "\x7b" ++ Numeral.ofNat min.toNat ++ "," ++ Numeral.ofNat m.toNat ++ "\x7d"
  | none => "\x7b" ++ Numeral.ofNat min.toNat ++ ",\x7d"

/-- The shorthand text of an arity. -/
def text (a : Arity) : String :=
  match a.min, a.max with
  | 0, some 1 => "?"
  | 0, none => "*"
  | 1, none => "+"
  | min, some max =>
    if min = max then "\x7b" ++ Numeral.ofNat min.toNat ++ "\x7d" else boundsText min (some max)
  | min, none => boundsText min none

/-- Exactly one item is held. -/
def isSingle (a : Arity) : Bool := a == single

/-- At most one item is held, possibly none. -/
def isOptional (a : Arity) : Bool := a == optional

/-- More than one item may be held. -/
def isCollection (a : Arity) : Bool :=
  match a.max with
  | none => true
  | some m => 1 < m

/-- A number of items other than one is prescribed. -/
def isFixedCollection (a : Arity) : Bool :=
  a.max == some a.min && a.min != 1

/-- Any number of items is allowed. -/
def isZeroOrMore (a : Arity) : Bool := a == zeroOrMore

/-- Any number of items but none is allowed. -/
def isOneOrMore (a : Arity) : Bool := a == oneOrMore

/-- A bounded collection whose bounds differ. -/
def isRange (a : Arity) : Bool :=
  match a.max with
  | some m => 1 < m && m != a.min
  | none => false

/-- `n` items are within the bounds. -/
def accepts (a : Arity) (n : Nat) : Bool :=
  a.min.toNat ≤ n && a.max.all (n ≤ ·.toNat)

end Arity

end TypeSchema
