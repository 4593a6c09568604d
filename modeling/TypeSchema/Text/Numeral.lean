/-!
# Decimal numerals

Whole numbers of a fixed range, read from decimal digits and written back.  A numeral is an
optional sign and at least one ASCII digit.  Reading goes from left to right and stops at the
first thing that is wrong, so of a foreign character and a value out of range the one met first
is reported.
-/

namespace TypeSchema.Numeral

/-- Why a text is no numeral of the wanted range. -/
inductive Fault where
  | empty
  | invalidDigit
  | tooLarge
  | tooSmall
deriving DecidableEq, Repr

/-- The wording of a fault. -/
def Fault.message : Fault → String
  | .empty => "cannot parse integer from empty string"
  | .invalidDigit => "invalid digit found in string"
  | .tooLarge => "number too large to fit in target type"
  | .tooSmall => "number too small to fit in target type"

/-- The value of an ASCII digit. -/
def digit? (c : Char) : Option Nat :=
  if '0' ≤ c ∧ c ≤ '9' then some (c.toNat - '0'.toNat) else none

/-- Continue the numeral worth `n` with the characters `cs`; a value above `limit` is the fault
`excess`. -/
def readDigits (limit : Nat) (excess : Fault) (n : Nat) : List Char → Except Fault Nat
  | [] => .ok n
  | c :: cs =>
    match digit? c with
    | none => .error .invalidDigit
    | some d => if 10 * n + d ≤ limit then readDigits limit excess (10 * n + d) cs else .error excess

/-- Read a number from `0` to `limit`; a plus sign may precede it. -/
def readNat (limit : Nat) : List Char → Except Fault Nat
  | [] => .error .empty
  | ['+'] => .error .invalidDigit
  | '+' :: cs => readDigits limit .tooLarge 0 cs
  | cs => readDigits limit .tooLarge 0 cs

/-- Read a number from `-(limit + 1)` to `limit`; a sign may precede it. -/
def readInt (limit : Nat) : List Char → Except Fault Int
  | [] => .error .empty
  | ['+'] => .error .invalidDigit
  | ['-'] => .error .invalidDigit
  | '+' :: cs => (readDigits limit .tooLarge 0 cs).map Int.ofNat
  | '-' :: cs => (readDigits (limit + 1) .tooSmall 0 cs).map fun n => -(n : Int)
  | cs => (readDigits limit .tooLarge 0 cs).map Int.ofNat

/-- The greatest signed number of 32 bits. -/
def max31 : Nat := 0x7FFFFFFF

/-- The greatest number of 32 bits. -/
def max32 : Nat := 0xFFFFFFFF

/-- The greatest signed number of 64 bits. -/
def max63 : Nat := 0x7FFFFFFFFFFFFFFF

/-- The greatest number of 64 bits. -/
def max64 : Nat := 0xFFFFFFFFFFFFFFFF

/-- The decimal digits of a number, without leading zeros. -/
def digits (n : Nat) : List Char :=
  Nat.toDigits 10 n

/-- The numeral of a natural number. -/
def ofNat (n : Nat) : String :=
  String.ofList (digits n)

/-- The numeral of a whole number; only a negative one carries a sign. -/
def ofInt (i : Int) : String :=
  if i < 0 then "-" ++ ofNat i.natAbs else ofNat i.natAbs

/-- Zeros in front of `cs` up to `width` characters. -/
def padLeft (width : Nat) (cs : List Char) : List Char :=
  List.replicate (width - cs.length) '0' ++ cs

/-- The numeral of a number with zeros in front up to `width` digits. -/
def padded (width n : Nat) : String :=
  String.ofList (padLeft width (digits n))

/-- The numeral of a whole number, its sign included in the width. -/
def paddedInt (width : Nat) (i : Int) : String :=
  if i < 0 then "-" ++ padded (width - 1) i.natAbs else padded width i.natAbs

example : readInt max63 "-9223372036854775808".toList = .ok (-9223372036854775808) := by
  rfl
example : readInt max63 "-9223372036854775809".toList = .error .tooSmall := by rfl
example : readNat max32 "+7".toList = .ok 7 := by rfl
example : readNat max32 "-7".toList = .error .invalidDigit := by rfl
example : readNat max32 "99999999999x".toList = .error .tooLarge := by rfl

end TypeSchema.Numeral
