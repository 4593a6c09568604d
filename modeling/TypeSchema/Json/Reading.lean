import TypeSchema.Json
import TypeSchema.Json.Raw
import TypeSchema.Text.Numeral

/-!
# The meaning of JSON text

Strings lose their escapes and numbers become values.  A text has no meaning where an escape names
half of a character, where a number is too large for a double, and where values nest too deeply.

A number without point and power of ten is whole if 64 bits hold it; `-0` is a double.  Any other
number is a double: its digits, as far as 64 bits hold them, are rounded to a double, and that is
multiplied or divided by the double nearest to the power of ten that remains.
-/

namespace TypeSchema.Json

/-- How many arrays and objects may enclose each other. -/
def maxDepth : Nat := 127

/-- The string that an escaped body stands for. -/
def unescape : List Char → Option (List Char)
  | [] => some []
  | '\\' :: 'u' :: a :: b :: c :: d :: rest =>
    match hex4? a b c d with
    | none => none
    | some n =>
      if 0xDC00 ≤ n ∧ n ≤ 0xDFFF then none
      else if 0xD800 ≤ n ∧ n ≤ 0xDBFF then
        match rest with
        | '\\' :: 'u' :: e :: f :: g :: h :: rest =>
          match hex4? e f g h with
          | some m =>
            if 0xDC00 ≤ m ∧ m ≤ 0xDFFF then
              (unescape rest).map
                (Char.ofNat (0x10000 + (n - 0xD800) * 0x400 + (m - 0xDC00)) :: ·)
            else none
          | none => none
        | _ => none
      else (unescape rest).map (Char.ofNat n :: ·)
  | '\\' :: e :: rest =>
    let c := match e with
      | 'b' => '\x08'
      | 'f' => '\x0c'
      | 'n' => '\n'
      | 'r' => '\r'
      | 't' => '\t'
      | e => e
    (unescape rest).map (c :: ·)
  | c :: rest => (unescape rest).map (c :: ·)

/-- The string that an escaped body stands for. -/
def unescapeString (body : List Char) : Option String :=
  (unescape body).map String.ofList

/-! ## Numbers -/

/-- Digits gathered into 64 bits, and how many digits were left over once no further one fits. -/
def gather (n : Nat) : List Char → Nat × Nat
  | [] => (n, 0)
  | d :: ds =>
    let next := 10 * n + (d.toNat - '0'.toNat)
    if next ≤ Numeral.max64 then gather next ds else (n, ds.length + 1)

/-- The double `10 ^ n`, for `n` up to 308. -/
def pow10 (n : Nat) : Double := Double.ofDecimal false 1 n

/-- A double, brought to the power of ten `e` in steps of at most 308; `none` if that is too
large.  Every step downwards comes nearer to zero, so few are needed before zero is reached. -/
def scaleDown : Nat → Double → Nat → Double
  | 0, d, _ => d
  | fuel + 1, d, e =>
    if e ≤ 308 then d.div (pow10 e)
    else if d.isZero then d
    else scaleDown fuel (d.div (pow10 308)) (e - 308)

/-- The double of gathered digits and a power of ten. -/
def ofParts (n : Nat) (e : Int) : Option Double :=
  let d := Double.ofInt n
  if 0 ≤ e then
    if e ≤ 308 then
      let product := d.mul (pow10 e.toNat)
      if product.isFinite then some product else none
    else if d.isZero then some d
    else none
  else some (scaleDown 4 d (-e).toNat)

/-- The value of the digits of a power of ten, or `none` beyond 31 bits. -/
def exponentValue (n : Nat) : List Char → Option Nat
  | [] => some n
  | d :: ds =>
    let next := 10 * n + (d.toNat - '0'.toNat)
    if next ≤ Numeral.max31 then exponentValue next ds else none

/-- The power of ten at the end of a number: its sign, and its value if that is not too large. -/
def readExponent : List Char → Bool × Option Nat
  | _ :: '-' :: ds => (true, exponentValue 0 ds)
  | _ :: '+' :: ds => (false, exponentValue 0 ds)
  | _ :: ds => (false, exponentValue 0 ds)
  | [] => (false, some 0)

/-- A sum of powers of ten that stays within 32 bits. -/
def clampExponent (e : Int) : Int := max (-Numeral.max31 - 1) (min e Numeral.max31)

/-- The magnitude of a number that is not whole, from its three parts. -/
def readFloat (whole fraction exponent : List Char) : Option Double :=
  let (n, excess) := gather 0 whole
  let (n, left) := match fraction with
    | _ :: ds => gather n ds
    | [] => (n, 0)
  let places : Int := (excess : Int) - ((fraction.length - 1 : Nat) - left : Int)
  match readExponent exponent with
  | (negative, some e) =>
    ofParts n (clampExponent (if negative then places - e else places + e))
  | (negative, none) =>
    if n ≠ 0 ∧ !negative then none else some Double.zero

/-- The value of a number text. -/
def readNumber (cs : List Char) : Option Number :=
  let (negative, body) := match cs with
    | '-' :: r => (true, r)
    | r => (false, r)
  let (whole, rest) := body.span isDigit
  let (fraction, exponent) := match rest with
    | '.' :: r =>
      let (ds, r) := r.span isDigit
      ('.' :: ds, r)
    | r => ([], r)
  let signed (d : Double) := if negative then d.neg else d
  if fraction = [] ∧ exponent = [] then
    match gather 0 whole with
    | (n, 0) =>
      if !negative then some (.int n)
      else if n = 0 ∨ Numeral.max63 + 1 < n then some (.float (Double.ofInt n).neg)
      else some (.int (-n))
    | _ => (readFloat whole [] []).map fun d => .float (signed d)
  else (readFloat whole fraction exponent).map fun d => .float (signed d)

/-! ## Values -/

mutual

/-- The meaning of a value that may nest `depth` levels. -/
def Raw.read (depth : Nat) : Raw → Option Json
  | .null _ => some .null
  | .bool _ b => some (.bool b)
  | .number _ cs => (readNumber cs).map .number
  | .string _ body => (unescapeString body).map .string
  | .array _ items =>
    match depth with
    | 0 => none
    | d + 1 => (Raw.readItems d items).map .array
  | .object _ fields =>
    match depth with
    | 0 => none
    | d + 1 => (Raw.readFields d fields).map .object

/-- The meaning of the items of an array. -/
def Raw.readItems (depth : Nat) : List Raw → Option (List Json)
  | [] => some []
  | r :: rs => do
    let j ← Raw.read depth r
    let js ← Raw.readItems depth rs
    return j :: js

/-- The meaning of the fields of an object. -/
def Raw.readFields (depth : Nat) : List (List Char × Raw) → Option (List (String × Json))
  | [] => some []
  | (name, r) :: rs => do
    let n ← unescapeString name
    let j ← Raw.read depth r
    let js ← Raw.readFields depth rs
    return (n, j) :: js

end

/-- The value of a text, each field of an object as often as it was written. -/
def ofChars (cs : List Char) : Option Json := do
  let raw ← Raw.ofChars cs
  raw.read maxDepth

end TypeSchema.Json
