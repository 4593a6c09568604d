import TypeSchema.Double

/-!
# Reading numbers

A number text is an optional sign and either decimal digits with an optional point and an optional
power of ten, or one of the words for infinity and for no number.  The value is the double nearest
to the decimal.
-/

namespace TypeSchema.Double

/-- Why a text is no number. -/
inductive Fault where
  | empty
  | invalid
deriving DecidableEq, Repr

/-- The wording of a fault. -/
def Fault.message : Fault → String
  | .empty => "cannot parse float from empty string"
  | .invalid => "invalid float literal"

/-- An ASCII digit. -/
def isDigit (c : Char) : Bool := '0' ≤ c && c ≤ '9'

/-- The number that decimal digits continue from `n`. -/
def digitsValue (n : Nat) (ds : List Char) : Nat :=
  ds.foldl (fun n d => 10 * n + (d.toNat - '0'.toNat)) n

/-- The power of ten that may end a number: nothing, or a mark, a sign and digits. -/
def readExponent : List Char → Option Int
  | [] => some 0
  | e :: rest =>
    if e = 'e' ∨ e = 'E' then
      let (negative, ds) := match rest with
        | '-' :: ds => (true, ds)
        | '+' :: ds => (false, ds)
        | ds => (false, ds)
      if ds ≠ [] ∧ ds.all isDigit then
        let n : Int := digitsValue 0 ds
        some (if negative then -n else n)
      else none
    else none

/-- Digits, an optional point with further digits, and an optional power of ten; at least one
digit stands before the power. -/
def readDecimal (negative : Bool) (cs : List Char) : Option Double :=
  let (whole, rest) := cs.span isDigit
  let (fraction, rest) := match rest with
    | '.' :: rest => rest.span isDigit
    | rest => ([], rest)
  if whole = [] ∧ fraction = [] then none
  else (readExponent rest).map fun e =>
    ofDecimal negative (digitsValue (digitsValue 0 whole) fraction) (e - fraction.length)

/-- The word for a value that has no digits, in any case. -/
def readWord (negative : Bool) (cs : List Char) : Option Double :=
  match String.ofList (cs.map Char.toLower) with
  | "inf" => some (infinity negative)
  | "infinity" => some (infinity negative)
  | "nan" => some nan
  | _ => none

/-- The number a text stands for. -/
def ofChars : List Char → Except Fault Double
  | [] => .error .empty
  | c :: cs =>
    let (negative, body) :=
      if c = '-' then (true, cs) else if c = '+' then (false, cs) else (false, c :: cs)
    match readDecimal negative body <|> readWord negative body with
    | some d => .ok d
    | none => .error .invalid

end TypeSchema.Double
