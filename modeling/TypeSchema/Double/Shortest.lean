import TypeSchema.Double
import TypeSchema.Text.Numeral

/-!
# Shortest decimals

The fewest decimal digits that read back as a given double, and their layout as text.  A decimal
reads back when it lies in the interval of numbers that round to the double.  Grids of 1, 2, …
digits are tried in turn; on each only the two neighbours of the value can lie in the interval
nearest to it, and of two that do the nearer one is taken.
-/

namespace TypeSchema.Double

/-- Which of two equally near decimals is taken. -/
inductive Tie where
  | up
  | even
deriving DecidableEq, Repr

/-- The numbers that round to a double: a value and two bounds over a common denominator, and
whether the bounds themselves belong. -/
structure Interval where
  value : Nat
  low : Nat
  high : Nat
  den : Nat
  closed : Bool

/-- The interval of a finite magnitude.  It reaches half way to each neighbour; below a power of
two the neighbour is nearer. -/
def interval (d : Double) : Interval :=
  let m := d.mantissa
  let below := if m = exponentBit ∧ -1074 < d.scale then 1 else 2
  let up := Nat.pow 2 (d.scale - 2).toNat
  { value := 4 * m * up, low := (4 * m - below) * up, high := (4 * m + 2) * up,
    den := Nat.pow 2 (2 - d.scale).toNat, closed := m % 2 = 0 }

/-- `n · 10 ^ k` is in the interval. -/
def Interval.holds (v : Interval) (n : Nat) (k : Int) : Bool :=
  let point := n * Nat.pow 10 k.toNat * v.den
  let low := v.low * Nat.pow 10 (-k).toNat
  let high := v.high * Nat.pow 10 (-k).toNat
  if v.closed then low ≤ point && point ≤ high else low < point && point < high

/-- The value is at least `10 ^ e`. -/
def Interval.atLeastPow10 (v : Interval) (e : Int) : Bool :=
  v.den * Nat.pow 10 e.toNat ≤ v.value * Nat.pow 10 (-e).toNat

/-- The exponent of the leading digit, searched upwards from `e`. -/
def Interval.leading (v : Interval) : Nat → Int → Int
  | 0, e => e
  | n + 1, e => if v.atLeastPow10 (e + 1) then v.leading n (e + 1) else e

/-- The point of the grid `10 ^ k` that stands for the value, if one does. -/
def Interval.onGrid (v : Interval) (tie : Tie) (k : Int) : Option Nat :=
  let num := v.value * Nat.pow 10 (-k).toNat
  let den := v.den * Nat.pow 10 k.toNat
  let n := num / den
  let r := num % den
  match v.holds n k, v.holds (n + 1) k with
  | false, false => none
  | true, false => some n
  | false, true => some (n + 1)
  | true, true =>
    if 2 * r < den then some n
    else if den < 2 * r then some (n + 1)
    else match tie with
      | .up => some (n + 1)
      | .even => some (n + n % 2)

/-- The first grid, from the coarsest on, with a point that stands for the value. -/
def Interval.coarsest (v : Interval) (tie : Tie) : Nat → Int → Nat × Int
  | 0, k => (v.value * Nat.pow 10 (-k).toNat / (v.den * Nat.pow 10 k.toNat), k)
  | fuel + 1, k =>
    match v.onGrid tie k with
    | some n => (n, k)
    | none => v.coarsest tie fuel (k - 1)

/-- A finite double's magnitude in the fewest digits: `(n, k)` stands for `n · 10 ^ k`. -/
def shortest (tie : Tie) (d : Double) : Nat × Int :=
  if d.isZero then (0, 0)
  else
    let v := d.interval
    let log2 : Int := d.mantissa.log2 + d.scale
    let leading := v.leading 4 (log2 * 1233 / 4096 - 2)
    v.coarsest tie 17 leading

/-- How a decimal is laid out. -/
structure Layout where
  /-- A leading digit of lower place value than this is written with an exponent. -/
  leastPositional : Option Int
  /-- A leading digit of higher place value than this is written with an exponent. -/
  greatestPositional : Option Int
  /-- What follows a whole number. -/
  wholeEnd : String
  tie : Tie

/-- The digits of a number without the zeros at its end. -/
def significant (n : Nat) : List Char :=
  (((Nat.toDigits 10 n).reverse).dropWhile (· == '0')).reverse

/-- Digits with the point before the place `point`, counted from the first digit. -/
def positional (wholeEnd : String) (ds : List Char) (point : Int) : String :=
  if point ≤ 0 then
    "0." ++ String.ofList (List.replicate (-point).toNat '0' ++ ds)
  else if ds.length ≤ point.toNat then
    String.ofList (ds ++ List.replicate (point.toNat - ds.length) '0') ++ wholeEnd
  else
    String.ofList (ds.take point.toNat) ++ "." ++ String.ofList (ds.drop point.toNat)

/-- Digits with the point after the first of them, and the power of ten that makes up for it, which
always has a sign. -/
def scientific (ds : List Char) (exponent : Int) : String :=
  (match ds with
    | [] => "0"
    | [d] => String.ofList [d]
    | d :: more => String.ofList (d :: '.' :: more)) ++
    (if exponent < 0 then "e" else "e+") ++ Numeral.ofInt exponent

/-- The layout of a finite magnitude. -/
def Layout.magnitude (l : Layout) (d : Double) : String :=
  if d.isZero then "0" ++ l.wholeEnd
  else
    let (n, k) := shortest l.tie d
    let point : Int := (Nat.toDigits 10 n).length + k
    let leading := point - 1
    if l.leastPositional.all (· ≤ leading) && l.greatestPositional.all (leading ≤ ·) then
      positional l.wholeEnd (significant n) point
    else scientific (significant n) leading

/-- The text of a double in a layout. -/
def Layout.text (l : Layout) (d : Double) : String :=
  if d.isNaN then "NaN"
  else (if d.negative then "-" else "") ++ (if d.isFinite then l.magnitude d else "inf")

/-- Every digit in its place, whole numbers without a point. -/
def plain : Layout := ⟨none, none, "", .up⟩

/-- The text of a double with every digit in its place. -/
def text (d : Double) : String := plain.text d

end TypeSchema.Double
