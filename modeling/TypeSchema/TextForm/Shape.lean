import TypeSchema.Double
import TypeSchema.Regex.Expression

/-!
# Shapes of texts

The regular expressions that describe the texts of each kind.  Years come with four digits or with
two, fractions of a second with up to nine, and numbers between two bounds with no more digits than
the longer of the bounds.
-/

namespace TypeSchema.TextForm

open Regex

/-- Expressions one after the other. -/
def inTurn : List Expression → Expression
  | [] => .empty
  | [e] => e
  | e :: rest => .sequence e (inTurn rest)

/-- Expressions to choose from. -/
def oneOf : List Expression → Expression
  | [] => .empty
  | [e] => e
  | e :: rest => .either e (oneOf rest)

/-- A character that has no meaning of its own. -/
def plain (c : Char) : Expression := .literal c .plain

/-- A character behind a backslash. -/
def escaped (c : Char) : Expression := .literal c .escaped

/-- A word without characters that have a meaning. -/
def word (s : String) : Expression := inTurn (s.toList.map plain)

/-- A text as it stands; characters with a meaning lose it. -/
def verbatim (s : String) : Expression :=
  inTurn (s.toList.map fun c => if isMeta c then escaped c else plain c)

/-- One of a few characters. -/
def among (cs : List Char) : Expression :=
  .bracket false (.items (cs.map fun c => .char c .plain))

/-- A character between two others. -/
def between (lo hi : Char) : Expression :=
  .bracket false (.items [.range lo hi false])

/-- A part that is matched as a whole. -/
def grouped (e : Expression) : Expression := .group (.flags []) e

/-- A part that can be left out. -/
def maybe (e : Expression) : Expression := .repeated e .optional false

/-- A part that occurs as often as counted. -/
def times (e : Expression) (c : Count) : Expression := .repeated e c false

/-- A part that is remembered. -/
def remembered (name : String) (e : Expression) : Expression := .group (.named name) e

/-- A decimal digit of any script. -/
def digit : Expression := .shorthand .digit false

/-- Any characters, line ends included. -/
def anything (c : Count) : Expression := .group (.flags [(.dotAll, true)]) (times .dot c)

/-! ## Words -/

/-- The words for true. -/
def trueWords : Expression := oneOf (["true", "t", "yes", "y", "on", "1"].map word)

/-- The words for false. -/
def falseWords : Expression := oneOf (["false", "f", "no", "n", "off", "0"].map word)

/-- One of some texts. -/
def choice (values : List String) : Expression := grouped (oneOf (values.map verbatim))

/-! ## Numbers -/

/-- A sign; a minus is of no use where no number is negative. -/
def sign (nonNegative : Bool) : Expression :=
  if nonNegative then maybe (escaped '+') else maybe (among ['-', '+'])

/-- The number of digits of an integer. -/
def intDigits (i : Int64) : Nat := (Numeral.digits i.toInt.natAbs).length

/-- An integer, with no more digits than the longer of two bounds. -/
def int (min max : Option Int64) : Expression :=
  let digits := match min, max with
    | some lo, some hi => times digit (.between 1 (Nat.max (intDigits lo) (intDigits hi)))
    | _, _ => times digit .more
  .sequence (sign (min.any (0 ≤ ·))) digits

/-- The number of digits of a number in front of its point; infinity counts as a word of three
letters. -/
def wholeDigits (d : Double) : Nat :=
  if d.isFinite then (Numeral.digits d.wholePart).length else 3

/-- A number; between two bounds it has no more digits in front of the point than the longer of
them, and no power of ten. -/
def number (min max : Option Double) : Expression :=
  let sign := sign (min.any Double.zero.le)
  let places := inTurn [escaped '.', times digit .more]
  match min, max with
  | some lo, some hi =>
    .sequence sign (grouped (.either
      (.sequence (times digit (.between 1 (Nat.max (wholeDigits lo) (wholeDigits hi))))
        (maybe (grouped places)))
      places))
  | _, _ =>
    inTurn [sign,
      grouped (.either
        (.sequence (times digit .more)
          (maybe (grouped (.sequence (escaped '.') (times digit .many)))))
        places),
      maybe (grouped (inTurn [among ['e', 'E'], maybe (among ['-', '+']), times digit .more]))]

/-! ## Dates and times -/

/-- A year of so many digits. -/
def year (digits : Nat) : Expression := remembered "year" (times digit (.exactly digits))

/-- A month. -/
def month : Expression :=
  remembered "month"
    (.either (.sequence (maybe (plain '0')) (between '1' '9'))
      (.sequence (plain '1') (between '0' '2')))

/-- A day of a month. -/
def day : Expression :=
  remembered "day"
    (oneOf [.sequence (maybe (plain '0')) (between '1' '9'),
      .sequence (among ['1', '2']) digit,
      .sequence (plain '3') (among ['0', '1'])])

/-- What stands between the parts of a date. -/
def separator : Expression := among ['-', '/', '.']

/-- The orders of the parts of a date, the preferred ones first. -/
def dates : List Expression :=
  [inTurn [year 4, separator, month, separator, day],
   inTurn [month, separator, day, separator, year 4],
   inTurn [year 2, separator, month, separator, day],
   inTurn [month, separator, day, separator, year 2]]

/-- A fraction of a second behind its point, if there is one. -/
def fraction : Expression :=
  maybe (grouped (inTurn [escaped '.', remembered "fraction" (times digit (.between 1 9))]))

/-- An hour of a day. -/
def hour : Expression :=
  remembered "hour"
    (.either (.sequence (maybe (among ['0', '1'])) digit) (.sequence (plain '2') (between '0' '3')))

/-- A minute of an hour. -/
def minute : Expression := remembered "minute" (.sequence (between '0' '5') digit)

/-- A second of a minute. -/
def second : Expression := remembered "second" (.sequence (between '0' '5') digit)

/-- A time of day; seconds can be left out. -/
def time : Expression :=
  inTurn [hour, plain ':', minute, maybe (grouped (inTurn [plain ':', second, fraction]))]

/-- A date and a time. -/
def dateTimes : List Expression :=
  dates.map fun date => inTurn [date, among ['T', ' '], time]

/-- A duration: days if there are any, hours, minutes and seconds. -/
def duration : Expression :=
  inTurn [
    maybe (remembered "sign" (plain '-')),
    maybe (grouped (.sequence (remembered "days" (times digit .more)) (escaped '.'))),
    remembered "hours" (times digit (.between 1 2)),
    plain ':',
    remembered "minutes" (.sequence (maybe (between '0' '5')) digit),
    plain ':',
    remembered "seconds" (.sequence (maybe (between '0' '5')) digit),
    fraction]

/-! ## Names -/

/-- A hexadecimal digit. -/
def hexDigit : Expression := .bracket false (.items [.range '0' '9' false, .range 'a' 'f' false])

/-- Hexadecimal digits of a guid. -/
def hexDigits (n : Nat) : Expression := times hexDigit (.exactly n)

/-- A guid; braces and hyphens can be left out. -/
def guid : Expression :=
  inTurn [maybe (escaped '\x7b'), hexDigits 8, maybe (plain '-'), hexDigits 4, maybe (plain '-'),
    hexDigits 4, maybe (plain '-'), hexDigits 4, maybe (plain '-'), hexDigits 12,
    maybe (escaped '\x7d')]

/-- A scheme, a colon, and anything without blanks. -/
def uri : Expression :=
  inTurn [
    .bracket false (.items [.range 'A' 'Z' false, .range 'a' 'z' false]),
    times
      (.bracket false
        (.items [.range 'A' 'Z' false, .range 'a' 'z' false, .range '0' '9' false,
          .char '+' .plain, .char '.' .plain, .char '-' .escaped])) .many,
    plain ':',
    times (.shorthand .space true) .more]

end TypeSchema.TextForm
