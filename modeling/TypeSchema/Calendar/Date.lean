import TypeSchema.Text.Numeral

/-!
# Dates

Days of the Gregorian calendar, extended without limit to the past; years are limited on both
sides.
-/

namespace TypeSchema

namespace Date

/-- The first year that has dates. -/
def minYear : Int := -262143

/-- The last year that has dates. -/
def maxYear : Int := 262142

/-- Every fourth year is a leap year, but of the years divisible by a hundred only those divisible
by four hundred are. -/
def isLeapYear (y : Int) : Bool :=
  y % 4 = 0 && (y % 100 ≠ 0 || y % 400 = 0)

/-- The number of days of a month. -/
def daysInMonth (y : Int) (m : Nat) : Nat :=
  if m = 2 then (if isLeapYear y then 29 else 28)
  else if m = 4 ∨ m = 6 ∨ m = 9 ∨ m = 11 then 30
  else 31

/-- The three numbers name a day of the calendar. -/
def IsReal (y : Int) (m d : Nat) : Prop :=
  minYear ≤ y ∧ y ≤ maxYear ∧ 1 ≤ m ∧ m ≤ 12 ∧ 1 ≤ d ∧ d ≤ daysInMonth y m

instance (y : Int) (m d : Nat) : Decidable (IsReal y m d) :=
  inferInstanceAs (Decidable (_ ∧ _))

end Date

/-- A day of the calendar. -/
structure Date where
  year : Int
  month : Nat
  day : Nat
  isReal : Date.IsReal year month day
deriving DecidableEq

namespace Date

/-- The day of a year, month and day, if there is one. -/
def ofParts? (y : Int) (m d : Nat) : Option Date :=
  if h : IsReal y m d then some ⟨y, m, d, h⟩ else none

/-- The text of three numbers as a date. -/
def partsText (y : Int) (m d : Nat) : String :=
  Numeral.paddedInt 4 y ++ "-" ++ Numeral.padded 2 m ++ "-" ++ Numeral.padded 2 d

/-- Year, month and day with hyphens between them. -/
def text (d : Date) : String := partsText d.year d.month d.day

/-- The year has four digits. -/
def hasFourDigitYear (d : Date) : Bool := 0 ≤ d.year && d.year ≤ 9999

end Date

end TypeSchema
