import TypeSchema.Calendar.Date

/-!
# Times of day

Hour, minute, second and nanosecond.  A leap second is a second with more than a second's
nanoseconds.  Numbers name one at the end of a minute only, but a time may have one at any second,
after its nanoseconds were changed.
-/

namespace TypeSchema

/-- The nanoseconds of a second. -/
def nanosPerSecond : Nat := 1000000000

namespace Time

/-- The four numbers are those of a time of day. -/
def IsReal (h m s n : Nat) : Prop :=
  h < 24 ∧ m < 60 ∧ s < 60 ∧ n < 2 * nanosPerSecond

instance (h m s n : Nat) : Decidable (IsReal h m s n) :=
  inferInstanceAs (Decidable (_ ∧ _))

end Time

/-- A time of day. -/
structure Time where
  hour : Nat
  minute : Nat
  second : Nat
  nano : Nat
  isReal : Time.IsReal hour minute second nano
deriving DecidableEq

/-- A time on a day. -/
structure DateTime where
  date : Date
  time : Time
deriving DecidableEq

namespace Time

/-- The time that four numbers name, if there is one. -/
def ofParts? (h m s n : Nat) : Option Time :=
  if real : IsReal h m s n then
    if n < nanosPerSecond ∨ s = 59 then some ⟨h, m, s, n, real⟩ else none
  else none

/-- The text of three numbers as a time. -/
def partsText (h m s : Nat) : String :=
  Numeral.padded 2 h ++ ":" ++ Numeral.padded 2 m ++ ":" ++ Numeral.padded 2 s

/-- A fraction of a second in the fewest groups of three digits that hold it. -/
def fractionText (n : Nat) : String :=
  if n = 0 then ""
  else if n % 1000000 = 0 then "." ++ Numeral.padded 3 (n / 1000000)
  else if n % 1000 = 0 then "." ++ Numeral.padded 6 (n / 1000)
  else "." ++ Numeral.padded 9 n

/-- Hour, minute and second with colons between them, and a fraction if there is one.  A leap second
counts as the second after: at the end of a minute it is second sixty. -/
def text (t : Time) : String :=
  partsText t.hour t.minute (t.second + t.nano / nanosPerSecond) ++ fractionText (t.nano % nanosPerSecond)

end Time

/-- The text of a date and the text of a time, with a `T` between them. -/
def DateTime.text (dt : DateTime) : String :=
  dt.date.text ++ "T" ++ dt.time.text

end TypeSchema
