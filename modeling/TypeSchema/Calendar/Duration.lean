import TypeSchema.Calendar.Time

/-!
# Durations

A length of time in nanoseconds.  Its magnitude is at most that of a signed 64 bit
number of milliseconds.
-/

namespace TypeSchema

/-- The greatest magnitude of a duration, in nanoseconds. -/
def Duration.maxNanos : Nat := Numeral.max63 * 1000000

/-- A length of time. -/
structure Duration where
  nanos : Int
  bounded : nanos.natAbs ≤ Duration.maxNanos
deriving DecidableEq

namespace Duration

/-- The duration of so many nanoseconds, if that is not too long. -/
def ofNanos? (n : Int) : Option Duration :=
  if h : n.natAbs ≤ maxNanos then some ⟨n, h⟩ else none

/-- The duration of seconds and nanoseconds, if that is not too long. -/
def ofSeconds? (seconds : Int) (nanos : Nat) : Option Duration :=
  ofNanos? (seconds * nanosPerSecond + nanos)

/-- The whole seconds of a duration, rounded down. -/
def seconds (d : Duration) : Int := d.nanos / nanosPerSecond

/-- The nanoseconds that a duration has beyond its whole seconds. -/
def subsecond (d : Duration) : Nat := (d.nanos % nanosPerSecond).toNat

/-- The part below a second: six digits where they are exact, nine otherwise. -/
def fractionText (n : Nat) : String :=
  if n % 1000 ≠ 0 then "." ++ Numeral.padded 9 n
  else if 0 < n then "." ++ Numeral.padded 6 (n / 1000)
  else ""

/-- A sign if the duration is negative, days if there are any, hours, minutes, seconds and a
fraction. -/
def text (d : Duration) : String :=
  let total := d.nanos.natAbs / nanosPerSecond
  let days := total / 86400
  let rest := total % 86400
  (if d.nanos < 0 then "-" else "") ++
  (if 0 < days then Numeral.ofNat days ++ "." else "") ++
  Numeral.padded 2 (rest / 3600) ++ ":" ++ Numeral.padded 2 (rest % 3600 / 60) ++ ":" ++
  Numeral.padded 2 (rest % 60) ++
  fractionText (d.nanos.natAbs % nanosPerSecond)

end Duration

end TypeSchema
