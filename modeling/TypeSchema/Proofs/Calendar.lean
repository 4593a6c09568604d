/-
# Calendar — durations and dates as they are written

A duration is written with a sign, days, hours, minutes, seconds and a
fraction, and `Duration.Written` holds the characters of each part.  Which
characters count as digits is left open, for the forms of texts take the
decimal digits of all scripts and the patterns of JSON Schemas only those of
ASCII.  Among ASCII characters that makes no difference (`AgreesOnAscii`), so a
minus, a point and a colon are no digits, and the characters determine the
parts (`Written.eq_of_chars_eq`).  The worth of the parts is exact, whatever the
number of days (`Written.nanos`), and what is written for a duration has parts
that are worth this duration (`exists_written`).

A date is written as three groups of digits.  The year comes first or last, and
the month is always in front of the day.  `Order.all` has the orders in the
sequence in which they are tried: four digits for the year before two, and the
year in front before the year at the end.  An order fits groups of the right
lengths whose month and day are in the range of all months (`Order.Fits`).
Whether there is such a day in that month is not looked at before the order is
settled: the first order that fits names the date or there is none
(`Groups.date?`).
-/
import TypeSchema.Calendar.Date
import TypeSchema.Calendar.Duration
import TypeSchema.Proofs.TextForm.Calendar

namespace TypeSchema

open Numeral TextForm

/-- Among the ASCII characters these are the digits. -/
def AgreesOnAscii (digit : Char → Prop) : Prop := ∀ c, c.toNat < 0x80 → (digit c ↔ c.isDigit)

theorem agreesOnAscii_isDigit : AgreesOnAscii (·.isDigit) := fun _ _ => Iff.rfl

theorem agreesOnAscii_isDecimal : AgreesOnAscii IsDecimal := fun _ => isDecimal_iff_isDigit

namespace AgreesOnAscii

variable {digit : Char → Prop} (h : AgreesOnAscii digit)
include h

theorem of_isDigit {c : Char} (hc : c.isDigit) : digit c :=
  (h c ((toNat_lt_of_isDigit hc).trans (by decide))).mpr hc

theorem not_minus : ¬ digit '-' := by simp [h '-' (by decide)]

theorem not_point : ¬ digit '.' := by simp [h '.' (by decide)]

theorem not_colon : ¬ digit ':' := by simp [h ':' (by decide)]

end AgreesOnAscii

namespace Duration

/-! ## Parts -/

/-- A duration as it is written: whether there is a sign, and the digits of the
parts.  Days and the fraction can be left out, with their points. -/
structure Written where
  negative : Bool
  days : Option (List Char)
  hours : List Char
  minutes : List Char
  seconds : List Char
  fraction : Option (List Char)
deriving DecidableEq

/-- One digit, or two of which the first is at most five. -/
def IsSixty (digit : Char → Prop) (cs : List Char) : Prop :=
  ∃ d, digit d ∧ (cs = [d] ∨ ∃ t, ('0' ≤ t ∧ t ≤ '5') ∧ cs = [t, d])

/-- No fewer and no more digits than so many. -/
def IsDigits (digit : Char → Prop) (least most : Nat) (cs : List Char) : Prop :=
  (∀ d ∈ cs, digit d) ∧ least ≤ cs.length ∧ cs.length ≤ most

theorem IsSixty.digit_of_mem {digit : Char → Prop} (hd : AgreesOnAscii digit) {cs : List Char}
    (h : IsSixty digit cs) : ∀ c ∈ cs, digit c := by
  obtain ⟨d, hdigit, rfl | ⟨t, ⟨hlo, hhi⟩, rfl⟩⟩ := h
  · simpa using hdigit
  · have ht : t.isDigit := by
      simp only [Char.le_def, UInt32.le_iff_toNat_le, Char.reduceVal] at hlo hhi
      exact isDigit_iff.mpr ⟨hlo, le_trans hhi (by decide)⟩
    simpa using ⟨hd.of_isDigit ht, hdigit⟩

theorem IsSixty.length {digit : Char → Prop} {cs : List Char} (h : IsSixty digit cs) :
    cs.length = 1 ∨ cs.length = 2 := by
  obtain ⟨d, -, rfl | ⟨t, -, rfl⟩⟩ := h
  · exact .inl rfl
  · exact .inr rfl

theorem IsSixty.isDigits {digit : Char → Prop} (hd : AgreesOnAscii digit) {cs : List Char}
    (h : IsSixty digit cs) : IsDigits digit 1 2 cs :=
  ⟨h.digit_of_mem hd, by rcases h.length with h | h <;> omega, by
    rcases h.length with h | h <;> omega⟩

namespace Written

/-- The parts have the characters that they may have. -/
structure IsMadeOf (digit : Char → Prop) (w : Written) : Prop where
  days : ∀ ds, w.days = some ds → (∀ d ∈ ds, digit d) ∧ ds ≠ []
  hours : IsDigits digit 1 2 w.hours
  minutes : IsSixty digit w.minutes
  seconds : IsSixty digit w.seconds
  fraction : ∀ ds, w.fraction = some ds → IsDigits digit 1 9 ds

/-! ## Characters -/

/-- A minus, if there is a sign. -/
def signChars (negative : Bool) : List Char := if negative then ['-'] else []

/-- The days with their point, if they are written. -/
def daysChars : Option (List Char) → List Char
  | none => []
  | some ds => ds ++ ['.']

/-- The fraction with its point, if it is written. -/
def fractionChars : Option (List Char) → List Char
  | none => []
  | some ds => '.' :: ds

/-- What is written behind the days. -/
def clock (w : Written) : List Char :=
  w.hours ++ ':' :: (w.minutes ++ ':' :: (w.seconds ++ fractionChars w.fraction))

/-- What is written behind the sign. -/
def unsigned (w : Written) : List Char := daysChars w.days ++ w.clock

/-- All characters that are written. -/
def chars (w : Written) : List Char := signChars w.negative ++ w.unsigned

/-- The text as a whole. -/
def text (w : Written) : String := String.ofList w.chars

theorem toList_text {w : Written} : w.text.toList = w.chars := String.toList_ofList

/-- Digits of one sort stay digits if they are of another. -/
theorem IsMadeOf.imp {digit digit' : Char → Prop} {w : Written} (hw : w.IsMadeOf digit)
    (h : ∀ c ∈ w.chars, digit c → digit' c) : w.IsMadeOf digit' := by
  simp only [chars, unsigned, clock, List.mem_append, List.mem_cons] at h
  have sixty : ∀ {cs}, (∀ c ∈ cs, digit c → digit' c) → IsSixty digit cs → IsSixty digit' cs := by
    rintro _ hcs ⟨d, hd, rfl | ⟨t, ht, rfl⟩⟩
    · exact ⟨d, hcs d (by simp) hd, .inl rfl⟩
    · exact ⟨d, hcs d (by simp) hd, .inr ⟨t, ht, rfl⟩⟩
  constructor
  · intro ds hds
    obtain ⟨hdigit, hne⟩ := hw.days ds hds
    exact ⟨fun d hd => h d (by simp [hds, daysChars, hd]) (hdigit d hd), hne⟩
  · exact ⟨fun d hd => h d (by simp [hd]) (hw.hours.1 d hd), hw.hours.2⟩
  · exact sixty (fun c hc => h c (by simp [hc])) hw.minutes
  · exact sixty (fun c hc => h c (by simp [hc])) hw.seconds
  · intro ds hds
    obtain ⟨hdigit, hlength⟩ := hw.fraction ds hds
    exact ⟨fun d hd => h d (by simp [hds, fractionChars, hd]) (hdigit d hd), hlength⟩

/-! ## The only cut -/

section Cut

variable {digit : Char → Prop} (hd : AgreesOnAscii digit) {w w' : Written}
include hd

theorem seconds_eq {s s' : List Char} {x x' : Option (List Char)} (hs : ∀ c ∈ s, digit c)
    (hs' : ∀ c ∈ s', digit c) (h : s ++ fractionChars x = s' ++ fractionChars x') :
    s = s' ∧ x = x' := by
  cases x with
  | none =>
      cases x' with
      | none => exact ⟨by simpa [fractionChars] using h, rfl⟩
      | some ds =>
          obtain rfl : s = s' ++ '.' :: ds := by simpa [fractionChars] using h
          exact absurd (hs _ (by simp)) hd.not_point
  | some ds =>
      cases x' with
      | none =>
          obtain rfl : s ++ '.' :: ds = s' := by simpa [fractionChars] using h
          exact absurd (hs' _ (by simp)) hd.not_point
      | some ds' =>
          obtain ⟨rfl, -, rfl⟩ := cut_eq hs hs' hd.not_point hd.not_point h
          exact ⟨rfl, rfl⟩

variable (hw : w.IsMadeOf digit) (hw' : w'.IsMadeOf digit)
include hw hw'

theorem clock_eq (h : w.clock = w'.clock) : w.hours = w'.hours ∧ w.minutes = w'.minutes ∧
    w.seconds = w'.seconds ∧ w.fraction = w'.fraction := by
  obtain ⟨hhours, -, h⟩ := cut_eq hw.hours.1 hw'.hours.1 hd.not_colon hd.not_colon h
  obtain ⟨hminutes, -, h⟩ := cut_eq (hw.minutes.digit_of_mem hd) (hw'.minutes.digit_of_mem hd)
    hd.not_colon hd.not_colon h
  exact ⟨hhours, hminutes,
    seconds_eq hd (hw.seconds.digit_of_mem hd) (hw'.seconds.digit_of_mem hd) h⟩

/-- Days end with a point, and where there are none the first digits end with a
colon. -/
theorem unsigned_eq (h : w.unsigned = w'.unsigned) : w.days = w'.days ∧ w.clock = w'.clock := by
  unfold unsigned at h
  cases hdays : w.days with
  | none =>
      cases hdays' : w'.days with
      | none => exact ⟨rfl, by simpa [hdays, hdays', daysChars] using h⟩
      | some ds =>
          have hds := (hw'.days ds hdays').1
          have h : w.clock = ds ++ '.' :: w'.clock := by
            simpa [hdays, hdays', daysChars] using h
          have hsep := (cut_eq hw.hours.1 hds hd.not_colon hd.not_point h).2.1
          exact absurd hsep (by decide)
  | some ds =>
      have hds := (hw.days ds hdays).1
      cases hdays' : w'.days with
      | none =>
          have h : ds ++ '.' :: w.clock = w'.clock := by
            simpa [hdays, hdays', daysChars] using h
          have hsep := (cut_eq hds hw'.hours.1 hd.not_point hd.not_colon h).2.1
          exact absurd hsep (by decide)
      | some ds' =>
          have h : ds ++ '.' :: w.clock = ds' ++ '.' :: w'.clock := by
            simpa [hdays, hdays', daysChars] using h
          obtain ⟨rfl, -, hclock⟩ :=
            cut_eq hds (hw'.days ds' hdays').1 hd.not_point hd.not_point h
          exact ⟨rfl, hclock⟩

omit hd hw' in
/-- What is written behind the sign starts with a digit. -/
theorem exists_unsigned_eq_cons : ∃ d rest, w.unsigned = d :: rest ∧ digit d := by
  unfold unsigned
  cases hdays : w.days with
  | none =>
      obtain ⟨hdigit, hpos, -⟩ := hw.hours
      obtain ⟨d, ds, hds⟩ := List.exists_cons_of_length_pos hpos
      exact ⟨d, ds ++ ':' :: _, by rw [daysChars, clock, hds]; rfl, hdigit d (by simp [hds])⟩
  | some ds =>
      obtain ⟨hdigit, hne⟩ := hw.days ds hdays
      cases ds with
      | nil => exact absurd rfl hne
      | cons d ds => exact ⟨d, _, rfl, hdigit d List.mem_cons_self⟩

/-- The characters determine the parts. -/
theorem eq_of_chars_eq (h : w.chars = w'.chars) : w = w' := by
  obtain ⟨d, rest, hunsigned, hdigit⟩ := exists_unsigned_eq_cons hw
  obtain ⟨d', rest', hunsigned', hdigit'⟩ := exists_unsigned_eq_cons hw'
  have hsign : w.negative = w'.negative ∧ w.unsigned = w'.unsigned := by
    unfold chars at h
    cases hn : w.negative with
    | false =>
        cases hn' : w'.negative with
        | false => exact ⟨rfl, by simpa [hn, hn', signChars] using h⟩
        | true =>
            have hminus : d = '-' := by
              simp only [hn, hn', signChars, hunsigned] at h
              exact (List.cons.inj h).1
            exact absurd (hminus ▸ hdigit) hd.not_minus
    | true =>
        cases hn' : w'.negative with
        | false =>
            have hminus : '-' = d' := by
              simp only [hn, hn', signChars, hunsigned'] at h
              exact (List.cons.inj h).1
            exact absurd (hminus ▸ hdigit') hd.not_minus
        | true => exact ⟨rfl, by simpa [hn, hn', signChars] using h⟩
  obtain ⟨hdays, hclock⟩ := unsigned_eq hd hw hw' hsign.2
  obtain ⟨hhours, hminutes, hseconds, hfraction⟩ := clock_eq hd hw hw' hclock
  cases w
  cases w'
  simp_all

end Cut

/-! ## Worth -/

/-- The number that digits write. -/
def value (cs : List Char) : Nat := Nat.ofDigitChars 10 cs 0

theorem value_padLeft {w n : Nat} : value (padLeft w (digits n)) = n := by
  rw [value, ofDigitChars_padLeft, ofDigitChars_digits]

/-- The number of days, none where they are left out. -/
def dayCount (w : Written) : Nat := w.days.elim 0 value

/-- The whole seconds, whatever the sign. -/
def wholeSeconds (w : Written) : Nat :=
  ((w.dayCount * 24 + value w.hours) * 60 + value w.minutes) * 60 + value w.seconds

/-- The nanoseconds of the fraction: its digits with zeros up to the ninth. -/
def fractionNanos (w : Written) : Nat :=
  w.fraction.elim 0 fun ds => value ds * 10 ^ (9 - ds.length)

/-- The nanoseconds, whatever the sign. -/
def magnitude (w : Written) : Nat := w.wholeSeconds * nanosPerSecond + w.fractionNanos

/-- The nanoseconds that are written. -/
def nanos (w : Written) : Int := if w.negative then -(w.magnitude : Int) else w.magnitude

theorem natAbs_nanos {w : Written} : w.nanos.natAbs = w.magnitude := by
  unfold nanos
  split
  · simp
  · simp

/-- A day is too long for a number of days beyond 64 bits. -/
theorem dayCount_le {w : Written} (h : w.magnitude ≤ maxNanos) : w.dayCount ≤ max63 := by
  unfold magnitude wholeSeconds maxNanos nanosPerSecond max63 at h
  unfold max63
  omega

end Written

/-! ## What is written for a duration -/

open Written

/-- The digits of a fraction: six where they are exact, nine otherwise. -/
def fractionDigits (n : Nat) : Option (List Char) :=
  if n % 1000 ≠ 0 then some (padLeft 9 (digits n))
  else if 0 < n then some (padLeft 6 (digits (n / 1000)))
  else none

/-- The parts that are written for a duration. -/
def written (d : Duration) : Written where
  negative := d.nanos < 0
  days :=
    let days := d.nanos.natAbs / nanosPerSecond / 86400
    if 0 < days then some (digits days) else none
  hours := twoDigits (d.nanos.natAbs / nanosPerSecond % 86400 / 3600)
  minutes := twoDigits (d.nanos.natAbs / nanosPerSecond % 86400 % 3600 / 60)
  seconds := twoDigits (d.nanos.natAbs / nanosPerSecond % 86400 % 60)
  fraction := fractionDigits (d.nanos.natAbs % nanosPerSecond)

theorem toList_fractionText {n : Nat} :
    (fractionText n).toList = fractionChars (fractionDigits n) := by
  unfold fractionText fractionDigits
  split
  · simp [fractionChars, toList_padded]
  · split
    · simp [fractionChars, toList_padded]
    · rfl

theorem text_written {d : Duration} : d.written.text = d.text := by
  have hsign : (if d.nanos < 0 then "-" else "").toList = signChars (d.nanos < 0) := by
    unfold signChars
    split
    · simp [*]
    · simp [*]
  have hdays (n : Nat) : (if 0 < n then ofNat n ++ "." else "").toList =
      daysChars (if 0 < n then some (digits n) else none) := by
    split
    · simp [daysChars, toList_ofNat]
    · rfl
  apply String.toList_inj.mp
  rw [toList_text, Duration.text]
  simp only [String.toList_append, hsign, hdays, toList_padded, toList_fractionText]
  simp [chars, unsigned, clock, written, twoDigits]

/-- A fraction of a second has up to nine digits, and is worth as many
nanoseconds as it is written for. -/
theorem isDigits_fractionDigits {n : Nat} (hn : n < nanosPerSecond) :
    (∀ ds, fractionDigits n = some ds → IsDigits (·.isDigit) 1 9 ds) ∧
      ((fractionDigits n).elim 0 fun ds => value ds * 10 ^ (9 - ds.length)) = n := by
  unfold nanosPerSecond at hn
  have written {k m : Nat} (hk : 0 < k) (hk9 : k ≤ 9) (hm : m < 10 ^ k)
      (hvalue : m * 10 ^ (9 - k) = n) :
      IsDigits (·.isDigit) 1 9 (padLeft k (digits m)) ∧
        value (padLeft k (digits m)) * 10 ^ (9 - (padLeft k (digits m)).length) = n := by
    have hlength := length_padLeft hk hm
    refine ⟨⟨fun _ => isDigit_of_mem_padLeft, ?_, ?_⟩, ?_⟩
    · omega
    · omega
    · rw [value_padLeft, hlength, hvalue]
  unfold fractionDigits
  split
  · simpa using written (k := 9) (m := n) (by decide) (by decide) (by omega) (by omega)
  · split
    · simpa using
        written (k := 6) (m := n / 1000) (by decide) (by decide) (by omega) (by omega)
    · simp only [reduceCtorEq, false_imp_iff, implies_true, Option.elim_none, true_and]
      omega

theorem isDigits_twoDigits {n : Nat} (hn : n < 100) : IsDigits (·.isDigit) 1 2 (twoDigits n) := by
  have hlength : (twoDigits n).length = 2 := length_padLeft (by decide) hn
  exact ⟨isDigit_of_mem_twoDigits, by omega, by omega⟩

theorem isSixty_twoDigits {n : Nat} (hn : n < 60) : IsSixty (·.isDigit) (twoDigits n) := by
  have all : ∀ t < 6, '0' ≤ Nat.digitChar t ∧ Nat.digitChar t ≤ '5' := by decide
  exact ⟨_, isDigit_digitChar (Nat.mod_lt n (by decide)),
    .inr ⟨_, all (n / 10) (by omega), twoDigits_eq (by omega)⟩⟩

theorem isMadeOf_written (d : Duration) : d.written.IsMadeOf (·.isDigit) where
  days ds hds := by
    simp only [written] at hds
    split at hds
    · cases hds
      exact ⟨fun _ => isDigit_of_mem_digits, digits_ne_nil⟩
    · cases hds
  hours := isDigits_twoDigits (by omega)
  minutes := isSixty_twoDigits (by omega)
  seconds := isSixty_twoDigits (by omega)
  fraction := (isDigits_fractionDigits (Nat.mod_lt _ (by decide))).1

theorem wholeSeconds_written (d : Duration) :
    d.written.wholeSeconds = d.nanos.natAbs / nanosPerSecond := by
  have hdays : d.written.dayCount = d.nanos.natAbs / nanosPerSecond / 86400 := by
    simp only [dayCount, written]
    split
    · exact ofDigitChars_digits
    · rename_i hnone
      exact (Nat.eq_zero_of_not_pos hnone).symm
  rw [wholeSeconds, hdays]
  simp only [written, twoDigits, value_padLeft]
  omega

/-- The parts that are written for a duration are worth this duration. -/
theorem nanos_written (d : Duration) : d.written.nanos = d.nanos := by
  have hmagnitude : d.written.magnitude = d.nanos.natAbs := by
    rw [magnitude, wholeSeconds_written, fractionNanos]
    simp only [written, (isDigits_fractionDigits (Nat.mod_lt _ (by decide))).2]
    exact Nat.div_add_mod' ..
  rw [Written.nanos, hmagnitude]
  simp only [written, decide_eq_true_eq]
  split
  · omega
  · omega

end Duration

/-! ## Orders of dates -/

namespace Date

open Duration.Written (value)

/-- Three groups of digits, as they stand in a text. -/
structure Groups where
  first : List Char
  second : List Char
  third : List Char
deriving DecidableEq

/-- What can stand between two groups. -/
def separators : List Char := ['-', '/', '.']

namespace Groups

/-- All that the groups hold. -/
def chars (g : Groups) : List Char := g.first ++ g.second ++ g.third

/-- The groups with a character between each two of them. -/
def joined (g : Groups) (s s' : Char) : List Char :=
  g.first ++ s :: (g.second ++ s' :: g.third)

/-- The text is these groups of ASCII digits, with single separators between
them. -/
structure Spell (g : Groups) (text : String) : Prop where
  isDigit : ∀ d ∈ g.chars, d.isDigit
  joined : ∃ s ∈ separators, ∃ s' ∈ separators, text.toList = g.joined s s'

end Groups

/-- Where the year stands, and with how many digits. -/
structure Order where
  yearFirst : Bool
  yearDigits : Nat
deriving DecidableEq

namespace Order

/-- The orders, the preferred ones first. -/
def all : List Order := [⟨true, 4⟩, ⟨false, 4⟩, ⟨true, 2⟩, ⟨false, 2⟩]

section Parts

variable (o : Order) (g : Groups)

/-- The group of the year. -/
def year : List Char := if o.yearFirst then g.first else g.third

/-- The group of the month. -/
def month : List Char := if o.yearFirst then g.second else g.first

/-- The group of the day. -/
def day : List Char := if o.yearFirst then g.third else g.second

/-- The year that is meant; two digits count from the first year of the
century. -/
def yearOf (century : Int) : Int :=
  (if o.yearDigits = 2 then century else 0) + value (o.year g)

end Parts

/-- One or two digits, worth at least one and no more than this. -/
def IsPart (most : Nat) (ds : List Char) : Prop :=
  (ds.length = 1 ∨ ds.length = 2) ∧ 1 ≤ value ds ∧ value ds ≤ most

/-- The groups have the lengths that the order asks for, and a month and a day
in the range of all months. -/
def Fits (o : Order) (g : Groups) : Prop :=
  (o.year g).length = o.yearDigits ∧ IsPart 12 (o.month g) ∧ IsPart 31 (o.day g)

instance (o : Order) (g : Groups) : Decidable (o.Fits g) :=
  inferInstanceAs (Decidable (_ ∧ ((_ ∨ _) ∧ _ ∧ _) ∧ ((_ ∨ _) ∧ _ ∧ _)))

/-- The date that the groups name in this order. -/
def date? (o : Order) (century : Int) (g : Groups) : Option Date :=
  ofParts? (o.yearOf g century) (value (o.month g)) (value (o.day g))

theorem yearDigits_of_mem_all {o : Order} (h : o ∈ all) : o.yearDigits = 4 ∨ o.yearDigits = 2 := by
  have each : ∀ o ∈ all, o.yearDigits = 4 ∨ o.yearDigits = 2 := by decide
  exact each o h

/-- Each group is one of the three parts. -/
theorem mem_chars_iff {o : Order} {g : Groups} {d : Char} :
    d ∈ g.chars ↔ d ∈ o.year g ∨ d ∈ o.month g ∨ d ∈ o.day g := by
  simp only [Groups.chars, List.mem_append]
  cases hfirst : o.yearFirst with
  | true =>
      simp only [year, month, day, hfirst, if_true]
      tauto
  | false =>
      simp only [year, month, day, hfirst, Bool.false_eq_true, if_false]
      tauto

end Order

namespace Groups

/-- The first order that fits. -/
def order? (g : Groups) : Option Order := Order.all.find? (·.Fits g)

/-- The date that the groups name in the first order that fits. -/
def date? (century : Int) (g : Groups) : Option Date :=
  g.order?.bind (·.date? century g)

end Groups

end Date

end TypeSchema
