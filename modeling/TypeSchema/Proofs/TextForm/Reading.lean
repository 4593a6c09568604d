/-
# Reading — dates and times from their parts

A date and a time are read from groups that hold the digits of their numbers
with zeros in front (`readDate_eq_ok`, `readTime_eq_ok`).  A fraction holds
three, six or nine digits and stands for nanoseconds once zeros are put behind
it (`nanosPart_eq_ok`).

A fraction is cut by bytes.  ASCII digits are cut anywhere; in general there
is no cut exactly if the ninth byte is followed by the rest of a character
(`cutBytes_eq_none_iff`).
-/
import TypeSchema.Proofs.Steps
import TypeSchema.Proofs.TextForm.Calendar
import TypeSchema.TextForm.Reading

namespace TypeSchema

open Regex Numeral

/-! ## Texts -/

theorem Date.toList_text {d : Date} (h : d.hasFourDigitYear) :
    d.text.toList = padLeft 4 (digits d.year.natAbs) ++
      '-' :: (TextForm.twoDigits d.month ++ '-' :: TextForm.twoDigits d.day) := by
  have hpos : ¬ d.year < 0 := by
    simp only [Date.hasFourDigitYear, Bool.and_eq_true, decide_eq_true_eq] at h
    omega
  simp [Date.text, Date.partsText, paddedInt, hpos, toList_padded, TextForm.twoDigits]

theorem Time.toList_text (t : Time) : t.text.toList =
    TextForm.twoDigits t.hour ++ ':' :: (TextForm.twoDigits t.minute ++ ':' ::
      (TextForm.twoDigits (t.second + t.nano / nanosPerSecond) ++
        (Time.fractionText (t.nano % nanosPerSecond)).toList)) := by
  simp [Time.text, Time.partsText, toList_padded, TextForm.twoDigits]

/-- A fraction has up to nine digits, and stands for as many nanoseconds as it
has with zeros behind. -/
theorem Time.toList_fractionText {n : Nat} (hn : n < nanosPerSecond) :
    (n = 0 ∧ (Time.fractionText n).toList = []) ∨
      ∃ k m, 0 < k ∧ k ≤ 9 ∧ m < 10 ^ k ∧ m * 10 ^ (9 - k) = n ∧
        (Time.fractionText n).toList = '.' :: padLeft k (digits m) := by
  unfold nanosPerSecond at hn
  unfold Time.fractionText
  split
  · exact .inl ⟨‹n = 0›, rfl⟩
  · right
    split
    · exact ⟨3, n / 1000000, by decide, by decide, by omega, by omega, by simp [toList_padded]⟩
    · split
      · exact ⟨6, n / 1000, by decide, by decide, by omega, by omega, by simp [toList_padded]⟩
      · exact ⟨9, n, by decide, by decide, by omega, by omega, by simp [toList_padded]⟩

namespace TextForm

/-! ## Bytes -/

theorem byteLength_cons {c : Char} {cs : List Char} :
    byteLength (c :: cs) = c.utf8Size + byteLength cs := rfl

theorem length_le_byteLength {cs : List Char} : cs.length ≤ byteLength cs := by
  induction cs with
  | nil => exact Nat.le_refl 0
  | cons c cs ih =>
      have := c.utf8Size_pos
      rw [List.length_cons, byteLength_cons]
      omega

theorem byteLength_of_isDigit {cs : List Char} (h : ∀ c ∈ cs, c.isDigit) :
    byteLength cs = cs.length := by
  induction cs with
  | nil => rfl
  | cons c cs ih =>
      have hc : c.utf8Size = 1 := by
        have := toNat_lt_of_isDigit (h c List.mem_cons_self)
        rw [Char.utf8Size_eq_one_iff, UInt32.le_iff_toNat_le]
        exact (Nat.le_of_lt this).trans (by decide)
      rw [byteLength_cons, hc, ih fun d hd => h d (List.mem_cons_of_mem _ hd), List.length_cons,
        Nat.add_comm]

/-- Characters that take no more bytes are left whole. -/
theorem cutBytes_of_le {n : Nat} {cs : List Char} (h : byteLength cs ≤ n) :
    cutBytes n cs = some cs := by
  induction cs generalizing n with
  | nil => rfl
  | cons c cs ih =>
      have hc := c.utf8Size_pos
      rw [byteLength_cons] at h
      unfold cutBytes
      rw [if_neg (by omega), if_pos (by omega), ih (by omega)]
      rfl

theorem byteLength_le_of_cutBytes {n : Nat} {cs xs : List Char} (h : cutBytes n cs = some xs) :
    byteLength xs ≤ n := by
  induction cs generalizing n xs with
  | nil =>
      cases h
      exact Nat.zero_le n
  | cons c cs ih =>
      unfold cutBytes at h
      split at h
      · cases h
        exact Nat.zero_le n
      · split at h
        · obtain ⟨ys, hys, rfl⟩ := Option.map_eq_some_iff.mp h
          have := ih hys
          rw [byteLength_cons]
          omega
        · cases h

/-- There is no cut exactly if more bytes would remain, and none of the starts
has the wanted length. -/
theorem cutBytes_eq_none_iff {n : Nat} {cs : List Char} :
    cutBytes n cs = none ↔ n < byteLength cs ∧ ∀ xs, xs <+: cs → byteLength xs ≠ n := by
  induction cs generalizing n with
  | nil => simp [cutBytes, byteLength]
  | cons c cs ih =>
      have hc := c.utf8Size_pos
      unfold cutBytes
      by_cases hn : n = 0
      · rw [if_pos hn]
        simp only [reduceCtorEq, false_iff, not_and]
        exact fun _ hall => hall [] List.nil_prefix hn.symm
      · rw [if_neg hn]
        by_cases hle : c.utf8Size ≤ n
        · rw [if_pos hle, Option.map_eq_none_iff, ih, byteLength_cons]
          constructor
          · rintro ⟨hlt, hall⟩
            refine ⟨by omega, fun xs hxs => ?_⟩
            cases xs with
            | nil => exact fun h => hn h.symm
            | cons x xs =>
                obtain ⟨rfl, htail⟩ := List.cons_prefix_cons.mp hxs
                have := hall xs htail
                rw [byteLength_cons]
                omega
          · rintro ⟨hlt, hall⟩
            refine ⟨by omega, fun xs hxs => ?_⟩
            have := hall (c :: xs) ((List.prefix_cons_inj c).mpr hxs)
            rw [byteLength_cons] at this
            omega
        · rw [if_neg hle]
          simp only [true_iff]
          refine ⟨by rw [byteLength_cons]; omega, fun xs hxs => ?_⟩
          cases xs with
          | nil => exact fun h => hn h.symm
          | cons x xs =>
              obtain ⟨rfl, -⟩ := List.cons_prefix_cons.mp hxs
              rw [byteLength_cons]
              omega

/-! ## Parts -/

section Parts

variable {caps : Captures} {name : String} {l w n : Nat}

theorem natPart_eq_ok (h : caps.get? name = some (padLeft w (digits n))) (hn : n ≤ l) :
    natPart l caps name = .ok n := by
  simp only [natPart, h, readNat_padLeft hn]
  rfl

/-- Digits within the limit are read to their value. -/
theorem intPart_of_isDigit {ds : List Char} (h : caps.get? name = some ds) (hne : ds ≠ [])
    (hd : ∀ d ∈ ds, d.isDigit) (hle : Nat.ofDigitChars 10 ds 0 ≤ l) :
    intPart l caps name = .ok (Nat.ofDigitChars 10 ds 0 : Int) := by
  simp only [intPart, h, readInt_of_isDigit hne hd, readDigits_eq_ok hd hle]
  rfl

theorem intPart_eq_error {ds : List Char} (h : caps.get? name = some ds) (hne : ds ≠ [])
    (hd : ∀ d ∈ ds, d.isDigit) (hlt : l < Nat.ofDigitChars 10 ds 0) :
    intPart l caps name = .error (.part name (String.ofList ds) .tooLarge) := by
  simp only [intPart, h, readInt_of_isDigit hne hd, readDigits_eq_error hd (Nat.zero_le l) hlt]
  rfl

theorem not_sign_of_isDecimal {ds : List Char} (hds : ∀ d ∈ ds, IsDecimal d) :
    '+' ∉ ds ∧ '-' ∉ ds := by
  have signs : ¬ IsDecimal '+' ∧ ¬ IsDecimal '-' := by decide +kernel
  exact ⟨fun h => signs.1 (hds _ h), fun h => signs.2 (hds _ h)⟩

/-- Of decimal digits only those of ASCII are read, to their value. -/
theorem natPart_eq_ok_iff {ds : List Char} (h : caps.get? name = some ds) (hne : ds ≠ [])
    (hds : ∀ d ∈ ds, IsDecimal d) : natPart l caps name = .ok n ↔
      (∀ d ∈ ds, d.isDigit) ∧ Nat.ofDigitChars 10 ds 0 ≤ l ∧ n = Nat.ofDigitChars 10 ds 0 := by
  have hread : natPart l caps name = .ok n ↔ readDigits l .tooLarge 0 ds = .ok n := by
    rw [← readNat_of_unsigned hne (not_sign_of_isDecimal hds).1]
    simp only [natPart, h, Steps.mapError_eq_ok]
  rw [hread, readDigits_eq_ok_iff]

theorem intPart_eq_ok_iff {ds : List Char} {i : Int} (h : caps.get? name = some ds) (hne : ds ≠ [])
    (hds : ∀ d ∈ ds, IsDecimal d) : intPart l caps name = .ok i ↔
      (∀ d ∈ ds, d.isDigit) ∧ Nat.ofDigitChars 10 ds 0 ≤ l ∧
        i = (Nat.ofDigitChars 10 ds 0 : Int) := by
  obtain ⟨hplus, hminus⟩ := not_sign_of_isDecimal hds
  simp only [intPart, h, Steps.mapError_eq_ok, readInt_of_unsigned hne hplus hminus,
    Steps.map_eq_ok, readDigits_eq_ok_iff]
  constructor
  · rintro ⟨_, ⟨hd, hle, rfl⟩, rfl⟩
    exact ⟨hd, hle, rfl⟩
  · rintro ⟨hd, hle, rfl⟩
    exact ⟨_, ⟨hd, hle, rfl⟩, rfl⟩

theorem isDigit_of_natPart {ds : List Char} (hget : caps.get? name = some ds)
    (hds : ∀ d ∈ ds, IsDecimal d) (h : natPart l caps name = .ok n) : ∀ d ∈ ds, d.isDigit := by
  rcases eq_or_ne ds [] with rfl | hne
  · simp
  · exact ((natPart_eq_ok_iff hget hne hds).mp h).1

theorem isDigit_of_intPart {ds : List Char} {i : Int} (hget : caps.get? name = some ds)
    (hds : ∀ d ∈ ds, IsDecimal d) (h : intPart l caps name = .ok i) : ∀ d ∈ ds, d.isDigit := by
  rcases eq_or_ne ds [] with rfl | hne
  · simp
  · exact ((intPart_eq_ok_iff hget hne hds).mp h).1

theorem intPart_of_none (h : caps.get? name = none) : intPart l caps name = .ok 0 := by
  simp only [intPart, h]

theorem intPart_eq_ok (h : caps.get? name = some (padLeft w (digits n))) (hn : n ≤ l) :
    intPart l caps name = .ok (n : Int) := by
  have value : Nat.ofDigitChars 10 (padLeft w (digits n)) 0 = n := by
    rw [ofDigitChars_padLeft, ofDigitChars_digits]
  rw [intPart_of_isDigit h (padLeft_ne_nil digits_ne_nil) (fun _ => isDigit_of_mem_padLeft)
    (value.le.trans hn), value]

theorem ofDigitChars_zeros {cs : List Char} {k n : Nat} :
    Nat.ofDigitChars 10 (cs ++ List.replicate k '0') n = Nat.ofDigitChars 10 cs n * 10 ^ k := by
  induction cs generalizing n with
  | nil =>
      induction k generalizing n with
      | zero => simp
      | succ k ih =>
          rw [List.nil_append, List.replicate_succ, Nat.ofDigitChars_cons]
          have := ih (n := 10 * n + ('0'.toNat - '0'.toNat))
          simp only [List.nil_append, Nat.ofDigitChars_nil] at this ⊢
          rw [this, Nat.pow_succ]
          simp only [Nat.sub_self, Nat.add_zero]
          rw [Nat.mul_comm 10 n, Nat.mul_assoc, Nat.mul_comm 10]
  | cons c cs ih => simp only [List.cons_append, Nat.ofDigitChars_cons, ih]

/-- Digits of a fraction are as many nanoseconds as they are with zeros up to
the ninth place. -/
theorem nanosPart_of_isDigit {ds : List Char} (h : caps.get? "fraction" = some ds) (hne : ds ≠ [])
    (hd : ∀ d ∈ ds, d.isDigit) (h9 : ds.length ≤ 9) :
    nanosPart caps = .ok (Nat.ofDigitChars 10 ds 0 * 10 ^ (9 - ds.length)) := by
  have hbytes := byteLength_of_isDigit hd
  have hvalue : Nat.ofDigitChars 10 (padFraction ds) 0 =
      Nat.ofDigitChars 10 ds 0 * 10 ^ (9 - ds.length) := by
    rw [padFraction, hbytes, ofDigitChars_zeros]
  have hlimit : Nat.ofDigitChars 10 ds 0 * 10 ^ (9 - ds.length) ≤ max32 := by
    have := Nat.mul_le_mul_right (10 ^ (9 - ds.length)) (ofDigitChars_lt hd).le
    rw [← Nat.pow_add, Nat.add_sub_cancel' h9] at this
    exact this.trans (by decide)
  have hdigits : ∀ c ∈ padFraction ds, c.isDigit := by
    intro c hc
    rcases List.mem_append.mp hc with hc | hc
    · exact hd c hc
    · rw [(List.mem_replicate.mp hc).2]
      rfl
  have hread : readNat max32 (padFraction ds) =
      .ok (Nat.ofDigitChars 10 ds 0 * 10 ^ (9 - ds.length)) := by
    rw [readNat_of_isDigit (by simp [padFraction, hne]) hdigits,
      readDigits_eq_ok hdigits (hvalue.le.trans hlimit), hvalue]
  simp only [nanosPart, h, cutBytes_of_le (hbytes.le.trans h9), hread]
  rfl

theorem nanosPart_eq_ok {k m : Nat} (hk : 0 < k) (hk9 : k ≤ 9) (hm : m < 10 ^ k)
    (h : caps.get? "fraction" = some (padLeft k (digits m))) :
    nanosPart caps = .ok (m * 10 ^ (9 - k)) := by
  have hlength := length_padLeft hk hm
  have hread := nanosPart_of_isDigit h (padLeft_ne_nil digits_ne_nil)
    (fun _ => isDigit_of_mem_padLeft) (hlength.le.trans hk9)
  rwa [hlength, ofDigitChars_padLeft, ofDigitChars_digits] at hread

/-- No fraction is worth a second. -/
theorem lt_of_nanosPart (h : nanosPart caps = .ok n) : n < nanosPerSecond := by
  unfold nanosPart at h
  split at h
  · cases h
    decide
  · split at h
    · cases h
    · rename_i ds hcut
      have hread : readNat max32 (padFraction ds) = .ok n := by
        simpa only [orRefused, Steps.mapError_eq_ok] using h
      have hlength : (padFraction ds).length ≤ 9 := by
        have hbytes := byteLength_le_of_cutBytes hcut
        have hchars : ds.length ≤ byteLength ds := length_le_byteLength
        rw [padFraction, List.length_append, List.length_replicate]
        omega
      exact (readNat_lt hread).trans_le (Nat.pow_le_pow_right (by decide) hlength)

theorem nanosPart_of_none (h : caps.get? "fraction" = none) : nanosPart caps = .ok 0 := by
  simp only [nanosPart, h]

end Parts

/-! ## Dates and times -/

theorem day_le_of_isReal (d : Date) : d.day ≤ 31 := by
  refine d.isReal.2.2.2.2.2.trans ?_
  unfold Date.daysInMonth
  split
  · split <;> omega
  · split <;> omega

/-- A date with a year of four digits is read in the preferred order. -/
theorem reads_date {f : Flags} (hf : f.unicode) {d : Date} (hd : d.hasFourDigitYear) :
    ∃ c, fullDate.Reads f (padLeft 4 (digits d.year.natAbs) ++
      '-' :: (twoDigits d.month ++ '-' :: twoDigits d.day)) c := by
  simp only [Date.hasFourDigitYear, Bool.and_eq_true, decide_eq_true_eq] at hd
  obtain ⟨-, -, hm1, hm12, hd1, -⟩ := d.isReal
  exact reads_fullDate hf (by omega) ⟨hm1, hm12⟩ ⟨hd1, day_le_of_isReal d⟩

theorem readDate_eq_ok {caps : Captures} {century : Int} {d : Date} (hyear : d.hasFourDigitYear)
    (hy : caps.get? "year" = some (padLeft 4 (digits d.year.natAbs)))
    (hm : caps.get? "month" = some (twoDigits d.month))
    (hd : caps.get? "day" = some (twoDigits d.day)) : readDate century caps = .ok d := by
  simp only [Date.hasFourDigitYear, Bool.and_eq_true, decide_eq_true_eq] at hyear
  obtain ⟨-, -, -, hm12, -, -⟩ := d.isReal
  have hlast := day_le_of_isReal d
  have hcentury : centuryOf century caps = 0 := by
    have hlength := length_padLeft (w := 4) (n := d.year.natAbs) (by decide) (by omega)
    simp only [centuryOf, hy, byteLength_of_isDigit fun _ => isDigit_of_mem_padLeft, hlength]
    rfl
  have hnat : ((d.year.natAbs : Nat) : Int) + 0 = d.year := by omega
  simp only [readDate, intPart_eq_ok (l := max31) hy (by simp only [max31]; omega), hcentury,
    natPart_eq_ok (l := max32) hm (by simp only [max32]; omega),
    natPart_eq_ok (l := max32) hd (by simp only [max32]; omega), hnat, Date.ofParts?,
    dif_pos d.isReal, bind, Except.bind]
  rfl

theorem readTime_eq_ok {caps : Captures} {t : Time} (hnano : t.nano < nanosPerSecond)
    (hh : caps.get? "hour" = some (twoDigits t.hour))
    (hm : caps.get? "minute" = some (twoDigits t.minute))
    (hs : caps.get? "second" = some (twoDigits t.second))
    (hn : nanosPart caps = .ok t.nano) : readTime caps = .ok t := by
  obtain ⟨h24, h60, h60', -⟩ := t.isReal
  simp only [readTime, natPart_eq_ok (l := max32) hh (by simp only [max32]; omega),
    natPart_eq_ok (l := max32) hm (by simp only [max32]; omega),
    natPart_eq_ok (l := max32) hs (by simp only [max32]; omega), hn, orRefused,
    Except.mapError, Time.ofParts?, dif_pos t.isReal, if_pos (Or.inl hnano), bind, Except.bind]
  rfl

/-- A time that is read is no leap second. -/
theorem nano_lt_of_readTime {caps : Captures} {t : Time} (h : readTime caps = .ok t) :
    t.nano < nanosPerSecond := by
  obtain ⟨_, -, h⟩ := Steps.except_bind_eq_ok.mp h
  obtain ⟨_, -, h⟩ := Steps.except_bind_eq_ok.mp h
  obtain ⟨_, -, h⟩ := Steps.except_bind_eq_ok.mp h
  obtain ⟨n, hn, h⟩ := Steps.except_bind_eq_ok.mp h
  have hlt := lt_of_nanosPart hn
  simp only [Time.ofParts?, if_pos (Or.inl hlt)] at h
  split at h
  · rename_i t' htime
    cases h
    split at htime
    · cases htime
      exact hlt
    · cases htime
  · cases h

end TextForm

end TypeSchema
