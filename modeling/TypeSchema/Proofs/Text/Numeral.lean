/-
# Numerals — what is written is read back

Reading checks its limit after each digit.  The value of a stretch of digits
only grows, so a numeral whose value is within the limit is never stopped on
the way (`readDigits_eq_ok`): this gives back every number from its digits,
with a sign or zeros in front of them (`readNat_padLeft`, `readInt_ofInt`).

In the other direction what is read is digits within the limit
(`readNat_eq_ok_iff`), and has a magnitude below the power of ten of its length
(`readInt_natAbs_lt`), whatever the limit.
-/
import Mathlib.Data.Nat.Basic
import Mathlib.Tactic.Ring
import TypeSchema.Text.Numeral

namespace TypeSchema.Numeral

/-! ## Digits -/

theorem digit?_of_isDigit {c : Char} (h : c.isDigit) : digit? c = some (c.toNat - '0'.toNat) := by
  have : '0' ≤ c ∧ c ≤ '9' := by simpa [Char.isDigit, Char.le_def] using h
  simp [digit?, this]

theorem isDigit_of_digit? {c : Char} {d : Nat} (h : digit? c = some d) : c.isDigit := by
  unfold digit? at h
  split at h
  · rename_i hc
    simpa [Char.isDigit, Char.le_def] using hc
  · cases h

theorem digit?_lt {c : Char} {d : Nat} (h : digit? c = some d) : d < 10 := by
  unfold digit? at h
  split at h
  · rename_i hc
    have hle : c.toNat ≤ '9'.toNat := by simpa [Char.le_def, UInt32.le_iff_toNat_le] using hc.2
    cases h
    simp only [Char.reduceToNat] at hle ⊢
    omega
  · cases h

theorem isDigit_of_mem_digits {n : Nat} {c : Char} (h : c ∈ digits n) : c.isDigit :=
  Nat.isDigit_of_mem_toDigits (by decide) (by decide) h

theorem digits_ne_nil {n : Nat} : digits n ≠ [] := Nat.toDigits_ne_nil

/-- The first digit of a number is no zero. -/
theorem exists_digits_eq_cons {n : Nat} (h : n ≠ 0) : ∃ d ds, digits n = d :: ds ∧ d ≠ '0' := by
  induction n using Nat.strongRecOn with
  | ind n ih =>
      rw [digits, Nat.toDigits_eq_if (by decide)]
      split
      · exact ⟨_, [], rfl, fun zero => h (Nat.digitChar_eq_zero.mp zero)⟩
      · obtain ⟨d, ds, hds, hd⟩ := ih (n / 10) (by omega) (by omega)
        rw [digits] at hds
        exact ⟨d, _, by rw [hds, List.cons_append], hd⟩

theorem length_digits_le_iff {n k : Nat} (hk : 0 < k) : (digits n).length ≤ k ↔ n < 10 ^ k :=
  Nat.length_toDigits_le_iff (by decide) hk

/-- A greater number has no fewer digits. -/
theorem length_digits_mono {m n : Nat} (h : m ≤ n) : (digits m).length ≤ (digits n).length := by
  have hpos : 0 < (digits n).length := Nat.length_toDigits_pos
  have hn := (length_digits_le_iff hpos).mp le_rfl
  exact (length_digits_le_iff hpos).mpr (h.trans_lt hn)

/-! ## Padding -/

theorem mem_padLeft {w : Nat} {cs : List Char} {c : Char} (h : c ∈ padLeft w cs) :
    c = '0' ∨ c ∈ cs := by
  rcases List.mem_append.mp h with h | h
  · exact .inl (List.mem_replicate.mp h).2
  · exact .inr h

theorem isDigit_of_mem_padLeft {w n : Nat} {c : Char} (h : c ∈ padLeft w (digits n)) :
    c.isDigit := by
  rcases mem_padLeft h with rfl | h
  · rfl
  · exact isDigit_of_mem_digits h

/-- Padded to a width that holds them, the digits of a number have this
width. -/
theorem length_padLeft {w n : Nat} (hw : 0 < w) (h : n < 10 ^ w) :
    (padLeft w (digits n)).length = w := by
  have := (length_digits_le_iff hw).mpr h
  simp only [padLeft, List.length_append, List.length_replicate]
  omega

/-- Zeros in front count nothing. -/
theorem ofDigitChars_padLeft {w : Nat} {cs : List Char} :
    Nat.ofDigitChars 10 (padLeft w cs) 0 = Nat.ofDigitChars 10 cs 0 := by
  unfold padLeft
  induction w - cs.length with
  | zero => rfl
  | succ k ih => simpa [List.replicate_succ, Nat.ofDigitChars_cons] using ih

theorem ofDigitChars_digits {n : Nat} : Nat.ofDigitChars 10 (digits n) 0 = n :=
  Nat.ofDigitChars_toDigits (by decide) (by decide)

theorem toList_ofNat {n : Nat} : (ofNat n).toList = digits n := String.toList_ofList

theorem toList_padded {w n : Nat} : (padded w n).toList = padLeft w (digits n) :=
  String.toList_ofList

/-! ## Reading what was written -/

theorem le_ofDigitChars {n : Nat} {cs : List Char} : n ≤ Nat.ofDigitChars 10 cs n := by
  induction cs generalizing n with
  | nil => simp
  | cons c cs ih =>
      rw [Nat.ofDigitChars_cons]
      exact le_trans (by omega) ih

/-- Digits are read to their value if the limit admits that. -/
theorem readDigits_eq_ok {limit n : Nat} {excess : Fault} {cs : List Char}
    (hd : ∀ c ∈ cs, c.isDigit) (hle : Nat.ofDigitChars 10 cs n ≤ limit) :
    readDigits limit excess n cs = .ok (Nat.ofDigitChars 10 cs n) := by
  induction cs generalizing n with
  | nil => simp [readDigits]
  | cons c cs ih =>
      rw [Nat.ofDigitChars_cons] at hle ⊢
      have hlimit : 10 * n + (c.toNat - '0'.toNat) ≤ limit := le_ofDigitChars.trans hle
      simp only [readDigits, digit?_of_isDigit (hd c List.mem_cons_self), if_pos hlimit]
      exact ih (fun d hd' => hd d (List.mem_cons_of_mem _ hd')) hle

/-- Digits of a greater value are refused, whatever stands behind the one that
goes too far. -/
theorem readDigits_eq_error {limit n : Nat} {excess : Fault} {cs : List Char}
    (hd : ∀ c ∈ cs, c.isDigit) (hn : n ≤ limit) (hlt : limit < Nat.ofDigitChars 10 cs n) :
    readDigits limit excess n cs = .error excess := by
  induction cs generalizing n with
  | nil => exact absurd hn (Nat.not_le.mpr (by simpa using hlt))
  | cons c cs ih =>
      rw [Nat.ofDigitChars_cons] at hlt
      simp only [readDigits, digit?_of_isDigit (hd c List.mem_cons_self)]
      split
      · rename_i hle
        exact ih (fun d hd' => hd d (List.mem_cons_of_mem _ hd')) hle hlt
      · rfl

/-- Nothing but digits is read. -/
theorem isDigit_of_readDigits {limit n m : Nat} {excess : Fault} {cs : List Char}
    (h : readDigits limit excess n cs = .ok m) : ∀ c ∈ cs, c.isDigit := by
  induction cs generalizing n with
  | nil => simp
  | cons c cs ih =>
      simp only [readDigits] at h
      split at h
      · cases h
      · rename_i d hd
        split at h
        · exact List.forall_mem_cons.mpr ⟨isDigit_of_digit? hd, ih h⟩
        · cases h

/-- What is read is digits, and their value is within the limit. -/
theorem readDigits_eq_ok_iff {limit m : Nat} {excess : Fault} {cs : List Char} :
    readDigits limit excess 0 cs = .ok m ↔
      (∀ c ∈ cs, c.isDigit) ∧ Nat.ofDigitChars 10 cs 0 ≤ limit ∧ m = Nat.ofDigitChars 10 cs 0 := by
  constructor
  · intro h
    have hd := isDigit_of_readDigits h
    have hle : Nat.ofDigitChars 10 cs 0 ≤ limit := by
      by_contra hlt
      rw [readDigits_eq_error hd (Nat.zero_le _) (Nat.lt_of_not_le hlt)] at h
      cases h
    rw [readDigits_eq_ok hd hle] at h
    exact ⟨hd, hle, (Except.ok.inj h).symm⟩
  · rintro ⟨hd, hle, rfl⟩
    exact readDigits_eq_ok hd hle

/-- Where there is no sign, the digits are read. -/
theorem readNat_of_unsigned {limit : Nat} {cs : List Char} (hne : cs ≠ []) (hplus : '+' ∉ cs) :
    readNat limit cs = readDigits limit .tooLarge 0 cs := by
  unfold readNat
  split
  · contradiction
  · simp at hplus
  · simp at hplus
  · rfl

theorem readInt_of_unsigned {limit : Nat} {cs : List Char} (hne : cs ≠ []) (hplus : '+' ∉ cs)
    (hminus : '-' ∉ cs) : readInt limit cs = (readDigits limit .tooLarge 0 cs).map Int.ofNat := by
  unfold readInt
  split
  · contradiction
  · simp at hplus
  · simp at hminus
  · simp at hplus
  · simp at hminus
  · rfl

theorem readNat_of_isDigit {limit : Nat} {cs : List Char} (hne : cs ≠ [])
    (hd : ∀ c ∈ cs, c.isDigit) : readNat limit cs = readDigits limit .tooLarge 0 cs :=
  readNat_of_unsigned hne fun h => absurd (hd _ h) (by decide)

theorem readInt_of_isDigit {limit : Nat} {cs : List Char} (hne : cs ≠ [])
    (hd : ∀ c ∈ cs, c.isDigit) :
    readInt limit cs = (readDigits limit .tooLarge 0 cs).map Int.ofNat :=
  readInt_of_unsigned hne (fun h => absurd (hd _ h) (by decide)) fun h =>
    absurd (hd _ h) (by decide)

/-- Digits worth `n`, with zeros in front of them or without. -/
structure IsWorth (n : Nat) (ds : List Char) : Prop where
  some : ds ≠ []
  digits : ∀ c ∈ ds, c.isDigit
  value : Nat.ofDigitChars 10 ds 0 = n

theorem isWorth_of_readDigits {limit n : Nat} {ds : List Char} (some : ds ≠ [])
    (h : readDigits limit .tooLarge 0 ds = .ok n) : n ≤ limit ∧ IsWorth n ds := by
  obtain ⟨digits, fits, rfl⟩ := readDigits_eq_ok_iff.mp h
  exact ⟨fits, some, digits, rfl⟩

/-- Digits are read up to the limit, and a plus sign in front of them is passed
over. -/
theorem readNat_eq_ok_iff {limit n : Nat} {cs : List Char} :
    readNat limit cs = .ok n ↔ n ≤ limit ∧ ∃ ds, IsWorth n ds ∧ (cs = ds ∨ cs = '+' :: ds) := by
  constructor
  · intro h
    unfold readNat at h
    split at h
    · cases h
    · cases h
    · rename_i ds some
      obtain ⟨fits, worth⟩ := isWorth_of_readDigits (fun none => some (by rw [none])) h
      exact ⟨fits, ds, worth, .inr rfl⟩
    · rename_i some _ _
      obtain ⟨fits, worth⟩ := isWorth_of_readDigits some h
      exact ⟨fits, cs, worth, .inl rfl⟩
  · rintro ⟨fits, ds, ⟨some, digits, rfl⟩, rfl | rfl⟩
    · rw [readNat_of_isDigit some digits]
      exact readDigits_eq_ok digits fits
    · obtain ⟨d, ds, rfl⟩ := List.exists_cons_of_ne_nil some
      exact readDigits_eq_ok digits fits

theorem padLeft_ne_nil {w : Nat} {cs : List Char} (h : cs ≠ []) : padLeft w cs ≠ [] := by
  simp [padLeft, h]

/-- A number is read from its digits, whatever zeros precede them. -/
theorem readNat_padLeft {limit w n : Nat} (h : n ≤ limit) :
    readNat limit (padLeft w (digits n)) = .ok n := by
  have value : Nat.ofDigitChars 10 (padLeft w (digits n)) 0 = n := by
    rw [ofDigitChars_padLeft, ofDigitChars_digits]
  rw [readNat_of_isDigit (padLeft_ne_nil digits_ne_nil) fun _ => isDigit_of_mem_padLeft,
    readDigits_eq_ok (fun _ => isDigit_of_mem_padLeft) (value.le.trans h), value]

theorem readNat_digits {limit n : Nat} (h : n ≤ limit) : readNat limit (digits n) = .ok n := by
  simpa [padLeft] using readNat_padLeft (w := 0) h

theorem readInt_padLeft {limit w n : Nat} (h : n ≤ limit) :
    readInt limit (padLeft w (digits n)) = .ok (n : Int) := by
  have value : Nat.ofDigitChars 10 (padLeft w (digits n)) 0 = n := by
    rw [ofDigitChars_padLeft, ofDigitChars_digits]
  rw [readInt_of_isDigit (padLeft_ne_nil digits_ne_nil) fun _ => isDigit_of_mem_padLeft,
    readDigits_eq_ok (fun _ => isDigit_of_mem_padLeft) (value.le.trans h), value]
  rfl

theorem toList_ofInt {i : Int} :
    (ofInt i).toList = if i < 0 then '-' :: digits i.natAbs else digits i.natAbs := by
  unfold ofInt
  split <;> simp [toList_ofNat]

/-- A whole number within the limits is read from its numeral. -/
theorem readInt_ofInt {limit : Nat} {i : Int} (hlo : -(limit + 1 : Int) ≤ i) (hhi : i ≤ limit) :
    readInt limit (ofInt i).toList = .ok i := by
  rw [toList_ofInt]
  split
  · rename_i hneg
    have hread : readDigits (limit + 1) .tooSmall 0 (digits i.natAbs) = .ok i.natAbs := by
      rw [readDigits_eq_ok (fun _ => isDigit_of_mem_digits)
        (ofDigitChars_digits.le.trans (by omega)), ofDigitChars_digits]
    have hsign : readInt limit ('-' :: digits i.natAbs) =
        (readDigits (limit + 1) .tooSmall 0 (digits i.natAbs)).map fun n => -(n : Int) := by
      cases hds : digits i.natAbs with
      | nil => exact absurd hds digits_ne_nil
      | cons d ds => rfl
    have hi : -(i.natAbs : Int) = i := by omega
    rw [hsign, hread]
    exact congrArg Except.ok hi
  · rename_i hneg
    have : readInt limit (padLeft 0 (digits i.natAbs)) = .ok (i.natAbs : Int) :=
      readInt_padLeft (by omega)
    simp only [padLeft, Nat.zero_sub, List.replicate_zero, List.nil_append] at this
    rw [this]
    simp only [Except.ok.injEq]
    omega

/-- So is a whole number of 64 bits. -/
theorem readInt_toInt (i : Int64) : readInt max63 (ofInt i.toInt).toList = .ok i.toInt :=
  readInt_ofInt (Int64.le_toInt i) (Int.le_of_lt_add_one (Int64.toInt_lt i))

/-! ## The size of what is read -/

theorem readDigits_lt {limit n m : Nat} {excess : Fault} {cs : List Char}
    (h : readDigits limit excess n cs = .ok m) : m < (n + 1) * 10 ^ cs.length := by
  induction cs generalizing n with
  | nil =>
      cases h
      simp
  | cons c cs ih =>
      simp only [readDigits] at h
      split at h
      · cases h
      · rename_i d hd
        split at h
        · have hlt := digit?_lt hd
          calc m < (10 * n + d + 1) * 10 ^ cs.length := ih h
            _ ≤ (10 * (n + 1)) * 10 ^ cs.length := Nat.mul_le_mul_right _ (by omega)
            _ = (n + 1) * 10 ^ (cs.length + 1) := by ring
        · cases h

/-- Digits are worth less than the power of ten of their number. -/
theorem ofDigitChars_lt {cs : List Char} (hd : ∀ c ∈ cs, c.isDigit) :
    Nat.ofDigitChars 10 cs 0 < 10 ^ cs.length := by
  have hread : readDigits _ .tooLarge 0 cs = .ok _ := readDigits_eq_ok hd le_rfl
  simpa using readDigits_lt hread

/-- No spelling of a number is shorter than its digits. -/
theorem IsWorth.length_digits_le {n : Nat} {ds : List Char} (h : IsWorth n ds) :
    (Numeral.digits n).length ≤ ds.length := by
  have lt := ofDigitChars_lt h.digits
  rw [h.value] at lt
  exact (length_digits_le_iff (List.length_pos_iff.mpr h.some)).mpr lt

theorem readNat_lt {limit n : Nat} {cs : List Char} (h : readNat limit cs = .ok n) :
    n < 10 ^ cs.length := by
  unfold readNat at h
  split at h
  · cases h
  · cases h
  · rename_i ds _
    have hn : n < 10 ^ ds.length := by simpa using readDigits_lt h
    exact hn.trans_le (Nat.pow_le_pow_right (by decide) (by simp))
  · simpa using readDigits_lt h

/-- Whatever its sign, a numeral has fewer digits than the power of ten of its
length. -/
theorem readInt_natAbs_lt {limit : Nat} {i : Int} {cs : List Char}
    (h : readInt limit cs = .ok i) : i.natAbs < 10 ^ cs.length := by
  have digits : ∀ {limit fault n} {ds : List Char}, ds.length ≤ cs.length →
      readDigits limit fault 0 ds = .ok n → n < 10 ^ cs.length := by
    intro limit fault n ds hle hread
    have hn : n < 10 ^ ds.length := by simpa using readDigits_lt hread
    exact hn.trans_le (Nat.pow_le_pow_right (by decide) hle)
  unfold readInt at h
  split at h
  · cases h
  · cases h
  · cases h
  · rename_i ds _
    cases hread : readDigits limit .tooLarge 0 ds with
    | error f => simp [hread, Except.map] at h
    | ok n =>
        obtain rfl : (n : Int) = i := by simpa [hread, Except.map] using h
        exact digits (by simp) hread
  · rename_i ds _
    cases hread : readDigits (limit + 1) .tooSmall 0 ds with
    | error f =>
        simp only [hread] at h
        cases h
    | ok n =>
        simp only [hread] at h
        obtain rfl : -(n : Int) = i := Except.ok.inj h
        simpa using digits (by simp) hread
  · cases hread : readDigits limit .tooLarge 0 cs with
    | error f => simp [hread, Except.map] at h
    | ok n =>
        obtain rfl : (n : Int) = i := by simpa [hread, Except.map] using h
        exact digits le_rfl hread

end TypeSchema.Numeral
