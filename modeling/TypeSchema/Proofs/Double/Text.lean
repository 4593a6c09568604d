/-
# Text — a double is read from its text

The text of a double is a sign and a decimal: digits, and behind a point more
digits, if there are any (`pointed`).  The layout moves the point and fills up
with zeros, but the decimal stays the one that was found (`displays_positional`),
which the double covers.  So reading the text gives back the double
(`ofChars_text`).

What stands in front of the point can be longer than the whole part of the
double: a shortest decimal may round up to the next power of ten.  Then this
power is covered by the double (`exists_covered_of_lt`).

Between two finite bounds the magnitude of a double is at most the greater one
of theirs (`magnitude_le_max`).  If its text has more digits in front of the
point than that bound all the same, the bound is below the power of ten that the
double covers, so the double covers the bound: the two have the same magnitude
(`outgrows_iff`).
-/
import Mathlib.Data.List.TakeDrop
import Mathlib.Data.List.TakeWhile
import TypeSchema.Double.Reading
import TypeSchema.Proofs.Double.Shortest
import TypeSchema.Proofs.Text.Numeral
import TypeSchema.TextForm.Shape

namespace TypeSchema.Double

/-! ## Digits -/

theorem digitsValue_append {n : Nat} {ds es : List Char} :
    digitsValue n (ds ++ es) = digitsValue (digitsValue n ds) es := List.foldl_append

theorem digitsValue_toDigits {n : Nat} : digitsValue 0 (Nat.toDigits 10 n) = n :=
  Nat.ofDigitChars_toDigits (by decide) (by decide)

theorem digitsValue_zeros {n z : Nat} :
    digitsValue n (List.replicate z '0') = n * 10 ^ z := by
  induction z generalizing n with
  | zero => exact (Nat.mul_one n).symm
  | succ z ih =>
      show digitsValue (10 * n + 0) (List.replicate z '0') = _
      rw [ih]
      ring

theorem isDigit_of_mem_zeros {z : Nat} : ∀ c ∈ List.replicate z '0', c.isDigit := by
  intro c hc
  rw [List.eq_of_mem_replicate hc]
  rfl

/-- Behind its significant digits a number has zeros. -/
theorem toDigits_eq (n : Nat) :
    ∃ z, Nat.toDigits 10 n = significant n ++ List.replicate z '0' := by
  generalize hds : (Nat.toDigits 10 n).reverse = ds
  have hzeros : ds.takeWhile (· == '0') =
      List.replicate (ds.takeWhile (· == '0')).length '0' := by
    refine List.eq_replicate_iff.mpr ⟨rfl, fun c hc => ?_⟩
    exact beq_iff_eq.mp (List.mem_takeWhile_imp (p := (· == '0')) hc)
  refine ⟨(ds.takeWhile (· == '0')).length, ?_⟩
  rw [← List.reverse_inj, hds, List.reverse_append, List.reverse_replicate, ← hzeros, significant,
    List.reverse_reverse, hds, List.takeWhile_append_dropWhile]

theorem isDigit_of_mem_significant {n : Nat} {c : Char} (h : c ∈ significant n) : c.isDigit := by
  obtain ⟨z, hz⟩ := toDigits_eq n
  refine Nat.isDigit_of_mem_toDigits (b := 10) (n := n) (by decide) (by decide) ?_
  rw [hz]
  exact List.mem_append_left _ h

theorem significant_ne_nil {n : Nat} (hn : n ≠ 0) : significant n ≠ [] := by
  obtain ⟨z, hz⟩ := toDigits_eq n
  intro hnil
  have hvalue := digitsValue_toDigits (n := n)
  rw [hz, hnil, List.nil_append, digitsValue_zeros, Nat.zero_mul] at hvalue
  exact hn hvalue.symm

/-- The significant digits, with the point where all digits have it. -/
theorem digitsValue_significant (n : Nat) (k : ℤ) :
    (digitsValue 0 (significant n) : ℚ) *
        10 ^ ((Nat.toDigits 10 n).length + k - (significant n).length) = n * 10 ^ k := by
  obtain ⟨z, hz⟩ := toDigits_eq n
  have hvalue : digitsValue 0 (significant n) * 10 ^ z = n := by
    rw [← digitsValue_zeros, ← digitsValue_append, ← hz, digitsValue_toDigits]
  have hlength : (Nat.toDigits 10 n).length = (significant n).length + z := by
    rw [hz, List.length_append, List.length_replicate]
  have hpower : ((Nat.toDigits 10 n).length + k - (significant n).length : ℤ) = z + k := by
    rw [hlength]
    push_cast
    ring
  have hn : (n : ℚ) = digitsValue 0 (significant n) * 10 ^ z := by exact_mod_cast hvalue.symm
  rw [hpower, zpow_add₀ (by norm_num), zpow_natCast, ← mul_assoc, hn]

/-! ## Decimals -/

/-- Digits behind a point; no point if there are none. -/
def pointed : List Char → List Char
  | [] => []
  | c :: cs => '.' :: c :: cs

/-- The number that digits in front of a point and behind it stand for. -/
def decimal (whole fraction : List Char) : ℚ :=
  digitsValue 0 (whole ++ fraction) * 10 ^ (-(fraction.length : ℤ))

section Reading

variable {whole fraction : List Char} (hwhole : ∀ c ∈ whole, c.isDigit)
include hwhole

theorem span_whole : (whole ++ pointed fraction).span isDigit = (whole, pointed fraction) := by
  have htake : (pointed fraction).takeWhile isDigit = [] := by cases fraction <;> rfl
  have hdrop : (pointed fraction).dropWhile isDigit = pointed fraction := by cases fraction <;> rfl
  rw [List.span_eq_takeWhile_dropWhile, List.takeWhile_append_of_pos (p := isDigit) hwhole,
    List.dropWhile_append_of_pos (p := isDigit) hwhole, htake, hdrop, List.append_nil]

/-- Digits around a point are read as the number that they stand for. -/
theorem readDecimal_eq (hne : whole ≠ []) (hfraction : ∀ c ∈ fraction, c.isDigit)
    (negative : Bool) : readDecimal negative (whole ++ pointed fraction) =
      some (ofDecimal negative (digitsValue 0 (whole ++ fraction)) (-(fraction.length : ℤ))) := by
  unfold readDecimal
  rw [span_whole hwhole]
  cases fraction with
  | nil =>
      simp only [pointed, hne, false_and, if_false, readExponent, Option.map_some, List.append_nil]
      rfl
  | cons c cs =>
      have hspan : (c :: cs).span isDigit = (c :: cs, []) := by
        rw [List.span_eq_takeWhile_dropWhile,
          List.takeWhile_eq_self_iff (p := isDigit).mpr hfraction,
          List.dropWhile_eq_nil_iff (p := isDigit).mpr hfraction]
      simp only [pointed, hspan, hne, false_and, if_false, readExponent, Option.map_some,
        digitsValue_append, zero_sub]

end Reading

/-- The text has digits around a point, `n` of them in front, that stand for the
number. -/
def Displays (cs : List Char) (n : Nat) (x : ℚ) : Prop :=
  ∃ whole fraction, cs = whole ++ pointed fraction ∧ (∀ c ∈ whole, c.isDigit) ∧
    (∀ c ∈ fraction, c.isDigit) ∧ whole.length = n ∧ decimal whole fraction = x

section Positions

variable {ds : List Char} {point : ℤ} (hds : ∀ c ∈ ds, c.isDigit)
include hds

/-- All digits are behind the point. -/
theorem displays_behind (hne : ds ≠ []) (hpoint : point ≤ 0) :
    Displays (positional "" ds point).toList 1 (digitsValue 0 ds * 10 ^ (point - ds.length)) := by
  rw [positional, if_pos hpoint]
  refine ⟨['0'], List.replicate (-point).toNat '0' ++ ds, ?_, isDigit_of_mem_zeros (z := 1), ?_,
    rfl, ?_⟩
  · obtain ⟨c, cs, hcs⟩ := List.exists_cons_of_ne_nil
      (List.append_ne_nil_of_right_ne_nil (List.replicate (-point).toNat '0') hne)
    rw [hcs, String.toList_append, String.toList_ofList, String.toList_ofList]
    rfl
  · intro c hc
    exact (List.mem_append.mp hc).elim (isDigit_of_mem_zeros c) (hds c)
  · have hvalue : digitsValue 0 (['0'] ++ (List.replicate (-point).toNat '0' ++ ds)) =
        digitsValue 0 ds := by
      rw [digitsValue_append, digitsValue_append, digitsValue_zeros]
      exact congrArg (digitsValue · ds) (Nat.zero_mul _)
    rw [decimal, hvalue, List.length_append, List.length_replicate]
    congr 2
    push_cast
    omega

/-- All digits are in front of the point, with zeros up to it. -/
theorem displays_before (hpoint : 0 < point) (hlong : ds.length ≤ point.toNat) :
    Displays (positional "" ds point).toList point.toNat
      (digitsValue 0 ds * 10 ^ (point - ds.length)) := by
  rw [positional, if_neg (not_le.mpr hpoint), if_pos hlong]
  refine ⟨ds ++ List.replicate (point.toNat - ds.length) '0', [], ?_, ?_, List.forall_mem_nil _,
    ?_, ?_⟩
  · rw [String.toList_append, String.toList_ofList]
    rfl
  · intro c hc
    exact (List.mem_append.mp hc).elim (hds c) (isDigit_of_mem_zeros c)
  · rw [List.length_append, List.length_replicate]
    omega
  · have hpower : (point - ds.length : ℤ) = (point.toNat - ds.length : ℕ) := by omega
    rw [decimal, List.append_nil, digitsValue_append, digitsValue_zeros, hpower]
    push_cast
    simp

/-- The point is among the digits. -/
theorem displays_among (hpoint : 0 < point) (hshort : point.toNat < ds.length) :
    Displays (positional "" ds point).toList point.toNat
      (digitsValue 0 ds * 10 ^ (point - ds.length)) := by
  rw [positional, if_neg (not_le.mpr hpoint), if_neg (not_le.mpr hshort)]
  have hlength : (ds.drop point.toNat).length = ds.length - point.toNat := List.length_drop
  refine ⟨ds.take point.toNat, ds.drop point.toNat, ?_, ?_, ?_, ?_, ?_⟩
  · obtain ⟨c, cs, hcs⟩ := List.exists_cons_of_length_pos
      (show 0 < (ds.drop point.toNat).length by omega)
    rw [hcs, String.toList_append, String.toList_append, String.toList_ofList,
      String.toList_ofList]
    simp [pointed]
  · exact fun c hc => hds c (List.mem_of_mem_take hc)
  · exact fun c hc => hds c (List.mem_of_mem_drop hc)
  · rw [List.length_take]
    omega
  · rw [decimal, List.take_append_drop, hlength]
    congr 2
    omega

/-- Wherever the point is put, digits and zeros stand for the same decimal. -/
theorem displays_positional (point : ℤ) (hne : ds ≠ []) :
    Displays (positional "" ds point).toList (max 1 point.toNat)
      (digitsValue 0 ds * 10 ^ (point - ds.length)) := by
  rcases le_or_gt point 0 with hpoint | hpoint
  · rw [Int.toNat_of_nonpos hpoint]
    exact displays_behind hds hne hpoint
  · rw [max_eq_right (show 1 ≤ point.toNat by omega)]
    rcases le_or_gt ds.length point.toNat with hlong | hshort
    · exact displays_before hds hpoint hlong
    · exact displays_among hds hpoint hshort

end Positions

/-! ## The text of a double -/

section Text

variable {d : Double}

/-- A sign and digits around a point, which are read as the double. -/
structure IsWritten (d : Double) (whole fraction : List Char) : Prop where
  toList_text : d.text.toList = (if d.negative then ['-'] else []) ++ (whole ++ pointed fraction)
  whole_ne_nil : whole ≠ []
  isDigit_whole : ∀ c ∈ whole, c.isDigit
  isDigit_fraction : ∀ c ∈ fraction, c.isDigit
  ofDecimal_eq :
    ofDecimal d.negative (digitsValue 0 (whole ++ fraction)) (-(fraction.length : ℤ)) = d
  /-- With more than `N` digits in front of the point the double covers a number
  that is at least the power of ten with `N` zeros. -/
  covered : ∀ N, 1 ≤ N → N < whole.length → d.isZero = false ∧ ∃ x, d.Covers x ∧ (10 : ℚ) ^ N ≤ x

theorem not_isNaN (finite : d.isFinite = true) : d.isNaN = false := by
  have hlt : d.magnitude < infinityBits := of_decide_eq_true finite
  exact decide_eq_false (Nat.not_lt.mpr hlt.le)

theorem toList_text_eq (finite : d.isFinite = true) :
    d.text.toList = (if d.negative then ['-'] else []) ++ (plain.magnitude d).toList := by
  rw [text, Layout.text, not_isNaN finite, if_neg Bool.false_ne_true, if_pos finite,
    String.toList_append]
  cases d.negative <;> rfl

theorem isWritten_zero (isZero : d.isZero = true) : d.IsWritten ['0'] [] where
  toList_text := by
    have hm : d.magnitude = 0 := of_decide_eq_true isZero
    have finite : d.isFinite = true := by
      rw [isFinite, hm]
      rfl
    rw [toList_text_eq finite, Layout.magnitude, if_pos isZero]
    rfl
  whole_ne_nil := List.cons_ne_nil _ _
  isDigit_whole := List.forall_mem_singleton.mpr rfl
  isDigit_fraction := List.forall_mem_nil _
  ofDecimal_eq := by
    have hm : d.magnitude = 0 := of_decide_eq_true isZero
    show ofMagnitude d.negative 0 = d
    rw [← hm, ofMagnitude_self]
  covered := fun N hN hlt => absurd hlt (Nat.not_lt.mpr hN)

theorem exists_isWritten_nonzero (finite : d.isFinite = true) (nonzero : d.isZero = false) :
    ∃ whole fraction, d.IsWritten whole fraction := by
  have covers := covers_shortest .up nonzero
  obtain ⟨n, k, hshortest⟩ : ∃ n k, shortest .up d = (n, k) := ⟨_, _, rfl⟩
  rw [hshortest] at covers
  have hn : n ≠ 0 := by
    rintro rfl
    have := covers.pos nonzero
    simp at this
  have layout : plain.magnitude d =
      positional "" (significant n) ((Nat.toDigits 10 n).length + k) := by
    have htie : shortest plain.tie d = (n, k) := hshortest
    rw [Layout.magnitude, nonzero, if_neg Bool.false_ne_true, htie]
    rfl
  obtain ⟨whole, fraction, htext, hwhole, hfraction, hlength, hdecimal⟩ :=
    displays_positional (fun c => isDigit_of_mem_significant)
      ((Nat.toDigits 10 n).length + k) (significant_ne_nil hn)
  rw [digitsValue_significant] at hdecimal
  refine ⟨whole, fraction, ?_, ?_, hwhole, hfraction, ?_, ?_⟩
  · rw [toList_text_eq finite, layout, htext]
  · rw [← List.length_pos_iff, hlength]
    exact Nat.lt_of_lt_of_le Nat.one_pos (Nat.le_max_left ..)
  · have hcovers :
        d.Covers (digitsValue 0 (whole ++ fraction) * 10 ^ (-(fraction.length : ℤ))) := by
      rw [← hdecimal] at covers
      exact covers
    refine ofDecimal_eq finite nonzero ?_ hcovers
    intro hzero
    have := hcovers.pos nonzero
    rw [hzero] at this
    simp at this
  · intro N hN hlt
    refine ⟨nonzero, _, covers, ?_⟩
    obtain ⟨hlow, -⟩ := decimal_bounds hn k
    rw [← zpow_natCast]
    exact (zpow_le_zpow_right₀ (by norm_num) (by omega)).trans hlow

/-- Every finite double is written so. -/
theorem exists_isWritten (finite : d.isFinite = true) :
    ∃ whole fraction, d.IsWritten whole fraction := by
  cases hzero : d.isZero with
  | true => exact ⟨_, _, isWritten_zero hzero⟩
  | false => exact exists_isWritten_nonzero finite hzero

/-- How many digits the text of a double has in front of its point. -/
def writtenDigits (d : Double) : Nat :=
  ((d.text.toList.dropWhile (· = '-')).takeWhile (· ≠ '.')).length

namespace IsWritten

variable {whole fraction : List Char} (h : d.IsWritten whole fraction)
include h

theorem length_whole : whole.length = d.writtenDigits := by
  have hsign : d.text.toList.dropWhile (· = '-') = whole ++ pointed fraction := by
    obtain ⟨c, cs, rfl⟩ := List.exists_cons_of_ne_nil h.whole_ne_nil
    have hc : c ≠ '-' := by
      rintro rfl
      exact absurd (h.isDigit_whole '-' List.mem_cons_self) (by decide)
    rw [h.toList_text]
    cases d.negative <;> simp [hc]
  have hpoint : (whole ++ pointed fraction).takeWhile (· ≠ '.') = whole := by
    have hdigits : ∀ c ∈ whole, decide (c ≠ '.') = true := by
      intro c hc
      refine decide_eq_true ?_
      rintro rfl
      exact absurd (h.isDigit_whole '.' hc) (by decide)
    rw [List.takeWhile_append_of_pos hdigits]
    cases fraction with
    | nil => simp [pointed]
    | cons c cs => simp [pointed]
  rw [writtenDigits, hsign, hpoint]

/-- The text is read as the double. -/
theorem ofChars_text : ofChars d.text.toList = .ok d := by
  have hread := readDecimal_eq h.isDigit_whole h.whole_ne_nil h.isDigit_fraction d.negative
  rw [h.ofDecimal_eq] at hread
  obtain ⟨c, cs, rfl⟩ := List.exists_cons_of_ne_nil h.whole_ne_nil
  rw [h.toList_text]
  cases hnegative : d.negative with
  | true =>
      rw [hnegative] at hread
      simp only [if_true, List.singleton_append, ofChars, hread]
      rfl
  | false =>
      rw [hnegative] at hread
      have hc : c ≠ '-' ∧ c ≠ '+' := by
        constructor
        · rintro rfl
          exact absurd (h.isDigit_whole '-' List.mem_cons_self) (by decide)
        · rintro rfl
          exact absurd (h.isDigit_whole '+' List.mem_cons_self) (by decide)
      simp only [Bool.false_eq_true, if_false, List.nil_append, List.cons_append, ofChars, hc.1,
        hc.2]
      rw [List.cons_append] at hread
      rw [hread]
      rfl

end IsWritten

/-- A double is read from its text. -/
theorem ofChars_text (finite : d.isFinite = true) : ofChars d.text.toList = .ok d := by
  obtain ⟨whole, fraction, h⟩ := exists_isWritten finite
  exact h.ofChars_text

/-- What has no digits is written as a word. -/
theorem text_of_not_isFinite (infinite : d.isFinite = false) :
    d.text = if d.isNaN then "NaN" else if d.negative then "-inf" else "inf" := by
  rw [text, Layout.text, infinite]
  cases d.isNaN <;> cases d.negative <;> rfl

/-- Infinite doubles are read from their texts as well. -/
theorem ofChars_text_of_not_isNaN (number : d.isNaN = false) : ofChars d.text.toList = .ok d := by
  cases finite : d.isFinite with
  | true => exact ofChars_text finite
  | false =>
      have infinite : d.magnitude = infinityBits :=
        le_antisymm (not_lt.mp (of_decide_eq_false number)) (not_lt.mp (of_decide_eq_false finite))
      have word : ofChars d.text.toList = .ok (infinity d.negative) := by
        rw [text_of_not_isFinite finite, number]
        cases d.negative <;> rfl
      rw [word, infinity, ← infinite, ofMagnitude_self]

theorem text_ne_nil : d.text.toList ≠ [] := by
  cases finite : d.isFinite with
  | true =>
      obtain ⟨whole, fraction, written⟩ := exists_isWritten finite
      rw [written.toList_text]
      exact List.append_ne_nil_of_right_ne_nil _
        (List.append_ne_nil_of_left_ne_nil written.whole_ne_nil _)
  | false =>
      rw [text_of_not_isFinite finite]
      repeat' split
      all_goals exact List.cons_ne_nil _ _

theorem of_mem_text {c : Char} (h : c ∈ d.text.toList) : c.isAlphanum ∨ c = '-' ∨ c = '.' := by
  cases finite : d.isFinite with
  | true =>
      obtain ⟨whole, fraction, written⟩ := exists_isWritten finite
      have digit : c.isDigit → c.isAlphanum ∨ c = '-' ∨ c = '.' :=
        fun hc => .inl (by rw [Char.isAlphanum, hc, Bool.or_true])
      rw [written.toList_text] at h
      rcases List.mem_append.mp h with h | h
      · cases hd : d.negative <;> simp_all
      · rcases List.mem_append.mp h with h | h
        · exact digit (written.isDigit_whole c h)
        · cases fraction with
          | nil => cases h
          | cons e es =>
              rcases List.mem_cons.mp h with rfl | h
              · exact .inr (.inr rfl)
              · exact digit (written.isDigit_fraction c h)
  | false =>
      have words : ∀ word ∈ ["NaN", "-inf", "inf"],
          word.toList.all (fun c => c.isAlphanum ∨ c = '-' ∨ c = '.') = true := by decide
      refine of_decide_eq_true (List.all_eq_true.mp (words d.text ?_) c h)
      rw [text_of_not_isFinite finite]
      repeat' split
      all_goals simp

/-- A text with more digits in front of its point than a number makes the double
cover a power of ten, or more. -/
theorem exists_covered_of_lt (finite : d.isFinite = true) {N : Nat} (hN : 1 ≤ N)
    (hlt : N < d.writtenDigits) :
    d.isZero = false ∧ ∃ x, d.Covers x ∧ (10 : ℚ) ^ N ≤ x := by
  obtain ⟨whole, fraction, h⟩ := exists_isWritten finite
  exact h.covered N hN (h.length_whole ▸ hlt)

end Text

/-! ## Between two bounds -/

open TextForm (wholeDigits)

section Order

variable {d lo hi : Double}

theorem lt_iff (hd : d.isNaN = false) (hlo : lo.isNaN = false) :
    d.lt lo = true ↔ d.order < lo.order := by
  rw [lt, hd, hlo]
  exact decide_eq_true_iff

theorem order_le (d : Double) : d.order ≤ d.magnitude := by
  unfold order
  split <;> omega

theorem neg_order_le (d : Double) : -d.order ≤ d.magnitude := by
  unfold order
  split <;> omega

theorem magnitude_eq_natAbs (d : Double) : d.magnitude = d.order.natAbs := by
  unfold order
  split <;> omega

/-- Between two bounds a magnitude is no greater than one of theirs. -/
theorem magnitude_le_max (hlo : lo.order ≤ d.order) (hhi : d.order ≤ hi.order) :
    d.magnitude ≤ max lo.magnitude hi.magnitude := by
  have := hi.order_le
  have := lo.neg_order_le
  have := d.magnitude_eq_natAbs
  omega

end Order

section Digits

variable {d e : Double}

theorem wholeDigits_of_isFinite (finite : d.isFinite = true) :
    wholeDigits d = (Numeral.digits d.wholePart).length := if_pos finite

theorem wholeDigits_pos (d : Double) : 0 < wholeDigits d := by
  unfold wholeDigits
  split
  · exact List.length_pos_iff.mpr Numeral.digits_ne_nil
  · decide

/-- A finite double has up to 309 digits in front of its point. -/
theorem wholeDigits_le (d : Double) : wholeDigits d ≤ 309 := by
  unfold wholeDigits
  split
  · rename_i finite
    refine (Numeral.length_digits_le_iff (by decide)).mpr (wholePart_lt_iff.mpr ?_)
    rw [Nat.cast_pow, Nat.cast_ofNat]
    exact d.covers_size.lt_top finite
  · decide

theorem wholePart_le (h : d.magnitude ≤ e.magnitude) : d.wholePart ≤ e.wholePart := by
  by_contra hlt
  have hsize := wholePart_lt_iff.mp (not_le.mp hlt)
  exact lt_irrefl _ (wholePart_lt_iff.mpr ((size_le_size h).trans_lt hsize))

theorem wholeDigits_mono (hd : d.isFinite = true) (he : e.isFinite = true)
    (h : d.magnitude ≤ e.magnitude) : wholeDigits d ≤ wholeDigits e := by
  rw [wholeDigits_of_isFinite hd, wholeDigits_of_isFinite he]
  exact Numeral.length_digits_mono (wholePart_le h)

/-- Of two finite doubles the one with the greater magnitude has the most digits. -/
theorem max_wholeDigits (hd : d.isFinite = true) (he : e.isFinite = true)
    (h : d.magnitude ≤ e.magnitude) : max (wholeDigits d) (wholeDigits e) = wholeDigits e :=
  max_eq_right (wholeDigits_mono hd he h)

/-- The magnitude that a double covers the size of is its own. -/
theorem magnitude_eq_of_covers (hd : d.isFinite = true) (he : e.isFinite = true)
    (nonzero : e.isZero = false) (h : d.Covers e.size) : d.magnitude = e.magnitude := by
  have hratio : 0 < e.ratio.1 := by
    have hsize := size_pos nonzero
    rw [← ratio_eq] at hsize
    by_contra hzero
    rw [Nat.eq_zero_of_not_pos hzero, Nat.cast_zero, zero_div] at hsize
    exact lt_irrefl _ hsize
  have hd' : d.Covers (e.ratio.1 / e.ratio.2) := by rwa [ratio_eq]
  have he' : e.Covers (e.ratio.1 / e.ratio.2) := by
    rw [ratio_eq]
    exact e.covers_size
  rw [← nearestMagnitude_eq hratio e.ratio_pos hd hd',
    nearestMagnitude_eq hratio e.ratio_pos he he']

/-- A text with more digits in front of the point than a greater double has is
that of this double itself, up to the sign. -/
theorem outgrows_iff (hd : d.isFinite = true) (he : e.isFinite = true)
    (h : d.magnitude ≤ e.magnitude) :
    wholeDigits e < d.writtenDigits ↔
      d.magnitude = e.magnitude ∧ wholeDigits d < d.writtenDigits := by
  constructor
  · intro hlt
    obtain ⟨nonzero, x, hx, hpow⟩ := exists_covered_of_lt hd e.wholeDigits_pos hlt
    have hsize : e.size < (10 : ℚ) ^ wholeDigits e := by
      have hdigits := (Numeral.length_digits_le_iff e.wholeDigits_pos).mp
        (wholeDigits_of_isFinite he).ge
      exact_mod_cast wholePart_lt_iff.mp hdigits
    have hcovers : d.Covers e.size :=
      d.covers_size.between hx (size_le_size h) (hsize.le.trans hpow)
    have he0 : e.isZero = false := by
      have hne : d.magnitude ≠ 0 := of_decide_eq_false nonzero
      exact decide_eq_false (by omega)
    have heq := magnitude_eq_of_covers hd he he0 hcovers
    exact ⟨heq, (wholeDigits_mono hd he h).trans_lt hlt⟩
  · rintro ⟨heq, hlt⟩
    exact (wholeDigits_mono he hd heq.ge).trans_lt hlt

end Digits

end TypeSchema.Double
