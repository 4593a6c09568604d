/-
# Rounding — which numbers round to a double

The magnitude of a finite double is a mantissa of up to 53 bits at a power of
two, and its bits are the two of them laid end to end (`magnitude_eq`).  The
mantissa has all its bits unless the power is the least one (`normal`).  So a
double with the greater bits is the greater number (`size_le_size`).  Powers are
rational here, with whole numbers as exponents: what is computed as a power on
either side of a fraction is one power (`toNat_zpow`).

A finite double covers an interval of numbers around it: half of its last place
upwards, and as much downwards, except that below a power of two the places are
half as wide.  The ends belong to it if its mantissa is even.  Rounding gives
back the double from any number that it covers (`nearestMagnitude_eq`): the
scale found for the number is that of the double, or the one below it where the
number rounds up to a power of two, and at that scale the mantissa is nearest.
-/
import Mathlib.Algebra.Order.Field.Power
import Mathlib.Data.Rat.Floor
import Mathlib.Tactic.FieldSimp
import Mathlib.Tactic.Linarith
import Mathlib.Tactic.NormNum
import Mathlib.Tactic.Positivity
import Mathlib.Tactic.Ring
import TypeSchema.Double
import TypeSchema.Double.Shortest

namespace TypeSchema.Double

/-- A power on one side of a fraction or on the other is one power. -/
theorem toNat_zpow {b : ℚ} (hb : b ≠ 0) (e : ℤ) : b ^ e.toNat / b ^ (-e).toNat = b ^ e := by
  rw [← zpow_natCast, ← zpow_natCast, ← zpow_sub₀ hb]
  congr 1
  omega

/-! ## Bits -/

section Bits

variable {d e : Double}

theorem signBit_eq : signBit = 2 ^ 63 := rfl

theorem exponentBit_eq : exponentBit = 2 ^ 52 := rfl

/-- A double is its sign and the bits of its magnitude. -/
theorem ofMagnitude_self (d : Double) : ofMagnitude d.negative d.magnitude = d := by
  obtain ⟨bits⟩ := d
  have hbits : bits.toNat < 2 ^ 64 := bits.toNat_lt
  have value : (if signBit ≤ bits.toNat then signBit else 0) + bits.toNat % signBit =
      bits.toNat := by
    rw [signBit_eq]
    split <;> omega
  unfold ofMagnitude negative magnitude
  congr 1
  simp only [Nat.mod_mod, decide_eq_true_eq]
  rw [value]
  exact UInt64.ofNat_toNat

/-- The bits are the power of the mantissa and the mantissa, which carries its
leading bit into the power. -/
theorem magnitude_eq (d : Double) :
    d.magnitude = (d.scale + 1074).toNat * exponentBit + d.mantissa := by
  unfold scale mantissa
  rw [exponentBit_eq]
  split <;> omega

theorem scale_ge (d : Double) : -1074 ≤ d.scale := by
  unfold scale
  omega

theorem mantissa_lt (d : Double) : d.mantissa < 2 ^ 53 := by
  unfold mantissa
  rw [exponentBit_eq]
  split <;> omega

/-- Only at the least power the leading bit may be missing. -/
theorem normal (d : Double) : d.scale = -1074 ∨ 2 ^ 52 ≤ d.mantissa := by
  unfold scale mantissa
  rw [exponentBit_eq]
  split <;> omega

theorem scale_le (finite : d.isFinite = true) : d.scale ≤ 971 := by
  have hlt : d.magnitude < infinityBits := of_decide_eq_true finite
  unfold scale
  rw [infinityBits, exponentBit_eq] at hlt
  rw [exponentBit_eq]
  omega

theorem mantissa_pos (nonzero : d.isZero = false) : 0 < d.mantissa := by
  have hne : d.magnitude ≠ 0 := of_decide_eq_false nonzero
  unfold mantissa
  rw [exponentBit_eq]
  split <;> omega

end Bits

/-! ## Exact magnitudes -/

/-- The magnitude of a finite double as a number. -/
def size (d : Double) : ℚ := d.mantissa * 2 ^ d.scale

section Size

variable {d e : Double}

theorem size_pos (nonzero : d.isZero = false) : 0 < d.size := by
  have : (0 : ℚ) < d.mantissa := by exact_mod_cast mantissa_pos nonzero
  unfold size
  positivity

theorem size_lt (d : Double) : d.size < 2 ^ (d.scale + 53) := by
  have hm : (d.mantissa : ℚ) < 2 ^ 53 := by exact_mod_cast d.mantissa_lt
  calc d.size < 2 ^ 53 * 2 ^ d.scale := by unfold size; gcongr
    _ = 2 ^ (d.scale + 53) := by rw [zpow_add₀ two_ne_zero, mul_comm]; rfl

/-- Above the least power the size is at least that of the leading bit. -/
theorem le_size (h : -1074 < d.scale) : (2 : ℚ) ^ (d.scale + 52) ≤ d.size := by
  have hm : (2 ^ 52 : ℚ) ≤ d.mantissa := by
    have := d.normal.resolve_left (by omega)
    exact_mod_cast this
  calc (2 : ℚ) ^ (d.scale + 52) = 2 ^ 52 * 2 ^ d.scale := by
        rw [zpow_add₀ two_ne_zero, mul_comm]; rfl
    _ ≤ d.size := by unfold size; gcongr

/-- The greater bits are the greater number. -/
theorem size_le_size (h : d.magnitude ≤ e.magnitude) : d.size ≤ e.size := by
  rcases lt_trichotomy d.scale e.scale with hlt | heq | hgt
  · have hge : -1074 < e.scale := d.scale_ge.trans_lt hlt
    calc d.size ≤ 2 ^ (d.scale + 53) := d.size_lt.le
      _ ≤ 2 ^ (e.scale + 52) := zpow_le_zpow_right₀ one_le_two (by omega)
      _ ≤ e.size := le_size hge
  · have hm : d.mantissa ≤ e.mantissa := by
      rw [magnitude_eq, e.magnitude_eq, heq] at h
      exact Nat.le_of_add_le_add_left h
    unfold size
    rw [heq]
    gcongr
  · -- A greater power makes greater bits.
    exfalso
    have hd := d.normal.resolve_left (by have := e.scale_ge; omega)
    have he := e.mantissa_lt
    have hscale : (e.scale + 1074).toNat + 1 ≤ (d.scale + 1074).toNat := by
      have := e.scale_ge
      omega
    have := Nat.mul_le_mul_right exponentBit hscale
    rw [magnitude_eq, e.magnitude_eq] at h
    rw [exponentBit_eq] at *
    omega

/-- The ratio of a finite double is its size. -/
theorem ratio_eq (d : Double) : (d.ratio.1 : ℚ) / d.ratio.2 = d.size := by
  unfold ratio size
  simp only [Nat.pow_eq]
  push_cast
  rw [mul_div_assoc, toNat_zpow two_ne_zero]

theorem ratio_pos (d : Double) : 0 < d.ratio.2 := Nat.two_pow_pos _

/-- The whole part is below a whole number exactly if the size is. -/
theorem wholePart_lt_iff {n : Nat} : d.wholePart < n ↔ d.size < n := by
  have hpos : (0 : ℚ) < d.ratio.2 := by exact_mod_cast d.ratio_pos
  rw [← ratio_eq, div_lt_iff₀ hpos]
  unfold wholePart
  rw [Nat.div_lt_iff_lt_mul d.ratio_pos]
  exact_mod_cast Iff.rfl

end Size

/-! ## Nearest whole numbers -/

/-- The whole number that a quotient is nearest to is the rounded one; half way
it is the even one. -/
theorem roundEven_eq {num den m : Nat} (hden : 0 < den)
    (h : if m % 2 = 0 then 2 * m * den ≤ 2 * num + den ∧ 2 * num ≤ (2 * m + 1) * den
      else 2 * m * den < 2 * num + den ∧ 2 * num < (2 * m + 1) * den) :
    roundEven num den = m := by
  have hnum : den * (num / den) + num % den = num := Nat.div_add_mod num den
  have hr : num % den < den := Nat.mod_lt _ hden
  have hle : 2 * m * den ≤ 2 * num + den ∧ 2 * num ≤ (2 * m + 1) * den := by
    split at h
    · exact h
    · exact ⟨h.1.le, h.2.le⟩
  obtain ⟨hlow, hhigh⟩ := hle
  unfold roundEven
  generalize num / den = q at *
  generalize num % den = r at *
  have hq : q ≤ m := by
    have : 2 * q * den ≤ (2 * m + 1) * den := by linarith only [hnum, hhigh, Nat.zero_le r]
    have := Nat.le_of_mul_le_mul_right this hden
    omega
  have hm : m ≤ q + 1 := by
    have : 2 * m * den < (2 * q + 3) * den := by linarith only [hnum, hr, hlow]
    have := Nat.lt_of_mul_lt_mul_right this
    omega
  rcases Nat.eq_or_lt_of_le hq with rfl | hlt
  · -- The number is not above the half way mark.
    have hr2 : 2 * r ≤ den := by linarith only [hnum, hhigh]
    refine if_neg ?_
    rintro (hgt | ⟨htie, hodd⟩)
    · omega
    · rw [if_neg (by omega)] at h
      linarith only [hnum, h.2, htie]
  · obtain rfl : m = q + 1 := by omega
    have hr2 : den ≤ 2 * r := by linarith only [hnum, hlow]
    refine if_pos ?_
    rcases Nat.eq_or_lt_of_le hr2 with htie | hgt
    · refine .inr ⟨htie.symm, ?_⟩
      by_contra hodd
      rw [if_neg (by omega)] at h
      linarith only [hnum, h.1, htie]
    · exact .inl hgt

/-! ## Scales -/

theorem atLeastPow2_iff {num den : Nat} (hden : 0 < den) {e : ℤ} :
    atLeastPow2 num den e = true ↔ (2 : ℚ) ^ e ≤ num / den := by
  have hd : (0 : ℚ) < den := by exact_mod_cast hden
  have hp : (0 : ℚ) < 2 ^ (-e).toNat := by positivity
  unfold atLeastPow2
  rw [decide_eq_true_iff, ← toNat_zpow two_ne_zero, div_le_div_iff₀ hp hd, mul_comm (2 ^ e.toNat)]
  simp only [Nat.pow_eq]
  exact_mod_cast Iff.rfl

/-- The logarithms of a ratio's parts bracket it. -/
theorem log2_bracket {num den : Nat} (hnum : 0 < num) (hden : 0 < den) :
    (2 : ℚ) ^ ((num.log2 : ℤ) - den.log2 - 1) ≤ num / den ∧
      (num : ℚ) / den < 2 ^ ((num.log2 : ℤ) - den.log2 + 1) := by
  have hd : (0 : ℚ) < den := by exact_mod_cast hden
  have hn₁ : (2 ^ num.log2 : ℚ) ≤ num := by exact_mod_cast Nat.log2_self_le hnum.ne'
  have hn₂ : (num : ℚ) < 2 ^ (num.log2 + 1) := by exact_mod_cast Nat.lt_log2_self
  have hd₁ : (2 ^ den.log2 : ℚ) ≤ den := by exact_mod_cast Nat.log2_self_le hden.ne'
  have hd₂ : (den : ℚ) < 2 ^ (den.log2 + 1) := by exact_mod_cast Nat.lt_log2_self
  constructor
  · rw [le_div_iff₀ hd]
    calc (2 : ℚ) ^ ((num.log2 : ℤ) - den.log2 - 1) * den
        ≤ 2 ^ ((num.log2 : ℤ) - den.log2 - 1) * 2 ^ (den.log2 + 1) := by gcongr
      _ = 2 ^ num.log2 := by
          rw [← zpow_natCast, ← zpow_natCast, ← zpow_add₀ two_ne_zero]
          congr 1
          push_cast
          ring
      _ ≤ num := hn₁
  · rw [div_lt_iff₀ hd]
    calc (num : ℚ) < 2 ^ (num.log2 + 1) := hn₂
      _ = 2 ^ ((num.log2 : ℤ) - den.log2 + 1) * 2 ^ den.log2 := by
          rw [← zpow_natCast, ← zpow_natCast, ← zpow_add₀ two_ne_zero]
          congr 1
          push_cast
          ring
      _ ≤ 2 ^ ((num.log2 : ℤ) - den.log2 + 1) * den := by gcongr

/-- The scale leaves a mantissa of at most 53 bits, and of no fewer unless it is
the least. -/
theorem scaleOf_spec {num den : Nat} (hnum : 0 < num) (hden : 0 < den) :
    -1074 ≤ scaleOf num den ∧ (num : ℚ) / den < 2 ^ (scaleOf num den + 53) ∧
      (scaleOf num den = -1074 ∨ (2 : ℚ) ^ (scaleOf num den + 52) ≤ num / den) := by
  obtain ⟨hlow, hhigh⟩ := log2_bracket hnum hden
  unfold scaleOf
  generalize (num.log2 : ℤ) - den.log2 = l at *
  generalize hq : max (l - 53) (-1074) = q
  have hge : -1074 ≤ q := hq ▸ le_max_right ..
  have hle : l - 53 ≤ q := hq ▸ le_max_left ..
  have hlow' : (2 : ℚ) ^ (l - 1) ≤ num / den := hlow
  by_cases h : atLeastPow2 num den (q + 53) = true
  · rw [if_pos h]
    have hup := (atLeastPow2_iff hden).mp h
    refine ⟨by omega, ?_, .inr ?_⟩
    · exact hhigh.trans_le (zpow_le_zpow_right₀ one_le_two (by omega))
    · rwa [show q + 1 + 52 = q + 53 by ring]
  · rw [if_neg h]
    refine ⟨hge, not_le.mp (mt (atLeastPow2_iff hden).mpr h), ?_⟩
    rcases max_choice (l - 53) (-1074) with hmax | hmax
    · right
      have : q = l - 53 := hq.symm.trans hmax
      rwa [this, show l - 53 + 52 = l - 1 by ring]
    · exact .inl (hq.symm.trans hmax)

/-! ## Intervals -/

/-- How far a double reaches down, in quarters of its last place. -/
def below (d : Double) : Nat := if d.mantissa = exponentBit ∧ -1074 < d.scale then 1 else 2

/-- The number is nearer to the double than to its neighbours, or half way to
one of them if the mantissa is even. -/
def Covers (d : Double) (x : ℚ) : Prop :=
  if d.mantissa % 2 = 0 then
    4 * (d.mantissa : ℚ) - d.below ≤ x * 2 ^ (2 - d.scale) ∧
      x * 2 ^ (2 - d.scale) ≤ 4 * d.mantissa + 2
  else
    4 * (d.mantissa : ℚ) - d.below < x * 2 ^ (2 - d.scale) ∧
      x * 2 ^ (2 - d.scale) < 4 * d.mantissa + 2

section Covers

variable {d : Double} {x y : ℚ}

theorem Covers.bounds (h : d.Covers x) :
    4 * (d.mantissa : ℚ) - d.below ≤ x * 2 ^ (2 - d.scale) ∧
      x * 2 ^ (2 - d.scale) ≤ 4 * d.mantissa + 2 := by
  unfold Covers at h
  split at h
  · exact h
  · exact ⟨h.1.le, h.2.le⟩

theorem size_mul (d : Double) : d.size * 2 ^ (2 - d.scale) = 4 * d.mantissa := by
  unfold size
  rw [mul_assoc, ← zpow_add₀ two_ne_zero, show d.scale + (2 - d.scale) = 2 by ring]
  norm_num
  ring

theorem below_pos (d : Double) : 0 < d.below := by
  unfold below
  split <;> decide

theorem below_le (d : Double) : d.below ≤ 2 := by
  unfold below
  split <;> decide

/-- A double covers its own value. -/
theorem covers_size (d : Double) : d.Covers d.size := by
  have hb : (0 : ℚ) < d.below := by exact_mod_cast d.below_pos
  unfold Covers
  rw [size_mul]
  split
  · constructor <;> linarith
  · constructor <;> linarith

theorem le_of_not_covers (h : x ≤ d.size) (hno : ¬ d.Covers x) :
    x * 2 ^ (2 - d.scale) ≤ 4 * d.mantissa - d.below := by
  have hp : (0 : ℚ) ≤ 2 ^ (2 - d.scale) := by positivity
  have hx := mul_le_mul_of_nonneg_right h hp
  rw [size_mul] at hx
  by_contra hlt
  refine hno ?_
  unfold Covers
  split
  · constructor <;> linarith
  · constructor <;> linarith

theorem ge_of_not_covers (h : d.size ≤ x) (hno : ¬ d.Covers x) :
    4 * d.mantissa + 2 ≤ x * 2 ^ (2 - d.scale) := by
  have hp : (0 : ℚ) ≤ 2 ^ (2 - d.scale) := by positivity
  have hb : (0 : ℚ) < d.below := by exact_mod_cast d.below_pos
  have hx := mul_le_mul_of_nonneg_right h hp
  rw [size_mul] at hx
  by_contra hlt
  refine hno ?_
  unfold Covers
  split
  · constructor <;> linarith
  · constructor <;> linarith

/-- What a double other than zero covers is positive. -/
theorem Covers.pos (nonzero : d.isZero = false) (h : d.Covers x) : 0 < x := by
  have hp : (0 : ℚ) < 2 ^ (2 - d.scale) := by positivity
  have hm : (1 : ℚ) ≤ d.mantissa := by exact_mod_cast mantissa_pos nonzero
  have hb : (d.below : ℚ) ≤ 2 := by exact_mod_cast d.below_le
  refine (mul_pos_iff_of_pos_right hp).mp ?_
  linarith [h.bounds.1]

/-- What lies between covered numbers is covered. -/
theorem Covers.between {lo hi : ℚ} (hlo : d.Covers lo) (hhi : d.Covers hi) (h : lo ≤ x)
    (h' : x ≤ hi) : d.Covers x := by
  have hp : (0 : ℚ) ≤ 2 ^ (2 - d.scale) := by positivity
  have hl := mul_le_mul_of_nonneg_right h hp
  have hh := mul_le_mul_of_nonneg_right h' hp
  unfold Covers at *
  split
  · rename_i heven
    rw [if_pos heven] at hlo hhi
    exact ⟨hlo.1.trans hl, hh.trans hhi.2⟩
  · rename_i hodd
    rw [if_neg hodd] at hlo hhi
    exact ⟨hlo.1.trans_le hl, hh.trans_lt hhi.2⟩

/-- The computed interval holds what the double covers. -/
theorem holds_interval_iff (nonzero : d.isZero = false) {n : Nat} {k : ℤ} :
    d.interval.holds n k = true ↔ d.Covers (n * 10 ^ k) := by
  have hm := mantissa_pos nonzero
  have hb := d.below_le
  -- The weights that both sides of the comparisons have in common.
  have hw : (0 : ℚ) < 2 ^ (d.scale - 2).toNat * 10 ^ (-k).toNat := by positivity
  have hten : (10 : ℚ) ^ k.toNat = 10 ^ k * 10 ^ (-k).toNat :=
    (div_eq_iff (by positivity)).mp (toNat_zpow (by norm_num) k)
  have htwo : (2 : ℚ) ^ (2 - d.scale).toNat = 2 ^ (2 - d.scale) * 2 ^ (d.scale - 2).toNat := by
    have h := toNat_zpow (b := 2) two_ne_zero (2 - d.scale)
    rw [show -(2 - d.scale) = d.scale - 2 by ring] at h
    exact (div_eq_iff (by positivity)).mp h
  have point : ((n * Nat.pow 10 k.toNat * d.interval.den : ℕ) : ℚ) =
      n * 10 ^ k * 2 ^ (2 - d.scale) * (2 ^ (d.scale - 2).toNat * 10 ^ (-k).toNat) := by
    show ((n * 10 ^ k.toNat * 2 ^ (2 - d.scale).toNat : ℕ) : ℚ) = _
    push_cast
    rw [hten, htwo]
    ring
  have low : ((d.interval.low * Nat.pow 10 (-k).toNat : ℕ) : ℚ) =
      (4 * d.mantissa - d.below) * (2 ^ (d.scale - 2).toNat * 10 ^ (-k).toNat) := by
    show (((4 * d.mantissa - d.below) * 2 ^ (d.scale - 2).toNat * 10 ^ (-k).toNat : ℕ) : ℚ) = _
    push_cast [Nat.cast_sub (show d.below ≤ 4 * d.mantissa by omega)]
    ring
  have high : ((d.interval.high * Nat.pow 10 (-k).toNat : ℕ) : ℚ) =
      (4 * d.mantissa + 2) * (2 ^ (d.scale - 2).toNat * 10 ^ (-k).toNat) := by
    show (((4 * d.mantissa + 2) * 2 ^ (d.scale - 2).toNat * 10 ^ (-k).toNat : ℕ) : ℚ) = _
    push_cast
    ring
  by_cases even : d.mantissa % 2 = 0
  · have closed : d.interval.closed = true := decide_eq_true even
    rw [Interval.holds, if_pos closed, Covers, if_pos even, Bool.and_eq_true, decide_eq_true_iff,
      decide_eq_true_iff, ← Nat.cast_le (α := ℚ), ← Nat.cast_le (α := ℚ), point, low, high,
      mul_le_mul_iff_left₀ hw, mul_le_mul_iff_left₀ hw]
  · have isOpen : ¬ d.interval.closed = true := fun h => even (of_decide_eq_true h)
    rw [Interval.holds, if_neg isOpen, Covers, if_neg even, Bool.and_eq_true, decide_eq_true_iff,
      decide_eq_true_iff, ← Nat.cast_lt (α := ℚ), ← Nat.cast_lt (α := ℚ), point, low, high,
      mul_lt_mul_iff_left₀ hw, mul_lt_mul_iff_left₀ hw]

/-! ## Nearest doubles -/

/-- The mantissa that a ratio rounds to at a scale. -/
theorem roundEven_scaled {num den m : Nat} {q : ℤ} (hden : 0 < den)
    (h : if m % 2 = 0 then (m : ℚ) - 1 / 2 ≤ num / den * 2 ^ (-q) ∧
        (num : ℚ) / den * 2 ^ (-q) ≤ m + 1 / 2
      else (m : ℚ) - 1 / 2 < num / den * 2 ^ (-q) ∧
        (num : ℚ) / den * 2 ^ (-q) < m + 1 / 2) :
    roundEven (num * Nat.pow 2 (-q).toNat) (den * Nat.pow 2 q.toNat) = m := by
  have hd : (0 : ℚ) < (den * 2 ^ q.toNat : ℕ) := by
    exact_mod_cast Nat.mul_pos hden (Nat.two_pow_pos _)
  have hx : (num : ℚ) / den * 2 ^ (-q) =
      (num * 2 ^ (-q).toNat : ℕ) / (den * 2 ^ q.toNat : ℕ) := by
    have hp := toNat_zpow (b := 2) two_ne_zero (-q)
    rw [neg_neg] at hp
    push_cast
    rw [← hp, div_mul_div_comm]
  simp only [Nat.pow_eq]
  refine roundEven_eq (Nat.mul_pos hden (Nat.two_pow_pos _)) ?_
  rw [hx] at h
  generalize num * 2 ^ (-q).toNat = a at *
  generalize den * 2 ^ q.toNat = b at *
  split
  · rename_i heven
    rw [if_pos heven, le_div_iff₀ hd, div_le_iff₀ hd] at h
    constructor
    · have : (2 * m * b : ℚ) ≤ 2 * a + b := by linarith [h.1]
      exact_mod_cast this
    · have : (2 * a : ℚ) ≤ (2 * m + 1) * b := by linarith [h.2]
      exact_mod_cast this
  · rename_i hodd
    rw [if_neg hodd, lt_div_iff₀ hd, div_lt_iff₀ hd] at h
    constructor
    · have : (2 * m * b : ℚ) < 2 * a + b := by linarith [h.1]
      exact_mod_cast this
    · have : (2 * a : ℚ) < (2 * m + 1) * b := by linarith [h.2]
      exact_mod_cast this

/-- A power of two in quarters of a double's last place. -/
theorem lt_pow_iff {n : ℕ} : x < 2 ^ (d.scale + n) ↔ x * 2 ^ (2 - d.scale) < 4 * 2 ^ n := by
  have hp : (0 : ℚ) < 2 ^ (2 - d.scale) := by positivity
  have hpow : (2 : ℚ) ^ (d.scale + n) * 2 ^ (2 - d.scale) = 4 * 2 ^ n := by
    rw [← zpow_add₀ two_ne_zero, show d.scale + n + (2 - d.scale) = 2 + (n : ℤ) by ring,
      zpow_add₀ two_ne_zero, zpow_natCast]
    norm_num
  rw [← mul_lt_mul_iff_left₀ hp, hpow]

/-- A number that the double covers is below the next binade. -/
theorem Covers.lt (h : d.Covers x) : x < 2 ^ (d.scale + 53) := by
  have hm : (d.mantissa : ℚ) + 1 ≤ 2 ^ 53 := by exact_mod_cast d.mantissa_lt
  have hhigh := h.bounds.2
  refine (lt_pow_iff (n := 53)).mpr ?_
  linarith

/-- The scale of a covered number is that of the double; only below a power of
two it can be the one before. -/
theorem Covers.scaleOf_cases {num den : Nat} (hnum : 0 < num) (hden : 0 < den)
    (h : d.Covers (num / den)) :
    scaleOf num den = d.scale ∨ (d.mantissa = exponentBit ∧ -1074 < d.scale ∧
      scaleOf num den = d.scale - 1 ∧ (num : ℚ) / den < 2 ^ (d.scale + 52)) := by
  obtain ⟨hge, hlt, hlow⟩ := scaleOf_spec hnum hden
  generalize (num : ℚ) / den = x at *
  generalize scaleOf num den = q at *
  have hle : q ≤ d.scale := by
    by_contra hgt
    have hbig := hlow.resolve_left (by have := d.scale_ge; omega)
    have := h.lt.trans_le (zpow_le_zpow_right₀ one_le_two
      (show d.scale + 53 ≤ q + 52 by omega))
    exact absurd hbig (not_le.mpr this)
  rcases Int.lt_or_eq_of_le hle with hq | heq
  · right
    have hs : -1074 < d.scale := hge.trans_lt hq
    have hx : x < 2 ^ (d.scale + 52) :=
      hlt.trans_le (zpow_le_zpow_right₀ one_le_two (by omega))
    have hx' := (lt_pow_iff (n := 52)).mp hx
    have hb : (d.below : ℚ) ≤ 2 := by exact_mod_cast d.below_le
    have hm : d.mantissa = exponentBit := by
      have hfull := d.normal.resolve_left (by omega)
      have : (d.mantissa : ℚ) < 2 ^ 52 + 1 := by linarith [h.bounds.1]
      have : d.mantissa < 2 ^ 52 + 1 := by exact_mod_cast this
      rw [exponentBit_eq]
      omega
    refine ⟨hm, hs, ?_, hx⟩
    by_contra hne
    -- Two scales below, the number would be less than half the power of two.
    have hx'' : x < 2 ^ (d.scale + 51) :=
      hlt.trans_le (zpow_le_zpow_right₀ one_le_two (by omega))
    have := (lt_pow_iff (n := 51)).mp hx''
    have hmq : (d.mantissa : ℚ) = 2 ^ 52 := by
      rw [hm, exponentBit_eq]
      norm_num
    linarith [h.bounds.1]
  · exact .inl heq

/-- At the scale of the double a covered number rounds to its mantissa. -/
theorem Covers.roundEven_eq {num den : Nat} (hden : 0 < den) (h : d.Covers (num / den)) :
    roundEven (num * Nat.pow 2 (-d.scale).toNat) (den * Nat.pow 2 d.scale.toNat) =
      d.mantissa := by
  have hb : (d.below : ℚ) ≤ 2 := by exact_mod_cast d.below_le
  have hx : (num : ℚ) / den * 2 ^ (2 - d.scale) = 4 * (num / den * 2 ^ (-d.scale)) := by
    rw [show 2 - d.scale = 2 + -d.scale by ring, zpow_add₀ two_ne_zero]
    norm_num
    ring
  refine roundEven_scaled hden ?_
  unfold Covers at h
  rw [hx] at h
  split
  · rename_i heven
    rw [if_pos heven] at h
    constructor <;> linarith [h.1, h.2]
  · rename_i hodd
    rw [if_neg hodd] at h
    constructor <;> linarith [h.1, h.2]

/-- At the scale before, a covered number below a power of two rounds up to it. -/
theorem Covers.roundEven_below {num den : Nat} (hden : 0 < den) (h : d.Covers (num / den))
    (hm : d.mantissa = exponentBit) (hs : -1074 < d.scale)
    (hlt : (num : ℚ) / den < 2 ^ (d.scale + 52)) :
    roundEven (num * Nat.pow 2 (-(d.scale - 1)).toNat) (den * Nat.pow 2 (d.scale - 1).toNat) =
      2 * exponentBit := by
  have hbelow : d.below = 1 := if_pos ⟨hm, hs⟩
  have hmq : (d.mantissa : ℚ) = 2 ^ 52 := by
    rw [hm, exponentBit_eq]
    norm_num
  have hx : (num : ℚ) / den * 2 ^ (2 - d.scale) = 2 * (num / den * 2 ^ (-(d.scale - 1))) := by
    rw [show 2 - d.scale = 1 + -(d.scale - 1) by ring, zpow_add₀ two_ne_zero]
    norm_num
    ring
  have hlow := h.bounds.1
  have hhigh := (lt_pow_iff (n := 52)).mp hlt
  rw [hx, hbelow, hmq] at hlow
  rw [hx] at hhigh
  refine roundEven_scaled hden ?_
  rw [if_pos (by decide), exponentBit_eq]
  push_cast
  norm_num at hlow hhigh ⊢
  constructor <;> linarith

/-- Rounding gives back a double from any number that it covers. -/
theorem nearestMagnitude_eq {num den : Nat} (hnum : 0 < num) (hden : 0 < den)
    (finite : d.isFinite = true) (h : d.Covers (num / den)) :
    nearestMagnitude num den = d.magnitude := by
  have bounded : d.magnitude ≤ infinityBits := (of_decide_eq_true finite : _ < _).le
  have value : nearestMagnitude num den = min ((scaleOf num den + 1074).toNat * exponentBit +
      roundEven (num * Nat.pow 2 (-scaleOf num den).toNat)
        (den * Nat.pow 2 (scaleOf num den).toNat)) infinityBits := rfl
  rw [value]
  rcases h.scaleOf_cases hnum hden with hq | ⟨hm, hs, hq, hlt⟩
  · rw [hq, h.roundEven_eq hden, ← magnitude_eq, min_eq_left bounded]
  · -- The mantissa carries into the next scale.
    have hbits : (d.scale - 1 + 1074).toNat * exponentBit + 2 * exponentBit = d.magnitude := by
      rw [magnitude_eq, hm, exponentBit_eq]
      omega
    rw [hq, h.roundEven_below hden hm hs hlt, hbits, min_eq_left bounded]

/-- The double of its sign and of a ratio that it covers. -/
theorem ofRatio_eq {num den : Nat} (hnum : 0 < num) (hden : 0 < den) (finite : d.isFinite = true)
    (h : d.Covers (num / den)) : ofRatio d.negative num den = d := by
  rw [ofRatio, if_neg hnum.ne', nearestMagnitude_eq hnum hden finite h, ofMagnitude_self]

end Covers

/-! ## Decimals -/

/-- How many digits a number has shows between which powers of ten it is. -/
theorem length_toDigits_iff {n L : Nat} (hn : n ≠ 0) :
    (Nat.toDigits 10 n).length = L ↔ 0 < L ∧ 10 ^ (L - 1) ≤ n ∧ n < 10 ^ L := by
  have hpos : 0 < (Nat.toDigits 10 n).length := Nat.length_toDigits_pos
  have le_iff : ∀ {k}, 0 < k → ((Nat.toDigits 10 n).length ≤ k ↔ n < 10 ^ k) :=
    fun hk => Nat.length_toDigits_le_iff (by decide) hk
  constructor
  · rintro rfl
    refine ⟨hpos, ?_, (le_iff hpos).mp le_rfl⟩
    rcases Nat.eq_zero_or_pos ((Nat.toDigits 10 n).length - 1) with hzero | hone
    · rw [hzero]
      exact Nat.one_le_iff_ne_zero.mpr hn
    · by_contra hlt
      have := (le_iff hone).mpr (not_le.mp hlt)
      omega
  · rintro ⟨hL, hlow, hhigh⟩
    refine le_antisymm ((le_iff hL).mpr hhigh) ?_
    by_contra hlt
    have := ((le_iff hpos).mp le_rfl).trans_le
      (Nat.pow_le_pow_right (show 0 < 10 by decide) (Nat.le_sub_one_of_lt (not_le.mp hlt)))
    exact absurd hlow (not_le.mpr this)

/-- The same for a decimal, by the place of its leading digit. -/
theorem decimal_bounds {n : Nat} (hn : n ≠ 0) (e : ℤ) :
    (10 : ℚ) ^ (e + (Nat.toDigits 10 n).length - 1) ≤ n * 10 ^ e ∧
      (n : ℚ) * 10 ^ e < 10 ^ (e + (Nat.toDigits 10 n).length) := by
  obtain ⟨hL, hlow, hhigh⟩ := (length_toDigits_iff hn).mp rfl
  generalize (Nat.toDigits 10 n).length = L at *
  have ten : (10 : ℚ) ≠ 0 := by norm_num
  have hlow' : (10 : ℚ) ^ (L - 1) ≤ n := by exact_mod_cast hlow
  have hhigh' : (n : ℚ) < 10 ^ L := by exact_mod_cast hhigh
  constructor
  · calc (10 : ℚ) ^ (e + L - 1) = 10 ^ (L - 1) * 10 ^ e := by
          rw [← zpow_natCast, ← zpow_add₀ ten, Nat.cast_sub hL]
          congr 1
          push_cast
          ring
      _ ≤ n * 10 ^ e := by gcongr
  · calc (n : ℚ) * 10 ^ e < 10 ^ L * 10 ^ e := by gcongr
      _ = 10 ^ (e + L) := by
          rw [← zpow_natCast, ← zpow_add₀ ten]
          congr 1
          ring

section Decimals

variable {d : Double} {x : ℚ}

theorem Covers.lt_top (finite : d.isFinite = true) (h : d.Covers x) : x < 10 ^ (309 : ℤ) :=
  calc x < 2 ^ (d.scale + 53) := h.lt
    _ ≤ 2 ^ (1024 : ℤ) := zpow_le_zpow_right₀ one_le_two (by have := scale_le finite; omega)
    _ ≤ 10 ^ (309 : ℤ) := by
        have : 2 ^ 1024 ≤ 10 ^ 309 := by decide +kernel
        exact_mod_cast this

theorem Covers.bottom_lt (nonzero : d.isZero = false) (h : d.Covers x) :
    (10 : ℚ) ^ (-324 : ℤ) < x := by
  have hp : (0 : ℚ) < 2 ^ (2 - d.scale) := by positivity
  have hm : (1 : ℚ) ≤ d.mantissa := by exact_mod_cast mantissa_pos nonzero
  have hb : (d.below : ℚ) ≤ 2 := by exact_mod_cast d.below_le
  have hlow : (2 : ℚ) ^ (d.scale - 1) ≤ x := by
    rw [← mul_le_mul_iff_left₀ hp, ← zpow_add₀ two_ne_zero,
      show d.scale - 1 + (2 - d.scale) = 1 by ring]
    linarith [h.bounds.1, zpow_one (2 : ℚ)]
  calc (10 : ℚ) ^ (-324 : ℤ) < 2 ^ (-1075 : ℤ) := by
        have : (2 : ℚ) ^ 1075 < 10 ^ 324 := by
          have : 2 ^ 1075 < 10 ^ 324 := by decide +kernel
          exact_mod_cast this
        rw [zpow_neg, zpow_neg]
        exact inv_strictAnti₀ (by positivity) this
    _ ≤ 2 ^ (d.scale - 1) := zpow_le_zpow_right₀ one_le_two (by have := d.scale_ge; omega)
    _ ≤ x := hlow

/-- A decimal that the double covers is read as the double. -/
theorem ofDecimal_eq (finite : d.isFinite = true) (nonzero : d.isZero = false) {n : Nat} {e : ℤ}
    (hn : n ≠ 0) (h : d.Covers (n * 10 ^ e)) : ofDecimal d.negative n e = d := by
  have one_lt : (1 : ℚ) < 10 := by norm_num
  obtain ⟨hlow, hhigh⟩ := decimal_bounds hn e
  have htop : e + (Nat.toDigits 10 n).length - 1 < 309 :=
    (zpow_lt_zpow_iff_right₀ one_lt).mp (hlow.trans_lt (h.lt_top finite))
  have hbottom : -324 < e + (Nat.toDigits 10 n).length :=
    (zpow_lt_zpow_iff_right₀ one_lt).mp ((h.bottom_lt nonzero).trans hhigh)
  rw [ofDecimal, if_neg hn, if_neg (by omega), if_neg (by omega)]
  refine ofRatio_eq (Nat.mul_pos (Nat.pos_of_ne_zero hn) (Nat.pow_pos (by decide)))
    (Nat.pow_pos (by decide)) finite ?_
  simp only [Nat.pow_eq]
  push_cast
  rwa [mul_div_assoc, toNat_zpow (by norm_num)]

end Decimals

end TypeSchema.Double
