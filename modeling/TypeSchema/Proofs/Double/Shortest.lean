/-
# Shortest decimals — the digits that are found read back

The search for digits starts at a power of ten that is no greater than the
double, because the powers of ten and of two keep in step closely enough
(`pow_estimate`).  Sixteen places further down the grid is finer than what the
double covers, so one of the two points around the double is covered
(`covers_of_fine`).  Whatever is found is therefore a decimal that the double
covers (`covers_shortest`).
-/
import TypeSchema.Proofs.Double.Rounding

namespace TypeSchema.Double

/-! ## The leading digit -/

/-- Powers of ten against powers of two: ten to the 1233 is just below two to the
4096, and ten to the 1234 is above. -/
theorem pow_estimate {l : ℤ} (hl : -4096 ≤ l) : (10 : ℚ) ^ (l * 1233 / 4096 - 2) ≤ 2 ^ l := by
  have one_le : (1 : ℚ) ≤ 10 := by norm_num
  generalize he : l * 1233 / 4096 - 2 = e
  have powers : ((10 : ℚ) ^ e) ^ 4096 ≤ (2 ^ l) ^ 4096 := by
    have hten : ((10 : ℚ) ^ e) ^ 4096 = 10 ^ (e * 4096) := by
      rw [← zpow_natCast, ← zpow_mul]
      rfl
    have htwo : ((2 : ℚ) ^ l) ^ 4096 = (2 ^ 4096) ^ l := by
      rw [← zpow_natCast, ← zpow_mul, ← zpow_natCast, ← zpow_mul, mul_comm]
    rw [hten, htwo]
    rcases le_or_gt 0 l with hpos | hneg
    · have small : (10 : ℚ) ^ 1233 ≤ 2 ^ 4096 := by
        have : 10 ^ 1233 ≤ 2 ^ 4096 := by decide +kernel
        exact_mod_cast this
      calc (10 : ℚ) ^ (e * 4096) ≤ 10 ^ (1233 * l) := zpow_le_zpow_right₀ one_le (by omega)
        _ = (10 ^ 1233) ^ l := by rw [zpow_mul]; rfl
        _ ≤ (2 ^ 4096) ^ l := zpow_le_zpow_left₀ hpos (by positivity) small
    · have great : (2 : ℚ) ^ 4096 ≤ 10 ^ 1234 := by
        have : 2 ^ 4096 ≤ 10 ^ 1234 := by decide +kernel
        exact_mod_cast this
      obtain ⟨a, rfl⟩ : ∃ a : ℕ, l = -a := ⟨l.natAbs, by omega⟩
      calc (10 : ℚ) ^ (e * 4096) ≤ 10 ^ (1234 * -(a : ℤ)) :=
            zpow_le_zpow_right₀ one_le (by omega)
        _ = (10 ^ 1234) ^ (-(a : ℤ)) := by rw [zpow_mul]; rfl
        _ ≤ (2 ^ 4096) ^ (-(a : ℤ)) := by
            rw [zpow_neg, zpow_neg, zpow_natCast, zpow_natCast]
            exact inv_anti₀ (by positivity) (pow_le_pow_left₀ (by positivity) great a)
  exact (pow_le_pow_iff_left₀ (by positivity) (by positivity) (by norm_num)).mp powers

section Grid

variable {d : Double} {k e : ℤ} {tie : Tie}

/-- The interval is laid around the double's size. -/
theorem interval_value (d : Double) : (d.interval.value : ℚ) / d.interval.den = d.size := by
  have hp := toNat_zpow (b := 2) two_ne_zero (d.scale - 2)
  rw [show -(d.scale - 2) = 2 - d.scale by ring] at hp
  show ((4 * d.mantissa * 2 ^ (d.scale - 2).toNat : ℕ) : ℚ) / (2 ^ (2 - d.scale).toNat : ℕ) = _
  push_cast
  rw [mul_div_assoc, hp, size, zpow_sub₀ two_ne_zero]
  norm_num
  ring

theorem interval_den_pos (d : Double) : 0 < d.interval.den := Nat.two_pow_pos _

theorem atLeastPow10_iff : d.interval.atLeastPow10 e = true ↔ (10 : ℚ) ^ e ≤ d.size := by
  have hd : (0 : ℚ) < d.interval.den := by exact_mod_cast d.interval_den_pos
  have hp : (0 : ℚ) < 10 ^ (-e).toNat := by positivity
  unfold Interval.atLeastPow10
  rw [decide_eq_true_iff, ← interval_value, ← toNat_zpow (by norm_num), div_le_div_iff₀ hp hd,
    mul_comm (10 ^ e.toNat)]
  simp only [Nat.pow_eq]
  exact_mod_cast Iff.rfl

/-- The search for the leading digit stays below the double. -/
theorem pow_leading_le {n : Nat} (h : (10 : ℚ) ^ e ≤ d.size) :
    (10 : ℚ) ^ d.interval.leading n e ≤ d.size := by
  induction n generalizing e with
  | zero => exact h
  | succ n ih =>
      rw [Interval.leading]
      split
      · rename_i hstep
        exact ih (atLeastPow10_iff.mp hstep)
      · exact h

/-! ## Grids -/

/-- Of what is found on a grid the double's interval holds a point. -/
theorem holds_of_onGrid {v : Interval} {n : Nat} (h : v.onGrid tie k = some n) :
    v.holds n k = true := by
  unfold Interval.onGrid at h
  simp only at h
  split at h
  · cases h
  · rename_i hfirst _
    cases h
    exact hfirst
  · rename_i _ hsecond
    cases h
    exact hsecond
  · rename_i hfirst hsecond
    split at h
    · cases h
      exact hfirst
    · split at h
      · cases h
        exact hsecond
      · cases tie with
        | up =>
            cases h
            exact hsecond
        | even =>
            cases h
            rcases Nat.mod_two_eq_zero_or_one _ with heven | hodd
            · rw [heven]
              exact hfirst
            · rw [hodd]
              exact hsecond

/-- The points of a grid next to the double. -/
theorem grid_bracket (d : Double) (k : ℤ) {n : Nat}
    (hn : d.interval.value * Nat.pow 10 (-k).toNat / (d.interval.den * Nat.pow 10 k.toNat) = n) :
    (n : ℚ) * 10 ^ k ≤ d.size ∧ d.size < (n + 1 : ℕ) * 10 ^ k := by
  have ten : (0 : ℚ) < 10 ^ k := by positivity
  have hden : 0 < d.interval.den * Nat.pow 10 k.toNat :=
    Nat.mul_pos d.interval_den_pos (Nat.pow_pos (by decide))
  have hq : (0 : ℚ) < (d.interval.den * Nat.pow 10 k.toNat : ℕ) := by exact_mod_cast hden
  have hsize : d.size / 10 ^ k = (d.interval.value * Nat.pow 10 (-k).toNat : ℕ) /
      (d.interval.den * Nat.pow 10 k.toNat : ℕ) := by
    have hp := toNat_zpow (b := (10 : ℚ)) (by norm_num) (-k)
    rw [neg_neg] at hp
    simp only [Nat.pow_eq]
    push_cast
    rw [← interval_value, mul_div_mul_comm, hp, zpow_neg, div_eq_mul_inv _ ((10 : ℚ) ^ k)]
  rw [← le_div_iff₀ ten, ← div_lt_iff₀ ten, hsize, le_div_iff₀ hq, div_lt_iff₀ hq]
  constructor
  · have := Nat.div_mul_le_self (d.interval.value * Nat.pow 10 (-k).toNat)
      (d.interval.den * Nat.pow 10 k.toNat)
    rw [hn] at this
    exact_mod_cast this
  · have := Nat.lt_mul_div_succ (d.interval.value * Nat.pow 10 (-k).toNat) hden
    rw [hn, mul_comm (d.interval.den * Nat.pow 10 k.toNat)] at this
    exact_mod_cast this

/-- A grid that is finer than what the double covers has a covered point next to
the double. -/
theorem covers_of_fine (fine : (10 : ℚ) ^ k * 2 ^ (2 - d.scale) < 2 + d.below) {n : Nat}
    (hlow : (n : ℚ) * 10 ^ k ≤ d.size) (hhigh : d.size < (n + 1 : ℕ) * 10 ^ k) :
    d.Covers (n * 10 ^ k) ∨ d.Covers ((n + 1 : ℕ) * 10 ^ k) := by
  by_contra hno
  obtain ⟨hno₁, hno₂⟩ := not_or.mp hno
  have h₁ := le_of_not_covers hlow hno₁
  have h₂ := ge_of_not_covers hhigh.le hno₂
  push_cast at h₂
  have step : ((n : ℚ) + 1) * 10 ^ k * 2 ^ (2 - d.scale) =
      n * 10 ^ k * 2 ^ (2 - d.scale) + 10 ^ k * 2 ^ (2 - d.scale) := by ring
  linarith

/-- On such a grid a point is found. -/
theorem onGrid_isSome (tie : Tie) (nonzero : d.isZero = false)
    (fine : (10 : ℚ) ^ k * 2 ^ (2 - d.scale) < 2 + d.below) :
    (d.interval.onGrid tie k).isSome = true := by
  generalize hn : d.interval.value * Nat.pow 10 (-k).toNat /
    (d.interval.den * Nat.pow 10 k.toNat) = n
  obtain ⟨hlow, hhigh⟩ := grid_bracket d k hn
  have covered := covers_of_fine fine hlow hhigh
  rw [← holds_interval_iff nonzero, ← holds_interval_iff nonzero] at covered
  unfold Interval.onGrid
  simp only [hn]
  split
  · rename_i hfirst hsecond
    rw [hfirst, hsecond] at covered
    cases covered <;> contradiction
  · rfl
  · rfl
  · split
    · rfl
    · split
      · rfl
      · cases tie <;> rfl

/-- The search goes down the grids until it finds a point. -/
theorem coarsest_eq {v : Interval} {n j : Nat} (hj : j < n) (h : (v.onGrid tie (k - j)).isSome) :
    ∃ m k', v.coarsest tie n k = (m, k') ∧ v.onGrid tie k' = some m := by
  induction n generalizing k j with
  | zero => cases hj
  | succ n ih =>
      rw [Interval.coarsest]
      cases hgrid : v.onGrid tie k with
      | some m => exact ⟨m, k, rfl, hgrid⟩
      | none =>
          cases j with
          | zero =>
              rw [Nat.cast_zero, sub_zero, hgrid] at h
              cases h
          | succ j =>
              refine ih (Nat.lt_of_succ_lt_succ hj) ?_
              rwa [show k - 1 - (j : ℤ) = k - (j + 1 : ℕ) by push_cast; ring]

/-- The search for the leading digit starts below the double. -/
theorem pow_start_le (nonzero : d.isZero = false) :
    (10 : ℚ) ^ (((d.mantissa.log2 : ℤ) + d.scale) * 1233 / 4096 - 2) ≤ d.size := by
  have hlog : (2 ^ d.mantissa.log2 : ℚ) ≤ d.mantissa := by
    exact_mod_cast Nat.log2_self_le (mantissa_pos nonzero).ne'
  calc (10 : ℚ) ^ (((d.mantissa.log2 : ℤ) + d.scale) * 1233 / 4096 - 2)
      ≤ 2 ^ ((d.mantissa.log2 : ℤ) + d.scale) := pow_estimate (by have := d.scale_ge; omega)
    _ = 2 ^ d.mantissa.log2 * 2 ^ d.scale := by rw [zpow_add₀ two_ne_zero, zpow_natCast]
    _ ≤ d.size := by unfold size; gcongr

/-- Seventeen digits are finer than the mantissa. -/
theorem fine_of_leading (leading : (10 : ℚ) ^ e ≤ d.size) :
    (10 : ℚ) ^ (e - (16 : ℕ)) * 2 ^ (2 - d.scale) < 2 + d.below := by
  have ten : (10 : ℚ) ≠ 0 := by norm_num
  have hp : (0 : ℚ) < 2 ^ (2 - d.scale) := by positivity
  have hscaled := mul_le_mul_of_nonneg_right leading hp.le
  rw [size_mul] at hscaled
  have hgrid : (10 : ℚ) ^ (e - (16 : ℕ)) * 2 ^ (2 - d.scale) =
      10 ^ e * 2 ^ (2 - d.scale) / 10 ^ 16 := by
    rw [zpow_sub₀ ten, zpow_natCast]
    ring
  rw [hgrid, div_lt_iff₀ (by norm_num)]
  unfold below
  split
  · rename_i hm
    rw [hm.1, exponentBit_eq] at hscaled
    norm_num at hscaled ⊢
    linarith
  · have hm : (d.mantissa : ℚ) < 2 ^ 53 := by exact_mod_cast d.mantissa_lt
    norm_num
    linarith

/-- The decimal that is found for a double is one that it covers. -/
theorem covers_shortest (tie : Tie) (nonzero : d.isZero = false) :
    d.Covers ((shortest tie d).1 * 10 ^ (shortest tie d).2) := by
  have value : shortest tie d = d.interval.coarsest tie 17
      (d.interval.leading 4 (((d.mantissa.log2 : ℤ) + d.scale) * 1233 / 4096 - 2)) := by
    rw [shortest, nonzero]
    rfl
  have leading := pow_leading_le (n := 4) (pow_start_le nonzero)
  obtain ⟨m, k', heq, hgrid⟩ := coarsest_eq (n := 17) (j := 16) (by decide)
    (onGrid_isSome tie nonzero (fine_of_leading leading))
  rw [value, heq]
  exact (holds_interval_iff nonzero).mp (holds_of_onGrid hgrid)

end Grid

end TypeSchema.Double
