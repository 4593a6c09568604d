/-
# Folding — two ways to leave case aside

An expression that ignores case takes for a character all characters that fold
to the same (`has_foldCase_singleton`).  Texts are compared by their small
forms.  Mostly this comes to the same: where a character folds to another,
either the other is its small form, or it is the small form of the other.

It does not for the characters in `strays`, and for no others
(`mem_strays_iff`).  All but one of them are small letters that fold to other
small letters, like the long s.  The other is the capital sigma, whose small
form depends on what stands around it.  Texts without strays have the same
small form if they fold to the same (`lower_eq_of_sameFolding`).

The case maps are looked at row by row.  Rows ascend, so one of them at most
maps a code point (`mapCode_of_maps`).  The code points that rows map are the
bits of one number (`testBit_mappedBits`), so a single `Nat.land` tells whether
what a row maps to is mapped again (`CaseRow.not_maps_image`).  The checks use
operations on natural numbers that the kernel calculates by itself.
-/
import Mathlib.Algebra.Ring.GeomSum
import TypeSchema.Proofs.Regex.Case
import TypeSchema.Text.Case

namespace TypeSchema

namespace Unicode

/-! ## Rows -/

/-- A row of a case map. -/
abbrev CaseRow := Nat × Nat × Nat × Nat

namespace CaseRow

def first (r : CaseRow) : Nat := r.1

def last (r : CaseRow) : Nat := r.2.1

def step (r : CaseRow) : Nat := r.2.2.1

def target (r : CaseRow) : Nat := r.2.2.2

/-- The row maps the code point. -/
def maps (r : CaseRow) (n : Nat) : Bool :=
  Nat.ble r.first n && Nat.ble n r.last && Nat.beq ((n - r.first) % r.step) 0

/-- What the row makes of the code point. -/
def image (r : CaseRow) (n : Nat) : Nat := r.target + (n - r.first)

/-- The row that leads back. -/
def inverse (r : CaseRow) : CaseRow := (r.target, r.image r.last, r.step, r.first)

/-- The code points that the row maps, as the bits of a number: the sum of the
powers of `2 ^ step`, one for each of them, moved up to the first. -/
def bits (r : CaseRow) : Nat :=
  ((1 <<< (r.step * ((r.last - r.first) / r.step + 1)) - 1) / (1 <<< r.step - 1)) <<< r.first

/-- The row maps all that the other maps, and to the same. -/
def covers (r q : CaseRow) : Bool :=
  Nat.ble r.first q.first && Nat.ble q.last r.last && Nat.beq ((q.first - r.first) % r.step) 0 &&
    (Nat.beq (q.step % r.step) 0 || Nat.beq q.first q.last) && Nat.beq q.target (r.image q.first)

end CaseRow

/-- The code points that the rows map, as the bits of a number. -/
def mappedBits (rows : CaseRows) : Nat := rows.foldr (fun r bits => CaseRow.bits r ||| bits) 0

/-- The rows do not map what the row maps to. -/
def CaseRow.avoids (r : CaseRow) (rows : CaseRows) : Bool :=
  Nat.beq (r.inverse.bits &&& mappedBits rows) 0

/-- Rows that are not empty, and begin behind `n` and behind each other. -/
def ascend (n : Nat) : CaseRows → Bool
  | [] => true
  | r :: rest =>
    Nat.blt n (CaseRow.first r) && Nat.ble (CaseRow.first r) (CaseRow.last r) &&
      Nat.blt 0 (CaseRow.step r) && ascend (CaseRow.last r) rest

namespace CaseRow

variable {r q : CaseRow} {rows : CaseRows} {n m : Nat}

theorem maps_iff : r.maps n ↔ r.first ≤ n ∧ n ≤ r.last ∧ (n - r.first) % r.step = 0 := by
  simp [maps, and_assoc]

theorem ascend_cons : ascend m (r :: rows) ↔
    m < r.first ∧ r.first ≤ r.last ∧ 0 < r.step ∧ ascend r.last rows := by
  simp [ascend, and_assoc]

theorem ascend_mem (h : ascend m rows) (hr : r ∈ rows) :
    m < r.first ∧ r.first ≤ r.last ∧ 0 < r.step := by
  induction rows generalizing m with
  | nil => cases hr
  | cons q rows ih =>
      obtain ⟨hfirst, hle, hstep, hrest⟩ := ascend_cons.mp h
      rcases List.mem_cons.mp hr with rfl | hr
      · exact ⟨hfirst, hle, hstep⟩
      · obtain ⟨hlt, hr⟩ := ih hrest hr
        exact ⟨by omega, hr⟩

theorem image_le (hn : r.maps n) : r.target ≤ r.image n ∧ r.image n ≤ r.image r.last := by
  obtain ⟨hlo, hhi, -⟩ := maps_iff.mp hn
  unfold image
  omega

theorem maps_of_covers (h : r.covers q) (hn : q.maps n) : r.maps n ∧ r.image n = q.image n := by
  simp only [covers, Bool.or_eq_true, Bool.and_eq_true, Nat.ble_eq, Nat.beq_eq] at h
  obtain ⟨hlo, hhi, hstep⟩ := maps_iff.mp hn
  obtain ⟨⟨⟨⟨hfirst, hlast⟩, hoffset⟩, hsteps⟩, htarget⟩ := h
  have hrest : (n - q.first) % r.step = 0 := by
    rcases hsteps with hsteps | hsteps
    · exact Nat.mod_eq_zero_of_dvd
        ((Nat.dvd_of_mod_eq_zero hsteps).trans (Nat.dvd_of_mod_eq_zero hstep))
    · rw [show n - q.first = 0 by omega, Nat.zero_mod]
  have hsplit : n - r.first = (n - q.first) + (q.first - r.first) := by omega
  refine ⟨maps_iff.mpr ⟨by omega, by omega, ?_⟩, ?_⟩
  · rw [hsplit, Nat.add_mod, hrest, hoffset, Nat.zero_add, Nat.zero_mod]
  · unfold image at htarget ⊢
    omega

theorem inverse_maps (h : r.maps n) :
    r.inverse.maps (r.image n) ∧ r.inverse.image (r.image n) = n := by
  obtain ⟨hlo, hhi, hstep⟩ := maps_iff.mp h
  have hback : r.image n - r.inverse.first = n - r.first := Nat.add_sub_cancel_left ..
  refine ⟨maps_iff.mpr ⟨(image_le h).1, (image_le h).2, ?_⟩, ?_⟩
  · rw [hback]
    exact hstep
  · have himage : r.inverse.image (r.image n) = r.first + (n - r.first) :=
      congrArg (r.first + ·) hback
    omega

end CaseRow

/-! ## Bits -/

section Bits

variable {rows : CaseRows} {r : CaseRow} {n m : Nat}

/-- Of a sum of powers of `2 ^ step`, every `step`-th bit is set. -/
theorem testBit_sum_pow {step count i : Nat} (hstep : 0 < step) :
    (∑ k ∈ Finset.range count, (2 ^ step) ^ k).testBit i ↔ i < step * count ∧ i % step = 0 := by
  induction count generalizing i with
  | zero => simp
  | succ count ih =>
      rw [geom_sum_succ, Nat.testBit_two_pow_mul_add _ (Nat.one_lt_two_pow hstep.ne'),
        Nat.mul_succ]
      split
      · next hlt =>
          rw [Nat.testBit_one_eq_true_iff_self_eq_zero, Nat.mod_eq_of_lt hlt]
          omega
      · next hge =>
          rw [ih, ← Nat.mod_eq_sub_mod (Nat.le_of_not_lt hge)]
          omega

theorem CaseRow.testBit_bits (hle : r.first ≤ r.last) (hstep : 0 < r.step) :
    r.bits.testBit n ↔ r.maps n := by
  have hsum (count : Nat) : (1 <<< (r.step * count) - 1) / (1 <<< r.step - 1) =
      ∑ k ∈ Finset.range count, (2 ^ r.step) ^ k := by
    rw [Nat.geomSum_eq (Nat.one_lt_two_pow hstep.ne'), ← pow_mul, Nat.one_shiftLeft,
      Nat.one_shiftLeft]
  rw [bits, hsum, Nat.testBit_shiftLeft, Bool.and_eq_true, decide_eq_true_eq,
    testBit_sum_pow hstep, maps_iff]
  refine and_congr_right fun hfirst => and_congr_left fun hmod => ?_
  -- both sides count the steps from the first code point
  obtain ⟨k, hk⟩ := Nat.dvd_of_mod_eq_zero hmod
  rw [hk, Nat.mul_lt_mul_left hstep, Nat.lt_succ_iff, Nat.le_div_iff_mul_le hstep, Nat.mul_comm,
    ← hk]
  omega

theorem testBit_mappedBits (h : ascend m rows) :
    (mappedBits rows).testBit n ↔ ∃ r ∈ rows, CaseRow.maps r n := by
  induction rows generalizing m with
  | nil => simp [mappedBits]
  | cons r rows ih =>
      obtain ⟨-, hle, hstep, hrest⟩ := CaseRow.ascend_cons.mp h
      rw [List.exists_mem_cons_iff, ← ih hrest, ← CaseRow.testBit_bits hle hstep,
        ← Bool.or_eq_true, ← Nat.testBit_or]
      rfl

theorem CaseRow.not_maps_image (hrows : ascend m rows) (hstep : 0 < r.step)
    (h : r.avoids rows) (hn : r.maps n) : ∀ q ∈ rows, ¬ CaseRow.maps q (r.image n) := by
  intro q hq hmaps
  have himage : r.inverse.bits.testBit (r.image n) :=
    (testBit_bits (r := r.inverse) (Nat.le_add_right ..) hstep).mpr (inverse_maps hn).1
  have hmapped : (mappedBits rows).testBit (r.image n) :=
    (testBit_mappedBits hrows).mpr ⟨q, hq, hmaps⟩
  have hboth : (r.inverse.bits &&& mappedBits rows).testBit (r.image n) := by
    rw [Nat.testBit_and, himage, hmapped, Bool.and_self]
  rw [Nat.eq_of_beq_eq_true h, Nat.zero_testBit] at hboth
  cases hboth

end Bits

/-! ## Maps -/

section Maps

variable {rows : CaseRows} {r : CaseRow} {n m : Nat}

theorem mapCode_cons : mapCode (r :: rows) n = if r.maps n then r.image n else mapCode rows n := by
  simp only [mapCode, CaseRow.maps_iff]
  rfl

theorem mapCode_of_not_maps (h : ∀ r ∈ rows, ¬ CaseRow.maps r n) : mapCode rows n = n := by
  induction rows with
  | nil => rfl
  | cons r rows ih =>
      rw [mapCode_cons, if_neg (h r List.mem_cons_self)]
      exact ih fun q hq => h q (List.mem_cons_of_mem _ hq)

theorem mapCode_of_testBit (h : ascend m rows) (hn : (mappedBits rows).testBit n = false) :
    mapCode rows n = n := by
  refine mapCode_of_not_maps fun r hr hmaps => ?_
  rw [(testBit_mappedBits h).mpr ⟨r, hr, hmaps⟩] at hn
  cases hn

/-- Of rows that ascend the one that maps a code point decides. -/
theorem mapCode_of_maps (h : ascend m rows) (hr : r ∈ rows) (hn : r.maps n) :
    mapCode rows n = r.image n := by
  induction rows generalizing m with
  | nil => cases hr
  | cons q rows ih =>
      obtain ⟨-, -, -, hrest⟩ := CaseRow.ascend_cons.mp h
      rw [mapCode_cons]
      rcases List.mem_cons.mp hr with rfl | hr
      · rw [if_pos hn]
      · have hq : ¬ CaseRow.maps q n := by
          intro hq
          have := (CaseRow.maps_iff.mp hq).2.1
          have := (CaseRow.maps_iff.mp hn).1
          have := (CaseRow.ascend_mem hrest hr).1
          omega
        rw [if_neg hq]
        exact ih hrest hr

/-- The pairs of a map are what its rows map. -/
theorem mem_codePairs (h : ascend m rows) {c f : Nat} :
    (c, f) ∈ codePairs rows ↔ ∃ r ∈ rows, CaseRow.maps r c ∧ f = CaseRow.image r c := by
  unfold codePairs
  rw [List.mem_flatMap]
  refine exists_congr fun r => and_congr_right fun hr => ?_
  obtain ⟨-, hle, hstep⟩ := CaseRow.ascend_mem h hr
  obtain ⟨lo, hi, step, target⟩ := r
  simp only [List.mem_map, List.mem_range, Prod.mk.injEq, CaseRow.maps_iff, CaseRow.image,
    CaseRow.first, CaseRow.last, CaseRow.step, CaseRow.target] at hle hstep ⊢
  constructor
  · rintro ⟨i, hi', rfl, rfl⟩
    have hlast : i * step ≤ hi - lo :=
      (Nat.mul_le_mul_right step (Nat.le_of_lt_succ hi')).trans (Nat.div_mul_le_self ..)
    exact ⟨⟨by omega, by omega, by simp⟩, by omega⟩
  · rintro ⟨⟨hlo, hhi, hmod⟩, rfl⟩
    have hsteps : (c - lo) / step * step = c - lo :=
      Nat.div_mul_cancel (Nat.dvd_of_mod_eq_zero hmod)
    refine ⟨(c - lo) / step, ?_, by omega, by omega⟩
    exact Nat.lt_succ_of_le (Nat.div_le_div_right (by omega))

end Maps

/-- The rows of both maps ascend, and those of the first do not lead to each
other, nor to the capital I with a dot, nor away from it. -/
theorem caseRows_checked : ascend 0 foldRows ∧ ascend 0 lowerRows ∧
    (foldRows.all fun r => CaseRow.avoids r foldRows) ∧
    (foldRows.all fun r => CaseRow.avoids r [(0x130, 0x130, 1, 0x130)]) ∧
    (mappedBits foldRows).testBit 0x130 = false := by
  decide +kernel

theorem ascend_foldRows : ascend 0 foldRows := caseRows_checked.1

theorem ascend_lowerRows : ascend 0 lowerRows := caseRows_checked.2.1

end Unicode

namespace Regex

open Unicode

/-! ## Folding -/

/-- What a code point folds to. -/
def foldCode (n : Nat) : Nat := mapCode foldRows n

theorem mem_foldPairs {c f : Nat} :
    (c, f) ∈ foldPairs ↔ ∃ r ∈ foldRows, CaseRow.maps r c ∧ f = CaseRow.image r c :=
  mem_codePairs ascend_foldRows

/-- What is folded stays. -/
theorem foldCode_of_mem_foldPairs {c f : Nat} (h : (c, f) ∈ foldPairs) :
    foldCode c = f ∧ foldCode f = f := by
  have avoid := caseRows_checked.2.2.1
  obtain ⟨r, hr, hc, rfl⟩ := mem_foldPairs.mp h
  have hstep := (CaseRow.ascend_mem ascend_foldRows hr).2.2
  refine ⟨mapCode_of_maps ascend_foldRows hr hc, mapCode_of_not_maps ?_⟩
  exact CaseRow.not_maps_image ascend_foldRows hstep (List.all_eq_true.mp avoid r hr) hc

theorem mem_foldPairs_of_ne {n : Nat} (h : foldCode n ≠ n) : (n, foldCode n) ∈ foldPairs := by
  by_contra hno
  refine h (mapCode_of_not_maps fun r hr hn => hno ?_)
  exact mem_foldPairs.mpr ⟨r, hr, hn, mapCode_of_maps ascend_foldRows hr hn⟩

/-- Of one character, folding makes all that fold to the same. -/
theorem has_foldCase_singleton {a d : Nat} :
    (foldCase [(a, a)]).has d ↔ foldCode d = foldCode a := by
  have single : ∀ {n}, Ranges.has [(a, a)] n ↔ n = a := by
    intro n
    simp only [Ranges.has, List.any_cons, List.any_nil, Bool.or_false, Bool.and_eq_true,
      decide_eq_true_eq]
    omega
  simp only [has_foldCase_iff, single]
  constructor
  · rintro (rfl | ⟨c, f, hcf, hd, c', hcf', ha⟩)
    · rfl
    · obtain ⟨hc, hf⟩ := foldCode_of_mem_foldPairs hcf
      obtain ⟨hc', -⟩ := foldCode_of_mem_foldPairs hcf'
      have hd : foldCode d = f := by rcases hd with rfl | rfl; exacts [hc, hf]
      have ha : foldCode a = f := by rcases ha with rfl | rfl; exacts [hc', hf]
      rw [hd, ha]
  · intro h
    by_cases hd : foldCode d = d
    · by_cases ha : foldCode a = a
      · exact .inl (by rw [← hd, h, ha])
      · have hpair := mem_foldPairs_of_ne ha
        rw [← h, hd] at hpair
        exact .inr ⟨a, d, hpair, .inr rfl, a, hpair, .inl rfl⟩
    · have hpair := mem_foldPairs_of_ne hd
      by_cases ha : foldCode a = a
      · rw [h, ha] at hpair
        exact .inr ⟨d, a, hpair, .inl rfl, d, hpair, .inr rfl⟩
      · have hpair' := mem_foldPairs_of_ne ha
        rw [← h] at hpair'
        exact .inr ⟨d, _, hpair, .inl rfl, a, hpair', .inl rfl⟩

end Regex

namespace Text

open Unicode Regex

/-! ## Small forms -/

/-- The small form of a code point that stands by itself. -/
def smallCode (n : Nat) : Nat := mapCode lowerRows n

theorem smallCode_of_lt {n : Nat} (h : n < 0x80) :
    smallCode n = if 0x41 ≤ n ∧ n ≤ 0x5a then n + 0x20 else n := by
  have hrows : lowerRows =
      (0x41, 0x5a, 1, 0x61) :: (0xc0, 0xd6, 1, 0xe0) :: lowerRows.tail.tail := rfl
  have hascend := ascend_lowerRows
  rw [hrows] at hascend
  obtain ⟨-, -, -, hascend⟩ := CaseRow.ascend_cons.mp hascend
  obtain ⟨-, -, -, htail⟩ := CaseRow.ascend_cons.mp hascend
  have hrest : ∀ q ∈ (0xc0, 0xd6, 1, 0xe0) :: lowerRows.tail.tail, ¬ CaseRow.maps q n := by
    intro q hq hn
    have hfirst := (CaseRow.maps_iff.mp hn).1
    rcases List.mem_cons.mp hq with rfl | hq
    · exact absurd (hfirst.trans_lt h) (by decide)
    · have hlt : 0xd6 < CaseRow.first q := (CaseRow.ascend_mem htail hq).1
      omega
  rw [smallCode, hrows, mapCode_cons, mapCode_of_not_maps hrest]
  simp only [CaseRow.maps_iff, CaseRow.first, CaseRow.last, CaseRow.step, Nat.mod_one, and_true,
    CaseRow.image, CaseRow.target]
  split
  · omega
  · rfl

/-- The small form of a character does not depend on others, except for the
capital sigma. -/
theorem lowerChar_eq {before after : List Char} {c : Char} (hc : c ≠ 'Σ') :
    lowerChar before c after =
      if c = 'İ' then ['i', '\u0307'] else [Char.ofNat (smallCode c.toNat)] := by
  unfold lowerChar
  by_cases hascii : c.toNat < 0x80
  · have small : ∀ n < 0x80, (Char.ofNat n).toLower =
        Char.ofNat (if 0x41 ≤ n ∧ n ≤ 0x5a then n + 0x20 else n) := by decide
    have hdot : c ≠ 'İ' := by
      rintro rfl
      exact absurd hascii (by decide)
    rw [if_pos hascii, if_neg hdot, smallCode_of_lt hascii, ← small _ hascii, Char.ofNat_toNat]
  · rw [if_neg hascii, if_neg hc]
    rfl

/-! ## Strays -/

/-- The code points whose small form is not that of what they fold to, and the
capital sigma. -/
def strays : List Nat :=
  [0xb5, 0x17f, 0x345, 0x3a3, 0x3c2, 0x3d0, 0x3d1, 0x3d5, 0x3d6, 0x3f0, 0x3f1, 0x3f5, 0x1c80,
    0x1c81, 0x1c82, 0x1c83, 0x1c84, 0x1c85, 0x1c86, 0x1c87, 0x1c88, 0x1e9b, 0x1fbe]

/-- The row maps to small forms, as one of the rows `small` does. -/
def lowers (small : CaseRows) (r : CaseRow) : Bool :=
  small.any (fun q => CaseRow.covers q r) && r.avoids lowerRows

/-- Each row maps to small forms, or back from them, or has strays only.  The
rows ascend, so those of `small` that end before a row are left behind. -/
def settled : (small rows : CaseRows) → Bool
  | _, [] => true
  | small, r :: rows =>
      let reached := small.dropWhile fun q => Nat.blt (CaseRow.last q) (CaseRow.last r)
      (lowers reached r || lowers lowerRows (CaseRow.inverse r) ||
        (List.range' (CaseRow.first r) (CaseRow.last r - CaseRow.first r + 1)).all
          (strays.contains ·)) && settled reached rows

theorem smallCode_of_lowers {small : CaseRows} {r : CaseRow} {n : Nat} (hsmall : small ⊆ lowerRows)
    (h : lowers small r) (hstep : 0 < r.step) (hn : r.maps n) :
    smallCode n = r.image n ∧ smallCode (r.image n) = r.image n := by
  obtain ⟨hcovers, havoids⟩ := Bool.and_eq_true_iff.mp h
  obtain ⟨q, hq, hcovers⟩ := List.any_eq_true.mp hcovers
  obtain ⟨hmaps, himage⟩ := CaseRow.maps_of_covers hcovers hn
  exact ⟨(mapCode_of_maps ascend_lowerRows (hsmall hq) hmaps).trans himage,
    mapCode_of_not_maps (CaseRow.not_maps_image ascend_lowerRows hstep havoids hn)⟩

theorem smallCode_image_of_settled {small rows : CaseRows} {r : CaseRow} {n : Nat}
    (h : settled small rows) (hsmall : small ⊆ lowerRows) (hr : r ∈ rows) (hstep : 0 < r.step)
    (hn : r.maps n) : n ∈ strays ∨ smallCode (r.image n) = smallCode n := by
  induction rows generalizing small with
  | nil => cases hr
  | cons q rows ih =>
      rw [settled, Bool.and_eq_true] at h
      obtain ⟨hrow, hrows⟩ := h
      have hreached := List.Subset.trans (List.dropWhile_suffix
        fun q' => Nat.blt (CaseRow.last q') (CaseRow.last q)).subset hsmall
      rcases List.mem_cons.mp hr with rfl | hr
      · simp only [Bool.or_eq_true] at hrow
        rcases hrow with (hrow | hrow) | hrow
        · obtain ⟨hsmall, hsmall'⟩ := smallCode_of_lowers hreached hrow hstep hn
          rw [hsmall, hsmall']
          exact .inr rfl
        · obtain ⟨hmaps, hback⟩ := CaseRow.inverse_maps hn
          obtain ⟨hsmall, hsmall'⟩ :=
            smallCode_of_lowers (List.Subset.refl _) hrow hstep hmaps
          rw [hback] at hsmall hsmall'
          rw [hsmall, hsmall']
          exact .inr rfl
        · obtain ⟨hlo, hhi, -⟩ := CaseRow.maps_iff.mp hn
          have hmem := List.all_eq_true.mp hrow n (List.mem_range'_1.mpr ⟨hlo, by omega⟩)
          exact .inl (List.contains_iff_mem.mp hmem)
      · exact ih hrows hreached hr

/-- The rows of the first map are settled.  Strays other than the capital sigma
are small letters, and so are the others they fold to. -/
theorem strays_checked : settled lowerRows foldRows ∧
    strays.all (fun n => Nat.beq n 'Σ'.toNat || foldRows.any fun r =>
      CaseRow.maps r n && !Nat.beq (CaseRow.image r n) n &&
        !(mappedBits lowerRows).testBit (CaseRow.image r n) &&
        !(mappedBits lowerRows).testBit n) := by
  decide +kernel

/-- Whatever else a code point folds to has the same small form. -/
theorem smallCode_foldCode {n : Nat} (h : n ∉ strays) : smallCode (foldCode n) = smallCode n := by
  by_cases hfold : foldCode n = n
  · rw [hfold]
  · obtain ⟨r, hr, hn, himage⟩ := mem_foldPairs.mp (mem_foldPairs_of_ne hfold)
    have hstep := (CaseRow.ascend_mem ascend_foldRows hr).2.2
    rw [himage]
    exact (smallCode_image_of_settled strays_checked.1 (List.Subset.refl _) hr hstep hn).resolve_left h

/-- There are no strays but these. -/
theorem mem_strays_iff {n : Nat} :
    n ∈ strays ↔ n = 'Σ'.toNat ∨ smallCode (foldCode n) ≠ smallCode n := by
  constructor
  · intro hn
    have hstray := List.all_eq_true.mp strays_checked.2 n hn
    rw [Bool.or_eq_true, Nat.beq_eq, List.any_eq_true] at hstray
    refine hstray.imp_right fun ⟨r, hr, hrow⟩ => ?_
    simp only [Bool.and_eq_true, Bool.not_eq_true'] at hrow
    obtain ⟨⟨⟨hmaps, hne⟩, himage⟩, hsmall⟩ := hrow
    rw [foldCode, mapCode_of_maps ascend_foldRows hr hmaps, smallCode, smallCode,
      mapCode_of_testBit ascend_lowerRows himage, mapCode_of_testBit ascend_lowerRows hsmall]
    exact Nat.ne_of_beq_eq_false hne
  · rintro (rfl | hne)
    · decide
    · by_contra hno
      exact hne (smallCode_foldCode hno)

/-! ## Texts -/

/-- The texts differ by case only, as expressions take it: their characters
fold to the same, one by one. -/
def SameFolding (s s' : String) : Prop :=
  s.toList.map (foldCode ·.toNat) = s'.toList.map (foldCode ·.toNat)

instance (s s' : String) : Decidable (SameFolding s s') :=
  inferInstanceAs (Decidable (_ = _))

/-- The text has a character that strays. -/
def HasStray (s : String) : Prop := ∃ c ∈ s.toList, c.toNat ∈ strays

/-- The capital I with a dot, whose small form has two characters, folds to
itself, and nothing else does. -/
theorem foldCode_eq_dotted {n : Nat} : foldCode n = 'İ'.toNat ↔ n = 'İ'.toNat := by
  obtain ⟨-, -, -, avoid, kept⟩ := caseRows_checked
  have kept : foldCode 0x130 = 0x130 := mapCode_of_testBit ascend_foldRows kept
  refine ⟨fun h => ?_, fun h => by rw [h]; exact kept⟩
  by_contra hne
  obtain ⟨r, hr, hn, himage⟩ := mem_foldPairs.mp (mem_foldPairs_of_ne (h.trans_ne (Ne.symm hne)))
  have hstep := (CaseRow.ascend_mem ascend_foldRows hr).2.2
  refine CaseRow.not_maps_image (m := 0) (by decide) hstep (List.all_eq_true.mp avoid r hr) hn
    (0x130, 0x130, 1, 0x130) (by simp) ?_
  rw [← himage, h]
  decide

theorem smallCode_eq_of_foldCode_eq {m n : Nat} (h : foldCode m = foldCode n) (hm : m ∉ strays)
    (hn : n ∉ strays) : smallCode m = smallCode n := by
  rw [← smallCode_foldCode hm, h, smallCode_foldCode hn]

theorem lowerFrom_eq {before before' cs ds : List Char}
    (h : cs.map (foldCode ·.toNat) = ds.map (foldCode ·.toNat))
    (hcs : ∀ c ∈ cs, c.toNat ∉ strays) (hds : ∀ d ∈ ds, d.toNat ∉ strays) :
    lowerFrom before cs = lowerFrom before' ds := by
  induction cs generalizing ds before before' with
  | nil =>
      cases ds with
      | nil => rfl
      | cons d ds => cases h
  | cons c cs ih =>
      cases ds with
      | nil => cases h
      | cons d ds =>
          have hfold : foldCode c.toNat = foldCode d.toNat := (List.cons.inj h).1
          obtain ⟨hc, hcs⟩ := List.forall_mem_cons.mp hcs
          obtain ⟨hd, hds⟩ := List.forall_mem_cons.mp hds
          have hsigma : ∀ {x : Char}, x.toNat ∉ strays → x ≠ 'Σ' := by
            rintro _ hx rfl
            exact hx (by decide)
          have hdotted : c = 'İ' ↔ d = 'İ' := by
            rw [← Char.toNat_inj, ← Char.toNat_inj, ← foldCode_eq_dotted, hfold,
              foldCode_eq_dotted]
          have htail : lowerFrom (c :: before) cs = lowerFrom (d :: before') ds :=
            ih (List.cons.inj h).2 hcs hds
          unfold lowerFrom
          rw [lowerChar_eq (hsigma hc), lowerChar_eq (hsigma hd), htail,
            smallCode_eq_of_foldCode_eq hfold hc hd]
          simp only [hdotted]

/-- Without strays, texts that fold to the same have the same small form. -/
theorem lower_eq_of_sameFolding {s s' : String} (h : SameFolding s s') (hs : ¬ HasStray s)
    (hs' : ¬ HasStray s') : lower s = lower s' := by
  unfold lower
  rw [lowerFrom_eq h (fun c hc hstray => hs ⟨c, hc, hstray⟩)
    fun c hc hstray => hs' ⟨c, hc, hstray⟩]

end Text

end TypeSchema
