/-
# Case — what a set holds once its case is folded

Putting ranges in order changes nothing about what they hold
(`has_normalize`), and puts gaps between them, which make up the complement
(`has_complement`).  Folding only adds characters, and only such as stand in a
pair of the case map (`has_foldCase_iff`).  All pairs lie above the ASCII digits
and signs, at `caseStart` and beyond.  So a set below it is left as it is
(`has_foldCase_of_caseless`), and whether a character below it is in a set
does not depend on case (`has_foldCase_of_lt`).
-/
import Mathlib.Order.Lattice.Nat
import TypeSchema.Regex.Meaning

namespace TypeSchema

namespace Unicode.Ranges

/-! ## Order -/

theorem has_iff {rs : Ranges} {n : Nat} : rs.has n ↔ ∃ r ∈ rs, r.1 ≤ n ∧ n ≤ r.2 := by
  simp [has]

theorem has_append {a b : Ranges} {n : Nat} : has (a ++ b) n ↔ a.has n ∨ b.has n := by
  simp [has]

theorem has_cons {r : Nat × Nat} {rs : Ranges} {n : Nat} :
    has (r :: rs) n ↔ (r.1 ≤ n ∧ n ≤ r.2) ∨ rs.has n := by
  simp [has]

/-- Ranges that ascend hold the same if those that touch are put together. -/
theorem has_join {rs : Ranges} {n : Nat} (hs : rs.Pairwise fun a b => a.1 ≤ b.1) :
    (join rs).has n ↔ rs.has n := by
  fun_induction join rs with
  | case1 => rfl
  | case2 r => rfl
  | case3 a b c d rest hcb ih =>
      obtain ⟨hhead, hrest⟩ := List.pairwise_cons.mp hs
      have hac : a ≤ c := hhead (c, d) List.mem_cons_self
      rw [ih (List.pairwise_cons.mpr
        ⟨fun r hr => hhead r (List.mem_cons_of_mem _ hr), (List.pairwise_cons.mp hrest).2⟩)]
      simp only [has_cons]
      rw [← or_assoc]
      refine or_congr_left ?_
      omega
  | case4 a b c d rest hcb ih =>
      rw [has_cons, ih (List.pairwise_cons.mp hs).2, has_cons (r := (a, b))]

/-- Ranges in the order of their first code points. -/
theorem ascending_mergeSort (rs : Ranges) :
    (rs.mergeSort fun a b => a.1 ≤ b.1).Pairwise fun a b => a.1 ≤ b.1 := by
  have htrans : ∀ a b c : Nat × Nat, decide (a.1 ≤ b.1) → decide (b.1 ≤ c.1) →
      decide (a.1 ≤ c.1) := fun a b c hab hbc => by
    simp only [decide_eq_true_eq] at hab hbc ⊢
    omega
  have htotal : ∀ a b : Nat × Nat, decide (a.1 ≤ b.1) || decide (b.1 ≤ a.1) := fun a b => by
    simp only [Bool.or_eq_true, decide_eq_true_eq]
    omega
  simpa only [decide_eq_true_eq] using List.pairwise_mergeSort htrans htotal rs

theorem has_normalize {rs : Ranges} {n : Nat} : (normalize rs).has n ↔ rs.has n := by
  rw [normalize, has_join (ascending_mergeSort _), has, (List.mergeSort_perm _ _).any_eq, ← has,
    has_iff, has_iff]
  constructor
  · rintro ⟨r, hr, h⟩
    exact ⟨r, List.mem_of_mem_filter hr, h⟩
  · rintro ⟨r, hr, h⟩
    exact ⟨r, List.mem_filter.mpr ⟨hr, by simpa using h.1.trans h.2⟩, h⟩

/-! ## Complements -/

theorem toNat_le_maxCode (d : Char) : d.toNat ≤ maxCode := by
  rcases d.valid with h | h
  · exact (Nat.le_of_lt h).trans (by decide)
  · exact Nat.le_of_lt_succ h.2

/-- Ranges that hold something, in ascending order and with gaps between them. -/
structure Separated (rs : Ranges) : Prop where
  filled : ∀ r ∈ rs, r.1 ≤ r.2
  apart : rs.Pairwise fun a b => a.2 + 1 < b.1

theorem exists_mem_of_mem_join {rs : Ranges} {r : Nat × Nat} (h : r ∈ join rs) :
    ∃ s ∈ rs, s.1 = r.1 := by
  fun_induction join rs with
  | case1 => cases h
  | case2 s => exact ⟨r, h, rfl⟩
  | case3 a b c d rest hcb ih =>
      obtain ⟨s, hs, hr⟩ := ih h
      rcases List.mem_cons.mp hs with rfl | hs
      · exact ⟨(a, b), List.mem_cons_self, hr⟩
      · exact ⟨s, List.mem_cons_of_mem _ (List.mem_cons_of_mem _ hs), hr⟩
  | case4 a b c d rest hcb ih =>
      rcases List.mem_cons.mp h with rfl | h
      · exact ⟨(a, b), List.mem_cons_self, rfl⟩
      · obtain ⟨s, hs, hr⟩ := ih h
        exact ⟨s, List.mem_cons_of_mem _ hs, hr⟩

/-- What touches is put together, so gaps remain. -/
theorem separated_join {rs : Ranges} (filled : ∀ r ∈ rs, r.1 ≤ r.2)
    (hs : rs.Pairwise fun a b => a.1 ≤ b.1) : Separated (join rs) := by
  fun_induction join rs with
  | case1 => exact ⟨filled, .nil⟩
  | case2 r => exact ⟨filled, List.pairwise_singleton ..⟩
  | case3 a b c d rest hcb ih =>
      obtain ⟨hhead, hrest⟩ := List.pairwise_cons.mp hs
      obtain ⟨hab, hfilled⟩ := List.forall_mem_cons.mp filled
      refine ih (List.forall_mem_cons.mpr ⟨?_, ?_⟩) (List.pairwise_cons.mpr ⟨?_, ?_⟩)
      · exact hab.trans (Nat.le_max_left b d)
      · exact fun r hr => hfilled r (List.mem_cons_of_mem _ hr)
      · exact fun r hr => hhead r (List.mem_cons_of_mem _ hr)
      · exact (List.pairwise_cons.mp hrest).2
  | case4 a b c d rest hcb ih =>
      obtain ⟨-, hrest⟩ := List.pairwise_cons.mp hs
      obtain ⟨hab, hfilled⟩ := List.forall_mem_cons.mp filled
      obtain ⟨filled', apart'⟩ := ih hfilled hrest
      refine ⟨List.forall_mem_cons.mpr ⟨hab, filled'⟩, List.pairwise_cons.mpr ⟨?_, apart'⟩⟩
      intro r hr
      obtain ⟨s, hs, start⟩ := exists_mem_of_mem_join hr
      have hcs : c ≤ s.1 := by
        rcases List.mem_cons.mp hs with rfl | hs
        · exact le_rfl
        · exact (List.pairwise_cons.mp hrest).1 s hs
      show b + 1 < r.1
      omega

theorem separated_normalize {rs : Ranges} : Separated (normalize rs) := by
  refine separated_join (fun r hr => ?_) (ascending_mergeSort _)
  have kept := (List.mem_filter.mp ((List.mergeSort_perm _ _).mem_iff.mp hr)).2
  exact of_decide_eq_true kept

/-- Between separated ranges, and behind them, are the code points that none of
them holds. -/
theorem has_gaps {rs : Ranges} {lo n : Nat} (hs : Separated rs) (hlo : ∀ r ∈ rs, lo ≤ r.1)
    (hn : n ≤ maxCode) : (gaps lo rs).has n ↔ lo ≤ n ∧ ¬ rs.has n := by
  induction rs generalizing lo with
  | nil =>
      rw [gaps]
      split
      · simp [has, hn]
      · simp [has]
        omega
  | cons r rest ih =>
      obtain ⟨a, b⟩ := r
      obtain ⟨hab, hfilled⟩ := List.forall_mem_cons.mp hs.filled
      obtain ⟨happart, hrest⟩ := List.pairwise_cons.mp hs.apart
      have ha : lo ≤ a := hlo (a, b) List.mem_cons_self
      have behind : has (gaps (b + 1) rest) n ↔ b + 1 ≤ n ∧ ¬ has rest n :=
        ih ⟨hfilled, hrest⟩ fun r hr => (happart r hr).le
      have beyond : has rest n → b + 1 < n := by
        intro h
        obtain ⟨r, hr, hle, -⟩ := has_iff.mp h
        exact (happart r hr).trans_le hle
      have hab : a ≤ b := hab
      rw [gaps]
      split
      · rw [has_cons, behind, has_cons]
        by_cases h : has rest n
        · have := beyond h
          simp only [h, not_true, and_false, or_false, or_true, iff_false, not_and]
          omega
        · simp only [h, not_false_eq_true, and_true, or_false, Bool.false_eq_true]
          omega
      · rw [behind, has_cons]
        by_cases h : has rest n
        · simp only [h, not_true, and_false, or_true]
        · simp only [h, not_false_eq_true, and_true, or_false, Bool.false_eq_true]
          omega

/-- The complement holds the code points that the set does not. -/
theorem has_complement {rs : Ranges} {n : Nat} (hn : n ≤ maxCode) :
    (complement rs).has n ↔ ¬ rs.has n := by
  rw [complement, has_gaps separated_normalize (fun r _ => Nat.zero_le _) hn, has_normalize]
  exact and_iff_right (Nat.zero_le n)

theorem length_join_le {rs : Ranges} : (join rs).length ≤ rs.length := by
  fun_induction join rs with
  | case1 => exact le_rfl
  | case2 r => exact le_rfl
  | case3 a b c d rest hcb ih =>
      simp only [List.length_cons] at ih ⊢
      omega
  | case4 a b c d rest hcb ih =>
      simp only [List.length_cons] at ih ⊢
      omega

theorem length_normalize_le {rs : Ranges} : (normalize rs).length ≤ rs.length :=
  length_join_le.trans ((List.length_mergeSort _).le.trans (List.length_filter_le ..))

theorem length_gaps_le {rs : Ranges} {lo : Nat} : (gaps lo rs).length ≤ rs.length + 1 := by
  induction rs generalizing lo with
  | nil =>
      rw [gaps]
      split
      · exact le_rfl
      · exact Nat.zero_le _
  | cons r rest ih =>
      have behind : (gaps (r.2 + 1) rest).length ≤ rest.length + 1 := ih
      rw [gaps]
      split
      · exact Nat.succ_le_succ behind
      · exact behind.trans (Nat.le_succ _)

theorem length_complement_le {rs : Ranges} : (complement rs).length ≤ rs.length + 1 :=
  length_gaps_le.trans (Nat.succ_le_succ length_normalize_le)

end Unicode.Ranges

namespace Regex

open Unicode

/-! ## Folding -/

/-- The first code point that case folding may be about. -/
def caseStart : Nat := 0x41

theorem caseStart_le_foldPairs {p : Nat × Nat} (h : p ∈ foldPairs) :
    caseStart ≤ p.1 ∧ caseStart ≤ p.2 := by
  -- a row's pairs lie no lower than its first
  have rows : foldRows.all (fun r =>
      Nat.ble caseStart r.1 && Nat.ble caseStart r.2.2.2) = true := by decide +kernel
  obtain ⟨⟨lo, hi, step, target⟩, hr, hp⟩ := List.mem_flatMap.mp h
  obtain ⟨i, -, rfl⟩ := List.mem_map.mp hp
  have hrow := List.all_eq_true.mp rows _ hr
  rw [Bool.and_eq_true, Nat.ble_eq, Nat.ble_eq] at hrow
  exact ⟨Nat.le_add_right_of_le hrow.1, Nat.le_add_right_of_le hrow.2⟩

theorem has_foldCase_of_has {rs : Ranges} {n : Nat} (h : rs.has n) : (foldCase rs).has n :=
  Ranges.has_normalize.mpr (Ranges.has_append.mpr (.inl h))

/-- Folding adds the members of each pair that leads to the same as a pair with
something of the set. -/
theorem has_foldCase_iff {rs : Ranges} {n : Nat} : (foldCase rs).has n ↔ rs.has n ∨
    ∃ c f, (c, f) ∈ foldPairs ∧ (n = c ∨ n = f) ∧
      ∃ c', (c', f) ∈ foldPairs ∧ (rs.has c' ∨ rs.has f) := by
  unfold foldCase
  rw [Ranges.has_normalize, Ranges.has_append]
  refine or_congr_right (Ranges.has_iff.trans ?_)
  constructor
  · rintro ⟨r, hr, hn⟩
    obtain ⟨⟨c, f⟩, hp, hr⟩ := List.mem_flatMap.mp hr
    obtain ⟨hp, himage⟩ := List.mem_filter.mp hp
    obtain ⟨⟨c', f'⟩, hq, hf⟩ := List.mem_map.mp (List.contains_iff_mem.mp himage)
    obtain ⟨hq, hhas⟩ := List.mem_filter.mp hq
    obtain rfl : f' = f := hf
    refine ⟨c, f', hp, ?_, c', hq, by simpa using hhas⟩
    rcases List.mem_pair.mp hr with rfl | rfl
    · exact .inl (Nat.le_antisymm hn.2 hn.1)
    · exact .inr (Nat.le_antisymm hn.2 hn.1)
  · rintro ⟨c, f, hp, hn, c', hq, hhas⟩
    have himage : f ∈ (foldPairs.filter fun q => rs.has q.1 || rs.has q.2).map (·.2) :=
      List.mem_map.mpr ⟨(c', f), List.mem_filter.mpr ⟨hq, by simpa using hhas⟩, rfl⟩
    refine ⟨(n, n), List.mem_flatMap.mpr ⟨(c, f), ?_, ?_⟩, le_rfl, le_rfl⟩
    · exact List.mem_filter.mpr ⟨hp, List.contains_iff_mem.mpr himage⟩
    · rcases hn with rfl | rfl
      · exact List.mem_cons_self
      · exact List.mem_cons_of_mem _ List.mem_cons_self

theorem has_foldCase {rs : Ranges} {n : Nat} (h : (foldCase rs).has n) :
    rs.has n ∨ ((∃ p ∈ foldPairs, n = p.1 ∨ n = p.2) ∧
      ∃ p ∈ foldPairs, rs.has p.1 ∨ rs.has p.2) := by
  rcases has_foldCase_iff.mp h with h | ⟨c, f, hp, hn, c', hq, hhas⟩
  · exact .inl h
  · exact .inr ⟨⟨_, hp, hn⟩, ⟨_, hq, hhas⟩⟩

/-- A character without case is in a set whether case is folded or not. -/
theorem has_foldCase_of_lt {rs : Ranges} {n : Nat} (hn : n < caseStart) :
    (foldCase rs).has n ↔ rs.has n := by
  refine ⟨fun h => ?_, has_foldCase_of_has⟩
  rcases has_foldCase h with h | ⟨⟨p, hp, hnp⟩, -⟩
  · exact h
  · have := caseStart_le_foldPairs hp
    omega

/-- Nothing in the set has case. -/
def Caseless (rs : Ranges) : Prop := ∀ r ∈ rs, r.2 < caseStart

theorem Caseless.lt {rs : Ranges} (h : Caseless rs) {n : Nat} (hn : rs.has n) : n < caseStart := by
  obtain ⟨r, hr, -, hle⟩ := Ranges.has_iff.mp hn
  exact hle.trans_lt (h r hr)

/-- Nothing is added to a set without case. -/
theorem has_foldCase_of_caseless {rs : Ranges} (h : Caseless rs) {n : Nat} :
    (foldCase rs).has n ↔ rs.has n := by
  refine ⟨fun hn => ?_, has_foldCase_of_has⟩
  rcases has_foldCase hn with hn | ⟨-, p, hp, hrs⟩
  · exact hn
  · have := caseStart_le_foldPairs hp
    rcases hrs with hrs | hrs
    · have := h.lt hrs
      omega
    · have := h.lt hrs
      omega

theorem length_foldCase_le {rs : Ranges} :
    (foldCase rs).length ≤ rs.length + 2 * foldPairs.length := by
  refine Ranges.length_normalize_le.trans ?_
  have hpairs : ∀ ps : List (Nat × Nat),
      (ps.flatMap fun p => [(p.1, p.1), (p.2, p.2)]).length = 2 * ps.length := by
    intro ps
    simp [List.length_flatMap, Nat.mul_comm]
  rw [List.length_append]
  exact Nat.add_le_add_left ((hpairs _).le.trans
    (Nat.mul_le_mul_left 2 (List.length_filter_le ..))) _

/-! ## Characters and sets of an expression -/

/-- Every character stands for itself, whatever the flags. -/
theorem has_charSet {f : Flags} {c : Char} : (charSet f c).has c.toNat := by
  have single : Ranges.has [(c.toNat, c.toNat)] c.toNat := by simp [Ranges.has]
  unfold charSet
  split
  · split
    · exact has_foldCase_of_has single
    · split
      · refine Ranges.has_normalize.mpr (Ranges.has_append.mpr (.inl ?_))
        exact Ranges.has_append.mpr (.inl single)
      · exact single
  · exact single

theorem has_charSet_of_caseless {f : Flags} (hf : f.unicode) {c : Char}
    (hc : c.toNat < caseStart) {n : Nat} : (charSet f c).has n ↔ n = c.toNat := by
  have single : Ranges.has [(c.toNat, c.toNat)] n ↔ n = c.toNat := by
    simp only [Ranges.has, List.any_cons, List.any_nil, Bool.or_false, Bool.and_eq_true,
      decide_eq_true_eq]
    omega
  unfold charSet
  simp only [hf, if_true]
  split
  · rw [has_foldCase_of_caseless (by simpa [Caseless] using hc), single]
  · exact single

theorem has_foldAndNegate_of_has {f : Flags} {rs : Ranges} {n : Nat} (h : rs.has n) :
    (foldAndNegate f false rs).has n := by
  simp only [foldAndNegate, Bool.false_eq_true, if_false]
  split
  · split
    · exact has_foldCase_of_has h
    · refine Ranges.has_normalize.mpr (Ranges.has_append.mpr (.inl ?_))
      exact Ranges.has_append.mpr (.inl h)
  · exact h

theorem has_foldAndNegate_of_lt {f : Flags} (hf : f.unicode) {rs : Ranges} {n : Nat}
    (hn : n < caseStart) : (foldAndNegate f false rs).has n ↔ rs.has n := by
  simp only [foldAndNegate, Bool.false_eq_true, if_false, hf, if_true]
  split
  · exact has_foldCase_of_lt hn
  · rfl

theorem has_foldAndNegate_of_caseless {f : Flags} (hf : f.unicode) {rs : Ranges}
    (h : Caseless rs) {n : Nat} : (foldAndNegate f false rs).has n ↔ rs.has n := by
  simp only [foldAndNegate, Bool.false_eq_true, if_false, hf, if_true]
  split
  · exact has_foldCase_of_caseless h
  · rfl

end Regex

end TypeSchema
