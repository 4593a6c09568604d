/-
# Spans — which stretches of a text an expression matches

`Spans text r i j c` says that `r` matches the text from `i` to `j`, and that
its groups hold `c` then, the latest first.  It follows the expression and
knows of no order in which matches are tried, no bound on repetitions and no
list of positions.

The two matchers are measured against it.  `ends` gives all places where a
match can end (`mem_ends`): it stops a repetition as soon as nothing new turns
up, or after as many rounds as there are characters, and misses nothing,
since a round without progress can be left out (`Repeated.advancing`).
`ways` gives matches only, and some match wherever there is one
(`spans_of_mem_ways`, `exists_mem_ways`); of two ways to the same place it
may know one.
-/
import Mathlib.Order.Lattice.Nat
import Mathlib.Tactic.Tauto
import TypeSchema.Regex.Basic

namespace TypeSchema.Regex

/-- One stretch after another, `n` in all, each of them a `step`.  What they
capture is put together, the latest first. -/
def Repeated (step : Nat → Nat → Captures → Prop) : Nat → Nat → Nat → Captures → Prop
  | 0, i, j, c => j = i ∧ c = []
  | n + 1, i, j, c => ∃ k first rest, step i k first ∧ Repeated step n k j rest ∧ c = rest ++ first

/-- The expression matches the text from `i` to `j` and captures `c`. -/
def Spans (text : Array Char) : Regex → Nat → Nat → Captures → Prop
  | .empty, i, j, c => j = i ∧ c = []
  | .chars rs, i, j, c => (∃ d, text[i]? = some d ∧ rs.has d.toNat) ∧ j = i + 1 ∧ c = []
  | .condition k, i, j, c => k.holds text i ∧ j = i ∧ c = []
  | .seq a b, i, j, c =>
    ∃ k first rest, Spans text a i k first ∧ Spans text b k j rest ∧ c = rest ++ first
  | .alt a b, i, j, c => Spans text a i j c ∨ Spans text b i j c
  | .rep r min max _, i, j, c =>
    ∃ n, min ≤ n ∧ (∀ m, max = some m → n ≤ min + (m - min)) ∧ Repeated (Spans text r) n i j c
  | .capture name r, i, j, c =>
    ∃ inner, Spans text r i j inner ∧ c = (name, (text.extract i j).toList) :: inner

/-! ## Repetitions -/

namespace Repeated

variable {step : Nat → Nat → Captures → Prop} {i j k n m : Nat} {c d : Captures}

theorem one (h : step i j c) : Repeated step 1 i j c := ⟨j, c, [], h, ⟨rfl, rfl⟩, rfl⟩

theorem add (h : Repeated step m i k c) (h' : Repeated step n k j d) :
    Repeated step (m + n) i j (d ++ c) := by
  induction m generalizing i c with
  | zero =>
      obtain ⟨rfl, rfl⟩ := h
      simpa using h'
  | succ m ih =>
      obtain ⟨l, first, rest, hstep, hrest, rfl⟩ := h
      rw [Nat.succ_add]
      exact ⟨l, first, d ++ rest, hstep, ih hrest, (List.append_assoc ..).symm⟩

theorem split (h : Repeated step (m + n) i j c) :
    ∃ k first rest, Repeated step m i k first ∧ Repeated step n k j rest ∧ c = rest ++ first := by
  induction m generalizing i c with
  | zero => exact ⟨i, [], c, ⟨rfl, rfl⟩, by simpa using h, by simp⟩
  | succ m ih =>
      rw [Nat.succ_add] at h
      obtain ⟨l, first, rest, hstep, hrest, rfl⟩ := h
      obtain ⟨k, first', rest', hfirst, hlater, rfl⟩ := ih hrest
      exact ⟨k, first' ++ first, rest', ⟨l, first, first', hstep, hfirst, rfl⟩, hlater,
        List.append_assoc ..⟩

theorem mono {step' : Nat → Nat → Captures → Prop} (weaken : ∀ i j c, step i j c → step' i j c)
    (h : Repeated step n i j c) : Repeated step' n i j c := by
  induction n generalizing i c with
  | zero => exact h
  | succ n ih =>
      obtain ⟨k, first, rest, hstep, hrest, rfl⟩ := h
      exact ⟨k, first, rest, weaken _ _ _ hstep, ih hrest, rfl⟩

theorem le (forward : ∀ i j c, step i j c → i ≤ j) (h : Repeated step n i j c) : i ≤ j := by
  induction n generalizing i c with
  | zero => exact h.1.ge
  | succ n ih =>
      obtain ⟨k, first, rest, hstep, hrest, rfl⟩ := h
      exact (forward _ _ _ hstep).trans (ih hrest)

/-- Rounds that take no character can be left out, and then there are no more
rounds than characters. -/
theorem advancing (forward : ∀ i j c, step i j c → i ≤ j) (h : Repeated step n i j c) :
    ∃ m ≤ n, m ≤ j - i ∧ ∃ d, Repeated (fun i j c => i < j ∧ step i j c) m i j d := by
  induction n generalizing i c with
  | zero =>
      obtain ⟨rfl, rfl⟩ := h
      exact ⟨0, Nat.le_refl 0, Nat.zero_le _, [], rfl, rfl⟩
  | succ n ih =>
      obtain ⟨k, first, rest, hstep, hrest, rfl⟩ := h
      obtain ⟨m, hmn, hm, d, hd⟩ := ih hrest
      have hik := forward _ _ _ hstep
      have hkj := hd.le fun _ _ _ h => h.1.le
      rcases hik.lt_or_eq with hlt | rfl
      · exact ⟨m + 1, Nat.succ_le_succ hmn, by omega, d ++ first, k, first, d, ⟨hlt, hstep⟩, hd,
          rfl⟩
      · exact ⟨m, Nat.le_succ_of_le hmn, hm, d, hd⟩

end Repeated

/-! ## Where spans lie -/

section Bounds

variable {text : Array Char} {r : Regex} {i j : Nat} {c : Captures}

theorem Spans.le (h : Spans text r i j c) : i ≤ j := by
  induction r generalizing i j c with
  | empty => exact h.1.ge
  | chars rs => exact h.2.1 ▸ Nat.le_succ i
  | condition k => exact h.2.1.ge
  | seq a b iha ihb =>
      obtain ⟨k, first, rest, ha, hb, -⟩ := h
      exact (iha ha).trans (ihb hb)
  | alt a b iha ihb => exact h.elim iha ihb
  | rep r min max greedy ih =>
      obtain ⟨n, -, -, h⟩ := h
      exact h.le fun _ _ _ => ih
  | capture name r ih =>
      obtain ⟨inner, h, -⟩ := h
      exact ih h

/-- A span does not go beyond the text; where it starts there, it is empty. -/
theorem Spans.le_max (h : Spans text r i j c) : j ≤ max i text.size := by
  induction r generalizing i j c with
  | empty => exact h.1 ▸ le_max_left ..
  | chars rs =>
      obtain ⟨⟨d, hd, -⟩, rfl, -⟩ := h
      have := (Array.getElem?_eq_some_iff.mp hd).1
      omega
  | condition k => exact h.2.1 ▸ le_max_left ..
  | seq a b iha ihb =>
      obtain ⟨k, first, rest, ha, hb, -⟩ := h
      have := iha ha
      have := ihb hb
      omega
  | alt a b iha ihb => exact h.elim iha ihb
  | rep r least most greedy ih =>
      obtain ⟨n, -, -, h⟩ := h
      clear least most
      induction n generalizing i c with
      | zero => exact h.1 ▸ le_max_left ..
      | succ n ihn =>
          obtain ⟨k, first, rest, hstep, hrest, -⟩ := h
          have := ih hstep
          have := ihn hrest
          omega
  | capture name r ih =>
      obtain ⟨inner, h, -⟩ := h
      exact ih h

/-- Of the rounds behind those that there have to be, only the ones that take a
character are needed, and there are no more of them than the text has places. -/
theorem Spans.exists_repeated_le {min n : Nat} (least : min ≤ n)
    (h : Repeated (Spans text r) n i j c) :
    ∃ d m, min ≤ m ∧ m ≤ min + (text.size + 1) ∧ Repeated (Spans text r) m i j d := by
  obtain ⟨further, rfl⟩ := Nat.exists_eq_add_of_le least
  obtain ⟨k, first, rest, hfirst, hrest, -⟩ := h.split
  obtain ⟨m, -, hm, d, hd⟩ := hrest.advancing fun _ _ _ => Spans.le
  have back : Repeated (Spans text r) m k j d := hd.mono fun _ _ _ h => h.2
  have span : Spans text (.rep r m none true) k j d := ⟨m, le_rfl, by simp, back⟩
  have inside := span.le_max
  exact ⟨d ++ first, min + m, Nat.le_add_right .., by omega, hfirst.add back⟩

end Bounds

/-! ## Sets of positions -/

theorem mem_merge {a b : List Nat} {x : Nat} : x ∈ merge a b ↔ x ∈ a ∨ x ∈ b := by
  fun_induction merge a b with
  | case1 b => simp
  | case2 a _ => simp
  | case3 y ys z zs _ ih => simp [ih, or_assoc]
  | case4 y ys z zs _ _ ih => simp [ih, or_left_comm]
  | case5 y ys z zs hlt hgt ih =>
      obtain rfl : y = z := Nat.le_antisymm (Nat.not_lt.mp hgt) (Nat.not_lt.mp hlt)
      simp only [List.mem_cons, ih]
      tauto

section Steps

variable {step : Nat → Nat → Captures → Prop} {f : List Nat → List Nat}
  (hf : ∀ s j, j ∈ f s ↔ ∃ i ∈ s, ∃ c, step i j c)
include hf

/-- What is closed under one step is closed under many. -/
theorem mem_of_repeated {s : List Nat} (closed : ∀ j ∈ f s, j ∈ s) {n i j : Nat} {c : Captures}
    (hi : i ∈ s) (h : Repeated step n i j c) : j ∈ s := by
  induction n generalizing i c with
  | zero => exact h.1 ▸ hi
  | succ n ih =>
      obtain ⟨k, first, rest, hstep, hrest, -⟩ := h
      exact ih (closed k ((hf s k).mpr ⟨i, hi, first, hstep⟩)) hrest

theorem mem_stepTimes {n : Nat} {s : List Nat} {j : Nat} :
    j ∈ stepTimes f n s ↔ ∃ i ∈ s, ∃ c, Repeated step n i j c := by
  induction n generalizing s j with
  | zero =>
      constructor
      · exact fun h => ⟨j, h, [], rfl, rfl⟩
      · rintro ⟨i, hi, c, rfl, -⟩
        exact hi
  | succ n ih =>
      have later : (∃ k ∈ f s, ∃ c, Repeated step n k j c) ↔
          ∃ i ∈ s, ∃ c, Repeated step (n + 1) i j c := by
        constructor
        · rintro ⟨k, hk, c, h⟩
          obtain ⟨i, hi, first, hstep⟩ := (hf s k).mp hk
          exact ⟨i, hi, c ++ first, k, first, c, hstep, h, rfl⟩
        · rintro ⟨i, hi, c, k, first, rest, hstep, h, -⟩
          exact ⟨k, (hf s k).mpr ⟨i, hi, first, hstep⟩, rest, h⟩
      unfold stepTimes
      by_cases hs : f s = s
      · -- a step that changes nothing: everything in `s` has a predecessor in `s`
        rw [if_pos hs, ← later, hs, ← ih]
        clear ih later
        induction n with
        | zero => rfl
        | succ n _ => simp [stepTimes, hs]
      · rw [if_neg hs, ih, later]

theorem mem_stepUpTo {n : Nat} {s : List Nat} {j : Nat} :
    j ∈ stepUpTo f n s ↔ ∃ i ∈ s, ∃ m ≤ n, ∃ c, Repeated step m i j c := by
  induction n generalizing s j with
  | zero =>
      constructor
      · exact fun h => ⟨j, h, 0, Nat.le_refl 0, [], rfl, rfl⟩
      · rintro ⟨i, hi, m, hm, c, h⟩
        obtain rfl := Nat.le_zero.mp hm
        exact h.1 ▸ hi
  | succ n ih =>
      unfold stepUpTo
      by_cases hs : merge s (f s) = s
      · have closed : ∀ j ∈ f s, j ∈ s := fun j hj => hs ▸ mem_merge.mpr (.inr hj)
        rw [if_pos hs]
        constructor
        · exact fun h => ⟨j, h, 0, Nat.zero_le _, [], rfl, rfl⟩
        · rintro ⟨i, hi, m, -, c, h⟩
          exact mem_of_repeated hf closed hi h
      · rw [if_neg hs, ih]
        constructor
        · rintro ⟨i, hi, m, hm, c, h⟩
          rcases mem_merge.mp hi with hi | hi
          · exact ⟨i, hi, m, Nat.le_succ_of_le hm, c, h⟩
          · obtain ⟨i₀, hi₀, first, hstep⟩ := (hf s i).mp hi
            exact ⟨i₀, hi₀, m + 1, Nat.succ_le_succ hm, c ++ first, i, first, c, hstep, h, rfl⟩
        · rintro ⟨i, hi, m, hm, c, h⟩
          cases m with
          | zero => exact ⟨i, mem_merge.mpr (.inl hi), 0, Nat.zero_le _, c, h⟩
          | succ m =>
              obtain ⟨k, first, rest, hstep, h, -⟩ := h
              exact ⟨k, mem_merge.mpr (.inr ((hf s k).mpr ⟨i, hi, first, hstep⟩)), m,
                Nat.le_of_succ_le_succ hm, rest, h⟩

/-- At least `min` rounds, and then up to `limit` more. -/
theorem mem_stepUpTo_stepTimes {min limit : Nat} {s : List Nat} {j : Nat} :
    j ∈ stepUpTo f limit (stepTimes f min s) ↔
      ∃ i ∈ s, ∃ c n, min ≤ n ∧ n ≤ min + limit ∧ Repeated step n i j c := by
  simp only [mem_stepUpTo hf, mem_stepTimes hf]
  constructor
  · rintro ⟨k, ⟨i, hi, first, h⟩, m, hm, rest, h'⟩
    exact ⟨i, hi, rest ++ first, min + m, Nat.le_add_right .., Nat.add_le_add_left hm min, h.add h'⟩
  · rintro ⟨i, hi, c, n, hmin, hlimit, h⟩
    obtain ⟨m, rfl⟩ := Nat.exists_eq_add_of_le hmin
    obtain ⟨k, first, rest, h, h', -⟩ := h.split
    exact ⟨k, ⟨i, hi, first, h⟩, m, Nat.le_of_add_le_add_left hlimit, rest, h'⟩

end Steps

/-- The places where a match from one of the positions can end. -/
theorem mem_ends {text : Array Char} {r : Regex} {s : List Nat} {j : Nat} :
    j ∈ ends text r s ↔ ∃ i ∈ s, ∃ c, Spans text r i j c := by
  induction r generalizing s j with
  | empty =>
      constructor
      · exact fun h => ⟨j, h, [], rfl, rfl⟩
      · rintro ⟨i, hi, c, rfl, -⟩
        exact hi
  | chars rs =>
      simp only [ends, List.mem_filterMap, Spans]
      refine exists_congr fun i => and_congr_right fun _ => ?_
      constructor
      · intro h
        split at h
        · rename_i d hd
          split at h
          · rename_i hin
            exact ⟨[], ⟨d, hd, hin⟩, (Option.some.inj h).symm, rfl⟩
          · cases h
        · cases h
      · rintro ⟨c, ⟨d, hd, hin⟩, rfl, -⟩
        simp only [hd, if_pos hin]
  | condition k =>
      simp only [ends, List.mem_filter, Spans]
      constructor
      · exact fun h => ⟨j, h.1, [], h.2, rfl, rfl⟩
      · rintro ⟨i, hi, c, hk, rfl, -⟩
        exact ⟨hi, hk⟩
  | seq a b iha ihb =>
      simp only [ends, ihb, iha, Spans]
      constructor
      · rintro ⟨k, ⟨i, hi, first, ha⟩, rest, hb⟩
        exact ⟨i, hi, rest ++ first, k, first, rest, ha, hb, rfl⟩
      · rintro ⟨i, hi, c, k, first, rest, ha, hb, -⟩
        exact ⟨k, ⟨i, hi, first, ha⟩, rest, hb⟩
  | alt a b iha ihb =>
      simp only [ends, mem_merge, iha, ihb, Spans]
      constructor
      · rintro (⟨i, hi, c, h⟩ | ⟨i, hi, c, h⟩)
        · exact ⟨i, hi, c, .inl h⟩
        · exact ⟨i, hi, c, .inr h⟩
      · rintro ⟨i, hi, c, h | h⟩
        · exact .inl ⟨i, hi, c, h⟩
        · exact .inr ⟨i, hi, c, h⟩
  | rep r min max greedy ih =>
      have step : ∀ s j, j ∈ ends text r s ↔ ∃ i ∈ s, ∃ c, Spans text r i j c := fun _ _ => ih
      cases max with
      | some m =>
          simp only [ends, mem_stepUpTo_stepTimes step, Spans]
          constructor
          · rintro ⟨i, hi, c, n, hmin, hmax, h⟩
            exact ⟨i, hi, c, n, hmin, fun _ hm => by cases hm; exact hmax, h⟩
          · rintro ⟨i, hi, c, n, hmin, hmax, h⟩
            exact ⟨i, hi, c, n, hmin, hmax m rfl, h⟩
      | none =>
          simp only [ends, mem_stepUpTo_stepTimes step, Spans]
          constructor
          · rintro ⟨i, hi, c, n, hmin, -, h⟩
            exact ⟨i, hi, c, n, hmin, by simp, h⟩
          · rintro ⟨i, hi, c, n, hmin, -, h⟩
            exact ⟨i, hi, Spans.exists_repeated_le hmin h⟩
  | capture name r ih =>
      simp only [ends, ih, Spans]
      constructor
      · rintro ⟨i, hi, c, h⟩
        exact ⟨i, hi, _, c, h, rfl⟩
      · rintro ⟨i, hi, _, c, h, -⟩
        exact ⟨i, hi, c, h⟩

/-- A part of the text matches. -/
theorem isMatch_iff {r : Regex} {text : String} :
    r.isMatch text ↔ ∃ i ≤ text.toList.length, ∃ j c, Spans text.toList.toArray r i j c := by
  have : r.isMatch text ↔ ∃ j, j ∈ ends text.toList.toArray r
      (List.range (text.toList.toArray.size + 1)) := by
    simp [isMatch, List.eq_nil_iff_forall_not_mem]
  rw [this]
  simp only [mem_ends, List.mem_range, Nat.lt_succ_iff, List.size_toArray]
  constructor
  · rintro ⟨j, i, hi, c, h⟩
    exact ⟨i, hi, j, c, h⟩
  · rintro ⟨i, hi, j, c, h⟩
    exact ⟨j, i, hi, c, h⟩

end TypeSchema.Regex
