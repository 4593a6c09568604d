/-
# Captures — what the groups of a match hold

`ways` tries the branches of an expression in order and remembers what groups
match on the way.  Whatever it finds is a span with these captures
(`span_of_mem_ways`), and it finds something wherever there is a span
(`exists_mem_ways`): of a repetition it passes over the rounds that take no
character, which a match can do without.

So a text with a match has captures, and what it captures belongs to a span
(`captures?_eq_some`, `captures?_eq_none`).  For an expression between the
start and the end of a text, that is a span of the whole text.
-/
import TypeSchema.Proofs.Regex.Spans

namespace TypeSchema.Regex

/-! ## Ways are spans -/

section Sound

variable {step : Nat → Nat → Captures → Prop} {f : Nat → Captures → List (Nat × Captures)}
  (sound : ∀ i caps j caps', (j, caps') ∈ f i caps → ∃ c, step i j c ∧ caps' = c ++ caps)
include sound

theorem repeated_of_mem_repeatTimes {n i j : Nat} {caps caps' : Captures}
    (h : (j, caps') ∈ ways.repeatTimes f n i caps) :
    ∃ c, Repeated step n i j c ∧ caps' = c ++ caps := by
  induction n generalizing i caps with
  | zero =>
      obtain ⟨rfl, rfl⟩ : j = i ∧ caps' = caps := by simpa [ways.repeatTimes] using h
      exact ⟨[], ⟨rfl, rfl⟩, rfl⟩
  | succ n ih =>
      obtain ⟨⟨k, mid⟩, hfirst, hrest⟩ := List.mem_flatMap.mp h
      obtain ⟨first, hstep, rfl⟩ := sound _ _ _ _ hfirst
      obtain ⟨rest, hlater, rfl⟩ := ih hrest
      exact ⟨rest ++ first, ⟨k, first, rest, hstep, hlater, rfl⟩, (List.append_assoc ..).symm⟩

theorem repeated_of_mem_repetitions {isLazy : Bool} {n i j : Nat} {caps caps' : Captures}
    (h : (j, caps') ∈ repetitions f isLazy n i caps) :
    ∃ m ≤ n, ∃ c, Repeated step m i j c ∧ caps' = c ++ caps := by
  induction n generalizing i caps with
  | zero =>
      obtain ⟨rfl, rfl⟩ : j = i ∧ caps' = caps := by simpa [repetitions] using h
      exact ⟨0, Nat.le_refl 0, [], ⟨rfl, rfl⟩, rfl⟩
  | succ n ih =>
      have cases : (j, caps') = (i, caps) ∨ ∃ k mid, (k, mid) ∈ f i caps ∧
          (j, caps') ∈ if i < k then repetitions f isLazy n k mid else [] := by
        unfold repetitions at h
        split at h
        · rcases List.mem_cons.mp h with h | h
          · exact .inl h
          · obtain ⟨⟨k, mid⟩, hfirst, hrest⟩ := List.mem_flatMap.mp h
            exact .inr ⟨k, mid, hfirst, hrest⟩
        · rcases List.mem_append.mp h with h | h
          · obtain ⟨⟨k, mid⟩, hfirst, hrest⟩ := List.mem_flatMap.mp h
            exact .inr ⟨k, mid, hfirst, hrest⟩
          · exact .inl (List.mem_singleton.mp h)
      rcases cases with h | ⟨k, mid, hfirst, hrest⟩
      · cases h
        exact ⟨0, Nat.zero_le _, [], ⟨rfl, rfl⟩, rfl⟩
      · split at hrest
        · obtain ⟨first, hstep, rfl⟩ := sound _ _ _ _ hfirst
          obtain ⟨m, hm, rest, hlater, rfl⟩ := ih hrest
          exact ⟨m + 1, Nat.succ_le_succ hm, rest ++ first, ⟨k, first, rest, hstep, hlater, rfl⟩,
            (List.append_assoc ..).symm⟩
        · cases hrest

end Sound

/-- What is found is a span, with captures before those there were. -/
theorem span_of_mem_ways {text : Array Char} {r : Regex} {i j : Nat} {caps caps' : Captures}
    (h : (j, caps') ∈ ways text r i caps) : ∃ c, Spans text r i j c ∧ caps' = c ++ caps := by
  induction r generalizing i j caps caps' with
  | empty =>
      obtain ⟨rfl, rfl⟩ : j = i ∧ caps' = caps := by simpa [ways] using h
      exact ⟨[], ⟨rfl, rfl⟩, rfl⟩
  | chars rs =>
      unfold ways at h
      split at h
      · rename_i d hd
        split at h
        · rename_i hin
          cases List.mem_singleton.mp h
          exact ⟨[], ⟨⟨d, hd, hin⟩, rfl, rfl⟩, rfl⟩
        · cases h
      · cases h
  | condition k =>
      unfold ways at h
      split at h
      · rename_i hk
        cases List.mem_singleton.mp h
        exact ⟨[], ⟨hk, rfl, rfl⟩, rfl⟩
      · cases h
  | seq a b iha ihb =>
      obtain ⟨⟨k, mid⟩, hfirst, hrest⟩ := List.mem_flatMap.mp h
      obtain ⟨first, ha, rfl⟩ := iha hfirst
      obtain ⟨rest, hb, rfl⟩ := ihb hrest
      exact ⟨rest ++ first, ⟨k, first, rest, ha, hb, rfl⟩, (List.append_assoc ..).symm⟩
  | alt a b iha ihb =>
      rcases List.mem_append.mp h with h | h
      · obtain ⟨c, h, hc⟩ := iha h
        exact ⟨c, .inl h, hc⟩
      · obtain ⟨c, h, hc⟩ := ihb h
        exact ⟨c, .inr h, hc⟩
  | rep r min max isLazy ih =>
      have sound : ∀ i caps j caps', (j, caps') ∈ ways text r i caps →
          ∃ c, Spans text r i j c ∧ caps' = c ++ caps := fun _ _ _ _ => ih
      obtain ⟨⟨k, mid⟩, hfirst, hrest⟩ := List.mem_flatMap.mp h
      obtain ⟨first, hleast, rfl⟩ := repeated_of_mem_repeatTimes sound hfirst
      obtain ⟨m, hm, rest, hmore, rfl⟩ := repeated_of_mem_repetitions sound hrest
      refine ⟨rest ++ first, ⟨min + m, Nat.le_add_right .., ?_, hleast.add hmore⟩,
        (List.append_assoc ..).symm⟩
      rintro n rfl
      exact Nat.add_le_add_left hm min
  | capture name r ih =>
      obtain ⟨⟨k, mid⟩, hin, hout⟩ := List.mem_map.mp h
      obtain ⟨c, span, rfl⟩ := ih hin
      cases hout
      exact ⟨(name, (text.extract i j).toList) :: c, ⟨c, span, rfl⟩, rfl⟩

/-! ## Spans have ways -/

section Complete

variable {step : Nat → Nat → Captures → Prop} {f : Nat → Captures → List (Nat × Captures)}
  (complete : ∀ i j c caps, step i j c → ∃ c', (j, c' ++ caps) ∈ f i caps)
  {isLazy : Bool}
include complete

theorem exists_mem_repeatTimes {n i j : Nat} {c : Captures} (caps : Captures)
    (h : Repeated step n i j c) : ∃ c', (j, c' ++ caps) ∈ ways.repeatTimes f n i caps := by
  induction n generalizing i c caps with
  | zero =>
      obtain ⟨rfl, rfl⟩ := h
      exact ⟨[], List.mem_singleton.mpr rfl⟩
  | succ n ih =>
      obtain ⟨k, first, rest, hstep, hrest, -⟩ := h
      obtain ⟨first', hfirst⟩ := complete _ _ _ caps hstep
      obtain ⟨rest', hrest⟩ := ih (first' ++ caps) hrest
      exact ⟨rest' ++ first', List.mem_flatMap.mpr ⟨_, hfirst, by simpa using hrest⟩⟩

theorem exists_mem_repetitions {m n i j : Nat} {c : Captures} (caps : Captures)
    (hm : m ≤ n) (h : Repeated (fun i j c => i < j ∧ step i j c) m i j c) :
    ∃ c', (j, c' ++ caps) ∈ repetitions f isLazy n i caps := by
  induction n generalizing m i c caps with
  | zero =>
      obtain rfl := Nat.le_zero.mp hm
      obtain ⟨rfl, rfl⟩ := h
      exact ⟨[], List.mem_singleton.mpr rfl⟩
  | succ n ih =>
      unfold repetitions
      cases m with
      | zero =>
          obtain ⟨rfl, rfl⟩ := h
          exact ⟨[], by split <;> simp⟩
      | succ m =>
          obtain ⟨k, first, rest, ⟨hlt, hstep⟩, hrest, -⟩ := h
          obtain ⟨first', hfirst⟩ := complete _ _ _ caps hstep
          obtain ⟨rest', hrest⟩ := ih (first' ++ caps) (Nat.le_of_succ_le_succ hm) hrest
          have further : (j, rest' ++ first' ++ caps) ∈ (f i caps).flatMap fun way =>
              if i < way.1 then repetitions f isLazy n way.1 way.2 else [] :=
            List.mem_flatMap.mpr ⟨_, hfirst, by simpa [hlt] using hrest⟩
          refine ⟨rest' ++ first', ?_⟩
          split
          · exact List.mem_cons_of_mem _ further
          · exact List.mem_append_left _ further

end Complete

/-- Where there is a span, some way is found to its end. -/
theorem exists_mem_ways {text : Array Char} {r : Regex} {i j : Nat} {c : Captures}
    (caps : Captures) (h : Spans text r i j c) : ∃ c', (j, c' ++ caps) ∈ ways text r i caps := by
  induction r generalizing i j c caps with
  | empty =>
      obtain ⟨rfl, rfl⟩ := h
      exact ⟨[], List.mem_singleton.mpr rfl⟩
  | chars rs =>
      obtain ⟨⟨d, hd, hin⟩, rfl, rfl⟩ := h
      exact ⟨[], by simp [ways, hd, hin]⟩
  | condition k =>
      obtain ⟨hk, rfl, rfl⟩ := h
      exact ⟨[], by simp [ways, hk]⟩
  | seq a b iha ihb =>
      obtain ⟨k, first, rest, ha, hb, -⟩ := h
      obtain ⟨first', ha⟩ := iha caps ha
      obtain ⟨rest', hb⟩ := ihb (first' ++ caps) hb
      exact ⟨rest' ++ first', List.mem_flatMap.mpr ⟨_, ha, by simpa using hb⟩⟩
  | alt a b iha ihb =>
      rcases h with h | h
      · obtain ⟨c', h⟩ := iha caps h
        exact ⟨c', List.mem_append_left _ h⟩
      · obtain ⟨c', h⟩ := ihb caps h
        exact ⟨c', List.mem_append_right _ h⟩
  | rep r min max isLazy ih =>
      obtain ⟨n, hmin, hmax, h⟩ := h
      obtain ⟨m, rfl⟩ : ∃ m, n = min + m := ⟨n - min, by omega⟩
      obtain ⟨k, first, rest, hleast, hmore, -⟩ := h.split
      obtain ⟨m', hm', hshort, d, hmore⟩ := hmore.advancing fun _ _ _ => Spans.le
      have complete : ∀ i j c caps, Spans text r i j c →
          ∃ c', (j, c' ++ caps) ∈ ways text r i caps := fun _ _ _ caps => ih caps
      obtain ⟨first', hleast⟩ := exists_mem_repeatTimes complete caps hleast
      have found : ∀ room, m' ≤ room → ∃ rest',
          (j, rest' ++ (first' ++ caps)) ∈ repetitions (ways text r) isLazy room k (first' ++ caps) :=
        fun _ room => exists_mem_repetitions complete _ room hmore
      cases max with
      | some most =>
          have := hmax most rfl
          obtain ⟨rest', hrest⟩ := found (most - min) (by omega)
          exact ⟨rest' ++ first', List.mem_flatMap.mpr ⟨_, hleast, by simpa using hrest⟩⟩
      | none =>
          have span : Spans text (.rep r m' none isLazy) k j d :=
            ⟨m', le_rfl, by simp, hmore.mono fun _ _ _ h => h.2⟩
          have := span.le_max
          obtain ⟨rest', hrest⟩ := found (text.size + 1) (by omega)
          exact ⟨rest' ++ first', List.mem_flatMap.mpr ⟨_, hleast, by simpa using hrest⟩⟩
  | capture name r ih =>
      obtain ⟨inner, h, -⟩ := h
      obtain ⟨c', h⟩ := ih caps h
      exact ⟨(name, (text.extract i j).toList) :: c', List.mem_map.mpr ⟨_, h, rfl⟩⟩

/-! ## Captures -/

theorem captures?_eq_some {r : Regex} {text : String} {caps : Captures}
    (h : r.captures? text = some caps) :
    ∃ i ≤ text.toList.length, ∃ j, Spans text.toList.toArray r i j caps := by
  obtain ⟨i, hi, h⟩ := List.exists_of_findSome?_eq_some h
  obtain ⟨⟨j, caps'⟩, hhead, rfl⟩ := Option.map_eq_some_iff.mp h
  obtain ⟨c, span, hc⟩ := span_of_mem_ways (List.mem_of_mem_head? hhead)
  refine ⟨i, by simpa [Nat.lt_succ_iff] using hi, j, ?_⟩
  simpa [hc] using span

theorem captures?_eq_none {r : Regex} {text : String} (h : r.captures? text = none) {i j : Nat}
    (hi : i ≤ text.toList.length) {c : Captures} : ¬ Spans text.toList.toArray r i j c := by
  intro span
  obtain ⟨c', hmem⟩ := exists_mem_ways [] span
  have hnone := List.findSome?_eq_none_iff.mp h i (by simpa [Nat.lt_succ_iff] using hi)
  rw [Option.map_eq_none_iff, List.head?_eq_none_iff] at hnone
  rw [hnone] at hmem
  cases hmem

/-- There are captures exactly if some part of the text matches. -/
theorem captures?_isSome {r : Regex} {text : String} :
    (r.captures? text).isSome ↔ r.isMatch text := by
  rw [isMatch_iff]
  cases h : r.captures? text with
  | none =>
      simp only [Option.isSome_none, Bool.false_eq_true, false_iff, not_exists, not_and]
      exact fun i hi j c => captures?_eq_none h hi
  | some caps =>
      obtain ⟨i, hi, j, span⟩ := captures?_eq_some h
      simpa using ⟨i, hi, j, caps, span⟩

/-- The text as a whole matches and is captured as `c`. -/
def Whole (r : Regex) (text : List Char) (c : Captures) : Prop :=
  Spans text.toArray r 0 text.length c

theorem spans_anchored {r : Regex} {text : List Char} {i j : Nat} {c : Captures} :
    Spans text.toArray r.anchored i j c ↔ i = 0 ∧ j = text.length ∧ r.Whole text c := by
  simp only [anchored, Spans, Condition.holds, Whole, decide_eq_true_eq, List.size_toArray]
  constructor
  · rintro ⟨_, _, _, ⟨rfl, rfl, rfl⟩, ⟨k, first, rest, h, ⟨rfl, rfl, rfl⟩, rfl⟩, rfl⟩
    exact ⟨rfl, rfl, by simpa using h⟩
  · rintro ⟨rfl, rfl, h⟩
    exact ⟨0, [], c, ⟨rfl, rfl, rfl⟩, ⟨text.length, c, [], h, ⟨rfl, rfl, rfl⟩, rfl⟩, by simp⟩

theorem isMatch_anchored {r : Regex} {text : String} :
    r.anchored.isMatch text ↔ ∃ c, r.Whole text.toList c := by
  rw [isMatch_iff]
  simp only [spans_anchored]
  constructor
  · rintro ⟨_, _, _, c, _, _, h⟩
    exact ⟨c, h⟩
  · rintro ⟨c, h⟩
    exact ⟨0, Nat.zero_le _, _, c, rfl, rfl, h⟩

theorem captures?_anchored_eq_some {r : Regex} {text : String} {caps : Captures}
    (h : r.anchored.captures? text = some caps) : r.Whole text.toList caps := by
  obtain ⟨_, _, _, span⟩ := captures?_eq_some h
  exact (spans_anchored.mp span).2.2

end TypeSchema.Regex
