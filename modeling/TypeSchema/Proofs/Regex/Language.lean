/-
# Language — the texts that an expression reads

An expression without conditions on its place and without switches of its own
can be read off the stretch that it matches, whatever stands around it.
`Reads f e cs c` says so: under the flags `f` the expression as written
matches all of `cs` and captures `c`, the latest first.  A sequence cuts `cs`
in two, a repetition in as many pieces as it has rounds.

The matcher that such an expression means matches a stretch of a text exactly
if the expression reads it (`spans_iff_reads`), so the whole text matches
exactly if it is read (`whole_iff_reads`).  What a group holds is a part of the
text that the body of a group of that name reads (`Reads.group`), and what is
read has a length that shows in the expression (`Reads.length_le`).
-/
import TypeSchema.Proofs.Regex.Captures
import TypeSchema.Regex.Pattern

namespace TypeSchema.Regex

/-- One piece after another, `n` in all, each of them read by a `step`. -/
def ReadTimes (step : List Char → Captures → Prop) : Nat → List Char → Captures → Prop
  | 0, cs, c => cs = [] ∧ c = []
  | n + 1, cs, c => ∃ xs ys first rest,
    step xs first ∧ ReadTimes step n ys rest ∧ cs = xs ++ ys ∧ c = rest ++ first

/-- A single character of a set. -/
def ReadOne (rs : Unicode.Ranges) (cs : List Char) (c : Captures) : Prop :=
  ∃ d, rs.has d.toNat ∧ cs = [d] ∧ c = []

namespace Expression

/-- The expression reads the characters and captures `c`.  Conditions and
switches are left out: they depend on what stands around. -/
def Reads (f : Flags) : Expression → List Char → Captures → Prop
  | .empty, cs, c => cs = [] ∧ c = []
  | .literal a _, cs, c => ReadOne (charSet f a) cs c
  | .dot, cs, c => ReadOne (dotSet f) cs c
  | .anchor _, _, _ => False
  | .shorthand kind negated, cs, c => ReadOne (shorthandSet f kind negated) cs c
  | .unicode name negated, cs, c => ∃ rs, unicodeSet f name negated = some rs ∧ ReadOne rs cs c
  | .bracket negated body, cs, c =>
    ∃ rs, body.ranges f = some rs ∧ ReadOne (foldAndNegate f negated rs) cs c
  | .setFlags _, _, _ => False
  | .group .numbered body, cs, c => body.Reads f cs c
  | .group (.named name) body, cs, c => ∃ inner, body.Reads f cs inner ∧ c = (name, cs) :: inner
  | .group (.flags changes) body, cs, c => body.Reads (f.changes changes) cs c
  | .repeated body count _, cs, c =>
    ∃ n, count.min ≤ n ∧ (∀ m, count.max = some m → n ≤ count.min + (m - count.min)) ∧
      ReadTimes (body.Reads f) n cs c
  | .sequence a b, cs, c =>
    ∃ xs ys first rest, a.Reads f xs first ∧ b.Reads f ys rest ∧ cs = xs ++ ys ∧ c = rest ++ first
  | .either a b, cs, c => a.Reads f cs c ∨ b.Reads f cs c

/-- No condition on the place, and no switch that goes on behind it. -/
def isLocal : Expression → Bool
  | .empty => true
  | .literal _ _ => true
  | .dot => true
  | .anchor _ => false
  | .shorthand _ _ => true
  | .unicode _ _ => true
  | .bracket _ _ => true
  | .setFlags _ => false
  | .group _ body => body.isLocal
  | .repeated body _ _ => body.isLocal
  | .sequence a b => a.isLocal && b.isLocal
  | .either a b => a.isLocal && b.isLocal

/-! ## Stretches -/

section Stretches

variable {text : List Char} {i j : Nat}

theorem extract_eq_nil (hij : i ≤ j) (hj : j ≤ text.length) : text.extract i j = [] ↔ j = i := by
  rw [← List.length_eq_zero_iff, List.extract_eq_take_drop, List.length_take, List.length_drop]
  omega

theorem extract_eq_singleton (hij : i ≤ j) (hj : j ≤ text.length) {d : Char} :
    text.extract i j = [d] ↔ text[i]? = some d ∧ j = i + 1 := by
  rw [List.extract_eq_take_drop]
  constructor
  · intro h
    have hlength := congrArg List.length h
    simp only [List.length_take, List.length_drop, List.length_singleton] at hlength
    have hhead := congrArg (·[0]?) h
    simp only [List.getElem?_take, List.getElem?_drop] at hhead
    refine ⟨?_, by omega⟩
    simpa [show 0 < j - i by omega] using hhead
  · rintro ⟨hd, rfl⟩
    obtain ⟨hi, rfl⟩ := List.getElem?_eq_some_iff.mp hd
    simp [List.take_one, List.head?_drop]

/-- A stretch is cut in two at a place within it. -/
theorem extract_eq_append (hij : i ≤ j) (hj : j ≤ text.length) {xs ys : List Char} :
    text.extract i j = xs ++ ys ↔
      ∃ k, i ≤ k ∧ k ≤ j ∧ text.extract i k = xs ∧ text.extract k j = ys := by
  simp only [List.extract_eq_take_drop]
  constructor
  · intro h
    have hlength := congrArg List.length h
    simp only [List.length_take, List.length_drop, List.length_append] at hlength
    refine ⟨i + xs.length, by omega, by omega, ?_, ?_⟩
    · have := congrArg (List.take xs.length) h
      simpa [List.take_take, show min xs.length (j - i) = xs.length by omega] using this
    · have := congrArg (List.drop xs.length) h
      rw [List.drop_left, List.drop_take, List.drop_drop] at this
      rw [show j - (i + xs.length) = j - i - xs.length by omega]
      exact this
  · rintro ⟨k, hik, hkj, rfl, rfl⟩
    rw [show j - i = (k - i) + (j - k) by omega, List.take_add, List.drop_drop,
      show i + (k - i) = k by omega]

end Stretches

/-! ## Matchers read what expressions read -/

section Meaning

variable {text : List Char} {i j : Nat} {c : Captures}

theorem spans_chars_iff (hij : i ≤ j) (hj : j ≤ text.length) {rs : Unicode.Ranges} :
    Spans text.toArray (.chars rs) i j c ↔ ReadOne rs (text.extract i j) c := by
  simp only [Spans, ReadOne, extract_eq_singleton hij hj, List.getElem?_toArray]
  constructor
  · rintro ⟨⟨d, hd, hin⟩, rfl, rfl⟩
    exact ⟨d, hin, ⟨hd, rfl⟩, rfl⟩
  · rintro ⟨d, hin, ⟨hd, rfl⟩, rfl⟩
    exact ⟨⟨d, hd, hin⟩, rfl, rfl⟩

theorem repeated_iff_readTimes {r : Regex} {step : List Char → Captures → Prop}
    (agree : ∀ i j c, i ≤ j → j ≤ text.length →
      (Spans text.toArray r i j c ↔ step (text.extract i j) c))
    {n : Nat} (hij : i ≤ j) (hj : j ≤ text.length) :
    Repeated (Spans text.toArray r) n i j c ↔ ReadTimes step n (text.extract i j) c := by
  induction n generalizing i c with
  | zero => simp [Repeated, ReadTimes, extract_eq_nil hij hj]
  | succ n ih =>
      constructor
      · rintro ⟨k, first, rest, hstep, hrest, rfl⟩
        have hik := hstep.le
        have hkj := hrest.le fun _ _ _ => Spans.le
        exact ⟨_, _, first, rest, (agree _ _ _ hik (hkj.trans hj)).mp hstep, (ih hkj).mp hrest,
          (extract_eq_append hij hj).mpr ⟨k, hik, hkj, rfl, rfl⟩, rfl⟩
      · rintro ⟨xs, ys, first, rest, hstep, hrest, hcut, rfl⟩
        obtain ⟨k, hik, hkj, rfl, rfl⟩ := (extract_eq_append hij hj).mp hcut
        exact ⟨k, first, rest, (agree _ _ _ hik (hkj.trans hj)).mpr hstep, (ih hkj).mpr hrest, rfl⟩

/-- The matcher of a local expression matches the stretches that the
expression reads, and leaves the flags as they are. -/
theorem spans_iff_reads {e : Expression} {f f' : Flags} {r : Regex} (hl : e.isLocal)
    (hm : e.meaning f = some (r, f')) :
    f' = f ∧ ∀ i j c, i ≤ j → j ≤ text.length →
      (Spans text.toArray r i j c ↔ e.Reads f (text.extract i j) c) := by
  induction e generalizing f f' r with
  | empty =>
      cases hm
      exact ⟨rfl, fun i j c hij hj => by simp [Spans, Reads, extract_eq_nil hij hj]⟩
  | literal a s =>
      simp only [meaning] at hm
      split at hm
      · cases hm
      · cases hm
        exact ⟨rfl, fun i j c hij hj => spans_chars_iff hij hj⟩
  | dot =>
      simp only [meaning] at hm
      split at hm
      · cases hm
        exact ⟨rfl, fun i j c hij hj => spans_chars_iff hij hj⟩
      · cases hm
  | anchor a => cases hl
  | shorthand kind negated =>
      obtain ⟨rs, hrs, hr⟩ := Option.map_eq_some_iff.mp hm
      cases hr
      refine ⟨rfl, fun i j c hij hj => ?_⟩
      unfold wholeCharacters at hrs
      split at hrs
      · cases hrs
        exact spans_chars_iff hij hj
      · cases hrs
  | unicode name negated =>
      obtain ⟨rs, hrs, hr⟩ := Option.map_eq_some_iff.mp hm
      cases hr
      refine ⟨rfl, fun i j c hij hj => ?_⟩
      rw [spans_chars_iff hij hj, Reads]
      simp [hrs]
  | bracket negated body =>
      simp only [meaning, Option.bind_eq_bind, Option.bind_eq_some_iff] at hm
      obtain ⟨rs, hrs, rs', hwhole, hr⟩ := hm
      cases hr
      refine ⟨rfl, fun i j c hij hj => ?_⟩
      unfold wholeCharacters at hwhole
      split at hwhole
      · cases hwhole
        rw [spans_chars_iff hij hj, Reads]
        simp [hrs]
      · cases hwhole
  | setFlags changes => cases hl
  | group kind body ih =>
      cases kind with
      | numbered =>
          obtain ⟨⟨r', f''⟩, hbody, hr⟩ := Option.map_eq_some_iff.mp hm
          cases hr
          exact ⟨rfl, (ih hl hbody).2⟩
      | named name =>
          obtain ⟨⟨r', f''⟩, hbody, hr⟩ := Option.map_eq_some_iff.mp hm
          cases hr
          refine ⟨rfl, fun i j c hij hj => ?_⟩
          simp only [Spans, Reads, (ih hl hbody).2 i j _ hij hj, List.extract_toArray]
      | flags changes =>
          obtain ⟨⟨r', f''⟩, hbody, hr⟩ := Option.map_eq_some_iff.mp hm
          cases hr
          exact ⟨rfl, (ih hl hbody).2⟩
  | repeated body count isLazy ih =>
      obtain ⟨⟨r', f''⟩, hbody, hr⟩ := Option.map_eq_some_iff.mp hm
      cases hr
      obtain ⟨rfl, agree⟩ := ih hl hbody
      refine ⟨rfl, fun i j c hij hj => ?_⟩
      simp only [Spans, Reads, repeated_iff_readTimes agree hij hj]
  | sequence a b iha ihb =>
      obtain ⟨ha, hb⟩ := Bool.and_eq_true_iff.mp hl
      simp only [meaning, Option.bind_eq_bind, Option.bind_eq_some_iff, Prod.exists] at hm
      obtain ⟨ra, fa, hma, rb, fb, hmb, hr⟩ := hm
      cases hr
      obtain ⟨rfl, agreea⟩ := iha ha hma
      obtain ⟨rfl, agreeb⟩ := ihb hb hmb
      refine ⟨rfl, fun i j c hij hj => ?_⟩
      constructor
      · rintro ⟨k, first, rest, hfirst, hrest, rfl⟩
        have hik := hfirst.le
        have hkj := hrest.le
        exact ⟨_, _, first, rest, (agreea _ _ _ hik (hkj.trans hj)).mp hfirst,
          (agreeb _ _ _ hkj hj).mp hrest, (extract_eq_append hij hj).mpr ⟨k, hik, hkj, rfl, rfl⟩,
          rfl⟩
      · rintro ⟨xs, ys, first, rest, hfirst, hrest, hcut, rfl⟩
        obtain ⟨k, hik, hkj, rfl, rfl⟩ := (extract_eq_append hij hj).mp hcut
        exact ⟨k, first, rest, (agreea _ _ _ hik (hkj.trans hj)).mpr hfirst,
          (agreeb _ _ _ hkj hj).mpr hrest, rfl⟩
  | either a b iha ihb =>
      obtain ⟨ha, hb⟩ := Bool.and_eq_true_iff.mp hl
      simp only [meaning, Option.bind_eq_bind, Option.bind_eq_some_iff, Prod.exists] at hm
      obtain ⟨ra, fa, hma, rb, fb, hmb, hr⟩ := hm
      cases hr
      obtain ⟨rfl, agreea⟩ := iha ha hma
      obtain ⟨rfl, agreeb⟩ := ihb hb hmb
      exact ⟨rfl, fun i j c hij hj => or_congr (agreea i j c hij hj) (agreeb i j c hij hj)⟩

/-- The whole text matches exactly if the expression reads it. -/
theorem whole_iff_reads {e : Expression} {f f' : Flags} {r : Regex} (hl : e.isLocal)
    (hm : e.meaning f = some (r, f')) : r.Whole text c ↔ e.Reads f text c := by
  have h := (spans_iff_reads hl hm).2 0 text.length c (Nat.zero_le _) le_rfl
  rwa [List.extract_eq_take_drop, List.drop_zero, Nat.sub_zero, List.take_length] at h

end Meaning

/-! ## Groups -/

/-- The bodies of the named groups, each with its name and the flags that hold
in it. -/
def namedGroups (f : Flags) : Expression → List (String × Flags × Expression)
  | .group .numbered body => body.namedGroups f
  | .group (.named name) body => (name, f, body) :: body.namedGroups f
  | .group (.flags changes) body => body.namedGroups (f.changes changes)
  | .repeated body _ _ => body.namedGroups f
  | .sequence a b => a.namedGroups f ++ b.namedGroups f
  | .either a b => a.namedGroups f ++ b.namedGroups f
  | _ => []

/-- What is captured under a name stands in the text, and is read by the body
of a group of that name. -/
theorem Reads.group {e : Expression} {f : Flags} {cs : List Char} {c : Captures}
    (h : e.Reads f cs c) {name : String} {ds : List Char} (hmem : (name, ds) ∈ c) :
    ds <:+: cs ∧ ∃ f' body, (name, f', body) ∈ e.namedGroups f ∧ ∃ c', body.Reads f' ds c' := by
  induction e generalizing f cs c with
  | empty => rw [h.2] at hmem; cases hmem
  | literal a s => obtain ⟨d, -, -, rfl⟩ := h; cases hmem
  | dot => obtain ⟨d, -, -, rfl⟩ := h; cases hmem
  | anchor a => cases h
  | shorthand kind negated => obtain ⟨d, -, -, rfl⟩ := h; cases hmem
  | unicode name negated => obtain ⟨rs, -, d, -, -, rfl⟩ := h; cases hmem
  | bracket negated body => obtain ⟨rs, -, d, -, -, rfl⟩ := h; cases hmem
  | setFlags changes => cases h
  | group kind body ih =>
      cases kind with
      | numbered => exact ih h hmem
      | named n =>
          obtain ⟨inner, h, rfl⟩ := h
          rcases List.mem_cons.mp hmem with heq | hmem
          · cases heq
            exact ⟨List.infix_rfl, f, body, List.mem_cons_self, inner, h⟩
          · obtain ⟨hin, f', body', hbody, found⟩ := ih h hmem
            exact ⟨hin, f', body', List.mem_cons_of_mem _ hbody, found⟩
      | flags changes => exact ih h hmem
  | repeated body count isLazy ih =>
      obtain ⟨n, -, -, h⟩ := h
      induction n generalizing cs c with
      | zero => rw [h.2] at hmem; cases hmem
      | succ n ihn =>
          obtain ⟨xs, ys, first, rest, hfirst, hrest, rfl, rfl⟩ := h
          rcases List.mem_append.mp hmem with hmem | hmem
          · obtain ⟨hin, found⟩ := ihn hmem hrest
            exact ⟨hin.trans (List.suffix_append xs ys).isInfix, found⟩
          · obtain ⟨hin, found⟩ := ih hfirst hmem
            exact ⟨hin.trans (List.prefix_append xs ys).isInfix, found⟩
  | sequence a b iha ihb =>
      obtain ⟨xs, ys, first, rest, hfirst, hrest, rfl, rfl⟩ := h
      rcases List.mem_append.mp hmem with hmem | hmem
      · obtain ⟨hin, f', body, hbody, found⟩ := ihb hrest hmem
        exact ⟨hin.trans (List.suffix_append xs ys).isInfix, f', body,
          List.mem_append_right _ hbody, found⟩
      · obtain ⟨hin, f', body, hbody, found⟩ := iha hfirst hmem
        exact ⟨hin.trans (List.prefix_append xs ys).isInfix, f', body,
          List.mem_append_left _ hbody, found⟩
  | either a b iha ihb =>
      rcases h with h | h
      · obtain ⟨hin, f', body, hbody, found⟩ := iha h hmem
        exact ⟨hin, f', body, List.mem_append_left _ hbody, found⟩
      · obtain ⟨hin, f', body, hbody, found⟩ := ihb h hmem
        exact ⟨hin, f', body, List.mem_append_right _ hbody, found⟩

/-! ## Lengths -/

/-- The greatest number of characters that the expression reads, if there is
one. -/
def longest : Expression → Option Nat
  | .empty => some 0
  | .anchor _ => some 0
  | .setFlags _ => some 0
  | .group _ body => body.longest
  | .repeated body count _ => do return max count.min (← count.max) * (← body.longest)
  | .sequence a b => do return (← a.longest) + (← b.longest)
  | .either a b => do return max (← a.longest) (← b.longest)
  | _ => some 1

theorem ReadOne.length_le {rs : Unicode.Ranges} {cs : List Char} {c : Captures}
    (h : ReadOne rs cs c) : cs.length ≤ 1 := by
  obtain ⟨d, -, rfl, -⟩ := h
  exact Nat.le_refl 1

theorem Reads.length_le {e : Expression} {f : Flags} {cs : List Char} {c : Captures}
    (h : e.Reads f cs c) {n : Nat} (hn : e.longest = some n) : cs.length ≤ n := by
  induction e generalizing f cs c n with
  | empty => cases hn; rw [h.1]; exact Nat.le_refl 0
  | literal a s => cases hn; exact ReadOne.length_le h
  | dot => cases hn; exact ReadOne.length_le h
  | anchor a => cases h
  | shorthand kind negated => cases hn; exact ReadOne.length_le h
  | unicode name negated =>
      cases hn
      obtain ⟨rs, -, h⟩ := h
      exact ReadOne.length_le h
  | bracket negated body =>
      cases hn
      obtain ⟨rs, -, h⟩ := h
      exact ReadOne.length_le h
  | setFlags changes => cases h
  | group kind body ih =>
      cases kind with
      | numbered => exact ih h hn
      | named name =>
          obtain ⟨inner, h, -⟩ := h
          exact ih h hn
      | flags changes => exact ih h hn
  | repeated body count isLazy ih =>
      simp only [longest, Option.bind_eq_bind, Option.bind_eq_some_iff] at hn
      obtain ⟨m, hm, k, hk, hn⟩ := hn
      cases hn
      obtain ⟨r, -, hr, h⟩ := h
      have rounds : cs.length ≤ r * k := by
        clear hr
        induction r generalizing cs c with
        | zero => rw [h.1, Nat.zero_mul]; exact Nat.le_refl 0
        | succ r ihr =>
            obtain ⟨xs, ys, first, rest, hfirst, hrest, rfl, -⟩ := h
            have hxs := ih hfirst hk
            have hys := ihr hrest
            rw [List.length_append, Nat.succ_mul]
            omega
      have hrm : r ≤ max count.min m := (hr m hm).trans (by omega)
      exact rounds.trans (Nat.mul_le_mul_right k hrm)
  | sequence a b iha ihb =>
      simp only [longest, Option.bind_eq_bind, Option.bind_eq_some_iff] at hn
      obtain ⟨l, hl, m, hm, hn⟩ := hn
      cases hn
      obtain ⟨xs, ys, first, rest, hfirst, hrest, rfl, -⟩ := h
      rw [List.length_append]
      exact Nat.add_le_add (iha hfirst hl) (ihb hrest hm)
  | either a b iha ihb =>
      simp only [longest, Option.bind_eq_bind, Option.bind_eq_some_iff] at hn
      obtain ⟨l, hl, m, hm, hn⟩ := hn
      cases hn
      rcases h with h | h
      · exact (iha h hl).trans (Nat.le_max_left l m)
      · exact (ihb h hm).trans (Nat.le_max_right l m)

end Expression

theorem Captures.mem_of_get? {caps : Captures} {name : String} {ds : List Char}
    (h : caps.get? name = some ds) : (name, ds) ∈ caps := by
  obtain ⟨⟨n, ds'⟩, hfind, rfl⟩ := Option.map_eq_some_iff.mp h
  have hn := List.find?_some hfind
  obtain rfl : n = name := by simpa using hn
  exact List.mem_of_find?_eq_some hfind

end TypeSchema.Regex
