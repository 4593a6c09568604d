/-
# Calendar — what the forms of dates and times read

The parts of a date or a time are runs of decimal digits, and what stands
between them is no digit.  So a text of this shape is cut in one way only,
and the groups hold its runs (`captures_of_reads_fullDate`,
`captures_of_reads_time`, `captures_of_reads_fullDateTime`).

What is written for a date or a time is such a text, and its parts are read
(`reads_fullDate`, `reads_time`); a second sixty is not (`reads_second`).
-/
import Mathlib.Tactic.IntervalCases
import TypeSchema.Calendar.Time
import TypeSchema.Proofs.TextForm.Shape

namespace TypeSchema.TextForm

open Regex Expression Numeral

/-- The preferred order of the parts of a date. -/
def fullDate : Expression := inTurn [year 4, separator, month, separator, day]

theorem dates_eq : dates = fullDate :: dates.tail := rfl

/-- The preferred order of the parts of a date, and a time. -/
def fullDateTime : Expression := inTurn [fullDate, among ['T', ' '], time]

theorem dateTimes_eq : dateTimes = fullDateTime :: dateTimes.tail := rfl

/-- The part of a time behind its minute. -/
def seconds : Expression := maybe (grouped (inTurn [plain ':', second, fraction]))

/-! ## Two digits -/

/-- A number with two digits. -/
def twoDigits (n : Nat) : List Char := padLeft 2 (digits n)

theorem twoDigits_eq {n : Nat} (hn : n < 100) :
    twoDigits n = [Nat.digitChar (n / 10), Nat.digitChar (n % 10)] := by
  have all : ∀ n < 100, twoDigits n = [Nat.digitChar (n / 10), Nat.digitChar (n % 10)] := by
    decide +kernel
  exact all n hn

theorem isDigit_digitChar {k : Nat} (hk : k < 10) : (Nat.digitChar k).isDigit := by
  simpa [Nat.isDigit_digitChar] using hk

theorem isDecimal_of_mem_padLeft {w n : Nat} {d : Char} (h : d ∈ padLeft w (digits n)) :
    IsDecimal d := .of_isDigit (isDigit_of_mem_padLeft h)

theorem isDigit_of_mem_twoDigits {n : Nat} : ∀ d ∈ twoDigits n, d.isDigit :=
  fun _ => isDigit_of_mem_padLeft

theorem isDecimal_of_mem_twoDigits {n : Nat} : ∀ d ∈ twoDigits n, IsDecimal d :=
  fun _ => isDecimal_of_mem_padLeft

section Parts

variable {f : Flags} (hf : f.unicode) {n : Nat} {cs : List Char} {c : Captures}
include hf

theorem reads_between_digitChar {a b k : Nat} (hb : b < 10) (hk : k < 10) :
    (between (Nat.digitChar a) (Nat.digitChar b)).Reads f [Nat.digitChar k] [] ↔
      (Nat.digitChar a).toNat ≤ 48 + k ∧ k ≤ b := by
  rw [reads_between_iff hf (toNat_lt_of_isDigit (isDigit_digitChar hb))]
  simp [char_le_iff, Nat.toNat_digitChar_of_lt_ten hb, Nat.toNat_digitChar_of_lt_ten hk]

omit hf in
theorem reads_pair {a b : Expression} {x y : Char} (ha : a.Reads f [x] [])
    (hb : b.Reads f [y] []) : (Expression.sequence a b).Reads f [x, y] [] :=
  ⟨[x], [y], [], [], ha, hb, rfl, rfl⟩

theorem reads_digitChar {k : Nat} (hk : k < 10) : digit.Reads f [Nat.digitChar k] [] :=
  (reads_digit hf).mpr ⟨_, .of_isDigit (isDigit_digitChar hk), rfl, rfl⟩

theorem reads_month (h1 : 1 ≤ n) (h12 : n ≤ 12) :
    month.Reads f (twoDigits n) [("month", twoDigits n)] := by
  refine ⟨[], ?_, rfl⟩
  rw [twoDigits_eq (by omega)]
  by_cases h : n < 10
  · rw [Nat.div_eq_of_lt h, Nat.mod_eq_of_lt h]
    exact .inl (reads_pair (reads_maybe.mpr (.inr reads_plain))
      ((reads_between_digitChar hf (a := 1) (b := 9) (by decide) h).mpr
        ⟨by simpa [Nat.digitChar] using by omega, by omega⟩))
  · rw [show n / 10 = 1 by omega]
    exact .inr (reads_pair reads_plain
      ((reads_between_digitChar hf (a := 0) (b := 2) (by decide) (by omega)).mpr
        ⟨by simp [Nat.digitChar], by omega⟩))

theorem reads_day (h1 : 1 ≤ n) (h31 : n ≤ 31) :
    day.Reads f (twoDigits n) [("day", twoDigits n)] := by
  refine ⟨[], ?_, rfl⟩
  rw [twoDigits_eq (by omega), reads_oneOf (by simp)]
  simp only [List.exists_mem_cons_iff, List.not_mem_nil, false_and, exists_false, or_false]
  by_cases h : n < 10
  · rw [Nat.div_eq_of_lt h, Nat.mod_eq_of_lt h]
    exact .inl (reads_pair (reads_maybe.mpr (.inr reads_plain))
      ((reads_between_digitChar hf (a := 1) (b := 9) (by decide) h).mpr
        ⟨by simpa [Nat.digitChar] using by omega, by omega⟩))
  · by_cases h' : n < 30
    · refine .inr (.inl (reads_pair (reads_among hf ?_) (reads_digitChar hf (by omega))))
      obtain h | h : n / 10 = 1 ∨ n / 10 = 2 := by omega
      · simp [h, Nat.digitChar]
      · simp [h, Nat.digitChar]
    · rw [show n / 10 = 3 by omega]
      refine .inr (.inr (reads_pair reads_plain (reads_among hf ?_)))
      obtain h | h : n % 10 = 0 ∨ n % 10 = 1 := by omega
      · simp [h, Nat.digitChar]
      · simp [h, Nat.digitChar]

theorem reads_hour (h24 : n < 24) : hour.Reads f (twoDigits n) [("hour", twoDigits n)] := by
  refine ⟨[], ?_, rfl⟩
  rw [twoDigits_eq (by omega)]
  by_cases h : n < 20
  · refine .inl (reads_pair (reads_maybe.mpr (.inr (reads_among hf ?_)))
      (reads_digitChar hf (by omega)))
    obtain h | h : n / 10 = 0 ∨ n / 10 = 1 := by omega
    · simp [h, Nat.digitChar]
    · simp [h, Nat.digitChar]
  · rw [show n / 10 = 2 by omega]
    exact .inr (reads_pair reads_plain
      ((reads_between_digitChar hf (a := 0) (b := 3) (by decide) (by omega)).mpr
        ⟨by simp [Nat.digitChar], by omega⟩))

/-- A number of two digits is a minute exactly if it is below sixty. -/
theorem reads_sixty {name : String} (hn : n < 100) :
    (remembered name (.sequence (between '0' '5') digit)).Reads f (twoDigits n) c ↔
      n < 60 ∧ c = [(name, twoDigits n)] := by
  have tens : (between '0' '5').Reads f [Nat.digitChar (n / 10)] [] ↔ n < 60 := by
    have := reads_between_digitChar hf (a := 0) (b := 5) (k := n / 10) (by decide) (by omega)
    refine this.trans ⟨fun h => by omega, fun h => ⟨by simp [Nat.digitChar], by omega⟩⟩
  constructor
  · rintro ⟨inner, ⟨xs, ys, first, rest, hx, hy, hcs, rfl⟩, rfl⟩
    obtain ⟨d, hd, rfl, rfl⟩ := (reads_between_iff hf (by decide)).mp hx
    obtain ⟨d', -, rfl, rfl⟩ := (reads_digit hf).mp hy
    rw [twoDigits_eq hn] at hcs
    obtain ⟨rfl, -⟩ := List.cons.inj hcs
    exact ⟨tens.mp hx, rfl⟩
  · rintro ⟨h60, rfl⟩
    refine ⟨[], ?_, rfl⟩
    rw [twoDigits_eq hn]
    exact reads_pair (tens.mpr h60) (reads_digitChar hf (by omega))

theorem reads_minute (hn : n < 60) : minute.Reads f (twoDigits n) [("minute", twoDigits n)] :=
  (reads_sixty hf (by omega)).mpr ⟨hn, rfl⟩

theorem reads_second (hn : n < 100) :
    second.Reads f (twoDigits n) c ↔ n < 60 ∧ c = [("second", twoDigits n)] := reads_sixty hf hn

theorem reads_year {w : Nat} (hw : 0 < w) (hn : n < 10 ^ w) :
    (year w).Reads f (padLeft w (digits n)) [("year", padLeft w (digits n))] := by
  refine ⟨[], (reads_digits hf).mpr ⟨fun _ => isDecimal_of_mem_padLeft, rfl, ?_, ?_⟩, rfl⟩
  · exact (length_padLeft hw hn).ge
  · rintro m hm
    cases hm
    simp [Count.min, length_padLeft hw hn]

/-! ## What groups hold -/

omit hf in
/-- A group over digits holds what it reads. -/
theorem captures_of_remembered {name : String} {e : Expression} (he : ReadsDecimals f e)
    (h : (remembered name e).Reads f cs c) : (∀ d ∈ cs, IsDecimal d) ∧ c = [(name, cs)] := by
  obtain ⟨inner, h, rfl⟩ := h
  obtain ⟨hcs, rfl⟩ := he _ _ h
  exact ⟨hcs, rfl⟩

theorem readsDecimals_month :
    ReadsDecimals f (.either (.sequence (maybe (plain '0')) (between '1' '9'))
      (.sequence (plain '1') (between '0' '2'))) :=
  ((ReadsDecimals.plain hf rfl).maybe.sequence (.between hf rfl rfl)).either
    ((ReadsDecimals.plain hf rfl).sequence (.between hf rfl rfl))

theorem readsDecimals_day :
    ReadsDecimals f (oneOf [.sequence (maybe (plain '0')) (between '1' '9'),
      .sequence (among ['1', '2']) digit, .sequence (plain '3') (among ['0', '1'])]) :=
  ((ReadsDecimals.plain hf rfl).maybe.sequence (.between hf rfl rfl)).either
    (((ReadsDecimals.among hf (by decide)).sequence (.digit hf)).either
      ((ReadsDecimals.plain hf rfl).sequence (.among hf (by decide))))

theorem readsDecimals_hour :
    ReadsDecimals f (.either (.sequence (maybe (among ['0', '1'])) digit)
      (.sequence (plain '2') (between '0' '3'))) :=
  ((ReadsDecimals.among hf (by decide)).maybe.sequence (.digit hf)).either
    ((ReadsDecimals.plain hf rfl).sequence (.between hf rfl rfl))

theorem readsDecimals_sixty : ReadsDecimals f (.sequence (between '0' '5') digit) :=
  (ReadsDecimals.between hf rfl rfl).sequence (.digit hf)

theorem reads_separator (h : separator.Reads f cs c) :
    ∃ s, s ∈ ['-', '/', '.'] ∧ cs = [s] ∧ c = [] :=
  (reads_among_iff hf (by decide)).mp h

omit hf in
theorem not_isDecimal_of_separator {s : Char} (h : s ∈ ['-', '/', '.']) : ¬ IsDecimal s := by
  have all : ['-', '/', '.'].all (fun s => !decide (IsDecimal s)) = true := by decide +kernel
  simpa using List.all_eq_true.mp all s h

omit hf in
theorem not_isDecimal_colon : ¬ IsDecimal ':' := by decide +kernel

omit hf in
theorem not_isDecimal_dot : ¬ IsDecimal '.' := by decide +kernel

/-- A date is cut at its separators. -/
theorem cut_of_reads_fullDate (h : fullDate.Reads f cs c) : ∃ y s m s' d,
    cs = y ++ s :: (m ++ s' :: d) ∧ ¬ IsDecimal s ∧ ¬ IsDecimal s' ∧
    (∀ x ∈ y, IsDecimal x) ∧ (∀ x ∈ m, IsDecimal x) ∧ (∀ x ∈ d, IsDecimal x) ∧
    c = [("day", d), ("month", m), ("year", y)] := by
  obtain ⟨y, _, cy, _, hy, h₁, rfl, rfl⟩ := reads_inTurn_cons.mp h
  obtain ⟨_, _, _, _, hs, h₂, rfl, rfl⟩ := reads_inTurn_cons.mp h₁
  obtain ⟨m, _, cm, _, hm, h₃, rfl, rfl⟩ := reads_inTurn_cons.mp h₂
  obtain ⟨_, d, _, cd, hs', hd, rfl, rfl⟩ := reads_inTurn_cons.mp h₃
  obtain ⟨hydec, rfl⟩ := captures_of_remembered (.digits hf) hy
  obtain ⟨s, hsep, rfl, rfl⟩ := reads_separator hf hs
  obtain ⟨hmdec, rfl⟩ := captures_of_remembered (readsDecimals_month hf) hm
  obtain ⟨s', hsep', rfl, rfl⟩ := reads_separator hf hs'
  obtain ⟨hddec, rfl⟩ := captures_of_remembered (readsDecimals_day hf) hd
  exact ⟨y, s, m, s', d, by simp, not_isDecimal_of_separator hsep,
    not_isDecimal_of_separator hsep', hydec, hmdec, hddec, by simp⟩

/-- What stands behind the minute of a time. -/
theorem cut_of_reads_seconds (h : seconds.Reads f cs c) :
    (cs = [] ∧ c = []) ∨ ∃ s, (∀ x ∈ s, IsDecimal x) ∧ second.Reads f s [("second", s)] ∧
      ((cs = ':' :: s ∧ c = [("second", s)]) ∨
        ∃ x, cs = ':' :: (s ++ '.' :: x) ∧ c = [("fraction", x), ("second", s)]) := by
  rcases reads_maybe.mp h with h | h
  · exact .inl h
  · right
    obtain ⟨_, _, _, _, hcolon, h₁, rfl, rfl⟩ := reads_inTurn_cons.mp h
    obtain ⟨s, _, cs', _, hs, h₂, rfl, rfl⟩ := reads_inTurn_cons.mp h₁
    obtain ⟨rfl, rfl⟩ := (reads_plain_iff hf (by decide)).mp hcolon
    obtain ⟨hdec, rfl⟩ := captures_of_remembered (readsDecimals_sixty hf) hs
    refine ⟨s, hdec, hs, ?_⟩
    rcases reads_maybe.mp h₂ with ⟨rfl, rfl⟩ | h₃
    · exact .inl ⟨by simp, by simp⟩
    · obtain ⟨_, x, _, cx, hdot, hx, rfl, rfl⟩ := reads_inTurn_cons.mp h₃
      obtain ⟨rfl, rfl⟩ := (reads_escaped_iff hf (by decide)).mp hdot
      obtain ⟨-, rfl⟩ := captures_of_remembered (.digits hf) hx
      exact .inr ⟨x, by simp, by simp⟩

/-- A time is cut at its first colon. -/
theorem cut_of_reads_time (h : time.Reads f cs c) : ∃ h m rest cr,
    cs = h ++ ':' :: (m ++ rest) ∧ (∀ x ∈ h, IsDecimal x) ∧ (∀ x ∈ m, IsDecimal x) ∧
    seconds.Reads f rest cr ∧ c = cr ++ [("minute", m), ("hour", h)] := by
  obtain ⟨h', _, _, _, hh, h₁, rfl, rfl⟩ := reads_inTurn_cons.mp h
  obtain ⟨_, _, _, _, hcolon, h₂, rfl, rfl⟩ := reads_inTurn_cons.mp h₁
  obtain ⟨m, rest, _, cr, hm, hrest, rfl, rfl⟩ := reads_inTurn_cons.mp h₂
  obtain ⟨hhdec, rfl⟩ := captures_of_remembered (readsDecimals_hour hf) hh
  obtain ⟨rfl, rfl⟩ := (reads_plain_iff hf (by decide)).mp hcolon
  obtain ⟨hmdec, rfl⟩ := captures_of_remembered (readsDecimals_sixty hf) hm
  exact ⟨h', m, rest, cr, by simp, hhdec, hmdec, hrest, by simp⟩

/-! ## Texts of dates and times -/

/-- The group of a fraction behind its point. -/
def fractionGroup : List Char → Captures
  | [] => []
  | _ :: x => [("fraction", x)]

/-- What stands behind the seconds: nothing, or a point and a fraction. -/
def IsFraction (tail : List Char) : Prop := tail = [] ∨ ∃ x, tail = '.' :: x

variable {Y M D H S tail : List Char}

theorem captures_of_reads_fullDate (hY : ∀ x ∈ Y, IsDecimal x) (hM : ∀ x ∈ M, IsDecimal x)
    (h : fullDate.Reads f (Y ++ '-' :: (M ++ '-' :: D)) c) :
    c = [("day", D), ("month", M), ("year", Y)] := by
  have hyphen : ¬ IsDecimal '-' := not_isDecimal_of_separator (by simp)
  obtain ⟨y, s, m, s', d, hcs, hs, hs', hy, hm, -, rfl⟩ := cut_of_reads_fullDate hf h
  obtain ⟨rfl, -, hrest⟩ := cut_eq hY hy hyphen hs hcs
  obtain ⟨rfl, -, rfl⟩ := cut_eq hM hm hyphen hs' hrest
  rfl

/-- Behind the hour the text is cut at its second colon. -/
theorem captures_of_reads_seconds (hM : ∀ x ∈ M, IsDecimal x) (hS : ∀ x ∈ S, IsDecimal x)
    (htail : IsFraction tail) {m rest : List Char} (hm : ∀ x ∈ m, IsDecimal x)
    (h : seconds.Reads f rest c) (hcs : M ++ ':' :: (S ++ tail) = m ++ rest) :
    m = M ∧ second.Reads f S [("second", S)] ∧ c = fractionGroup tail ++ [("second", S)] := by
  rcases cut_of_reads_seconds hf h with ⟨rfl, rfl⟩ | ⟨s, hs, hsecond, ⟨rfl, rfl⟩ | ⟨x, rfl, rfl⟩⟩
  · exact absurd (hm ':' (by rw [← List.append_nil m, ← hcs]; simp)) not_isDecimal_colon
  · obtain ⟨rfl, -, hrest⟩ := cut_eq hM hm not_isDecimal_colon not_isDecimal_colon hcs
    rcases htail with rfl | ⟨x, rfl⟩
    · obtain rfl : S = s := by simpa using hrest
      exact ⟨rfl, hsecond, rfl⟩
    · exact absurd (hs '.' (by rw [← hrest]; simp)) not_isDecimal_dot
  · obtain ⟨rfl, -, hrest⟩ := cut_eq hM hm not_isDecimal_colon not_isDecimal_colon hcs
    rcases htail with rfl | ⟨x', rfl⟩
    · exact absurd (hS '.' (by rw [← List.append_nil S, hrest]; simp)) not_isDecimal_dot
    · obtain ⟨rfl, -, rfl⟩ := cut_eq hS hs not_isDecimal_dot not_isDecimal_dot hrest
      exact ⟨rfl, hsecond, rfl⟩

theorem captures_of_reads_time (hH : ∀ x ∈ H, IsDecimal x) (hM : ∀ x ∈ M, IsDecimal x)
    (hS : ∀ x ∈ S, IsDecimal x) (htail : IsFraction tail)
    (h : time.Reads f (H ++ ':' :: (M ++ ':' :: (S ++ tail))) c) :
    second.Reads f S [("second", S)] ∧
      c = fractionGroup tail ++ [("second", S), ("minute", M), ("hour", H)] := by
  obtain ⟨h', m, rest, cr, hcs, hh, hm, hrest, rfl⟩ := cut_of_reads_time hf h
  obtain ⟨rfl, -, hcs⟩ := cut_eq hH hh not_isDecimal_colon not_isDecimal_colon hcs
  obtain ⟨rfl, hsecond, rfl⟩ := captures_of_reads_seconds hf hM hS htail hm hrest hcs
  exact ⟨hsecond, by simp⟩

theorem captures_of_reads_fullDateTime (hY : ∀ x ∈ Y, IsDecimal x) (hM : ∀ x ∈ M, IsDecimal x)
    (hD : ∀ x ∈ D, x.isDigit) {T : List Char}
    (h : fullDateTime.Reads f (Y ++ '-' :: (M ++ '-' :: (D ++ 'T' :: T))) c) :
    ∃ ct, time.Reads f T ct ∧ c = ct ++ [("day", D), ("month", M), ("year", Y)] := by
  have hyphen : ¬ IsDecimal '-' := not_isDecimal_of_separator (by simp)
  obtain ⟨xs, _, cd, _, hdate, h₁, hcs, rfl⟩ := reads_inTurn_cons.mp h
  obtain ⟨_, T', _, ct, hamong, htime, rfl, rfl⟩ := reads_inTurn_cons.mp h₁
  obtain ⟨y, s, m, s', d, rfl, hs, hs', hy, hm, hd, rfl⟩ := cut_of_reads_fullDate hf hdate
  obtain ⟨t, ht, rfl, rfl⟩ := reads_among_lt hf hamong
  simp only [List.append_assoc, List.cons_append, List.nil_append] at hcs
  obtain ⟨rfl, -, hcs⟩ := cut_eq hY hy hyphen hs hcs
  obtain ⟨rfl, -, hcs⟩ := cut_eq hM hm hyphen hs' hcs
  rcases mem_or_cut_eq hd (by decide +kernel) hcs.symm with hmem | ⟨rfl, rfl, rfl⟩
  · -- a digit has no case, so it is not read for the letter
    have : t = 'T' ∨ t = ' ' := by simpa using ht (toNat_lt_of_isDigit (hD t hmem))
    rcases this with rfl | rfl
    · exact absurd (hD _ hmem) (by decide)
    · exact absurd (hD _ hmem) (by decide)
  · exact ⟨ct, htime, by simp⟩

/-- The expression reads no colon. -/
def AvoidsColon (f : Flags) (e : Expression) : Prop := ∀ cs c, e.Reads f cs c → ':' ∉ cs

omit hf in
theorem AvoidsColon.remembered {name : String} {e : Expression} (he : ReadsDecimals f e) :
    AvoidsColon f (remembered name e) := by
  rintro cs _ ⟨inner, h, -⟩ hmem
  exact not_isDecimal_colon ((he _ _ h).1 _ hmem)

omit hf in
theorem AvoidsColon.inTurn {es : List Expression} (hes : ∀ e ∈ es, AvoidsColon f e) :
    AvoidsColon f (inTurn es) := by
  induction es with
  | nil =>
      rintro _ _ ⟨rfl, -⟩
      simp
  | cons e es ih =>
      intro cs c h
      obtain ⟨xs, ys, _, _, hx, hy, rfl, -⟩ := reads_inTurn_cons.mp h
      have hxs := hes e List.mem_cons_self _ _ hx
      have hys := ih (fun e he => hes e (List.mem_cons_of_mem _ he)) _ _ hy
      exact fun hmem => (List.mem_append.mp hmem).elim hxs hys

theorem avoidsColon_of_mem_dates {e : Expression} (he : e ∈ dates) : AvoidsColon f e := by
  have hyear : ∀ w, AvoidsColon f (year w) := fun w => .remembered (.digits hf)
  have hmonth : AvoidsColon f month := .remembered (readsDecimals_month hf)
  have hday : AvoidsColon f day := .remembered (readsDecimals_day hf)
  have hseparator : AvoidsColon f separator := by
    intro cs c h
    obtain ⟨s, hs, rfl, -⟩ := reads_separator hf h
    simpa using fun hc : ':' = s => absurd (hc ▸ hs) (by decide)
  simp only [dates, List.mem_cons, List.not_mem_nil, or_false] at he
  rcases he with rfl | rfl | rfl | rfl
  · exact .inTurn (by simp [hyear, hmonth, hday, hseparator])
  · exact .inTurn (by simp [hyear, hmonth, hday, hseparator])
  · exact .inTurn (by simp [hyear, hmonth, hday, hseparator])
  · exact .inTurn (by simp [hyear, hmonth, hday, hseparator])

/-- Whatever the order of the date, the second is the one behind the second
colon. -/
theorem reads_second_of_reads_dateTimes {e : Expression} (he : e ∈ dateTimes)
    {pre : List Char} (hpre : ':' ∉ pre) (hM : ∀ x ∈ M, IsDecimal x) (hS : ∀ x ∈ S, IsDecimal x)
    (htail : IsFraction tail) (h : e.Reads f (pre ++ ':' :: (M ++ ':' :: (S ++ tail))) c) :
    second.Reads f S [("second", S)] := by
  obtain ⟨date, hdate, rfl⟩ := List.mem_map.mp he
  obtain ⟨xs, _, _, _, hxs, h₁, hcs, -⟩ := reads_inTurn_cons.mp h
  obtain ⟨_, T, _, ct, hamong, htime, rfl, -⟩ := reads_inTurn_cons.mp h₁
  obtain ⟨t, ht, rfl, rfl⟩ := reads_among_lt hf hamong
  obtain ⟨h', m, rest, cr, rfl, hh, hm, hrest, -⟩ := cut_of_reads_time hf htime
  have hcolon : ':' ∉ xs ++ t :: h' := by
    have hdate := avoidsColon_of_mem_dates hf hdate _ _ hxs
    have ht : ':' ≠ t := fun hc => absurd (ht (hc ▸ by decide)) (hc ▸ by decide)
    have hh : ':' ∉ h' := fun hmem => not_isDecimal_colon (hh _ hmem)
    simp [hdate, ht, hh]
  have hcs : pre ++ ':' :: (M ++ ':' :: (S ++ tail)) = (xs ++ t :: h') ++ ':' :: (m ++ rest) := by
    simpa using hcs
  obtain ⟨-, -, hcs⟩ := cut_eq (P := (· ≠ ':')) (fun d hd => ne_of_mem_of_not_mem hd hpre)
    (fun d hd => ne_of_mem_of_not_mem hd hcolon) (by simp) (by simp) hcs
  exact (captures_of_reads_seconds hf hM hS htail hm hrest hcs).2.1

/-! ## What is written is read -/

theorem reads_fullDate {y m d : Nat} (hy : y < 10000) (hm : 1 ≤ m ∧ m ≤ 12)
    (hd : 1 ≤ d ∧ d ≤ 31) : ∃ c,
    fullDate.Reads f (padLeft 4 (digits y) ++ '-' :: (twoDigits m ++ '-' :: twoDigits d)) c := by
  have hyphen : separator.Reads f ['-'] [] := reads_among hf (by simp)
  exact ⟨_, reads_inTurn (reads_year hf (w := 4) (by decide) hy) (reads_inTurn hyphen
    (reads_inTurn (reads_month hf hm.1 hm.2) (reads_inTurn hyphen (reads_day hf hd.1 hd.2))))⟩

theorem reads_fraction {k n : Nat} (hk : 0 < k) (hk9 : k ≤ 9) (hn : n < 10 ^ k) :
    ∃ c, fraction.Reads f ('.' :: padLeft k (digits n)) c := by
  refine ⟨_, reads_maybe.mpr (.inr (reads_inTurn_char reads_escaped
    ⟨[], (reads_digits hf).mpr ⟨fun _ => isDecimal_of_mem_padLeft, rfl, ?_, ?_⟩, rfl⟩))⟩
  · exact (length_padLeft hk hn).ge.trans' hk
  · rintro m hm
    cases hm
    show (padLeft k (digits n)).length ≤ 1 + (9 - 1)
    rwa [length_padLeft hk hn]

theorem reads_time {h m s : Nat} (hh : h < 24) (hm : m < 60) (hs : s < 60)
    (htail : ∃ c, fraction.Reads f tail c) : ∃ c, time.Reads f
      (twoDigits h ++ ':' :: (twoDigits m ++ ':' :: (twoDigits s ++ tail))) c := by
  obtain ⟨c, hc⟩ := htail
  have hsecond : second.Reads f (twoDigits s) [("second", twoDigits s)] :=
    (reads_second hf (by omega)).mpr ⟨hs, rfl⟩
  have hinner : (inTurn [second, fraction]).Reads f (twoDigits s ++ tail) _ :=
    reads_inTurn hsecond hc
  have hseconds : seconds.Reads f (':' :: (twoDigits s ++ tail)) _ :=
    reads_maybe.mpr (.inr (reads_inTurn_char reads_plain hinner))
  exact ⟨_, reads_inTurn (reads_hour hf hh) (reads_inTurn_char reads_plain
    (reads_inTurn (reads_minute hf hm) hseconds))⟩

theorem reads_fullDateTime {xs ys : List Char} (hxs : ∃ c, fullDate.Reads f xs c)
    (hys : ∃ c, time.Reads f ys c) : ∃ c, fullDateTime.Reads f (xs ++ 'T' :: ys) c := by
  obtain ⟨c, hxs⟩ := hxs
  obtain ⟨c', hys⟩ := hys
  exact ⟨_, reads_inTurn hxs (reads_inTurn_char (reads_among hf (by simp)) hys)⟩

end Parts

end TypeSchema.TextForm
