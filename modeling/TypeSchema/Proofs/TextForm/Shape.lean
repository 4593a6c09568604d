/-
# Shapes — what the parts of a form read

One lemma for each way of putting expressions together, in both directions
where that is possible under any flags.  Characters without case are read as
they stand, whether case is ignored or not (`reads_plain_iff`,
`reads_among_iff`, `reads_between_iff`); letters are read at least
(`reads_plain`, `reads_among`).

`ReadsDecimals` collects the expressions that read decimal digits only and
capture nothing: the parts of dates and times between their separators.  Such
a run of digits ends where the text says so (`cut_eq`), and that fixes what
the parts of a date or a time hold.
-/
import TypeSchema.Proofs.Regex.Case
import TypeSchema.Proofs.Regex.Language
import TypeSchema.Proofs.Text.Numeral
import TypeSchema.TextForm.Shape

namespace TypeSchema.TextForm

open Regex Expression
open Unicode (Ranges)

/-! ## Decimal digits -/

/-- A decimal digit of some script. -/
def IsDecimal (d : Char) : Prop := Unicode.digits.has d.toNat

instance (d : Char) : Decidable (IsDecimal d) := inferInstanceAs (Decidable (_ = true))

theorem char_le_iff {x y : Char} : x ≤ y ↔ x.toNat ≤ y.toNat := by
  simp [Char.le_def, UInt32.le_iff_toNat_le]

theorem isDigit_iff {d : Char} : d.isDigit ↔ 0x30 ≤ d.toNat ∧ d.toNat ≤ 0x39 := by
  simp [Char.isDigit, UInt32.le_iff_toNat_le]

theorem isDecimal_iff_isDigit {d : Char} (hd : d.toNat < 0x80) : IsDecimal d ↔ d.isDigit := by
  have ascii : ∀ n < 0x80, Unicode.digits.has n = (0x30 ≤ n && n ≤ 0x39) := by decide +kernel
  rw [IsDecimal, ascii _ hd, isDigit_iff]
  simp

theorem toNat_lt_of_isDigit {d : Char} (h : d.isDigit) : d.toNat < caseStart :=
  (isDigit_iff.mp h).2.trans_lt (by decide)

theorem IsDecimal.of_isDigit {d : Char} (h : d.isDigit) : IsDecimal d :=
  (isDecimal_iff_isDigit ((toNat_lt_of_isDigit h).trans (by decide))).mpr h

/-! ## Cuts -/

section Cuts

variable {P : Char → Prop} {xs xs' ys ys' : List Char} {a b : Char}

/-- A text is cut behind characters of one sort and in front of one that is
not.  Where it can be cut behind such characters in front of `a` too, `a` is
one of those before the first cut, unless the cuts are the same. -/
theorem mem_or_cut_eq (hxs : ∀ d ∈ xs, P d) (hb : ¬ P b) (h : xs ++ a :: ys = xs' ++ b :: ys') :
    a ∈ xs' ∨ (xs = xs' ∧ a = b ∧ ys = ys') := by
  rcases List.append_eq_append_iff.mp h with ⟨zs, hxs', hzs⟩ | ⟨zs, hxs', hzs⟩
  · cases zs with
    | nil =>
        obtain ⟨rfl, rfl⟩ := List.cons.inj hzs
        exact .inr ⟨by simpa using hxs'.symm, rfl, rfl⟩
    | cons z zs =>
        obtain ⟨rfl, -⟩ := List.cons.inj hzs
        exact .inl (by simp [hxs'])
  · cases zs with
    | nil =>
        obtain ⟨rfl, rfl⟩ := List.cons.inj hzs
        exact .inr ⟨by simpa using hxs', rfl, rfl⟩
    | cons z zs =>
        obtain ⟨rfl, -⟩ := List.cons.inj hzs
        exact absurd (hxs _ (by simp [hxs'])) hb

/-- Two texts that start with characters of one sort and go on with one that
is not start with the same characters. -/
theorem cut_eq (hxs : ∀ d ∈ xs, P d) (hxs' : ∀ d ∈ xs', P d) (ha : ¬ P a) (hb : ¬ P b)
    (h : xs ++ a :: ys = xs' ++ b :: ys') : xs = xs' ∧ a = b ∧ ys = ys' :=
  (mem_or_cut_eq hxs hb h).resolve_left fun hmem => ha (hxs' a hmem)

end Cuts

/-! ## Ways of putting expressions together -/

section Combinators

variable {f : Flags} {e : Expression} {es : List Expression} {cs : List Char} {c : Captures}

theorem reads_inTurn_cons :
    (inTurn (e :: es)).Reads f cs c ↔ ∃ xs ys first rest,
      e.Reads f xs first ∧ (inTurn es).Reads f ys rest ∧ cs = xs ++ ys ∧ c = rest ++ first := by
  cases es with
  | nil =>
      constructor
      · exact fun h => ⟨cs, [], c, [], h, ⟨rfl, rfl⟩, by simp, by simp⟩
      · rintro ⟨xs, _, first, _, h, ⟨rfl, rfl⟩, rfl, rfl⟩
        simpa [inTurn] using h
  | cons e' es => rfl

theorem reads_inTurn {xs ys : List Char} {first rest : Captures} (h : e.Reads f xs first)
    (h' : (inTurn es).Reads f ys rest) : (inTurn (e :: es)).Reads f (xs ++ ys) (rest ++ first) :=
  reads_inTurn_cons.mpr ⟨xs, ys, first, rest, h, h', rfl, rfl⟩

theorem reads_inTurn_append {es' : List Expression} :
    (inTurn (es ++ es')).Reads f cs c ↔ ∃ xs ys first rest,
      (inTurn es).Reads f xs first ∧ (inTurn es').Reads f ys rest ∧ cs = xs ++ ys ∧
        c = rest ++ first := by
  induction es generalizing cs c with
  | nil =>
      constructor
      · exact fun h => ⟨[], cs, [], c, ⟨rfl, rfl⟩, h, rfl, by simp⟩
      · rintro ⟨_, ys, _, rest, ⟨rfl, rfl⟩, h, rfl, rfl⟩
        simpa using h
  | cons e es ih =>
      rw [List.cons_append, reads_inTurn_cons]
      simp only [ih, reads_inTurn_cons ]
      constructor
      · rintro ⟨xs, _, first, _, h, ⟨ys, zs, second, rest, h', h'', rfl, rfl⟩, rfl, rfl⟩
        exact ⟨xs ++ ys, zs, second ++ first, rest, ⟨xs, ys, first, second, h, h', rfl, rfl⟩, h'',
          by simp, by simp⟩
      · rintro ⟨_, zs, _, rest, ⟨xs, ys, first, second, h, h', rfl, rfl⟩, h'', rfl, rfl⟩
        exact ⟨xs, ys ++ zs, first, rest ++ second, h, ⟨ys, zs, second, rest, h', h'', rfl, rfl⟩,
          by simp, by simp⟩

/-- What is in front and captures nothing. -/
theorem reads_inTurn_front {xs : List Char} (h : e.Reads f xs [])
    (h' : (inTurn es).Reads f cs c) : (inTurn (e :: es)).Reads f (xs ++ cs) c := by
  simpa using reads_inTurn h h'

/-- A character in front. -/
theorem reads_inTurn_char {a : Char} (h : e.Reads f [a] [])
    (h' : (inTurn es).Reads f cs c) : (inTurn (e :: es)).Reads f (a :: cs) c :=
  reads_inTurn_front h h'

/-- An expression that reads nothing of the text can be passed over. -/
theorem reads_inTurn_skip (h : e.Reads f [] []) (h' : (inTurn es).Reads f cs c) :
    (inTurn (e :: es)).Reads f cs c := reads_inTurn_front h h'

theorem reads_oneOf (hne : es ≠ []) :
    (oneOf es).Reads f cs c ↔ ∃ e ∈ es, e.Reads f cs c := by
  induction es with
  | nil => contradiction
  | cons e es ih =>
      cases es with
      | nil => simp [oneOf]
      | cons e' es =>
          rw [List.exists_mem_cons_iff, ← ih (by simp)]
          rfl

theorem reads_maybe : (maybe e).Reads f cs c ↔ (cs = [] ∧ c = []) ∨ e.Reads f cs c := by
  constructor
  · rintro ⟨n, -, hmax, h⟩
    have hn := hmax 1 rfl
    cases n with
    | zero => exact .inl h
    | succ n =>
        obtain rfl : n = 0 := by simpa [Count.min] using hn
        obtain ⟨xs, _, first, _, h, ⟨rfl, rfl⟩, rfl, rfl⟩ := h
        exact .inr (by simpa using h)
  · rintro (⟨rfl, rfl⟩ | h)
    · exact ⟨0, Nat.zero_le _, fun _ _ => Nat.zero_le _, rfl, rfl⟩
    · refine ⟨1, Nat.zero_le _, fun m hm => ?_, cs, [], c, [], h, ⟨rfl, rfl⟩, by simp, by simp⟩
      cases hm
      simp [Count.min]

/-- A repeated set of characters reads as many of them as counted. -/
theorem reads_times {rs : Ranges} {count : Count} (one : ∀ cs c, e.Reads f cs c ↔ ReadOne rs cs c) :
    (times e count).Reads f cs c ↔ (∀ d ∈ cs, rs.has d.toNat) ∧ c = [] ∧ count.min ≤ cs.length ∧
      ∀ m, count.max = some m → cs.length ≤ count.min + (m - count.min) := by
  have rounds : ∀ n cs c, ReadTimes (e.Reads f) n cs c ↔
      (∀ d ∈ cs, rs.has d.toNat) ∧ c = [] ∧ cs.length = n := by
    intro n
    induction n with
    | zero =>
        intro cs c
        constructor
        · rintro ⟨rfl, rfl⟩
          simp
        · rintro ⟨-, rfl, hn⟩
          exact ⟨List.length_eq_zero_iff.mp hn, rfl⟩
    | succ n ih =>
        intro cs c
        constructor
        · rintro ⟨xs, ys, first, rest, h, h', rfl, rfl⟩
          obtain ⟨d, hd, rfl, rfl⟩ := (one _ _).mp h
          obtain ⟨hall, rfl, rfl⟩ := (ih _ _).mp h'
          exact ⟨by simpa using ⟨hd, hall⟩, rfl, by simp⟩
        · rintro ⟨hall, rfl, hn⟩
          cases cs with
          | nil => cases hn
          | cons d ds =>
              have hds := (ih ds []).mpr ⟨fun x hx => hall x (List.mem_cons_of_mem _ hx), rfl,
                Nat.succ.inj hn⟩
              exact ⟨[d], ds, [], [], (one _ _).mpr ⟨d, hall d List.mem_cons_self, rfl, rfl⟩, hds,
                rfl, rfl⟩
  constructor
  · rintro ⟨n, hmin, hmax, h⟩
    obtain ⟨hall, rfl, rfl⟩ := (rounds _ _ _).mp h
    exact ⟨hall, rfl, hmin, hmax⟩
  · rintro ⟨hall, rfl, hmin, hmax⟩
    exact ⟨cs.length, hmin, hmax, (rounds _ _ _).mpr ⟨hall, rfl, rfl⟩⟩

end Combinators

/-! ## Characters -/

section Characters

variable {f : Flags} {cs : List Char} {c : Captures}

theorem reads_plain {a : Char} : (plain a).Reads f [a] [] := ⟨a, has_charSet, rfl, rfl⟩

theorem reads_escaped {a : Char} : (escaped a).Reads f [a] [] := ⟨a, has_charSet, rfl, rfl⟩

theorem reads_verbatim {s : String} : (verbatim s).Reads f s.toList [] := by
  unfold verbatim
  induction s.toList with
  | nil => exact ⟨rfl, rfl⟩
  | cons a as ih =>
      refine reads_inTurn_char ?_ ih
      by_cases ha : isMeta a
      · simpa [ha] using reads_escaped
      · simpa [ha] using reads_plain

theorem reads_word {s : String} : (word s).Reads f s.toList [] := by
  unfold word
  induction s.toList with
  | nil => exact ⟨rfl, rfl⟩
  | cons a as ih => exact reads_inTurn_char reads_plain ih

/-- A word reads as many characters as it has, whatever their case. -/
theorem length_of_reads_word {s : String} (h : (word s).Reads f cs c) :
    cs.length = s.toList.length := by
  have letters : ∀ (as : List Char) cs c,
      (inTurn (as.map plain)).Reads f cs c → cs.length = as.length := by
    intro as
    induction as with
    | nil =>
        rintro _ _ ⟨rfl, rfl⟩
        rfl
    | cons a as ih =>
        intro cs c h
        obtain ⟨_, ys, _, rest, ⟨d, -, rfl, rfl⟩, htail, rfl, rfl⟩ := reads_inTurn_cons.mp h
        simp [ih _ _ htail]
  exact letters _ _ _ h

variable (hf : f.unicode)
include hf

theorem reads_plain_iff {a : Char} (ha : a.toNat < caseStart) :
    (plain a).Reads f cs c ↔ cs = [a] ∧ c = [] := by
  constructor
  · rintro ⟨d, hd, rfl, rfl⟩
    rw [has_charSet_of_caseless hf ha] at hd
    exact ⟨by rw [Char.toNat_inj.mp hd], rfl⟩
  · rintro ⟨rfl, rfl⟩
    exact reads_plain

theorem reads_escaped_iff {a : Char} (ha : a.toNat < caseStart) :
    (escaped a).Reads f cs c ↔ cs = [a] ∧ c = [] := reads_plain_iff hf ha

theorem readOne_digit : digit.Reads f cs c ↔ ReadOne Unicode.digits cs c := by
  simp [digit, Reads, shorthandSet, Shorthand.ranges, hf]

theorem reads_digit : digit.Reads f cs c ↔ ∃ d, IsDecimal d ∧ cs = [d] ∧ c = [] := readOne_digit hf

/-- Some counted digits. -/
theorem reads_digits {count : Count} :
    (times digit count).Reads f cs c ↔ (∀ d ∈ cs, IsDecimal d) ∧ c = [] ∧
      count.min ≤ cs.length ∧
      ∀ m, count.max = some m → cs.length ≤ count.min + (m - count.min) :=
  reads_times fun _ _ => readOne_digit hf

omit hf in
theorem allRanges_chars (hf : f.unicode) {as : List Char} :
    ClassItem.allRanges f (as.map fun a => .char a .plain) =
      some (as.map fun a => (a.toNat, a.toNat)) := by
  induction as with
  | nil => rfl
  | cons a as ih => simp [ClassItem.allRanges, ClassItem.ranges, hf, ih]

omit hf in
theorem has_singletons {as : List Char} {d : Char} :
    Ranges.has (as.map fun a => (a.toNat, a.toNat)) d.toNat ↔ d ∈ as := by
  constructor
  · intro h
    obtain ⟨r, hr, hle, hge⟩ := Ranges.has_iff.mp h
    obtain ⟨a, ha, rfl⟩ := List.mem_map.mp hr
    exact Char.toNat_inj.mp (Nat.le_antisymm hge hle) ▸ ha
  · exact fun h => Ranges.has_iff.mpr ⟨_, List.mem_map.mpr ⟨d, h, rfl⟩, Nat.le_refl _, Nat.le_refl _⟩

theorem readOne_among {as : List Char} :
    (among as).Reads f cs c ↔
      ReadOne (foldAndNegate f false (as.map fun a => (a.toNat, a.toNat))) cs c := by
  simp [among, Reads, ClassSet.ranges, allRanges_chars hf]

theorem reads_among {as : List Char} {a : Char} (ha : a ∈ as) : (among as).Reads f [a] [] :=
  (readOne_among hf).mpr ⟨a, has_foldAndNegate_of_has (has_singletons.mpr ha), rfl, rfl⟩

/-- What is read is among the characters unless it has case. -/
theorem reads_among_lt {as : List Char} (h : (among as).Reads f cs c) :
    ∃ d, (d.toNat < caseStart → d ∈ as) ∧ cs = [d] ∧ c = [] := by
  obtain ⟨d, hd, rfl, rfl⟩ := (readOne_among hf).mp h
  exact ⟨d, fun hlt => has_singletons.mp ((has_foldAndNegate_of_lt hf hlt).mp hd), rfl, rfl⟩

theorem reads_among_iff {as : List Char} (has : as.all (·.toNat < caseStart)) :
    (among as).Reads f cs c ↔ ∃ d ∈ as, cs = [d] ∧ c = [] := by
  have caseless : Caseless (as.map fun a => (a.toNat, a.toNat)) := by
    intro r hr
    obtain ⟨a, ha, rfl⟩ := List.mem_map.mp hr
    exact of_decide_eq_true (List.all_eq_true.mp has a ha)
  rw [readOne_among hf]
  refine exists_congr fun d => and_congr_left fun _ => ?_
  rw [has_foldAndNegate_of_caseless hf caseless, has_singletons]

theorem reads_between_iff {lo hi : Char} (hhi : hi.toNat < caseStart) :
    (between lo hi).Reads f cs c ↔ ∃ d, (lo ≤ d ∧ d ≤ hi) ∧ cs = [d] ∧ c = [] := by
  have caseless : Caseless [(lo.toNat, hi.toNat)] := by simpa [Caseless] using hhi
  have one : (between lo hi).Reads f cs c ↔
      ReadOne (foldAndNegate f false [(lo.toNat, hi.toNat)]) cs c := by
    simp [between, Reads, ClassSet.ranges, ClassItem.allRanges, ClassItem.ranges, hf]
  rw [one]
  refine exists_congr fun d => and_congr_left fun _ => ?_
  rw [has_foldAndNegate_of_caseless hf caseless]
  simp [Ranges.has, char_le_iff]

end Characters

/-! ## Runs of digits -/

/-- The expression reads decimal digits only, and captures nothing. -/
def ReadsDecimals (f : Flags) (e : Expression) : Prop :=
  ∀ cs c, e.Reads f cs c → (∀ d ∈ cs, IsDecimal d) ∧ c = []

namespace ReadsDecimals

variable {f : Flags} {a b : Expression}

theorem sequence (ha : ReadsDecimals f a) (hb : ReadsDecimals f b) :
    ReadsDecimals f (.sequence a b) := by
  rintro _ _ ⟨xs, ys, first, rest, h, h', rfl, rfl⟩
  obtain ⟨hxs, rfl⟩ := ha _ _ h
  obtain ⟨hys, rfl⟩ := hb _ _ h'
  exact ⟨fun d hd => (List.mem_append.mp hd).elim (hxs d) (hys d), rfl⟩

theorem either (ha : ReadsDecimals f a) (hb : ReadsDecimals f b) :
    ReadsDecimals f (.either a b) := fun cs c h => h.elim (ha cs c) (hb cs c)

theorem maybe (ha : ReadsDecimals f a) : ReadsDecimals f (maybe a) := by
  intro cs c h
  rcases reads_maybe.mp h with ⟨rfl, rfl⟩ | h
  · simp
  · exact ha _ _ h

variable (hf : f.unicode)
include hf

theorem digit : ReadsDecimals f digit := by
  intro cs c h
  obtain ⟨d, hd, rfl, rfl⟩ := (reads_digit hf).mp h
  simpa using hd

theorem digits {count : Count} : ReadsDecimals f (times TextForm.digit count) := by
  intro cs c h
  obtain ⟨hall, rfl, -⟩ := (reads_digits hf).mp h
  exact ⟨hall, rfl⟩

theorem plain {x : Char} (hx : x.isDigit) : ReadsDecimals f (plain x) := by
  intro cs c h
  obtain ⟨rfl, rfl⟩ := (reads_plain_iff hf (toNat_lt_of_isDigit hx)).mp h
  simpa using IsDecimal.of_isDigit hx

theorem among {xs : List Char} (hxs : xs.all Char.isDigit) : ReadsDecimals f (among xs) := by
  intro cs c h
  have hdigit := List.all_eq_true.mp hxs
  have hlt : xs.all (·.toNat < caseStart) :=
    List.all_eq_true.mpr fun x hx => decide_eq_true (toNat_lt_of_isDigit (hdigit x hx))
  obtain ⟨d, hd, rfl, rfl⟩ := (reads_among_iff hf hlt).mp h
  simpa using IsDecimal.of_isDigit (hdigit d hd)

theorem between {lo hi : Char} (hlo : lo.isDigit) (hhi : hi.isDigit) :
    ReadsDecimals f (between lo hi) := by
  intro cs c h
  obtain ⟨d, ⟨hlod, hdhi⟩, rfl, rfl⟩ := (reads_between_iff hf (toNat_lt_of_isDigit hhi)).mp h
  have : d.isDigit := isDigit_iff.mpr
    ⟨(isDigit_iff.mp hlo).1.trans (char_le_iff.mp hlod),
      (char_le_iff.mp hdhi).trans (isDigit_iff.mp hhi).2⟩
  simpa using IsDecimal.of_isDigit this

end ReadsDecimals

end TypeSchema.TextForm
