/-
# Canonical texts — what is read is written, and read from that again

Times and dates with times can be written in many ways.  Whichever of them is
read, the value is no leap second, for a fraction has at most nine digits
(`nano_lt_of_readTime`), and its year has four digits if the years of the
current century have (`hasFourDigitYear_of_readDate`).  So it has one text,
which is read as this value and no other (`ValueType.readText_canonical`).
-/
import TypeSchema.Proofs.TextForm.Date

namespace TypeSchema

open Regex Expression Numeral TextForm Steps

namespace TextForm

variable {e : Expression} {ignoreCase : Bool} {text : List Char} {caps : Captures}
  {century : Int} {d : Date}

/-- The year that is read is the one of the group, in the century if this has
two digits. -/
theorem year_of_readDate (h : readDate century caps = .ok d) :
    ∃ y, intPart max31 caps "year" = .ok y ∧ d.year = y + centuryOf century caps := by
  obtain ⟨y, hy, h⟩ := except_bind_eq_ok.mp h
  obtain ⟨m, -, h⟩ := except_bind_eq_ok.mp h
  obtain ⟨n, -, h⟩ := except_bind_eq_ok.mp h
  refine ⟨y, hy, ?_⟩
  split at h
  · rename_i d' hd
    cases h
    unfold Date.ofParts? at hd
    split at hd
    · cases hd
      rfl
    · cases hd
  · cases h

/-- The years of the century that begins with this year have four digits. -/
def IsFourDigitCentury (century : Int) : Prop := 0 ≤ century ∧ century + 99 ≤ 9999

instance (century : Int) : Decidable (IsFourDigitCentury century) :=
  inferInstanceAs (Decidable (_ ∧ _))

/-- Whatever the expression, the year of a date that is read has four digits. -/
theorem hasFourDigitYear_of_readDate (he : e ∈ partExpressions)
    (hreads : e.Reads (Flags.initial ignoreCase) text caps) (hcentury : IsFourDigitCentury century)
    (h : readDate century caps = .ok d) : d.hasFourDigitYear := by
  obtain ⟨y, hy, hyear⟩ := year_of_readDate h
  obtain ⟨hlo, hhi⟩ := hcentury
  simp only [Date.hasFourDigitYear, Bool.and_eq_true, decide_eq_true_eq, hyear]
  cases hget : caps.get? "year" with
  | none =>
      rw [intPart_of_none hget] at hy
      cases hy
      simp [centuryOf, hget]
  | some ds =>
      have hne : ds ≠ [] := by
        rintro rfl
        simp only [intPart, hget] at hy
        cases hy
      have hdecimal := isDecimal_of_mem_group he hreads hget (by simp)
      obtain ⟨hd, -, rfl⟩ := (intPart_eq_ok_iff hget hne fun c hc => (hdecimal c hc).2).mp hy
      have hvalue := ofDigitChars_lt hd
      have hadded : centuryOf century caps = if ds.length = 2 then century else 0 := by
        simp only [centuryOf, hget, byteLength_of_isDigit hd]
      rw [hadded]
      by_cases h2 : ds.length = 2
      · rw [h2] at hvalue
        rw [if_pos h2]
        omega
      · have h4 : ds.length ≤ 4 := length_le_groupWidth he hreads hget rfl
        have := hvalue.trans_le (Nat.pow_le_pow_right (by decide) h4)
        rw [if_neg h2]
        omega

end TextForm

namespace ValueType

variable {files : FileTree} {century : Int} {arity : Arity} {text : String} {v : Value}

theorem exists_of_readText_time (h : (mk .time arity none).readText files century text = .ok v) :
    ∃ t : Time, v = .time t ∧ t.nano < nanosPerSecond := by
  obtain ⟨form, hform, hforms⟩ := Kind.exists_textForms_time
  have hforms : (mk .time arity none).textForms = .ok [form] := hforms
  obtain ⟨⟨_, caps, hfirst, hread⟩, -⟩ := (readText_eq_ok_iff hforms).mp h
  obtain rfl := List.mem_singleton.mp (mem_of_firstMatch hfirst).1
  rw [ofExpression_reader hform, Reader.read, map_eq_ok] at hread
  obtain ⟨t, ht, rfl⟩ := hread
  exact ⟨t, rfl, nano_lt_of_readTime ht⟩

theorem exists_of_readText_dateTime
    (h : (mk .dateTime arity none).readText files century text = .ok v) :
    ∃ dt : DateTime, v = .dateTime dt ∧ dt.time.nano < nanosPerSecond ∧
      (IsFourDigitCentury century → dt.date.hasFourDigitYear) := by
  obtain ⟨forms, hall, hforms⟩ := Kind.exists_textForms_dateTime
  have hforms : (mk .dateTime arity none).textForms = .ok forms := hforms
  obtain ⟨⟨form, caps, hfirst, hread⟩, -⟩ := (readText_eq_ok_iff hforms).mp h
  obtain ⟨hmem, hc⟩ := mem_of_firstMatch hfirst
  obtain ⟨e, he, hform⟩ := exists_of_mem_mapM hall hmem
  have hreads := reads_of_captures? (isLocal_of_mem_dateTimes he) hform hc rfl
  rw [ofExpression_reader hform, Reader.read] at hread
  obtain ⟨d, hd, hread⟩ := except_bind_eq_ok.mp hread
  obtain ⟨t, ht, hread⟩ := except_bind_eq_ok.mp hread
  cases hread
  exact ⟨⟨d, t⟩, rfl, nano_lt_of_readTime ht, fun hcentury =>
    hasFourDigitYear_of_readDate (by simp [partExpressions, he]) hreads hcentury
      (orRefused_eq_ok.mp hd)⟩

/-- What is written for a date with a time is read back, unless this is a leap
second. -/
theorem readText_of_writeText_dateTime {dt : DateTime} {c : String}
    (hn : dt.time.nano < nanosPerSecond)
    (h : (mk .dateTime arity none).writeText files (.dateTime dt) = .ok c) :
    (mk .dateTime arity none).readText files century c = .ok (.dateTime dt) := by
  obtain ⟨-, htext⟩ := writeText_eq_ok.mp h
  obtain ⟨_, hyear, htext⟩ := except_bind_eq_ok.mp htext
  cases htext
  obtain ⟨_, -, -, -, hread⟩ :=
    readText_writeText_dateTime files century arity dt (hasFourDigitYear_of_checkYear hyear)
  exact hread.mpr hn

/-- Whatever text of a time or of a date with a time is read, what is written
for its value is read as this value again, and from then on nothing changes.
Every value that is read is written, if the years of the century have four
digits. -/
theorem readText_canonical {kind : Kind} (hkind : kind = .time ∨ kind = .dateTime)
    (h : (mk kind arity none).readText files century text = .ok v) :
    (∀ c, (mk kind arity none).writeText files v = .ok c →
      (mk kind arity none).readText files century c = .ok v ∧
        ∀ w, (mk kind arity none).readText files century c = .ok w →
          (mk kind arity none).writeText files w = .ok c) ∧
    ((kind = .dateTime → IsFourDigitCentury century) →
      ∃ c, (mk kind arity none).writeText files v = .ok c) := by
  have fixed : ∀ {c}, (mk kind arity none).writeText files v = .ok c →
      (mk kind arity none).readText files century c = .ok v →
        (mk kind arity none).readText files century c = .ok v ∧
          ∀ w, (mk kind arity none).readText files century c = .ok w →
            (mk kind arity none).writeText files w = .ok c := by
    intro c hwrite hread
    refine ⟨hread, fun w hw => ?_⟩
    rw [hread] at hw
    cases hw
    exact hwrite
  rcases hkind with rfl | rfl
  · obtain ⟨t, rfl, hn⟩ := exists_of_readText_time h
    obtain ⟨_, -, hwrite, -, hread⟩ := readText_writeText_time files century arity t
    refine ⟨fun c hc => fixed hc ?_, fun _ => ⟨_, hwrite⟩⟩
    rw [hwrite] at hc
    cases hc
    exact hread.mpr hn
  · obtain ⟨dt, rfl, hn, hyear⟩ := exists_of_readText_dateTime h
    refine ⟨fun c hc => fixed hc (readText_of_writeText_dateTime hn hc), fun hcentury => ?_⟩
    obtain ⟨_, -, hwrite, -⟩ :=
      readText_writeText_dateTime files century arity dt (hyear (hcentury rfl))
    exact ⟨_, hwrite⟩

/-- A text with a month and a day of one digit. -/
theorem readText_short : (mk .dateTime .single none).readText .empty 2000 "2016-1-2T03:04:05" =
    .ok (.dateTime ⟨⟨2016, 1, 2, by decide⟩, ⟨3, 4, 5, 0, by decide⟩⟩) := by
  obtain ⟨forms, hall, hforms⟩ := Kind.exists_textForms_dateTime
  refine readText_eq_ok (t := mk .dateTime .single none) hforms ?_ rfl
  rw [dateTimes_eq, List.mapM_cons] at hall
  obtain ⟨form, hform, hall⟩ := except_bind_eq_ok.mp hall
  obtain ⟨rest, -, hall⟩ := except_bind_eq_ok.mp hall
  cases hall
  have hgroups : (Date.Groups.mk "2016".toList ['1'] ['2']).Spell "2016-1-2" :=
    ⟨List.all_eq_true.mp rfl, '-', by decide, '-', by decide, by decide⟩
  have hdate : ∃ c, fullDate.Reads (Flags.initial true) "2016-1-2".toList c :=
    ⟨_, (reads_expression_iff (o := ⟨true, 4⟩) rfl hgroups).mpr ⟨by decide, rfl⟩⟩
  have htime : ∃ c, time.Reads (Flags.initial true)
      (twoDigits 3 ++ ':' :: (twoDigits 4 ++ ':' :: (twoDigits 5 ++ []))) c :=
    reads_time rfl (by decide) (by decide) (by decide) ⟨_, reads_maybe.mpr (.inl ⟨rfl, rfl⟩)⟩
  refine .head ((isMatch_iff (by rfl) hform).mpr (reads_fullDateTime rfl hdate htime)) fun c hc => ?_
  have hreads : fullDateTime.Reads (Flags.initial true) ("2016".toList ++ '-' :: (['1'] ++ '-' ::
      (['2'] ++ 'T' :: (twoDigits 3 ++ ':' :: (twoDigits 4 ++ ':' :: (twoDigits 5 ++ [])))))) c :=
    reads_of_captures? (by rfl) hform hc rfl
  have decimal : ∀ {ds : List Char}, ds.all (·.isDigit) → ∀ d ∈ ds, IsDecimal d :=
    fun h d hd => .of_isDigit (List.all_eq_true.mp h d hd)
  obtain ⟨ct, htime, rfl⟩ := captures_of_reads_fullDateTime rfl (decimal rfl) (decimal rfl)
    (List.all_eq_true.mp rfl) hreads
  obtain ⟨-, rfl⟩ := captures_of_reads_time rfl isDecimal_of_mem_twoDigits
    isDecimal_of_mem_twoDigits isDecimal_of_mem_twoDigits (.inl rfl) htime
  rw [ofExpression_reader hform]
  rfl

/-- An instance: short months and days are written with two digits. -/
theorem readText_canonical_short :
    ∃ dt : DateTime, dt.text = "2016-01-02T03:04:05" ∧
      (mk .dateTime .single none).readText .empty 2000 "2016-1-2T03:04:05" = .ok (.dateTime dt) ∧
      (mk .dateTime .single none).writeText .empty (.dateTime dt) = .ok "2016-01-02T03:04:05" ∧
      (mk .dateTime .single none).readText .empty 2000 "2016-01-02T03:04:05" =
        .ok (.dateTime dt) := by
  let dt : DateTime := ⟨⟨2016, 1, 2, by decide⟩, ⟨3, 4, 5, 0, by decide⟩⟩
  have htext : dt.text = "2016-01-02T03:04:05" := by decide +kernel
  have hread : (mk .dateTime .single none).readText .empty 2000 "2016-1-2T03:04:05" =
      .ok (.dateTime dt) := readText_short
  obtain ⟨hfixed, hwrites⟩ := readText_canonical (.inr rfl) hread
  obtain ⟨c, hc⟩ := hwrites fun _ => by decide
  have hwritten : (mk .dateTime .single none).writeText .empty (.dateTime dt) = .ok dt.text := rfl
  rw [htext] at hwritten
  exact ⟨dt, htext, hread, hwritten, (hfixed _ hwritten).1⟩

end ValueType

end TypeSchema
