/-
# Clock — times are read from their texts unless they are leap seconds

A time is written with the second after its own if it is a leap second.  So
its text is also that of the time with the second carried over
(`Time.text_carried`), as long as this second is below sixty, and that time is
what the text is read as (`readsAs_time`, `readsAs_dateTime`).  A text with
second sixty has no form at all, whatever the order of the date
(`not_isMatch_time`, `not_isMatch_dateTime`).

So exactly the times that are no leap seconds are read from their texts
(`ValueType.readText_writeText_clock`).
-/
import TypeSchema.Proofs.TextForm.RoundTrip

namespace TypeSchema

open Regex Expression Numeral TextForm Steps

/-! ## Leap seconds -/

namespace Time

variable {t : Time}

/-- The second that is written for a time. -/
def writtenSecond (t : Time) : Nat := t.second + t.nano / nanosPerSecond

theorem writtenSecond_le : t.writtenSecond ≤ 60 := by
  obtain ⟨-, -, hs, hn⟩ := t.isReal
  have : t.nano / nanosPerSecond ≤ 1 :=
    Nat.le_of_lt_succ ((Nat.div_lt_iff_lt_mul (by decide)).mpr (by omega))
  unfold writtenSecond
  omega

theorem writtenSecond_of_nano_lt (h : t.nano < nanosPerSecond) : t.writtenSecond = t.second := by
  simp [writtenSecond, Nat.div_eq_of_lt h]

/-- The time without a leap second that is written in the same way. -/
def carried (t : Time) (h : t.writtenSecond < 60) : Time :=
  ⟨t.hour, t.minute, t.writtenSecond, t.nano % nanosPerSecond, t.isReal.1, t.isReal.2.1, h,
    (Nat.mod_lt _ (by decide)).trans (by decide)⟩

theorem nano_carried_lt {h : t.writtenSecond < 60} : (t.carried h).nano < nanosPerSecond :=
  Nat.mod_lt _ (by decide)

theorem text_carried {h : t.writtenSecond < 60} : (t.carried h).text = t.text := by
  have hsecond := writtenSecond_of_nano_lt (nano_carried_lt (h := h))
  rw [writtenSecond] at hsecond
  rw [Time.text, hsecond, Nat.mod_eq_of_lt nano_carried_lt]
  rfl

theorem carried_eq_iff {h : t.writtenSecond < 60} : t.carried h = t ↔ t.nano < nanosPerSecond := by
  constructor
  · intro heq
    rw [← heq]
    exact nano_carried_lt
  · intro hn
    have hs := writtenSecond_of_nano_lt hn
    cases t
    simp_all [carried, Nat.mod_eq_of_lt]

theorem not_nano_lt (h : ¬ t.writtenSecond < 60) : ¬ t.nano < nanosPerSecond := fun hn =>
  h ((writtenSecond_of_nano_lt hn).trans_lt t.isReal.2.2.1)

end Time

namespace TextForm

/-! ## Forms of times -/

section Forms

variable {form : TextForm} {forms : List TextForm} {century : Int}

theorem isFraction_fractionText {n : Nat} (hn : n < nanosPerSecond) :
    IsFraction (Time.fractionText n).toList := by
  rcases Time.toList_fractionText hn with ⟨-, h⟩ | ⟨k, m, -, -, -, -, h⟩
  · exact .inl h
  · exact .inr ⟨_, h⟩

theorem reads_fractionText {f : Flags} (hf : f.unicode) {n : Nat} (hn : n < nanosPerSecond) :
    ∃ c, fraction.Reads f (Time.fractionText n).toList c := by
  rcases Time.toList_fractionText hn with ⟨-, h⟩ | ⟨k, m, hk, hk9, hm, -, h⟩
  · rw [h]
    exact ⟨[], reads_maybe.mpr (.inl ⟨rfl, rfl⟩)⟩
  · rw [h]
    exact reads_fraction hf hk hk9 hm

/-- A time that is no leap second is read under any flags. -/
theorem reads_timeText {f : Flags} (hf : f.unicode) {t : Time} (hn : t.nano < nanosPerSecond) :
    ∃ c, time.Reads f t.text.toList c := by
  rw [Time.toList_text, ← Time.writtenSecond, Time.writtenSecond_of_nano_lt hn]
  exact reads_time hf t.isReal.1 t.isReal.2.1 t.isReal.2.2.1
    (reads_fractionText hf (Nat.mod_lt _ (by decide)))

/-- The groups of a time that is no leap second. -/
def timeGroups (t : Time) : Captures :=
  fractionGroup (Time.fractionText t.nano).toList ++
    [("second", twoDigits t.second), ("minute", twoDigits t.minute), ("hour", twoDigits t.hour)]

theorem captures_of_reads_timeText {f : Flags} (hf : f.unicode) {t : Time}
    (hn : t.nano < nanosPerSecond) {c : Captures} (h : time.Reads f t.text.toList c) :
    c = timeGroups t := by
  have hsecond := Time.writtenSecond_of_nano_lt hn
  rw [Time.writtenSecond] at hsecond
  rw [Time.toList_text, hsecond, Nat.mod_eq_of_lt hn] at h
  exact (captures_of_reads_time hf isDecimal_of_mem_twoDigits isDecimal_of_mem_twoDigits
    isDecimal_of_mem_twoDigits (isFraction_fractionText hn) h).2

/-- The time is read from its groups, whatever other groups there are. -/
theorem readTime_timeGroups {t : Time} (hn : t.nano < nanosPerSecond) {rest : Captures}
    (hrest : rest.get? "fraction" = none) : readTime (timeGroups t ++ rest) = .ok t := by
  rcases Time.toList_fractionText hn with ⟨hzero, htail⟩ | ⟨k, m, hk, hk9, hm, hvalue, htail⟩
  · have hgroups : timeGroups t = [("second", twoDigits t.second),
        ("minute", twoDigits t.minute), ("hour", twoDigits t.hour)] := by
      simp [timeGroups, htail, fractionGroup]
    rw [hgroups]
    refine readTime_eq_ok hn (by simp [Captures.get?]) (by simp [Captures.get?])
      (by simp [Captures.get?]) ?_
    rw [hzero]
    exact nanosPart_of_none (by simpa [Captures.get?] using hrest)
  · have hgroups : timeGroups t = [("fraction", padLeft k (digits m)),
        ("second", twoDigits t.second), ("minute", twoDigits t.minute),
        ("hour", twoDigits t.hour)] := by
      simp [timeGroups, htail, fractionGroup]
    rw [hgroups]
    refine readTime_eq_ok hn (by simp [Captures.get?]) (by simp [Captures.get?])
      (by simp [Captures.get?]) ?_
    rw [nanosPart_eq_ok hk hk9 hm (by simp [Captures.get?]), hvalue]

/-- The date is read from its groups behind those of a time. -/
theorem readDate_timeGroups {t : Time} {d : Date} (hyear : d.hasFourDigitYear) :
    readDate century (timeGroups t ++ [("day", twoDigits d.day), ("month", twoDigits d.month),
      ("year", padLeft 4 (digits d.year.natAbs))]) = .ok d := by
  unfold timeGroups
  cases (Time.fractionText t.nano).toList with
  | nil =>
      exact readDate_eq_ok hyear (by simp [fractionGroup, Captures.get?])
        (by simp [fractionGroup, Captures.get?]) (by simp [fractionGroup, Captures.get?])
  | cons point x =>
      exact readDate_eq_ok hyear (by simp [fractionGroup, Captures.get?])
        (by simp [fractionGroup, Captures.get?]) (by simp [fractionGroup, Captures.get?])

theorem readsAs_time (hform : ofExpression time false .time = .ok form) {t : Time}
    (hn : t.nano < nanosPerSecond) : ReadsAs century [form] t.text (.time t) := by
  refine .head ((isMatch_iff (by rfl) hform).mpr (reads_timeText rfl hn)) fun c hc => ?_
  obtain rfl := captures_of_reads_timeText rfl hn (reads_of_captures? (by rfl) hform hc rfl)
  have hread : readTime (timeGroups t ++ []) = .ok t := readTime_timeGroups hn rfl
  rw [List.append_nil] at hread
  rw [ofExpression_reader hform, Reader.read, hread]
  rfl

theorem not_isMatch_time (hform : ofExpression time false .time = .ok form) {t : Time}
    (h60 : ¬ t.writtenSecond < 60) : ¬ form.isMatch t.text := by
  rw [isMatch_iff (by rfl) hform, Time.toList_text]
  rintro ⟨c, hc⟩
  have hsecond := (captures_of_reads_time rfl isDecimal_of_mem_twoDigits
    isDecimal_of_mem_twoDigits isDecimal_of_mem_twoDigits
    (isFraction_fractionText (Nat.mod_lt _ (by decide))) hc).1
  have hlt := t.writtenSecond_le
  exact h60 ((reads_second rfl (hlt.trans_lt (by decide))).mp hsecond).1

/-! ## Forms of dates with times -/

theorem isLocal_of_mem_dateTimes {e : Expression} (he : e ∈ dateTimes) : e.isLocal := by
  have all : dateTimes.all isLocal = true := by rfl
  exact List.all_eq_true.mp all e he

theorem DateTime.toList_text {dt : DateTime} (h : dt.date.hasFourDigitYear) :
    dt.text.toList = padLeft 4 (digits dt.date.year.natAbs) ++ '-' :: (twoDigits dt.date.month ++
      '-' :: (twoDigits dt.date.day ++ 'T' :: dt.time.text.toList)) := by
  simp [DateTime.text, Date.toList_text h]

theorem readsAs_dateTime
    (hforms : dateTimes.mapM (ofExpression · true .dateTime) = .ok forms) {dt : DateTime}
    (hyear : dt.date.hasFourDigitYear) (hn : dt.time.nano < nanosPerSecond) :
    ReadsAs century forms dt.text (.dateTime dt) := by
  rw [dateTimes_eq, List.mapM_cons] at hforms
  obtain ⟨form, hform, hforms⟩ := except_bind_eq_ok.mp hforms
  obtain ⟨rest, -, hforms⟩ := except_bind_eq_ok.mp hforms
  cases hforms
  refine .head ((isMatch_iff (by rfl) hform).mpr ?_) fun c hc => ?_
  · have := reads_fullDateTime (f := Flags.initial true) rfl (reads_date rfl hyear)
      (reads_timeText rfl hn)
    rw [DateTime.toList_text hyear]
    simpa only [List.append_assoc, List.cons_append] using this
  · have hreads := reads_of_captures? (by rfl) hform hc rfl
    rw [DateTime.toList_text hyear] at hreads
    obtain ⟨ct, htime, hc'⟩ := captures_of_reads_fullDateTime rfl
      (fun _ => isDecimal_of_mem_padLeft) isDecimal_of_mem_twoDigits
      isDigit_of_mem_twoDigits hreads
    rw [captures_of_reads_timeText rfl hn htime] at hc'
    rw [ofExpression_reader hform, Reader.read, hc', readDate_timeGroups hyear,
      readTime_timeGroups hn (by simp [Captures.get?])]
    rfl

/-- With second sixty there is no form, in whatever order a date may be
written. -/
theorem not_isMatch_dateTime
    (hforms : dateTimes.mapM (ofExpression · true .dateTime) = .ok forms) {dt : DateTime}
    (hyear : dt.date.hasFourDigitYear) (h60 : ¬ dt.time.writtenSecond < 60) :
    ∀ form ∈ forms, ¬ form.isMatch dt.text := by
  intro form hmem
  obtain ⟨e, he, hform⟩ := exists_of_mem_mapM hforms hmem
  rw [isMatch_iff (isLocal_of_mem_dateTimes he) hform]
  rintro ⟨c, hc⟩
  have htext : dt.text.toList = (padLeft 4 (digits dt.date.year.natAbs) ++
      '-' :: (twoDigits dt.date.month ++ '-' :: (twoDigits dt.date.day ++
        'T' :: twoDigits dt.time.hour))) ++ ':' :: (twoDigits dt.time.minute ++
          ':' :: (twoDigits dt.time.writtenSecond ++
            (Time.fractionText (dt.time.nano % nanosPerSecond)).toList)) := by
    rw [DateTime.toList_text hyear, Time.toList_text]
    simp [Time.writtenSecond]
  have hcolon : ∀ w n, ':' ∉ padLeft w (digits n) := fun w n hmem =>
    absurd (isDigit_of_mem_padLeft hmem) (by decide)
  rw [htext] at hc
  have hsecond := reads_second_of_reads_dateTimes rfl he (by simp [twoDigits, hcolon])
    isDecimal_of_mem_twoDigits isDecimal_of_mem_twoDigits
    (isFraction_fractionText (Nat.mod_lt _ (by decide))) hc
  have hlt := dt.time.writtenSecond_le
  exact h60 ((reads_second rfl (hlt.trans_lt (by decide))).mp hsecond).1

end Forms

end TextForm

/-! ## Times and dates with times -/

theorem Kind.exists_textForms_time : ∃ form,
    TextForm.ofExpression TextForm.time false .time = .ok form ∧
      Kind.time.textForms = .ok [form] := by
  obtain ⟨form, hform⟩ :=
    exists_ofExpression (e := TextForm.time) (by rfl) (by decide +kernel) false .time
  exact ⟨form, hform, by rw [Kind.textForms, hform]; rfl⟩

theorem Kind.exists_textForms_dateTime : ∃ forms,
    TextForm.dateTimes.mapM (TextForm.ofExpression · true .dateTime) = .ok forms ∧
      Kind.dateTime.textForms = .ok forms := by
  have light : TextForm.dateTimes.all (fun e => isSimple e &&
      decide (weight e + 4 * stateBytes ≤ maxBytes)) = true := by decide +kernel
  obtain ⟨forms, hforms⟩ := exists_mapM (g := (TextForm.ofExpression · true .dateTime))
    fun e he => by
      have he := List.all_eq_true.mp light e he
      rw [Bool.and_eq_true, decide_eq_true_eq] at he
      exact exists_ofExpression he.1 he.2 true .dateTime
  exact ⟨forms, hforms, by rw [Kind.textForms, hforms]⟩

namespace ValueType

variable (files : FileTree) (century : Int) (arity : Arity)

theorem readText_writeText_time (t : Time) :
    ∃ forms, (mk .time arity none).textForms = .ok forms ∧
      (mk .time arity none).writeText files (.time t) = .ok t.text ∧
      ((∃ form ∈ forms, form.isMatch t.text) ↔ t.writtenSecond < 60) ∧
      ((mk .time arity none).readText files century t.text = .ok (.time t) ↔
        t.nano < nanosPerSecond) := by
  obtain ⟨form, hform, hforms⟩ := Kind.exists_textForms_time
  have hforms : (mk .time arity none).textForms = .ok [form] := hforms
  have haccept : ∀ t, (mk .time arity none).validateItem files (.time t) = .ok () :=
    fun t => rfl
  refine ⟨[form], hforms, writeText_eq_ok.mpr ⟨haccept t, rfl⟩,
    readText_eq_ok_iff_of_form hforms (fun h60 => ?_) fun h60 => ?_⟩
  · refine ⟨.time (t.carried h60), ?_, haccept _, ?_⟩
    · rw [← Time.text_carried (h := h60)]
      exact readsAs_time hform Time.nano_carried_lt
    · rw [Value.time.injEq, Time.carried_eq_iff]
  · exact ⟨Time.not_nano_lt h60, by simpa using not_isMatch_time hform h60⟩

theorem readText_writeText_dateTime (dt : DateTime) (hyear : dt.date.hasFourDigitYear) :
    ∃ forms, (mk .dateTime arity none).textForms = .ok forms ∧
      (mk .dateTime arity none).writeText files (.dateTime dt) = .ok dt.text ∧
      ((∃ form ∈ forms, form.isMatch dt.text) ↔ dt.time.writtenSecond < 60) ∧
      ((mk .dateTime arity none).readText files century dt.text = .ok (.dateTime dt) ↔
        dt.time.nano < nanosPerSecond) := by
  obtain ⟨forms, hall, hforms⟩ := Kind.exists_textForms_dateTime
  have hforms : (mk .dateTime arity none).textForms = .ok forms := hforms
  have haccept : ∀ dt, (mk .dateTime arity none).validateItem files (.dateTime dt) = .ok () :=
    fun dt => rfl
  have htext : Kind.textOf files .dateTime (.dateTime dt) = .ok dt.text := by
    rw [Kind.textOf, checkYear, if_pos hyear]
    rfl
  refine ⟨forms, hforms, writeText_eq_ok.mpr ⟨haccept dt, htext⟩,
    readText_eq_ok_iff_of_form hforms (fun h60 => ?_) fun h60 => ?_⟩
  · refine ⟨.dateTime ⟨dt.date, dt.time.carried h60⟩, ?_, haccept _, ?_⟩
    · have hcarried : DateTime.text ⟨dt.date, dt.time.carried h60⟩ = dt.text := by
        rw [DateTime.text, Time.text_carried, DateTime.text]
      rw [← hcarried]
      exact readsAs_dateTime hall hyear (Time.nano_carried_lt (h := h60))
    · rw [← Time.carried_eq_iff (h := h60)]
      cases dt
      simp
  · exact ⟨Time.not_nano_lt h60, not_isMatch_dateTime hall hyear h60⟩

/-- Every time, and every date with a time, has a text.  There is a form for it
exactly if the second that is written is below sixty, and it is read back
exactly if it is no leap second. -/
theorem readText_writeText_clock :
    (∀ t : Time, ∃ forms, (mk .time arity none).textForms = .ok forms ∧
      (mk .time arity none).writeText files (.time t) = .ok t.text ∧
      ((∃ form ∈ forms, form.isMatch t.text) ↔ t.writtenSecond < 60) ∧
      ((mk .time arity none).readText files century t.text = .ok (.time t) ↔
        t.nano < nanosPerSecond)) ∧
    ∀ dt : DateTime, dt.date.hasFourDigitYear →
      ∃ forms, (mk .dateTime arity none).textForms = .ok forms ∧
        (mk .dateTime arity none).writeText files (.dateTime dt) = .ok dt.text ∧
        ((∃ form ∈ forms, form.isMatch dt.text) ↔ dt.time.writtenSecond < 60) ∧
        ((mk .dateTime arity none).readText files century dt.text = .ok (.dateTime dt) ↔
          dt.time.nano < nanosPerSecond) :=
  ⟨readText_writeText_time files century arity, readText_writeText_dateTime files century arity⟩

/-- An instance: the leap second at the end of a year has a text without a
form. -/
theorem readText_writeText_clock_leap :
    ∃ dt : DateTime, dt.date.hasFourDigitYear ∧ dt.text = "2016-12-31T23:59:60.500" ∧
      ∃ forms, (mk .dateTime .single none).textForms = .ok forms ∧
        (mk .dateTime .single none).writeText .empty (.dateTime dt) = .ok dt.text ∧
        (¬ ∃ form ∈ forms, form.isMatch dt.text) ∧
        (mk .dateTime .single none).readText .empty 2000 dt.text ≠ .ok (.dateTime dt) := by
  let dt : DateTime := ⟨⟨2016, 12, 31, by decide⟩, ⟨23, 59, 59, 1500000000, by decide⟩⟩
  obtain ⟨forms, hforms, hw, hmatch, hread⟩ :=
    (readText_writeText_clock .empty 2000 .single).2 dt (by decide)
  refine ⟨dt, by decide, by decide +kernel, forms, hforms, hw, ?_, ?_⟩
  · rw [hmatch]
    decide
  · rw [Ne, hread]
    decide

end ValueType

end TypeSchema
