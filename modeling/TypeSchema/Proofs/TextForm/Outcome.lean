/-
# Outcome — a text is read, or refused, or cut within a digit

The groups of dates, times and durations hold few characters
(`length_le_groupWidth`), so the numbers read from them stay far below the
limits of the integers they are calculated with (`inRange_of_captures?`).

But they hold digits of any script, and a fraction is cut behind its ninth
byte.  A run breaks off exactly where everything in front of a fraction is
read and this cut would go through a character (`Reader.read_eq_brokenOff`);
such a text has a digit that is not ASCII.  In all other cases there is a
value, or the text is refused (`ValueType.readText_outcome`).
-/
import TypeSchema.Proofs.TextForm.Clock

namespace TypeSchema

open Regex Expression Numeral TextForm Steps

namespace TextForm

/-! ## What groups hold -/

section Groups

/-- The expressions of the forms whose values are read from their parts. -/
def partExpressions : List Expression := dates ++ time :: duration :: dateTimes

/-- The greatest number of characters that a group holds; only days have as
many as they like. -/
def groupWidth (name : String) : Option Nat :=
  if name = "days" then none
  else if name = "fraction" then some 9
  else if name = "year" then some 4
  else some 2

variable {e : Expression} {ignoreCase : Bool} {text ds : List Char} {caps : Captures}
  {name : String}

theorem isLocal_of_mem_partExpressions (he : e ∈ partExpressions) : e.isLocal := by
  have all : partExpressions.all isLocal = true := by rfl
  exact List.all_eq_true.mp all e he

theorem length_le_groupWidth (he : e ∈ partExpressions)
    (h : e.Reads (Flags.initial ignoreCase) text caps) (hget : caps.get? name = some ds) {n : Nat}
    (hn : groupWidth name = some n) : ds.length ≤ n := by
  have all : partExpressions.all (fun e => (e.namedGroups (Flags.initial ignoreCase)).all
      fun (name, _, body) => (groupWidth name).all fun n => body.longest.any (· ≤ n)) = true := by
    cases ignoreCase <;> rfl
  obtain ⟨-, f, body, hbody, c, hreads⟩ := h.group (Captures.mem_of_get? hget)
  have hwidth := List.all_eq_true.mp (List.all_eq_true.mp all e he) _ hbody
  simp only [hn, Option.all_some] at hwidth
  obtain ⟨m, hm, hle⟩ := (Option.any_eq_true _ _).mp hwidth
  exact (hreads.length_le hm).trans (of_decide_eq_true hle)

/-- Some digits. -/
def isDigits : Expression → Bool
  | .repeated (.shorthand .digit false) _ false => true
  | _ => false

theorem eq_times_digit_of_isDigits (h : isDigits e) : ∃ count, e = times digit count := by
  unfold isDigits at h
  split at h
  · exact ⟨_, rfl⟩
  · cases h

/-- A year and a fraction hold decimal digits of the text. -/
theorem isDecimal_of_mem_group (he : e ∈ partExpressions)
    (h : e.Reads (Flags.initial ignoreCase) text caps) (hget : caps.get? name = some ds)
    (hname : name ∈ ["year", "fraction"]) : ∀ d ∈ ds, d ∈ text ∧ IsDecimal d := by
  have all : partExpressions.all (fun e => (e.namedGroups (Flags.initial ignoreCase)).all
      fun (name, f, body) => name ∉ ["year", "fraction"] || f.unicode && isDigits body) = true := by
    cases ignoreCase <;> rfl
  obtain ⟨hin, f, body, hbody, c, hreads⟩ := h.group (Captures.mem_of_get? hget)
  have hdigits := List.all_eq_true.mp (List.all_eq_true.mp all e he) _ hbody
  simp only [hname, not_true_eq_false, decide_false, Bool.false_or, Bool.and_eq_true] at hdigits
  obtain ⟨count, rfl⟩ := eq_times_digit_of_isDigits hdigits.2
  exact fun d hd => ⟨hin.subset hd, ((reads_digits hdigits.1).mp hreads).1 d hd⟩

end Groups

/-! ## Integers -/

/-- A number that a signed integer with this greatest value holds. -/
def Fits (limit : Nat) (i : Int) : Prop := -(limit + 1 : Int) ≤ i ∧ i ≤ limit

/-- The integers that are calculated with: a year in its century, and the
seconds of hours and minutes. -/
structure InRange (century : Int) (caps : Captures) : Prop where
  year : ∀ y, intPart max31 caps "year" = .ok y → Fits max31 (y + centuryOf century caps)
  seconds : ∀ h m s, intPart max63 caps "hours" = .ok h → intPart max63 caps "minutes" = .ok m →
    intPart max63 caps "seconds" = .ok s →
      Fits max63 (h * 3600) ∧ Fits max63 (m * 60) ∧ Fits max63 (h * 3600 + m * 60) ∧
        Fits max63 (h * 3600 + m * 60 + s)

/-- A part of few characters is a number of few digits. -/
theorem natAbs_lt_of_intPart {caps : Captures} {name : String} {l n : Nat} {i : Int}
    (hwidth : ∀ ds, caps.get? name = some ds → ds.length ≤ n) (h : intPart l caps name = .ok i) :
    i.natAbs < 10 ^ n := by
  unfold intPart at h
  split at h
  · cases h
    simp
  · rename_i ds hget
    have hread : readInt l ds = .ok i := by
      cases hread : readInt l ds with
      | ok j =>
          rw [hread] at h
          cases h
          rfl
      | error f =>
          rw [hread] at h
          cases h
    exact (readInt_natAbs_lt hread).trans_le (Nat.pow_le_pow_right (by decide) (hwidth ds hget))

theorem inRange_of_length_le {century : Int} {caps : Captures}
    (hcentury : Date.minYear ≤ century ∧ century ≤ Date.maxYear)
    (hwidth : ∀ name n ds, groupWidth name = some n → caps.get? name = some ds → ds.length ≤ n) :
    InRange century caps := by
  have hpart : ∀ {l name n i}, groupWidth name = some n → intPart l caps name = .ok i →
      i.natAbs < 10 ^ n := fun hn => natAbs_lt_of_intPart fun ds => hwidth _ _ ds hn
  constructor
  case year =>
      intro y hy
      have h4 := hpart rfl hy
      unfold Date.minYear Date.maxYear at hcentury
      unfold Fits max31 centuryOf
      split
      · rename_i ds hget
        split
        · rename_i h2
          have hlength : ∀ ds', caps.get? "year" = some ds' → ds'.length ≤ 2 := by
            intro ds' hget'
            rw [hget] at hget'
            cases hget'
            exact length_le_byteLength.trans h2.le
          have := natAbs_lt_of_intPart hlength hy
          omega
        · omega
      · omega
  case seconds =>
      intro h m s hh hm hs
      have h2 := hpart rfl hh
      have m2 := hpart rfl hm
      have s2 := hpart rfl hs
      unfold Fits max63
      omega

/-! ## Runs that break off -/

section Breaks

variable {century : Int} {caps : Captures} {α β : Type}

theorem orRefused_ne_brokenOff {x : Except TextFault α} : orRefused x ≠ .error .brokenOff := by
  cases x with
  | ok a => exact fun h => by cases h
  | error f => exact fun h => by cases h

theorem orRefused_eq_ok {x : Except TextFault α} {a : α} : orRefused x = .ok a ↔ x = .ok a := by
  cases x with
  | ok b => simp [orRefused, Except.mapError]
  | error f => simp [orRefused, Except.mapError]

/-- What breaks off behind something that can only be refused. -/
theorem orRefused_bind_eq_brokenOff {x : Except TextFault α}
    {k : α → Except (Failure TextFault) β} :
    (orRefused x >>= k) = .error .brokenOff ↔ ∃ a, x = .ok a ∧ k a = .error .brokenOff := by
  simp only [except_bind_eq_error, orRefused_ne_brokenOff, orRefused_eq_ok, false_or]

theorem map_eq_brokenOff {x : Except (Failure TextFault) α} {k : α → β} :
    x.map k = .error .brokenOff ↔ x = .error .brokenOff := by
  cases x with
  | ok a => simp [Except.map]
  | error f => simp [Except.map]

/-- The fraction has more than nine bytes, and none of its starts has nine. -/
def CutsWithin (caps : Captures) : Prop :=
  ∃ ds, caps.get? "fraction" = some ds ∧ 9 < byteLength ds ∧ ∀ xs, xs <+: ds → byteLength xs ≠ 9

theorem nanosPart_eq_brokenOff : nanosPart caps = .error .brokenOff ↔ CutsWithin caps := by
  unfold nanosPart CutsWithin
  split
  · rename_i hget
    simp [hget]
  · rename_i ds hget
    simp only [hget, Option.some.injEq, exists_eq_left', ← cutBytes_eq_none_iff]
    split
    · rename_i hcut
      simp [hcut]
    · rename_i xs hcut
      simp [hcut, orRefused_ne_brokenOff]

/-- Everything in front of a fraction is read. -/
def Reader.reachesFraction (century : Int) (caps : Captures) : Reader → Prop
  | .time => ∀ name ∈ ["hour", "minute", "second"], ∃ n, natPart max32 caps name = .ok n
  | .dateTime => (∃ d, readDate century caps = .ok d) ∧
    ∀ name ∈ ["hour", "minute", "second"], ∃ n, natPart max32 caps name = .ok n
  | .duration =>
    ∀ name ∈ ["days", "hours", "minutes", "seconds"], ∃ i, intPart max63 caps name = .ok i
  | _ => False

theorem readTime_eq_brokenOff : readTime caps = .error .brokenOff ↔
    (∀ name ∈ ["hour", "minute", "second"], ∃ n, natPart max32 caps name = .ok n) ∧
      CutsWithin caps := by
  simp only [readTime, orRefused_bind_eq_brokenOff]
  simp only [except_bind_eq_error, nanosPart_eq_brokenOff]
  constructor
  · rintro ⟨h, hh, m, hm, s, hs, hcut | ⟨n, -, hend⟩⟩
    · exact ⟨by simp [hh, hm, hs], hcut⟩
    · split at hend
      · cases hend
      · cases hend
  · rintro ⟨hparts, hcut⟩
    obtain ⟨h, hh⟩ := hparts "hour" (by simp)
    obtain ⟨m, hm⟩ := hparts "minute" (by simp)
    obtain ⟨s, hs⟩ := hparts "second" (by simp)
    exact ⟨h, hh, m, hm, s, hs, .inl hcut⟩

theorem readDuration_eq_brokenOff : readDuration caps = .error .brokenOff ↔
    (∀ name ∈ ["days", "hours", "minutes", "seconds"], ∃ i, intPart max63 caps name = .ok i) ∧
      CutsWithin caps := by
  simp only [readDuration, orRefused_bind_eq_brokenOff]
  simp only [except_bind_eq_error, nanosPart_eq_brokenOff]
  constructor
  · rintro ⟨d, hd, h, hh, m, hm, s, hs, hcut | ⟨n, -, hend⟩⟩
    · exact ⟨by simp [hd, hh, hm, hs], hcut⟩
    · split at hend
      · cases hend
      · cases hend
  · rintro ⟨hparts, hcut⟩
    obtain ⟨d, hd⟩ := hparts "days" (by simp)
    obtain ⟨h, hh⟩ := hparts "hours" (by simp)
    obtain ⟨m, hm⟩ := hparts "minutes" (by simp)
    obtain ⟨s, hs⟩ := hparts "seconds" (by simp)
    exact ⟨d, hd, h, hh, m, hm, s, hs, .inl hcut⟩

/-- A value is not read exactly if a fraction is reached and cut within a
character. -/
theorem Reader.read_eq_brokenOff {r : Reader} {text : String} :
    r.read century caps text = .error .brokenOff ↔
      r.reachesFraction century caps ∧ CutsWithin caps := by
  cases r with
  | time => rw [Reader.read, map_eq_brokenOff, readTime_eq_brokenOff, reachesFraction]
  | duration => rw [Reader.read, map_eq_brokenOff, readDuration_eq_brokenOff, reachesFraction]
  | dateTime =>
      rw [Reader.read, orRefused_bind_eq_brokenOff, reachesFraction, and_assoc, ← exists_and_right]
      refine exists_congr fun d => and_congr_right fun _ => ?_
      rw [except_bind_eq_error, readTime_eq_brokenOff, or_iff_left]
      rintro ⟨t, -, h⟩
      cases h
  | date =>
      simp only [Reader.read, reachesFraction, false_and, iff_false]
      exact orRefused_ne_brokenOff
  | bool | string | path => simp [Reader.read, reachesFraction]
  | int | number | enumeration | guid | uri =>
      simp only [Reader.read, reachesFraction, false_and, iff_false]
      split
      · exact fun h => by cases h
      · exact fun h => by cases h

end Breaks

/-! ## Forms -/

/-- The reader has a fraction among its parts. -/
def Reader.hasFraction : Reader → Bool
  | .time => true
  | .dateTime => true
  | .duration => true
  | _ => false

end TextForm

/-- Among the texts of the kind are some with fractions. -/
def Kind.hasFraction : Kind → Bool
  | .time => true
  | .dateTime => true
  | .duration => true
  | .anyOf _ => true
  | _ => false

namespace TextForm

/-- A form that a kind may have: if it has parts it is made from one of the
expressions with parts, and it has a fraction only if the kind has. -/
structure Suits (k : Kind) (form : TextForm) : Prop where
  parts : form.reader.hasParts → ∃ e ∈ partExpressions, ∃ ignoreCase reader,
    ofExpression e ignoreCase reader = .ok form
  fraction : form.reader.hasFraction → k.hasFraction

section Forms

variable {k : Kind} {form : TextForm} {forms : List TextForm} {e : Expression} {ignoreCase : Bool}
  {reader : Reader}

theorem Suits.of_ofExpression (h : ofExpression e ignoreCase reader = .ok form)
    (hparts : reader.hasParts → e ∈ partExpressions)
    (hfraction : reader.hasFraction → k.hasFraction) : form.Suits k := by
  obtain rfl := ofExpression_reader h
  exact ⟨fun hp => ⟨e, hparts hp, ignoreCase, _, h⟩, hfraction⟩

/-- A form without parts suits every kind. -/
theorem Suits.of_reader (h : form.reader.hasParts = false) : form.Suits k := by
  refine ⟨fun hp => absurd hp (by simp [h]), fun hf => ?_⟩
  cases hreader : form.reader with
  | time | dateTime | duration => rw [hreader] at h; cases h
  | _ => rw [hreader] at hf; cases hf

theorem Suits.of_ofStringLimits {l : StringLimits} (h : ofStringLimits l = .ok form) :
    form.Suits k := by
  have hreader : form.reader = .string := by
    unfold ofStringLimits at h
    split at h
    · cases h
      rfl
    · exact ofExpression_reader h
  exact .of_reader (by rw [hreader]; rfl)

theorem Suits.of_mem_ofEnumLimits {l : EnumLimits} (h : ofEnumLimits l = .ok forms)
    (hmem : form ∈ forms) : form.Suits k := by
  have single : ∀ {e accepted form}, ofExpression e true (.enumeration accepted l.values) =
      .ok form → form.Suits k := fun h => .of_ofExpression h (fun hp => by cases hp)
    fun hf => by cases hf
  unfold ofEnumLimits at h
  obtain ⟨first, hfirst, h⟩ := except_bind_eq_ok.mp h
  split at h
  · cases h
    obtain rfl := List.mem_singleton.mp hmem
    exact single hfirst
  · obtain ⟨second, hsecond, h⟩ := except_bind_eq_ok.mp h
    cases h
    rcases List.mem_pair.mp hmem with rfl | rfl
    · exact single hfirst
    · exact single hsecond

theorem eq_ok_of_mem_single {x : Except SchemaError TextForm}
    (h : (do return [← x]) = Except.ok forms) (hmem : form ∈ forms) : x = .ok form := by
  obtain ⟨f, hf, h⟩ := except_bind_eq_ok.mp h
  cases h
  rwa [List.mem_singleton.mp hmem]

end Forms

end TextForm

section Kinds

variable {form : TextForm} {forms : List TextForm}

/-- The forms of a kind that is no choice suit it. -/
theorem Kind.suits_of_mem {k : Kind} (hk : ∀ ts, k ≠ .anyOf ts) (h : k.textForms = .ok forms)
    (hmem : form ∈ forms) : form.Suits k := by
  cases k with
  | bool =>
      obtain ⟨first, hfirst, h⟩ := except_bind_eq_ok.mp h
      obtain ⟨second, hsecond, h⟩ := except_bind_eq_ok.mp h
      cases h
      rcases List.mem_pair.mp hmem with rfl | rfl
      · exact .of_reader (by rw [ofExpression_reader hfirst]; rfl)
      · exact .of_reader (by rw [ofExpression_reader hsecond]; rfl)
  | string l => exact .of_ofStringLimits (eq_ok_of_mem_single h hmem)
  | enumeration l => exact .of_mem_ofEnumLimits h hmem
  | date =>
      obtain ⟨e, he, hform⟩ := exists_of_mem_mapM h hmem
      exact .of_ofExpression hform (fun _ => List.mem_append_left _ he) fun hf => by cases hf
  | time =>
      exact .of_ofExpression (eq_ok_of_mem_single h hmem) (fun _ => by simp [partExpressions])
        fun _ => rfl
  | dateTime =>
      obtain ⟨e, he, hform⟩ := exists_of_mem_mapM h hmem
      exact .of_ofExpression hform (fun _ => by simp [partExpressions, he]) fun _ => rfl
  | duration =>
      exact .of_ofExpression (eq_ok_of_mem_single h hmem) (fun _ => by simp [partExpressions])
        fun _ => rfl
  | int | number | guid | uri | filename | directory =>
      exact .of_reader (by rw [ofExpression_reader (eq_ok_of_mem_single h hmem)]; rfl)
  | object members exact => cases h
  | dict members exact => cases h
  | anyOf ts => exact absurd rfl (hk ts)

mutual

/-- So do the forms of every type. -/
theorem ValueType.suits_of_mem : (t : ValueType) → ∀ {forms}, t.textForms = .ok forms →
    ∀ form ∈ forms, form.Suits t.kind
  | .mk kind _ _ => fun h form hmem => by
      cases kind with
      | anyOf ts => exact ⟨ValueType.suits_of_mem_all ts h form hmem, fun _ => rfl⟩
      | _ => exact Kind.suits_of_mem (fun _ heq => by cases heq) h hmem

theorem ValueType.suits_of_mem_all : (ts : List ValueType) → ∀ {forms},
    ValueType.allTextForms ts = .ok forms → ∀ form ∈ forms, form.reader.hasParts →
      ∃ e ∈ partExpressions, ∃ ignoreCase reader, ofExpression e ignoreCase reader = .ok form
  | [] => fun h form hmem => by
      cases h
      cases hmem
  | t :: rest => fun h form hmem => by
      obtain ⟨first, hfirst, h⟩ := except_bind_eq_ok.mp h
      obtain ⟨more, hmore, h⟩ := except_bind_eq_ok.mp h
      cases h
      rcases List.mem_append.mp hmem with hmem | hmem
      · exact (t.suits_of_mem hfirst form hmem).parts
      · exact ValueType.suits_of_mem_all rest hmore form hmem

end

end Kinds

/-! ## Outcomes -/

section Outcomes

variable {files : FileTree} {century : Int} {t : ValueType} {text : String}
  {forms : List TextForm}

/-- The first form of a text reaches a fraction and would cut it within a
character. -/
def TextForm.BreaksOff (century : Int) (text : String) (forms : List TextForm) : Prop :=
  ∃ form caps, firstMatch text forms = some (form, caps) ∧
    form.reader.reachesFraction century caps ∧ CutsWithin caps

/-- There are a value, a refusal that names the kind and the text, and a run
that breaks off. -/
theorem ValueType.readText_cases (hforms : t.textForms = .ok forms) :
    (BreaksOff century text forms ∧ t.readText files century text = .error .brokenOff) ∨
      ¬ BreaksOff century text forms ∧ ((∃ v, t.readText files century text = .ok v) ∨
        ∃ fault, t.readText files century text =
          .error (.refused (.stringFormat t.kind.keyword text fault .api))) := by
  unfold BreaksOff ValueType.readText
  simp only [hforms, orRefused, Except.mapError, bind, Except.bind]
  split
  case h_1 hfirst =>
      refine .inr ⟨?_, .inr ⟨.noAlternative, rfl⟩⟩
      rintro ⟨form, caps, h, -⟩
      rw [hfirst] at h
      cases h
  case h_2 form caps hfirst =>
      have hbreaks : (∃ form' caps', firstMatch text forms = some (form', caps') ∧
          form'.reader.reachesFraction century caps' ∧ CutsWithin caps') ↔
            form.reader.read century caps text = .error .brokenOff := by
        rw [Reader.read_eq_brokenOff, hfirst]
        simp
      rw [hbreaks]
      split
      case h_1 fault hread => exact .inr ⟨by simp [hread], .inr ⟨fault, rfl⟩⟩
      case h_2 hread => exact .inl ⟨hread, rfl⟩
      case h_3 v hread =>
          refine .inr ⟨by simp [hread], ?_⟩
          split
          · exact .inl ⟨v, rfl⟩
          · exact .inr ⟨_, rfl⟩

/-- What a form with parts captures is what one of the expressions with parts
reads. -/
theorem TextForm.Suits.reads {k : Kind} {form : TextForm} {caps : Captures} (hs : form.Suits k)
    (hparts : form.reader.hasParts) (hc : form.captures? text = some caps) :
    ∃ e ∈ partExpressions, ∃ ignoreCase, e.Reads (Flags.initial ignoreCase) text.toList caps := by
  obtain ⟨e, he, ignoreCase, reader, hform⟩ := hs.parts hparts
  obtain rfl := ofExpression_reader hform
  exact ⟨e, he, ignoreCase,
    reads_of_captures? (isLocal_of_mem_partExpressions he) hform hc hparts⟩

theorem TextForm.inRange_of_captures? {k : Kind} {form : TextForm} {caps : Captures}
    (hcentury : Date.minYear ≤ century ∧ century ≤ Date.maxYear) (hs : form.Suits k)
    (hc : form.captures? text = some caps) : InRange century caps := by
  refine inRange_of_length_le hcentury fun name n ds hn hget => ?_
  by_cases hparts : form.reader.hasParts
  · obtain ⟨e, he, ignoreCase, hreads⟩ := hs.reads hparts hc
    exact length_le_groupWidth he hreads hget hn
  · rw [captures?, if_neg hparts] at hc
    split at hc
    · cases hc
      cases hget
    · cases hc

/-- Only a kind with fractions has texts that break off, and only those with a
digit that is not ASCII. -/
theorem TextForm.BreaksOff.exists_not_isDigit (hforms : t.textForms = .ok forms)
    (h : BreaksOff century text forms) :
    t.kind.hasFraction ∧ ∃ d ∈ text.toList, IsDecimal d ∧ ¬ d.isDigit := by
  obtain ⟨form, caps, hfirst, hreach, ds, hget, hbytes, -⟩ := h
  obtain ⟨hmem, hc⟩ := mem_of_firstMatch hfirst
  have hs := t.suits_of_mem hforms form hmem
  have hfraction : form.reader.hasFraction ∧ form.reader.hasParts := by
    cases hreader : form.reader with
    | time | dateTime | duration => exact ⟨rfl, rfl⟩
    | _ => rw [hreader] at hreach; cases hreach
  obtain ⟨e, he, ignoreCase, hreads⟩ := hs.reads hfraction.2 hc
  have hlength : ds.length ≤ 9 := length_le_groupWidth he hreads hget rfl
  have hdecimal := isDecimal_of_mem_group he hreads hget (by simp)
  refine ⟨hs.fraction hfraction.1, ?_⟩
  by_contra hall
  push Not at hall
  rw [byteLength_of_isDigit fun d hd => hall d (hdecimal d hd).1 (hdecimal d hd).2] at hbytes
  exact absurd hlength (Nat.not_le.mpr hbytes)

/-- Reading a text of a type that has forms gives a value, or refuses the text
with an error that names the kind and the text, unless the first form of the
text breaks off.  This takes a digit that is not ASCII in a time, a date with a
time or a duration.  No integer on the way leaves its range. -/
theorem ValueType.readText_outcome (hforms : t.textForms = .ok forms)
    (hcentury : Date.minYear ≤ century ∧ century ≤ Date.maxYear) :
    (t.readText files century text = .error .brokenOff ↔ BreaksOff century text forms) ∧
      (¬ BreaksOff century text forms → (∃ v, t.readText files century text = .ok v) ∨
        ∃ fault, t.readText files century text =
          .error (.refused (.stringFormat t.kind.keyword text fault .api))) ∧
      (BreaksOff century text forms →
        t.kind.hasFraction ∧ ∃ d ∈ text.toList, IsDecimal d ∧ ¬ d.isDigit) ∧
      ∀ form ∈ forms, ∀ caps, form.captures? text = some caps → InRange century caps := by
  refine ⟨?_, fun hno => ?_, fun h => h.exists_not_isDigit hforms, fun form hmem caps hc =>
    inRange_of_captures? hcentury (t.suits_of_mem hforms form hmem) hc⟩
  · rcases readText_cases hforms with ⟨hbreaks, hread⟩ | ⟨hno, ⟨v, hread⟩ | ⟨fault, hread⟩⟩
    · exact iff_of_true hread hbreaks
    · exact iff_of_false (by simp [hread]) hno
    · exact iff_of_false (by simp [hread]) hno
  · rcases readText_cases hforms with ⟨hbreaks, -⟩ | ⟨-, h⟩
    · exact absurd hbreaks hno
    · exact h

/-- An instance: five Arabic digits take ten bytes, and the ninth is the first
of the last of them. -/
theorem ValueType.readText_outcome_arabic :
    ∃ forms, (mk .time .single none).textForms = .ok forms ∧
      BreaksOff 2000 "01:00:00.٠٠٠٠٠" forms ∧
      (mk .time .single none).readText .empty 2000 "01:00:00.٠٠٠٠٠" = .error .brokenOff := by
  obtain ⟨form, hform, hforms⟩ := Kind.exists_textForms_time
  have hforms : (mk .time .single none).textForms = .ok [form] := hforms
  have hfraction : ∃ c, fraction.Reads (Flags.initial false) ".٠٠٠٠٠".toList c := by
    refine ⟨_, reads_maybe.mpr (.inr (reads_inTurn_char reads_escaped
      ⟨[], (reads_digits rfl).mpr ⟨?_, rfl, by decide, ?_⟩, rfl⟩))⟩
    · have all : "٠٠٠٠٠".toList.all (fun d => decide (IsDecimal d)) = true := by decide +kernel
      exact fun d hd => of_decide_eq_true (List.all_eq_true.mp all d hd)
    · rintro m hm
      cases hm
      decide
  have htext : "01:00:00.٠٠٠٠٠".toList = twoDigits 1 ++ ':' :: (twoDigits 0 ++ ':' ::
      (twoDigits 0 ++ ".٠٠٠٠٠".toList)) := by rfl
  have hmatch : form.isMatch "01:00:00.٠٠٠٠٠" := by
    rw [isMatch_iff (by rfl) hform, htext]
    exact reads_time rfl (by decide) (by decide) (by decide) hfraction
  obtain ⟨caps, hc⟩ := Option.isSome_iff_exists.mp (TextForm.captures?_isSome.mpr hmatch)
  have hreads := reads_of_captures? (by rfl) hform hc rfl
  rw [htext] at hreads
  have hcaps := (captures_of_reads_time rfl isDecimal_of_mem_twoDigits isDecimal_of_mem_twoDigits
    isDecimal_of_mem_twoDigits (.inr ⟨_, rfl⟩) hreads).2
  have hparts : Reader.time.reachesFraction 2000 caps := by
    rw [hcaps, Reader.reachesFraction]
    simp only [List.mem_cons, List.not_mem_nil, or_false, forall_eq_or_imp, forall_eq]
    exact ⟨⟨1, natPart_eq_ok (w := 2) rfl (by decide)⟩, ⟨0, natPart_eq_ok (w := 2) rfl (by decide)⟩,
      ⟨0, natPart_eq_ok (w := 2) rfl (by decide)⟩⟩
  have hcut : CutsWithin caps := by
    refine ⟨"٠٠٠٠٠".toList, ?_, cutBytes_eq_none_iff.mp (by decide)⟩
    rw [hcaps]
    rfl
  have hbreaks : BreaksOff 2000 "01:00:00.٠٠٠٠٠" [form] := by
    refine ⟨form, caps, by rw [firstMatch, hc], ?_, hcut⟩
    rwa [ofExpression_reader hform]
  exact ⟨[form], hforms, hbreaks, (readText_outcome hforms (by decide)).1.mpr hbreaks⟩

end Outcomes

end TypeSchema
