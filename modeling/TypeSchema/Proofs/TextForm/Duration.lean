/-
# Durations — what their texts are, and what these are read as

The form of durations and the pattern in their JSON Schema are the same
expressions but for two things: the form remembers its parts under names, and
its digits are those of any script (`duration_eq`, `ofChars_durationPattern`).
So what both of them read is shown at once, for any way of grouping the parts
and any set of digits (`reads_durationParts`).

The groups of a match are the parts of the text, for these are unique
(`captures_of_reads_duration`).  They are read to what they are worth, and
refused exactly if that is too long (`readDuration_durationGroups`).  What is
written for a duration is worth this duration, so it is read back as what it
was written for, and has the form and the pattern
(`ValueType.readText_duration`).
-/
import Mathlib
import TypeSchema.JsonSchema.Emission
import TypeSchema.Proofs.Calendar
import TypeSchema.Proofs.TextForm.RoundTrip
import TypeSchema.Regex.AsciiShorthand

namespace TypeSchema

open Regex Expression Numeral TextForm
open Duration (IsDigits IsSixty Written)
open Duration.Written (signChars daysChars fractionChars value)

namespace TextForm

/-! ## The expressions -/

section Parts

variable (group : String → List Expression → List Expression) (digit : Expression)

/-- A sign, if there is one. -/
def signPart : Expression := maybe (inTurn (group "sign" [plain '-']))

/-- Days with their point, if there are any. -/
def daysPart : Expression :=
  maybe (grouped (inTurn (group "days" [times digit .more] ++ [escaped '.'])))

/-- A fraction with its point, if there is one. -/
def fractionPart : Expression :=
  maybe (grouped (inTurn (escaped '.' :: group "fraction" [times digit (.between 1 9)])))

/-- The parts of a duration, for a way of grouping them and an expression for a
digit. -/
def durationParts : List Expression :=
  signPart group :: daysPart group digit :: (group "hours" [times digit (.between 1 2)] ++
    plain ':' :: (group "minutes" [maybe (between '0' '5'), digit] ++
      plain ':' :: (group "seconds" [maybe (between '0' '5'), digit] ++
        [fractionPart group digit])))

end Parts

/-- The parts under a name. -/
def named (name : String) (es : List Expression) : List Expression := [remembered name (inTurn es)]

/-- The parts as they stand. -/
def ungrouped (_ : String) (es : List Expression) : List Expression := es

theorem duration_eq : duration = inTurn (durationParts named digit) := rfl

set_option maxRecDepth 2000 in
theorem ofChars_durationPattern :
    Expression.ofChars JsonSchema.durationPattern.toList = some (inTurn
      (.anchor .caret :: (durationParts ungrouped digit ++ [.anchor .dollar]))) := by
  cbv

/-- In a pattern of a JSON Schema a digit is one of ASCII. -/
theorem spelledOut_durationParts :
    (inTurn (.anchor .caret ::
        (durationParts ungrouped digit ++ [.anchor .dollar]))).spelledOut =
      inTurn (.anchor .caret ::
        (durationParts ungrouped (between '0' '9') ++ [.anchor .dollar])) := rfl

/-! ## What they read -/

/-- What the groups of a duration hold, the latest first. -/
def durationGroups (hold : String → List Char → Captures) (w : Written) : Captures :=
  w.fraction.elim [] (hold "fraction") ++ (hold "seconds" w.seconds ++ (hold "minutes" w.minutes ++
    (hold "hours" w.hours ++ (w.days.elim [] (hold "days") ++
      if w.negative then hold "sign" ['-'] else []))))

/-- A group of its own for each part. -/
def heldAlone (name : String) (xs : List Char) : Captures := [(name, xs)]

/-- Parts that are grouped read what they read alone, and the group holds all
of it. -/
def Groups (f : Flags) (group : String → List Expression → List Expression)
    (hold : String → List Char → Captures) : Prop :=
  ∀ name es rest cs c, (inTurn (group name es ++ rest)).Reads f cs c ↔ ∃ xs ys inner outer,
    (inTurn es).Reads f xs inner ∧ (inTurn rest).Reads f ys outer ∧ cs = xs ++ ys ∧
      c = outer ++ (hold name xs ++ inner)

section Reads

variable {f : Flags} {group : String → List Expression → List Expression}
  {hold : String → List Char → Captures} {one : Expression} {rs : Unicode.Ranges}
  {cs : List Char} {c : Captures}

theorem groups_named : Groups f named heldAlone := by
  intro name es rest cs c
  rw [named, List.singleton_append, reads_inTurn_cons]
  constructor
  · rintro ⟨xs, ys, _, outer, ⟨inner, h, rfl⟩, h', rfl, rfl⟩
    exact ⟨xs, ys, inner, outer, h, h', rfl, rfl⟩
  · rintro ⟨xs, ys, inner, outer, h, h', rfl, rfl⟩
    exact ⟨xs, ys, _, outer, ⟨inner, h, rfl⟩, h', rfl, rfl⟩

theorem groups_ungrouped : Groups f ungrouped fun _ _ => [] :=
  fun _ _ _ _ _ => reads_inTurn_append

variable (hgroup : Groups f group hold) (hf : f.unicode)
  (hone : ∀ cs c, one.Reads f cs c ↔ ReadOne rs cs c)

include hgroup in
/-- A part at the end, once it is known what it reads. -/
theorem reads_group (name : String) {es : List Expression} {P : List Char → Prop}
    (hes : ∀ cs c, (inTurn es).Reads f cs c ↔ P cs ∧ c = []) {rest : List Expression} :
    (inTurn (group name es ++ rest)).Reads f cs c ↔ ∃ xs ys outer,
      P xs ∧ (inTurn rest).Reads f ys outer ∧ cs = xs ++ ys ∧ c = outer ++ hold name xs := by
  rw [hgroup]
  constructor
  · rintro ⟨xs, ys, inner, outer, h, h', rfl, rfl⟩
    obtain ⟨hP, rfl⟩ := (hes _ _).mp h
    exact ⟨xs, ys, outer, hP, h', rfl, by simp⟩
  · rintro ⟨xs, ys, outer, hP, h', rfl, rfl⟩
    exact ⟨xs, ys, [], outer, (hes _ _).mpr ⟨hP, rfl⟩, h', rfl, by simp⟩

include hone in
theorem reads_digitsBetween {least most : Nat} (hle : least ≤ most) :
    (inTurn [times one (.between least most)]).Reads f cs c ↔
      IsDigits (fun d => rs.has d.toNat) least most cs ∧ c = [] := by
  rw [inTurn, reads_times hone]
  simp only [Count.min, Count.max, Option.some.injEq, forall_eq', IsDigits,
    Nat.add_sub_cancel' hle]
  tauto

include hone in
theorem reads_someDigits : (inTurn [times one .more]).Reads f cs c ↔
    ((∀ d ∈ cs, rs.has d.toNat) ∧ cs ≠ []) ∧ c = [] := by
  rw [inTurn, reads_times hone]
  simp only [Count.min, Count.max, Nat.one_le_iff_ne_zero, ne_eq, List.length_eq_zero_iff,
    reduceCtorEq, false_imp_iff, implies_true, and_true]
  tauto

include hf hone in
theorem reads_isSixty : (inTurn [maybe (between '0' '5'), one]).Reads f cs c ↔
    IsSixty (fun d => rs.has d.toNat) cs ∧ c = [] := by
  rw [reads_inTurn_cons]
  simp only [inTurn, reads_maybe, reads_between_iff hf (by decide : '5'.toNat < caseStart), hone]
  constructor
  · rintro ⟨_, _, _, _, ⟨rfl, rfl⟩ | ⟨t, ht, rfl, rfl⟩, ⟨d, hd, rfl, rfl⟩, rfl, rfl⟩
    · exact ⟨⟨d, hd, .inl rfl⟩, rfl⟩
    · exact ⟨⟨d, hd, .inr ⟨t, ht, rfl⟩⟩, rfl⟩
  · rintro ⟨⟨d, hd, rfl | ⟨t, ht, rfl⟩⟩, rfl⟩
    · exact ⟨[], [d], [], [], .inl ⟨rfl, rfl⟩, ⟨d, hd, rfl, rfl⟩, rfl, rfl⟩
    · exact ⟨[t], [d], [], [], .inr ⟨t, ht, rfl, rfl⟩, ⟨d, hd, rfl, rfl⟩, rfl, rfl⟩

include hgroup in
/-- A part alone. -/
theorem reads_lastGroup (name : String) {es : List Expression} {P : List Char → Prop}
    (hes : ∀ cs c, (inTurn es).Reads f cs c ↔ P cs ∧ c = []) :
    (inTurn (group name es)).Reads f cs c ↔ P cs ∧ c = hold name cs := by
  have h : (inTurn (group name es ++ [])).Reads f cs c ↔ ∃ xs ys outer,
      P xs ∧ (inTurn []).Reads f ys outer ∧ cs = xs ++ ys ∧ c = outer ++ hold name xs :=
    reads_group hgroup name hes
  rw [← List.append_nil (group name es), h]
  constructor
  · rintro ⟨xs, _, _, hP, ⟨rfl, rfl⟩, rfl, rfl⟩
    simpa using hP
  · rintro ⟨hP, rfl⟩
    exact ⟨cs, [], [], hP, ⟨rfl, rfl⟩, by simp, rfl⟩

include hgroup hf in
theorem reads_signPart : (signPart group).Reads f cs c ↔ ∃ negative,
    cs = signChars negative ∧ c = if negative then hold "sign" ['-'] else [] := by
  have hminus : ∀ cs c, (inTurn [plain '-']).Reads f cs c ↔ cs = ['-'] ∧ c = [] :=
    fun cs c => reads_plain_iff hf (by decide)
  rw [signPart, reads_maybe, reads_lastGroup hgroup "sign" hminus]
  constructor
  · rintro (⟨rfl, rfl⟩ | ⟨rfl, rfl⟩)
    · exact ⟨false, rfl, rfl⟩
    · exact ⟨true, rfl, rfl⟩
  · rintro ⟨_ | _, rfl, rfl⟩
    · exact .inl ⟨rfl, rfl⟩
    · exact .inr ⟨rfl, rfl⟩

include hgroup hf hone in
theorem reads_daysPart : (daysPart group one).Reads f cs c ↔ ∃ days : Option (List Char),
    (∀ ds, days = some ds → (∀ d ∈ ds, rs.has d.toNat) ∧ ds ≠ []) ∧
      cs = daysChars days ∧ c = days.elim [] (hold "days") := by
  have hpoint : ∀ cs c, (inTurn [escaped '.']).Reads f cs c ↔ cs = ['.'] ∧ c = [] :=
    fun cs c => reads_escaped_iff hf (by decide)
  have hdays : (inTurn (group "days" [times one .more] ++ [escaped '.'])).Reads f cs c ↔
      ∃ ds ys outer, ((∀ d ∈ ds, rs.has d.toNat) ∧ ds ≠ []) ∧
        (inTurn [escaped '.']).Reads f ys outer ∧ cs = ds ++ ys ∧ c = outer ++ hold "days" ds :=
    reads_group hgroup "days" fun cs c => reads_someDigits hone
  rw [daysPart, reads_maybe]
  constructor
  · rintro (⟨rfl, rfl⟩ | h)
    · exact ⟨none, by simp, rfl, rfl⟩
    · obtain ⟨ds, _, _, hds, hrest, rfl, rfl⟩ := hdays.mp h
      obtain ⟨rfl, rfl⟩ := (hpoint _ _).mp hrest
      exact ⟨some ds, by simpa using hds, rfl, rfl⟩
  · rintro ⟨_ | ds, hds, rfl, rfl⟩
    · exact .inl ⟨rfl, rfl⟩
    · exact .inr (hdays.mpr ⟨ds, _, [], hds ds rfl, (hpoint _ _).mpr ⟨rfl, rfl⟩, rfl, rfl⟩)

include hgroup hf hone in
theorem reads_fractionPart : (fractionPart group one).Reads f cs c ↔ ∃ x : Option (List Char),
    (∀ ds, x = some ds → IsDigits (fun d => rs.has d.toNat) 1 9 ds) ∧
      cs = fractionChars x ∧ c = x.elim [] (hold "fraction") := by
  have hdigits : ∀ cs c, (inTurn [times one (.between 1 9)]).Reads f cs c ↔
      IsDigits (fun d => rs.has d.toNat) 1 9 cs ∧ c = [] :=
    fun cs c => reads_digitsBetween hone (by decide)
  have hfraction :
      (inTurn (escaped '.' :: group "fraction" [times one (.between 1 9)])).Reads f cs c ↔
        ∃ ds, IsDigits (fun d => rs.has d.toNat) 1 9 ds ∧ cs = '.' :: ds ∧
          c = hold "fraction" ds := by
    rw [reads_inTurn_cons]
    constructor
    · rintro ⟨_, ds, _, _, hpoint, h, rfl, rfl⟩
      obtain ⟨rfl, rfl⟩ := (reads_escaped_iff hf (by decide)).mp hpoint
      obtain ⟨hds, rfl⟩ := (reads_lastGroup hgroup "fraction" hdigits).mp h
      exact ⟨ds, hds, rfl, by simp⟩
    · rintro ⟨ds, hds, rfl, rfl⟩
      have h := (reads_lastGroup hgroup "fraction" hdigits).mpr ⟨hds, rfl⟩
      exact ⟨['.'], ds, [], _, reads_escaped, h, rfl, by simp⟩
  rw [fractionPart, reads_maybe]
  constructor
  · rintro (⟨rfl, rfl⟩ | h)
    · exact ⟨none, by simp, rfl, rfl⟩
    · obtain ⟨ds, hds, rfl, rfl⟩ := hfraction.mp h
      exact ⟨some ds, by simpa using hds, rfl, rfl⟩
  · rintro ⟨_ | ds, hds, rfl, rfl⟩
    · exact .inl ⟨rfl, rfl⟩
    · exact .inr (hfraction.mpr ⟨ds, hds ds rfl, rfl, rfl⟩)

include hgroup hf hone in
/-- The expressions read exactly what is made of such digits, and their groups
hold its parts. -/
theorem reads_durationParts : (inTurn (durationParts group one)).Reads f cs c ↔
    ∃ w : Written, w.IsMadeOf (fun d => rs.has d.toNat) ∧ cs = w.chars ∧
      c = durationGroups hold w := by
  have hhours : ∀ cs c, (inTurn [times one (.between 1 2)]).Reads f cs c ↔
      IsDigits (fun d => rs.has d.toNat) 1 2 cs ∧ c = [] :=
    fun cs c => reads_digitsBetween hone (by decide)
  have hsixty : ∀ cs c, (inTurn [maybe (between '0' '5'), one]).Reads f cs c ↔
      IsSixty (fun d => rs.has d.toNat) cs ∧ c = [] := fun cs c => reads_isSixty hf hone
  have hcolon {cs c} : (plain ':').Reads f cs c ↔ cs = [':'] ∧ c = [] :=
    reads_plain_iff hf (by decide)
  unfold durationParts
  constructor
  · intro h
    obtain ⟨_, _, _, _, hs, h₁, rfl, rfl⟩ := reads_inTurn_cons.mp h
    obtain ⟨_, _, _, _, hd, h₂, rfl, rfl⟩ := reads_inTurn_cons.mp h₁
    obtain ⟨hours, _, _, hhours, h₃, rfl, rfl⟩ := (reads_group hgroup "hours" hhours).mp h₂
    obtain ⟨_, _, _, _, hc, h₄, rfl, rfl⟩ := reads_inTurn_cons.mp h₃
    obtain ⟨minutes, _, _, hminutes, h₅, rfl, rfl⟩ := (reads_group hgroup "minutes" hsixty).mp h₄
    obtain ⟨_, _, _, _, hc', h₆, rfl, rfl⟩ := reads_inTurn_cons.mp h₅
    obtain ⟨seconds, _, _, hseconds, h₇, rfl, rfl⟩ := (reads_group hgroup "seconds" hsixty).mp h₆
    obtain ⟨negative, rfl, rfl⟩ := (reads_signPart hgroup hf).mp hs
    obtain ⟨days, hdays, rfl, rfl⟩ := (reads_daysPart hgroup hf hone).mp hd
    obtain ⟨fraction, hfraction, rfl, rfl⟩ := (reads_fractionPart hgroup hf hone).mp h₇
    obtain ⟨rfl, rfl⟩ := hcolon.mp hc
    obtain ⟨rfl, rfl⟩ := hcolon.mp hc'
    exact ⟨⟨negative, days, hours, minutes, seconds, fraction⟩,
      ⟨hdays, hhours, hminutes, hseconds, hfraction⟩,
      by simp [Written.chars, Written.unsigned, Written.clock], by simp [durationGroups]⟩
  · rintro ⟨w, hw, rfl, rfl⟩
    have hcolon : (plain ':').Reads f [':'] [] := reads_plain
    have hsign := (reads_signPart hgroup hf).mpr ⟨w.negative, rfl, rfl⟩
    have hdays := (reads_daysPart hgroup hf hone).mpr ⟨w.days, hw.days, rfl, rfl⟩
    have hfraction : (inTurn [fractionPart group one]).Reads f (fractionChars w.fraction)
        (w.fraction.elim [] (hold "fraction")) :=
      (reads_fractionPart hgroup hf hone).mpr ⟨w.fraction, hw.fraction, rfl, rfl⟩
    have hseconds := (reads_group hgroup "seconds" hsixty).mpr
      ⟨w.seconds, _, _, hw.seconds, hfraction, rfl, rfl⟩
    have hminutes := (reads_group hgroup "minutes" hsixty).mpr
      ⟨w.minutes, _, _, hw.minutes, reads_inTurn_char hcolon hseconds, rfl, rfl⟩
    have hclock := (reads_group hgroup "hours" hhours).mpr
      ⟨w.hours, _, _, hw.hours, reads_inTurn_char hcolon hminutes, rfl, rfl⟩
    have h := reads_inTurn hsign (reads_inTurn hdays hclock)
    simpa only [Written.chars, Written.unsigned, Written.clock, durationGroups, List.append_assoc]
      using h

end Reads

/-! ## Reading the groups -/

section Groups

variable {w : Written}

theorem get?_durationGroups :
    (durationGroups heldAlone w).get? "sign" = (if w.negative then some ['-'] else none) ∧
      (durationGroups heldAlone w).get? "days" = w.days ∧
      (durationGroups heldAlone w).get? "hours" = some w.hours ∧
      (durationGroups heldAlone w).get? "minutes" = some w.minutes ∧
      (durationGroups heldAlone w).get? "seconds" = some w.seconds ∧
      (durationGroups heldAlone w).get? "fraction" = w.fraction := by
  obtain ⟨negative, days, hours, minutes, seconds, fraction⟩ := w
  cases negative <;> cases days <;> cases fraction <;>
    simp [durationGroups, heldAlone, Captures.get?]

/-- Two digits are far from any limit. -/
theorem intPart_of_isDigits {caps : Captures} {name : String} {cs : List Char}
    (h : caps.get? name = some cs) (hcs : IsDigits (·.isDigit) 1 2 cs) :
    intPart max63 caps name = .ok (value cs : Int) := by
  obtain ⟨hd, hpos, h2⟩ := hcs
  refine intPart_of_isDigit h (List.length_pos_iff.mp hpos) hd ?_
  have hlt := (ofDigitChars_lt hd).trans_le (Nat.pow_le_pow_right (by decide) h2)
  exact hlt.le.trans (by decide)

variable (hw : w.IsMadeOf (·.isDigit))
include hw

theorem intPart_days (hdays : w.dayCount ≤ max63) :
    intPart max63 (durationGroups heldAlone w) "days" = .ok (w.dayCount : Int) := by
  have hget := (get?_durationGroups (w := w)).2.1
  unfold Written.dayCount at hdays ⊢
  cases hds : w.days with
  | none => exact intPart_of_none (hget.trans hds)
  | some ds =>
      obtain ⟨hdigit, hne⟩ := hw.days ds hds
      exact intPart_of_isDigit (hget.trans hds) hne hdigit (by rwa [hds] at hdays)

theorem nanosPart_durationGroups :
    nanosPart (durationGroups heldAlone w) = .ok w.fractionNanos := by
  have hget := (get?_durationGroups (w := w)).2.2.2.2.2
  unfold Written.fractionNanos
  cases hx : w.fraction with
  | none => exact nanosPart_of_none (hget.trans hx)
  | some ds =>
      obtain ⟨hdigit, hpos, h9⟩ := hw.fraction ds hx
      exact nanosPart_of_isDigit (hget.trans hx) (List.length_pos_iff.mp hpos) hdigit h9

/-- What is wrong with a duration that is too long: the number of its days, if
that is too large by itself. -/
def durationFault (w : Written) : TextFault :=
  if w.dayCount ≤ max63 then .durationRange
  else .part "days" (String.ofList (w.days.getD [])) .tooLarge

/-- The parts are read to what they are worth, and refused exactly if that is
too long. -/
theorem readDuration_durationGroups : readDuration (durationGroups heldAlone w) =
    match Duration.ofNanos? w.nanos with
    | some d => .ok d
    | none => .error (.refused (durationFault w)) := by
  obtain ⟨hsign, hdays, hhours, hminutes, hseconds, -⟩ := get?_durationGroups (w := w)
  by_cases hcount : w.dayCount ≤ max63
  · have htotal : ((w.dayCount : Int) * 86400 + (value w.hours * 3600 + value w.minutes * 60 +
        value w.seconds)) * nanosPerSecond + w.fractionNanos = w.magnitude := by
      unfold Written.magnitude Written.wholeSeconds nanosPerSecond
      omega
    have hnanos : (if (if w.negative then some ['-'] else none).isSome then
        -(w.magnitude : Int) else w.magnitude) = w.nanos := by
      unfold Written.nanos
      cases w.negative with
      | false => rfl
      | true => rfl
    simp only [readDuration, intPart_days hw hcount, intPart_of_isDigits hhours hw.hours,
      intPart_of_isDigits hminutes (hw.minutes.isDigits agreesOnAscii_isDigit),
      intPart_of_isDigits hseconds (hw.seconds.isDigits agreesOnAscii_isDigit),
      nanosPart_durationGroups hw, hsign, orRefused, Except.mapError, bind, Except.bind, htotal,
      hnanos, durationFault, if_pos hcount]
    rfl
  · -- the days alone are refused, and they would lead out of the range anyway
    have hrange : Duration.ofNanos? w.nanos = none := by
      rw [Duration.ofNanos?, dif_neg]
      exact fun h => hcount (Written.dayCount_le (Written.natAbs_nanos ▸ h))
    cases hds : w.days with
    | none => exact absurd (by simp [Written.dayCount, hds]) hcount
    | some ds =>
        obtain ⟨hdigit, hne⟩ := hw.days ds hds
        have hlt : max63 < Nat.ofDigitChars 10 ds 0 := by
          rw [Written.dayCount, hds] at hcount
          exact Nat.lt_of_not_le hcount
        simp only [readDuration, intPart_eq_error (hdays.trans hds) hne hdigit hlt, orRefused,
          Except.mapError, bind, Except.bind, hrange, durationFault, if_neg hcount, hds,
          Option.getD_some]

end Groups

/-! ## The form and the pattern -/

section Form

variable {form : TextForm} (hform : ofExpression duration false .duration = .ok form)
  {text : String} {w : Written}

theorem reads_duration {cs : List Char} {c : Captures} :
    duration.Reads (Flags.initial false) cs c ↔
      ∃ w : Written, w.IsMadeOf IsDecimal ∧ cs = w.chars ∧ c = durationGroups heldAlone w := by
  rw [duration_eq]
  exact reads_durationParts groups_named rfl fun _ _ => readOne_digit rfl

/-- A duration that is written has only its own groups. -/
theorem captures_of_reads_duration (hw : w.IsMadeOf (·.isDigit)) {c : Captures}
    (h : duration.Reads (Flags.initial false) w.chars c) : c = durationGroups heldAlone w := by
  obtain ⟨w', hw', hchars, rfl⟩ := reads_duration.mp h
  have hw : w.IsMadeOf IsDecimal := hw.imp fun _ _ => IsDecimal.of_isDigit
  rw [Written.eq_of_chars_eq agreesOnAscii_isDecimal hw hw' hchars]

include hform in
theorem isMatch_written (hw : w.IsMadeOf (·.isDigit)) : form.isMatch w.text := by
  rw [isMatch_iff (by rfl) hform, Written.toList_text]
  exact ⟨_, reads_duration.mpr ⟨w, hw.imp fun _ _ => IsDecimal.of_isDigit, rfl, rfl⟩⟩

include hform in
/-- Texts of ASCII characters have the form exactly if they are made of its
parts. -/
theorem isMatch_duration_iff (hascii : ∀ c ∈ text.toList, c.toNat < 0x80) :
    form.isMatch text ↔ ∃ w : Written, w.IsMadeOf (·.isDigit) ∧ w.text = text := by
  constructor
  · intro h
    obtain ⟨c, hc⟩ := (isMatch_iff (by rfl) hform).mp h
    obtain ⟨w, hw, hchars, -⟩ := reads_duration.mp hc
    rw [hchars] at hascii
    exact ⟨w, hw.imp fun c hc => (isDecimal_iff_isDigit (hascii c hc)).mp,
      String.toList_inj.mp (Written.toList_text.trans hchars.symm)⟩
  · rintro ⟨w, hw, rfl⟩
    exact isMatch_written hform hw

end Form

/-- The pattern in the JSON Schema of durations has a matcher, and this matches
the texts that are made of the parts of a duration. -/
theorem exists_ofSchemaPattern_duration : ∃ r,
    ofSchemaPattern JsonSchema.durationPattern = some r ∧
      ∀ text, r.isMatch text ↔ ∃ w : Written, w.IsMadeOf (·.isDigit) ∧ w.text = text := by
  have compiles : (ofSchemaPattern JsonSchema.durationPattern).isSome = true := by decide +kernel
  obtain ⟨r, hr⟩ := Option.isSome_iff_exists.mp compiles
  have hmeaning := hr
  rw [ofSchemaPattern, ofChars_durationPattern, Option.bind_eq_bind, Option.bind_some,
    spelledOut_durationParts] at hmeaning
  have hlocal : (durationParts ungrouped (between '0' '9')).all isLocal = true := by rfl
  have hdigit (d : Char) : Unicode.Ranges.has [('0'.toNat, '9'.toNat)] d.toNat ↔ d.isDigit := by
    rw [isDigit_iff]
    simp [Unicode.Ranges.has]
  have hone : ∀ cs c, (between '0' '9').Reads (Flags.initial false) cs c ↔
      ReadOne [('0'.toNat, '9'.toNat)] cs c := by
    intro cs c
    rw [reads_between_iff rfl (by decide)]
    simp [ReadOne, Unicode.Ranges.has, char_le_iff]
  refine ⟨r, hr, fun text => ?_⟩
  rw [isMatch_betweenAnchors (fun e => List.all_eq_true.mp hlocal e) hmeaning]
  simp only [reads_durationParts groups_ungrouped rfl hone, hdigit]
  constructor
  · rintro ⟨_, w, hw, hchars, -⟩
    exact ⟨w, hw, String.toList_inj.mp (Written.toList_text.trans hchars.symm)⟩
  · rintro ⟨w, hw, rfl⟩
    exact ⟨_, w, hw, Written.toList_text, rfl⟩

end TextForm

/-! ## Texts of durations -/

theorem Kind.exists_textForms_duration : ∃ form,
    TextForm.ofExpression TextForm.duration false .duration = .ok form ∧
      Kind.duration.textForms = .ok [form] := by
  obtain ⟨form, hform⟩ :=
    exists_ofExpression (e := TextForm.duration) (by rfl) (by decide +kernel) false .duration
  exact ⟨form, hform, by rw [Kind.textForms, hform]; rfl⟩

namespace ValueType

variable {files : FileTree} {century : Int} {arity : Arity} {form : TextForm} {w : Written}

/-- A duration that is written is read as what it is worth, and refused if that
is too long. -/
theorem readText_written (hform : ofExpression duration false .duration = .ok form)
    (hforms : (mk .duration arity none).textForms = .ok [form]) (hw : w.IsMadeOf (·.isDigit)) :
    (mk .duration arity none).readText files century w.text =
      match Duration.ofNanos? w.nanos with
      | some d => .ok (.duration d)
      | none => .error (.refused
          (.stringFormat Kind.duration.keyword w.text (durationFault w) .api)) := by
  obtain ⟨c, hc⟩ := Option.isSome_iff_exists.mp
    (TextForm.captures?_isSome.mpr (isMatch_written hform hw))
  have hreads := reads_of_captures? (by rfl) hform hc rfl
  rw [Written.toList_text] at hreads
  obtain rfl := captures_of_reads_duration hw hreads
  have hfirst : firstMatch w.text [form] = some (form, durationGroups heldAlone w) := by
    simp [firstMatch, hc]
  simp only [readText, hforms, orRefused, Except.mapError, bind, Except.bind, hfirst,
    ofExpression_reader hform, Reader.read, readDuration_durationGroups hw]
  cases Duration.ofNanos? w.nanos with
  | none => rfl
  | some d => rfl

variable (files century arity)

/-- A text of ASCII characters has the form of durations exactly if it is made
of their parts.  It is read as what these are worth, to the nanosecond, and
refused if that is too long, however many digits the days have.  What is
written for a duration has the form and the pattern of the JSON Schema, and is
read as this duration. -/
theorem readText_duration : ∃ form keywords pattern schema,
    (mk .duration arity none).textForms = .ok [form] ∧
    Kind.duration.jsonSchema = .object keywords ∧ ("pattern", .string pattern) ∈ keywords ∧
    ofSchemaPattern pattern = some schema ∧
    (∀ text : String, (∀ c ∈ text.toList, c.toNat < 0x80) →
      (form.isMatch text ↔ ∃ w : Written, w.IsMadeOf (·.isDigit) ∧ w.text = text)) ∧
    (∀ w : Written, w.IsMadeOf (·.isDigit) →
      (∀ h : w.nanos.natAbs ≤ Duration.maxNanos,
        (mk .duration arity none).readText files century w.text = .ok (.duration ⟨w.nanos, h⟩)) ∧
      (Duration.maxNanos < w.nanos.natAbs →
        (mk .duration arity none).readText files century w.text = .error (.refused
          (.stringFormat Kind.duration.keyword w.text (durationFault w) .api)))) ∧
    ∀ d : Duration, (mk .duration arity none).writeText files (.duration d) = .ok d.text ∧
      form.isMatch d.text ∧ schema.isMatch d.text ∧
      (mk .duration arity none).readText files century d.text = .ok (.duration d) := by
  obtain ⟨form, hform, hforms⟩ := Kind.exists_textForms_duration
  obtain ⟨schema, hschema, hmatch⟩ := exists_ofSchemaPattern_duration
  have hforms : (mk .duration arity none).textForms = .ok [form] := hforms
  have hread := fun w => @readText_written files century arity form w hform hforms
  refine ⟨form, _, _, schema, hforms, rfl, by simp, hschema,
    fun text => isMatch_duration_iff hform, fun w hw => ⟨fun h => ?_, fun h => ?_⟩, fun d => ?_⟩
  · rw [hread w hw, Duration.ofNanos?, dif_pos h]
  · rw [hread w hw, Duration.ofNanos?, dif_neg (Nat.not_le.mpr h)]
  · have hw := d.isMadeOf_written
    rw [← Duration.text_written]
    refine ⟨writeText_eq_ok.mpr ⟨rfl, ?_⟩, isMatch_written hform hw,
      (hmatch _).mpr ⟨_, hw, rfl⟩, ?_⟩
    · rw [Duration.text_written]
      rfl
    · rw [hread _ hw, d.nanos_written, Duration.ofNanos?, dif_pos d.bounded]

/-- An instance: a sign, days and a fraction; one day more than there can be;
half a second below zero. -/
theorem readText_duration_halfSecond :
    (mk .duration .single none).readText .empty 2000 "-1.02:3:04.5" =
      .ok (.duration ⟨-93784500000000, by decide⟩) ∧
    (mk .duration .single none).readText .empty 2000 "106751991168.02:3:04.5" =
      .error (.refused (.stringFormat "duration" "106751991168.02:3:04.5" .durationRange .api)) ∧
    (mk .duration .single none).readText .empty 2000 "-00:00:00.500000" =
      .ok (.duration ⟨-500000000, by decide⟩) := by
  obtain ⟨_, _, _, _, -, -, -, -, -, hread, hwrite⟩ := readText_duration .empty 2000 .single
  have made (negative : Bool) (days : List Char) (hdays : (∀ d ∈ days, d.isDigit) ∧ days ≠ []) :
      Written.IsMadeOf (·.isDigit)
        ⟨negative, some days, ['0', '2'], ['3'], ['0', '4'], some ['5']⟩ :=
    ⟨by simpa using hdays, by simp [IsDigits], ⟨'3', rfl, .inl rfl⟩,
      ⟨'4', rfl, .inr ⟨'0', by decide, rfl⟩⟩, by simp [IsDigits]⟩
  refine ⟨(hread _ (made true ['1'] (by simp))).1 (by decide),
    (hread _ (made false "106751991168".toList (by simp))).2 (by decide), ?_⟩
  have htext : Duration.text ⟨-500000000, by decide⟩ = "-00:00:00.500000" := by decide +kernel
  rw [← htext]
  exact (hwrite ⟨-500000000, by decide⟩).2.2.2

end ValueType

end TypeSchema
