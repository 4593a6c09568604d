/-
# Dates — the first order that fits decides

A text has the form for an order exactly if it is three groups of decimal
digits that fit the order, and the groups of the match are those of the text
(`reads_expression`).  Digits of other scripts than ASCII have a form but no
value (`exists_spell_of_readDate`); of groups of ASCII digits the value is the
date that they name in this order, or there is none (`readDate_captures`).

The forms are tried in the sequence of the orders, and the first one that the
text has is that of the first order that fits (`firstMatch_dates`).  So a text
is read as a date exactly if its groups name this date in the first order that
fits, and no other order is a second chance (`ValueType.readText_date`).
-/
import TypeSchema.Proofs.Calendar
import TypeSchema.Proofs.TextForm.Outcome

namespace TypeSchema

open Regex Expression Numeral TextForm Steps
open Duration.Written (value)

/-! ## Orders and their forms -/

namespace Date.Order

/-- The expression for dates in this order. -/
def expression (o : Order) : Expression :=
  if o.yearFirst then
    inTurn [TextForm.year o.yearDigits, separator, TextForm.month, separator, TextForm.day]
  else inTurn [TextForm.month, separator, TextForm.day, separator, TextForm.year o.yearDigits]

/-- What the groups of a match hold, the latest first. -/
def captures (o : Order) (g : Groups) : Captures :=
  if o.yearFirst then [("day", g.third), ("month", g.second), ("year", g.first)]
  else [("year", g.third), ("day", g.second), ("month", g.first)]

section Captures

variable (o : Order) (g : Groups)

theorem captures_year : (o.captures g).get? "year" = some (o.year g) := by
  unfold captures year
  cases o.yearFirst <;> rfl

theorem captures_month : (o.captures g).get? "month" = some (o.month g) := by
  unfold captures month
  cases o.yearFirst <;> rfl

theorem captures_day : (o.captures g).get? "day" = some (o.day g) := by
  unfold captures day
  cases o.yearFirst <;> rfl

end Captures

end Date.Order

namespace TextForm

open Date (Order separators)
open Date.Order (IsPart)

theorem dates_eq_map : dates = Order.all.map Order.expression := rfl

/-! ## Groups of digits -/

section Groups

variable {f : Flags} {name name' name'' : String} {e e' e'' : Expression} {cs : List Char}
  {c : Captures}

/-- The expression remembers what it reads, and reads decimal digits only. -/
def IsGroup (f : Flags) (name : String) (e : Expression) : Prop :=
  ∀ cs c, e.Reads f cs c → (∀ d ∈ cs, IsDecimal d) ∧ c = [(name, cs)]

theorem isGroup_year (hf : f.unicode) {n : Nat} : IsGroup f "year" (year n) :=
  fun _ _ => captures_of_remembered (.digits hf)

theorem isGroup_month (hf : f.unicode) : IsGroup f "month" month :=
  fun _ _ => captures_of_remembered (readsDecimals_month hf)

theorem isGroup_day (hf : f.unicode) : IsGroup f "day" day :=
  fun _ _ => captures_of_remembered (readsDecimals_day hf)

/-- Each group reads its part of a text, and the text has nothing but the
separators besides. -/
theorem reads_separated (hf : f.unicode) (h : IsGroup f name e) (h' : IsGroup f name' e')
    (h'' : IsGroup f name'' e'') :
    (inTurn [e, separator, e', separator, e'']).Reads f cs c ↔ ∃ g : Date.Groups,
      (∃ s ∈ separators, ∃ s' ∈ separators, cs = g.joined s s') ∧
      e.Reads f g.first [(name, g.first)] ∧ e'.Reads f g.second [(name', g.second)] ∧
      e''.Reads f g.third [(name'', g.third)] ∧
      c = [(name'', g.third), (name', g.second), (name, g.first)] := by
  constructor
  · intro hreads
    obtain ⟨x, _, _, _, hx, h₁, rfl, rfl⟩ := reads_inTurn_cons.mp hreads
    obtain ⟨_, _, _, _, hs, h₂, rfl, rfl⟩ := reads_inTurn_cons.mp h₁
    obtain ⟨y, _, _, _, hy, h₃, rfl, rfl⟩ := reads_inTurn_cons.mp h₂
    obtain ⟨_, z, _, _, hs', hz, rfl, rfl⟩ := reads_inTurn_cons.mp h₃
    obtain ⟨-, rfl⟩ := h _ _ hx
    obtain ⟨s, hsep, rfl, rfl⟩ := reads_separator hf hs
    obtain ⟨-, rfl⟩ := h' _ _ hy
    obtain ⟨s', hsep', rfl, rfl⟩ := reads_separator hf hs'
    obtain ⟨-, rfl⟩ := h'' _ _ hz
    exact ⟨⟨x, y, z⟩, ⟨s, hsep, s', hsep', rfl⟩, hx, hy, hz, rfl⟩
  · rintro ⟨g, ⟨s, hs, s', hs', rfl⟩, hx, hy, hz, rfl⟩
    have separated : ∀ {s}, s ∈ separators → separator.Reads f [s] [] := reads_among hf
    have hlast : (inTurn [separator, e'']).Reads f (s' :: g.third) [(name'', g.third)] :=
      reads_inTurn_char (separated hs') hz
    exact reads_inTurn hx (reads_inTurn_char (separated hs) (reads_inTurn hy hlast))

/-- A text has the form for an order if its groups do. -/
theorem reads_expression (hf : f.unicode) {o : Order} :
    o.expression.Reads f cs c ↔ ∃ g : Date.Groups,
      (∃ s ∈ separators, ∃ s' ∈ separators, cs = g.joined s s') ∧
      (year o.yearDigits).Reads f (o.year g) [("year", o.year g)] ∧
      month.Reads f (o.month g) [("month", o.month g)] ∧
      day.Reads f (o.day g) [("day", o.day g)] ∧ c = o.captures g := by
  unfold Order.expression Order.year Order.month Order.day Order.captures
  cases o.yearFirst with
  | true => exact reads_separated hf (isGroup_year hf) (isGroup_month hf) (isGroup_day hf)
  | false =>
      refine (reads_separated hf (isGroup_month hf) (isGroup_day hf) (isGroup_year hf)).trans
        (exists_congr fun g => and_congr_right fun _ => ?_)
      simp only [Bool.false_eq_true, if_false]
      tauto

end Groups

/-! ## Single characters -/

section Parts

variable {f : Flags} {a b e : Expression} {P Q : Char → Prop} {cs : List Char} {c : Captures}
  {name : String}

/-- The expression reads single characters of one sort, and captures nothing. -/
def ReadsOne (f : Flags) (P : Char → Prop) (e : Expression) : Prop :=
  ∀ cs c, e.Reads f cs c ↔ ∃ d, P d ∧ cs = [d] ∧ c = []

theorem ReadsOne.plain (hf : f.unicode) {x : Char} (hx : x.toNat < caseStart) :
    ReadsOne f (· = x) (plain x) := fun cs c => by simp [reads_plain_iff hf hx]

theorem ReadsOne.among (hf : f.unicode) {xs : List Char} (hxs : xs.all (·.toNat < caseStart)) :
    ReadsOne f (· ∈ xs) (among xs) := fun _ _ => reads_among_iff hf hxs

theorem ReadsOne.between (hf : f.unicode) {lo hi : Char} (hhi : hi.toNat < caseStart) :
    ReadsOne f (fun d => lo ≤ d ∧ d ≤ hi) (between lo hi) := fun _ _ => reads_between_iff hf hhi

theorem ReadsOne.digit (hf : f.unicode) : ReadsOne f IsDecimal digit := fun _ _ => reads_digit hf

theorem ReadsOne.sequence (ha : ReadsOne f P a) (hb : ReadsOne f Q b) :
    (Expression.sequence a b).Reads f cs c ↔ ∃ x y, P x ∧ Q y ∧ cs = [x, y] ∧ c = [] := by
  constructor
  · rintro ⟨_, _, _, _, hx, hy, rfl, rfl⟩
    obtain ⟨x, hP, rfl, rfl⟩ := (ha _ _).mp hx
    obtain ⟨y, hQ, rfl, rfl⟩ := (hb _ _).mp hy
    exact ⟨x, y, hP, hQ, rfl, rfl⟩
  · rintro ⟨x, y, hx, hy, rfl, rfl⟩
    exact reads_pair ((ha _ _).mpr ⟨x, hx, rfl, rfl⟩) ((hb _ _).mpr ⟨y, hy, rfl, rfl⟩)

theorem ReadsOne.maybe_sequence (ha : ReadsOne f P a) (hb : ReadsOne f Q b) :
    (Expression.sequence (maybe a) b).Reads f cs c ↔
      (∃ y, Q y ∧ cs = [y] ∧ c = []) ∨ ∃ x y, P x ∧ Q y ∧ cs = [x, y] ∧ c = [] := by
  rw [← hb, ← ha.sequence hb]
  constructor
  · rintro ⟨_, ys, _, rest, hx, hy, rfl, rfl⟩
    rcases reads_maybe.mp hx with ⟨rfl, rfl⟩ | hx
    · exact .inl (by simpa using hy)
    · exact .inr ⟨_, ys, _, rest, hx, hy, rfl, rfl⟩
  · rintro (h | ⟨_, _, _, _, hx, hy, rfl, rfl⟩)
    · exact ⟨[], cs, [], c, reads_maybe.mpr (.inl ⟨rfl, rfl⟩), h, rfl, by simp⟩
    · exact ⟨_, _, _, _, reads_maybe.mpr (.inr hx), hy, rfl, rfl⟩

theorem reads_remembered : (remembered name e).Reads f cs [(name, cs)] ↔ e.Reads f cs [] := by
  constructor
  · rintro ⟨inner, h, hc⟩
    cases hc
    exact h
  · exact fun h => ⟨[], h, rfl⟩

/-- One digit or two, by their numbers. -/
theorem isPart_iff {most : Nat} : IsPart most cs ↔
    (∃ y, cs = [y] ∧ 1 ≤ y.toNat - 48 ∧ y.toNat - 48 ≤ most) ∨ ∃ x y, cs = [x, y] ∧
      1 ≤ 10 * (x.toNat - 48) + (y.toNat - 48) ∧
      10 * (x.toNat - 48) + (y.toNat - 48) ≤ most := by
  unfold IsPart
  rw [or_and_right, List.length_eq_one_iff, List.length_eq_two]
  simp only [← exists_and_right, value]
  constructor
  · rintro (⟨y, rfl, h⟩ | ⟨x, y, rfl, h⟩)
    · exact .inl ⟨y, rfl, by simpa [Nat.ofDigitChars_cons] using h⟩
    · exact .inr ⟨x, y, rfl, by simpa [Nat.ofDigitChars_cons] using h⟩
  · rintro (⟨y, rfl, h⟩ | ⟨x, y, rfl, h⟩)
    · exact .inl ⟨y, rfl, by simpa [Nat.ofDigitChars_cons] using h⟩
    · exact .inr ⟨x, y, rfl, by simpa [Nat.ofDigitChars_cons] using h⟩

variable (hf : f.unicode) (hcs : ∀ d ∈ cs, d.isDigit)
include hf hcs

theorem reads_month_iff : month.Reads f cs [("month", cs)] ↔ IsPart 12 cs := by
  rw [month, reads_remembered, isPart_iff]
  refine (or_congr
    ((ReadsOne.plain hf (by decide)).maybe_sequence (.between hf (by decide)))
    ((ReadsOne.plain hf (by decide)).sequence (.between hf (by decide)))).trans ?_
  match cs, hcs with
  | [], _ => simp
  | [y], hcs =>
      have hy := isDigit_iff.mp (hcs y (by simp))
      have digit : '1' ≤ y ∧ y ≤ '9' ↔ 1 ≤ y.toNat - 48 ∧ y.toNat - 48 ≤ 12 := by
        simp only [char_le_iff, Char.reduceToNat]
        omega
      simpa using digit
  | [x, y], hcs =>
      have hx := isDigit_iff.mp (hcs x (by simp))
      have hy := isDigit_iff.mp (hcs y (by simp))
      have digits : ('1' ≤ y ∧ y ≤ '9') ∧ x = '0' ∨ ('0' ≤ y ∧ y ≤ '2') ∧ x = '1' ↔
          1 ≤ 10 * (x.toNat - 48) + (y.toNat - 48) ∧
            10 * (x.toNat - 48) + (y.toNat - 48) ≤ 12 := by
        simp only [char_le_iff, ← Char.toNat_inj, Char.reduceToNat]
        omega
      simpa using digits
  | x :: y :: z :: rest, _ => simp

theorem reads_day_iff : day.Reads f cs [("day", cs)] ↔ IsPart 31 cs := by
  rw [day, reads_remembered, isPart_iff]
  refine (or_congr
    ((ReadsOne.plain hf (by decide)).maybe_sequence (.between hf (by decide)))
    (or_congr ((ReadsOne.among hf (by decide)).sequence (.digit hf))
      ((ReadsOne.plain hf (by decide)).sequence (.among hf (by decide))))).trans ?_
  match cs, hcs with
  | [], _ => simp
  | [y], hcs =>
      have hy := isDigit_iff.mp (hcs y (by simp))
      have digit : '1' ≤ y ∧ y ≤ '9' ↔ 1 ≤ y.toNat - 48 ∧ y.toNat - 48 ≤ 31 := by
        simp only [char_le_iff, Char.reduceToNat]
        omega
      simpa using digit
  | [x, y], hcs =>
      have hx := isDigit_iff.mp (hcs x (by simp))
      have hy := isDigit_iff.mp (hcs y (by simp))
      have digits : ('1' ≤ y ∧ y ≤ '9') ∧ x = '0' ∨ (x = '1' ∨ x = '2') ∨
          x = '3' ∧ y = '0' ∨ x = '3' ∧ y = '1' ↔
          1 ≤ 10 * (x.toNat - 48) + (y.toNat - 48) ∧
            10 * (x.toNat - 48) + (y.toNat - 48) ≤ 31 := by
        simp only [char_le_iff, ← Char.toNat_inj, Char.reduceToNat]
        omega
      simpa [IsDecimal.of_isDigit (hcs y (by simp))] using digits
  | x :: y :: z :: rest, _ => simp

theorem reads_year_iff {n : Nat} : (year n).Reads f cs [("year", cs)] ↔ cs.length = n := by
  rw [year, reads_remembered, reads_digits hf]
  simp only [Count.min, Count.max]
  constructor
  · rintro ⟨-, -, hle, hge⟩
    have := hge n rfl
    omega
  · rintro rfl
    exact ⟨fun d hd => .of_isDigit (hcs d hd), trivial, le_rfl, fun m hm => by cases hm; omega⟩

end Parts

/-! ## Texts of ASCII digits -/

section Texts

variable {f : Flags} (hf : f.unicode) {o : Order} {g g' : Date.Groups} {s t s' t' : Char}
  {text : String} {c : Captures}

/-- The separators cut a text in one way only. -/
theorem eq_of_joined_eq (hg : ∀ d ∈ g.chars, IsDecimal d) (hg' : ∀ d ∈ g'.chars, IsDecimal d)
    (hs : s ∈ separators) (ht : t ∈ separators) (hs' : s' ∈ separators) (ht' : t' ∈ separators)
    (h : g.joined s t = g'.joined s' t') : g = g' := by
  simp only [Date.Groups.chars, List.mem_append, or_imp, forall_and] at hg hg'
  obtain ⟨hfirst, -, hrest⟩ := cut_eq hg.1.1 hg'.1.1 (not_isDecimal_of_separator hs)
    (not_isDecimal_of_separator hs') h
  obtain ⟨hsecond, -, hthird⟩ := cut_eq hg.1.2 hg'.1.2 (not_isDecimal_of_separator ht)
    (not_isDecimal_of_separator ht') hrest
  cases g
  cases g'
  exact Date.Groups.mk.injEq .. |>.mpr ⟨hfirst, hsecond, hthird⟩

include hf

/-- A text of ASCII digits has the form for an order exactly if its groups fit
the order. -/
theorem reads_expression_iff (h : g.Spell text) :
    o.expression.Reads f text.toList c ↔ o.Fits g ∧ c = o.captures g := by
  obtain ⟨hg, s, hs, s', hs', htext⟩ := h
  have parts := fun d => (Order.mem_chars_iff (o := o) (g := g) (d := d)).mpr
  have fits : ((year o.yearDigits).Reads f (o.year g) [("year", o.year g)] ∧
      month.Reads f (o.month g) [("month", o.month g)] ∧
      day.Reads f (o.day g) [("day", o.day g)]) ↔ o.Fits g := by
    rw [reads_year_iff hf fun d hd => hg d (parts d (.inl hd)),
      reads_month_iff hf fun d hd => hg d (parts d (.inr (.inl hd))),
      reads_day_iff hf fun d hd => hg d (parts d (.inr (.inr hd)))]
    rfl
  rw [reads_expression hf, ← fits]
  constructor
  · rintro ⟨g', ⟨t, ht, t', ht', hjoined⟩, hyear, hmonth, hday, rfl⟩
    have hg' : ∀ d ∈ g'.chars, IsDecimal d := by
      intro d hd
      rcases (Order.mem_chars_iff (o := o)).mp hd with hd | hd | hd
      · exact (isGroup_year hf _ _ hyear).1 d hd
      · exact (isGroup_month hf _ _ hmonth).1 d hd
      · exact (isGroup_day hf _ _ hday).1 d hd
    obtain rfl := eq_of_joined_eq (fun d hd => .of_isDigit (hg d hd)) hg' hs hs' ht ht'
      (htext.symm.trans hjoined)
    exact ⟨⟨hyear, hmonth, hday⟩, rfl⟩
  · rintro ⟨⟨hyear, hmonth, hday⟩, rfl⟩
    exact ⟨g, ⟨s, hs, s', hs', htext⟩, hyear, hmonth, hday, rfl⟩

end Texts

/-! ## Values -/

section Values

variable {f : Flags} {o : Order} {g : Date.Groups} {century : Int} {c : Captures} {text : String}

/-- Where a date is read, the text is groups of ASCII digits. -/
theorem exists_spell_of_readDate (hf : f.unicode) {d : Date}
    (hreads : o.expression.Reads f text.toList c) (h : readDate century c = .ok d) :
    ∃ g : Date.Groups, g.Spell text := by
  obtain ⟨g, hjoined, hyear, hmonth, hday, rfl⟩ := (reads_expression hf).mp hreads
  obtain ⟨_, hy, h⟩ := except_bind_eq_ok.mp h
  obtain ⟨_, hm, h⟩ := except_bind_eq_ok.mp h
  obtain ⟨_, hd, -⟩ := except_bind_eq_ok.mp h
  refine ⟨g, fun x hx => ?_, hjoined⟩
  rcases (Order.mem_chars_iff (o := o)).mp hx with hx | hx | hx
  · exact isDigit_of_intPart (o.captures_year g) (isGroup_year hf _ _ hyear).1 hy x hx
  · exact isDigit_of_natPart (o.captures_month g) (isGroup_month hf _ _ hmonth).1 hm x hx
  · exact isDigit_of_natPart (o.captures_day g) (isGroup_day hf _ _ hday).1 hd x hx

/-- The value of groups is the date that they name in the first order that
fits. -/
theorem readDate_captures (ho : g.order? = some o) (hg : ∀ d ∈ g.chars, d.isDigit) :
    readDate century (o.captures g) =
      match o.date? century g with
      | some d => .ok d
      | none => .error (.notADate (o.yearOf g century) (value (o.month g)) (value (o.day g))) := by
  have hfits : o.Fits g := by simpa using List.find?_some ho
  obtain ⟨hyear, ⟨hmonth, -, hm12⟩, hday, -, hd31⟩ := hfits
  have parts := fun d => (Order.mem_chars_iff (o := o) (g := g) (d := d)).mpr
  have hyd := fun d hd => hg d (parts d (.inl hd))
  have hmd := fun d hd => hg d (parts d (.inr (.inl hd)))
  have hdd := fun d hd => hg d (parts d (.inr (.inr hd)))
  have hdigits := Order.yearDigits_of_mem_all (List.mem_of_find?_eq_some ho)
  have hlt : value (o.year g) < 10 ^ 4 :=
    (ofDigitChars_lt hyd).trans_le (Nat.pow_le_pow_right (by decide) (by omega))
  have hy : intPart max31 (o.captures g) "year" = .ok (value (o.year g) : Int) :=
    intPart_of_isDigit (o.captures_year g) (List.ne_nil_of_length_pos (by omega)) hyd
      (hlt.le.trans (by decide))
  have hm : natPart max32 (o.captures g) "month" = .ok (value (o.month g)) :=
    (natPart_eq_ok_iff (o.captures_month g) (List.ne_nil_of_length_pos (by omega))
      fun d hd => .of_isDigit (hmd d hd)).mpr ⟨hmd, hm12.trans (by decide), rfl⟩
  have hd : natPart max32 (o.captures g) "day" = .ok (value (o.day g)) :=
    (natPart_eq_ok_iff (o.captures_day g) (List.ne_nil_of_length_pos (by omega))
      fun d hd => .of_isDigit (hdd d hd)).mpr ⟨hdd, hd31.trans (by decide), rfl⟩
  have hcentury : (value (o.year g) : Int) + centuryOf century (o.captures g) =
      o.yearOf g century := by
    simp only [centuryOf, o.captures_year g, byteLength_of_isDigit hyd, hyear, Order.yearOf]
    rw [add_comm]
  simp only [readDate, hy, hm, hd, hcentury, bind, Except.bind, Order.date?]
  rfl

end Values

/-! ## The first form -/

section FirstForm

variable {g : Date.Groups} {century : Int} {text : String} {forms : List TextForm} {v : Value}

theorem isLocal_expression {o : Order} : o.expression.isLocal := by
  unfold Order.expression
  split <;> rfl

variable (hforms : dates.mapM (ofExpression · false .date) = .ok forms)
include hforms

/-- The first form that a text of ASCII digits has is that of the first order
that fits. -/
theorem firstMatch_dates (h : g.Spell text) :
    (firstMatch text forms).map (fun (form, caps) => (form.reader, caps)) =
      g.order?.map fun o => (.date, o.captures g) := by
  rw [dates_eq_map] at hforms
  refine firstMatch_of_forall₂ ((List.forall₂_map_left_iff.mp (forall₂_mapM hforms)).imp ?_)
  intro o form hform
  have hreads := fun c => reads_expression_iff (o := o) (f := Flags.initial false) (c := c) rfl h
  refine ⟨ofExpression_reader hform, ?_, fun c hc => ?_⟩
  · rw [isMatch_iff isLocal_expression hform, decide_eq_true_iff]
    simp only [hreads, exists_and_left, exists_eq, and_true]
  · exact ((hreads c).mp (reads_of_captures? isLocal_expression hform hc rfl)).2

/-- The first form of groups that fit an order. -/
theorem exists_firstMatch_of_order? {o : Order} (h : g.Spell text) (ho : g.order? = some o) :
    ∃ form, form.reader = .date ∧ firstMatch text forms = some (form, o.captures g) :=
  exists_firstMatch_eq_some (by rw [firstMatch_dates hforms h, ho, Option.map_some])

/-- A text is read as the date that its groups name, and only as that. -/
theorem readsAs_date_iff : ReadsAs century forms text v ↔
    ∃ (g : Date.Groups) (d : Date), g.Spell text ∧ g.date? century = some d ∧ v = .date d := by
  constructor
  · rintro ⟨form, caps, hfirst, hread⟩
    obtain ⟨hmem, hc⟩ := mem_of_firstMatch hfirst
    obtain ⟨e, he, hform⟩ := exists_of_mem_mapM hforms hmem
    rw [dates_eq_map] at he
    obtain ⟨o, -, rfl⟩ := List.mem_map.mp he
    have hreads := reads_of_captures? isLocal_expression hform hc rfl
    rw [ofExpression_reader hform, Reader.read, orRefused_eq_ok, map_eq_ok] at hread
    obtain ⟨d, hread, rfl⟩ := hread
    obtain ⟨g, hspell⟩ := exists_spell_of_readDate rfl hreads hread
    -- the form is that of the first order that fits the groups
    have hmatch := firstMatch_dates hforms hspell
    rw [hfirst, Option.map_some] at hmatch
    obtain ⟨o', ho', heq⟩ := Option.map_eq_some_iff.mp hmatch.symm
    obtain ⟨-, rfl⟩ := Prod.mk.inj heq
    rw [readDate_captures ho' hspell.isDigit] at hread
    refine ⟨g, d, hspell, ?_, rfl⟩
    rw [Date.Groups.date?, ho', Option.bind_some]
    split at hread
    · rename_i d' hd
      cases hread
      exact hd
    · cases hread
  · rintro ⟨g, d, hspell, hd, rfl⟩
    obtain ⟨o, ho, hd⟩ := Option.bind_eq_some_iff.mp hd
    obtain ⟨form, hreader, hfirst⟩ := exists_firstMatch_of_order? hforms hspell ho
    refine ⟨form, _, hfirst, ?_⟩
    rw [hreader, Reader.read, readDate_captures ho hspell.isDigit, hd]
    rfl

end FirstForm

end TextForm

theorem Kind.exists_textForms_date : ∃ forms,
    TextForm.dates.mapM (TextForm.ofExpression · false .date) = .ok forms ∧
      Kind.date.textForms = .ok forms := by
  have light : TextForm.dates.all (fun e => isSimple e &&
      decide (weight e + 4 * stateBytes ≤ maxBytes)) = true := by decide +kernel
  obtain ⟨forms, hforms⟩ := exists_mapM (g := (TextForm.ofExpression · false .date))
    fun e he => by
      have he := List.all_eq_true.mp light e he
      rw [Bool.and_eq_true, decide_eq_true_eq] at he
      exact exists_ofExpression he.1 he.2 false .date
  exact ⟨forms, hforms, by rw [Kind.textForms, hforms]⟩

namespace ValueType

open Date (Order)

variable (files : FileTree) (century : Int) (arity : Arity) (hook : Option Hook) (text : String)

/-- A text is read as a date exactly if it is three groups of digits that name
this date in the first order that fits, and the check from outside accepts it.
If there is no such date, the text is refused with the three numbers, whatever
other orders fit.  All other texts are refused too, and no run breaks off. -/
theorem readText_date :
    (∀ v, (mk .date arity hook).readText files century text = .ok v ↔
      ∃ (g : Date.Groups) (d : Date), g.Spell text ∧ g.date? century = some d ∧ v = .date d ∧
        Hook.accept hook v = .ok ()) ∧
    (∀ (g : Date.Groups) (o : Order), g.Spell text → g.order? = some o → o.date? century g = none →
      (mk .date arity hook).readText files century text = .error (.refused (.stringFormat "date"
        text (.notADate (o.yearOf g century) (value (o.month g)) (value (o.day g))) .api))) ∧
    ((∃ v, (mk .date arity hook).readText files century text = .ok v) ∨
      ∃ fault, (mk .date arity hook).readText files century text =
        .error (.refused (.stringFormat "date" text fault .api))) := by
  obtain ⟨forms, hall, hforms⟩ := Kind.exists_textForms_date
  have hforms : (mk .date arity hook).textForms = .ok forms := hforms
  refine ⟨fun v => ?_, fun g o hspell ho hnone => ?_, ?_⟩
  · rw [readText_eq_ok_iff hforms, readsAs_date_iff hall]
    constructor
    · rintro ⟨⟨g, d, hspell, hd, rfl⟩, haccept⟩
      exact ⟨g, d, hspell, hd, rfl, haccept⟩
    · rintro ⟨g, d, hspell, hd, rfl, haccept⟩
      exact ⟨⟨g, d, hspell, hd, rfl⟩, haccept⟩
  · obtain ⟨form, hreader, hfirst⟩ := exists_firstMatch_of_order? hall hspell ho
    have hread : form.reader.read century (o.captures g) text = .error (.refused
        (.notADate (o.yearOf g century) (value (o.month g)) (value (o.day g)))) := by
      rw [hreader, Reader.read, readDate_captures ho hspell.isDigit, hnone]
      rfl
    simp only [readText, hforms, orRefused, Except.mapError, bind, Except.bind, hfirst, hread]
    rfl
  · rcases @readText_cases files century _ text _ hforms with ⟨hbreaks, -⟩ | ⟨-, h⟩
    · cases (hbreaks.exists_not_isDigit hforms).1
    · exact h

/-- An instance: in the first order that fits it would be a day of February,
which has no such day.  The last order fits too, and would make it a day of
January. -/
theorem readText_date_february :
    (mk .date .single none).readText .empty 2000 "01-02-31" =
      .error (.refused (.stringFormat "date" "01-02-31" (.notADate 2001 2 31) .api)) ∧
    (Order.mk false 2).Fits ⟨['0', '1'], ['0', '2'], ['3', '1']⟩ ∧
    ((Order.mk false 2).date? 2000 ⟨['0', '1'], ['0', '2'], ['3', '1']⟩).isSome ∧
    ∃ d : Date, d.text = "2099-12-31" ∧
      (mk .date .single none).readText .empty 2000 "12.31.99" = .ok (.date d) := by
  have hfebruary : (Date.Groups.mk ['0', '1'] ['0', '2'] ['3', '1']).Spell "01-02-31" :=
    ⟨List.all_eq_true.mp rfl, '-', by decide, '-', by decide, by decide⟩
  have hdecember : (Date.Groups.mk ['1', '2'] ['3', '1'] ['9', '9']).Spell "12.31.99" :=
    ⟨List.all_eq_true.mp rfl, '.', by decide, '.', by decide, by decide⟩
  refine ⟨?_, by decide, by decide, ⟨2099, 12, 31, by decide⟩, by decide +kernel, ?_⟩
  · exact (readText_date .empty 2000 .single none _).2.1 _ ⟨true, 2⟩ hfebruary (by decide)
      (by decide)
  · exact ((readText_date .empty 2000 .single none _).1 _).mpr
      ⟨_, _, hdecember, by decide, rfl, rfl⟩

end ValueType

end TypeSchema
