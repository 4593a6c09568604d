/-
# Numbers — which doubles are read from the texts written for them

The form of a type of numbers is a sign and a decimal.  The minus is left out of
it where no number is below zero, and between two bounds the digits in front of
the point are counted: no more than the longer bound has.  Both are drawn from
the bounds, not from the texts of the numbers between them.

* The sign is missing for the negative zero only, which no zero is above
  (`Double.losesSign_iff`).
* The digits are those of the whole part of the greater bound.  A number between
  the bounds has no more of them in its own whole part, but its text is the
  shortest decimal, which may be the next power of ten
  (`Double.outgrows_limits_iff`).

Any other text is matched (`isMatch_number`), and read back, since the shortest
decimal is one that rounds to the double.
-/
import TypeSchema.Proofs.Double.Text
import TypeSchema.Proofs.TextForm.Clock
import TypeSchema.Proofs.ValueType.Acceptance

namespace TypeSchema

open Regex Expression TextForm

namespace TextForm

/-! ## Signs and digits -/

section Parts

variable {f : Flags} (hf : f.unicode) {cs : List Char} {c : Captures}

theorem reads_grouped {e : Expression} : (grouped e).Reads f cs c ↔ e.Reads f cs c := by
  have hchanges : f.changes [] = f := by cases f; rfl
  show e.Reads (f.changes []) cs c ↔ _
  rw [hchanges]

include hf

/-- The expression reads nothing but what starts with a digit or a point. -/
def StartsNumber (f : Flags) (e : Expression) : Prop :=
  ∀ cs c, e.Reads f cs c → ∃ a as, cs = a :: as ∧ (IsDecimal a ∨ a = '.')

/-- A signed number is read if there is a place for its sign and the rest is. -/
theorem reads_signed {e : Expression} (he : StartsNumber f e) {nonNegative negative : Bool}
    {a : Char} {as : List Char} (ha : a.isDigit) :
    (∃ c, (Expression.sequence (sign nonNegative) e).Reads f
        ((if negative then ['-'] else []) ++ a :: as) c) ↔
      (negative = true → nonNegative = false) ∧ ∃ c, e.Reads f (a :: as) c := by
  have hminus : a ≠ '-' := by rintro rfl; exact absurd ha (by decide)
  have hplus : a ≠ '+' := by rintro rfl; exact absurd ha (by decide)
  constructor
  · rintro ⟨_, xs, ys, first, rest, hsign, hread, htext, -⟩
    obtain ⟨rfl | rfl | ⟨rfl, rfl⟩, -⟩ := (reads_sign hf).mp hsign
    · cases negative with
      | true =>
          obtain ⟨b, bs, rfl, hb⟩ := he _ _ hread
          obtain ⟨rfl, -⟩ := List.cons.inj htext
          exact absurd hb (by decide)
      | false =>
          cases htext
          exact ⟨fun h => (Bool.false_ne_true h).elim, rest, hread⟩
    · cases negative with
      | true => cases htext
      | false => exact absurd (List.cons.inj htext).1 hplus
    · cases negative with
      | true =>
          obtain ⟨-, rfl⟩ := List.cons.inj htext
          exact ⟨fun _ => rfl, rest, hread⟩
      | false => exact absurd (List.cons.inj htext).1 hminus
  · rintro ⟨hplace, c, hread⟩
    have hsign : (sign nonNegative).Reads f (if negative then ['-'] else []) [] := by
      refine (reads_sign hf).mpr ⟨?_, rfl⟩
      cases negative with
      | true => exact .inr (.inr ⟨hplace rfl, rfl⟩)
      | false => exact .inl rfl
    exact ⟨c, _, a :: as, [], c, hsign, hread, rfl, (List.append_nil c).symm⟩

/-- One digit or more. -/
theorem reads_more (hne : cs ≠ []) (hall : ∀ d ∈ cs, IsDecimal d) :
    (times digit .more).Reads f cs [] := by
  refine (reads_digits hf).mpr ⟨hall, rfl, List.length_pos_iff.mpr hne, ?_⟩
  rintro _ ⟨⟩

/-- The places behind a point. -/
def places : Expression := inTurn [escaped '.', times digit .more]

theorem reads_places :
    places.Reads f cs c ↔ ∃ ds, cs = '.' :: ds ∧ ds ≠ [] ∧ (∀ d ∈ ds, IsDecimal d) ∧ c = [] := by
  constructor
  · rintro ⟨xs, ys, first, rest, hpoint, hdigits, rfl, rfl⟩
    obtain ⟨rfl, rfl⟩ := (reads_escaped_iff hf (by decide)).mp hpoint
    obtain ⟨hall, rfl, hmin, -⟩ := (reads_digits hf).mp hdigits
    exact ⟨ys, rfl, List.ne_nil_of_length_pos hmin, hall, rfl⟩
  · rintro ⟨ds, rfl, hne, hall, rfl⟩
    exact ⟨['.'], ds, [], [], reads_escaped, reads_more hf hne hall, rfl, rfl⟩

theorem startsNumber_places : StartsNumber f places := by
  intro cs c h
  obtain ⟨ds, rfl, -⟩ := (reads_places hf).mp h
  exact ⟨'.', ds, rfl, .inr rfl⟩

omit hf in
theorem StartsNumber.either {a b : Expression} (ha : StartsNumber f a) (hb : StartsNumber f b) :
    StartsNumber f (.either a b) := fun cs c h => h.elim (ha cs c) (hb cs c)

omit hf in
theorem StartsNumber.sequence {a b : Expression} (ha : StartsNumber f a) :
    StartsNumber f (.sequence a b) := by
  rintro _ _ ⟨xs, ys, first, rest, hread, -, rfl, -⟩
  obtain ⟨x, xs', rfl, hx⟩ := ha _ _ hread
  exact ⟨x, xs' ++ ys, rfl, hx⟩

omit hf in
theorem StartsNumber.grouped {e : Expression} (he : StartsNumber f e) :
    StartsNumber f (grouped e) := fun cs c h => he cs c (reads_grouped.mp h)

theorem startsNumber_digits {count : Count} (hmin : 1 ≤ count.min) :
    StartsNumber f (times digit count) := by
  intro cs c h
  obtain ⟨hall, -, hlength, -⟩ := (reads_digits hf).mp h
  obtain ⟨a, as, rfl⟩ := List.exists_cons_of_length_pos (hmin.trans hlength)
  exact ⟨a, as, rfl, .inl (hall a List.mem_cons_self)⟩

end Parts

/-! ## Numbers -/

section Numbers

open Double (pointed)

variable {f : Flags} (hf : f.unicode) {whole fraction : List Char}

/-- A number between two bounds, its sign left out. -/
def bounded (most : Nat) : Expression :=
  grouped (.either (.sequence (times digit (.between 1 most)) (maybe (grouped places))) places)

/-- A number that is not bounded on both sides, its sign left out. -/
def unbounded : Expression :=
  inTurn [grouped (.either
      (.sequence (times digit .more)
        (maybe (grouped (.sequence (escaped '.') (times digit .many)))))
      places),
    maybe (grouped (inTurn [among ['e', 'E'], maybe (among ['-', '+']), times digit .more]))]

theorem number_eq (min max : Option Double) :
    number min max = .sequence (sign (min.any Double.zero.le)) (match min, max with
      | some lo, some hi => bounded (Nat.max (wholeDigits lo) (wholeDigits hi))
      | _, _ => unbounded) := by
  cases min with
  | none => rfl
  | some lo => cases max <;> rfl

include hf

theorem startsNumber_bounded {most : Nat} : StartsNumber f (bounded most) :=
  .grouped (.either (.sequence (startsNumber_digits hf le_rfl)) (startsNumber_places hf))

theorem startsNumber_unbounded : StartsNumber f unbounded :=
  .sequence (.grouped
    (.either (.sequence (startsNumber_digits hf le_rfl)) (startsNumber_places hf)))

variable (hne : whole ≠ []) (hwhole : ∀ c ∈ whole, c.isDigit)
  (hfraction : ∀ c ∈ fraction, c.isDigit)

include hfraction in
theorem reads_pointed : ∃ c, (maybe (grouped places)).Reads f (pointed fraction) c := by
  cases fraction with
  | nil => exact ⟨[], reads_maybe.mpr (.inl ⟨rfl, rfl⟩)⟩
  | cons d ds =>
      refine ⟨[], reads_maybe.mpr (.inr (reads_grouped.mpr ((reads_places hf).mpr ?_)))⟩
      exact ⟨d :: ds, rfl, List.cons_ne_nil _ _, fun x hx => .of_isDigit (hfraction x hx), rfl⟩

include hne hwhole hfraction

/-- Between bounds a number is read if it has no more digits in front of the
point than counted. -/
theorem reads_bounded {most : Nat} (hmost : 1 ≤ most) :
    (∃ c, (bounded most).Reads f (whole ++ pointed fraction) c) ↔ whole.length ≤ most := by
  have noPoint : '.' ∉ whole := fun hmem => absurd (hwhole '.' hmem) (by decide)
  constructor
  · rintro ⟨c, hread⟩
    rcases reads_grouped.mp hread with hdigits | hplaces
    · obtain ⟨xs, ys, first, rest, hxs, hys, htext, -⟩ := hdigits
      obtain ⟨-, -, -, hmax⟩ := (reads_digits hf).mp hxs
      have hlength : xs.length ≤ 1 + (most - 1) := hmax most rfl
      suffices hle : whole.length ≤ xs.length by omega
      rcases List.append_eq_append_iff.mp htext with ⟨zs, rfl, -⟩ | ⟨zs, rfl, hzs⟩
      · rw [List.length_append]
        omega
      · -- What is left over of the whole digits would start with the point.
        cases zs with
        | nil => rw [List.append_nil]
        | cons z zs =>
            rcases reads_maybe.mp hys with ⟨rfl, -⟩ | hplaces
            · cases hzs
            · obtain ⟨ds, rfl, -⟩ := (reads_places hf).mp (reads_grouped.mp hplaces)
              obtain ⟨rfl, -⟩ := List.cons.inj hzs
              exact absurd (List.mem_append_right xs List.mem_cons_self) noPoint
    · obtain ⟨ds, hds, -⟩ := (reads_places hf).mp hplaces
      obtain ⟨a, as, rfl⟩ := List.exists_cons_of_ne_nil hne
      obtain ⟨rfl, -⟩ := List.cons.inj hds
      exact absurd List.mem_cons_self noPoint
  · intro hle
    obtain ⟨c, hc⟩ := reads_pointed hf hfraction
    refine ⟨_, reads_grouped.mpr (.inl ⟨whole, _, [], c, (reads_digits hf).mpr ?_, hc, rfl, rfl⟩)⟩
    refine ⟨fun d hd => .of_isDigit (hwhole d hd), rfl, List.length_pos_iff.mpr hne, ?_⟩
    rintro m ⟨⟩
    exact hle.trans (show most ≤ 1 + (most - 1) by omega)

theorem reads_unbounded : ∃ c, unbounded.Reads f (whole ++ pointed fraction) c := by
  have digits : (times digit .more).Reads f whole [] :=
    reads_more hf hne fun d hd => .of_isDigit (hwhole d hd)
  have point : (maybe (grouped (.sequence (escaped '.') (times digit .many)))).Reads f
      (pointed fraction) [] := by
    cases fraction with
    | nil => exact reads_maybe.mpr (.inl ⟨rfl, rfl⟩)
    | cons d ds =>
        refine reads_maybe.mpr (.inr (reads_grouped.mpr
          ⟨['.'], d :: ds, [], [], reads_escaped, (reads_digits hf).mpr ?_, rfl, rfl⟩))
        refine ⟨fun x hx => .of_isDigit (hfraction x hx), rfl, Nat.zero_le _, ?_⟩
        rintro _ ⟨⟩
  have front : (grouped (.either
      (.sequence (times digit .more)
        (maybe (grouped (.sequence (escaped '.') (times digit .many)))))
      places)).Reads f (whole ++ pointed fraction) [] :=
    reads_grouped.mpr (.inl ⟨whole, pointed fraction, [], [], digits, point, rfl, rfl⟩)
  exact ⟨[], whole ++ pointed fraction, [], [], [], front, reads_maybe.mpr (.inl ⟨rfl, rfl⟩),
    (List.append_nil _).symm, rfl⟩

end Numbers

/-! ## The form of numbers -/

section Form

variable {min max : Option Double} {form : TextForm} {d : Double}

theorem isLocal_number : (number min max).isLocal := by
  rw [number_eq]
  refine Bool.and_eq_true_iff.mpr ⟨isLocal_sign, ?_⟩
  split <;> rfl

theorem isSimple_number : isSimple (number min max) := by
  rw [number_eq]
  refine Bool.and_eq_true_iff.mpr ⟨?_, ?_⟩
  · unfold sign
    split <;> rfl
  · split <;> rfl

/-- The more digits, the more there is to match. -/
theorem weight_bounded_le {m n : Nat} (h : m ≤ n) : weight (bounded m) ≤ weight (bounded n) := by
  have digits : weight (times digit (.between 1 m)) ≤ weight (times digit (.between 1 n)) := by
    refine Nat.add_le_add_right (Nat.mul_le_mul_right _ ?_) _
    exact max_le_max h le_rfl
  exact Nat.add_le_add_right (Nat.add_le_add_right (Nat.add_le_add_right
    (Nat.add_le_add_right digits _) _) _) _

/-- A bound has too few digits to make the form too large. -/
theorem exists_form_number : ∃ form, ofExpression (number min max) false .number = .ok form := by
  have light : ∀ nonNegative,
      weight (sign nonNegative) + weight (bounded 309) + 4 * stateBytes ≤ maxBytes ∧
      weight (sign nonNegative) + weight unbounded + 4 * stateBytes ≤ maxBytes := by
    decide +kernel
  refine exists_ofExpression isSimple_number ?_ false .number
  rw [number_eq]
  obtain ⟨hbounded, hunbounded⟩ := light (min.any Double.zero.le)
  split
  · rename_i lo hi
    have := weight_bounded_le (max_le lo.wholeDigits_le hi.wholeDigits_le)
    refine le_trans ?_ hbounded
    exact Nat.add_le_add_right (Nat.add_le_add_left this _) _
  · exact hunbounded

/-- The text of a double has the form if there is a place for its sign, and
between two bounds if it has no more digits in front of the point than one of
them. -/
theorem isMatch_number (hform : ofExpression (number min max) false .number = .ok form)
    (finite : d.isFinite = true) :
    form.isMatch d.text ↔ (d.negative = true → min.any Double.zero.le = false) ∧
      ∀ lo hi, min = some lo → max = some hi →
        d.writtenDigits ≤ Nat.max (wholeDigits lo) (wholeDigits hi) := by
  obtain ⟨whole, fraction, h⟩ := Double.exists_isWritten finite
  have hf : (Flags.initial false).unicode := rfl
  obtain ⟨a, as, hcons⟩ := List.exists_cons_of_ne_nil h.whole_ne_nil
  have hdigit : a.isDigit := h.isDigit_whole a (hcons ▸ List.mem_cons_self)
  have htext : whole ++ Double.pointed fraction = a :: (as ++ Double.pointed fraction) := by
    rw [hcons]
    rfl
  rw [isMatch_iff isLocal_number hform, h.toList_text, number_eq, htext]
  split
  · rename_i lo hi
    rw [reads_signed hf (startsNumber_bounded hf) hdigit, ← htext,
      reads_bounded hf h.whole_ne_nil h.isDigit_whole h.isDigit_fraction
        (lo.wholeDigits_pos.trans_le (Nat.le_max_left ..)), h.length_whole]
    refine and_congr Iff.rfl ?_
    constructor
    · rintro hle _ _ ⟨⟩ ⟨⟩
      exact hle
    · intro hle
      exact hle lo hi rfl rfl
  · rename_i other
    rw [reads_signed hf (startsNumber_unbounded hf) hdigit, ← htext]
    refine and_congr Iff.rfl (iff_of_true ?_ ?_)
    · exact reads_unbounded hf h.whole_ne_nil h.isDigit_whole h.isDigit_fraction
    · intro lo hi hmin hmax
      exact (other lo hi hmin hmax).elim

end Form

end TextForm

/-! ## Doubles without a form -/

section Outgrown

variable {l : NumberLimits} {d : Double}

/-- The double is the negative zero and the lower bound is a zero, so that the
form has no place for the minus. -/
def Double.LosesSign (d : Double) (l : NumberLimits) : Prop :=
  d.negative = true ∧ d.isZero = true ∧ ∃ lo, l.min = some lo ∧ lo.isZero = true

/-- The text has more digits in front of the point than two bounds.  Between
finite bounds the double has the greater magnitude of theirs, and its shortest
decimal has a digit more than its whole part. -/
def Double.Outgrows (d : Double) (l : NumberLimits) : Prop :=
  ∃ lo hi, l.min = some lo ∧ l.max = some hi ∧
    if lo.isFinite ∧ hi.isFinite then
      d.magnitude = max lo.magnitude hi.magnitude ∧ wholeDigits d < d.writtenDigits
    else max (wholeDigits lo) (wholeDigits hi) < d.writtenDigits

variable (agree : l.check = .ok ()) (accepted : l.accept d = .ok ())
include agree accepted

theorem NumberLimits.order_le_of_min {lo : Double} (hlo : l.min = some lo) :
    lo.order ≤ d.order := by
  obtain ⟨finite, hmin, -⟩ := NumberLimits.accept_eq_ok.mp accepted
  have hnot := hmin lo hlo
  have hd := Double.not_isNaN finite
  have hlo' := (NumberLimits.isNaN_of_check agree).1 lo hlo
  rw [← Bool.not_eq_true, Double.lt_iff hd hlo'] at hnot
  exact Int.not_lt.mp hnot

theorem NumberLimits.order_le_of_max {hi : Double} (hhi : l.max = some hi) :
    d.order ≤ hi.order := by
  obtain ⟨finite, -, hmax⟩ := NumberLimits.accept_eq_ok.mp accepted
  have hnot := hmax hi hhi
  have hd := Double.not_isNaN finite
  have hhi' := (NumberLimits.isNaN_of_check agree).2 hi hhi
  rw [← Bool.not_eq_true, Double.lt_iff hhi' hd] at hnot
  exact Int.not_lt.mp hnot

/-- Of the doubles that no number may be below, only a zero is written with a
minus. -/
theorem Double.losesSign_iff :
    d.LosesSign l ↔ d.negative = true ∧ l.min.any Double.zero.le = true := by
  refine and_congr_right fun hnegative => ?_
  have horder : d.order = -(d.magnitude : ℤ) := if_pos hnegative
  have hany : l.min.any Double.zero.le = true ↔ ∃ lo, l.min = some lo ∧ 0 ≤ lo.order := by
    rw [Option.any_eq_true]
    refine exists_congr fun lo => and_congr_right fun hlo => ?_
    rw [Double.le, (NumberLimits.isNaN_of_check agree).1 lo hlo]
    exact decide_eq_true_iff
  rw [hany]
  constructor
  · rintro ⟨-, lo, hlo, hzero⟩
    have hm : lo.magnitude = 0 := of_decide_eq_true hzero
    have := lo.magnitude_eq_natAbs
    exact ⟨lo, hlo, by omega⟩
  · rintro ⟨lo, hlo, hle⟩
    have hbelow := NumberLimits.order_le_of_min agree accepted hlo
    have := lo.magnitude_eq_natAbs
    refine ⟨decide_eq_true ?_, lo, hlo, decide_eq_true ?_⟩
    · omega
    · omega

/-- Only the digits of the greater bound matter. -/
theorem Double.outgrows_limits_iff :
    d.Outgrows l ↔ ∃ lo hi, l.min = some lo ∧ l.max = some hi ∧
      max (wholeDigits lo) (wholeDigits hi) < d.writtenDigits := by
  obtain ⟨finite, -, -⟩ := NumberLimits.accept_eq_ok.mp accepted
  refine exists_congr fun lo => exists_congr fun hi => and_congr_right fun hlo =>
    and_congr_right fun hhi => ?_
  split
  · rename_i hfinite
    obtain ⟨hlo', hhi'⟩ := hfinite
    have hmax := Double.magnitude_le_max (NumberLimits.order_le_of_min agree accepted hlo)
      (NumberLimits.order_le_of_max agree accepted hhi)
    rcases le_total lo.magnitude hi.magnitude with hle | hle
    · rw [max_eq_right hle] at hmax ⊢
      rw [Double.max_wholeDigits hlo' hhi' hle]
      exact (Double.outgrows_iff finite hhi' hmax).symm
    · rw [max_eq_left hle] at hmax ⊢
      rw [max_comm, Double.max_wholeDigits hhi' hlo' hle]
      exact (Double.outgrows_iff finite hlo' hmax).symm
  · exact Iff.rfl

end Outgrown

namespace ValueType

variable (files : FileTree) (century : Int) {l : NumberLimits} {arity : Arity}
  {hook : Option Hook} {d : Double}

/-- Every double that a type of numbers accepts has a text.  The text has the
form of the type, and is read back as the double, unless it is that of a negative
zero where no number may be below zero, or outgrows two bounds. -/
theorem readText_writeText_number (agree : (Kind.number l).checkConstraints = .ok ())
    (accepted : (mk (.number l) arity hook).validateItem files (.float d) = .ok ()) :
    ∃ forms, (mk (.number l) arity hook).textForms = .ok forms ∧
      (mk (.number l) arity hook).writeText files (.float d) = .ok d.text ∧
      ((∃ form ∈ forms, form.isMatch d.text) ↔ ¬ (d.LosesSign l ∨ d.Outgrows l)) ∧
      ((mk (.number l) arity hook).readText files century d.text = .ok (.float d) ↔
        ¬ (d.LosesSign l ∨ d.Outgrows l)) := by
  obtain ⟨form, hform⟩ : ∃ form, ofExpression (number l.min l.max) false .number = .ok form :=
    exists_form_number
  have hforms : (mk (.number l) arity hook).textForms = .ok [form] := by
    rw [textForms, Kind.textForms, hform]
    rfl
  have within : l.accept d = .ok () := by
    have := ValueType.accept_of_validateItem accepted
    rwa [ValueType.kind, Kind.accept] at this
  obtain ⟨finite, -, -⟩ := NumberLimits.accept_eq_ok.mp within
  have hmatch : form.isMatch d.text ↔ ¬ (d.LosesSign l ∨ d.Outgrows l) := by
    rw [isMatch_number hform finite, not_or, Double.losesSign_iff agree within,
      Double.outgrows_limits_iff agree within]
    refine and_congr ?_ ?_
    · rw [not_and, Bool.not_eq_true]
    · constructor
      · rintro hfits ⟨lo, hi, hlo, hhi, hlt⟩
        exact Nat.not_lt.mpr (hfits lo hi hlo hhi) hlt
      · intro hfits lo hi hlo hhi
        exact Nat.not_lt.mp fun hlt => hfits ⟨lo, hi, hlo, hhi, hlt⟩
  have htext : (mk (.number l) arity hook).writeText files (.float d) = .ok d.text := by
    refine ValueType.writeText_eq_ok.mpr ⟨accepted, ?_⟩
    rw [ValueType.kind, Kind.textOf]
  refine ⟨[form], hforms, htext, ?_, ?_⟩
  · rw [← hmatch]
    constructor
    · rintro ⟨g, hg, hm⟩
      exact List.mem_singleton.mp hg ▸ hm
    · intro hm
      exact ⟨form, List.mem_singleton_self _, hm⟩
  · rw [← hmatch]
    constructor
    · intro hread
      by_contra hno
      have hno' : ∀ g ∈ [form], ¬ g.isMatch d.text := fun g hg => List.mem_singleton.mp hg ▸ hno
      cases (readText_of_not_isMatch hforms hno').symm.trans hread
    · intro hm
      refine ValueType.readText_eq_ok hforms (.head hm fun c _ => ?_) accepted
      rw [ofExpression_reader hform, TextForm.Reader.read, Double.ofChars_text finite]

/-- The double nearest to 10^23 is below it: its 23 digits are the most that a
bound of its own allows, but its shortest text has 24. -/
theorem readText_writeText_number_power :
    ∃ d : Double, (Kind.number ⟨some .zero, some d⟩).checkConstraints = .ok () ∧
      (mk (.number ⟨some .zero, some d⟩) .single none).validateItem .empty (.float d) = .ok () ∧
      ∃ forms, (mk (.number ⟨some .zero, some d⟩) .single none).textForms = .ok forms ∧
        (mk (.number ⟨some .zero, some d⟩) .single none).writeText .empty (.float d) =
          .ok "100000000000000000000000" ∧
        (¬ ∃ form ∈ forms, form.isMatch "100000000000000000000000") ∧
        (mk (.number ⟨some .zero, some d⟩) .single none).readText .empty 2000
          "100000000000000000000000" ≠ .ok (.float d) := by
  let d : Double := .ofMagnitude false 0x44B52D02C7E14AF6
  let l : NumberLimits := ⟨some .zero, some d⟩
  have agree : (Kind.number l).checkConstraints = .ok () := rfl
  have accepted : (mk (.number l) .single none).validateItem .empty (.float d) = .ok () := by
    have within : l.accept d = .ok () := by
      refine NumberLimits.accept_eq_ok.mpr ⟨by decide +kernel, ?_, ?_⟩
      · rintro lo ⟨⟩
        decide +kernel
      · rintro hi ⟨⟩
        decide +kernel
    rw [validateItem, kind, Kind.accept, within]
    rfl
  have htext : d.text = "100000000000000000000000" := by decide +kernel
  have outgrows : d.LosesSign l ∨ d.Outgrows l := by
    refine .inr ⟨.zero, d, rfl, rfl, ?_⟩
    rw [Double.writtenDigits, htext]
    decide +kernel
  obtain ⟨forms, hforms, hwrite, hmatch, hread⟩ :=
    readText_writeText_number .empty 2000 agree accepted
  rw [htext] at hwrite hmatch hread
  exact ⟨d, agree, accepted, forms, hforms, hwrite, fun h => hmatch.mp h outgrows,
    fun h => hread.mp h outgrows⟩

end ValueType

end TypeSchema
