/-
# Numbers — number texts and where they end

A number text is a sign, a whole part without needless zeros, a fraction and a
power of ten (`IsNumberText`).  Reading takes all of it and no more, if what
follows cannot be part of a number (`numberChars_append`).  Whole numbers are
written so (`isNumberText_ofInt`), and read back where 64 bits hold them
(`readNumber_ofInt`).  Doubles are written so too, in place or with a power of
ten (`isNumberText_numberLayout`).

Whatever is read as a number is read again from its own characters, if the
text goes on as it did or ends there (`cuts_numberChars`).  The parts have this
in common with each other, and what is put together from them has it too.
-/
import TypeSchema.Json.Reading
import TypeSchema.Json.Writing
import TypeSchema.Proofs.Double.Text
import TypeSchema.Proofs.Text.Cutting
import TypeSchema.Proofs.Text.Numeral

namespace TypeSchema.Json

/-! ## The parts of a number text -/

/-- Digits that do not start with a zero. -/
def IsLeading (cs : List Char) : Prop :=
  ∃ d ds, cs = d :: ds ∧ d ≠ '0' ∧ ∀ c ∈ d :: ds, c.isDigit

/-- A lone zero, or digits that do not start with one. -/
def IsWhole (cs : List Char) : Prop := cs = ['0'] ∨ IsLeading cs

/-- Nothing, or a point with digits behind it. -/
def IsFraction (cs : List Char) : Prop :=
  cs = [] ∨ ∃ ds, cs = '.' :: ds ∧ ds ≠ [] ∧ ∀ c ∈ ds, c.isDigit

/-- Nothing, or a mark with a sign and digits behind it. -/
def IsExponent (cs : List Char) : Prop :=
  cs = [] ∨ ∃ sign ds, cs = 'e' :: sign :: ds ∧ (sign = '+' ∨ sign = '-') ∧ ds ≠ [] ∧
    ∀ c ∈ ds, c.isDigit

/-- The characters of a number. -/
def IsNumberText (cs : List Char) : Prop :=
  ∃ sign whole fraction exponent, cs = sign ++ whole ++ fraction ++ exponent ∧
    (sign = [] ∨ sign = ['-']) ∧ IsWhole whole ∧ IsFraction fraction ∧ IsExponent exponent

/-- A value can end here: nothing follows, or what stands behind a value inside
of another. -/
def Ends (rest : List Char) : Prop := ∀ c ∈ rest.head?, c = ',' ∨ c = ']' ∨ c = '}'

theorem IsWhole.exists_digit {cs : List Char} (h : IsWhole cs) :
    ∃ d ds, cs = d :: ds ∧ d.isDigit ∧ ∀ c ∈ ds, c.isDigit := by
  rcases h with rfl | ⟨d, ds, rfl, -, digits⟩
  · exact ⟨'0', [], rfl, rfl, List.forall_mem_nil _⟩
  · obtain ⟨hd, hds⟩ := List.forall_mem_cons.mp digits
    exact ⟨d, ds, rfl, hd, hds⟩

/-! ## Reading the parts -/

/-- No digit comes next. -/
def NoDigit (rest : List Char) : Prop := ∀ c ∈ rest.head?, isDigit c = false

theorem span_isDigit {ds rest : List Char} (digits : ∀ c ∈ ds, c.isDigit) (stop : NoDigit rest) :
    (ds ++ rest).span isDigit = (ds, rest) := Text.span_append digits stop

theorem wholePart_append {whole rest : List Char} (h : IsWhole whole) (stop : NoDigit rest) :
    wholePart (whole ++ rest) = some (whole, rest) := by
  rcases h with rfl | ⟨d, ds, rfl, nonzero, digits⟩
  · cases rest with
    | nil => rfl
    | cons c rest => simp [wholePart, stop c rfl]
  · unfold wholePart
    split
    · rename_i same
      exact absurd (List.cons.inj same).1 nonzero
    · rw [span_isDigit digits stop]
      simp

theorem fractionPart_append {fraction rest : List Char} (h : IsFraction fraction)
    (stop : NoDigit rest) (pointless : ∀ c ∈ rest.head?, c ≠ '.') :
    fractionPart (fraction ++ rest) = some (fraction, rest) := by
  rcases h with rfl | ⟨ds, rfl, there, digits⟩
  · unfold fractionPart
    split
    · exact absurd rfl (pointless '.' (by simp_all))
    · rfl
  · simp only [List.cons_append, fractionPart, span_isDigit digits stop, if_neg there]

theorem exponentPart_append {exponent rest : List Char} (h : IsExponent exponent)
    (stop : NoDigit rest) (markless : ∀ c ∈ rest.head?, c ≠ 'e' ∧ c ≠ 'E') :
    exponentPart (exponent ++ rest) = some (exponent, rest) := by
  rcases h with rfl | ⟨sign, ds, rfl, signed, there, digits⟩
  · cases rest with
    | nil => rfl
    | cons c rest => simp [exponentPart, markless c rfl]
  · rcases signed with rfl | rfl <;>
      simp only [List.cons_append, exponentPart, true_or, if_true, span_isDigit digits stop,
        if_neg there] <;> rfl

/-- Of a number text and what follows it, all of the text is read and no more. -/
theorem numberChars_append {cs rest : List Char} (h : IsNumberText cs) (ends : Ends rest) :
    numberChars (cs ++ rest) = some (cs, rest) := by
  obtain ⟨sign, whole, fraction, exponent, rfl, signed, hwhole, hfraction, hexponent⟩ := h
  -- No part is continued by what follows it.
  have stop : NoDigit rest := by
    intro c hc
    rcases ends c hc with rfl | rfl | rfl <;> rfl
  have stop' : NoDigit (exponent ++ rest) := by
    rcases hexponent with rfl | ⟨_, _, rfl, -⟩
    · exact stop
    · rintro _ ⟨⟩
      rfl
  have stop'' : NoDigit (fraction ++ (exponent ++ rest)) := by
    rcases hfraction with rfl | ⟨_, rfl, -⟩
    · exact stop'
    · rintro _ ⟨⟩
      rfl
  have markless : ∀ c ∈ rest.head?, c ≠ 'e' ∧ c ≠ 'E' := by
    intro c hc
    rcases ends c hc with rfl | rfl | rfl <;> decide
  have pointless : ∀ c ∈ (exponent ++ rest).head?, c ≠ '.' := by
    rcases hexponent with rfl | ⟨_, _, rfl, -⟩
    · intro c hc
      rcases ends c hc with rfl | rfl | rfl <;> decide
    · rintro _ ⟨⟩
      decide
  have takeWhole := wholePart_append hwhole stop''
  have takeFraction := fractionPart_append hfraction stop' pointless
  have takeExponent := exponentPart_append hexponent stop markless
  unfold numberChars
  rcases signed with rfl | rfl
  · obtain ⟨d, ds, rfl, digit, -⟩ := hwhole.exists_digit
    have unsigned : d ≠ '-' := by
      rintro rfl
      exact absurd digit (by decide)
    rw [List.cons_append] at takeWhole
    simp [unsigned, takeWhole, takeFraction, takeExponent]
  · simp [takeWhole, takeFraction, takeExponent]

/-! ## Whole numbers -/

theorem isWhole_digits (n : Nat) : IsWhole (Numeral.digits n) := by
  by_cases zero : n = 0
  · rw [zero]
    exact .inl rfl
  · obtain ⟨d, ds, hds, hd⟩ := Numeral.exists_digits_eq_cons zero
    exact .inr ⟨d, ds, hds, hd, fun c hc => Numeral.isDigit_of_mem_digits (hds ▸ hc)⟩

theorem isNumberText_ofInt (i : Int) : IsNumberText (Numeral.ofInt i).toList := by
  rw [Numeral.toList_ofInt]
  refine ⟨if i < 0 then ['-'] else [], Numeral.digits i.natAbs, [], [], ?_, ?_, isWhole_digits _,
    .inl rfl, .inl rfl⟩
  · split <;> simp
  · split <;> simp

theorem gather_eq {n : Nat} {ds : List Char} (h : Nat.ofDigitChars 10 ds n ≤ Numeral.max64) :
    gather n ds = (Nat.ofDigitChars 10 ds n, 0) := by
  induction ds generalizing n with
  | nil => rfl
  | cons d ds ih =>
      rw [Nat.ofDigitChars_cons] at h ⊢
      have fits : 10 * n + (d.toNat - '0'.toNat) ≤ Numeral.max64 := Numeral.le_ofDigitChars.trans h
      rw [gather, if_pos fits]
      exact ih h

/-- A whole number that 64 bits hold is read from its numeral. -/
theorem readNumber_ofInt {i : Int} (hlo : -(Numeral.max63 + 1 : Int) ≤ i)
    (hhi : i ≤ Numeral.max64) : readNumber (Numeral.ofInt i).toList = some (.int i) := by
  have span : (Numeral.digits i.natAbs).span isDigit = (Numeral.digits i.natAbs, []) := by
    have stretch : (Numeral.digits i.natAbs ++ []).span isDigit = (Numeral.digits i.natAbs, []) :=
      span_isDigit (fun _ => Numeral.isDigit_of_mem_digits) nofun
    rwa [List.append_nil] at stretch
  have gathered : gather 0 (Numeral.digits i.natAbs) = (i.natAbs, 0) := by
    rw [gather_eq] <;> rw [Numeral.ofDigitChars_digits]
    simp only [Numeral.max63, Numeral.max64] at *
    omega
  obtain ⟨d, ds, hds, digit, -⟩ := (isWhole_digits i.natAbs).exists_digit
  have unsigned : d ≠ '-' := by
    rintro rfl
    exact absurd digit (by decide)
  rw [Numeral.toList_ofInt]
  rw [hds] at span gathered ⊢
  by_cases negative : i < 0
  · have small : ¬ (i = 0 ∨ Numeral.max63 + 1 < i.natAbs) := by
      simp only [Numeral.max63] at *
      omega
    simp [readNumber, negative, span, gathered, small, abs_of_neg negative,
      -List.span_eq_takeWhile_dropWhile]
  · simp [readNumber, negative, unsigned, span, gathered, abs_of_nonneg (not_lt.mp negative),
      -List.span_eq_takeWhile_dropWhile]

/-! ## Doubles -/

section Doubles

open Double (positional scientific significant)

theorem isLeading_significant {n : Nat} (h : n ≠ 0) : IsLeading (significant n) := by
  obtain ⟨d, ds, hds, hd⟩ := Numeral.exists_digits_eq_cons h
  obtain ⟨z, hz⟩ := Double.toDigits_eq n
  obtain ⟨c, cs, hcs⟩ := List.exists_cons_of_ne_nil (Double.significant_ne_nil h)
  have first : c = d := by
    have := hds.symm.trans hz
    rw [hcs] at this
    exact (List.cons.inj this).1.symm
  exact ⟨c, cs, hcs, first ▸ hd, fun c hc => Double.isDigit_of_mem_significant (hcs ▸ hc)⟩

variable {ds : List Char} (leading : IsLeading ds)
include leading

/-- Digits in place are digits around a point. -/
theorem exists_toList_positional (point : Int) :
    ∃ whole fraction, (positional ".0" ds point).toList = whole ++ fraction ∧ IsWhole whole ∧
      IsFraction fraction := by
  obtain ⟨d, more, rfl, nonzero, digits⟩ := leading
  have zeros := fun z => Double.isDigit_of_mem_zeros (z := z)
  unfold positional
  split
  · refine ⟨['0'], '.' :: (List.replicate (-point).toNat '0' ++ d :: more), by simp, .inl rfl,
      .inr ⟨_, rfl, by simp, ?_⟩⟩
    exact List.forall_mem_append.mpr ⟨zeros _, digits⟩
  · split
    · refine ⟨d :: more ++ List.replicate (point.toNat - (d :: more).length) '0', ['.', '0'],
        by simp, .inr ⟨d, _, List.cons_append, nonzero, ?_⟩, .inr ⟨['0'], rfl, by simp, zeros 1⟩⟩
      rw [← List.cons_append]
      exact List.forall_mem_append.mpr ⟨digits, zeros _⟩
    · rename_i positive short
      obtain ⟨p, hp⟩ : ∃ p, point.toNat = p + 1 := ⟨point.toNat - 1, by omega⟩
      rw [hp] at short ⊢
      refine ⟨d :: more.take p, '.' :: more.drop p, by simp, .inr ⟨d, _, rfl, nonzero, ?_⟩,
        .inr ⟨_, rfl, ?_, ?_⟩⟩
      · intro c hc
        exact digits c (List.mem_of_mem_take (i := p + 1) hc)
      · rw [List.length_cons] at short
        rw [← List.length_pos_iff, List.length_drop]
        omega
      · exact fun c hc => digits c (List.mem_cons_of_mem _ (List.mem_of_mem_drop hc))

/-- Digits with a power of ten have the point behind the first of them. -/
theorem exists_toList_scientific (e : Int) :
    ∃ whole fraction exponent, (scientific ds e).toList = whole ++ fraction ++ exponent ∧
      IsWhole whole ∧ IsFraction fraction ∧ IsExponent exponent := by
  obtain ⟨d, more, rfl, nonzero, digits⟩ := leading
  have power : ∃ exponent, ((if e < 0 then "e" else "e+") ++ Numeral.ofInt e).toList = exponent ∧
      IsExponent exponent := by
    refine ⟨_, rfl, .inr ⟨if e < 0 then '-' else '+', Numeral.digits e.natAbs, ?_, ?_,
      Numeral.digits_ne_nil, fun c => Numeral.isDigit_of_mem_digits⟩⟩
    · rw [String.toList_append, Numeral.toList_ofInt]
      split <;> rfl
    · split <;> simp
  obtain ⟨exponent, htext, hexponent⟩ := power
  have whole : IsWhole [d] :=
    .inr ⟨d, [], rfl, nonzero, List.forall_mem_singleton.mpr (digits d List.mem_cons_self)⟩
  unfold scientific
  cases more with
  | nil =>
      refine ⟨[d], [], exponent, ?_, whole, .inl rfl, hexponent⟩
      rw [String.append_assoc, String.toList_append, htext]
      simp
  | cons c cs =>
      refine ⟨[d], '.' :: c :: cs, exponent, ?_, whole,
        .inr ⟨c :: cs, rfl, List.cons_ne_nil _ _, fun x hx => digits x (List.mem_cons_of_mem _ hx)⟩,
        hexponent⟩
      rw [String.append_assoc, String.toList_append, htext]
      simp

end Doubles

/-- A finite double is written as a number. -/
theorem isNumberText_numberLayout {d : Double} (finite : d.isFinite = true) :
    IsNumberText (numberLayout.text d).toList := by
  have magnitude : ∃ whole fraction exponent,
      (numberLayout.magnitude d).toList = whole ++ fraction ++ exponent ∧
        IsWhole whole ∧ IsFraction fraction ∧ IsExponent exponent := by
    unfold Double.Layout.magnitude
    cases zero : d.isZero with
    | true =>
        refine ⟨['0'], ['.', '0'], [], ?_, .inl rfl,
          .inr ⟨['0'], rfl, by simp, List.forall_mem_singleton.mpr rfl⟩, .inl rfl⟩
        rw [if_pos rfl]
        rfl
    | false =>
        have covers := Double.covers_shortest numberLayout.tie zero
        obtain ⟨n, k, hshortest⟩ : ∃ n k, d.shortest numberLayout.tie = (n, k) := ⟨_, _, rfl⟩
        rw [hshortest] at covers
        have hn : n ≠ 0 := by
          rintro rfl
          have := covers.pos zero
          simp at this
        have leading := isLeading_significant hn
        simp only [Bool.false_eq_true, if_false, hshortest]
        split
        · obtain ⟨whole, fraction, htext, hwhole, hfraction⟩ :=
            exists_toList_positional leading ((Nat.toDigits 10 n).length + k)
          exact ⟨whole, fraction, [], htext.trans (List.append_nil _).symm, hwhole, hfraction,
            .inl rfl⟩
        · exact exists_toList_scientific leading _
  obtain ⟨whole, fraction, exponent, htext, hwhole, hfraction, hexponent⟩ := magnitude
  refine ⟨if d.negative then ['-'] else [], whole, fraction, exponent, ?_, ?_, hwhole, hfraction,
    hexponent⟩
  · rw [Double.Layout.text, Double.not_isNaN finite, if_neg Bool.false_ne_true, if_pos finite,
      String.toList_append, htext]
    cases d.negative <;> simp
  · cases d.negative <;> simp

/-! ## Where reading stops -/

/-- The text `other` is empty or starts as `rest` does. -/
def StopsLike (other rest : List Char) : Prop := ∀ c ∈ other.head?, c ∈ rest.head?

theorem StopsLike.append {other rest : List Char} (h : StopsLike other rest) (cs : List Char) :
    StopsLike (cs ++ other) (cs ++ rest) := by
  cases cs with
  | nil => exact h
  | cons c cs => exact fun _ hc => hc

/-- The reader takes characters from the front, and the same ones whatever follows, if it stops
there. -/
def Cuts (read : List Char → Option (List Char × List Char)) : Prop :=
  ∀ cs taken rest, read cs = some (taken, rest) → cs = taken ++ rest ∧
    ∀ other, StopsLike other rest → read (taken ++ other) = some (taken, other)

/-- One reader after another. -/
def inTurn (f g : List Char → Option (List Char × List Char)) (cs : List Char) :
    Option (List Char × List Char) :=
  (f cs).bind fun p => (g p.2).map fun q => (p.1 ++ q.1, q.2)

theorem Cuts.inTurn {f g : List Char → Option (List Char × List Char)} (hf : Cuts f)
    (hg : Cuts g) : Cuts (inTurn f g) := by
  intro cs taken rest h
  obtain ⟨⟨first, between⟩, first_eq, h⟩ := Option.bind_eq_some_iff.mp h
  obtain ⟨⟨second, rest⟩, second_eq, ⟨⟩⟩ := Option.map_eq_some_iff.mp h
  obtain ⟨rfl, again⟩ := hf _ _ _ first_eq
  obtain ⟨rfl, again'⟩ := hg _ _ _ second_eq
  refine ⟨(List.append_assoc ..).symm, fun other like => ?_⟩
  rw [Json.inTurn, List.append_assoc, again _ (like.append second), Option.bind_some,
    again' other like]
  rfl

/-- What `more` reads behind one of some marks, or nothing where no mark comes next. -/
def optionally (marks : List Char) (more : List Char → Option (List Char × List Char)) :
    List Char → Option (List Char × List Char)
  | [] => some ([], [])
  | c :: rest =>
    if c ∈ marks then (more rest).map fun p => (c :: p.1, p.2) else some ([], c :: rest)

theorem Cuts.optionally {more : List Char → Option (List Char × List Char)} (hmore : Cuts more)
    (marks : List Char) : Cuts (optionally marks more) := by
  intro cs taken rest h
  cases cs with
  | nil =>
      cases h
      refine ⟨rfl, fun other like => ?_⟩
      cases other with
      | nil => rfl
      | cons c other => cases like c rfl
  | cons c cs =>
      rw [Json.optionally] at h
      split at h
      · rename_i marked
        obtain ⟨⟨taken, rest⟩, read, ⟨⟩⟩ := Option.map_eq_some_iff.mp h
        obtain ⟨rfl, again⟩ := hmore _ _ _ read
        refine ⟨rfl, fun other like => ?_⟩
        rw [List.cons_append, Json.optionally, if_pos marked, again other like]
        rfl
      · rename_i unmarked
        cases h
        refine ⟨rfl, fun other like => ?_⟩
        cases other with
        | nil => rfl
        | cons d other =>
            cases like d rfl
            exact if_neg unmarked

/-- A mark out of some, if one comes next. -/
def markPart (marks : List Char) : List Char → Option (List Char × List Char) :=
  optionally marks fun cs => some ([], cs)

theorem cuts_markPart (marks : List Char) : Cuts (markPart marks) := by
  refine Cuts.optionally ?_ marks
  rintro cs _ _ ⟨⟩
  exact ⟨rfl, fun _ _ => rfl⟩

/-- One digit or more. -/
def digitsPart (cs : List Char) : Option (List Char × List Char) :=
  let (ds, rest) := cs.span isDigit
  if ds = [] then none else some (ds, rest)

theorem cuts_digitsPart : Cuts digitsPart := by
  intro cs taken rest h
  unfold digitsPart at h
  cases hs : cs.span isDigit with
  | mk ds more =>
      simp only [hs, Option.ite_none_left_eq_some] at h
      obtain ⟨there, ⟨⟩⟩ := h
      obtain ⟨rfl, digits, stop⟩ := Text.of_span_eq hs
      refine ⟨rfl, fun other like => ?_⟩
      rw [digitsPart, Text.span_append digits fun c hc => stop c (like c hc)]
      exact if_neg there

theorem cuts_wholePart : Cuts wholePart := by
  intro cs whole rest h
  -- what makes a whole part end is the character behind it, which is the same one in front of `other`
  have again : IsWhole whole → NoDigit rest → ∀ other, StopsLike other rest →
      wholePart (whole ++ other) = some (whole, other) :=
    fun written stop other like => wholePart_append written fun c hc => stop c (like c hc)
  unfold wholePart at h
  split at h
  · rename_i tail
    have stop : NoDigit tail ∧ some (['0'], tail) = some (whole, rest) := by
      cases tail with
      | nil => exact ⟨nofun, h⟩
      | cons c tail =>
          simp only [Option.ite_none_left_eq_some] at h
          refine ⟨?_, h.2⟩
          rintro _ ⟨⟩
          exact Bool.eq_false_iff.mpr h.1
    obtain ⟨stop, ⟨⟩⟩ := stop
    exact ⟨rfl, again (.inl rfl) stop⟩
  · rename_i nonzero
    obtain ⟨rfl, -⟩ := cuts_digitsPart _ _ _ h
    cases hs : (whole ++ rest).span isDigit with
    | mk ds more =>
        simp only [hs, Option.ite_none_left_eq_some] at h
        obtain ⟨there, ⟨⟩⟩ := h
        obtain ⟨-, digits, stop⟩ := Text.of_span_eq hs
        obtain ⟨d, ds, rfl⟩ := List.exists_cons_of_ne_nil there
        refine ⟨rfl, again (.inr ⟨d, ds, rfl, ?_, digits⟩) stop⟩
        rintro rfl
        exact nonzero _ rfl

theorem fractionPart_eq (cs : List Char) :
    fractionPart cs = optionally ['.'] digitsPart cs := by
  unfold fractionPart
  split
  · rename_i tail
    rw [optionally, if_pos (List.mem_singleton.mpr rfl), digitsPart]
    cases hs : tail.span isDigit with
    | mk ds rest =>
        simp only
        split <;> rfl
  · rename_i pointless
    cases cs with
    | nil => rfl
    | cons c cs =>
        refine (if_neg fun point => ?_).symm
        exact pointless cs (congrArg (· :: cs) (List.mem_singleton.mp point))

theorem markPart_of_not_mem {marks cs : List Char} (h : ∀ c ∈ cs.head?, c ∉ marks) :
    markPart marks cs = some ([], cs) := by
  cases cs with
  | nil => rfl
  | cons c cs => exact if_neg (h c rfl)

/-- A power of ten is a mark with an optional sign and digits behind it, if the mark is there. -/
theorem exponentPart_eq (cs : List Char) : exponentPart cs =
    optionally ['e', 'E'] (inTurn (markPart ['+', '-']) digitsPart) cs := by
  cases cs with
  | nil => rfl
  | cons e cs =>
      by_cases marked : e = 'e' ∨ e = 'E'
      · have behind : ∀ {sign rest : List Char}, markPart ['+', '-'] cs = some (sign, rest) →
            (if (rest.span isDigit).1 = [] then none
              else some (e :: sign ++ (rest.span isDigit).1, (rest.span isDigit).2))
              = (inTurn (markPart ['+', '-']) digitsPart cs).map fun p => (e :: p.1, p.2) := by
          intro sign rest h
          rw [inTurn, h, Option.bind_some, digitsPart]
          cases rest.span isDigit with
          | mk ds rest =>
              simp only
              split <;> rfl
        simp only [exponentPart, optionally, if_pos marked,
          if_pos (show e ∈ ['e', 'E'] by simpa using marked)]
        split
        · exact behind rfl
        · exact behind rfl
        · rename_i plus minus
          refine behind (markPart_of_not_mem fun c hc => ?_)
          obtain ⟨rest, rfl⟩ := List.head?_eq_some_iff.mp hc
          simp only [List.mem_cons, List.not_mem_nil, or_false, not_or]
          exact ⟨fun h => plus rest (h ▸ rfl), fun h => minus rest (h ▸ rfl)⟩
      · simp only [exponentPart, optionally, if_neg marked,
          if_neg (show e ∉ ['e', 'E'] by simpa using marked)]

/-- The characters of a number are those of its parts in turn. -/
theorem numberChars_eq (cs : List Char) : numberChars cs =
    inTurn (markPart ['-']) (inTurn wholePart (inTurn fractionPart exponentPart)) cs := by
  have behind : ∀ {sign rest : List Char}, markPart ['-'] cs = some (sign, rest) →
      (do
        let p ← wholePart rest
        let q ← fractionPart p.2
        let r ← exponentPart q.2
        return (sign ++ p.1 ++ q.1 ++ r.1, r.2))
        = inTurn (markPart ['-']) (inTurn wholePart (inTurn fractionPart exponentPart)) cs := by
    intro sign rest h
    rw [inTurn, h, Option.bind_some, inTurn, Option.bind_eq_bind]
    cases wholePart rest with
    | none => rfl
    | some p =>
        rw [Option.bind_some, Option.bind_some, inTurn]
        cases fractionPart p.2 with
        | none => rfl
        | some q =>
            rw [Option.bind_some, Option.bind_some]
            cases exponentPart q.2 with
            | none => rfl
            | some r => simp
  unfold numberChars
  cases cs with
  | nil => exact behind rfl
  | cons c cs =>
      by_cases minus : c = '-'
      · subst minus
        exact behind rfl
      · have unsigned : markPart ['-'] (c :: cs) = some ([], c :: cs) :=
          markPart_of_not_mem (by rintro _ ⟨⟩; simpa using minus)
        rw [← behind unsigned]
        split
        rename_i heq
        split at heq
        · rename_i same
          exact absurd (List.cons.inj same).1 minus
        · cases heq
          rfl

theorem cuts_numberChars : Cuts numberChars := by
  have fraction : Cuts fractionPart :=
    (funext fractionPart_eq : fractionPart = _) ▸ cuts_digitsPart.optionally ['.']
  have exponent : Cuts exponentPart :=
    (funext exponentPart_eq : exponentPart = _) ▸
      ((cuts_markPart ['+', '-']).inTurn cuts_digitsPart).optionally ['e', 'E']
  exact (funext numberChars_eq : numberChars = _) ▸
    (cuts_markPart ['-']).inTurn (cuts_wholePart.inTurn (fraction.inTurn exponent))

/-- A number starts with a sign or a digit. -/
theorem exists_head_of_numberChars {cs ds rest : List Char} (h : numberChars cs = some (ds, rest)) :
    ∃ c more, cs = c :: more ∧ (c = '-' ∨ isDigit c = true) := by
  rw [numberChars_eq] at h
  obtain ⟨⟨sign, body⟩, hsign, h⟩ := Option.bind_eq_some_iff.mp h
  obtain ⟨p, h, -⟩ := Option.map_eq_some_iff.mp h
  obtain ⟨⟨whole, behind⟩, hwhole, -⟩ := Option.bind_eq_some_iff.mp h
  cases cs with
  | nil =>
      cases hsign
      cases hwhole
  | cons c cs =>
      refine ⟨c, cs, rfl, ?_⟩
      by_contra other
      obtain ⟨minus, digit⟩ := not_or.mp other
      rw [markPart_of_not_mem (by rintro _ ⟨⟩; simpa using minus)] at hsign
      cases hsign
      unfold wholePart at hwhole
      split at hwhole
      · rename_i zero
        cases (List.cons.inj zero).1
        exact digit rfl
      · simp [digit] at hwhole

end TypeSchema.Json
