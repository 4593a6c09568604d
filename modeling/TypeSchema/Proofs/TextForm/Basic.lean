/-
# Forms — which texts have a form, and which form is the first

A form made from a local expression matches exactly the texts that the
expression reads (`isMatch_iff`), and what its groups hold belongs to a
reading (`reads_of_captures?`).  `ReadsAs` says what the first form that a text
has makes of it.  Patterns that bring anchors of their own, as those of JSON
Schemas do, match the texts that the expressions between the anchors read
(`isMatch_betweenAnchors`).

An expression of characters, short lists of characters, digits, counted parts
and groups always has a meaning, and `weight` bounds the bytes of its matcher
(`meaning_of_isSimple`).  Folding the case of a set adds no more than all
pairs of the case map, so the bound holds whether case is ignored or not.
-/
import TypeSchema.Proofs.TextForm.Shape
import TypeSchema.TextForm.Reading

namespace TypeSchema.TextForm

open Regex Expression

/-! ## Forms and their expressions -/

section Forms

variable {e : Expression} {ignoreCase : Bool} {reader : Reader} {form : TextForm}

theorem meaning_anchored : (Pattern.anchored e).meaning (Flags.initial ignoreCase) =
    (e.meaning (Flags.initial ignoreCase)).map fun (r, _) =>
      (r.anchored, Flags.initial ignoreCase) := by
  simp only [Pattern.anchored, meaning, Option.bind_eq_bind, Option.bind_some]
  have hchanges : (Flags.initial ignoreCase).changes [] = Flags.initial ignoreCase := rfl
  rw [hchanges]
  cases e.meaning (Flags.initial ignoreCase) with
  | none => rfl
  | some m => rfl

theorem ofExpression_eq_ok (h : ofExpression e ignoreCase reader = .ok form) :
    ∃ r f, e.meaning (Flags.initial ignoreCase) = some (r, f) ∧
      form = ⟨String.ofList e.text, ignoreCase, r.anchored, reader⟩ := by
  unfold ofExpression at h
  split at h
  · rename_i r' hr
    cases h
    simp only [Regex.ofExpression, meaning_anchored, Option.bind_eq_bind, Option.bind_eq_some_iff,
      Option.map_eq_some_iff] at hr
    obtain ⟨_, ⟨⟨r, f⟩, hm, rfl⟩, hsize⟩ := hr
    split at hsize
    · cases hsize
      exact ⟨r, f, hm, rfl⟩
    · cases hsize
  · cases h

theorem ofExpression_reader (h : ofExpression e ignoreCase reader = .ok form) :
    form.reader = reader := by
  obtain ⟨r, f, -, rfl⟩ := ofExpression_eq_ok h
  rfl

variable (hl : e.isLocal) (h : ofExpression e ignoreCase reader = .ok form)
include hl h

/-- A text has the form exactly if the expression reads it. -/
theorem isMatch_iff {text : String} :
    form.isMatch text ↔ ∃ c, e.Reads (Flags.initial ignoreCase) text.toList c := by
  obtain ⟨r, f, hm, rfl⟩ := ofExpression_eq_ok h
  simp only [isMatch, isMatch_anchored, whole_iff_reads hl hm]

/-- What the groups hold is what the expression reads. -/
theorem reads_of_captures? {text : String} {c : Captures} (hc : form.captures? text = some c)
    (hr : reader.hasParts) : e.Reads (Flags.initial ignoreCase) text.toList c := by
  obtain ⟨r, f, hm, rfl⟩ := ofExpression_eq_ok h
  simp only [captures?, hr, if_true] at hc
  exact (whole_iff_reads hl hm).mp (captures?_anchored_eq_some hc)

end Forms

/-! ## Expressions between anchors -/

section Anchors

variable {e : Expression} {es : List Expression} {f f' : Flags} {r : Regex} {text : List Char}

theorem inTurn_cons (hne : es ≠ []) : inTurn (e :: es) = .sequence e (inTurn es) := by
  cases es with
  | nil => contradiction
  | cons e' es => rfl

/-- Expressions with the end of the text behind them match the stretches that
they read up to there. -/
theorem spans_inTurn_dollar (hf : f.multiLine = false) (hl : ∀ e ∈ es, e.isLocal)
    (hm : (inTurn (es ++ [.anchor .dollar])).meaning f = some (r, f')) :
    ∀ i j c, i ≤ j → j ≤ text.length → (Spans text.toArray r i j c ↔
      j = text.length ∧ (inTurn es).Reads f (text.extract i j) c) := by
  induction es generalizing r with
  | nil =>
      intro i j c hij hj
      have hr : r = .condition .textEnd := by
        simpa [inTurn, meaning, Anchor.condition, hf] using (congrArg (·.map (·.1)) hm).symm
      simp only [hr, Spans, Condition.holds, inTurn, Reads, extract_eq_nil hij hj]
      constructor
      · rintro ⟨hend, rfl, rfl⟩
        exact ⟨of_decide_eq_true hend, rfl, rfl⟩
      · rintro ⟨rfl, rfl, rfl⟩
        exact ⟨decide_eq_true rfl, rfl, rfl⟩
  | cons e es ih =>
      intro i j c hij hj
      rw [List.cons_append, inTurn_cons (by simp)] at hm
      simp only [meaning, Option.bind_eq_bind, Option.bind_eq_some_iff, Prod.exists] at hm
      obtain ⟨ra, fa, hma, rb, fb, hmb, hr⟩ := hm
      cases hr
      obtain ⟨rfl, agree⟩ : fa = f ∧ ∀ i j c, i ≤ j → j ≤ text.length →
          (Spans text.toArray ra i j c ↔ e.Reads f (text.extract i j) c) :=
        spans_iff_reads (hl e List.mem_cons_self) hma
      have agreeTail := ih (fun e he => hl e (List.mem_cons_of_mem _ he)) hmb
      rw [reads_inTurn_cons]
      constructor
      · rintro ⟨k, first, rest, hfirst, hrest, rfl⟩
        have hik := hfirst.le
        have hkj := hrest.le
        obtain ⟨hend, hrest⟩ := (agreeTail k j rest hkj hj).mp hrest
        exact ⟨hend, _, _, first, rest, (agree _ _ _ hik (hkj.trans hj)).mp hfirst, hrest,
          (extract_eq_append hij hj).mpr ⟨k, hik, hkj, rfl, rfl⟩, rfl⟩
      · rintro ⟨hend, xs, ys, first, rest, hfirst, hrest, hcut, rfl⟩
        obtain ⟨k, hik, hkj, rfl, rfl⟩ := (extract_eq_append hij hj).mp hcut
        exact ⟨k, first, rest, (agree _ _ _ hik (hkj.trans hj)).mpr hfirst,
          (agreeTail k j rest hkj hj).mpr ⟨hend, hrest⟩, rfl⟩

/-- Between a caret and a dollar the expressions have to read the whole text. -/
theorem isMatch_betweenAnchors (hl : ∀ e ∈ es, e.isLocal)
    (h : Regex.ofExpression false (inTurn (.anchor .caret :: (es ++ [.anchor .dollar]))) = some r)
    {text : String} :
    r.isMatch text ↔ ∃ c, (inTurn es).Reads (Flags.initial false) text.toList c := by
  rw [inTurn_cons (by simp)] at h
  simp only [Regex.ofExpression, meaning, Option.bind_eq_bind, Option.bind_eq_some_iff,
    Prod.exists] at h
  obtain ⟨_, _, ⟨_, _, hcaret, r', f', hm, hr⟩, hsize⟩ := h
  cases hcaret
  cases hr
  split at hsize
  · cases hsize
    have agree : ∀ i j c, i ≤ j → j ≤ text.toList.length →
        (Spans text.toList.toArray r' i j c ↔ j = text.toList.length ∧
          (inTurn es).Reads (Flags.initial false) (text.toList.extract i j) c) :=
      spans_inTurn_dollar rfl hl hm
    have whole := agree 0 text.toList.length
    rw [List.extract_eq_take_drop, List.drop_zero, Nat.sub_zero, List.take_length] at whole
    rw [Regex.isMatch_iff]
    constructor
    · rintro ⟨_, _, j, c, _, _, c', ⟨hstart, rfl, rfl⟩, h, rfl⟩
      obtain rfl := of_decide_eq_true hstart
      have hj : j ≤ text.toList.length := by simpa using h.le_max
      obtain ⟨rfl, hc⟩ := (agree 0 j c' (Nat.zero_le _) hj).mp h
      exact ⟨c', by simpa using hc⟩
    · rintro ⟨c, hc⟩
      exact ⟨0, Nat.zero_le _, _, _, 0, [], c, ⟨rfl, rfl, rfl⟩,
        (whole c (Nat.zero_le _) le_rfl).mpr ⟨rfl, hc⟩, rfl⟩
  · cases hsize

end Anchors

/-! ## The first form -/

/-- There are captures exactly if the text has the form. -/
theorem captures?_isSome {form : TextForm} {text : String} :
    (form.captures? text).isSome ↔ form.isMatch text := by
  unfold captures?
  split
  · exact Regex.captures?_isSome
  · split
    · rename_i hm
      simp [hm]
    · rename_i hm
      simp [hm]

theorem mem_of_firstMatch {text : String} {form : TextForm} {forms : List TextForm} {c : Captures}
    (h : firstMatch text forms = some (form, c)) :
    form ∈ forms ∧ form.captures? text = some c := by
  induction forms with
  | nil => cases h
  | cons g forms ih =>
      unfold firstMatch at h
      split at h
      · rename_i c' hc
        cases h
        exact ⟨List.mem_cons_self, hc⟩
      · exact ⟨List.mem_cons_of_mem _ (ih h).1, (ih h).2⟩

theorem firstMatch_eq_none {text : String} {forms : List TextForm} :
    firstMatch text forms = none ↔ ∀ form ∈ forms, ¬ form.isMatch text := by
  induction forms with
  | nil => simp [firstMatch]
  | cons g forms ih =>
      unfold firstMatch
      rw [List.forall_mem_cons, ← ih, ← captures?_isSome]
      cases g.captures? text with
      | none => simp
      | some c => simp

/-- Forms for things one by one: the first form that the text has is that of the
first thing that the text has the form of. -/
theorem firstMatch_of_forall₂ {α : Type} {text : String} {p : α → Bool} {reader : α → Reader}
    {caps : α → Captures} {xs : List α} {forms : List TextForm}
    (h : List.Forall₂ (fun x form => form.reader = reader x ∧ (form.isMatch text ↔ p x) ∧
      ∀ c, form.captures? text = some c → c = caps x) xs forms) :
    (firstMatch text forms).map (fun (form, c) => (form.reader, c)) =
      (xs.find? p).map fun x => (reader x, caps x) := by
  induction h with
  | nil => rfl
  | @cons x form xs forms hx hxs ih =>
      obtain ⟨hreader, hmatch, hcaps⟩ := hx
      rw [← captures?_isSome] at hmatch
      cases hc : form.captures? text with
      | some c =>
          obtain rfl := hcaps c hc
          rw [firstMatch, hc, List.find?_cons_of_pos (hmatch.mp (by rw [hc]; rfl))]
          simp only [Option.map_some, hreader]
      | none =>
          have hno : ¬ p x := fun hp => by simpa [hc] using hmatch.mpr hp
          rw [firstMatch, hc, List.find?_cons_of_neg hno]
          exact ih

theorem exists_firstMatch_eq_some {text : String} {forms : List TextForm} {reader : Reader}
    {caps : Captures} (h : (firstMatch text forms).map (fun (form, c) => (form.reader, c)) =
      some (reader, caps)) :
    ∃ form, form.reader = reader ∧ firstMatch text forms = some (form, caps) := by
  obtain ⟨⟨form, c⟩, hfirst, heq⟩ := Option.map_eq_some_iff.mp h
  obtain ⟨hreader, rfl⟩ := Prod.mk.inj heq
  exact ⟨form, hreader, hfirst⟩

/-- The first form that the text has reads it as the value. -/
def ReadsAs (century : Int) (forms : List TextForm) (text : String) (v : Value) : Prop :=
  ∃ form c, firstMatch text forms = some (form, c) ∧ form.reader.read century c text = .ok v

namespace ReadsAs

variable {century : Int} {form : TextForm} {forms : List TextForm} {text : String} {v : Value}

theorem exists_isMatch (h : ReadsAs century forms text v) : ∃ form ∈ forms, form.isMatch text := by
  obtain ⟨form, c, hfirst, -⟩ := h
  obtain ⟨hmem, hc⟩ := mem_of_firstMatch hfirst
  exact ⟨form, hmem, captures?_isSome.mp (by simp [hc])⟩

/-- A text that has the first form is read by it. -/
theorem head (hm : form.isMatch text)
    (hr : ∀ c, form.captures? text = some c → form.reader.read century c text = .ok v) :
    ReadsAs century (form :: forms) text v := by
  obtain ⟨c, hc⟩ := Option.isSome_iff_exists.mp (captures?_isSome.mpr hm)
  exact ⟨form, c, by simp [firstMatch, hc], hr c hc⟩

/-- A text that does not have the first form is read by the others. -/
theorem tail (hm : ¬ form.isMatch text) (h : ReadsAs century forms text v) :
    ReadsAs century (form :: forms) text v := by
  obtain ⟨form', c, hfirst, hr⟩ := h
  have hc : form.captures? text = none := by
    rwa [← captures?_isSome, Option.isSome_iff_ne_none, not_not] at hm
  exact ⟨form', c, by simp [firstMatch, hc, hfirst], hr⟩

/-- Behind the form that a text has others make no difference. -/
theorem append {more : List TextForm} (h : ReadsAs century forms text v) :
    ReadsAs century (forms ++ more) text v := by
  obtain ⟨form', c, hfirst, hr⟩ := h
  refine ⟨form', c, ?_, hr⟩
  induction forms with
  | nil => cases hfirst
  | cons form forms ih =>
      rw [List.cons_append]
      unfold firstMatch at hfirst ⊢
      split
      · rename_i c' hc
        rw [hc] at hfirst
        exact hfirst
      · rename_i hc
        rw [hc] at hfirst
        exact ih hfirst

end ReadsAs

/-! ## Forms that exist -/

/-- Characters, lists of characters and ranges, digits, what is no blank, and what
is made of them by groups, counts, sequences and choices. -/
def isSimple : Expression → Bool
  | .literal _ _ => true
  | .shorthand .digit false => true
  | .shorthand .space true => true
  | .bracket false (.items items) => items.all fun
    | .char _ _ => true
    | .range _ _ _ => true
    | _ => false
  | .group (.named _) body => isSimple body
  | .group (.flags []) body => isSimple body
  | .repeated body _ false => isSimple body
  | .sequence a b => isSimple a && isSimple b
  | .either a b => isSimple a && isSimple b
  | _ => false

/-- A bound on the bytes for a set of so many ranges, its case folded. -/
def setWeight (ranges : Nat) : Nat := 128 + 60 * (ranges + 2 * foldPairs.length)

/-- A bound on the bytes of a simple expression's matcher. -/
def weight : Expression → Nat
  | .literal _ _ => setWeight 1
  | .shorthand _ _ => 128 + 60 * Unicode.digits.length
  | .bracket _ (.items items) => setWeight items.length
  | .group _ body => weight body + 2 * stateBytes
  | .repeated body count _ =>
    let most := Nat.max (count.max.getD (Nat.max count.min 1)) count.min
    most * (weight body + stateBytes) + 2 * stateBytes
  | .sequence a b => weight a + weight b
  | .either a b => weight a + weight b + 2 * stateBytes
  | _ => stateBytes

theorem setBytes_le {rs : Unicode.Ranges} : setBytes rs ≤ 128 + 60 * rs.length := by
  have sum : ∀ rs : Unicode.Ranges,
      rs.foldr (fun r n => (if r.2 < 0x80 then 8 else 60) + n) 0 ≤ 60 * rs.length := by
    intro rs
    induction rs with
    | nil => simp
    | cons r rs ih =>
        simp only [List.foldr_cons, List.length_cons]
        split <;> omega
  have encoded : ∀ n, encodedLength n ≤ 4 := by
    intro n
    unfold encodedLength
    split
    · omega
    · split
      · omega
      · split <;> omega
  unfold setBytes
  split
  · rename_i lo hi
    have := encoded lo
    have := encoded hi
    split <;> simp only [stateBytes] <;> omega
  · have := sum rs
    simp only [stateBytes]
    exact (Nat.add_le_add_left this 32).trans (by omega)

theorem setBytes_folded_le {f : Flags} (hf : f.unicode) {rs : Unicode.Ranges} :
    setBytes (foldAndNegate f false rs) ≤ setWeight rs.length := by
  have hfold : (foldCase rs).length ≤ _ := length_foldCase_le
  unfold setWeight
  simp only [foldAndNegate, hf, if_true, Bool.false_eq_true, if_false]
  split
  · exact setBytes_le.trans (by omega)
  · exact setBytes_le.trans (by omega)

theorem bytes_rep_le {r : Regex} {min : Nat} {max : Option Nat} {isLazy : Bool} {b : Nat}
    (hb : r.bytes ≤ b) : (Regex.rep r min max isLazy).bytes ≤
      Nat.max (max.getD (Nat.max min 1)) min * (b + stateBytes) + 2 * stateBytes := by
  have hleast : (if matchesOnlyEmpty r then Nat.min min 1 else min) ≤ min := by
    split
    · exact Nat.min_le_left ..
    · exact Nat.le_refl _
  unfold bytes
  generalize (if matchesOnlyEmpty r then Nat.min min 1 else min) = least at hleast
  cases max with
  | none =>
      have : Nat.max least 1 ≤ Nat.max (Nat.max min 1) min := by
        simp only [Nat.max_def]
        split <;> split <;> split <;> omega
      exact Nat.add_le_add_right (Nat.mul_le_mul this (hb.trans (Nat.le_add_right ..))) _
  | some m =>
      have hmost : (if matchesOnlyEmpty r then Nat.min m 1 else m) ≤ m := by
        split
        · exact Nat.min_le_left ..
        · exact Nat.le_refl _
      simp only [Option.getD_some]
      generalize (if matchesOnlyEmpty r then Nat.min m 1 else m) = most at hmost
      have hcount : least + (most - least) ≤ Nat.max m min := by
        simp only [Nat.max_def]
        split <;> omega
      calc least * r.bytes + (most - least) * (r.bytes + stateBytes) + stateBytes
          ≤ least * (b + stateBytes) + (most - least) * (b + stateBytes) + 2 * stateBytes := by
            have := Nat.mul_le_mul_left least (hb.trans (Nat.le_add_right b stateBytes))
            have := Nat.mul_le_mul_left (most - least) (Nat.add_le_add_right hb stateBytes)
            omega
        _ = (least + (most - least)) * (b + stateBytes) + 2 * stateBytes := by
            rw [Nat.add_mul]
        _ ≤ Nat.max m min * (b + stateBytes) + 2 * stateBytes :=
            Nat.add_le_add_right (Nat.mul_le_mul_right _ hcount) _

/-- A simple bracket has one range for each of its items. -/
theorem exists_allRanges {f : Flags} (hf : f.unicode) {items : List ClassItem}
    (hs : isSimple (.bracket false (.items items))) :
    ∃ rs, ClassItem.allRanges f items = some rs ∧ rs.length = items.length := by
  rw [isSimple] at hs
  induction items with
  | nil => exact ⟨[], rfl, rfl⟩
  | cons item items ih =>
      rw [List.all_cons, Bool.and_eq_true] at hs
      obtain ⟨rs, hrs, hlength⟩ := ih hs.2
      have one : ∃ a, item.ranges f = some [a] := by
        cases item with
        | char c s => exact ⟨(c.toNat, c.toNat), by simp [ClassItem.ranges, hf]⟩
        | range lo hi byte => exact ⟨(lo.toNat, hi.toNat), by simp [ClassItem.ranges, hf]⟩
        | _ => simp at hs
      obtain ⟨a, ha⟩ := one
      exact ⟨a :: rs, by simp [ClassItem.allRanges, ha, hrs], by simp [hlength]⟩

/-- A simple expression has a meaning, of no more bytes than its weight. -/
theorem meaning_of_isSimple {e : Expression} {f : Flags} (hf : f.unicode) (hs : isSimple e) :
    ∃ r f', e.meaning f = some (r, f') ∧ f'.unicode ∧ r.bytes ≤ weight e := by
  induction e generalizing f with
  | empty => cases hs
  | literal c s =>
      refine ⟨.chars (charSet f c), f, by simp [meaning, hf], hf, ?_⟩
      have : charSet f c = foldAndNegate f false [(c.toNat, c.toNat)] := by
        simp [charSet, foldAndNegate, hf]
      rw [Regex.bytes, this]
      exact setBytes_folded_le hf
  | dot => cases hs
  | anchor a => cases hs
  | shorthand kind negated =>
      cases kind with
      | digit =>
          cases negated with
          | true => cases hs
          | false =>
              exact ⟨.chars Unicode.digits, f,
                by simp [meaning, wholeCharacters, shorthandSet, Shorthand.ranges, hf], hf,
                setBytes_le⟩
      | space =>
          cases negated with
          | true =>
              refine ⟨.chars (Unicode.Ranges.complement Unicode.whiteSpace), f,
                by simp [meaning, wholeCharacters, shorthandSet, Shorthand.ranges, hf], hf, ?_⟩
              have few : Unicode.whiteSpace.length + 1 ≤ Unicode.digits.length := by decide +kernel
              have length := Unicode.Ranges.length_complement_le.trans few
              exact setBytes_le.trans (Nat.add_le_add_left (Nat.mul_le_mul_left 60 length) 128)
          | false => cases hs
      | word => cases hs
  | unicode name negated => cases hs
  | bracket negated body =>
      cases negated with
      | true => cases hs
      | false =>
          cases body with
          | operation op lhs rhs => cases hs
          | items items =>
              obtain ⟨rs, hrs, hlength⟩ := exists_allRanges hf hs
              refine ⟨.chars (foldAndNegate f false rs), f,
                by simp [meaning, ClassSet.ranges, hrs, wholeCharacters, hf], hf, ?_⟩
              rw [weight, ← hlength]
              exact setBytes_folded_le hf
  | setFlags changes => cases hs
  | group kind body ih =>
      cases kind with
      | numbered => cases hs
      | named name =>
          obtain ⟨r, f', hm, hf', hb⟩ := ih hf hs
          exact ⟨.capture name r, f, by simp [meaning, hm], hf, Nat.add_le_add_right hb _⟩
      | flags changes =>
          cases changes with
          | nil =>
              obtain ⟨r, f', hm, hf', hb⟩ := ih (f := f.changes []) hf hs
              exact ⟨r, f, by simp [meaning, hm], hf, hb.trans (Nat.le_add_right ..)⟩
          | cons change changes => cases hs
  | repeated body count isLazy ih =>
      cases isLazy with
      | true => cases hs
      | false =>
          obtain ⟨r, f', hm, hf', hb⟩ := ih hf hs
          exact ⟨.rep r count.min count.max (false != f'.swapGreed), f', by simp [meaning, hm], hf',
            bytes_rep_le hb⟩
  | sequence a b iha ihb =>
      obtain ⟨ha, hb⟩ := Bool.and_eq_true_iff.mp hs
      obtain ⟨ra, fa, hma, hfa, hba⟩ := iha hf ha
      obtain ⟨rb, fb, hmb, hfb, hbb⟩ := ihb hfa hb
      exact ⟨.seq ra rb, fb, by simp [meaning, hma, hmb], hfb, Nat.add_le_add hba hbb⟩
  | either a b iha ihb =>
      obtain ⟨ha, hb⟩ := Bool.and_eq_true_iff.mp hs
      obtain ⟨ra, fa, hma, hfa, hba⟩ := iha hf ha
      obtain ⟨rb, fb, hmb, hfb, hbb⟩ := ihb hfa hb
      exact ⟨.alt ra rb, fb, by simp [meaning, hma, hmb], hfb,
        Nat.add_le_add_right (Nat.add_le_add hba hbb) _⟩

/-- A simple expression that is light enough makes a form. -/
theorem exists_ofExpression {e : Expression} (hs : isSimple e)
    (hw : weight e + 4 * stateBytes ≤ maxBytes) (ignoreCase : Bool) (reader : Reader) :
    ∃ form, ofExpression e ignoreCase reader = .ok form := by
  obtain ⟨r, f', hm, -, hb⟩ := meaning_of_isSimple (f := Flags.initial ignoreCase) rfl hs
  have hsize : r.anchored.bytes ≤ maxBytes := by
    have : r.anchored.bytes = stateBytes + (r.bytes + stateBytes) := rfl
    omega
  exact ⟨⟨String.ofList e.text, ignoreCase, r.anchored, reader⟩, by
    simp [ofExpression, Regex.ofExpression, meaning_anchored, hm, hsize]⟩

end TypeSchema.TextForm
