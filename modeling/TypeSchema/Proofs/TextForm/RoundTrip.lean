/-
# Round trips — a value is read from the text written for it

For each kind whose texts determine their values: what is written for a value
of the kind is read by a form, and no form before it takes the text for
something else.

* The words for true are too short for `false` (`readsAs_bool`).
* An integer within its bounds has no more digits than the longer of them,
  and a negative one has a bound below zero, if any (`readsAs_int`).
* A string is matched by the pattern it was checked against
  (`readsAs_string`), a value of an enumeration by its own text
  (`readsAs_enumeration`).
* A date with a year of four digits is cut at its hyphens (`readsAs_date`).
* A guid is 32 hexadecimal digits (`readsAs_guid`).

Whether the type has a check from outside makes no difference: it accepted the
value when the text was written.
-/
import TypeSchema.Proofs.Guid
import TypeSchema.Proofs.Steps
import TypeSchema.Proofs.TextForm.Basic
import TypeSchema.Proofs.TextForm.Reading
import TypeSchema.Proofs.ValueType.Acceptance
import TypeSchema.TextForm.Writing

namespace TypeSchema

open Regex Expression Numeral TextForm Steps

/-! ## Writing and reading -/

section Texts

variable {files : FileTree} {century : Int} {t : ValueType} {v : Value} {text : String}
  {forms : List TextForm}

theorem ValueType.writeText_eq_ok :
    t.writeText files v = .ok text ↔
      t.validateItem files v = .ok () ∧ t.kind.textOf files v = .ok text := by
  unfold ValueType.writeText
  cases t.validateItem files v with
  | ok u => simp
  | error r => simp

theorem ValueType.accept_of_validateItem (h : t.validateItem files v = .ok ()) :
    t.kind.accept files v = .ok () := by
  unfold ValueType.validateItem at h
  cases hk : t.kind.accept files v with
  | ok u => rfl
  | error r => simp [hk, bind, Except.bind] at h

/-- A text is read as the value of its first form, if the type accepts that. -/
theorem ValueType.readText_eq_ok (hforms : t.textForms = .ok forms)
    (hr : ReadsAs century forms text v) (hv : t.validateItem files v = .ok ()) :
    t.readText files century text = .ok v := by
  obtain ⟨form, c, hfirst, hread⟩ := hr
  simp only [ValueType.readText, hforms, orRefused, Except.mapError, bind, Except.bind, hfirst,
    hread, hv]
  rfl

/-- A text is read as what its first form makes of it, and only if the type
accepts that. -/
theorem ValueType.readText_eq_ok_iff (hforms : t.textForms = .ok forms) :
    t.readText files century text = .ok v ↔
      ReadsAs century forms text v ∧ t.validateItem files v = .ok () := by
  refine ⟨fun h => ?_, fun ⟨hr, hv⟩ => ValueType.readText_eq_ok hforms hr hv⟩
  unfold ValueType.readText at h
  simp only [hforms, orRefused, Except.mapError, bind, Except.bind] at h
  split at h
  case h_1 => cases h
  case h_2 form c hfirst =>
      split at h
      case h_1 => cases h
      case h_2 => cases h
      case h_3 w hread =>
          split at h
          case h_1 u hv =>
              cases h
              exact ⟨⟨form, c, hfirst, hread⟩, hv⟩
          case h_2 => cases h

/-- A text without a form is refused. -/
theorem ValueType.readText_of_not_isMatch (hforms : t.textForms = .ok forms)
    (hno : ∀ form ∈ forms, ¬ form.isMatch text) : t.readText files century text =
      .error (.refused (.stringFormat t.kind.keyword text .noAlternative .api)) := by
  simp only [readText, hforms, orRefused, Except.mapError, bind, Except.bind,
    firstMatch_eq_none.mpr hno]
  rfl

/-- Where it is known of which texts there is a form, and what is read then, it
is known which texts are read as a value. -/
theorem ValueType.readText_eq_ok_iff_of_form (hforms : t.textForms = .ok forms)
    {formed plain : Prop}
    (hread : formed → ∃ v', ReadsAs century forms text v' ∧
      t.validateItem files v' = .ok () ∧ (v' = v ↔ plain))
    (hno : ¬ formed → ¬ plain ∧ ∀ form ∈ forms, ¬ form.isMatch text) :
    ((∃ form ∈ forms, form.isMatch text) ↔ formed) ∧
      (t.readText files century text = .ok v ↔ plain) := by
  by_cases h : formed
  · obtain ⟨v', hreads, haccept, heq⟩ := hread h
    refine ⟨iff_of_true hreads.exists_isMatch h, ?_⟩
    rw [readText_eq_ok hforms hreads haccept, ← heq, Except.ok.injEq]
  · obtain ⟨hplain, hno⟩ := hno h
    refine ⟨iff_of_false (by simpa using hno) h, ?_⟩
    rw [readText_of_not_isMatch hforms hno]
    simpa using hplain

end Texts

theorem hasFourDigitYear_of_checkYear {d : Date} {u : Unit} (h : checkYear d = .ok u) :
    d.hasFourDigitYear := by
  unfold checkYear at h
  split at h
  · assumption
  · cases h

namespace TextForm

variable {century : Int} {text : String} {forms : List TextForm} {form : TextForm}

/-! ## Words -/

attribute [local simp] Reader.read

theorem readsAs_bool {b : Bool} (hforms : Kind.bool.textForms = .ok forms) :
    ReadsAs century forms (if b then "true" else "false") (.bool b) := by
  rw [Kind.textForms] at hforms
  obtain ⟨yes, hyes, hforms⟩ := except_bind_eq_ok.mp hforms
  obtain ⟨no, hno, hforms⟩ := except_bind_eq_ok.mp hforms
  cases hforms
  cases b with
  | true =>
      rw [if_pos rfl]
      refine .head ((isMatch_iff (by rfl) hyes).mpr ⟨[], ?_⟩) fun c _ => ?_
      · exact (reads_oneOf (by simp)).mpr ⟨word "true", by simp, reads_word⟩
      · rw [ofExpression_reader hyes, Reader.read]
  | false =>
      rw [if_neg (by simp)]
      refine .tail ?_ (.head ((isMatch_iff (by rfl) hno).mpr ⟨[], ?_⟩) fun c _ => ?_)
      · -- no word for true has five letters
        rw [isMatch_iff (by rfl) hyes]
        rintro ⟨c, hc⟩
        obtain ⟨e, he, hread⟩ := (reads_oneOf (by simp)).mp hc
        obtain ⟨w, hw, rfl⟩ := List.mem_map.mp he
        have hlength := length_of_reads_word hread
        have short : ∀ w ∈ ["true", "t", "yes", "y", "on", "1"],
            "false".toList.length ≠ w.toList.length := by decide
        exact short w hw hlength
      · exact (reads_oneOf (by simp)).mpr ⟨word "false", by simp, reads_word⟩
      · rw [ofExpression_reader hno, Reader.read]

theorem isLocal_inTurn {es : List Expression} (h : ∀ e ∈ es, e.isLocal) : (inTurn es).isLocal := by
  induction es with
  | nil => rfl
  | cons e es ih =>
      have htail := ih fun e he => h e (List.mem_cons_of_mem _ he)
      cases es with
      | nil => exact h e List.mem_cons_self
      | cons e' es => exact Bool.and_eq_true_iff.mpr ⟨h e List.mem_cons_self, htail⟩

theorem isLocal_oneOf {es : List Expression} (h : ∀ e ∈ es, e.isLocal) : (oneOf es).isLocal := by
  induction es with
  | nil => rfl
  | cons e es ih =>
      have htail := ih fun e he => h e (List.mem_cons_of_mem _ he)
      cases es with
      | nil => exact h e List.mem_cons_self
      | cons e' es => exact Bool.and_eq_true_iff.mpr ⟨h e List.mem_cons_self, htail⟩

theorem isLocal_choice {values : List String} : (choice values).isLocal := by
  refine isLocal_oneOf fun e he => ?_
  obtain ⟨s, -, rfl⟩ := List.mem_map.mp he
  refine isLocal_inTurn fun e he => ?_
  obtain ⟨c, -, rfl⟩ := List.mem_map.mp he
  by_cases hc : isMeta c
  · simp [hc, escaped, isLocal]
  · simp [hc, plain, isLocal]

/-- The place of an accepted text is a place where it stands. -/
theorem getElem?_placeOf {values : List String} {s : String} (h : s ∈ values) :
    (placeOf values s).bind (values[·]?) = some s := by
  cases hi : values.findIdx? (· = s) with
  | none => exact absurd (List.findIdx?_eq_none_iff.mp hi s h) (by simp)
  | some i =>
      obtain ⟨hlt, hs, -⟩ := List.findIdx?_eq_some_iff_getElem.mp hi
      simp only [placeOf, hi, Option.some_or, Option.bind_some, List.getElem?_eq_getElem hlt]
      simpa using hs

theorem readsAs_enumeration {l : EnumLimits} {s : String} (hforms : ofEnumLimits l = .ok forms)
    (hs : s ∈ l.values) : ReadsAs century forms s (.string s) := by
  simp only [ofEnumLimits, bind, Except.bind] at hforms
  split at hforms
  · cases hforms
  · rename_i form hform
    obtain ⟨rest, rfl⟩ : ∃ rest, forms = form :: rest := by
      split at hforms
      · cases hforms
        exact ⟨_, rfl⟩
      · split at hforms
        · cases hforms
        · cases hforms
          exact ⟨_, rfl⟩
    refine .head ((isMatch_iff isLocal_choice hform).mpr ⟨[], ?_⟩) fun c _ => ?_
    · exact (reads_oneOf (by simpa using List.ne_nil_of_mem hs)).mpr
        ⟨verbatim s, List.mem_map_of_mem hs, reads_verbatim⟩
    · rw [ofExpression_reader hform]
      simp [getElem?_placeOf hs]

/-! ## Strings -/

/-- Every text is read, if only it is long enough. -/
theorem reads_anything {f : Flags} {count : Count} {cs : List Char} {c : Captures}
    (hmax : count.max = none) :
    (anything count).Reads f cs c ↔ count.min ≤ cs.length ∧ c = [] := by
  have hdots : ∀ cs c, Expression.dot.Reads (f.changes [(.dotAll, true)]) cs c ↔
      ReadOne [(0, Unicode.maxCode)] cs c := fun _ _ => Iff.rfl
  have hall : ∀ d ∈ cs, Unicode.Ranges.has [(0, Unicode.maxCode)] d.toNat := by
    intro d _
    simpa [Unicode.Ranges.has] using Unicode.Ranges.toNat_le_maxCode d
  show (times .dot count).Reads (f.changes [(.dotAll, true)]) cs c ↔ _
  rw [reads_times hdots, hmax]
  constructor
  · rintro ⟨-, hc, hmin, -⟩
    exact ⟨hmin, hc⟩
  · rintro ⟨hmin, hc⟩
    exact ⟨hall, hc, hmin, by simp⟩

theorem readsAs_string {l : StringLimits} {s : String} (hform : ofStringLimits l = .ok form)
    (hs : l.accept s = .ok ()) : ReadsAs century [form] s (.string s) := by
  obtain ⟨hlength, hpattern⟩ := l.accept_ok hs
  unfold ofStringLimits at hform
  cases hp : l.expression with
  | some p =>
      simp only [hp] at hform
      cases hform
      exact .head (hpattern p hp) fun c _ => rfl
  | none =>
      simp only [hp] at hform
      refine .head ((isMatch_iff ?_ hform).mpr ⟨[], ?_⟩) fun c _ => ?_
      · split <;> rfl
      · split
        · exact (reads_anything rfl).mpr ⟨Nat.zero_le _, rfl⟩
        · rename_i hne
          have hpos : 0 < l.minLength.toNat := by
            rw [Nat.pos_iff_ne_zero]
            exact fun h0 => hne (UInt64.toNat_inj.mp h0)
          exact (reads_anything rfl).mpr
            ⟨hpos.trans_le (hlength.trans String.length_toList.ge), rfl⟩
      · rw [ofExpression_reader hform]
        rfl

/-! ## Signs -/

/-- A sign can be left out; a minus is a sign unless no number is negative. -/
theorem reads_sign {f : Flags} (hf : f.unicode) {nonNegative : Bool} {cs : List Char}
    {c : Captures} : (sign nonNegative).Reads f cs c ↔
      (cs = [] ∨ cs = ['+'] ∨ nonNegative = false ∧ cs = ['-']) ∧ c = [] := by
  unfold sign
  cases nonNegative with
  | true =>
      rw [if_pos rfl, reads_maybe, reads_escaped_iff hf (by decide)]
      constructor
      · rintro (⟨h, hc⟩ | ⟨h, hc⟩)
        · exact ⟨.inl h, hc⟩
        · exact ⟨.inr (.inl h), hc⟩
      · rintro ⟨h | h | h, hc⟩
        · exact .inl ⟨h, hc⟩
        · exact .inr ⟨h, hc⟩
        · cases h.1
  | false =>
      rw [if_neg Bool.false_ne_true, reads_maybe, reads_among_iff hf (by decide)]
      constructor
      · rintro (⟨h, hc⟩ | ⟨d, hd, rfl, hc⟩)
        · exact ⟨.inl h, hc⟩
        · rcases List.mem_pair.mp hd with rfl | rfl
          · exact ⟨.inr (.inr ⟨rfl, rfl⟩), hc⟩
          · exact ⟨.inr (.inl rfl), hc⟩
      · rintro ⟨h | h | ⟨-, h⟩, hc⟩
        · exact .inl ⟨h, hc⟩
        · exact .inr ⟨'+', by simp, h, hc⟩
        · exact .inr ⟨'-', by simp, h, hc⟩

theorem isLocal_sign {nonNegative : Bool} : (sign nonNegative).isLocal := by
  unfold sign
  split <;> rfl

/-! ## Integers -/

/-- Between two bounds a number has no more digits than one of them. -/
theorem length_digits_le {lo i hi : Int64} (hlo : lo ≤ i) (hhi : i ≤ hi) :
    (digits i.toInt.natAbs).length ≤ Nat.max (intDigits lo) (intDigits hi) := by
  rw [Int64.le_iff_toInt_le] at hlo hhi
  have : i.toInt.natAbs ≤ lo.toInt.natAbs ∨ i.toInt.natAbs ≤ hi.toInt.natAbs := by omega
  rcases this with h | h
  · exact (length_digits_mono h).trans (Nat.le_max_left ..)
  · exact (length_digits_mono h).trans (Nat.le_max_right ..)

/-- The digits of a number, if they are within the count. -/
theorem reads_number {f : Flags} (hf : f.unicode) {count : Count} {n : Nat} (hmin : count.min ≤ 1)
    (hmax : ∀ m, count.max = some m → (digits n).length ≤ m) :
    (times digit count).Reads f (digits n) [] := by
  have hpos : 0 < (digits n).length := List.length_pos_iff.mpr digits_ne_nil
  refine (reads_digits hf).mpr ⟨fun d hd => .of_isDigit (isDigit_of_mem_digits hd), rfl, ?_, ?_⟩
  · omega
  · intro m hm
    have := hmax m hm
    omega

theorem reads_int {f : Flags} (hf : f.unicode) {min max : Option Int64} {i : Int64}
    (hlo : ∀ lo, min = some lo → lo ≤ i) (hhi : ∀ hi, max = some hi → i ≤ hi) :
    (int min max).Reads f (ofInt i.toInt).toList [] := by
  obtain ⟨count, hint, hmin, hmax⟩ : ∃ count,
      int min max = .sequence (sign (min.any (0 ≤ ·))) (times digit count) ∧ count.min = 1 ∧
        ∀ m, count.max = some m → (digits i.toInt.natAbs).length ≤ m := by
    cases min with
    | none => exact ⟨.more, rfl, rfl, fun m hm => by cases hm⟩
    | some lo =>
        cases max with
        | none => exact ⟨.more, rfl, rfl, fun m hm => by cases hm⟩
        | some hi =>
            refine ⟨_, rfl, rfl, fun m hm => ?_⟩
            cases hm
            exact length_digits_le (hlo lo rfl) (hhi hi rfl)
  have hdigits := reads_number hf hmin.le hmax
  rw [toList_ofInt, hint]
  split
  · rename_i hneg
    have hminus : min.any (0 ≤ ·) = false := by
      cases hm : min with
      | none => rfl
      | some lo =>
          have := Int64.le_iff_toInt_le.mp (hlo lo hm)
          simp only [Option.any_some, decide_eq_false_iff_not, Int64.le_iff_toInt_le]
          have : (0 : Int64).toInt = 0 := rfl
          omega
    have hsign := (reads_sign hf).mpr ⟨.inr (.inr ⟨hminus, rfl⟩), rfl⟩
    exact ⟨['-'], _, [], [], hsign, hdigits, rfl, rfl⟩
  · exact ⟨[], _, [], [], (reads_sign hf).mpr ⟨.inl rfl, rfl⟩, hdigits, rfl, rfl⟩

theorem isLocal_int {min max : Option Int64} : (int min max).isLocal := by
  refine Bool.and_eq_true_iff.mpr ⟨isLocal_sign, ?_⟩
  split <;> rfl

theorem readsAs_int {l : IntLimits} {i : Int64} (hform : ofIntLimits l = .ok form)
    (hi : l.accept i = .ok ()) : ReadsAs century [form] (ofInt i.toInt) (.int i) := by
  have hmatch : form.isMatch (ofInt i.toInt) := (isMatch_iff isLocal_int hform).mpr
    ⟨[], reads_int rfl (fun lo => IntLimits.lower_le hi) fun hi' => IntLimits.le_upper hi⟩
  refine .head hmatch fun c _ => ?_
  rw [ofExpression_reader hform]
  simp [readInt_toInt]

/-! ## Dates -/

theorem readsAs_date {d : Date} (hforms : dates.mapM (ofExpression · false .date) = .ok forms)
    (hd : d.hasFourDigitYear) : ReadsAs century forms d.text (.date d) := by
  rw [dates_eq, List.mapM_cons] at hforms
  obtain ⟨form, hform, hforms⟩ := except_bind_eq_ok.mp hforms
  obtain ⟨rest, -, hforms⟩ := except_bind_eq_ok.mp hforms
  cases hforms
  have htext := Date.toList_text hd
  refine .head ((isMatch_iff (by rfl) hform).mpr ?_) fun c hc => ?_
  · rw [htext]
    exact reads_date rfl hd
  · have hreads := reads_of_captures? (by rfl) hform hc rfl
    rw [htext] at hreads
    obtain rfl := captures_of_reads_fullDate rfl (fun _ => isDecimal_of_mem_padLeft)
      isDecimal_of_mem_twoDigits hreads
    rw [ofExpression_reader hform, Reader.read, readDate_eq_ok hd (by simp [Captures.get?])
      (by simp [Captures.get?]) (by simp [Captures.get?])]
    rfl

/-! ## Guids -/

section Guids

variable {f : Flags} (hf : f.unicode) {cs : List Char}
include hf

theorem reads_hexDigit {d : Char} (hd : Guid.IsHex d) : hexDigit.Reads f [d] [] := by
  refine ⟨[('0'.toNat, '9'.toNat), ('a'.toNat, 'f'.toNat)], ?_, d, ?_, rfl, rfl⟩
  · simp [ClassSet.ranges, ClassItem.allRanges, ClassItem.ranges, hf]
  · exact has_foldAndNegate_of_has (by
      simpa [Unicode.Ranges.has, Guid.IsHex, char_le_iff] using hd)

theorem reads_hexDigits (hcs : ∀ d ∈ cs, Guid.IsHex d) :
    (TextForm.hexDigits cs.length).Reads f cs [] := by
  refine ⟨cs.length, Nat.le_refl _, fun m hm => ?_, ?_⟩
  · cases hm
    exact Nat.le_add_right ..
  · induction cs with
    | nil => exact ⟨rfl, rfl⟩
    | cons d cs ih =>
        exact ⟨[d], cs, [], [], reads_hexDigit hf (hcs d List.mem_cons_self),
          ih fun d hd => hcs d (List.mem_cons_of_mem _ hd), rfl, rfl⟩

end Guids

theorem reads_guid {f : Flags} (hf : f.unicode) (g : Guid) : guid.Reads f g.text.toList [] := by
  obtain ⟨a, b, c, d, e, htext, ha, hb, hc, hd, he, hdigits⟩ := g.toList_text
  have hex : ∀ x ∈ a ++ (b ++ (c ++ (d ++ e))), Guid.IsHex x :=
    fun x hx => Guid.isHex_of_mem_hexDigits (hdigits ▸ hx)
  simp only [List.mem_append] at hex
  have hskip : ∀ x, (maybe (escaped x)).Reads f [] [] := fun x => reads_maybe.mpr (.inl ⟨rfl, rfl⟩)
  have hyphen : (maybe (plain '-')).Reads f ['-'] [] := reads_maybe.mpr (.inr reads_plain)
  have hgroup : ∀ n (ds : List Char), ds.length = n → (∀ x ∈ ds, Guid.IsHex x) →
      (TextForm.hexDigits n).Reads f ds [] := by
    rintro _ ds rfl hds
    exact reads_hexDigits hf hds
  have hend : (inTurn [maybe (escaped '\x7d')]).Reads f [] [] := hskip _
  have hlast : (inTurn [TextForm.hexDigits 12, maybe (escaped '\x7d')]).Reads f (e ++ []) [] :=
    reads_inTurn_front (hgroup 12 e he fun x hx => hex x (by simp [hx])) hend
  rw [List.append_nil] at hlast
  rw [htext]
  exact reads_inTurn_skip (hskip _)
    (reads_inTurn_front (hgroup 8 a ha fun x hx => hex x (by simp [hx]))
    (reads_inTurn_char hyphen
    (reads_inTurn_front (hgroup 4 b hb fun x hx => hex x (by simp [hx]))
    (reads_inTurn_char hyphen
    (reads_inTurn_front (hgroup 4 c hc fun x hx => hex x (by simp [hx]))
    (reads_inTurn_char hyphen
    (reads_inTurn_front (hgroup 4 d hd fun x hx => hex x (by simp [hx]))
    (reads_inTurn_char hyphen hlast))))))))

/-- Without braces a text stays as it is. -/
theorem unbraced_of_not_mem {cs : List Char} (h : '\x7b' ∉ cs) (h' : '\x7d' ∉ cs) :
    unbraced cs = cs := by
  have keep : ∀ (x : Char) (ds : List Char), x ∉ ds → ds.dropWhile (· = x) = ds := by
    intro x ds hx
    cases ds with
    | nil => rfl
    | cons d ds =>
        have : d ≠ x := fun hd => hx (hd ▸ List.mem_cons_self)
        simp [this]
  rw [unbraced, keep _ _ h, keep _ _ (by simpa using h'), List.reverse_reverse]

theorem readsAs_guid {g : Guid} (hform : ofExpression guid true .guid = .ok form) :
    ReadsAs century [form] g.text (.guid g) := by
  refine .head ((isMatch_iff (by rfl) hform).mpr ⟨[], reads_guid rfl g⟩) fun c _ => ?_
  have braces : ∀ x, ¬ Guid.IsHex x → x ≠ '-' → x ∉ g.text.toList := by
    obtain ⟨a, b, c, d, e, htext, -, -, -, -, -, hdigits⟩ := g.toList_text
    intro x hx hne hmem
    have hex : ∀ x ∈ a ++ (b ++ (c ++ (d ++ e))), Guid.IsHex x :=
      fun x hx => Guid.isHex_of_mem_hexDigits (hdigits ▸ hx)
    rw [htext] at hmem
    refine hx (hex x ?_)
    simpa [hne] using hmem
  have hread : Guid.ofChars (unbraced g.text.toList) = .ok g := by
    rw [unbraced_of_not_mem (braces _ (by decide) (by decide)) (braces _ (by decide) (by decide)),
      Guid.ofChars_text]
  rw [ofExpression_reader hform]
  simp [hread]

end TextForm

/-! ## All kinds -/

/-- The kinds whose texts say everything about a value. -/
def Kind.isWrittenInFull : Kind → Bool
  | .bool => true
  | .int _ => true
  | .string _ => true
  | .enumeration _ => true
  | .date => true
  | .guid => true
  | _ => false

/-- What is written for a value that the kind accepts is read as this value. -/
theorem readsAs_textOf {files : FileTree} {century : Int} {kind : Kind} {v : Value} {text : String}
    {forms : List TextForm} (hk : kind.isWrittenInFull) (hforms : kind.textForms = .ok forms)
    (haccept : kind.accept files v = .ok ()) (htext : kind.textOf files v = .ok text) :
    ReadsAs century forms text v := by
  cases kind with
  | bool =>
      cases v with
      | bool b =>
          simp only [Kind.textOf] at htext
          obtain rfl := Except.ok.inj htext
          exact readsAs_bool hforms
      | _ => simp [Kind.textOf, unwritable] at htext
  | int l =>
      cases v with
      | int i =>
          simp only [Kind.textOf] at htext
          obtain rfl := Except.ok.inj htext
          rw [Kind.textForms] at hforms
          obtain ⟨form, hform, hforms⟩ := except_bind_eq_ok.mp hforms
          cases hforms
          rw [Kind.accept] at haccept
          exact readsAs_int hform haccept
      | _ => simp [Kind.textOf, unwritable] at htext
  | string l =>
      cases v with
      | string s =>
          simp only [Kind.textOf] at htext
          obtain rfl := Except.ok.inj htext
          rw [Kind.textForms] at hforms
          obtain ⟨form, hform, hforms⟩ := except_bind_eq_ok.mp hforms
          cases hforms
          rw [Kind.accept] at haccept
          exact readsAs_string hform haccept
      | _ => simp [Kind.textOf, unwritable] at htext
  | enumeration l =>
      cases v with
      | string s =>
          simp only [Kind.textOf] at htext
          obtain rfl := Except.ok.inj htext
          rw [Kind.textForms] at hforms
          rw [Kind.accept] at haccept
          exact readsAs_enumeration hforms (l.accept_ok haccept)
      | _ => simp [Kind.textOf, unwritable] at htext
  | date =>
      cases v with
      | date d =>
          rw [Kind.textOf] at htext
          obtain ⟨_, hyear, htext⟩ := except_bind_eq_ok.mp htext
          obtain rfl := Except.ok.inj htext
          rw [Kind.textForms] at hforms
          exact readsAs_date hforms (hasFourDigitYear_of_checkYear hyear)
      | _ => simp [Kind.textOf, unwritable] at htext
  | guid =>
      cases v with
      | guid g =>
          simp only [Kind.textOf] at htext
          obtain rfl := Except.ok.inj htext
          rw [Kind.textForms] at hforms
          obtain ⟨form, hform, hforms⟩ := except_bind_eq_ok.mp hforms
          cases hforms
          exact readsAs_guid hform
      | _ => simp [Kind.textOf, unwritable] at htext
  | _ => exact absurd hk (by simp [Kind.isWrittenInFull])

/-- Whatever is written for a value of a type of one of these kinds has a form
of the type, and is read as this value. -/
theorem ValueType.readText_writeText {files : FileTree} {century : Int} {t : ValueType}
    {v : Value} {text : String} {forms : List TextForm} (hk : t.kind.isWrittenInFull)
    (hforms : t.textForms = .ok forms) (hw : t.writeText files v = .ok text) :
    (∃ form ∈ forms, form.isMatch text) ∧ t.readText files century text = .ok v := by
  obtain ⟨hv, htext⟩ := ValueType.writeText_eq_ok.mp hw
  have hreads : ReadsAs century forms text v := by
    cases t with
    | mk kind arity hook =>
        exact readsAs_textOf hk hforms (ValueType.accept_of_validateItem hv) htext
  exact ⟨hreads.exists_isMatch, ValueType.readText_eq_ok hforms hreads hv⟩

/-- The type of integers of one byte. -/
def byteInt : ValueType := .mk (.int ⟨none, none, some 1⟩) .single none

/-- An instance: the least integer of one byte. -/
theorem ValueType.readText_writeText_byteInt : ∃ forms, byteInt.textForms = .ok forms ∧
    byteInt.writeText .empty (.int (-128)) = .ok "-128" ∧
    (∃ form ∈ forms, form.isMatch "-128") ∧
    byteInt.readText .empty 2000 "-128" = .ok (.int (-128)) := by
  obtain ⟨form, hform⟩ := exists_ofExpression (e := int (some (-128)) (some 127)) (by rfl)
    (by decide +kernel) false .int
  have hforms : byteInt.textForms = .ok [form] := by
    have : ofIntLimits ⟨none, none, some 1⟩ = .ok form := hform
    simp only [byteInt, ValueType.textForms, Kind.textForms, this]
    rfl
  have hw : byteInt.writeText .empty (.int (-128)) = .ok "-128" := by rfl
  exact ⟨_, hforms, hw, ValueType.readText_writeText rfl hforms hw⟩

end TypeSchema
