/-
# Grouping — choices among choices

Some alternatives in a row can be made a choice of their own, any number of
times and any number of levels deep (`Grouped`).  The forms of texts stay the
same in the same order (`Grouped.allTextForms_eq`), because those of a choice
are those of its alternatives.  A value that was read is checked against the
choice as it is grouped.  It is neither nothing nor a list
(`isPlain_of_read`), so the arities of the groups, which hold single values,
have nothing to say (`Grouped.accepted_iff`).

So a text is read as the same value, grouped or not (`ValueType.readText_grouped`).
-/
import TypeSchema.Proofs.TextForm.Outcome
import TypeSchema.Proofs.ValueType.Acceptance

namespace TypeSchema

open TextForm Steps

variable {files : FileTree} {century : Int} {text : String} {v : Value}

/-- The alternatives `flat`, with some of them in groups: choices for single
values that stand where the alternatives inside of them stood. -/
inductive ValueType.Grouped : (flat nested : List ValueType) → Prop
  | nil : Grouped [] []
  | keep {t : ValueType} {flat nested : List ValueType} (rest : Grouped flat nested) :
      Grouped (t :: flat) (t :: nested)
  | group {part inner flat nested : List ValueType} {a : Arity} (single : a.isCollection = false)
      (inside : Grouped part inner) (rest : Grouped flat nested) :
      Grouped (part ++ flat) (.mk (.anyOf inner) a none :: nested)

/-! ## Forms -/

theorem ValueType.allTextForms_append {ts us : List ValueType} :
    ValueType.allTextForms (ts ++ us) = (do
      let forms ← ValueType.allTextForms ts
      let more ← ValueType.allTextForms us
      return forms ++ more) := by
  induction ts with
  | nil =>
      rw [List.nil_append, ValueType.allTextForms.eq_1]
      cases ValueType.allTextForms us <;> rfl
  | cons t ts ih =>
      rw [List.cons_append, ValueType.allTextForms, ih, ValueType.allTextForms.eq_2]
      cases t.textForms with
      | error e => rfl
      | ok forms =>
          cases ValueType.allTextForms ts with
          | error e => rfl
          | ok more =>
              cases ValueType.allTextForms us with
              | error e => rfl
              | ok others => exact congrArg Except.ok (List.append_assoc ..).symm

/-- A group has the forms of what is in it. -/
theorem ValueType.Grouped.allTextForms_eq {flat nested : List ValueType}
    (h : Grouped flat nested) :
    ValueType.allTextForms nested = ValueType.allTextForms flat := by
  induction h with
  | nil => rfl
  | keep _ ih => rw [ValueType.allTextForms, ih, ValueType.allTextForms.eq_2]
  | group _ _ _ inside rest =>
      rw [ValueType.allTextForms, ValueType.textForms, Kind.textForms, inside, rest,
        ValueType.allTextForms_append]

/-! ## Values -/

/-- What is read from a text is a single value. -/
theorem TextForm.isPlain_of_read {r : Reader} {caps : Regex.Captures}
    (h : r.read century caps text = .ok v) : v.IsPlain := by
  cases r with
  | bool | string | path =>
      cases h
      exact ⟨nofun, rfl⟩
  | int | number | enumeration | guid | uri =>
      rw [Reader.read] at h
      split at h
      · cases h
        exact ⟨nofun, rfl⟩
      · cases h
  | date =>
      obtain ⟨d, -, rfl⟩ := map_eq_ok.mp (mapError_eq_ok.mp h)
      exact ⟨nofun, rfl⟩
  | time | duration =>
      obtain ⟨t, -, rfl⟩ := map_eq_ok.mp h
      exact ⟨nofun, rfl⟩
  | dateTime =>
      obtain ⟨d, -, h⟩ := except_bind_eq_ok.mp h
      obtain ⟨t, -, h⟩ := except_bind_eq_ok.mp h
      cases h
      exact ⟨nofun, rfl⟩

/-- A group accepts a single value if something in it does. -/
theorem ValueType.Grouped.accepted_iff {flat nested : List ValueType}
    (h : Grouped flat nested) (plain : v.IsPlain) :
    (∃ t ∈ nested, t.validate files v = .ok ()) ↔ ∃ t ∈ flat, t.validate files v = .ok () := by
  induction h with
  | nil => exact Iff.rfl
  | keep _ ih => rw [List.exists_mem_cons_iff, ih, List.exists_mem_cons_iff]
  | @group part inner flat nested a single _ _ inside rest =>
      have group : (ValueType.mk (.anyOf inner) a none).validate files v = .ok () ↔
          ∃ t ∈ part, t.validate files v = .ok () := by
        rw [validate_of_isPlain plain, validateItem_eq_ok, ← inside, ← Kind.accept_anyOf_eq_ok]
        constructor
        · rintro ⟨-, accept, -⟩
          exact accept
        · intro accept
          exact ⟨single, accept, rfl⟩
      rw [List.exists_mem_cons_iff, group, rest]
      simp only [List.mem_append, or_and_right, exists_or]

/-! ## Texts -/

section Texts

variable {t s : ValueType} {forms : List TextForm}

theorem ValueType.readText_eq_brokenOff (hforms : t.textForms = .ok forms) :
    t.readText files century text = .error .brokenOff ↔ BreaksOff century text forms := by
  have outcome := @readText_cases files century t text forms hforms
  rcases outcome with ⟨breaks, h⟩ | ⟨not, ⟨v, h⟩ | ⟨fault, h⟩⟩
  · exact iff_of_true h breaks
  · exact iff_of_false (by rw [h]; exact nofun) not
  · exact iff_of_false (by rw [h]; exact nofun) not

/-- Types read the same values if they have the same forms and accept the same
single values. -/
theorem ValueType.readText_congr (same : t.textForms = s.textForms)
    (agree : ∀ v, v.IsPlain →
      (t.validateItem files v = .ok () ↔ s.validateItem files v = .ok ())) :
    (∀ v, t.readText files century text = .ok v ↔ s.readText files century text = .ok v) ∧
      (t.readText files century text = .error .brokenOff ↔
        s.readText files century text = .error .brokenOff) := by
  cases hs : s.textForms with
  | error e =>
      have none : ∀ u : ValueType, u.textForms = .error e →
          u.readText files century text = .error (.refused e) := by
        intro u hu
        rw [ValueType.readText, hu]
        rfl
      rw [none t (same.trans hs), none s hs]
      exact ⟨fun _ => Iff.rfl, Iff.rfl⟩
  | ok forms =>
      have ht := same.trans hs
      constructor
      · intro v
        rw [readText_eq_ok_iff ht, readText_eq_ok_iff hs]
        refine and_congr_right fun reads => agree v ?_
        obtain ⟨form, c, -, read⟩ := reads
        exact isPlain_of_read read
      · rw [readText_eq_brokenOff ht, readText_eq_brokenOff hs]

end Texts

/-- Grouped or not, a choice has the same forms in the same order, and reads
the same values from the same texts. -/
theorem ValueType.readText_grouped {flat nested : List ValueType} (h : Grouped flat nested)
    (files : FileTree) (century : Int) (a b : Arity) (hook : Option Hook) :
    (ValueType.mk (.anyOf nested) a hook).textForms =
        (ValueType.mk (.anyOf flat) b hook).textForms ∧
      ∀ text,
        (∀ v, (ValueType.mk (.anyOf nested) a hook).readText files century text = .ok v ↔
          (ValueType.mk (.anyOf flat) b hook).readText files century text = .ok v) ∧
        ((ValueType.mk (.anyOf nested) a hook).readText files century text = .error .brokenOff ↔
          (ValueType.mk (.anyOf flat) b hook).readText files century text =
            .error .brokenOff) := by
  have forms : (ValueType.mk (.anyOf nested) a hook).textForms =
      (ValueType.mk (.anyOf flat) b hook).textForms := by
    rw [textForms, Kind.textForms, h.allTextForms_eq, textForms, Kind.textForms]
  refine ⟨forms, fun text => readText_congr forms fun v plain => ?_⟩
  rw [validateItem_eq_ok, validateItem_eq_ok]
  refine and_congr ?_ Iff.rfl
  show (Kind.anyOf nested).accept files v = .ok () ↔ (Kind.anyOf flat).accept files v = .ok ()
  rw [Kind.accept_anyOf_eq_ok, Kind.accept_anyOf_eq_ok, h.accepted_iff plain]

/-- A list of integers, an integer up to five, or any integer. -/
def intsOrInt : List ValueType :=
  [.mk (.int ⟨none, none, none⟩) .zeroOrMore none, .mk (.int ⟨none, some 5, none⟩) .single none,
    .mk (.int ⟨none, none, none⟩) .single none]

/-- The list and the small integer are a group, and the small integer is one
more group in it. -/
def groupedIntsOrInt : List ValueType :=
  [.mk (.anyOf [.mk (.int ⟨none, none, none⟩) .zeroOrMore none,
      .mk (.anyOf [.mk (.int ⟨none, some 5, none⟩) .single none]) .optional none]) .single none,
    .mk (.int ⟨none, none, none⟩) .single none]

/-- An instance: seven has the form of the list that comes first, and is the
integer that comes last, behind two groups that do not accept it. -/
theorem ValueType.readText_grouped_seven :
    Grouped intsOrInt groupedIntsOrInt ∧
    (ValueType.mk (.anyOf groupedIntsOrInt) .single none).textForms =
      (ValueType.mk (.anyOf intsOrInt) .single none).textForms ∧
    (ValueType.mk (.anyOf groupedIntsOrInt) .single none).readText .empty 2000 "7" =
      .ok (.int 7) := by
  have small : Grouped [.mk (.int ⟨none, some 5, none⟩) .single none]
      [.mk (.anyOf [.mk (.int ⟨none, some 5, none⟩) .single none]) .optional none] :=
    .group rfl (.keep .nil) .nil
  have grouped : Grouped intsOrInt groupedIntsOrInt := .group rfl (.keep small) (.keep .nil)
  obtain ⟨same, read⟩ := ValueType.readText_grouped grouped .empty 2000 .single .single none
  refine ⟨grouped, same, ((read "7").1 _).mpr ?_⟩
  obtain ⟨any, hany⟩ := exists_ofExpression (e := int none none) (by rfl) (by decide +kernel)
    false .int
  obtain ⟨upTo, hupTo⟩ := exists_ofExpression (e := int none (some 5)) (by rfl)
    (by decide +kernel) false .int
  have first : ofIntLimits ⟨none, none, none⟩ = .ok any := hany
  have second : ofIntLimits ⟨none, some 5, none⟩ = .ok upTo := hupTo
  have forms : (ValueType.mk (.anyOf intsOrInt) .single none).textForms =
      .ok ([any] ++ [upTo, any]) := by
    simp only [textForms, Kind.textForms, intsOrInt, allTextForms, first, second]
    rfl
  have seven : ReadsAs 2000 [any] "7" (.int 7) := by
    have written : Numeral.ofInt (7 : Int64).toInt = "7" := by rfl
    exact written ▸ readsAs_int first rfl
  exact ValueType.readText_eq_ok forms seven.append rfl

end TypeSchema
