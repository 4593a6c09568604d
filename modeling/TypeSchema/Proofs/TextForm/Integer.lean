/-
# Integers — checks, texts and schemas draw the same bounds

The bounds and the width of an integer type are looked at in three places.  A
value is checked against each of them.  Its text has a form of so many digits,
for which the width stands in where a bound is missing, and what is read is
checked again.  The JSON Schema names the bounds with the same stand-in, and
says nothing of a width beside a bound.

They come to the same because constraints that agree keep the bounds within the
width (`IntLimits.accept_iff_between`).  There is always a form: no integer has
more than nineteen digits, and a matcher for so few is small
(`exists_ofIntLimits`).
-/
import TypeSchema.Proofs.JsonSchema.Payload
import TypeSchema.Proofs.TextForm.RoundTrip

namespace TypeSchema

open Regex Expression Numeral TextForm

/-! ## The form -/

namespace TextForm

theorem intDigits_le (i : Int64) : intDigits i ≤ 19 := by
  have hlo := i.le_toInt
  have hhi := i.toInt_lt
  exact (length_digits_le_iff (by decide)).mpr (by omega)

theorem isSimple_int {min max : Option Int64} : isSimple (int min max) := by
  have hsign : ∀ b, isSimple (sign b) := by decide
  refine Bool.and_eq_true_iff.mpr ⟨hsign _, ?_⟩
  split <;> rfl

/-- The matcher for an integer is no larger than for one of nineteen digits. -/
theorem weight_int_le {min max : Option Int64} :
    weight (int min max) ≤
      weight (sign true) + weight (sign false) + weight (times digit (.between 1 19)) := by
  have hsign : ∀ b, weight (sign b) ≤ weight (sign true) + weight (sign false) := by
    rintro (_ | _)
    · exact Nat.le_add_left ..
    · exact Nat.le_add_right ..
  have hdigits : ∀ n, n ≤ 19 →
      weight (times digit (.between 1 n)) ≤ weight (times digit (.between 1 19)) := by
    intro n hn
    refine Nat.add_le_add_right (Nat.mul_le_mul_right _ ?_) _
    show Nat.max n 1 ≤ 19
    exact Nat.max_le.mpr ⟨hn, by decide⟩
  refine Nat.add_le_add (hsign _) ?_
  split
  · exact hdigits _ (Nat.max_le.mpr ⟨intDigits_le _, intDigits_le _⟩)
  · exact hdigits 1 (by decide)

theorem exists_ofIntLimits (l : IntLimits) : ∃ form, ofIntLimits l = .ok form := by
  have light : weight (sign true) + weight (sign false) + weight (times digit (.between 1 19)) +
      4 * stateBytes ≤ maxBytes := by decide +kernel
  exact exists_ofExpression isSimple_int ((Nat.add_le_add_right weight_int_le _).trans light) false
    .int

end TextForm

/-! ## The schema -/

namespace JsonSchema

/-- The whole number is between the bounds that the schema names, as far as it
names any. -/
structure InBounds (schema : Json) (i : Int) : Prop where
  minimum : ∀ j, schema.get? "minimum" = some j → ∃ lo : Int, j = .ofInt lo ∧ lo ≤ i
  maximum : ∀ j, schema.get? "maximum" = some j → ∃ hi : Int, j = .ofInt hi ∧ i ≤ hi

theorem get?_ofIntLimits {l : IntLimits} :
    (ofIntLimits l).get? "minimum" =
        (l.min.or (l.widthBounds.map (·.1))).map (.ofInt ·.toInt) ∧
      (ofIntLimits l).get? "maximum" =
        (l.max.or (l.widthBounds.map (·.2))).map (.ofInt ·.toInt) := by
  unfold ofIntLimits
  cases l.min.or (l.widthBounds.map (·.1)) <;> cases l.max.or (l.widthBounds.map (·.2)) <;>
    simp [Json.get?, Fields.find?, typeField, bound]

theorem inBounds_ofIntLimits_iff {l : IntLimits} (agree : l.check = .ok ()) {i : Int64} :
    InBounds (ofIntLimits l) i.toInt ↔ l.accept i = .ok () := by
  obtain ⟨hmin, hmax⟩ := get?_ofIntLimits (l := l)
  rw [IntLimits.accept_iff_between agree]
  constructor
  · rintro ⟨minimum, maximum⟩
    refine ⟨fun lo hlo => ?_, fun hi hhi => ?_⟩
    · obtain ⟨_, heq, hle⟩ := minimum (.ofInt lo.toInt) (by rw [hmin, hlo]; rfl)
      cases heq
      exact Int64.le_iff_toInt_le.mpr hle
    · obtain ⟨_, heq, hle⟩ := maximum (.ofInt hi.toInt) (by rw [hmax, hhi]; rfl)
      cases heq
      exact Int64.le_iff_toInt_le.mpr hle
  · rintro ⟨hlower, hupper⟩
    refine ⟨fun j hj => ?_, fun j hj => ?_⟩
    · obtain ⟨lo, hlo, rfl⟩ := Option.map_eq_some_iff.mp (hmin.symm.trans hj)
      exact ⟨_, rfl, Int64.le_iff_toInt_le.mp (hlower lo hlo)⟩
    · obtain ⟨hi, hhi, rfl⟩ := Option.map_eq_some_iff.mp (hmax.symm.trans hj)
      exact ⟨_, rfl, Int64.le_iff_toInt_le.mp (hupper hi hhi)⟩

end JsonSchema

/-! ## Three readings -/

namespace ValueType

variable (files : FileTree) (century : Int) (a : Arity)

/-- An integer is of a type of integers exactly if its numeral is read as this
integer, and exactly if it is between the bounds that the JSON Schema of a
single value names, which is all that this schema demands of an integer.  The
arity has no say in single values. -/
theorem readText_ofInt {l : IntLimits} {t : ValueType} (made : ofKind (.int l) = .ok t)
    (i : Int64) :
    ((t.withArity a).readText files century (ofInt i.toInt) = .ok (.int i) ↔
      (t.withArity a).validateItem files (.int i) = .ok ()) ∧
    (JsonSchema.InBounds t.jsonSchema i.toInt ↔
      (t.withArity a).validateItem files (.int i) = .ok ()) ∧
    (JsonSchema.Meets t.jsonSchema (.ofInt i.toInt) ↔
      (t.withArity a).validateItem files (.int i) = .ok ()) := by
  obtain ⟨agree, rfl⟩ := ofKind_eq_ok.mp made
  have agree : l.check = .ok () := agree
  have haccept : (mk (.int l) a none).validateItem files (.int i) = .ok () ↔
      l.accept i = .ok () := by
    rw [validateItem, kind, hook, item_eq, Kind.accept]
  have hschema : (mk (.int l) .single none).jsonSchema = JsonSchema.ofIntLimits l := rfl
  rw [hschema]
  refine ⟨?_, (JsonSchema.inBounds_ofIntLimits_iff agree).trans haccept.symm,
    (meets_ofIntLimits_iff agree).trans haccept.symm⟩
  obtain ⟨form, hform⟩ := exists_ofIntLimits l
  have hforms : (mk (.int l) a none).textForms = .ok [form] := by
    simp only [textForms, Kind.textForms, hform]
    rfl
  show (mk (.int l) a none).readText files century (ofInt i.toInt) = .ok (.int i) ↔ _
  rw [readText_eq_ok_iff hforms]
  exact ⟨fun h => h.2, fun h => ⟨readsAs_int hform (haccept.mp h), h⟩⟩

/-- An instance: one byte from -5 on ends at 127, whoever is asked. -/
theorem readText_ofInt_byte :
    let t := mk (.int ⟨some (-5), none, some 1⟩) .single none
    ofKind t.kind = .ok t ∧
    t.validateItem .empty (.int 127) = .ok () ∧ t.validateItem .empty (.int 128) ≠ .ok () ∧
    t.readText .empty 2000 "127" = .ok (.int 127) ∧
    t.readText .empty 2000 "128" ≠ .ok (.int 128) ∧
    JsonSchema.InBounds t.jsonSchema 127 ∧ ¬ JsonSchema.InBounds t.jsonSchema 128 := by
  intro t
  have made : ofKind (.int ⟨some (-5), none, some 1⟩) = .ok t := rfl
  have within : t.validateItem .empty (.int 127) = .ok () := rfl
  have beyond : t.validateItem .empty (.int 128) ≠ .ok () := by
    intro h
    cases h
  obtain ⟨read, bounds, -⟩ := readText_ofInt .empty 2000 .single made 127
  obtain ⟨read', bounds', -⟩ := readText_ofInt .empty 2000 .single made 128
  exact ⟨made, within, beyond, read.mpr within, fun h => beyond (read'.mp h), bounds.mpr within,
    fun h => beyond (bounds'.mp h)⟩

end ValueType

end TypeSchema
