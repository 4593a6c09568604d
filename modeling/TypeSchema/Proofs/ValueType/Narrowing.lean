/-
# Narrowing — integers under further tags

A declaration that refers to a type of integers may carry tags that this one
does not.  Bounds and a width more let fewer integers through, but for one
case: a lower bound that is not negative takes the sign off a width that was
there before, and a width without sign reaches further up
(`IntLimits.accept_iff_of_extends`).
-/
import TypeSchema.Proofs.Descriptor.Tagged
import TypeSchema.Proofs.ValueType.Acceptance
import TypeSchema.Proofs.ValueType.Constraints

namespace TypeSchema

/-! ## Limits -/

namespace IntLimits

variable {l l' : IntLimits}

/-- Every bound of `l`, and its width, is one of `l'` as well. -/
structure Extends (l l' : IntLimits) : Prop where
  min : ∀ lo, l.min = some lo → l'.min = some lo
  max : ∀ hi, l.max = some hi → l'.max = some hi
  bytes : ∀ b, l.bytes = some b → l'.bytes = some b

theorem isUnsigned_iff : l.isUnsigned = true ↔ ∃ lo, l.min = some lo ∧ 0 ≤ lo := by
  unfold isUnsigned
  cases l.min <;> simp

theorem Extends.isUnsigned (ext : l.Extends l') (h : l.isUnsigned = true) :
    l'.isUnsigned = true := by
  obtain ⟨lo, hlo, positive⟩ := isUnsigned_iff.mp h
  exact isUnsigned_iff.mpr ⟨lo, ext.min lo hlo, positive⟩

/-- Without a sign the same bytes go further up, and the sign only goes where
there was no lower bound. -/
theorem Extends.fits_iff (ext : l.Extends l') {n : Nat} {i : Int64}
    (fits : Fits l'.isUnsigned n i) :
    Fits l.isUnsigned n i ↔ (l.min = none → l'.isUnsigned = true → i.toInt < 2 ^ (8 * n - 1)) := by
  cases signed : l.isUnsigned with
  | true =>
      rw [ext.isUnsigned signed] at fits
      refine iff_of_true fits fun none => ?_
      simp [IntLimits.isUnsigned, none] at signed
  | false =>
      cases signed' : l'.isUnsigned with
      | false =>
          rw [signed'] at fits
          refine iff_of_true fits ?_
          rintro - ⟨⟩
      | true =>
          rw [signed'] at fits
          have none : l.min = none := by
            cases hmin : l.min with
            | none => rfl
            | some lo =>
                have : l.isUnsigned = l'.isUnsigned := by
                  rw [IntLimits.isUnsigned, IntLimits.isUnsigned, hmin, ext.min lo hmin]
                rw [signed, signed'] at this
                cases this
          have low : -2 ^ (8 * n - 1) ≤ i.toInt := by
            have := fits.1
            have : (0 : Int) ≤ 2 ^ (8 * n - 1) := Int.pow_nonneg (by decide)
            omega
          constructor
          · exact fun h _ _ => h.2
          · exact fun h => ⟨low, h none rfl⟩

/-- More limits let less through, apart from what a width without sign lets
through beyond the one with a sign. -/
theorem accept_iff_of_extends (ext : l.Extends l') {i : Int64} (agree : l.Agree)
    (h : l'.accept i = .ok ()) :
    l.accept i = .ok () ↔
      ∀ b, l.bytes = some b → l.min = none → l'.isUnsigned = true →
        i.toInt < 2 ^ (8 * b.toNat - 1) := by
  obtain ⟨lower, upper, width⟩ := accept_eq_ok.mp h
  have bounds : (∀ lo, l.min = some lo → lo ≤ i) ∧ ∀ hi, l.max = some hi → i ≤ hi :=
    ⟨fun lo hlo => lower lo (ext.min lo hlo), fun hi hhi => upper hi (ext.max hi hhi)⟩
  rw [accept_eq_ok, ← and_assoc, and_iff_right bounds]
  cases hb : l.bytes with
  | none =>
      refine iff_of_true ?_ (by rintro _ ⟨⟩)
      intro lo hi hw
      simp only [widthBounds, hb] at hw
      cases hw
  | some b =>
      have known := agree.width b hb
      have fits : Fits l'.isUnsigned b.toNat i :=
        (fits_iff_widthRange known).mpr (width _ _ (by
          rw [widthBounds_of_bytes (ext.bytes b hb), if_pos known]))
      simp only [widthBounds_of_bytes hb, if_pos known, Option.some.injEq, forall_eq']
      rw [← ext.fits_iff fits, fits_iff_widthRange known]
      constructor
      · exact fun h => h _ _ rfl
      · intro h lo hi range
        rw [range] at h
        exact h

end IntLimits

/-! ## Tags -/

namespace Metadata

/-- No tag of `top` that bounds integers is there already. -/
def Adds (top m : Metadata) : Prop :=
  ∀ tag ∈ ["min", "max", "bytes"], (top.value? tag).isSome → m.value? tag = none

instance (top m : Metadata) : Decidable (top.Adds m) :=
  inferInstanceAs (Decidable (∀ tag ∈ ["min", "max", "bytes"], _ → _))

theorem Adds.value?_overlay {top m : Metadata} (adds : top.Adds m) {tag : String}
    (bounds : tag ∈ ["min", "max", "bytes"]) {v : Value} (h : m.value? tag = some v) :
    (top.overlay m).value? tag = some v := by
  have absent : top.value? tag = none := by
    cases there : top.value? tag with
    | none => rfl
    | some w =>
        have := adds tag bounds (by rw [there]; rfl)
        rw [h] at this
        cases this
  rw [Metadata.value?_overlay, absent, h]
  rfl

end Metadata

namespace Metadata.Gives

variable {v : Option Metadata.Value}

theorem intBound_eq_some_iff {b : Option Int64} (h : Metadata.Gives Metadata.Value.IntBound none v b)
    {i : Int64} : b = some i ↔ v = some (.integer i) := by
  rcases h with _ | ⟨⟨j⟩⟩ <;> simp

theorem intBound_eq_none_iff {b : Option Int64}
    (h : Metadata.Gives Metadata.Value.IntBound none v b) : b = none ↔ v = none := by
  rcases h with _ | ⟨⟨j⟩⟩ <;> simp

/-- What is said of a width is said of the integer that gives it. -/
theorem forall_width_iff {b : Option UInt8} (h : Metadata.Gives Metadata.Value.Width none v b)
    {P : Nat → Prop} : (∀ n, b = some n → P n.toNat) ↔
      ∀ i, v = some (.integer i) → P i.toInt.toNat := by
  rcases h with _ | ⟨⟨same⟩⟩
  · exact iff_of_true (by rintro _ ⟨⟩) (by rintro _ ⟨⟩)
  · rename_i i n
    have same : i.toInt.toNat = n.toNat := by omega
    simp only [Option.some.injEq, Metadata.Value.integer.injEq, forall_eq', same]

end Metadata.Gives

theorem Kind.GivenBy.exists_intLimits {tags : Metadata.Tags} {k : Kind}
    (given : k.GivenBy tags .int) : ∃ l, k = .int l ∧ l.GivenBy tags := by
  cases given with
  | @int l given => exact ⟨l, rfl, given⟩
  | unconstrained h => exact absurd h (by decide)

/-- Bounds stay where only others are added. -/
theorem IntLimits.extends_of_adds {top m : Metadata} (adds : top.Adds m) {l l' : IntLimits}
    (given : l.GivenBy m.value?) (given' : l'.GivenBy (top.overlay m).value?) : l.Extends l' := by
  have keep : ∀ {α : Type} {means : Metadata.Value → Option α} {tag : String},
      tag ∈ ["min", "max", "bytes"] → ∀ a, (m.value? tag).bind means = some a →
        ((top.overlay m).value? tag).bind means = some a := by
    intro α means tag bounds a h
    obtain ⟨v, hv, ha⟩ := Option.bind_eq_some_iff.mp h
    rw [adds.value?_overlay bounds hv]
    exact ha
  constructor
  · rw [given.min.eq_integer?, given'.min.eq_integer?]
    exact keep (by decide)
  · rw [given.max.eq_integer?, given'.max.eq_integer?]
    exact keep (by decide)
  · rw [given.bytes.eq_byte?, given'.bytes.eq_byte?]
    exact keep (by decide)

namespace ValueType

variable {files : FileTree} {top m : Metadata} {place place' : Location} {t t' : ValueType}
  {v : Value}

theorem validateItem_int {l : IntLimits} (kind : t.kind = .int l) (bare : t.hook = none) :
    t.validateItem files v = .ok () ↔ ∃ i, v = .int i ∧ l.accept i = .ok () := by
  rw [validateItem_eq_ok, kind, bare, Kind.accept_int_eq_ok]
  exact and_iff_left rfl

/-- What a type of integers with further tags accepts, the type without them
accepts as well, except where a lower bound that is not negative has been added
to a width without one.  Then integers beyond the width with a sign, which only
the type with the tag accepts, are the exception. -/
theorem validateItem_overlay (made : ofMetadata .int m place = .ok t)
    (made' : ofMetadata .int (top.overlay m) place' = .ok t') (adds : top.Adds m)
    (h : t'.validateItem files v = .ok ()) :
    t.validateItem files v = .ok () ↔
      ∀ i width lo, v = .int i → m.value? "bytes" = some (.integer width) →
        m.value? "min" = none → top.value? "min" = some (.integer lo) → 0 ≤ lo →
        i.toInt < 2 ^ (8 * width.toInt.toNat - 1) := by
  obtain ⟨given, -, bare⟩ := givenBy_of_ofMetadata made
  obtain ⟨given', -, bare'⟩ := givenBy_of_ofMetadata made'
  obtain ⟨l, kind, given⟩ := given.exists_intLimits
  obtain ⟨l', kind', given'⟩ := given'.exists_intLimits
  obtain ⟨i, rfl, accepted⟩ := (validateItem_int kind' bare').mp h
  have agree : l.Agree := by
    obtain ⟨k, -, agree, rfl⟩ := Descriptor.toType_eq_ok (ofMetadata_eq_ok_iff.mp made).2
    obtain rfl : k = .int l := kind
    exact IntLimits.check_eq_ok.mp agree
  rw [validateItem_int kind bare]
  simp only [Value.int.injEq, exists_eq_left']
  rw [IntLimits.accept_iff_of_extends (IntLimits.extends_of_adds adds given given') agree accepted,
    given.min.intBound_eq_none_iff, IntLimits.isUnsigned_iff,
    given.bytes.forall_width_iff (P := fun n => _ → _ → i.toInt < 2 ^ (8 * n - 1))]
  simp only [given'.min.intBound_eq_some_iff, Metadata.value?_overlay]
  constructor
  · rintro h _ width lo rfl hwidth free hlo positive
    exact h width hwidth free ⟨lo, by rw [hlo]; rfl, positive⟩
  · rintro h width hwidth free ⟨lo, hlo, positive⟩
    rw [free, Option.or_none] at hlo
    exact h i width lo rfl hwidth free hlo positive

/-- Bytes with a sign hold at most 127, and those without one hold 200. -/
theorem validateItem_overlay_unsigned :
    let m : Metadata := ⟨[⟨"bytes", .integer 1, .api⟩], by decide⟩
    let top : Metadata := ⟨[⟨"min", .integer 0, .api⟩], by decide⟩
    ∃ t t', ofMetadata .int m .api = .ok t ∧ ofMetadata .int (top.overlay m) .api = .ok t' ∧
      top.Adds m ∧ t'.validateItem .empty (.int 200) = .ok () ∧
      t.validateItem .empty (.int 200) ≠ .ok () := by
  intro m top
  refine ⟨_, _, rfl, rfl, by decide, rfl, ?_⟩
  intro h
  cases h

/-- Up to 127 nothing is lost. -/
theorem validateItem_overlay_hundred :
    let m : Metadata := ⟨[⟨"bytes", .integer 1, .api⟩], by decide⟩
    let top : Metadata := ⟨[⟨"min", .integer 0, .api⟩], by decide⟩
    ∃ t t', ofMetadata .int m .api = .ok t ∧ ofMetadata .int (top.overlay m) .api = .ok t' ∧
      top.Adds m ∧ t'.validateItem .empty (.int 100) = .ok () ∧
      t.validateItem .empty (.int 100) = .ok () := by
  intro m top
  let t : ValueType := .mk (.int ⟨none, none, some 1⟩) .single none
  let t' : ValueType := .mk (.int ⟨some 0, none, some 1⟩) .single none
  have made : ofMetadata .int m .api = .ok t := rfl
  have made' : ofMetadata .int (top.overlay m) .api = .ok t' := rfl
  have adds : top.Adds m := by decide
  refine ⟨t, t', made, made', adds, rfl, ?_⟩
  refine (validateItem_overlay made made' adds rfl).mpr ?_
  rintro _ _ _ ⟨⟩ ⟨⟩ - - -
  decide

end ValueType

end TypeSchema
