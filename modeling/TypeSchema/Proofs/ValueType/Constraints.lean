/-
# Constraints — what the limits of a kind demand of each other

The check of a kind stops at the first thing that is wrong.  Here it is said
for each kind what is right when nothing is wrong (`checkConstraints_eq_ok`):
bounds are in order, integers within their width, values and names there and
different.  The width is said in bits: the range that goes with it is the
whole numbers that as many bits hold, with a sign or without
(`fits_iff_widthRange`).
-/
import Mathlib.Data.List.Nodup
import TypeSchema.Proofs.Typing.Classes
import TypeSchema.Proofs.ValueType.Acceptance
import TypeSchema.Proofs.ValueType.Construction

namespace TypeSchema

/-! ## Integers -/

/-- The integer is one of those that so many bytes hold, without a sign or with it. -/
def Fits (unsigned : Bool) (bytes : Nat) (v : Int64) : Prop :=
  if unsigned then 0 ≤ v.toInt ∧ v.toInt < 2 ^ (8 * bytes)
  else -2 ^ (8 * bytes - 1) ≤ v.toInt ∧ v.toInt < 2 ^ (8 * bytes - 1)

/-- Bounds in order, of a known width, and within it. -/
structure IntLimits.Agree (l : IntLimits) : Prop where
  ordered : ∀ lo hi, l.min = some lo → l.max = some hi → lo ≤ hi
  width : ∀ b, l.bytes = some b → b.toNat ∈ [1, 2, 4, 8]
  within : ∀ b, l.bytes = some b → ∀ v, l.min = some v ∨ l.max = some v →
    Fits l.isUnsigned b.toNat v

/-- The range of a width is what fits into it.  Eight bytes without sign hold
more than an integer has, so there the greatest integer is the end. -/
theorem fits_iff_widthRange {unsigned : Bool} {n : Nat} (hn : n ∈ [1, 2, 4, 8]) {v : Int64} :
    Fits unsigned n v ↔ (widthRange unsigned n).1 ≤ v ∧ v ≤ (widthRange unsigned n).2 := by
  have hlo := v.le_toInt
  have hhi := v.toInt_lt
  simp only [List.mem_cons, List.not_mem_nil, or_false] at hn
  rcases hn with rfl | rfl | rfl | rfl <;> cases unsigned <;>
    simp [Fits, widthRange, Int64.le_iff_toInt_le, Int64.toInt_maxValue] <;> omega

theorem IntLimits.widthBounds_of_bytes {l : IntLimits} {b : UInt8} (hb : l.bytes = some b) :
    l.widthBounds =
      if b.toNat ∈ [1, 2, 4, 8] then some (widthRange l.isUnsigned b.toNat) else none := by
  have same : b ∈ [1, 2, 4, 8] ↔ b.toNat ∈ [1, 2, 4, 8] := by
    simp [← UInt8.toNat_inj]
  simp only [widthBounds, hb, same]

/-- The width, if there is one, is a known one and holds the bounds. -/
theorem IntLimits.checkBytes_eq_ok (l : IntLimits) :
    (match l.bytes with
      | none => pure ()
      | some b =>
        match l.widthBounds with
        | none => throw (.constraint ["bytes"] (.unknownWidth b.toNat))
        | some range => do
          checkWidth b range "min" l.min
          checkWidth b range "max" l.max : Except SchemaError Unit) = .ok () ↔
      ∀ b, l.bytes = some b → b.toNat ∈ [1, 2, 4, 8] ∧
        ∀ v, l.min = some v ∨ l.max = some v → Fits l.isUnsigned b.toNat v := by
  cases hb : l.bytes with
  | none => exact iff_of_true rfl (by rintro _ ⟨⟩)
  | some b =>
      simp only [widthBounds_of_bytes hb, Option.some.injEq, forall_eq']
      by_cases known : b.toNat ∈ [1, 2, 4, 8]
      · simp only [if_pos known, fits_iff_widthRange known, Steps.except_bind_eq_ok]
        constructor
        · rintro ⟨_, hmin, hmax⟩
          refine ⟨known, fun v hv => ?_⟩
          rcases hv with hv | hv
          · exact checkWidth_eq_ok.mp hmin v hv
          · exact checkWidth_eq_ok.mp hmax v hv
        · rintro ⟨-, each⟩
          exact ⟨(), checkWidth_eq_ok.mpr fun m hm => each m (.inl hm),
            checkWidth_eq_ok.mpr fun m hm => each m (.inr hm)⟩
      · rw [if_neg known]
        refine iff_of_false ?_ fun h => known h.1
        intro h
        cases h

theorem IntLimits.agree_iff {l : IntLimits} :
    l.Agree ↔ (∀ lo hi, l.min = some lo → l.max = some hi → lo ≤ hi) ∧
      ∀ b, l.bytes = some b → b.toNat ∈ [1, 2, 4, 8] ∧
        ∀ v, l.min = some v ∨ l.max = some v → Fits l.isUnsigned b.toNat v := by
  constructor
  · rintro ⟨ordered, width, within⟩
    exact ⟨ordered, fun b hb => ⟨width b hb, within b hb⟩⟩
  · rintro ⟨ordered, each⟩
    exact ⟨ordered, fun b hb => (each b hb).1, fun b hb => (each b hb).2⟩

theorem IntLimits.check_eq_ok {l : IntLimits} : l.check = .ok () ↔ l.Agree := by
  have bytes := l.checkBytes_eq_ok
  rw [agree_iff]
  unfold check
  cases hmin : l.min with
  | none =>
      rw [hmin] at bytes
      refine bytes.trans (and_iff_right ?_).symm
      rintro _ _ ⟨⟩
  | some lo =>
      cases hmax : l.max with
      | none =>
          rw [hmin, hmax] at bytes
          refine bytes.trans (and_iff_right ?_).symm
          rintro _ _ - ⟨⟩
      | some hi =>
          rw [hmin, hmax] at bytes
          by_cases crossed : hi < lo
          · simp only [if_pos crossed]
            refine iff_of_false ?_ fun h => Int64.not_lt.mpr (h.1 lo hi rfl rfl) crossed
            intro h
            cases h
          · simp only [if_neg crossed]
            refine bytes.trans (and_iff_right ?_).symm
            rintro _ _ ⟨⟩ ⟨⟩
            exact Int64.not_lt.mp crossed

/-! ## Numbers, strings and values -/

/-- Bounds that are numbers, in order. -/
structure NumberLimits.Agree (l : NumberLimits) : Prop where
  number : ∀ v, l.min = some v ∨ l.max = some v → v.isNaN = false
  ordered : ∀ lo hi, l.min = some lo → l.max = some hi → lo.le hi = true

theorem checkNumber_eq_ok {tag : String} {limit : Option Double} :
    checkNumber tag limit = .ok () ↔ ∀ v, limit = some v → v.isNaN = false := by
  unfold checkNumber
  cases limit with
  | none => exact iff_of_true rfl (by rintro _ ⟨⟩)
  | some v => cases hv : v.isNaN <;> simp [hv]

/-- Of two numbers the one is at most the other exactly if the other is not less. -/
theorem Double.le_iff_not_lt {d e : Double} (hd : d.isNaN = false) (he : e.isNaN = false) :
    d.le e = true ↔ e.lt d = false := by
  simp [Double.le, Double.lt, hd, he]

theorem NumberLimits.check_eq_ok {l : NumberLimits} : l.check = .ok () ↔ l.Agree := by
  constructor
  · intro h
    obtain ⟨hmin, hmax⟩ := isNaN_of_check h
    refine ⟨fun v hv => hv.elim (hmin v) (hmax v), fun lo hi hlo hhi => ?_⟩
    rw [Double.le_iff_not_lt (hmin lo hlo) (hmax hi hhi)]
    obtain ⟨_, -, h⟩ := Steps.except_bind_eq_ok.mp h
    obtain ⟨_, -, h⟩ := Steps.except_bind_eq_ok.mp h
    simp only [hlo, hhi] at h
    cases crossed : hi.lt lo with
    | false => rfl
    | true =>
        rw [if_pos crossed] at h
        cases h
  · rintro ⟨number, ordered⟩
    have hmin : checkNumber "min" l.min = .ok () :=
      checkNumber_eq_ok.mpr fun v hv => number v (.inl hv)
    have hmax : checkNumber "max" l.max = .ok () :=
      checkNumber_eq_ok.mpr fun v hv => number v (.inr hv)
    refine Steps.except_bind_eq_ok.mpr ⟨(), hmin, Steps.except_bind_eq_ok.mpr ⟨(), hmax, ?_⟩⟩
    split
    · rename_i lo hi hlo hhi
      have straight : hi.lt lo = false :=
        (Double.le_iff_not_lt (number lo (.inl hlo)) (number hi (.inr hhi))).mp
          (ordered lo hi hlo hhi)
      rw [straight]
      rfl
    · rfl

/-- Lengths in order that leave room for a character. -/
structure StringLimits.Agree (l : StringLimits) : Prop where
  ordered : ∀ max, l.maxLength = some max → l.minLength ≤ max
  positive : ∀ max, l.maxLength = some max → 1 ≤ max

theorem StringLimits.check_eq_ok {l : StringLimits} : l.check = .ok () ↔ l.Agree := by
  unfold check
  cases hmax : l.maxLength with
  | none => exact iff_of_true rfl ⟨by simp [hmax], by simp [hmax]⟩
  | some max =>
      have agree : l.Agree ↔ l.minLength ≤ max ∧ 1 ≤ max := by
        constructor
        · rintro ⟨ordered, positive⟩
          exact ⟨ordered max hmax, positive max hmax⟩
        · rintro ⟨hle, hone⟩
          refine ⟨?_, ?_⟩ <;> simpa [hmax]
      have zero : max = 0 ↔ ¬ 1 ≤ max := by
        rw [← UInt64.toNat_inj, UInt64.le_iff_toNat_le]
        simp only [UInt64.reduceToNat]
        omega
      rw [agree]
      by_cases crossed : max < l.minLength
      · refine iff_of_false (fun h => ?_) fun h => UInt64.not_le.mpr crossed h.1
        cases (if_pos crossed).symm.trans h
      · by_cases hzero : max = 0
        · refine iff_of_false (fun h => ?_) fun h => zero.mp hzero h.2
          cases ((if_neg crossed).trans (if_pos hzero)).symm.trans h
        · refine iff_of_true ((if_neg crossed).trans (if_neg hzero)) ⟨UInt64.not_lt.mp crossed, ?_⟩
          by_contra hno
          exact hzero (zero.mpr hno)

/-- Values that are there, each once, and as many names to show if there are any. -/
structure EnumLimits.Agree (l : EnumLimits) : Prop where
  there : l.values ≠ []
  distinct : l.values.Nodup
  friendly : ∀ names, l.friendly = some names → names.length = l.values.length

theorem firstRepeated_eq_none {seen values : List String} :
    firstRepeated seen values = none ↔ values.Nodup ∧ ∀ v ∈ values, v ∉ seen := by
  induction values generalizing seen with
  | nil => simp [firstRepeated]
  | cons v rest ih =>
      rw [firstRepeated]
      split
      · rename_i h
        simp [h]
      · rename_i h
        rw [ih, List.nodup_cons]
        simp only [List.mem_cons, not_or]
        constructor
        · rintro ⟨distinct, fresh⟩
          refine ⟨⟨fun hv => (fresh v hv).1 rfl, distinct⟩, ?_⟩
          rintro w (rfl | hw)
          · exact h
          · exact (fresh w hw).2
        · rintro ⟨⟨hv, distinct⟩, fresh⟩
          refine ⟨distinct, fun w hw => ⟨?_, fresh w (.inr hw)⟩⟩
          rintro rfl
          exact hv hw

theorem EnumLimits.check_eq_ok {l : EnumLimits} : l.check = .ok () ↔ l.Agree := by
  unfold check
  by_cases hnil : l.values = []
  · rw [if_pos hnil]
    refine iff_of_false ?_ fun h => h.there hnil
    intro h
    cases h
  rw [if_neg hnil]
  cases hrepeated : firstRepeated [] l.values with
  | some v =>
      refine iff_of_false (fun h => ?_) fun h => ?_
      · cases h
      · have := firstRepeated_eq_none.mpr ⟨h.distinct, fun v _ => List.not_mem_nil (a := v)⟩
        rw [this] at hrepeated
        cases hrepeated
  | none =>
      have distinct := (firstRepeated_eq_none.mp hrepeated).1
      cases hfriendly : l.friendly with
      | none => exact iff_of_true rfl ⟨hnil, distinct, by simp [hfriendly]⟩
      | some names =>
          by_cases count : names.length = l.values.length
          · refine iff_of_true (if_pos count) ⟨hnil, distinct, ?_⟩
            intro names' h
            cases hfriendly.symm.trans h
            exact count
          · refine iff_of_false ?_ fun h => count (h.friendly names hfriendly)
            intro h
            cases (if_neg count).symm.trans h

/-! ## Kinds -/

/-- What the constraints of a kind have to satisfy together. -/
def Kind.Agrees : Kind → Prop
  | .int l => l.Agree
  | .number l => l.Agree
  | .string l => l.Agree
  | .enumeration l => l.Agree
  | .object members _ => Member.WellNamed members
  | .dict members _ => Member.WellNamed members
  | .anyOf alternatives => alternatives ≠ []
  | _ => True

theorem Member.checkNames_nil_eq_ok {members : List Member} :
    checkNames [] members = .ok () ↔ WellNamed members := by
  rw [checkNames_eq_ok]
  constructor
  · rintro ⟨distinct, named, -⟩
    exact ⟨distinct, named⟩
  · rintro ⟨distinct, named⟩
    exact ⟨distinct, named, fun _ _ => List.not_mem_nil⟩

/-- The check of a kind says whether its constraints agree. -/
theorem Kind.checkConstraints_eq_ok {k : Kind} : k.checkConstraints = .ok () ↔ k.Agrees := by
  cases k with
  | int l => exact l.check_eq_ok
  | number l => exact l.check_eq_ok
  | string l => exact l.check_eq_ok
  | enumeration l => exact l.check_eq_ok
  | object members exact => exact Member.checkNames_nil_eq_ok
  | dict members exact => exact Member.checkNames_nil_eq_ok
  | anyOf alternatives => cases alternatives <;> simp [checkConstraints, Agrees]
  | _ => exact iff_of_true rfl trivial

end TypeSchema
