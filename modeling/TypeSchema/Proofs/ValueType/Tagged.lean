/-
# Tagged — which constraints tags give

Tags are gone through one after the other, and each sets a field of the kind
that the type is made from.  What comes of it depends on no order: a field is
what the value of its tag means, or what it was at first where no tag sets it
(`Kind.GivenBy`).  One tag more changes the field that it sets and leaves the
others alone (`Kind.GivenBy.taggedBy`), and the run over all tags follows.
-/
import Mathlib.Logic.Function.Basic
import TypeSchema.Proofs.Metadata
import TypeSchema.Proofs.ValueType.Construction
import TypeSchema.ValueType.Tagged

namespace TypeSchema

open Metadata (Item)

namespace Metadata

/-- The value of each tag that there is. -/
abbrev Tags : Type := String → Option Value

/-- The values after an item more. -/
def Tags.carry (tags : Tags) (item : Item) : Tags :=
  Function.update tags item.tag (some item.value)

/-! ## What values mean for fields -/

/-- An integer is a bound of integers. -/
inductive Value.IntBound : Value → Option Int64 → Prop
  | integer (i : Int64) : IntBound (.integer i) (some i)

/-- An integer is a width if it fits in a byte. -/
inductive Value.Width : Value → Option UInt8 → Prop
  | integer {i : Int64} {n : UInt8} : (n.toNat : Int) = i.toInt → Width (.integer i) (some n)

/-- A number is a bound of numbers, and so is an integer. -/
inductive Value.NumberBound : Value → Option Double → Prop
  | integer (i : Int64) : NumberBound (.integer i) (some (.ofInt i.toInt))
  | number (d : Double) : NumberBound (.number d) (some d)

/-- An integer is a length if it is not negative. -/
inductive Value.Length : Value → UInt64 → Prop
  | integer {i : Int64} {n : UInt64} : (n.toNat : Int) = i.toInt → Length (.integer i) n

/-- A greatest length may be left out. -/
inductive Value.GreatestLength : Value → Option UInt64 → Prop
  | length {v : Value} {n : UInt64} : v.Length n → GreatestLength v (some n)

/-- A string is an expression if it is the source of a pattern. -/
inductive Value.Expression : Value → Option Pattern → Prop
  | string {s : String} {p : Pattern} :
      Pattern.ofSource s = some p → Expression (.string s) (some p)

inductive Value.Texts : Value → List String → Prop
  | list (items : List String) : Texts (.list items) items

inductive Value.FriendlyTexts : Value → Option (List String) → Prop
  | list (items : List String) : FriendlyTexts (.list items) (some items)

inductive Value.Switch : Value → Bool → Prop
  | bool (b : Bool) : Switch (.bool b) b

/-- A field is what the value of its tag means, and the default where there is
no such tag. -/
inductive Gives {α : Type} (means : Value → α → Prop) (default : α) : Option Value → α → Prop
  | absent : Gives means default none default
  | present {v : Value} {a : α} : means v a → Gives means default (some v) a

namespace Gives

variable {α : Type} {means : Value → α → Prop} {default a : α} {tags : Tags}
  {tag name : String} {v : Value}

/-- The tag of the field is set. -/
theorem set (h : means v a) :
    Gives means default (Function.update tags tag (some v) tag) a := by
  rw [Function.update_self]
  exact .present h

/-- Another tag is set. -/
theorem keep (h : Gives means default (tags name) a) (other : tag ≠ name) :
    Gives means default (Function.update tags tag (some v) name) a := by
  rw [Function.update_of_ne (Ne.symm other)]
  exact h

end Gives

end Metadata

open Metadata (Tags Gives)

/-! ## Kinds and the tags that give them -/

/-- The bounds are those that the tags give. -/
structure IntLimits.GivenBy (tags : Tags) (l : IntLimits) : Prop where
  min : Gives Metadata.Value.IntBound none (tags "min") l.min
  max : Gives Metadata.Value.IntBound none (tags "max") l.max
  bytes : Gives Metadata.Value.Width none (tags "bytes") l.bytes

structure NumberLimits.GivenBy (tags : Tags) (l : NumberLimits) : Prop where
  min : Gives Metadata.Value.NumberBound none (tags "min") l.min
  max : Gives Metadata.Value.NumberBound none (tags "max") l.max

/-- The limits are those that the tags give; without tags a string must not be
empty. -/
structure StringLimits.GivenBy (tags : Tags) (l : StringLimits) : Prop where
  minLength : Gives Metadata.Value.Length 1 (tags "min_length") l.minLength
  maxLength : Gives Metadata.Value.GreatestLength none (tags "max_length") l.maxLength
  expression : Gives Metadata.Value.Expression none (tags "validation_expression") l.expression

structure EnumLimits.GivenBy (tags : Tags) (l : EnumLimits) : Prop where
  values : Gives Metadata.Value.Texts [] (tags "values") l.values
  friendly : Gives Metadata.Value.FriendlyTexts none (tags "friendly_values") l.friendly

structure FilenameLimits.GivenBy (tags : Tags) (l : FilenameLimits) : Prop where
  ensureExists : Gives Metadata.Value.Switch false (tags "ensure_exists") l.ensureExists
  matchAny : Gives Metadata.Value.Switch false (tags "match_any") l.matchAny

/-- The fundamental kinds without constraints. -/
def Fundamental.unconstrained : List Fundamental :=
  [.bool, .date, .time, .dateTime, .duration, .guid, .uri]

/-- The kind is the fundamental one under the constraints that the tags give. -/
inductive Kind.GivenBy (tags : Tags) : Fundamental → Kind → Prop
  | int {l : IntLimits} : l.GivenBy tags → GivenBy tags .int (.int l)
  | number {l : NumberLimits} : l.GivenBy tags → GivenBy tags .number (.number l)
  | string {l : StringLimits} : l.GivenBy tags → GivenBy tags .string (.string l)
  | enumeration {l : EnumLimits} : l.GivenBy tags → GivenBy tags .enumeration (.enumeration l)
  | filename {l : FilenameLimits} : l.GivenBy tags → GivenBy tags .filename (.filename l)
  | directory {e : Bool} : Gives Metadata.Value.Switch false (tags "ensure_exists") e →
      GivenBy tags .directory (.directory e)
  | unconstrained {base : Fundamental} : base ∈ Fundamental.unconstrained →
      GivenBy tags base (.ofFundamental base)

/-- Without tags all fields have their defaults. -/
theorem Kind.givenBy_ofFundamental (base : Fundamental) :
    (Kind.ofFundamental base).GivenBy (fun _ => none) base := by
  cases base with
  | int => exact .int ⟨.absent, .absent, .absent⟩
  | number => exact .number ⟨.absent, .absent⟩
  | string => exact .string ⟨.absent, .absent, .absent⟩
  | enumeration => exact .enumeration ⟨.absent, .absent⟩
  | filename => exact .filename ⟨.absent, .absent⟩
  | directory => exact .directory .absent
  | _ => exact .unconstrained (by decide)

/-! ## One tag -/

namespace Metadata

variable {tag : String} {v : Value}

/-- The value is of the type that the catalog demands for the tag. -/
def Fits (tag : String) (v : Value) : Prop := ∃ spec, spec? tag = some spec ∧ spec.host.accepts v

theorem Item.fits_of_check {item : Item} {spec : Spec} (h : item.check = .ok spec) :
    spec? item.tag = some spec ∧ Fits item.tag item.value := by
  unfold Item.check at h
  cases hs : spec? item.tag with
  | none => rw [hs] at h; cases h
  | some found =>
      simp only [hs] at h
      split at h
      · cases h
        exact ⟨rfl, _, hs, ‹_›⟩
      · cases h

/-! What a tag takes, by the type that the catalog demands for it. -/

theorem Fits.accepts {spec : Spec} (fits : Fits tag v) (h : spec? tag = some spec) :
    spec.host.accepts v := by
  obtain ⟨spec', h', accepts⟩ := fits
  rw [h] at h'
  cases h'
  exact accepts

theorem Host.accepts_integer (h : Host.integer.accepts v) : ∃ i, v = .integer i := by
  cases v <;> first | exact ⟨_, rfl⟩ | cases h

theorem Host.accepts_number (h : Host.number.accepts v) :
    (∃ i, v = .integer i) ∨ ∃ d, v = .number d := by
  cases v <;> first | exact .inl ⟨_, rfl⟩ | exact .inr ⟨_, rfl⟩ | cases h

theorem Host.accepts_string (h : Host.string.accepts v) : ∃ s, v = .string s := by
  cases v <;> first | exact ⟨_, rfl⟩ | cases h

theorem Host.accepts_list (h : Host.list.accepts v) : ∃ items, v = .list items := by
  cases v <;> first | exact ⟨_, rfl⟩ | cases h

theorem Host.accepts_bool (h : Host.bool.accepts v) : ∃ b, v = .bool b := by
  cases v <;> first | exact ⟨_, rfl⟩ | cases h

theorem toNat_toUInt8 {i : Int64} (h : 0 ≤ i ∧ i ≤ 255) :
    (i.toInt.toNat.toUInt8.toNat : Int) = i.toInt := by
  have lo : 0 ≤ i.toInt := Int64.le_iff_toInt_le.mp h.1
  have hi : i.toInt ≤ 255 := Int64.le_iff_toInt_le.mp h.2
  rw [UInt8.toNat_ofNat']
  omega

theorem toNat_toUInt64 {i : Int64} (h : 0 ≤ i) : (i.toUInt64.toNat : Int) = i.toInt := by
  have lo : 0 ≤ i.toBitVec.toInt := Int64.le_iff_toInt_le.mp h
  change (i.toBitVec.toNat : Int) = i.toBitVec.toInt
  rw [BitVec.toInt_eq_toNat_cond] at lo ⊢
  have := i.toBitVec.isLt
  split at lo <;> omega

theorem lengthOf_eq_ok {i : Int64} {n : UInt64} (h : lengthOf tag i = .ok n) :
    (n.toNat : Int) = i.toInt := by
  unfold lengthOf at h
  split at h
  · cases h
  · cases h
    exact toNat_toUInt64 (Int64.not_lt.mp ‹_›)

end Metadata

open Metadata (Fits Host)

section Tagged

variable {tags : Tags} {tag : String} {v : Metadata.Value}

/-- A tag sets the field that it names, and others are of no account to the
field. -/
theorem IntLimits.GivenBy.tagged {l l' : IntLimits} (given : l.GivenBy tags) (fits : Fits tag v)
    (h : l.tagged tag v = .ok l') : l'.GivenBy (Function.update tags tag (some v)) := by
  unfold IntLimits.tagged at h
  split at h
  · cases h
    exact ⟨.set (.integer _), given.max.keep (by decide), given.bytes.keep (by decide)⟩
  · cases h
    exact ⟨given.min.keep (by decide), .set (.integer _), given.bytes.keep (by decide)⟩
  · split at h
    · cases h
      exact ⟨given.min.keep (by decide), given.max.keep (by decide),
        .set (.integer (Metadata.toNat_toUInt8 ‹_›))⟩
    · cases h
  · cases h
  · rename_i notNumber notMin notMax notBytes
    cases h
    refine ⟨given.min.keep ?_, given.max.keep ?_, given.bytes.keep ?_⟩
    · rintro rfl
      obtain ⟨i, rfl⟩ | ⟨d, rfl⟩ := Host.accepts_number (fits.accepts rfl)
      · exact notMin i rfl rfl
      · exact notNumber d rfl
    · rintro rfl
      obtain ⟨i, rfl⟩ | ⟨d, rfl⟩ := Host.accepts_number (fits.accepts rfl)
      · exact notMax i rfl rfl
      · exact notNumber d rfl
    · rintro rfl
      obtain ⟨i, rfl⟩ := Host.accepts_integer (fits.accepts rfl)
      exact notBytes i rfl rfl

theorem NumberLimits.GivenBy.tagged {l : NumberLimits} (given : l.GivenBy tags)
    (fits : Fits tag v) : (l.tagged tag v).GivenBy (Function.update tags tag (some v)) := by
  unfold NumberLimits.tagged
  split
  · exact ⟨.set (.integer _), given.max.keep (by decide)⟩
  · exact ⟨.set (.number _), given.max.keep (by decide)⟩
  · exact ⟨given.min.keep (by decide), .set (.integer _)⟩
  · exact ⟨given.min.keep (by decide), .set (.number _)⟩
  · rename_i notMin notMin' notMax notMax'
    refine ⟨given.min.keep ?_, given.max.keep ?_⟩
    · rintro rfl
      obtain ⟨i, rfl⟩ | ⟨d, rfl⟩ := Host.accepts_number (fits.accepts rfl)
      · exact notMin i rfl rfl
      · exact notMin' d rfl rfl
    · rintro rfl
      obtain ⟨i, rfl⟩ | ⟨d, rfl⟩ := Host.accepts_number (fits.accepts rfl)
      · exact notMax i rfl rfl
      · exact notMax' d rfl rfl

theorem StringLimits.GivenBy.tagged {l l' : StringLimits} (given : l.GivenBy tags)
    (fits : Fits tag v) (h : l.tagged tag v = .ok l') :
    l'.GivenBy (Function.update tags tag (some v)) := by
  unfold StringLimits.tagged at h
  split at h
  · obtain ⟨n, hn, h⟩ := Steps.except_bind_eq_ok.mp h
    cases h
    exact ⟨.set (.integer (Metadata.lengthOf_eq_ok hn)), given.maxLength.keep (by decide),
      given.expression.keep (by decide)⟩
  · obtain ⟨n, hn, h⟩ := Steps.except_bind_eq_ok.mp h
    cases h
    exact ⟨given.minLength.keep (by decide),
      .set (.length (.integer (Metadata.lengthOf_eq_ok hn))), given.expression.keep (by decide)⟩
  · split at h
    · cases h
      exact ⟨given.minLength.keep (by decide), given.maxLength.keep (by decide),
        .set (.string ‹_›)⟩
    · cases h
  · rename_i notMin notMax notExpression
    cases h
    refine ⟨given.minLength.keep ?_, given.maxLength.keep ?_, given.expression.keep ?_⟩
    · rintro rfl
      obtain ⟨i, rfl⟩ := Host.accepts_integer (fits.accepts rfl)
      exact notMin i rfl rfl
    · rintro rfl
      obtain ⟨i, rfl⟩ := Host.accepts_integer (fits.accepts rfl)
      exact notMax i rfl rfl
    · rintro rfl
      obtain ⟨s, rfl⟩ := Host.accepts_string (fits.accepts rfl)
      exact notExpression s rfl rfl

theorem EnumLimits.GivenBy.tagged {l : EnumLimits} (given : l.GivenBy tags) (fits : Fits tag v) :
    (l.tagged tag v).GivenBy (Function.update tags tag (some v)) := by
  unfold EnumLimits.tagged
  split
  · exact ⟨.set (.list _), given.friendly.keep (by decide)⟩
  · exact ⟨given.values.keep (by decide), .set (.list _)⟩
  · rename_i notValues notFriendly
    refine ⟨given.values.keep ?_, given.friendly.keep ?_⟩
    · rintro rfl
      obtain ⟨items, rfl⟩ := Host.accepts_list (fits.accepts rfl)
      exact notValues items rfl rfl
    · rintro rfl
      obtain ⟨items, rfl⟩ := Host.accepts_list (fits.accepts rfl)
      exact notFriendly items rfl rfl

theorem FilenameLimits.GivenBy.tagged {l : FilenameLimits} (given : l.GivenBy tags)
    (fits : Fits tag v) : (l.tagged tag v).GivenBy (Function.update tags tag (some v)) := by
  unfold FilenameLimits.tagged
  split
  · exact ⟨.set (.bool _), given.matchAny.keep (by decide)⟩
  · exact ⟨given.ensureExists.keep (by decide), .set (.bool _)⟩
  · rename_i notEnsure notAny
    refine ⟨given.ensureExists.keep ?_, given.matchAny.keep ?_⟩
    · rintro rfl
      obtain ⟨b, rfl⟩ := Host.accepts_bool (fits.accepts rfl)
      exact notEnsure b rfl rfl
    · rintro rfl
      obtain ⟨b, rfl⟩ := Host.accepts_bool (fits.accepts rfl)
      exact notAny b rfl rfl

namespace Kind

variable {base : Fundamental} {k k' : Kind}

theorem GivenBy.tagged (given : k.GivenBy tags base) (fits : Fits tag v)
    (h : k.tagged tag v = .ok k') : k'.GivenBy (Function.update tags tag (some v)) base := by
  cases given with
  | int given =>
      obtain ⟨l', hl, h⟩ := Steps.except_bind_eq_ok.mp h
      cases h
      exact .int (given.tagged fits hl)
  | number given =>
      cases h
      exact .number (given.tagged fits)
  | string given =>
      obtain ⟨l', hl, h⟩ := Steps.except_bind_eq_ok.mp h
      cases h
      exact .string (given.tagged fits hl)
  | enumeration given =>
      cases h
      exact .enumeration (given.tagged fits)
  | filename given =>
      cases h
      exact .filename (given.tagged fits)
  | directory given =>
      simp only [Kind.tagged] at h
      split at h
      · cases h
        exact .directory (.set (.bool _))
      · rename_i notEnsure
        cases h
        refine .directory (given.keep ?_)
        rintro rfl
        obtain ⟨b, rfl⟩ := Host.accepts_bool (fits.accepts rfl)
        exact notEnsure b rfl rfl
  | unconstrained hbase =>
      have same : k' = .ofFundamental base := by
        cases base <;> first | exact absurd hbase (by decide) | (cases h; rfl)
      rw [same]
      exact .unconstrained hbase

/-- An item that constrains a kind is known, of the right type and meant for
the kind. -/
theorem taggedBy_eq_ok {item : Item} (h : k.taggedBy base item = .ok k') :
    Fits item.tag item.value ∧ (∃ spec, Metadata.spec? item.tag = some spec ∧ spec.appliesTo base) ∧
      k.tagged item.tag item.value = .ok k' := by
  obtain ⟨spec, check, h⟩ := Steps.except_bind_eq_ok.mp h
  obtain ⟨known, fits⟩ := Metadata.Item.fits_of_check check
  split at h
  · refine ⟨fits, ⟨spec, known, ‹_›⟩, ?_⟩
    exact Steps.mapError_eq_ok.mp h
  · cases h

/-- One tag more. -/
theorem GivenBy.taggedBy {item : Item} (given : k.GivenBy tags base)
    (h : k.taggedBy base item = .ok k') : k'.GivenBy (tags.carry item) base := by
  obtain ⟨fits, _, tagged⟩ := taggedBy_eq_ok h
  exact given.tagged fits tagged

/-- All tags, those that come later on top of those before them. -/
theorem GivenBy.run {items : List Item} (given : k.GivenBy tags base)
    (h : items.foldlM (Kind.taggedBy base) k = .ok k') :
    k'.GivenBy (items.foldl Tags.carry tags) base := by
  induction items generalizing tags k with
  | nil =>
      cases h
      exact given
  | cons item items ih =>
      rw [List.foldlM_cons] at h
      obtain ⟨k₁, first, rest⟩ := Steps.except_bind_eq_ok.mp h
      exact ih (given.taggedBy first) rest

end Kind

end Tagged

/-! ## All tags -/

namespace Metadata

/-- Where each tag is carried once, the last value of a tag is the one that is
found for it. -/
theorem foldl_carry {items : List Item} (nodup : (items.map (·.tag)).Nodup) (tags : Tags)
    (tag : String) : items.foldl Tags.carry tags tag
      = ((items.find? (·.tag = tag)).map (·.value)).or (tags tag) := by
  induction items generalizing tags with
  | nil => rfl
  | cons item items ih =>
      obtain ⟨fresh, nodup⟩ := List.nodup_cons.mp nodup
      rw [List.foldl_cons, ih nodup, Tags.carry]
      by_cases h : item.tag = tag
      · have absent : items.find? (·.tag = tag) = none := by
          rw [List.find?_eq_none]
          intro other hother
          simpa using fun same => fresh (List.mem_map.mpr ⟨other, hother, same.trans h.symm⟩)
        rw [absent, List.find?_cons_of_pos (by simpa using h), ← h, Function.update_self]
        rfl
      · rw [List.find?_cons_of_neg (by simpa using h), Function.update_of_ne (Ne.symm h)]

theorem foldl_carry_items (m : Metadata) : m.items.foldl Tags.carry (fun _ => none) = m.value? :=
  funext fun tag => (foldl_carry m.nodup _ tag).trans Option.or_none

end Metadata

/-- The type of tags is the kind that they give, for a single value. -/
theorem ValueType.givenBy_of_ofMetadata {base : Fundamental} {m : Metadata} {place : Location}
    {t : ValueType} (h : ofMetadata base m place = .ok t) :
    t.kind.GivenBy m.value? base ∧ t.arity = .single ∧ t.hook = none := by
  obtain ⟨k, tagged, h⟩ := Steps.except_bind_eq_ok.mp h
  have given := (Kind.givenBy_ofFundamental base).run tagged
  rw [Metadata.foldl_carry_items] at given
  obtain ⟨-, rfl⟩ := ofKind_eq_ok.mp (Steps.mapError_eq_ok.mp h)
  exact ⟨given, rfl, rfl⟩

end TypeSchema
