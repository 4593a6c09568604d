/-
# Tagged — descriptors with the values of tags

A fundamental type is written in two ways: by tags, one after the other, or by
a descriptor, all fields at once.  `Shape.ofTags` is the descriptor that has
the value of each tag for the field of its name, and leaves out what no tag
gives.

Tags make a type exactly if the kind takes each of them and this descriptor
makes the type (`ofMetadata_eq_ok_iff`).  The one looks at each tag by itself
and the other at the value of each tag, so the order of the tags does not
matter and neither do their places (`ofMetadata_agrees`).
-/
import Mathlib.Data.List.Nodup
import TypeSchema.Proofs.Descriptor.Parts
import TypeSchema.Proofs.ValueType.Tagged

namespace TypeSchema

open Metadata (Item Tags Gives)

/-! ## Fields -/

namespace Metadata.Value

/-- The integer that the value is. -/
def integer? : Value → Option Int64
  | .integer i => some i
  | _ => none

/-- The byte that the value is. -/
def byte? : Value → Option UInt8
  | .integer i => if 0 ≤ i ∧ i ≤ 255 then some i.toInt.toNat.toUInt8 else none
  | _ => none

/-- The number that the value is; integers widen. -/
def number? : Value → Option Double
  | .integer i => some (.ofInt i.toInt)
  | .number d => some d
  | _ => none

/-- The length that the value is. -/
def length? : Value → Option UInt64
  | .integer i => if 0 ≤ i then some i.toUInt64 else none
  | _ => none

/-- The string that the value is. -/
def string? : Value → Option String
  | .string s => some s
  | _ => none

/-- The switch that the value is. -/
def bool? : Value → Option Bool
  | .bool b => some b
  | _ => none

/-- The list that the value is. -/
def list? : Value → Option (List String)
  | .list items => some items
  | _ => none

end Metadata.Value

/-- The written form of a fundamental kind whose fields have the values of tags.
Fields without a tag are left out, where they may be. -/
def Descriptor.Shape.ofTags (tags : Tags) : Fundamental → Shape
  | .bool => .bool
  | .int => .int ⟨(tags "min").bind (·.integer?), (tags "max").bind (·.integer?),
      (tags "bytes").bind (·.byte?)⟩
  | .number => .number ⟨(tags "min").bind (·.number?), (tags "max").bind (·.number?)⟩
  | .string => .string ((tags "validation_expression").bind (·.string?))
      ((tags "min_length").bind (·.length?)) ((tags "max_length").bind (·.length?))
  | .enumeration => .enumeration ⟨((tags "values").bind (·.list?)).getD [],
      (tags "friendly_values").bind (·.list?)⟩
  | .date => .date
  | .time => .time
  | .dateTime => .dateTime
  | .duration => .duration
  | .guid => .guid
  | .uri => .uri
  | .filename => .filename ⟨((tags "ensure_exists").bind (·.bool?)).getD false,
      ((tags "match_any").bind (·.bool?)).getD false⟩
  | .directory => .directory (((tags "ensure_exists").bind (·.bool?)).getD false)

namespace Metadata

/-! What values mean for fields, as functions. -/

theorem Value.byte?_of_width {i : Int64} {n : UInt8} (h : (n.toNat : Int) = i.toInt) :
    byte? (.integer i) = some n := by
  have hn := n.toNat_lt
  have lo : 0 ≤ i := Int64.le_iff_toInt_le.mpr (by rw [← h]; exact Int.natCast_nonneg _)
  have hi : i ≤ 255 := Int64.le_iff_toInt_le.mpr (by
    show i.toInt ≤ 255
    omega)
  rw [byte?, if_pos ⟨lo, hi⟩, ← h, Int.toNat_natCast]
  exact congrArg some (UInt8.ofNat_toNat)

theorem Value.length?_of_length {i : Int64} {n : UInt64} (h : (n.toNat : Int) = i.toInt) :
    length? (.integer i) = some n := by
  have lo : 0 ≤ i := Int64.le_iff_toInt_le.mpr (by rw [← h]; exact Int.natCast_nonneg _)
  rw [length?, if_pos lo]
  refine congrArg some (UInt64.toNat_inj.mp ?_)
  have := toNat_toUInt64 lo
  omega

variable {v : Option Value}

theorem Gives.eq_integer? {b : Option Int64} (h : Gives Value.IntBound none v b) :
    b = v.bind (·.integer?) := by
  rcases h with _ | ⟨⟨i⟩⟩ <;> rfl

theorem Gives.eq_byte? {b : Option UInt8} (h : Gives Value.Width none v b) :
    b = v.bind (·.byte?) := by
  rcases h with _ | ⟨⟨width⟩⟩
  · rfl
  · exact (Value.byte?_of_width width).symm

theorem Gives.eq_number? {b : Option Double} (h : Gives Value.NumberBound none v b) :
    b = v.bind (·.number?) := by
  rcases h with _ | ⟨⟨i⟩ | ⟨d⟩⟩ <;> rfl

theorem Gives.eq_least {n : UInt64} (h : Gives Value.Length 1 v n) :
    n = (v.bind (·.length?)).getD 1 := by
  rcases h with _ | ⟨⟨length⟩⟩
  · rfl
  · simp [Value.length?_of_length length]

theorem Gives.eq_greatest {n : Option UInt64} (h : Gives Value.GreatestLength none v n) :
    n = v.bind (·.length?) := by
  rcases h with _ | ⟨⟨⟨length⟩⟩⟩
  · rfl
  · exact (Value.length?_of_length length).symm

theorem Gives.patternOf_eq_ok {p : Option Pattern} (h : Gives Value.Expression none v p) :
    Descriptor.patternOf (v.bind (·.string?)) = .ok p := by
  rcases h with _ | ⟨⟨compiles⟩⟩
  · rfl
  · simp [Value.string?, Descriptor.patternOf, compiles]

theorem Gives.eq_texts {items : List String} (h : Gives Value.Texts [] v items) :
    items = (v.bind (·.list?)).getD [] := by
  rcases h with _ | ⟨⟨items⟩⟩ <;> rfl

theorem Gives.eq_friendlyTexts {names : Option (List String)}
    (h : Gives Value.FriendlyTexts none v names) : names = v.bind (·.list?) := by
  rcases h with _ | ⟨⟨items⟩⟩ <;> rfl

theorem Gives.eq_switch {b : Bool} (h : Gives Value.Switch false v b) :
    b = (v.bind (·.bool?)).getD false := by
  rcases h with _ | ⟨⟨b⟩⟩ <;> rfl

end Metadata

/-- The kind that tags give is the one that the descriptor with their values
stands for. -/
theorem Kind.GivenBy.kindOf_ofTags {tags : Tags} {base : Fundamental} {k : Kind}
    (given : k.GivenBy tags base) : Descriptor.kindOf (.ofTags tags base) = .ok k := by
  cases given with
  | @int l given =>
      obtain ⟨min, max, bytes⟩ := l
      rw [Descriptor.Shape.ofTags, ← given.min.eq_integer?, ← given.max.eq_integer?,
          ← given.bytes.eq_byte?]
      rfl
  | @number l given =>
      obtain ⟨min, max⟩ := l
      rw [Descriptor.Shape.ofTags, ← given.min.eq_number?, ← given.max.eq_number?]
      rfl
  | @string l given =>
      obtain ⟨expression, minLength, maxLength⟩ := l
      have least := given.minLength.eq_least
      rw [Descriptor.Shape.ofTags, Descriptor.kindOf, given.expression.patternOf_eq_ok,
        ← given.maxLength.eq_greatest]
      show Except.ok (Kind.string ⟨expression, _, maxLength⟩) = _
      rw [show StringLimits.initial.minLength = 1 from rfl, ← least]
  | @enumeration l given =>
      obtain ⟨values, friendly⟩ := l
      rw [Descriptor.Shape.ofTags, ← given.values.eq_texts, ← given.friendly.eq_friendlyTexts]
      rfl
  | @filename l given =>
      obtain ⟨ensureExists, matchAny⟩ := l
      rw [Descriptor.Shape.ofTags, ← given.ensureExists.eq_switch, ← given.matchAny.eq_switch]
      rfl
  | directory given =>
      rw [Descriptor.Shape.ofTags, ← given.eq_switch]
      rfl
  | unconstrained hbase =>
      cases base <;> first | rfl | exact absurd hbase (by decide)

/-! ## Tags by themselves -/

/-- The kind takes a tag with this value: the tag is meant for it, and the value
is of the right type and in range. -/
def Fundamental.Takes (base : Fundamental) (tag : String) (v : Metadata.Value) : Prop :=
  (∃ spec, Metadata.spec? tag = some spec ∧ spec.host.accepts v ∧ spec.appliesTo base) ∧
    ∃ k, (Kind.ofFundamental base).tagged tag v = .ok k

section Takes

variable {tags : Tags} {base : Fundamental} {tag : String} {v : Metadata.Value} {k : Kind}
  {items : List Item}

/-! Whether a tag can be set does not depend on what other tags have set. -/

theorem IntLimits.exists_tagged {l : IntLimits} (l' : IntLimits)
    (h : ∃ m, l.tagged tag v = .ok m) : ∃ m, l'.tagged tag v = .ok m := by
  obtain ⟨m, h⟩ := h
  unfold IntLimits.tagged at h ⊢
  split at h
  · exact ⟨_, rfl⟩
  · exact ⟨_, rfl⟩
  · split at h
    · rename_i fits
      exact ⟨_, if_pos fits⟩
    · cases h
  · cases h
  · exact ⟨_, rfl⟩

theorem StringLimits.exists_tagged {l : StringLimits} (l' : StringLimits)
    (h : ∃ m, l.tagged tag v = .ok m) : ∃ m, l'.tagged tag v = .ok m := by
  obtain ⟨m, h⟩ := h
  unfold StringLimits.tagged at h ⊢
  split at h
  · obtain ⟨n, hn, -⟩ := Steps.except_bind_eq_ok.mp h
    exact ⟨_, Steps.except_bind_eq_ok.mpr ⟨n, hn, rfl⟩⟩
  · obtain ⟨n, hn, -⟩ := Steps.except_bind_eq_ok.mp h
    exact ⟨_, Steps.except_bind_eq_ok.mpr ⟨n, hn, rfl⟩⟩
  · rename_i s
    cases compiled : Pattern.ofSource s with
    | some p => exact ⟨_, rfl⟩
    | none =>
        simp only [compiled] at h
        cases h
  · exact ⟨_, rfl⟩

theorem Kind.GivenBy.exists_tagged_iff (given : k.GivenBy tags base) :
    (∃ k', k.tagged tag v = .ok k') ↔ ∃ k', (ofFundamental base).tagged tag v = .ok k' := by
  have int : ∀ l : IntLimits, (∃ k', (Kind.int l).tagged tag v = .ok k') ↔
      ∃ m, l.tagged tag v = .ok m := by
    intro l
    cases h : l.tagged tag v <;> simp [Kind.tagged, h]
  have string : ∀ l : StringLimits, (∃ k', (Kind.string l).tagged tag v = .ok k') ↔
      ∃ m, l.tagged tag v = .ok m := by
    intro l
    cases h : l.tagged tag v <;> simp [Kind.tagged, h]
  cases given with
  | int _ =>
      rw [int, ofFundamental, int]
      exact ⟨IntLimits.exists_tagged _, IntLimits.exists_tagged _⟩
  | string _ =>
      rw [string, ofFundamental, string]
      exact ⟨StringLimits.exists_tagged _, StringLimits.exists_tagged _⟩
  | number _ => exact iff_of_true ⟨_, rfl⟩ ⟨_, rfl⟩
  | enumeration _ => exact iff_of_true ⟨_, rfl⟩ ⟨_, rfl⟩
  | filename _ => exact iff_of_true ⟨_, rfl⟩ ⟨_, rfl⟩
  | directory _ =>
      have always : ∀ e, ∃ k', (Kind.directory e).tagged tag v = .ok k' := by
        intro e
        simp only [Kind.tagged]
        split <;> exact ⟨_, rfl⟩
      exact iff_of_true (always _) (always _)
  | unconstrained _ => exact Iff.rfl

theorem Kind.GivenBy.exists_taggedBy_iff (given : k.GivenBy tags base) {item : Item} :
    (∃ k', k.taggedBy base item = .ok k') ↔ base.Takes item.tag item.value := by
  constructor
  · rintro ⟨k', h⟩
    obtain ⟨fits, ⟨spec, known, meant⟩, tagged⟩ := taggedBy_eq_ok h
    exact ⟨⟨spec, known, fits.accepts known, meant⟩, given.exists_tagged_iff.mp ⟨k', tagged⟩⟩
  · rintro ⟨⟨spec, known, accepts, meant⟩, can⟩
    obtain ⟨k', tagged⟩ := given.exists_tagged_iff.mpr can
    refine ⟨k', Steps.except_bind_eq_ok.mpr ⟨spec, ?_, ?_⟩⟩
    · simp only [Item.check, known, if_pos accepts]
    · rw [if_pos meant, tagged]
      rfl

/-- All tags can be set if each of them can. -/
theorem Kind.GivenBy.exists_run_iff (given : k.GivenBy tags base) :
    (∃ k', items.foldlM (Kind.taggedBy base) k = .ok k') ↔
      ∀ item ∈ items, base.Takes item.tag item.value := by
  induction items generalizing k tags with
  | nil => exact iff_of_true ⟨k, rfl⟩ (List.forall_mem_nil _)
  | cons item items ih =>
      rw [List.forall_mem_cons, List.foldlM_cons]
      constructor
      · rintro ⟨k', h⟩
        obtain ⟨k₁, first, rest⟩ := Steps.except_bind_eq_ok.mp h
        exact ⟨given.exists_taggedBy_iff.mp ⟨k₁, first⟩, (ih (given.taggedBy first)).mp ⟨k', rest⟩⟩
      · rintro ⟨first, rest⟩
        obtain ⟨k₁, first⟩ := given.exists_taggedBy_iff.mpr first
        obtain ⟨k', rest⟩ := (ih (given.taggedBy first)).mpr rest
        exact ⟨k', Steps.except_bind_eq_ok.mpr ⟨k₁, first, rest⟩⟩

end Takes

/-! ## Types of tags -/

namespace Metadata

/-- The tags with their values, wherever they have been given. -/
def pairs (m : Metadata) : List (String × Value) := m.items.map fun item => (item.tag, item.value)

theorem value?_eq_some_iff {m : Metadata} {tag : String} {v : Value} :
    m.value? tag = some v ↔ (tag, v) ∈ m.pairs := by
  constructor
  · intro h
    obtain ⟨item, found, rfl⟩ := Option.map_eq_some_iff.mp h
    obtain rfl : item.tag = tag := by simpa using List.find?_some found
    exact List.mem_map_of_mem (List.mem_of_find?_eq_some found)
  · intro h
    obtain ⟨item, there, same⟩ := List.mem_map.mp h
    cases same
    have found : (m.find? item.tag).isSome := List.find?_isSome.mpr ⟨item, there, by simp⟩
    obtain ⟨first, hfirst⟩ := Option.isSome_iff_exists.mp found
    have same : first.tag = item.tag := by simpa using List.find?_some hfirst
    have := List.inj_on_of_nodup_map m.nodup (List.mem_of_find?_eq_some hfirst) there same
    rw [value?, hfirst, this]
    rfl

theorem value?_perm {m m' : Metadata} (h : m.pairs.Perm m'.pairs) : m.value? = m'.value? := by
  funext tag
  ext v
  rw [value?_eq_some_iff, value?_eq_some_iff]
  exact h.mem_iff

end Metadata

namespace ValueType

variable {base : Fundamental} {m : Metadata} {place : Location} {t : ValueType}

/-- Tags make a type if the kind takes each of them and the descriptor with
their values makes it. -/
theorem ofMetadata_eq_ok_iff :
    ofMetadata base m place = .ok t ↔
      (∀ item ∈ m.items, base.Takes item.tag item.value) ∧
      (Descriptor.mk none (.ofTags m.value? base)).toType = .ok t := by
  have start := Kind.givenBy_ofFundamental base
  have written : ∀ {k}, m.items.foldlM (Kind.taggedBy base) (Kind.ofFundamental base) = .ok k →
      Descriptor.kindOf (.ofTags m.value? base) = .ok k := by
    intro k run
    rw [← Metadata.foldl_carry_items]
    exact (start.run run).kindOf_ofTags
  constructor
  · intro h
    obtain ⟨k, run, h⟩ := Steps.except_bind_eq_ok.mp h
    have made : ofKind k = .ok t := Steps.mapError_eq_ok.mp h
    refine ⟨start.exists_run_iff.mp ⟨k, run⟩, ?_⟩
    rw [Descriptor.toType]
    exact Steps.except_bind_eq_ok.mpr ⟨k, written run, Steps.except_bind_eq_ok.mpr ⟨t, made, rfl⟩⟩
  · rintro ⟨each, h⟩
    obtain ⟨k, run⟩ := start.exists_run_iff.mpr each
    obtain ⟨k', hk', agree, rfl⟩ := Descriptor.toType_eq_ok h
    rw [written run] at hk'
    cases hk'
    refine Steps.except_bind_eq_ok.mpr ⟨k, run, Steps.mapError_eq_ok.mpr ?_⟩
    exact ofKind_eq_ok.mpr ⟨agree, rfl⟩

/-- What fundamental types are made of tags: those that descriptors with the
same values make, whatever the order of the tags. -/
theorem ofMetadata_agrees :
    (∀ t, ofMetadata base m place = .ok t →
      (Descriptor.mk none (.ofTags m.value? base)).toType = .ok t) ∧
    ∀ (m' : Metadata) (place' : Location), m.pairs.Perm m'.pairs →
      (∃ t, ofMetadata base m place = .ok t ∧ ofMetadata base m' place' = .ok t) ∨
      ∃ e e', ofMetadata base m place = .error e ∧ ofMetadata base m' place' = .error e' := by
  refine ⟨fun t h => (ofMetadata_eq_ok_iff.mp h).2, fun m' place' perm => ?_⟩
  have same : ∀ t, ofMetadata base m place = .ok t ↔ ofMetadata base m' place' = .ok t := by
    intro t
    have each : ∀ m : Metadata, (∀ item ∈ m.items, base.Takes item.tag item.value) ↔
        ∀ pair ∈ m.pairs, base.Takes pair.1 pair.2 := by
      intro m
      rw [Metadata.pairs, List.forall_mem_map]
    rw [ofMetadata_eq_ok_iff, ofMetadata_eq_ok_iff, Metadata.value?_perm perm, each, each]
    exact and_congr_left fun _ => forall_congr' fun pair => by rw [perm.mem_iff]
  cases h : ofMetadata base m place with
  | ok t => exact .inl ⟨t, rfl, (same t).mp h⟩
  | error e =>
      cases h' : ofMetadata base m' place' with
      | error e' => exact .inr ⟨e, e', rfl, rfl⟩
      | ok t =>
          have := (same t).mpr h'
          rw [h] at this
          cases this

/-- A share of at most one half, in two orders. -/
theorem ofMetadata_agrees_share :
    let half : Double := .ofDecimal false 5 (-1)
    let low : Item := ⟨"min", .integer 0, .api⟩
    let high : Item := ⟨"max", .number half, ⟨"main.json", 2, 7⟩⟩
    let told : Item := ⟨"description", .string "at most one half", .api⟩
    let m : Metadata := ⟨[low, told, high], by decide⟩
    let m' : Metadata := ⟨[{ high with place := .api }, low, told], by decide⟩
    let t : ValueType := .mk (.number ⟨some (.ofInt 0), some half⟩) .single none
    ofMetadata .number m .api = .ok t ∧
      (Descriptor.mk none (.ofTags m.value? .number)).toType = .ok t ∧ m.pairs.Perm m'.pairs ∧
      ∃ t', ofMetadata .number m .api = .ok t' ∧ ofMetadata .number m' .api = .ok t' := by
  intro half low high told m m' t
  have made : ofMetadata .number m .api = .ok t := rfl
  have perm : m.pairs.Perm m'.pairs := by decide
  refine ⟨made, ofMetadata_agrees.1 t made, perm, ?_⟩
  rcases ofMetadata_agrees.2 m' .api perm with both | ⟨e, e', h, -⟩
  · exact both
  · rw [made] at h
    cases h

end ValueType

end TypeSchema
