/-
# Agreement — what the schema of a type lets through

Two things get lost on the way from a type to its JSON Schema.  A schema
demands a number of items only above one, so the empty list passes where at
least one item is asked for.  And a choice has no type of its own, so a list
passes where a single value is asked for, if an alternative is a collection.  A
value that does either at a place that counts strays (`ValueType.Strays`).
Nothing else gets lost: of the values that meet the schema of a plain type, it
accepts exactly those that do not stray (`validate_iff_of_checkPayload`).
-/
import TypeSchema.Proofs.JsonSchema.Payload

namespace TypeSchema

open JsonSchema (Meets)

/-! ## What the schema lets through -/

mutual

/-- At a place that counts, the value is an empty list where at least one item
is asked for, or a list where a single value is. -/
inductive ValueType.Strays : ValueType → Value → Prop
  | empty {kind : Kind} {a : Arity} {hook : Option Hook} (collection : a.isCollection = true)
      (one : a.min = 1) : ValueType.Strays (.mk kind a hook) (.list [])
  | item {kind : Kind} {a : Arity} {hook : Option Hook} {items : List Value} {w : Value}
      (collection : a.isCollection = true) (mem : w ∈ items) (h : Kind.Strays kind w) :
      ValueType.Strays (.mk kind a hook) (.list items)
  | several {kind : Kind} {a : Arity} {hook : Option Hook} {items : List Value}
      (single : a.isCollection = false) : ValueType.Strays (.mk kind a hook) (.list items)
  | single {kind : Kind} {a : Arity} {hook : Option Hook} {v : Value}
      (single : a.isCollection = false) (h : Kind.Strays kind v) :
      ValueType.Strays (.mk kind a hook) v

/-- A single value strays at a member, or from all alternatives whose schemas it
meets. -/
inductive Kind.Strays : Kind → Value → Prop
  | field {members : List Member} {exact : Bool} {fields : List (String × Value)} {m : Member}
      {w : Value} (mem : m ∈ members) (found : Fields.find? m.name fields = some w)
      (h : ValueType.Strays m.type w) : Kind.Strays (.object members exact) (.object fields)
  | choice {alternatives : List ValueType} {v : Value}
      (h : ∀ t ∈ alternatives, Meets t.jsonSchema v.toJson → ValueType.Strays t v) :
      Kind.Strays (.anyOf alternatives) v

end

section LetThrough

variable {files : FileTree} {kind : Kind} {a : Arity}

theorem ValueType.strays_collection_iff {hook : Option Hook} {items : List Value}
    (collection : a.isCollection = true) :
    (ValueType.mk kind a hook).Strays (.list items) ↔
      (a.min = 1 ∧ items = []) ∨ ∃ w ∈ items, kind.Strays w := by
  constructor
  · intro h
    cases h with
    | empty _ one => exact .inl ⟨one, rfl⟩
    | item _ mem h => exact .inr ⟨_, mem, h⟩
    | several single => cases collection.symm.trans single
    | single single _ => cases collection.symm.trans single
  · rintro (⟨one, rfl⟩ | ⟨w, mem, h⟩)
    · exact .empty collection one
    · exact .item collection mem h

theorem ValueType.strays_single_iff {hook : Option Hook} {v : Value}
    (single : a.isCollection = false) :
    (ValueType.mk kind a hook).Strays v ↔ v.items? ≠ none ∨ kind.Strays v := by
  constructor
  · intro h
    cases h with
    | empty collection _ => cases collection.symm.trans single
    | item collection _ _ => cases collection.symm.trans single
    | several _ => exact .inl (Option.some_ne_none _)
    | single _ h => exact .inr h
  · rintro (h | h)
    · cases v with
      | list items => exact .several single
      | _ => exact absurd rfl h
    · exact .single single h

/-- A collection is as long as the schema demands, so it is as long as the
arity does unless it is the empty one. -/
theorem accepts_iff_not_empty {items : List Value}
    (hmin : 1 < a.min → a.min.toNat ≤ items.length)
    (hmax : ∀ m, a.max = some m → items.length ≤ m.toNat) :
    a.accepts items.length = true ↔ ¬ (a.min = 1 ∧ items = []) := by
  rw [Arity.accepts_iff, and_iff_left hmax]
  constructor
  · rintro hle ⟨hone, rfl⟩
    rw [hone] at hle
    cases hle
  · intro h
    by_cases hlt : 1 < a.min
    · exact hmin hlt
    · by_cases hone : a.min = 1
      · rw [hone]
        exact List.length_pos_iff.mpr fun hnil => h ⟨hone, hnil⟩
      · have hzero : a.min.toNat = 0 := by
          rw [UInt32.lt_iff_toNat_lt] at hlt
          have hne : a.min.toNat ≠ 1 := fun heq => hone (UInt32.toNat_inj.mp heq)
          have : a.min.toNat ≤ 1 := Nat.le_of_not_lt hlt
          omega
        rw [hzero]
        exact Nat.zero_le _

/-- What holds of single values holds under an arity. -/
theorem validate_iff_of_meets
    (each : ∀ w : Value, w.Throughout Value.IsBasic → Meets kind.jsonSchema w.toJson →
      (kind.accept files w = .ok () ↔ ¬ kind.Strays w))
    {v : Value} (basic : v.Throughout Value.IsBasic)
    (h : Meets (ValueType.mk kind a none).jsonSchema v.toJson) :
    (ValueType.mk kind a none).validate files v = .ok () ↔
      ¬ (ValueType.mk kind a none).Strays v := by
  have there : v ≠ .null := basic.here.isSolid.1
  rw [ValueType.jsonSchema] at h
  cases collection : a.isCollection with
  | true =>
      obtain ⟨js, hjs, hmin, hmax, hitems⟩ := (JsonSchema.meets_collected collection).mp h
      obtain ⟨items, rfl, rfl⟩ := Value.toJson_eq_array basic.here hjs
      rw [List.length_map] at hmin hmax
      rw [List.forall_mem_map] at hitems
      have accepted : (∀ w ∈ items, kind.accept files w = .ok ()) ↔
          ¬ ∃ w ∈ items, kind.Strays w := by
        rw [not_exists]
        refine forall_congr' fun w => ?_
        rw [not_and]
        exact forall_congr' fun hw => each w (basic.inside w hw) (hitems w hw)
      rw [ValueType.validate_collection collection there,
        ValueType.strays_collection_iff collection, not_or, ← accepts_iff_not_empty hmin hmax,
        ← accepted]
      constructor
      · rintro ⟨_, ⟨⟩, h⟩
        exact h
      · intro h
        exact ⟨items, rfl, h⟩
  | false =>
      have single : ¬ a.isCollection = true := by
        rw [collection]
        exact Bool.false_ne_true
      rw [JsonSchema.collected, if_neg single] at h
      rw [ValueType.validate_single collection there, each v basic h,
        ValueType.strays_single_iff collection, not_or, not_not]

/-- Fields that meet the properties are admitted exactly if none of them strays. -/
theorem admit_iff_of_meets {members : List Member} {exact : Bool}
    {fields : List (String × Value)} (distinct : (members.map (·.name)).Nodup)
    (each : ∀ m ∈ members, ∀ w ∈ fields.map (·.2), Meets m.type.jsonSchema w.toJson →
      (m.type.validate files w = .ok () ↔ ¬ m.type.Strays w))
    (h : Meets (JsonSchema.ofProperties (Member.jsonProperties members) members exact)
      (.object (fields.map fun f => (f.1, f.2.toJson)))) :
    Member.Admit files members exact fields ↔
      ¬ (Kind.object members exact).Strays (.object fields) := by
  obtain ⟨_, ⟨⟩, meets, required, only⟩ := JsonSchema.meets_ofProperties.mp h
  have extra : exact = true → ∀ f ∈ fields, ∃ m ∈ members, m.name = f.1 := by
    intro hexact f hf
    exact Member.mem_names_jsonProperties.mp (only hexact _ (List.mem_map_of_mem hf))
  have agree : ∀ m ∈ members, ∀ w, Fields.find? m.name fields = some w →
      (m.type.validate files w = .ok () ↔ ¬ m.type.Strays w) := by
    intro m hm w hfound
    refine each m hm w (Member.mem_values_of_find? hfound) ?_
    exact meets _ (List.mem_map_of_mem (Fields.mem_of_find? hfound)) _
      ((Member.find?_jsonProperties distinct).mpr ⟨m, hm, rfl, rfl⟩)
  constructor
  · rintro ⟨accepted, -⟩ strays
    cases strays with
    | field mem found strays =>
        have hvalid := accepted _ mem
        rw [found] at hvalid
        exact (agree _ mem _ found).mp hvalid strays
  · intro h
    refine ⟨fun m hm => ?_, extra⟩
    cases found : Fields.find? m.name fields with
    | some w => exact (agree m hm w found).mpr fun strays => h (.field hm found strays)
    | none =>
        -- A member without a field is not among the required ones.
        have optional : m.type.arity.min = 0 := by
          by_contra hmin
          obtain ⟨f, hf, hname⟩ := required m hm hmin
          obtain ⟨g, hg, rfl⟩ := List.mem_map.mp hf
          have hsome := Fields.find?_isSome_iff.mpr (List.mem_map.mpr ⟨g, hg, hname⟩)
          rw [found] at hsome
          cases hsome
        obtain ⟨name, ⟨kind, a, hook⟩⟩ := m
        exact ValueType.validate_null.mpr optional

/-- A choice has no demands but those of its alternatives. -/
theorem choice_iff_of_meets {alternatives : List ValueType} {v : Value}
    (sound : ∀ t ∈ alternatives, t.validate files v = .ok () → Meets t.jsonSchema v.toJson)
    (each : ∀ t ∈ alternatives, Meets t.jsonSchema v.toJson →
      (t.validate files v = .ok () ↔ ¬ t.Strays v)) :
    (Kind.anyOf alternatives).accept files v = .ok () ↔
      ¬ (Kind.anyOf alternatives).Strays v := by
  rw [Kind.accept_anyOf_eq_ok]
  constructor
  · rintro ⟨t, ht, hvalid⟩ strays
    cases strays with
    | choice astray =>
        have met := sound t ht hvalid
        exact (each t ht met).mp hvalid (astray t ht met)
  · intro h
    by_contra none
    rw [not_exists] at none
    refine h (.choice fun t ht met => ?_)
    by_contra hno
    exact none t ⟨ht, (each t ht met).mpr hno⟩

/-- What meets the schema of a plain type without dictionaries is accepted
exactly if it does not stray. -/
theorem ValueType.IsPlain.validate_iff {t : ValueType} (plain : t.IsPlain false) {v : Value}
    (basic : v.Throughout Value.IsBasic) (h : Meets t.jsonSchema v.toJson) :
    t.validate files v = .ok () ↔ ¬ t.Strays v := by
  induction plain generalizing v with
  | bool =>
      refine validate_iff_of_meets (fun w hbasic hw => ?_) basic h
      rw [Kind.jsonSchema] at hw
      obtain ⟨b, hb⟩ := JsonSchema.meets_boolean.mp hw
      refine iff_of_true (Kind.accept_bool_eq_ok.mpr ⟨b, Value.toJson_eq_bool hbasic.here hb⟩) ?_
      intro strays
      cases strays
  | int agree =>
      refine validate_iff_of_meets (fun w hbasic hw => ?_) basic h
      rw [Kind.jsonSchema] at hw
      obtain ⟨n, hn, -⟩ := JsonSchema.meets_ofIntLimits.mp hw
      obtain ⟨i, rfl, -⟩ := Value.toJson_eq_number hbasic.here hn
      rw [Value.toJson] at hw
      refine iff_of_true (Kind.accept_int_eq_ok.mpr ⟨i, rfl, ?_⟩) ?_
      · exact (meets_ofIntLimits_iff agree).mp hw
      · intro strays
        cases strays
  | string agree free =>
      refine validate_iff_of_meets (fun w hbasic hw => ?_) basic h
      rw [Kind.jsonSchema] at hw
      obtain ⟨s, hs, -⟩ := (JsonSchema.meets_ofStringLimits free).mp hw
      obtain rfl := Value.toJson_eq_string hbasic.here hs
      rw [hs] at hw
      refine iff_of_true (Kind.accept_string_eq_ok.mpr ⟨s, rfl, ?_⟩) ?_
      · exact (meets_ofStringLimits_iff free).mp hw
      · intro strays
        cases strays
  | enumeration agree =>
      refine validate_iff_of_meets (fun w hbasic hw => ?_) basic h
      rw [Kind.jsonSchema] at hw
      obtain ⟨s, hs, hmem⟩ := JsonSchema.meets_ofValues.mp hw
      refine iff_of_true (Kind.accept_enumeration_eq_ok.mpr ⟨s, ?_, hmem⟩) ?_
      · exact Value.toJson_eq_string hbasic.here hs
      · intro strays
        cases strays
  | object agree each ih =>
      refine validate_iff_of_meets (fun w hbasic hw => ?_) basic h
      rw [Kind.jsonSchema] at hw
      obtain ⟨js, hjs, -⟩ := JsonSchema.meets_ofProperties.mp hw
      obtain ⟨fields, rfl, -, -⟩ := Value.toJson_eq_object hbasic.here hjs
      rw [Value.toJson_object] at hw
      have admitted := admit_iff_of_meets (Member.distinct_of_check agree)
        (fun m hm w hmem => ih m hm (hbasic.inside w hmem)) hw
      rw [← admitted, Kind.accept_object_eq_ok]
      constructor
      · rintro ⟨_, ⟨⟩, h⟩
        exact h
      · intro h
        exact ⟨fields, rfl, h⟩
  | dict allowed => cases allowed
  | anyOf agree each ih =>
      refine validate_iff_of_meets (fun w hbasic hw => ?_) basic h
      refine choice_iff_of_meets (fun t ht hvalid => ?_) fun t ht met => ih t ht hbasic met
      exact (each t ht).meets (hbasic.mono fun _ => Value.IsBasic.isSolid) hvalid

end LetThrough

/-- What the schema of a plain type without dictionaries lets through is
accepted by the type exactly if it does not stray. -/
theorem ValueType.validate_iff_of_checkPayload {files : FileTree} {t : ValueType} {v : Value}
    (plain : t.IsPlain false) (basic : v.Throughout Value.IsBasic)
    (h : t.checkPayload v.toJson = .ok ()) : t.validate files v = .ok () ↔ ¬ t.Strays v :=
  plain.validate_iff basic (plain.checkPayload_eq_ok.mp h)

/-- One integer or more. -/
def ValueType.integers : ValueType := .mk (.int ⟨none, none, none⟩) .oneOrMore none

/-- A single value, for which there is only the choice of integers. -/
def ValueType.choiceOfIntegers : ValueType := .mk (.anyOf [.integers]) .single none

theorem ValueType.isPlain_integers : ValueType.integers.IsPlain false := .int rfl

theorem ValueType.isPlain_choiceOfIntegers : ValueType.choiceOfIntegers.IsPlain false := by
  refine .anyOf rfl ?_
  intro t ht
  cases List.mem_singleton.mp ht
  exact isPlain_integers

theorem Value.throughout_list_int (items : List Int64) :
    (Value.list (items.map .int)).Throughout Value.IsBasic := by
  refine .intro trivial ?_
  rw [Value.parts, List.forall_mem_map]
  intro i _
  exact .intro trivial (List.forall_mem_nil _)

/-- Integers meet the schema of integers, however many there are. -/
theorem meets_integers (items : List Int64) :
    Meets ValueType.integers.jsonSchema (Value.list (items.map .int)).toJson := by
  rw [ValueType.integers, ValueType.jsonSchema, Kind.jsonSchema, Value.toJson_list,
    JsonSchema.meets_collected rfl]
  refine ⟨_, rfl, fun h => absurd h (by decide), ?_, ?_⟩
  · rintro _ ⟨⟩
  · rw [List.forall_mem_map, List.forall_mem_map]
    intro i _
    rw [Value.toJson]
    exact (meets_ofIntLimits_iff rfl).mpr rfl

/-- The schema lets through the empty list of one integer or more, and a list
of integers as the single value of a choice; the types reject both. -/
theorem ValueType.checkPayload_lets_through :
    (ValueType.integers.checkPayload (Value.list []).toJson = .ok () ∧
      ValueType.integers.validate .empty (.list []) ≠ .ok ()) ∧
    (ValueType.choiceOfIntegers.checkPayload (Value.list [.int 1]).toJson = .ok () ∧
      ValueType.choiceOfIntegers.validate .empty (.list [.int 1]) ≠ .ok ()) := by
  refine ⟨⟨?_, ?_⟩, ?_, ?_⟩
  · exact isPlain_integers.checkPayload_eq_ok.mpr (meets_integers [])
  · intro h
    cases h
  · refine isPlain_choiceOfIntegers.checkPayload_eq_ok.mpr ?_
    rw [choiceOfIntegers, ValueType.jsonSchema, Kind.jsonSchema, ValueType.jsonSchemas_eq]
    exact JsonSchema.meets_anyOf.mpr ⟨_, List.mem_singleton_self _, meets_integers [1]⟩
  · intro h
    cases h

/-- One integer does not stray. -/
theorem ValueType.validate_iff_of_checkPayload_one :
    ValueType.integers.validate .empty (.list [.int 1]) = .ok () := by
  have met : ValueType.integers.checkPayload (Value.list [.int 1]).toJson = .ok () :=
    isPlain_integers.checkPayload_eq_ok.mpr (meets_integers [1])
  refine (validate_iff_of_checkPayload isPlain_integers
    (Value.throughout_list_int [1]) met).mpr fun strays => ?_
  cases strays with
  | item _ _ h => cases h
  | several single => cases single
  | single single _ => cases single

end TypeSchema
