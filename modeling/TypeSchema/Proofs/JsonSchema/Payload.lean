/-
# Payload — JSON forms of what a type accepts

A value can be checked against a type as it is, or in its JSON form against the
JSON Schema of the type.  For types of truth values, integers, strings without
pattern, enumerations, members and choices (`ValueType.IsPlain`) the schema
rejects nothing that the type accepts (`checkPayload_of_validate`).  The proof
is by induction on the type: what holds of single values of a kind holds under
every arity (`meets_of_validate`), and fields that members admit meet the
properties of their names (`meets_of_admitted`).
-/
import TypeSchema.Proofs.JsonSchema.Meaning
import TypeSchema.Proofs.Typing.Classes
import TypeSchema.Proofs.ValueType.Acceptance
import TypeSchema.TextForm.Writing

namespace TypeSchema

open JsonSchema (Meets)

/-! ## JSON forms -/

mutual

/-- The JSON form of a value: objects and maps are objects, and what JSON has
no word for is the text of it. -/
def Value.toJson : Value → Json
  | .null => .null
  | .bool b => .bool b
  | .int i => .ofInt i.toInt
  | .float d => .ofDouble d
  | .string s => .string s
  | .date d => .string d.text
  | .time t => .string t.text
  | .dateTime dt => .string dt.text
  | .duration d => .string d.text
  | .guid g => .string g.text
  | .uri u => .string u.text
  | .path p => .string p.slashedText
  | .list items => .array (Value.toJsonItems items)
  | .object fields => .object (Value.toJsonFields fields)
  | .map entries => .object (Value.toJsonFields entries)

/-- The JSON forms of values. -/
def Value.toJsonItems : List Value → List Json
  | [] => []
  | v :: rest => v.toJson :: Value.toJsonItems rest

/-- The JSON forms of values under their names. -/
def Value.toJsonFields : List (String × Value) → List (String × Json)
  | [] => []
  | (name, v) :: rest => (name, v.toJson) :: Value.toJsonFields rest

end

namespace Value

theorem toJsonItems_eq (items : List Value) : toJsonItems items = items.map toJson := by
  induction items with
  | nil => rw [toJsonItems]; rfl
  | cons v rest ih => rw [toJsonItems, ih]; rfl

theorem toJsonFields_eq (fields : List (String × Value)) :
    toJsonFields fields = fields.map fun f => (f.1, f.2.toJson) := by
  induction fields with
  | nil => rw [toJsonFields]; rfl
  | cons f rest ih => rw [toJsonFields, ih]; rfl

@[simp] theorem toJson_list (items : List Value) :
    (Value.list items).toJson = .array (items.map toJson) := by
  rw [toJson, toJsonItems_eq]

@[simp] theorem toJson_object (fields : List (String × Value)) :
    (Value.object fields).toJson = .object (fields.map fun f => (f.1, f.2.toJson)) := by
  rw [toJson, toJsonFields_eq]

@[simp] theorem toJson_map (entries : List (String × Value)) :
    (Value.map entries).toJson = .object (entries.map fun f => (f.1, f.2.toJson)) := by
  rw [toJson, toJsonFields_eq]

/-! ## Values that JSON can tell apart -/

/-- Neither nothing nor a float; each name is there once. -/
def IsSolid (v : Value) : Prop := v ≠ .null ∧ (∀ d, v ≠ .float d) ∧ v.names.Nodup

/-- A truth value, an integer, a string, a list, or an object with distinct names. -/
def IsBasic : Value → Prop
  | .bool _ => True
  | .int _ => True
  | .string _ => True
  | .list _ => True
  | .object fields => (fields.map (·.1)).Nodup
  | _ => False

/-- What a basic value is shows in its JSON form. -/
theorem toJson_cases {v : Value} (basic : v.IsBasic) :
    (∃ b, v = .bool b ∧ v.toJson = .bool b) ∨ (∃ i, v = .int i ∧ v.toJson = .ofInt i.toInt) ∨
    (∃ s, v = .string s ∧ v.toJson = .string s) ∨
    (∃ items, v = .list items ∧ v.toJson = .array (items.map toJson)) ∨
    ∃ fields, v = .object fields ∧ (fields.map (·.1)).Nodup ∧
      v.toJson = .object (fields.map fun f => (f.1, f.2.toJson)) := by
  cases v with
  | bool b => exact .inl ⟨b, rfl, by rw [toJson]⟩
  | int i => exact .inr (.inl ⟨i, rfl, by rw [toJson]⟩)
  | string s => exact .inr (.inr (.inl ⟨s, rfl, by rw [toJson]⟩))
  | list items => exact .inr (.inr (.inr (.inl ⟨items, rfl, toJson_list items⟩)))
  | object fields => exact .inr (.inr (.inr (.inr ⟨fields, rfl, basic, toJson_object fields⟩)))
  | _ => exact basic.elim

theorem toJson_eq_bool {v : Value} (basic : v.IsBasic) {b : Bool} (h : v.toJson = .bool b) :
    v = .bool b := by
  rcases toJson_cases basic with ⟨_, rfl, e⟩ | ⟨_, rfl, e⟩ | ⟨_, rfl, e⟩ | ⟨_, rfl, e⟩ |
    ⟨_, rfl, _, e⟩ <;> cases e.symm.trans h
  rfl

theorem toJson_eq_number {v : Value} (basic : v.IsBasic) {n : Json.Number}
    (h : v.toJson = .number n) : ∃ i, v = .int i ∧ n = .int i.toInt := by
  rcases toJson_cases basic with ⟨_, rfl, e⟩ | ⟨_, rfl, e⟩ | ⟨_, rfl, e⟩ | ⟨_, rfl, e⟩ |
    ⟨_, rfl, _, e⟩ <;> cases e.symm.trans h
  exact ⟨_, rfl, rfl⟩

theorem toJson_eq_string {v : Value} (basic : v.IsBasic) {s : String}
    (h : v.toJson = .string s) : v = .string s := by
  rcases toJson_cases basic with ⟨_, rfl, e⟩ | ⟨_, rfl, e⟩ | ⟨_, rfl, e⟩ | ⟨_, rfl, e⟩ |
    ⟨_, rfl, _, e⟩ <;> cases e.symm.trans h
  rfl

theorem toJson_eq_array {v : Value} (basic : v.IsBasic) {js : List Json}
    (h : v.toJson = .array js) : ∃ items, v = .list items ∧ js = items.map toJson := by
  rcases toJson_cases basic with ⟨_, rfl, e⟩ | ⟨_, rfl, e⟩ | ⟨_, rfl, e⟩ | ⟨_, rfl, e⟩ |
    ⟨_, rfl, _, e⟩ <;> cases e.symm.trans h
  exact ⟨_, rfl, rfl⟩

theorem toJson_eq_object {v : Value} (basic : v.IsBasic) {js : List (String × Json)}
    (h : v.toJson = .object js) :
    ∃ fields, v = .object fields ∧ (fields.map (·.1)).Nodup ∧
      js = fields.map fun f => (f.1, f.2.toJson) := by
  rcases toJson_cases basic with ⟨_, rfl, e⟩ | ⟨_, rfl, e⟩ | ⟨_, rfl, e⟩ | ⟨_, rfl, e⟩ |
    ⟨_, rfl, once, e⟩ <;> cases e.symm.trans h
  exact ⟨_, rfl, once, rfl⟩

theorem IsBasic.isSolid {v : Value} (h : v.IsBasic) : v.IsSolid := by
  refine ⟨?_, ?_, ?_⟩
  · rintro rfl
    exact h
  · rintro d rfl
    exact h
  · cases v with
    | object fields => exact h
    | map entries => exact h.elim
    | _ => exact List.nodup_nil

end Value

/-! ## Plain types -/

/-- Types of truth values, integers, strings without pattern, enumerations,
members and choices, each made under its constraints and without a check from
outside.  Dictionaries are among them if `maps` says so. -/
inductive ValueType.IsPlain (maps : Bool) : ValueType → Prop
  | bool {a : Arity} : IsPlain maps (.mk .bool a none)
  | int {l : IntLimits} {a : Arity} (agree : (Kind.int l).checkConstraints = .ok ()) :
      IsPlain maps (.mk (.int l) a none)
  | string {l : StringLimits} {a : Arity} (agree : (Kind.string l).checkConstraints = .ok ())
      (free : l.expression = none) : IsPlain maps (.mk (.string l) a none)
  | enumeration {l : EnumLimits} {a : Arity}
      (agree : (Kind.enumeration l).checkConstraints = .ok ()) :
      IsPlain maps (.mk (.enumeration l) a none)
  | object {members : List Member} {exact : Bool} {a : Arity}
      (agree : (Kind.object members exact).checkConstraints = .ok ())
      (each : ∀ m ∈ members, IsPlain maps m.type) :
      IsPlain maps (.mk (.object members exact) a none)
  | dict {members : List Member} {exact : Bool} {a : Arity} (allowed : maps = true)
      (agree : (Kind.dict members exact).checkConstraints = .ok ())
      (each : ∀ m ∈ members, IsPlain maps m.type) : IsPlain maps (.mk (.dict members exact) a none)
  | anyOf {alternatives : List ValueType} {a : Arity}
      (agree : (Kind.anyOf alternatives).checkConstraints = .ok ())
      (each : ∀ t ∈ alternatives, IsPlain maps t) : IsPlain maps (.mk (.anyOf alternatives) a none)

theorem Member.distinct_of_check {members : List Member}
    (agree : Member.checkNames [] members = .ok ()) : (members.map (·.name)).Nodup :=
  (Member.checkNames_eq_ok.mp agree).1

theorem Member.jsonProperties_eq (members : List Member) :
    Member.jsonProperties members = members.map fun m => (m.name, m.type.jsonSchema) := by
  induction members with
  | nil => rw [jsonProperties]; rfl
  | cons m rest ih =>
      obtain ⟨name, type⟩ := m
      rw [jsonProperties, ih]
      rfl

theorem ValueType.jsonSchemas_eq (alternatives : List ValueType) :
    ValueType.jsonSchemas alternatives = alternatives.map (·.jsonSchema) := by
  induction alternatives with
  | nil => rw [jsonSchemas]; rfl
  | cons t rest ih => rw [jsonSchemas, ih]; rfl

/-- Where members have distinct names, each is the property of its name. -/
theorem Member.find?_jsonProperties {members : List Member}
    (distinct : (members.map (·.name)).Nodup) {name : String} {s : Json} :
    Fields.find? name (Member.jsonProperties members) = some s ↔
      ∃ m ∈ members, m.name = name ∧ m.type.jsonSchema = s := by
  rw [jsonProperties_eq]
  constructor
  · intro h
    obtain ⟨m, hm, heq⟩ := List.mem_map.mp (Fields.mem_of_find? h)
    cases heq
    exact ⟨m, hm, rfl, rfl⟩
  · rintro ⟨m, hm, rfl, rfl⟩
    refine Fields.find?_of_mem ?_ (List.mem_map_of_mem hm)
    rwa [List.map_map]

theorem Member.mem_names_jsonProperties {members : List Member} {name : String} :
    name ∈ (Member.jsonProperties members).map (·.1) ↔ ∃ m ∈ members, m.name = name := by
  rw [jsonProperties_eq, List.map_map]
  exact List.mem_map

/-- The schema of a plain type is one. -/
theorem ValueType.IsPlain.isSchema {maps : Bool} {t : ValueType} (plain : t.IsPlain maps) :
    JsonSchema.isSchema t.jsonSchema = true := by
  induction plain with
  | bool =>
      rw [jsonSchema, Kind.jsonSchema]
      exact JsonSchema.isSchema_collected rfl
  | int agree =>
      rw [jsonSchema, Kind.jsonSchema]
      exact JsonSchema.isSchema_collected JsonSchema.isSchema_ofIntLimits
  | string agree free =>
      rw [jsonSchema, Kind.jsonSchema]
      exact JsonSchema.isSchema_collected (JsonSchema.isSchema_ofStringLimits free)
  | enumeration agree =>
      rw [jsonSchema, Kind.jsonSchema]
      exact JsonSchema.isSchema_collected JsonSchema.isSchema_ofValues
  | object agree each ih =>
      rw [jsonSchema, Kind.jsonSchema]
      refine JsonSchema.isSchema_collected
        (JsonSchema.isSchema_ofProperties (Member.distinct_of_check agree) ?_)
      rw [Member.jsonProperties_eq, List.forall_mem_map]
      exact ih
  | dict allowed agree each ih =>
      rw [jsonSchema, Kind.jsonSchema]
      refine JsonSchema.isSchema_collected
        (JsonSchema.isSchema_ofProperties (Member.distinct_of_check agree) ?_)
      rw [Member.jsonProperties_eq, List.forall_mem_map]
      exact ih
  | anyOf agree each ih =>
      rename_i alternatives a
      rw [jsonSchema, Kind.jsonSchema, jsonSchemas_eq]
      refine JsonSchema.isSchema_collected (JsonSchema.isSchema_anyOf ?_ ?_)
      · intro hnil
        rw [List.map_eq_nil_iff.mp hnil] at agree
        cases agree
      · rw [List.forall_mem_map]
        exact ih

/-- A value stands for one of a plain type exactly if its JSON form meets the schema. -/
theorem ValueType.IsPlain.checkPayload_eq_ok {maps : Bool} {t : ValueType}
    (plain : t.IsPlain maps) {payload : Json} :
    t.checkPayload payload = .ok () ↔ Meets t.jsonSchema payload := by
  unfold checkPayload Json.checkAgainst
  rw [if_pos plain.isSchema, Meets]
  cases JsonSchema.check t.jsonSchema payload with
  | nil => exact iff_of_true rfl rfl
  | cons violation rest =>
      refine iff_of_false ?_ (List.cons_ne_nil _ _)
      intro h
      cases h

/-! ## What the type accepts -/

section Accepted

variable {files : FileTree} {kind : Kind} {a : Arity}

/-- What holds of single values holds under an arity. -/
theorem meets_of_validate
    (each : ∀ w : Value, w.Throughout Value.IsSolid → kind.accept files w = .ok () →
      Meets kind.jsonSchema w.toJson)
    {v : Value} (solid : v.Throughout Value.IsSolid)
    (h : (ValueType.mk kind a none).validate files v = .ok ()) :
    Meets (ValueType.mk kind a none).jsonSchema v.toJson := by
  rw [ValueType.jsonSchema]
  cases collection : a.isCollection with
  | true =>
      obtain ⟨items, rfl, count, accepted⟩ :=
        (ValueType.validate_collection collection solid.here.1).mp h
      obtain ⟨hmin, hmax⟩ := Arity.accepts_iff.mp count
      rw [JsonSchema.meets_collected collection, Value.toJson_list]
      refine ⟨_, rfl, ?_, ?_, ?_⟩
      · rw [List.length_map]
        exact fun _ => hmin
      · rw [List.length_map]
        exact hmax
      · rw [List.forall_mem_map]
        intro w hw
        exact each w (solid.inside w hw) (accepted w hw)
  | false =>
      have single : ¬ a.isCollection = true := by
        rw [collection]
        exact Bool.false_ne_true
      obtain ⟨-, accepted⟩ := (ValueType.validate_single collection solid.here.1).mp h
      rw [JsonSchema.collected, if_neg single]
      exact each v solid accepted

theorem Json.Number.int_lt (i j : Int) : Json.Number.lt (.int i) (.int j) = decide (i < j) := by
  simp [Json.Number.lt, Json.Number.ratio]

/-- A whole number meets the bounds of a schema exactly if it is accepted. -/
theorem meets_ofIntLimits_iff {l : IntLimits} (agree : l.check = .ok ()) {i : Int64} :
    Meets (JsonSchema.ofIntLimits l) (.ofInt i.toInt) ↔ l.accept i = .ok () := by
  rw [JsonSchema.meets_ofIntLimits, IntLimits.accept_iff_between agree]
  constructor
  · rintro ⟨n, hn, -, hlower, hupper⟩
    cases hn
    simp only [Json.Number.int_lt, decide_eq_false_iff_not, Int.not_lt,
      ← Int64.le_iff_toInt_le] at hlower hupper
    exact ⟨hlower, hupper⟩
  · rintro ⟨hlower, hupper⟩
    refine ⟨.int i.toInt, rfl, rfl, ?_, ?_⟩
    · simpa only [Json.Number.int_lt, decide_eq_false_iff_not, Int.not_lt,
        ← Int64.le_iff_toInt_le] using hlower
    · simpa only [Json.Number.int_lt, decide_eq_false_iff_not, Int.not_lt,
        ← Int64.le_iff_toInt_le] using hupper

/-- A string meets the lengths of a schema exactly if it is accepted. -/
theorem meets_ofStringLimits_iff {l : StringLimits} (free : l.expression = none) {s : String} :
    Meets (JsonSchema.ofStringLimits l) (.string s) ↔ l.accept s = .ok () := by
  rw [JsonSchema.meets_ofStringLimits free, StringLimits.accept_eq_ok free]
  constructor
  · rintro ⟨_, ⟨⟩, h⟩
    exact h
  · intro h
    exact ⟨s, rfl, h⟩

theorem Member.mem_values_of_find? {name : String} {fields : List (String × Value)} {w : Value}
    (h : Fields.find? name fields = some w) : w ∈ fields.map (·.2) :=
  List.mem_map.mpr ⟨_, Fields.mem_of_find? h, rfl⟩

/-- Fields that members admit meet the properties, if each meets its own. -/
theorem meets_of_admitted {members : List Member} {exact : Bool} {fields : List (String × Value)}
    (distinct : (members.map (·.name)).Nodup) (once : (fields.map (·.1)).Nodup)
    (each : ∀ m ∈ members, ∀ w ∈ fields.map (·.2), m.type.validate files w = .ok () →
      Meets m.type.jsonSchema w.toJson)
    (h : Member.Admit files members exact fields) :
    Meets (JsonSchema.ofProperties (Member.jsonProperties members) members exact)
      (.object (fields.map fun f => (f.1, f.2.toJson))) := by
  obtain ⟨accepted, only⟩ := h
  refine JsonSchema.meets_ofProperties.mpr ⟨_, rfl, ?_, ?_, ?_⟩
  · rw [List.forall_mem_map]
    rintro ⟨name, w⟩ hf s hs
    obtain ⟨m, hm, rfl, rfl⟩ := (Member.find?_jsonProperties distinct).mp hs
    have hvalid := accepted m hm
    rw [Fields.find?_of_mem once hf] at hvalid
    exact each m hm w (List.mem_map_of_mem hf) hvalid
  · intro m hm required
    have hvalid := accepted m hm
    cases hfound : Fields.find? m.name fields with
    | none =>
        rw [hfound] at hvalid
        obtain ⟨name, ⟨kind, a, hook⟩⟩ := m
        exact absurd (ValueType.validate_null.mp hvalid) required
    | some w => exact ⟨_, List.mem_map_of_mem (Fields.mem_of_find? hfound), rfl⟩
  · intro hexact
    rw [List.forall_mem_map]
    intro f hf
    exact Member.mem_names_jsonProperties.mpr (only hexact f hf)

/-- What a plain type accepts meets its schema. -/
theorem ValueType.IsPlain.meets {maps : Bool} {t : ValueType} (plain : t.IsPlain maps) {v : Value}
    (solid : v.Throughout Value.IsSolid) (h : t.validate files v = .ok ()) :
    Meets t.jsonSchema v.toJson := by
  induction plain generalizing v with
  | bool =>
      refine meets_of_validate (fun w _ hw => ?_) solid h
      obtain ⟨b, rfl⟩ := Kind.accept_bool_eq_ok.mp hw
      rw [Kind.jsonSchema, Value.toJson]
      exact JsonSchema.meets_boolean.mpr ⟨b, rfl⟩
  | int agree =>
      refine meets_of_validate (fun w _ hw => ?_) solid h
      obtain ⟨i, rfl, hi⟩ := Kind.accept_int_eq_ok.mp hw
      rw [Kind.jsonSchema, Value.toJson]
      exact (meets_ofIntLimits_iff agree).mpr hi
  | string agree free =>
      refine meets_of_validate (fun w _ hw => ?_) solid h
      obtain ⟨s, rfl, hs⟩ := Kind.accept_string_eq_ok.mp hw
      rw [Kind.jsonSchema, Value.toJson]
      exact (meets_ofStringLimits_iff free).mpr hs
  | enumeration agree =>
      refine meets_of_validate (fun w _ hw => ?_) solid h
      obtain ⟨s, rfl, hs⟩ := Kind.accept_enumeration_eq_ok.mp hw
      rw [Kind.jsonSchema, Value.toJson]
      exact JsonSchema.meets_ofValues.mpr ⟨s, rfl, hs⟩
  | object agree each ih =>
      refine meets_of_validate (fun w hsolid hw => ?_) solid h
      obtain ⟨fields, rfl, admitted⟩ := Kind.accept_object_eq_ok.mp hw
      rw [Kind.jsonSchema, Value.toJson_object]
      refine meets_of_admitted (Member.distinct_of_check agree) hsolid.here.2.2 ?_ admitted
      exact fun m hm w hmem hvalid => ih m hm (hsolid.inside w hmem) hvalid
  | dict allowed agree each ih =>
      refine meets_of_validate (fun w hsolid hw => ?_) solid h
      obtain ⟨entries, rfl, admitted⟩ := Kind.accept_dict_eq_ok.mp hw
      rw [Kind.jsonSchema, Value.toJson_map]
      refine meets_of_admitted (Member.distinct_of_check agree) hsolid.here.2.2 ?_ admitted
      exact fun m hm w hmem hvalid => ih m hm (hsolid.inside w hmem) hvalid
  | anyOf agree each ih =>
      refine meets_of_validate (fun w hsolid hw => ?_) solid h
      obtain ⟨t, ht, hvalid⟩ := Kind.accept_anyOf_eq_ok.mp hw
      rw [Kind.jsonSchema, ValueType.jsonSchemas_eq]
      exact JsonSchema.meets_anyOf.mpr ⟨_, List.mem_map_of_mem ht, ih t ht hsolid hvalid⟩

end Accepted

/-- The schema of a plain type rejects the JSON form of nothing that the type
accepts. -/
theorem ValueType.checkPayload_of_validate {files : FileTree} {t : ValueType} {v : Value}
    (plain : t.IsPlain true) (solid : v.Throughout Value.IsSolid)
    (h : t.validate files v = .ok ()) : t.checkPayload v.toJson = .ok () :=
  plain.checkPayload_eq_ok.mpr (plain.meets solid h)

/-- An object with a number and, if need be, a switch. -/
def ValueType.counter : ValueType :=
  .mk (.object [.mk "count" (.mk (.int ⟨some 0, none, none⟩) .single none),
    .mk "on" (.mk .bool .optional none)] true) .single none

theorem ValueType.isPlain_counter {maps : Bool} : ValueType.counter.IsPlain maps := by
  refine .object rfl ?_
  intro m hm
  rcases List.mem_pair.mp hm with rfl | rfl
  · exact .int rfl
  · exact .bool

/-- A member that may be left out is left out. -/
theorem ValueType.checkPayload_of_validate_counter :
    ValueType.counter.checkPayload (.object [("count", .ofInt 3)]) = .ok () := by
  have solid : (Value.object [("count", .int 3)]).Throughout Value.IsSolid := by
    have distinct : (Value.object [("count", .int 3)]).IsBasic := List.nodup_singleton "count"
    refine .intro distinct.isSolid ?_
    intro w hw
    cases List.mem_singleton.mp hw
    exact .intro (Value.IsBasic.isSolid trivial) (List.forall_mem_nil _)
  have valid : ValueType.counter.validate .empty (.object [("count", .int 3)]) = .ok () := by
    rfl
  have met := checkPayload_of_validate isPlain_counter solid valid
  rwa [Value.toJson_object] at met

end TypeSchema
