/-
# Meaning — what the schemas of types demand

The checker runs through the keywords of a schema and collects violations.  For
each form of schema that types give rise to, it is said here which values have
none: bounds and lengths are met, an array's items meet the schema of items, an
object's fields meet the properties of their names, and a choice is met by one
of its schemas.  `Meets` is the judgement in which the forms are put together.
-/
import Mathlib.Data.List.Basic
import TypeSchema.JsonSchema.Checking
import TypeSchema.Proofs.Fields

namespace TypeSchema

namespace JsonSchema

/-- The value meets all demands of the schema. -/
def Meets (schema v : Json) : Prop := check schema v = []

theorem demand_eq_nil {met : Bool} {v : Json} {d : Demand} : demand met v d = [] ↔ met = true := by
  cases met with
  | true => exact iff_of_true rfl rfl
  | false => exact iff_of_false (List.cons_ne_nil _ _) Bool.false_ne_true

/-! ## Types of values -/

section Types

variable {v : Json}

theorem holds_boolean : TypeName.boolean.holds v = true ↔ ∃ b, v = .bool b := by
  cases v with
  | bool b => exact iff_of_true rfl ⟨b, rfl⟩
  | _ =>
      refine iff_of_false Bool.false_ne_true ?_
      rintro ⟨_, ⟨⟩⟩

theorem holds_integer :
    TypeName.integer.holds v = true ↔ ∃ n, v = .number n ∧ n.isWhole = true := by
  cases v with
  | number n =>
      constructor
      · intro h
        exact ⟨n, rfl, h⟩
      · rintro ⟨_, ⟨⟩, h⟩
        exact h
  | _ =>
      refine iff_of_false Bool.false_ne_true ?_
      rintro ⟨_, ⟨⟩, -⟩

theorem holds_string : TypeName.string.holds v = true ↔ ∃ t, v = .string t := by
  cases v with
  | string t => exact iff_of_true rfl ⟨t, rfl⟩
  | _ =>
      refine iff_of_false Bool.false_ne_true ?_
      rintro ⟨_, ⟨⟩⟩

theorem holds_array : TypeName.array.holds v = true ↔ ∃ items, v = .array items := by
  cases v with
  | array items => exact iff_of_true rfl ⟨items, rfl⟩
  | _ =>
      refine iff_of_false Bool.false_ne_true ?_
      rintro ⟨_, ⟨⟩⟩

theorem holds_object : TypeName.object.holds v = true ↔ ∃ fields, v = .object fields := by
  cases v with
  | object fields => exact iff_of_true rfl ⟨fields, rfl⟩
  | _ =>
      refine iff_of_false Bool.false_ne_true ?_
      rintro ⟨_, ⟨⟩⟩

end Types

/-! ## Keywords -/

attribute [local simp] check checkKeywords checkPlain

section Keywords

variable {all ks ls : List (String × Json)} {property : String → Json → List Violation}
  {s v : Json} {keyword : String}

/-- The keywords whose values hold schemas. -/
def structural : List String := ["items", "anyOf", "properties", "additionalProperties"]

theorem checkKeywords_nil : checkKeywords all property [] v = [] := by simp

theorem checkKeywords_plain (h : keyword ∉ structural) :
    checkKeywords all property ((keyword, s) :: ks) v =
      checkPlain keyword s v ++ checkKeywords all property ks v := by
  simp only [structural, List.mem_cons, List.not_mem_nil, or_false, not_or] at h
  obtain ⟨hitems, hany, hproperties, hfurther⟩ := h
  rw [checkKeywords]
  · exact hitems
  · exact hany
  · exact hproperties
  · exact hfurther

/-- The keywords of a schema are checked one by one. -/
theorem checkKeywords_cons (k : String × Json) (ks : List (String × Json)) :
    checkKeywords all property (k :: ks) v =
      checkKeywords all property [k] v ++ checkKeywords all property ks v := by
  rw [checkKeywords.eq_def all property (k :: ks), checkKeywords.eq_def all property [k]]
  simp only [checkKeywords_nil, List.append_nil]

theorem checkKeywords_append :
    checkKeywords all property (ks ++ ls) v =
      checkKeywords all property ks v ++ checkKeywords all property ls v := by
  induction ks with
  | nil => rw [checkKeywords_nil]; rfl
  | cons k rest ih =>
      rw [List.cons_append, checkKeywords_cons k (rest ++ ls), checkKeywords_cons k rest, ih,
        List.append_assoc]

/-- The type that is demanded. -/
theorem checkKeywords_type {n : TypeName} :
    checkKeywords all property (typeField n.word :: ks) v = [] ↔
      n.holds v = true ∧ checkKeywords all property ks v = [] := by
  rw [typeField, checkKeywords_plain (by decide), List.append_eq_nil_iff, ← demand_eq_nil]
  cases n <;> exact Iff.rfl

/-- A keyword that may be left out. -/
theorem checkKeywords_bound {α : Type} {o : Option α} {write : α → Json}
    (h : keyword ∉ structural) :
    checkKeywords all property (bound keyword o write) v = [] ↔
      ∀ a, o = some a → checkPlain keyword (write a) v = [] := by
  cases o with
  | none =>
      refine iff_of_true checkKeywords_nil ?_
      rintro _ ⟨⟩
  | some a =>
      rw [bound, checkKeywords_plain h, checkKeywords_nil, List.append_nil]
      exact ⟨fun h _ heq => Option.some.inj heq ▸ h, fun h => h a rfl⟩

end Keywords

/-! ## Single values -/

section Forms

variable {v : Json}

theorem meets_boolean : Meets (.object [typeField "boolean"]) v ↔ ∃ b, v = .bool b := by
  rw [Meets, check]
  refine (checkKeywords_type (n := .boolean)).trans ?_
  rw [checkKeywords_nil, and_iff_left rfl, holds_boolean]

theorem meets_ofIntLimits {l : IntLimits} :
    Meets (ofIntLimits l) v ↔ ∃ n, v = .number n ∧ n.isWhole = true ∧
      (∀ lo, l.min.or (l.widthBounds.map (·.1)) = some lo → n.lt (.int lo.toInt) = false) ∧
      ∀ hi, l.max.or (l.widthBounds.map (·.2)) = some hi →
        Json.Number.lt (.int hi.toInt) n = false := by
  rw [Meets, ofIntLimits, check]
  simp only [List.cons_append]
  refine (checkKeywords_type (n := .integer)).trans ?_
  rw [checkKeywords_append, List.append_eq_nil_iff, checkKeywords_bound (by decide),
    checkKeywords_bound (by decide), holds_integer]
  constructor
  · rintro ⟨⟨n, rfl, whole⟩, hmin, hmax⟩
    refine ⟨n, rfl, whole, ?_, ?_⟩
    · intro lo hlo
      have met : (!n.lt (.int lo.toInt)) = true := demand_eq_nil.mp (hmin lo hlo)
      rwa [Bool.not_eq_true'] at met
    · intro hi hhi
      have met : (!Json.Number.lt (.int hi.toInt) n) = true := demand_eq_nil.mp (hmax hi hhi)
      rwa [Bool.not_eq_true'] at met
  · rintro ⟨n, rfl, whole, hmin, hmax⟩
    refine ⟨⟨n, rfl, whole⟩, ?_, ?_⟩
    · intro lo hlo
      exact demand_eq_nil.mpr (congrArg not (hmin lo hlo))
    · intro hi hhi
      exact demand_eq_nil.mpr (congrArg not (hmax hi hhi))

theorem count?_ofNat {n : Nat} : count? (.ofNat n) = some n := by
  have whole : 0 ≤ (n : Int) := Int.natCast_nonneg n
  simp [count?, Json.ofNat, Json.Number.isWhole, Json.Number.ratio]

theorem checkPlain_minLength {n : Nat} {t : String} :
    checkPlain "minLength" (.ofNat n) (.string t) = [] ↔ n ≤ t.length := by
  simp [count?_ofNat, demand_eq_nil]

theorem checkPlain_maxLength {n : Nat} {t : String} :
    checkPlain "maxLength" (.ofNat n) (.string t) = [] ↔ t.length ≤ n := by
  simp [count?_ofNat, demand_eq_nil]

theorem checkPlain_minItems {n : Nat} {items : List Json} :
    checkPlain "minItems" (.ofNat n) (.array items) = [] ↔ n ≤ items.length := by
  simp [count?_ofNat, demand_eq_nil]

theorem checkPlain_maxItems {n : Nat} {items : List Json} :
    checkPlain "maxItems" (.ofNat n) (.array items) = [] ↔ items.length ≤ n := by
  simp [count?_ofNat, demand_eq_nil]

/-- A string whose pattern is left open. -/
theorem meets_ofStringLimits {l : StringLimits} (free : l.expression = none) :
    Meets (ofStringLimits l) v ↔ ∃ t, v = .string t ∧ l.minLength.toNat ≤ t.length ∧
      ∀ max, l.maxLength = some max → t.length ≤ max.toNat := by
  have least (all property) (t : String) :
      checkKeywords all property
        (if 0 < l.minLength then [("minLength", .ofNat l.minLength.toNat)] else [])
        (.string t) = [] ↔ l.minLength.toNat ≤ t.length := by
    by_cases h : 0 < l.minLength
    · rw [if_pos h, checkKeywords_plain (by decide), checkKeywords_nil, List.append_nil,
        checkPlain_minLength]
    · rw [if_neg h]
      refine iff_of_true checkKeywords_nil ?_
      rw [UInt64.lt_iff_toNat_lt, Nat.not_lt] at h
      exact Nat.le_trans h (Nat.zero_le _)
  rw [Meets, ofStringLimits, check, free]
  simp only [List.cons_append]
  refine (checkKeywords_type (n := .string)).trans ?_
  rw [checkKeywords_append, checkKeywords_append, List.append_eq_nil_iff, List.append_eq_nil_iff,
    checkKeywords_bound (by decide), checkKeywords_bound (by decide), holds_string]
  constructor
  · rintro ⟨⟨t, rfl⟩, ⟨hmin, hmax⟩, -⟩
    exact ⟨t, rfl, (least _ _ t).mp hmin, fun max h => checkPlain_maxLength.mp (hmax max h)⟩
  · rintro ⟨t, rfl, hmin, hmax⟩
    refine ⟨⟨t, rfl⟩, ⟨(least _ _ t).mpr hmin, ?_⟩, ?_⟩
    · intro max h
      exact checkPlain_maxLength.mpr (hmax max h)
    · rintro _ ⟨⟩

theorem meets_ofValues {values : List String} :
    Meets (ofValues values) v ↔ ∃ t, v = .string t ∧ t ∈ values := by
  rw [Meets, ofValues, check]
  refine (checkKeywords_type (n := .string)).trans ?_
  rw [checkKeywords_plain (by decide), checkKeywords_nil, List.append_nil, holds_string]
  constructor
  · rintro ⟨⟨t, rfl⟩, h⟩
    refine ⟨t, rfl, ?_⟩
    have met : (values.map Json.string).any (Json.same · (.string t)) = true := demand_eq_nil.mp h
    simpa [Json.same] using met
  · rintro ⟨t, rfl, h⟩
    refine ⟨⟨t, rfl⟩, demand_eq_nil.mpr ?_⟩
    simpa [Json.same] using h

/-! ## Collections, choices and objects -/

theorem checkItems_eq_nil {f : Json → List Violation} {i : Nat} {items : List Json} :
    checkItems f i items = [] ↔ ∀ w ∈ items, f w = [] := by
  induction items generalizing i with
  | nil => exact iff_of_true rfl (List.forall_mem_nil _)
  | cons w rest ih =>
      rw [checkItems, List.append_eq_nil_iff, List.map_eq_nil_iff, ih, List.forall_mem_cons]

/-- An array demands its length, except that at least one item is no demand. -/
theorem meets_collected {a : Arity} {item : Json} (collection : a.isCollection = true) :
    Meets (collected a item) v ↔ ∃ items, v = .array items ∧
      (1 < a.min → a.min.toNat ≤ items.length) ∧
      (∀ m, a.max = some m → items.length ≤ m.toNat) ∧ ∀ w ∈ items, Meets item w := by
  have least (all property) (items : List Json) :
      checkKeywords all property
        (if 1 < a.min then [("minItems", .ofNat a.min.toNat)] else []) (.array items) = [] ↔
      (1 < a.min → a.min.toNat ≤ items.length) := by
    by_cases h : 1 < a.min
    · rw [if_pos h, checkKeywords_plain (by decide), checkKeywords_nil, List.append_nil,
        checkPlain_minItems]
      exact ⟨fun hle _ => hle, fun hle => hle h⟩
    · rw [if_neg h]
      exact iff_of_true checkKeywords_nil fun hlt => absurd hlt h
  rw [Meets, collected, if_pos collection, check]
  simp only [List.cons_append, List.nil_append]
  refine (checkKeywords_type (n := .array)).trans ?_
  rw [checkKeywords, List.append_eq_nil_iff, checkKeywords_append, List.append_eq_nil_iff,
    checkKeywords_bound (by decide), holds_array, checkItems_eq_nil]
  constructor
  · rintro ⟨⟨items, rfl⟩, hitems, hmin, hmax⟩
    exact ⟨items, rfl, (least _ _ items).mp hmin, fun m h => checkPlain_maxItems.mp (hmax m h),
      hitems⟩
  · rintro ⟨items, rfl, hmin, hmax, hitems⟩
    exact ⟨⟨items, rfl⟩, hitems, (least _ _ items).mpr hmin,
      fun m h => checkPlain_maxItems.mpr (hmax m h)⟩

theorem meets_anyOf {schemas : List Json} :
    Meets (.object [("anyOf", .array schemas)]) v ↔ ∃ s ∈ schemas, Meets s v := by
  rw [Meets, check, checkKeywords, checkKeywords_nil, List.append_nil, demand_eq_nil, meetsAny]
  induction schemas with
  | nil =>
      refine iff_of_false (fun h => ?_) (by simp)
      rw [meetsOneOf] at h
      cases h
  | cons s rest ih =>
      rw [meetsOneOf, Bool.or_eq_true, List.isEmpty_iff, ih, List.exists_mem_cons_iff]
      rfl

theorem checkField_eq {properties : List (String × Json)} {name : String} {w : Json} :
    checkField properties name w =
      ((Fields.find? name properties).map (check · w)).getD [] := by
  induction properties with
  | nil => rw [checkField]; rfl
  | cons p rest ih =>
      obtain ⟨n, s⟩ := p
      rw [checkField, Fields.find?]
      by_cases h : n = name
      · rw [if_pos h, if_pos h]
        rfl
      · rw [if_neg h, if_neg h, ih]

theorem checkFields_eq_nil {f : String → Json → List Violation} {fields : List (String × Json)} :
    checkFields f fields = [] ↔ ∀ x ∈ fields, f x.1 x.2 = [] := by
  simp [checkFields, List.flatMap_eq_nil_iff]

theorem mem_requiredNames {members : List Member} {name : String} :
    name ∈ requiredNames members ↔ ∃ m ∈ members, m.type.arity.min ≠ 0 ∧ m.name = name := by
  simp [requiredNames, and_assoc]

theorem checkPlain_required {names : List String} {fields : List (String × Json)} :
    checkPlain "required" (.array (names.map .string)) (.object fields) = [] ↔
      ∀ name ∈ names, ∃ f ∈ fields, f.1 = name := by
  simp only [checkPlain, List.flatMap_map, List.flatMap_eq_nil_iff, demand_eq_nil,
    List.any_eq_true, decide_eq_true_iff]

theorem checkNoFurther_eq_nil {names : List String} {fields : List (String × Json)} :
    checkNoFurther (some names) (.object fields) = [] ↔ ∀ f ∈ fields, f.1 ∈ names := by
  have hfurther : (fields.map (·.1)).filter (· ∉ names) = [] ↔ ∀ f ∈ fields, f.1 ∈ names := by
    simp [List.filter_eq_nil_iff]
  rw [← hfurther, checkNoFurther, fieldsOf]
  cases (fields.map (·.1)).filter (· ∉ names) with
  | nil => exact iff_of_true rfl rfl
  | cons n rest => exact iff_of_false (List.cons_ne_nil _ _) (List.cons_ne_nil _ _)

/-- The list of required names, if there are any. -/
def requiredField (members : List Member) : List (String × Json) :=
  match requiredNames members with
  | [] => []
  | names => [("required", .array (names.map .string))]

theorem checkKeywords_requiredField {all property} {members : List Member}
    {fields : List (String × Json)} :
    checkKeywords all property (requiredField members) (.object fields) = [] ↔
      ∀ m ∈ members, m.type.arity.min ≠ 0 → ∃ f ∈ fields, f.1 = m.name := by
  have names : (∀ m ∈ members, m.type.arity.min ≠ 0 → ∃ f ∈ fields, f.1 = m.name) ↔
      ∀ name ∈ requiredNames members, ∃ f ∈ fields, f.1 = name := by
    constructor
    · intro h name hname
      obtain ⟨m, hm, hmin, rfl⟩ := mem_requiredNames.mp hname
      exact h m hm hmin
    · intro h m hm hmin
      exact h m.name (mem_requiredNames.mpr ⟨m, hm, hmin, rfl⟩)
  rw [names, requiredField]
  cases requiredNames members with
  | nil => exact iff_of_true checkKeywords_nil (List.forall_mem_nil _)
  | cons n rest =>
      rw [checkKeywords_plain (by decide), checkKeywords_nil, List.append_nil,
        checkPlain_required]

/-- Whether further properties are spoken of. -/
def furtherField (exact : Bool) : List (String × Json) :=
  if exact then [("additionalProperties", .bool false)] else []

theorem ofProperties_eq {properties : List (String × Json)} {members : List Member}
    {exact : Bool} :
    ofProperties properties members exact =
      .object (typeField "object" :: ("properties", .object properties) ::
        (requiredField members ++ furtherField exact)) := rfl

section Properties

variable {properties : List (String × Json)} {members : List Member} {exact : Bool}
  {fields : List (String × Json)} {rest : List (String × Json)}

theorem furtherRules_eq :
    furtherRules (typeField "object" :: ("properties", .object properties) ::
      (requiredField members ++ furtherField exact)) = exact := by
  unfold requiredField
  cases requiredNames members <;> cases exact <;> rfl

theorem checkProperty_eq {name : String} {w : Json} :
    checkProperty (typeField "object" :: ("properties", .object properties) :: rest) name w =
      ((Fields.find? name properties).map (check · w)).getD [] := by
  rw [typeField, checkProperty, if_neg (by decide), checkProperty, if_pos rfl, checkNamed,
    checkField_eq]

/-- Fields meet the properties of their names. -/
theorem checkProperty_eq_nil {name : String} {w : Json} :
    checkProperty (typeField "object" :: ("properties", .object properties) :: rest) name w = [] ↔
      ∀ s, Fields.find? name properties = some s → Meets s w := by
  rw [checkProperty_eq]
  cases Fields.find? name properties with
  | none =>
      refine iff_of_true rfl ?_
      rintro _ ⟨⟩
  | some s =>
      constructor
      · rintro h _ ⟨⟩
        exact h
      · intro h
        exact h s rfl

/-- What the properties demand where no further ones are spoken of. -/
theorem properties_eq_nil :
    (properties.flatMap fun p => checkFields
      (checkProperty (typeField "object" :: ("properties", .object properties) :: rest))
      (fields.filter (·.1 = p.1))) = [] ↔
    ∀ f ∈ fields, ∀ s, Fields.find? f.1 properties = some s → Meets s f.2 := by
  simp only [List.flatMap_eq_nil_iff, checkFields_eq_nil, checkProperty_eq_nil, List.mem_filter,
    decide_eq_true_iff]
  constructor
  · intro h f hf s hs
    exact h _ (Fields.mem_of_find? hs) f ⟨hf, rfl⟩ s hs
  · intro h p _ f hf s hs
    exact h f hf.1 s hs

/-- What an exact object demands, by the keyword for further properties alone. -/
theorem further_eq_nil :
    checkFields (checkProperty (typeField "object" :: ("properties", .object properties) :: rest))
        fields ++
      checkNoFurther (propertyNames
        (typeField "object" :: ("properties", .object properties) :: rest)) (.object fields) = [] ↔
    (∀ f ∈ fields, ∀ s, Fields.find? f.1 properties = some s → Meets s f.2) ∧
      ∀ f ∈ fields, f.1 ∈ properties.map (·.1) := by
  have names : propertyNames (typeField "object" :: ("properties", .object properties) :: rest) =
      some (properties.map (·.1)) := rfl
  rw [List.append_eq_nil_iff, checkFields_eq_nil, names, checkNoFurther_eq_nil]
  simp only [checkProperty_eq_nil]

/-- An object demands of its fields what the properties of their names say, and
that the required names are there; an exact one has no other fields. -/
theorem meets_ofProperties :
    Meets (ofProperties properties members exact) v ↔ ∃ fields, v = .object fields ∧
      (∀ f ∈ fields, ∀ s, Fields.find? f.1 properties = some s → Meets s f.2) ∧
      (∀ m ∈ members, m.type.arity.min ≠ 0 → ∃ f ∈ fields, f.1 = m.name) ∧
      (exact = true → ∀ f ∈ fields, f.1 ∈ properties.map (·.1)) := by
  rw [Meets, ofProperties_eq, check]
  refine (checkKeywords_type (n := .object)).trans ?_
  rw [checkKeywords, List.append_eq_nil_iff, checkKeywords_append, List.append_eq_nil_iff,
    furtherRules_eq, holds_object]
  cases exact with
  | true =>
      rw [furtherField, if_pos rfl, if_pos rfl, checkKeywords, checkKeywords_nil, List.append_nil]
      constructor
      · rintro ⟨⟨fields, rfl⟩, -, hrequired, hfurther⟩
        obtain ⟨hproperties, hnames⟩ := further_eq_nil.mp hfurther
        exact ⟨fields, rfl, hproperties, checkKeywords_requiredField.mp hrequired,
          fun _ => hnames⟩
      · rintro ⟨fields, rfl, hproperties, hrequired, hnames⟩
        exact ⟨⟨fields, rfl⟩, rfl, checkKeywords_requiredField.mpr hrequired,
          further_eq_nil.mpr ⟨hproperties, hnames rfl⟩⟩
  | false =>
      rw [furtherField, if_neg Bool.false_ne_true, if_neg Bool.false_ne_true, checkKeywords_nil]
      constructor
      · rintro ⟨⟨fields, rfl⟩, hproperties, hrequired, -⟩
        exact ⟨fields, rfl, properties_eq_nil.mp hproperties,
          checkKeywords_requiredField.mp hrequired, fun h => (Bool.false_ne_true h).elim⟩
      · rintro ⟨fields, rfl, hproperties, hrequired, -⟩
        exact ⟨⟨fields, rfl⟩, properties_eq_nil.mpr hproperties,
          checkKeywords_requiredField.mpr hrequired, rfl⟩

end Properties

end Forms

/-! ## The schemas are schemas -/

section Schemas

variable {ks ls : List (String × Json)}

theorem areKeywords_append :
    areKeywords (ks ++ ls) = (areKeywords ks && areKeywords ls) := by
  induction ks with
  | nil => rw [areKeywords]; rfl
  | cons k rest ih =>
      obtain ⟨name, v⟩ := k
      rw [List.cons_append, areKeywords, areKeywords, ih, Bool.and_assoc]

theorem areKeywords_bound {α : Type} {o : Option α} {keyword : String} {write : α → Json}
    (h : ∀ a, areKeywords [(keyword, write a)] = true) :
    areKeywords (bound keyword o write) = true := by
  cases o with
  | none => rfl
  | some a => exact h a

theorem areKeywords_count {keyword : String} (h : Form.ofKeyword? keyword = some .count)
    (n : Nat) : areKeywords [(keyword, .ofNat n)] = true := by
  have hcount : Form.count.holds (.ofNat n) = true := by
    rw [Form.holds, count?_ofNat]
    rfl
  simp only [areKeywords, h, hcount, Bool.and_true]

theorem isSchema_ofIntLimits {l : IntLimits} : isSchema (ofIntLimits l) = true := by
  show areKeywords ([typeField "integer"] ++ bound "minimum" _ _ ++ bound "maximum" _ _) = true
  rw [areKeywords_append, areKeywords_append, areKeywords_bound fun _ => rfl,
    areKeywords_bound fun _ => rfl]
  rfl

theorem isSchema_ofStringLimits {l : StringLimits} (free : l.expression = none) :
    isSchema (ofStringLimits l) = true := by
  have least : areKeywords
      (if 0 < l.minLength then [("minLength", .ofNat l.minLength.toNat)] else []) = true := by
    by_cases h : 0 < l.minLength
    · rw [if_pos h]
      exact areKeywords_count rfl _
    · rw [if_neg h]
      rfl
  have most : areKeywords (bound "maxLength" l.maxLength (.ofNat ·.toNat)) = true :=
    areKeywords_bound fun _ => areKeywords_count rfl _
  rw [ofStringLimits, free, isSchema, areKeywords_append, areKeywords_append,
    ← List.singleton_append, areKeywords_append, least, most]
  rfl

theorem isSchema_ofValues {values : List String} : isSchema (ofValues values) = true := rfl

theorem isSchema_collected {a : Arity} {item : Json} (h : isSchema item = true) :
    isSchema (collected a item) = true := by
  have least : areKeywords
      (if 1 < a.min then [("minItems", .ofNat a.min.toNat)] else []) = true := by
    by_cases h : 1 < a.min
    · rw [if_pos h]
      exact areKeywords_count rfl _
    · rw [if_neg h]
      rfl
  have most : areKeywords (bound "maxItems" a.max (.ofNat ·.toNat)) = true :=
    areKeywords_bound fun _ => areKeywords_count rfl _
  have items : areKeywords [typeField "array", ("items", item)] = true := by
    show (isSchema item && true) = true
    rw [h]
    rfl
  unfold collected
  split
  · rw [isSchema, areKeywords_append, areKeywords_append, least, most, items]
    rfl
  · exact h

theorem areSchemas_eq_true {schemas : List Json} :
    areSchemas schemas = true ↔ ∀ s ∈ schemas, isSchema s = true := by
  induction schemas with
  | nil => exact iff_of_true rfl (List.forall_mem_nil _)
  | cons s rest ih => rw [areSchemas, Bool.and_eq_true, ih, List.forall_mem_cons]

theorem areFieldSchemas_eq_true {fields : List (String × Json)} :
    areFieldSchemas fields = true ↔ ∀ p ∈ fields, isSchema p.2 = true := by
  induction fields with
  | nil => exact iff_of_true rfl (List.forall_mem_nil _)
  | cons p rest ih => rw [areFieldSchemas, Bool.and_eq_true, ih, List.forall_mem_cons]

theorem isSchema_anyOf {schemas : List Json} (inhabited : schemas ≠ [])
    (h : ∀ s ∈ schemas, isSchema s = true) :
    isSchema (.object [("anyOf", .array schemas)]) = true := by
  show (isSchemaList (.array schemas) && true) = true
  cases schemas with
  | nil => exact absurd rfl inhabited
  | cons s rest =>
      rw [isSchemaList, areSchemas_eq_true.mpr h]
      · rfl
      · exact inhabited

theorem names?_strings {names : List String} (distinct : names.Nodup) :
    names? (.array (names.map .string)) = some names := by
  have strings {read : Json → Option String} (hread : ∀ n, read (.string n) = some n) :
      (names.map Json.string).mapM read = some names := by
    clear distinct
    induction names with
    | nil => rfl
    | cons n rest ih =>
        rw [List.map_cons, List.mapM_cons, ih, hread]
        rfl
  rw [names?, strings fun _ => rfl]
  exact if_pos distinct

/-- Where members have distinct names, so are the required ones. -/
theorem nodup_requiredNames {members : List Member} (distinct : (members.map (·.name)).Nodup) :
    (requiredNames members).Nodup := by
  unfold requiredNames
  rw [(List.mergeSort_perm _ _).nodup_iff]
  exact distinct.sublist (List.filter_sublist.map _)

theorem isSchema_ofProperties {properties : List (String × Json)} {members : List Member}
    {exact : Bool} (distinct : (members.map (·.name)).Nodup)
    (h : ∀ p ∈ properties, isSchema p.2 = true) :
    isSchema (ofProperties properties members exact) = true := by
  have required : areKeywords (requiredField members) = true := by
    have hnames := names?_strings (nodup_requiredNames distinct)
    unfold requiredField
    cases hr : requiredNames members with
    | nil => rfl
    | cons n rest =>
        rw [hr] at hnames
        show ((names? _).isSome && true) = true
        rw [hnames]
        rfl
  have further : areKeywords (furtherField exact) = true := by
    cases exact <;> rfl
  rw [ofProperties_eq, isSchema]
  show (areFieldSchemas properties && areKeywords _) = true
  rw [areFieldSchemas_eq_true.mpr h, areKeywords_append, required, further]
  rfl

end Schemas

end JsonSchema
end TypeSchema
