/-
# JSON forms of descriptors

A descriptor is written as one object, whose fields are put together from the
arity, the kind and, within a list of members, the name.  No two of these share
a field name, so each is found again by itself (`areFieldsOf`), and what
is left out is read as left out.  The members and alternatives are read before,
so this goes on to the innermost descriptor, and the JSON form stands for the
descriptor (`ofJson_toJson`).  Its text is read back where its numbers are and
it does not nest too deeply (`ofChars_text_eq_ok`).
-/
import TypeSchema.Descriptor.Json
import TypeSchema.Proofs.Arity
import TypeSchema.Proofs.Descriptor.Parts
import TypeSchema.Proofs.Json.Text

namespace TypeSchema.Descriptor

open Json (compact HasReadBack)

/-! ## Single fields -/

section Fields

variable {α : Type} {name : String} {fields : List (String × Json)} {read : Json → Option α}
  {write : α → Json} {v : Option α}

theorem filter_optionalField (n : String) :
    (optionalField n v write).filter (·.1 = name) =
      if n = name then optionalField n v write else [] := by
  cases v with
  | none => simp [optionalField]
  | some a => by_cases h : n = name <;> simp [optionalField, h]

/-- What is written of a value is read as it, and is not null. -/
def Restores (read : Json → Option α) (write : α → Json) (a : α) : Prop :=
  read (write a) = some a ∧ write a ≠ .null

/-- A field that was written if there was a value is read as it. -/
theorem optional_of_filter (h : fields.filter (·.1 = name) = optionalField name v write)
    (back : ∀ a, v = some a → Restores read write a) :
    optional read fields name = some v := by
  unfold optional once
  rw [h]
  cases v with
  | none => rfl
  | some a =>
      obtain ⟨hread, there⟩ := back a rfl
      simp only [optionalField, hread]
      rfl

theorem required_of_filter {j : Json} (h : fields.filter (·.1 = name) = [(name, j)]) :
    required read fields name = read j := by
  unfold required once
  rw [h]

theorem switch_of_filter {b : Bool} (h : fields.filter (·.1 = name) = [(name, .bool b)]) :
    switch fields name = some b := by
  unfold switch once
  rw [h]

end Fields

/-! ## Single values -/

theorem restores_int64 (i : Int64) : Restores readInt64 int64Json i := by
  have lo := i.le_toInt
  have hi := i.toInt_lt
  have fits : -(Numeral.max63 : Int) - 1 ≤ i.toInt ∧ i.toInt ≤ Numeral.max63 := by
    simp only [Numeral.max63]
    omega
  simp [Restores, readInt64, int64Json, Json.ofInt, readInt, fits]

theorem restores_uint64 (n : UInt64) : Restores readUInt64 (.ofNat ·.toNat) n := by
  have hi := n.toNat_lt
  have fits : (n.toNat : Int) ≤ Numeral.max64 := by
    simp only [Numeral.max64]
    omega
  simp [Restores, readUInt64, Json.ofNat, readInt, fits]

theorem restores_uint8 (n : UInt8) : Restores readUInt8 (.ofNat ·.toNat) n := by
  have hi := n.toNat_lt
  have fits : (n.toNat : Int) ≤ 255 := by omega
  simp [Restores, readUInt8, Json.ofNat, readInt, fits]

theorem restores_double {d : Double} (finite : d.isFinite = true) :
    Restores readDouble .ofDouble d := by
  simp [Restores, readDouble, Json.ofDouble, finite, Json.Number.toDouble]

theorem restores_string (s : String) : Restores readString .string s := ⟨rfl, by simp⟩

theorem restores_strings (items : List String) : Restores readStrings stringsJson items := by
  refine ⟨?_, by simp [stringsJson]⟩
  rw [stringsJson, readStrings]
  induction items with
  | nil => rfl
  | cons s items ih => simp_all [readString]

theorem restores_arity (a : Arity) : Restores readArity (.string ·.text) a := by
  refine ⟨?_, by simp⟩
  rw [readArity, a.ofChars_text]
  rfl

/-! ## Kinds -/

/-- The bounds of a kind of numbers. -/
def Shape.bounds : Shape → List Double
  | .number l => l.min.toList ++ l.max.toList
  | _ => []

/-- The form of a written kind. -/
def Shape.form : Shape → Form
  | .bool => .fundamental .bool
  | .int _ => .fundamental .int
  | .number _ => .fundamental .number
  | .string _ _ _ => .fundamental .string
  | .enumeration _ => .fundamental .enumeration
  | .date => .fundamental .date
  | .time => .fundamental .time
  | .dateTime => .fundamental .dateTime
  | .duration => .fundamental .duration
  | .guid => .fundamental .guid
  | .uri => .fundamental .uri
  | .filename _ => .fundamental .filename
  | .directory _ => .fundamental .directory
  | .object _ _ => .object
  | .dict _ _ => .dict
  | .anyOf _ => .anyOf

/-- Nothing but a name, if anything. -/
def IsHead (head : List (String × Json)) : Prop :=
  head = [] ∨ ∃ n, head = [("name", .string n)]

attribute [local simp] shapeFields kindField filter_optionalField readShape Shape.form

section Kinds

variable {head : List (String × Json)} (hhead : IsHead head) {arity : Option Arity} {s : Shape}
include hhead

/-- Name and arity apart, the fields of a descriptor are those of its kind. -/
theorem filter_fields {name : String} (other : name ≠ "name" ∧ name ≠ "arity") :
    (head ++ fields (.mk arity s)).filter (·.1 = name) = (shapeFields s).filter (·.1 = name) := by
  have none : head.filter (·.1 = name) = [] := by
    rcases hhead with rfl | ⟨n, rfl⟩
    · rfl
    · simp [other.1.symm]
  rw [List.filter_append, none, List.nil_append, fields, List.filter_append, filter_optionalField,
    if_neg other.2.symm, List.nil_append]

theorem optional_arity :
    optional readArity (head ++ fields (.mk arity s)) "arity" = some arity := by
  refine optional_of_filter ?_ fun a _ => restores_arity a
  rcases hhead with rfl | ⟨n, rfl⟩ <;> cases s <;> simp [fields]

theorem required_kind :
    required Form.ofJson (head ++ fields (.mk arity s)) "kind" = some s.form := by
  have kind : (shapeFields s).filter (·.1 = "kind") = [("kind", .string s.form.keyword)] := by
    cases s <;> simp [Form.keyword, Fundamental.keyword]
  rw [required_of_filter ((filter_fields hhead (by decide)).trans kind)]
  cases s <;> rfl

theorem optional_fields {α : Type} {name : String} {read : Json → Option α} {write : α → Json}
    {v : Option α} (other : name ≠ "name" ∧ name ≠ "arity")
    (there : (shapeFields s).filter (·.1 = name) = optionalField name v write)
    (back : ∀ a, v = some a → Restores read write a) :
    optional read (head ++ fields (.mk arity s)) name = some v :=
  optional_of_filter ((filter_fields hhead other).trans there) back

theorem required_fields {α : Type} {name : String} {read : Json → Option α} {write : α → Json}
    {a : α} (other : name ≠ "name" ∧ name ≠ "arity")
    (there : (shapeFields s).filter (·.1 = name) = [(name, write a)])
    (back : Restores read write a) :
    required read (head ++ fields (.mk arity s)) name = some a := by
  rw [required_of_filter ((filter_fields hhead other).trans there)]
  exact back.1

theorem switch_fields {name : String} {b : Bool} (other : name ≠ "name" ∧ name ≠ "arity")
    (there : (shapeFields s).filter (·.1 = name) = [(name, .bool b)]) :
    switch (head ++ fields (.mk arity s)) name = some b :=
  switch_of_filter ((filter_fields hhead other).trans there)

variable {parts : Option (List Part)} {alternatives : Option (List Descriptor)}

theorem readShape_int {l : IntLimits} :
    readShape (head ++ fields (.mk arity (.int l))) parts alternatives (.fundamental .int) =
      some (.int l) := by
  have min : optional readInt64 (head ++ fields (.mk arity (.int l))) "min" = some l.min :=
    optional_fields hhead (by decide) (by simp)
      fun i _ => restores_int64 i
  have max : optional readInt64 (head ++ fields (.mk arity (.int l))) "max" = some l.max :=
    optional_fields hhead (by decide) (by simp)
      fun i _ => restores_int64 i
  have bytes : optional readUInt8 (head ++ fields (.mk arity (.int l))) "bytes" = some l.bytes :=
    optional_fields hhead (by decide) (by simp)
      fun n _ => restores_uint8 n
  simp [min, max, bytes]

theorem readShape_number {l : NumberLimits}
    (finite : ∀ b ∈ Shape.bounds (.number l), b.isFinite = true) :
    readShape (head ++ fields (.mk arity (.number l))) parts alternatives (.fundamental .number) =
      some (.number l) := by
  have min : optional readDouble (head ++ fields (.mk arity (.number l))) "min" = some l.min :=
    optional_fields hhead (by decide) (by simp)
      fun b hb => restores_double (finite b (by simp [Shape.bounds, hb]))
  have max : optional readDouble (head ++ fields (.mk arity (.number l))) "max" = some l.max :=
    optional_fields hhead (by decide) (by simp)
      fun b hb => restores_double (finite b (by simp [Shape.bounds, hb]))
  simp [min, max]

theorem readShape_string {expression : Option String} {least most : Option UInt64} :
    readShape (head ++ fields (.mk arity (.string expression least most))) parts alternatives
      (.fundamental .string) = some (.string expression least most) := by
  have pattern : optional readString (head ++ fields (.mk arity (.string expression least most)))
      "validation_expression" = some expression :=
    optional_fields hhead (by decide) (by simp)
      fun e _ => restores_string e
  have min : optional readUInt64 (head ++ fields (.mk arity (.string expression least most)))
      "min_length" = some least :=
    optional_fields hhead (by decide) (by simp)
      fun n _ => restores_uint64 n
  have max : optional readUInt64 (head ++ fields (.mk arity (.string expression least most)))
      "max_length" = some most :=
    optional_fields hhead (by decide) (by simp)
      fun n _ => restores_uint64 n
  simp [pattern, min, max]

theorem readShape_enumeration {l : EnumLimits} :
    readShape (head ++ fields (.mk arity (.enumeration l))) parts alternatives
      (.fundamental .enumeration) = some (.enumeration l) := by
  have values : required readStrings (head ++ fields (.mk arity (.enumeration l))) "values" =
      some l.values :=
    required_fields hhead (by decide) (by simp)
      (restores_strings l.values)
  have friendly : optional readStrings (head ++ fields (.mk arity (.enumeration l)))
      "friendly_values" = some l.friendly :=
    optional_fields hhead (by decide) (by simp)
      fun items _ => restores_strings items
  simp [values, friendly]

/-- A kind is read from its fields, once its parts have been read. -/
theorem readShape_fields (finite : ∀ b ∈ s.bounds, b.isFinite = true)
    (hparts : ∀ ps exact, s = .object ps exact ∨ s = .dict ps exact → parts = some ps)
    (halternatives : ∀ ds, s = .anyOf ds → alternatives = some ds) :
    readShape (head ++ fields (.mk arity s)) parts alternatives s.form = some s := by
  cases s with
  | int l => exact readShape_int hhead
  | number l => exact readShape_number hhead finite
  | string expression least most => exact readShape_string hhead
  | enumeration l => exact readShape_enumeration hhead
  | filename l =>
      have there : switch (head ++ fields (.mk arity (.filename l))) "ensure_exists" =
          some l.ensureExists :=
        switch_fields hhead (by decide) (by simp)
      have any : switch (head ++ fields (.mk arity (.filename l))) "match_any" = some l.matchAny :=
        switch_fields hhead (by decide) (by simp)
      simp [there, any]
  | directory e =>
      have there : switch (head ++ fields (.mk arity (.directory e))) "ensure_exists" = some e :=
        switch_fields hhead (by decide) (by simp)
      simp [there]
  | object ps exact =>
      have strict : switch (head ++ fields (.mk arity (.object ps exact))) "require_exact_match" =
          some exact :=
        switch_fields hhead (by decide) (by simp)
      simp [hparts ps exact (.inl rfl), strict]
  | dict ps exact =>
      have strict : switch (head ++ fields (.mk arity (.dict ps exact))) "require_exact_match" =
          some exact :=
        switch_fields hhead (by decide) (by simp)
      simp [hparts ps exact (.inr rfl), strict]
  | anyOf ds => simp [halternatives ds rfl]
  | _ => rfl

theorem readMembers_fields {ps : List Part} {exact : Bool}
    (h : s = .object ps exact ∨ s = .dict ps exact) :
    readMembers (head ++ fields (.mk arity s)) = readParts (partsJson ps) := by
  rcases hhead with rfl | ⟨n, rfl⟩ <;> rcases h with rfl | rfl <;> cases arity <;>
    simp [fields, optionalField, readMembers, alone, readPartList]

theorem readAlternatives_fields {ds : List Descriptor} :
    readAlternatives (head ++ fields (.mk arity (.anyOf ds))) =
      readDescriptors (alternativesJson ds) := by
  rcases hhead with rfl | ⟨n, rfl⟩ <;> cases arity <;>
    simp [fields, optionalField, readAlternatives, alone,
      readDescriptorList]

end Kinds

/-! ## Descriptors -/

/-- The fields of an object are read as the descriptor. -/
def AreFieldsOf (fs : List (String × Json)) (d : Descriptor) : Prop :=
  readFields fs (readMembers fs) (readAlternatives fs) = some d

/-- The name of a member is found in front of its type. -/
theorem required_name (n : String) (d : Descriptor) :
    required readString (("name", .string n) :: d.fields) "name" = some n := by
  -- Whatever the kind, a type has no field of this name.
  have other : d.fields.filter (·.1 = "name") = [] := by
    obtain ⟨arity, shape⟩ := d
    rw [fields, List.filter_append, filter_optionalField]
    cases shape <;> simp
  have alone : (("name", .string n) :: d.fields).filter (·.1 = "name") = [("name", .string n)] := by
    rw [List.filter_cons_of_pos (by simp), other]
  rw [required_of_filter alone]
  rfl

theorem readParts_partsJson {ps : List Part}
    (each : ∀ d ∈ ps.map (·.type), ∀ head, IsHead head → AreFieldsOf (head ++ d.fields) d) :
    readParts (partsJson ps) = some ps := by
  induction ps with
  | nil => rw [partsJson, readParts]
  | cons p ps ih =>
      obtain ⟨n, d⟩ := p
      obtain ⟨first, each⟩ := List.forall_mem_cons.mp each
      have type : AreFieldsOf (("name", .string n) :: d.fields) d := first _ (.inr ⟨n, rfl⟩)
      have part : readPart (.object (("name", .string n) :: d.fields)) = some (.mk n d) := by
        rw [readPart, required_name, type]
        rfl
      rw [partsJson, readParts, part, ih each]
      rfl

theorem readDescriptors_alternativesJson {ds : List Descriptor}
    (each : ∀ d ∈ ds, ∀ head, IsHead head → AreFieldsOf (head ++ d.fields) d) :
    readDescriptors (alternativesJson ds) = some ds := by
  induction ds with
  | nil => rw [alternativesJson, readDescriptors]
  | cons d ds ih =>
      obtain ⟨first, each⟩ := List.forall_mem_cons.mp each
      have type : AreFieldsOf d.fields d := first [] (.inl rfl)
      rw [alternativesJson, readDescriptors, ofJson, type, ih each]
      rfl

/-- The fields of a descriptor are read as it, with a name in front or without. -/
theorem areFieldsOf {d : Descriptor}
    (finite : d.Throughout fun e => ∀ b ∈ e.shape.bounds, b.isFinite = true) :
    ∀ head, IsHead head → AreFieldsOf (head ++ d.fields) d := by
  induction finite with
  | @intro d here _ ih =>
      obtain ⟨arity, s⟩ := d
      intro head hhead
      -- Members and alternatives are looked for before the kind is known.
      have members : ∀ ps exact, s = .object ps exact ∨ s = .dict ps exact →
          readMembers (head ++ fields (.mk arity s)) = some ps := by
        intro ps exact h
        rw [readMembers_fields hhead h]
        refine readParts_partsJson fun d hd => ih d ?_
        rcases h with rfl | rfl <;> exact hd
      have alternatives : ∀ ds, s = .anyOf ds →
          readAlternatives (head ++ fields (.mk arity s)) = some ds := by
        rintro ds rfl
        rw [readAlternatives_fields hhead]
        exact readDescriptors_alternativesJson ih
      have shape : readShape (head ++ fields (.mk arity s)) _ _ s.form = some s :=
        readShape_fields hhead here members alternatives
      rw [AreFieldsOf, readFields, optional_arity hhead, required_kind hhead]
      simp only [Option.bind_eq_bind, Option.bind_some, shape]
      rfl

/-- The JSON form of a descriptor with finite bounds stands for it. -/
theorem ofJson_toJson {d : Descriptor}
    (finite : d.Throughout fun e => ∀ b ∈ e.shape.bounds, b.isFinite = true) :
    ofJson d.toJson = some d := by
  rw [toJson, ofJson]
  exact areFieldsOf finite [] (.inl rfl)

/-! ## Texts -/

/-- Nothing in the values of the fields keeps their text from being read. -/
def ReadBack (fs : List (String × Json)) : Prop := ∀ j ∈ fs.map (·.2), j.Throughout HasReadBack

theorem readBack_cons {n : String} {j : Json} {fs : List (String × Json)} :
    ReadBack ((n, j) :: fs) ↔ j.Throughout HasReadBack ∧ ReadBack fs := List.forall_mem_cons

theorem readBack_append {fs gs : List (String × Json)} :
    ReadBack (fs ++ gs) ↔ ReadBack fs ∧ ReadBack gs := by
  rw [ReadBack, List.map_append, List.forall_mem_append]
  rfl

theorem readBack_optionalField {α : Type} {name : String} {v : Option α} {write : α → Json}
    (h : ∀ a, v = some a → (write a).Throughout HasReadBack) :
    ReadBack (optionalField name v write) := by
  cases v with
  | none => exact List.forall_mem_nil _
  | some a => exact List.forall_mem_singleton.mpr (h a rfl)

theorem throughout_string (s : String) : (Json.string s).Throughout HasReadBack := .flat nofun rfl

theorem throughout_bool (b : Bool) : (Json.bool b).Throughout HasReadBack := .flat nofun rfl

theorem throughout_strings (items : List String) : (stringsJson items).Throughout HasReadBack :=
  .intro nofun (List.forall_mem_map.mpr fun s _ => throughout_string s)

theorem throughout_int64 (i : Int64) : (int64Json i).Throughout HasReadBack := by
  have lo := i.le_toInt
  have hi := i.toInt_lt
  refine .flat (Json.hasReadBack_ofInt ?_ ?_) rfl <;> simp only [Numeral.max63, Numeral.max64] <;>
    omega

theorem throughout_ofNat {n : Nat} (h : n < 2 ^ 64) : (Json.ofNat n).Throughout HasReadBack :=
  .flat (Json.hasReadBack_ofNat (Nat.le_of_lt_succ h)) rfl

theorem partsJson_eq (ps : List Part) :
    partsJson ps = ps.map fun p => .object (("name", .string p.name) :: p.type.fields) := by
  induction ps with
  | nil => rw [partsJson, List.map_nil]
  | cons p ps ih =>
      obtain ⟨n, d⟩ := p
      rw [partsJson, ih]
      rfl

theorem alternativesJson_eq (ds : List Descriptor) :
    alternativesJson ds = ds.map fun d => .object d.fields := by
  induction ds with
  | nil => rw [alternativesJson, List.map_nil]
  | cons d ds ih => rw [alternativesJson, ih, List.map_cons]

theorem throughout_partsJson {ps : List Part} (each : ∀ d ∈ ps.map (·.type), ReadBack d.fields) :
    (Json.array (partsJson ps)).Throughout HasReadBack := by
  refine .intro nofun ?_
  rw [Json.parts, partsJson_eq]
  refine List.forall_mem_map.mpr fun p hp => .intro nofun (List.forall_mem_cons.mpr ⟨?_, ?_⟩)
  · exact throughout_string p.name
  · exact each p.type (List.mem_map_of_mem hp)

theorem throughout_alternativesJson {ds : List Descriptor} (each : ∀ d ∈ ds, ReadBack d.fields) :
    (Json.array (alternativesJson ds)).Throughout HasReadBack := by
  refine .intro nofun ?_
  rw [Json.parts, alternativesJson_eq]
  exact List.forall_mem_map.mpr fun d hd => .intro nofun (each d hd)

theorem readBack_shapeFields {s : Shape} (numbers : ∀ b ∈ s.bounds, (Json.ofDouble b).HasReadBack)
    (inside : ∀ d ∈ s.parts, ReadBack d.fields) : ReadBack (shapeFields s) := by
  cases s with
  | int l =>
      simp only [shapeFields, kindField, List.cons_append, readBack_cons, readBack_append]
      exact ⟨throughout_string _, ⟨readBack_optionalField fun i _ => throughout_int64 i,
        readBack_optionalField fun i _ => throughout_int64 i⟩,
        readBack_optionalField fun n _ => throughout_ofNat (n.toNat_lt.trans (by decide))⟩
  | number l =>
      have double : ∀ b ∈ Shape.bounds (.number l), (Json.ofDouble b).Throughout HasReadBack := by
        intro b hb
        refine .flat (numbers b hb) ?_
        unfold Json.ofDouble
        split <;> rfl
      simp only [shapeFields, kindField, List.cons_append, readBack_cons, readBack_append]
      exact ⟨throughout_string _,
        readBack_optionalField fun b hb => double b (by simp [Shape.bounds, hb]),
        readBack_optionalField fun b hb => double b (by simp [Shape.bounds, hb])⟩
  | string expression least most =>
      simp only [shapeFields, kindField, List.cons_append, readBack_cons, readBack_append]
      exact ⟨throughout_string _, ⟨readBack_optionalField fun e _ => throughout_string e,
        readBack_optionalField fun n _ => throughout_ofNat n.toNat_lt⟩,
        readBack_optionalField fun n _ => throughout_ofNat n.toNat_lt⟩
  | enumeration l =>
      simp only [shapeFields, kindField, readBack_cons]
      exact ⟨throughout_string _, throughout_strings l.values,
        readBack_optionalField fun items _ => throughout_strings items⟩
  | filename l =>
      simp only [shapeFields, kindField, readBack_cons]
      exact ⟨throughout_string _, throughout_bool _, throughout_bool _, List.forall_mem_nil _⟩
  | directory e =>
      simp only [shapeFields, kindField, readBack_cons]
      exact ⟨throughout_string _, throughout_bool e, List.forall_mem_nil _⟩
  | object ps exact | dict ps exact =>
      simp only [shapeFields, kindField, readBack_cons]
      exact ⟨throughout_string _, throughout_partsJson inside, throughout_bool exact,
        List.forall_mem_nil _⟩
  | anyOf ds =>
      simp only [shapeFields, kindField, readBack_cons]
      exact ⟨throughout_string _, throughout_alternativesJson inside, List.forall_mem_nil _⟩
  | _ => exact List.forall_mem_singleton.mpr (throughout_string _)

/-- Each value within the JSON form is read back, if the bounds are. -/
theorem throughout_toJson {d : Descriptor}
    (numbers : d.Throughout fun e => ∀ b ∈ e.shape.bounds, (Json.ofDouble b).HasReadBack) :
    d.toJson.Throughout HasReadBack := by
  have fields : ReadBack d.fields := by
    induction numbers with
    | @intro d here _ ih =>
        obtain ⟨arity, s⟩ := d
        rw [Descriptor.fields, readBack_append]
        exact ⟨readBack_optionalField fun a _ => throughout_string a.text,
          readBack_shapeFields here ih⟩
  exact .intro nofun fields

/-- The text of a descriptor is read as it, if its bounds are finite, each of
them is read back where it stands alone, and values do not nest too deeply.  Not
every finite double is read back: reading rounds its digits and their power of
ten one after the other. -/
theorem ofChars_text_eq_ok {d : Descriptor}
    (numbers : d.Throughout fun e => ∀ b ∈ e.shape.bounds, b.isFinite = true ∧
      Json.ofChars (compact (.ofDouble b)).toList = some (.ofDouble b))
    (h : d.toJson.depth ≤ 127) : ofChars d.text.toList = .ok d := by
  have finite : d.Throughout fun e => ∀ b ∈ e.shape.bounds, b.isFinite = true :=
    numbers.mono fun e back b hb => (back b hb).1
  have back : d.toJson.Throughout HasReadBack :=
    throughout_toJson <| numbers.mono fun e back b hb =>
      Json.hasReadBack_ofDouble (back b hb).1 (back b hb).2
  rw [ofChars, text, Json.ofChars_compact back h, Option.bind_some, ofJson_toJson finite]

/-- A class with names and texts that have to be escaped, beside numbers and
arities within a choice. -/
theorem ofChars_text_eq_ok_class :
    let level : Descriptor := .mk (some .optional)
      (.number ⟨some (.ofDecimal true 25 (-1)), some (.ofDecimal false 22 (-1))⟩)
    let port : Descriptor := .mk (some ⟨2, some 5, by simp⟩) (.int ⟨some (-1), none, some 8⟩)
    let mode : Descriptor := .mk none
      (.enumeration ⟨["a\"b", "c\\d", "e\tf"], some ["größer", "→", "𝄞"]⟩)
    let label : Descriptor := .mk none (.string (some "^\\d+\n$") (some 2) none)
    let d : Descriptor := .mk none (.object
      [.mk "kind" (.mk none (.anyOf [level, port])), .mk "na\\me" mode, .mk "\x01ß" label] true)
    ofChars d.text.toList = .ok d := by
  intro level port mode label d
  have bounds : ∀ b ∈ level.shape.bounds, b.isFinite = true ∧
      Json.ofChars (compact (.ofDouble b)).toList = some (.ofDouble b) := by
    have back : ∀ b ∈ level.shape.bounds, b.isFinite = true ∧
        Json.readNumber (Json.numberLayout.text b).toList = some (.float b) := by
      decide +kernel
    intro b hb
    obtain ⟨finite, read⟩ := back b hb
    rw [Json.ofChars_ofDouble finite, read, Json.ofDouble_of_isFinite finite]
    exact ⟨finite, rfl⟩
  have flat : ∀ e : Descriptor, e.shape.bounds = [] → e.shape.parts = [] →
      e.Throughout fun e => ∀ b ∈ e.shape.bounds, b.isFinite = true ∧
        Json.ofChars (compact (.ofDouble b)).toList = some (.ofDouble b) := by
    intro e none partless
    exact .intro (none ▸ List.forall_mem_nil _) (partless ▸ List.forall_mem_nil _)
  refine ofChars_text_eq_ok (.intro (List.forall_mem_nil _) ?_) (by decide)
  refine List.forall_mem_cons.mpr ⟨.intro (List.forall_mem_nil _) ?_, List.forall_mem_cons.mpr
    ⟨flat mode rfl rfl, List.forall_mem_singleton.mpr (flat label rfl rfl)⟩⟩
  exact List.forall_mem_cons.mpr ⟨.intro bounds (List.forall_mem_nil _),
    List.forall_mem_singleton.mpr (flat port rfl rfl)⟩

end TypeSchema.Descriptor
