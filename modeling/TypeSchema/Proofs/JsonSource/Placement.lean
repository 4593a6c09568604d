/-
# Placement — what a JSON value says does not depend on where it stands

Each value of a JSON text knows at which character it starts, and so does
each entry of a source.  Reading passes that number on and never looks at it:
without starts (`Json.Raw.unplaced`) the same strings, headers and entries
are read.  The lemmas go from values to records, headers and entries.
-/
import TypeSchema.JsonSource

namespace TypeSchema

open Json (Raw)

/-! ## Values and entries without starts -/

namespace Json

mutual

/-- The value as if everything in it stood at the start of the text. -/
def Raw.unplaced : Raw → Raw
  | .null _ => .null 0
  | .bool _ b => .bool 0 b
  | .number _ cs => .number 0 cs
  | .string _ body => .string 0 body
  | .array _ items => .array 0 (Raw.unplacedItems items)
  | .object _ fields => .object 0 (Raw.unplacedFields fields)

/-- The items of an array without starts. -/
def Raw.unplacedItems : List Raw → List Raw
  | [] => []
  | v :: rest => v.unplaced :: Raw.unplacedItems rest

/-- The fields of an object without starts. -/
def Raw.unplacedFields : List (List Char × Raw) → List (List Char × Raw)
  | [] => []
  | (name, v) :: rest => (name, v.unplaced) :: Raw.unplacedFields rest

end

theorem Raw.unplacedItems_eq (items : List Raw) : unplacedItems items = items.map unplaced := by
  induction items with
  | nil => rfl
  | cons v items ih => rw [unplacedItems, ih, List.map_cons]

/-- A field without starts. -/
def unplacedField (field : List Char × Raw) : List Char × Raw := (field.1, field.2.unplaced)

theorem Raw.unplacedFields_eq (fields : List (List Char × Raw)) :
    unplacedFields fields = fields.map unplacedField := by
  induction fields with
  | nil => rfl
  | cons field fields ih => rw [unplacedFields, ih, List.map_cons, unplacedField]

/-! ## Equality of values -/

mutual

/-- The values are the same and stand in the same place. -/
def Raw.same : Raw → Raw → Bool
  | .null s, .null t => s == t
  | .bool s b, .bool t c => s == t && b == c
  | .number s cs, .number t ds => s == t && cs == ds
  | .string s cs, .string t ds => s == t && cs == ds
  | .array s vs, .array t ws => s == t && Raw.sameItems vs ws
  | .object s vs, .object t ws => s == t && Raw.sameFields vs ws
  | _, _ => false

/-- The items are the same, one by one. -/
def Raw.sameItems : List Raw → List Raw → Bool
  | [], [] => true
  | v :: vs, w :: ws => v.same w && Raw.sameItems vs ws
  | _, _ => false

/-- The fields are the same, one by one. -/
def Raw.sameFields : List (List Char × Raw) → List (List Char × Raw) → Bool
  | [], [] => true
  | (n, v) :: vs, (m, w) :: ws => n == m && v.same w && Raw.sameFields vs ws
  | _, _ => false

end

mutual

theorem Raw.same_iff (v w : Raw) : v.same w = true ↔ v = w := by
  cases v <;> cases w <;> simp [Raw.same, Raw.sameItems_iff, Raw.sameFields_iff]

theorem Raw.sameItems_iff (vs ws : List Raw) : Raw.sameItems vs ws = true ↔ vs = ws := by
  match vs, ws with
  | [], [] => simp [Raw.sameItems]
  | [], _ :: _ => simp [Raw.sameItems]
  | _ :: _, [] => simp [Raw.sameItems]
  | v :: vs, w :: ws => simp [Raw.sameItems, Raw.same_iff v w, Raw.sameItems_iff vs ws]

theorem Raw.sameFields_iff (vs ws : List (List Char × Raw)) :
    Raw.sameFields vs ws = true ↔ vs = ws := by
  match vs, ws with
  | [], [] => simp [Raw.sameFields]
  | [], _ :: _ => simp [Raw.sameFields]
  | _ :: _, [] => simp [Raw.sameFields]
  | (n, v) :: vs, (m, w) :: ws =>
      simp [Raw.sameFields, Raw.same_iff v w, Raw.sameFields_iff vs ws]

end

instance : DecidableEq Raw := fun v w => decidable_of_iff _ (Raw.same_iff v w)

end Json

namespace JsonSource

mutual

/-- The entry as if everything in it stood at the start of the text. -/
def Entry.unplaced : Entry → Entry
  | .unreadable _ => .unreadable 0
  | .mk _ header members => .mk 0 header (Entry.unplacedAll members)

/-- Entries without starts. -/
def Entry.unplacedAll : List Entry → List Entry
  | [] => []
  | e :: rest => e.unplaced :: Entry.unplacedAll rest

end

end JsonSource

/-! ## Records -/

namespace Json

theorem Raw.string?_unplaced (v : Raw) : v.unplaced.string? = v.string? := by
  cases v <;> rfl

theorem Raw.items?_unplaced (v : Raw) :
    v.unplaced.items? = v.items?.map (·.map Raw.unplaced) := by
  cases v with
  | array start items => exact congrArg some (Raw.unplacedItems_eq items)
  | null start => rfl
  | bool start b => rfl
  | number start cs => rfl
  | string start body => rfl
  | object start fields => rfl

mutual

theorem Raw.read_unplaced (depth : Nat) : ∀ v : Raw, v.unplaced.read depth = v.read depth
  | .null _ => rfl
  | .bool _ _ => rfl
  | .number _ _ => rfl
  | .string _ _ => rfl
  | .array _ items => by
      cases depth with
      | zero => rfl
      | succ depth =>
          exact congrArg (Option.map Json.array) (Raw.readItems_unplaced depth items)
  | .object _ fields => by
      cases depth with
      | zero => rfl
      | succ depth =>
          exact congrArg (Option.map Json.object) (Raw.readFields_unplaced depth fields)

theorem Raw.readItems_unplaced (depth : Nat) :
    ∀ items : List Raw, Raw.readItems depth (Raw.unplacedItems items) = Raw.readItems depth items
  | [] => rfl
  | v :: rest => by
      simp only [Raw.unplacedItems, Raw.readItems, Raw.read_unplaced depth v,
        Raw.readItems_unplaced depth rest]

theorem Raw.readFields_unplaced (depth : Nat) :
    ∀ fields : List (List Char × Raw),
      Raw.readFields depth (Raw.unplacedFields fields) = Raw.readFields depth fields
  | [] => rfl
  | (name, v) :: rest => by
      simp only [Raw.unplacedFields, Raw.readFields, Raw.read_unplaced depth v,
        Raw.readFields_unplaced depth rest]

end

/-- Named values without starts. -/
def Raw.unplacedNamed (fields : List (String × Raw)) : List (String × Raw) :=
  fields.map fun field => (field.1, field.2.unplaced)

theorem Raw.unescapeNames_unplaced (fields : List (List Char × Raw)) :
    Raw.unescapeNames (Raw.unplacedFields fields)
      = (Raw.unescapeNames fields).map Raw.unplacedNamed := by
  induction fields with
  | nil => rfl
  | cons field fields ih =>
      obtain ⟨name, v⟩ := field
      simp only [Raw.unplacedFields, Raw.unescapeNames, ih]
      cases unescapeString name with
      | none => rfl
      | some n => cases Raw.unescapeNames fields <;> rfl

theorem Raw.record_unplaced (names : List String) (v : Raw) :
    v.unplaced.record names = (v.record names).map Raw.unplacedNamed := by
  cases v with
  | null start => rfl
  | bool start b => rfl
  | number start cs => rfl
  | string start body => rfl
  | array start items =>
      simp only [Raw.unplaced, Raw.record, Raw.unplacedItems_eq, List.length_map]
      by_cases room : items.length ≤ names.length
      · simp only [if_pos room, Option.map_some, Raw.unplacedNamed, List.zip_map_right]
        rfl
      · simp only [if_neg room, Option.map_none]
  | object start fields =>
      simp only [Raw.unplaced, Raw.record, Raw.unescapeNames_unplaced]
      cases Raw.unescapeNames fields with
      | none => rfl
      | some named =>
          have found : (Raw.unplacedNamed named).map (·.1) = named.map (·.1) := by
            simp [Raw.unplacedNamed]
          simp only [Option.map_some, Option.bind_eq_bind, Option.bind_some, found]
          split <;> rfl

theorem Raw.find?_unplaced (name : String) (fields : List (String × Raw)) :
    Fields.find? name (Raw.unplacedNamed fields)
      = (Fields.find? name fields).map Raw.unplaced := by
  induction fields with
  | nil => rfl
  | cons field fields ih =>
      obtain ⟨n, v⟩ := field
      rw [Raw.unplacedNamed, List.map_cons, Fields.find?, Fields.find?]
      split
      · rfl
      · exact ih

section Parts

variable {α : Type} {fields : List (String × Raw)} (name : String)

theorem Raw.optional_unplaced {read : Raw → Option α}
    (blind : ∀ v : Raw, read v.unplaced = read v) :
    Raw.optional read (Raw.unplacedNamed fields) name = Raw.optional read fields name := by
  unfold Raw.optional
  rw [Raw.find?_unplaced]
  cases Fields.find? name fields with
  | none => rfl
  | some v =>
      cases v <;> first | rfl | exact congrArg (Option.map some) (blind _)

theorem Raw.many_unplaced {read : Raw → Option (List α)}
    (blind : ∀ v : Raw, read v.unplaced = read v) :
    Raw.many read (Raw.unplacedNamed fields) name = Raw.many read fields name := by
  unfold Raw.many
  rw [Raw.find?_unplaced]
  cases Fields.find? name fields with
  | none => rfl
  | some v => exact blind v

end Parts

end Json

/-! ## Headers and entries -/

namespace JsonSource

theorem readStrings_unplaced (v : Raw) : readStrings v.unplaced = readStrings v := by
  unfold readStrings
  rw [Raw.items?_unplaced]
  cases v.items? with
  | none => rfl
  | some items =>
      simp only [Option.map_some, Option.bind_some, List.mapM_map]
      exact congrArg (items.mapM ·) (funext Raw.string?_unplaced)

theorem readRole_unplaced (v : Raw) : readRole v.unplaced = readRole v := by
  cases v with
  | null start => rfl
  | bool start b => rfl
  | number start cs => rfl
  | string start body => rfl
  | array start items => rfl
  | object start fields =>
      -- only an object with one field, which is null, names a role
      cases fields with
      | nil => rfl
      | cons field rest =>
          obtain ⟨name, value⟩ := field
          cases rest <;> cases value <;> rfl

theorem readTags_unplaced (v : Raw) : readTags v.unplaced = readTags v := by
  cases v with
  | object start fields => exact Raw.readFields_unplaced _ fields
  | null start => rfl
  | bool start b => rfl
  | number start cs => rfl
  | string start body => rfl
  | array start items => rfl

theorem Header.ofRaw_unplaced (v : Raw) : Header.ofRaw v.unplaced = Header.ofRaw v := by
  unfold Header.ofRaw
  rw [Raw.record_unplaced]
  cases v.record Entry.fieldNames with
  | none => rfl
  | some fields =>
      simp only [Option.map_some, Option.bind_some, Header.ofFields,
        Raw.optional_unplaced _ Raw.string?_unplaced, Raw.optional_unplaced _ readRole_unplaced,
        Raw.many_unplaced _ readStrings_unplaced, Raw.many_unplaced _ readTags_unplaced]

theorem Entry.ofParts_unplaced (start : Nat) (header : Option Header)
    (members : Option (List Entry)) :
    Entry.ofParts 0 header (members.map Entry.unplacedAll)
      = (Entry.ofParts start header members).unplaced := by
  cases header <;> cases members <;> rfl

mutual

theorem Entry.ofRaw_unplaced : ∀ v : Raw, Entry.ofRaw v.unplaced = (Entry.ofRaw v).unplaced
  | .null _ => rfl
  | .bool _ _ => rfl
  | .number _ _ => rfl
  | .string _ _ => rfl
  | .array start items => by
      have header := Header.ofRaw_unplaced (.array start items)
      have members := Entry.membersOfItems_unplaced 11 items
      simp only [Raw.unplaced] at header ⊢
      rw [Entry.ofRaw, header, members, Entry.ofRaw, Entry.ofParts_unplaced start]
  | .object start fields => by
      have header := Header.ofRaw_unplaced (.object start fields)
      have members := Entry.membersOfFields_unplaced fields
      simp only [Raw.unplaced] at header ⊢
      rw [Entry.ofRaw, header, members, Entry.ofRaw, Entry.ofParts_unplaced start]

theorem Entry.membersOfFields_unplaced : ∀ fields : List (List Char × Raw),
    Entry.membersOfFields (Raw.unplacedFields fields)
      = (Entry.membersOfFields fields).map Entry.unplacedAll
  | [] => rfl
  | (name, v) :: rest => by
      rw [Raw.unplacedFields, Entry.membersOfFields, Entry.membersOfFields]
      split
      · exact Entry.membersOf_unplaced v
      · exact Entry.membersOfFields_unplaced rest

theorem Entry.membersOfItems_unplaced : ∀ (n : Nat) (items : List Raw),
    Entry.membersOfItems n (Raw.unplacedItems items)
      = (Entry.membersOfItems n items).map Entry.unplacedAll
  | _, [] => rfl
  | 0, v :: _ => Entry.membersOf_unplaced v
  | n + 1, _ :: rest => Entry.membersOfItems_unplaced n rest

theorem Entry.membersOf_unplaced : ∀ v : Raw,
    Entry.membersOf v.unplaced = (Entry.membersOf v).map Entry.unplacedAll
  | .null _ => rfl
  | .bool _ _ => rfl
  | .number _ _ => rfl
  | .string _ _ => rfl
  | .array _ items => congrArg some (Entry.all_unplaced items)
  | .object _ _ => rfl

theorem Entry.all_unplaced : ∀ items : List Raw,
    Entry.all (Raw.unplacedItems items) = Entry.unplacedAll (Entry.all items)
  | [] => rfl
  | v :: rest => by
      simp only [Raw.unplacedItems, Entry.all, Entry.unplacedAll, Entry.ofRaw_unplaced v,
        Entry.all_unplaced rest]

end

end JsonSource

end TypeSchema
