import TypeSchema.Json.Reading

/-!
# JSON records

A record is an object whose fields are known and given once each, in any order, or an array of the
values of the first fields.
-/

namespace TypeSchema.Json

/-- The fields of an object by their names, if all of those have a meaning. -/
def Raw.unescapeNames : List (List Char × Raw) → Option (List (String × Raw))
  | [] => some []
  | (name, v) :: rest => do
    let n ← unescapeString name
    let fields ← Raw.unescapeNames rest
    return (n, v) :: fields

/-- The fields of a record that has fields of the given names. -/
def Raw.record (names : List String) : Raw → Option (List (String × Raw))
  | .object _ fields => do
    let fields ← Raw.unescapeNames fields
    let found := fields.map (·.1)
    if found.all (· ∈ names) ∧ found.Nodup then return fields
    none
  | .array _ items => if items.length ≤ names.length then some (names.zip items) else none
  | _ => none

/-- The string that a value is. -/
def Raw.string? : Raw → Option String
  | .string _ body => unescapeString body
  | _ => none

/-- The items of an array. -/
def Raw.items? : Raw → Option (List Raw)
  | .array _ items => some items
  | _ => none

/-- A field that may be left out or null. -/
def Raw.optional {α : Type} (read : Raw → Option α) (fields : List (String × Raw))
    (name : String) : Option (Option α) :=
  match Fields.find? name fields with
  | none => some none
  | some (.null _) => some none
  | some v => (read v).map some

/-- A field with many things in it, which may be left out but not null. -/
def Raw.many {α : Type} (read : Raw → Option (List α)) (fields : List (String × Raw))
    (name : String) : Option (List α) :=
  match Fields.find? name fields with
  | none => some []
  | some v => read v

end TypeSchema.Json
