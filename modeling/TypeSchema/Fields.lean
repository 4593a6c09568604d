/-!
# Named fields

A list of named things in ascending order of their names, each name once.
-/

namespace TypeSchema.Fields

variable {α : Type}

/-- Put a field in its place among fields in ascending order, instead of one of its name. -/
def insert (name : String) (v : α) : List (String × α) → List (String × α)
  | [] => [(name, v)]
  | (n, w) :: rest =>
    if name < n then (name, v) :: (n, w) :: rest
    else if name = n then (name, v) :: rest
    else (n, w) :: insert name v rest

/-- Fields in ascending order of their names; of two with one name the later counts. -/
def ofList (fields : List (String × α)) : List (String × α) :=
  fields.foldl (fun done (n, v) => insert n v done) []

/-- What a name stands for. -/
def find? (name : String) : List (String × α) → Option α
  | [] => none
  | (n, v) :: rest => if n = name then some v else find? name rest

end TypeSchema.Fields
