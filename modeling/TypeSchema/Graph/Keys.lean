import TypeSchema.Fields
import TypeSchema.Graph

/-!
# Keys

All declarations are committed at the end.  Those with a name of their own are found by their keys,
of which no two are the same.
-/

namespace TypeSchema.Graph

open Declaration (Id)

/-- A list of keys in ascending order, with the declarations they stand for. -/
abbrev Keys : Type := List (String × Id)

/-- Commit a declaration, and add its key if it has a name. -/
def commitNext (keys : Keys) (id : Id) : Change Keys := do
  let key ← commit id
  let g ← get
  let d := g.node id
  if d.name.isNone ∨ d.production = .root then return keys
  match Fields.find? key keys with
  | some first => throw (.duplicateKey key (g.node first).location d.location)
  | none => return Fields.insert key id keys

/-- Commit all declarations. -/
def commitAll : Change Keys := do
  (← get).ids.foldlM commitNext []

end TypeSchema.Graph
