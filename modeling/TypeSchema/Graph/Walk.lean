import TypeSchema.Graph

/-!
# Walks along references

A walk starts at a declaration and goes on to the one it refers to, until one refers to no
declaration or to one that the walk has passed.
-/

namespace TypeSchema.Graph

open Declaration (Id Subtype Target)

/-- The declaration that a declaration refers to. -/
def next? (g : Graph) (id : Id) : Option Id :=
  match (g.node id).target? with
  | some (.declaration target) => some target
  | _ => none

/-- The rest of a walk that has passed `seen`. -/
def walkFrom (g : Graph) : Nat → List Id → Id → List Id
  | 0, _, _ => []
  | fuel + 1, seen, id =>
    if id ∈ seen then []
    else
      match g.next? id with
      | none => [id]
      | some target => id :: g.walkFrom fuel (id :: seen) target

/-- More steps than a walk without repetition can take. -/
def walkBound (g : Graph) : Nat := g.size + 2

/-- The declarations on the walk from `id`, which comes first. -/
def walk (g : Graph) (id : Id) : List Id := g.walkFrom g.walkBound [] id

/-- The walk that has passed `seen` comes back to one of them or of its own. -/
def returnsFrom (g : Graph) : Nat → List Id → Id → Bool
  | 0, _, _ => true
  | fuel + 1, seen, id =>
    if id ∈ seen then true
    else
      match g.next? id with
      | none => false
      | some target => g.returnsFrom fuel (id :: seen) target

/-- Following references from `id` comes back to a declaration passed before. -/
def hasCycle (g : Graph) (id : Id) : Bool := g.returnsFrom g.walkBound [] id

/-- The first declaration on the walk from `id` that satisfies `p`, or else the last one. -/
def firstOnWalk (g : Graph) (p : Declaration → Bool) (id : Id) : Id :=
  ((g.walk id).find? fun i => p (g.node i)).getD ((g.walk id).getLastD id)

/-- The first declaration on the walk that is no alias. -/
def resolveAliases (g : Graph) (id : Id) : Id :=
  g.firstOnWalk (fun d => d.subtype != some .alias) id

/-- The first declaration on the walk that is neither alias nor augmented. -/
def resolveAugmentations (g : Graph) (id : Id) : Id :=
  g.firstOnWalk (fun d => d.subtype != some .alias && d.subtype != some .augmented) id

/-- Where the walk leads: to a fundamental kind, or else to its last declaration. -/
def fundamentalType (g : Graph) (id : Id) : Target :=
  let last := (g.walk id).getLastD id
  match (g.node last).target? with
  | some (.fundamental kind) => .fundamental kind
  | _ => .declaration last

end TypeSchema.Graph
