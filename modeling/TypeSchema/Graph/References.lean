import TypeSchema.Graph.Walk
import TypeSchema.Text.Pieces

/-!
# References

A reference is a name, or names with dots between them.  It is looked up from the inside out: below
the declaration that holds it, below its parent, and so on up to the root of its source; then in
the sources that are included, in their order.  What is found nowhere may be the keyword of a
fundamental kind.  A declaration never finds itself by the first name.
-/

namespace TypeSchema.Graph

open Declaration (Id Reference Target)

/-- The first child of a name, other than `self`. -/
def childNamed (g : Graph) (parent : Id) (name : String) (self : Option Id) : Option Id :=
  (g.node parent).children.find? fun child => some child ≠ self ∧ (g.node child).name = some name

/-- The declaration to which names lead from `scope`; the first of them does not lead to `self`. -/
def descend (g : Graph) (scope : Id) (self : Option Id) : List String → Option Id
  | [] => none
  | [name] => g.childNamed scope name self
  | name :: rest => (g.childNamed scope name self).bind fun child => g.descend child none rest

/-- The names in a reference. -/
def segments (reference : String) : List String :=
  (Text.pieces '.' reference.toList).map String.ofList

/-- Where a reference of `id` is looked up: around it, and then below the roots in `included` other
than its own. -/
def scopes (g : Graph) (included : List Id) (id : Id) : List Id :=
  let around := g.lineage id
  around ++ included.filter (· ≠ around.getLastD id)

/-- What a reference of `id` names. -/
def lookup (g : Graph) (included : List Id) (id : Id) (reference : String) : Option Target :=
  if "" ∈ segments reference then none
  else
    match (g.scopes included id).findSome? (g.descend · (some id) (segments reference)) with
    | some target => some (.declaration target)
    | none => (Fundamental.ofKeyword? reference).map .fundamental

/-- Resolve the reference of `id`, if it has one.  A reference that names nothing becomes a
placeholder, or an error where `strict` holds. -/
def resolveReference (included : List Id) (strict : Bool) (id : Id) : Change Unit := do
  let g ← get
  match (g.node id).reference with
  | .unresolved text =>
    match g.lookup included id text with
    | some (.declaration target) => link id target
    | some (.fundamental kind) => update id (·.setReference (.fundamental kind))
    | none =>
      if strict then throw (.unresolvedReference text (g.node id).location)
      else update id (·.setReference (.placeholder text))
  | _ => return ()

/-- No walk from `id` comes back to where it has been. -/
def checkNoCycle (g : Graph) (id : Id) : Except SchemaError Unit :=
  if g.hasCycle id then
    .error (.circularReference ((g.node id).name.getD "<root>") (g.node id).location)
  else .ok ()

/-- Resolve all references, and make sure that they do not go in circles. -/
def resolveReferences (included : List Id) (strict : Bool) : Change Unit := do
  let ids := (← get).ids
  ids.forM (resolveReference included strict)
  MonadExcept.ofExcept (ids.forM (← get).checkNoCycle)

end TypeSchema.Graph
