import TypeSchema.Graph.Walk

/-!
# Subtypes

What each declaration turns out to be follows from its production and from what it refers to.  A
declaration that refers to another one is judged after it.  As soon as an object turns out to be
simple, so does every compound object that leads to it through references, and a simple object
stays simple.
-/

namespace TypeSchema.Graph

open Declaration (Id Production Subtype Reference)

/-- An object over the declaration is compound: behind aliases and augmentations stands a compound
object at the top of a source, or something that refers to a placeholder. -/
def isCompoundBase (g : Graph) (id : Id) : Bool :=
  let base := g.node (g.resolveAugmentations id)
  let onTop := base.parent.any fun parent => (g.node parent).production == .root
  let unknown := match base.reference with
    | .placeholder _ => true
    | _ => false
  base.isObject && base.subtype == some .compound && onTop || unknown

/-- What a declaration is, going by its reference and the subtypes of others. -/
def subtypeOf (g : Graph) (id : Id) : Except SchemaError Subtype :=
  let d := g.node id
  match d.production, d.reference with
  | .root, _ => .ok .compound
  | .extension, _ => .ok .extension
  | .config, _ => .ok .config
  | .object, .none => .ok .compound
  | .object, .fundamental _ => .ok .simple
  | .object, .placeholder _ => .ok .alias
  | .object, .declaration target =>
    .ok (if g.isCompoundBase target then .compound else .simple)
  | .leaf, .fundamental _ => .ok .fundamental
  | .leaf, .placeholder _ => .ok .alias
  | .leaf, .declaration _ =>
    .ok (if d.metadata.onlyDescribes && d.arity.isNone then .alias else .augmented)
  | _, .unresolved text => .error (.unresolvedReference text d.location)
  | .leaf, .none => .error (.unsupported .declarationWithoutType d.location)

/-- The subtype has a type of its own. -/
def isNewType : Subtype → Bool
  | .alias => false
  | .extension => false
  | .config => false
  | _ => true

/-! ## Back along references -/

/-- The declarations that lead to what `seen` holds, breadth first; those in `queue` come next. -/
def referrersFrom (g : Graph) : Nat → List Id → List Id → List Id
  | 0, _, _ => []
  | _, _, [] => []
  | fuel + 1, seen, id :: queue =>
    if id ∈ seen then g.referrersFrom fuel seen queue
    else id :: g.referrersFrom fuel (id :: seen) (queue ++ (g.node id).referencedBy)

/-- How many back-links there are. -/
def linkCount (g : Graph) : Nat :=
  g.ids.foldr (fun id n => (g.node id).referencedBy.length + n) 0

/-- The declarations that lead to `id` through references, the nearest ones first. -/
def referrers (g : Graph) (id : Id) : List Id :=
  g.referrersFrom (g.linkCount + 1) [id] (g.node id).referencedBy

/-- Make an object simple if it is taken for a compound one. -/
def simplify (id : Id) : Change Unit := do
  let d := (← get).node id
  if d.production = .object ∧ d.subtype = some .compound then
    update id (·.setSubtype .simple)

/-! ## All declarations -/

/-- Say what `id` is.  What has turned out to be simple is not compound after all. -/
def classifyOne (id : Id) : Change Unit := do
  let g ← get
  let subtype ← MonadExcept.ofExcept (g.subtypeOf id)
  let subtype :=
    if (g.node id).subtype = some .simple ∧ subtype = .compound then .simple else subtype
  update id (·.setSubtype subtype)
  update id (·.setNewType (isNewType subtype))
  if subtype = .simple then (g.referrers id).forM simplify

/-- The declaration whose subtype bears on that of `id`. -/
def basis? (g : Graph) (id : Id) : Option Id :=
  match (g.node id).production with
  | .object => g.next? id
  | .leaf => g.next? id
  | _ => none

/-- The declarations to judge before and including `id`, apart from those in `done`. -/
def pendingFrom (g : Graph) : Nat → List Id → Id → List Id
  | 0, _, _ => []
  | fuel + 1, done, id =>
    if id ∈ done then []
    else
      match g.basis? id with
      | none => [id]
      | some target => g.pendingFrom fuel (id :: done) target ++ [id]

/-- All declarations, each behind the one whose subtype bears on its own. -/
def judgementOrder (g : Graph) : List Id :=
  g.ids.foldl (fun done id => done ++ g.pendingFrom g.walkBound done id) []

/-- What a simple object contains are attributes. -/
def checkSimple (g : Graph) (id : Id) : Except SchemaError Unit :=
  let d := g.node id
  if d.production = .object ∧ d.subtype = some .simple then
    match d.children.find? fun child => (g.node child).role ≠ .attr with
    | some child =>
      .error (.unsupported (.memberOfSimple (d.name.getD "")) (g.node child).location)
    | none => .ok ()
  else .ok ()

/-- Say of all declarations what they are. -/
def classify : Change Unit := do
  let g ← get
  g.judgementOrder.forM classifyOne
  MonadExcept.ofExcept (g.ids.forM (← get).checkSimple)

end TypeSchema.Graph
