import TypeSchema.Declaration

/-!
# Graphs of declarations

All declarations of a set of sources, in the order in which they were made.  A declaration knows
its parent and its children, and may refer to another one.  Changes keep the graph as it is when
they fail, up to the step that failed.
-/

namespace TypeSchema

open Declaration (Id Role Production Subtype Reference Target Invocation)

/-- Declarations in the order in which they were made. -/
structure Graph where
  nodes : Array Declaration

/-- A step that changes a graph or fails; a failure leaves what was done before it. -/
abbrev Graph.Change (α : Type) : Type := EStateM SchemaError Graph α

namespace Graph

/-- No declarations. -/
def empty : Graph := ⟨#[]⟩

instance : Inhabited Graph := ⟨empty⟩

/-- How many declarations there are. -/
def size (g : Graph) : Nat := g.nodes.size

/-- The declarations in the order in which they were made. -/
def ids (g : Graph) : List Id := List.range g.size

/-- A declaration; the blank one where there is none. -/
def node (g : Graph) (id : Id) : Declaration := g.nodes.getD id default

/-- A declaration with the ones around it, the innermost first.  Parents are older than their
children. -/
def lineage (g : Graph) (id : Id) : List Id :=
  match (g.node id).parent with
  | none => [id]
  | some parent => if parent < id then id :: g.lineage parent else [id]
termination_by id

/-- The name that a declaration contributes to keys. -/
def segment? (g : Graph) (id : Id) : Option String :=
  if (g.node id).production = .root then none else (g.node id).name

/-- The names that lead to a declaration, with dots between them. -/
def keyOf (g : Graph) (id : Id) : String :=
  ".".intercalate ((g.lineage id).reverse.filterMap g.segment?)

/-! ## Changes -/

/-- Change one declaration. -/
def update (id : Id) (f : Declaration → Except SchemaError Declaration) : Change Unit := fun g =>
  match g.nodes[id]? with
  | none => .ok () g
  | some d =>
    match f d with
    | .ok changed => .ok () ⟨g.nodes.setIfInBounds id changed⟩
    | .error e => .error e g

/-- Add a declaration as the last child of its parent; a parent that is not there is none. -/
def add (d : Declaration) : Change Id := do
  let id := (← get).size
  let parent := d.parent.filter (· < id)
  if let some p := parent then update p (·.addChild id)
  modify fun g => ⟨g.nodes.push { d with parent := parent }⟩
  return id

/-- Resolve the reference of a declaration to another one, which takes note of it. -/
def link (id target : Id) : Change Unit := do
  update id (·.setReference (.declaration target))
  update target (·.addReferrer id)

/-- Commit a declaration and give its key. -/
def commit (id : Id) : Change String := do
  let key := (← get).keyOf id
  update id (·.close key)
  return key

end Graph

end TypeSchema
