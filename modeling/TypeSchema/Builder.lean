import TypeSchema.Features
import TypeSchema.Graph

/-!
# Building declarations

A source is turned into declarations by calls in the order of its text.  Objects are begun and
ended; what is declared in between is declared inside.  Tags, arities and arguments belong to the
current declaration: the one declared last, or the object ended last if that was later.  A call
that fails changes nothing.
-/

namespace TypeSchema

open Declaration (Id Role Production)

/-- The wish of a source to include another one. -/
structure Builder.Include where
  path : String
  location : Location
deriving DecidableEq, Repr

/-- Declarations with the place in them where a source continues. -/
structure Builder where
  graph : Graph
  features : Features
  /-- The declaration that stands for the source. -/
  root : Id
  /-- The objects that are begun and not ended, the innermost one first. -/
  opened : List Id
  current : Id
  /-- What the source includes, in the order of its text. -/
  includes : List Builder.Include
  isExternal : Bool

/-- A step that changes what is being built, or fails. -/
abbrev Builder.Action (α : Type) : Type := EStateM SchemaError Builder α

namespace Builder

/-- The start of a source whose root is in the graph. -/
def start (graph : Graph) (features : Features) (root : Id) (isExternal : Bool) : Builder where
  graph := graph
  features := features
  root := root
  opened := []
  current := root
  includes := []
  isExternal := isExternal

/-- The declaration in which the next one is declared. -/
def scope (b : Builder) : Id := b.opened.headD b.root

/-- The declaration to which tags, arities and arguments belong. -/
def currentNode (b : Builder) : Declaration := b.graph.node b.current

/-- Change the graph. -/
def onGraph {α : Type} (change : Graph.Change α) : Action α := fun b =>
  match change b.graph with
  | .ok a g => .ok a { b with graph := g }
  | .error e g => .error e { b with graph := g }

/-- Change the current declaration. -/
def onCurrent (f : Declaration → Except SchemaError Declaration) : Action Unit := do
  onGraph (Graph.update (← get).current f)

/-- Refuse a construct unless `allowed` holds. -/
def guardConstruct (allowed : Bool) (construct : Construct) (place : Location) : Action Unit :=
  if allowed then return () else throw (.unsupported construct place)

/-- Refuse a role that the source may not use. -/
def guardRole (role : Role) (place : Location) : Action Unit := do
  match role with
  | .standard => return ()
  | .attr => guardConstruct (← get).features.attributes .attributeDeclarations place
  | .definition => guardConstruct (← get).features.definitions .definitionDeclarations place

/-- Declare something in the current scope; `fill` completes the blank declaration. -/
def create (role : Role) (production : Production) (place : Location)
    (fill : Declaration → Declaration) : Action Id := do
  let b ← get
  let d := Declaration.fresh role production (some b.scope) place b.isExternal
  let id ← onGraph (Graph.add (fill d))
  modify fun b => { b with current := id }
  return id

/-- Begin an object, which derives from `base` if there is one. -/
def beginObject (name : String) (role : Role) (base : Option String) (place : Location) :
    Action Id := do
  guardConstruct (← get).features.objects .objectDeclarations place
  guardRole role place
  let id ← create role .object place fun d =>
    { d.withReference ((base.map .unresolved).getD .none) with name := some name }
  modify fun b => { b with opened := id :: b.opened }
  return id

/-- End the innermost object. -/
def endObject : Action Id := do
  let b ← get
  match b.opened with
  | [] => throw (.unsupported .endWithoutBegin (b.graph.node b.root).location)
  | id :: rest =>
    set { b with opened := rest, current := id }
    return id

/-- Declare a name for a type. -/
def declaration (name : String) (role : Role) (reference : String) (place : Location) :
    Action Id := do
  guardRole role place
  create role .leaf place fun d =>
    { d.withReference (.unresolved reference) with name := some name }

/-- Use an extension. -/
def extension (name : String) (place : Location) : Action Id := do
  guardConstruct ((← get).features.allowsExtension name) (.extension name) place
  create .standard .extension place fun d => { d with invocation := some ⟨name, [], []⟩ }

/-- Declare a value of the configuration. -/
def config (name reference : String) (place : Location) : Action Id :=
  create .standard .config place fun d =>
    { d.withReference (.unresolved reference) with name := some name }

/-- Attach a tag; to the use of an extension it is a named argument. -/
def metadata (tag : String) (value : Metadata.Value) (place : Location) : Action Unit := do
  if (← get).currentNode.production = .extension then
    onCurrent (·.addKeyword tag value)
  else onCurrent (·.addMetadata ⟨tag, value, place⟩)

/-- Give the arity of a shorthand text. -/
def arity (text : String) (place : Location) : Action Unit := do
  let arity ← MonadExcept.ofExcept (Arity.read text place)
  guardConstruct ((← get).currentNode.production != .root) .documentArity place
  onCurrent (·.setArity arity)

/-- Add an argument to the use of an extension. -/
def stringLiteral (text : String) : Action Unit :=
  onCurrent (·.addPositional (.string text))

/-- Take note of an include. -/
def addInclude (path : String) (place : Location) : Action Unit :=
  modify fun b => { b with includes := b.includes ++ [⟨path, place⟩] }

/-- The includes of a source that is complete: all its objects are ended. -/
def finish (b : Builder) : Except SchemaError (List Include) :=
  match b.opened with
  | [] => .ok b.includes
  | id :: _ => .error (.unsupported .beginWithoutEnd (b.graph.node id).location)

end Builder

end TypeSchema
