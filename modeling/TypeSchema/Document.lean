import TypeSchema.Graph.Keys
import TypeSchema.Graph.References
import TypeSchema.Graph.Subtypes
import TypeSchema.Graph.Types

/-!
# Documents

A document is what a source and everything it includes declare, with all references resolved and
all declarations committed.
-/

namespace TypeSchema

open Declaration (Id)

/-- A source that was read, and the declaration that stands for it. -/
structure Document.Source where
  path : Path
  root : Id
  /-- Another source includes it. -/
  isExternal : Bool
deriving DecidableEq, Repr

/-- Committed declarations; the main source comes first. -/
structure Document where
  graph : Graph
  sources : List Document.Source
  keys : Graph.Keys

namespace Document

/-- The roots of the sources that others include. -/
def includedRoots (sources : List Source) : List Id :=
  (sources.filter (·.isExternal)).map (·.root)

/-- Resolve, classify, check and commit all declarations. -/
def settle (sources : List Source) (strict : Bool) : Graph.Change Graph.Keys := do
  Graph.resolveReferences (includedRoots sources) strict
  Graph.classify
  let g ← get
  MonadExcept.ofExcept (g.ids.forM g.checkMetadata)
  Graph.commitAll

/-- The document of a graph that has been built from sources. -/
def ofGraph (graph : Graph) (sources : List Source) (strict : Bool) :
    Except SchemaError Document :=
  match settle sources strict graph with
  | .ok keys graph => .ok ⟨graph, sources, keys⟩
  | .error e _ => .error e

/-- The root of the main source. -/
def root (doc : Document) : Id := (doc.sources.head?.map (·.root)).getD 0

/-- The declaration of a key. -/
def find? (doc : Document) (key : String) : Option Id := Fields.find? key doc.keys

/-- The type that a declaration describes. -/
def typeOf (doc : Document) (id : Id) : Except SchemaError ValueType := doc.graph.typeOf id

/-- The type that the declaration of a key describes. -/
def typeOfKey (doc : Document) (key : String) : Except SchemaError ValueType :=
  match doc.find? key with
  | some id => doc.typeOf id
  | none => .error (.unresolvedReference key .api)

end Document

end TypeSchema
