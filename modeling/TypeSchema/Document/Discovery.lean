import TypeSchema.Builder.Script
import TypeSchema.Document
import TypeSchema.Sources

/-!
# Discovery of sources

Starting from a main source, the sources that it includes are read, then those that these include,
and so on; each normalized path is read once.  Paths of includes are relative to the directory of
the source that holds them.
-/

namespace TypeSchema

/-- The sources that have been read, and the paths of those still to be read. -/
structure Discovery where
  graph : Graph
  found : List Document.Source
  queue : List Path

namespace Discovery

/-- Nothing but the main source is to be read. -/
def start (main : Path) : Discovery := ⟨.empty, [], [main.normalize]⟩

/-- All paths that have been read or are to be read. -/
def known (d : Discovery) : List Path := d.found.map (·.path) ++ d.queue

/-- A path is to be read after the others, unless it is known. -/
def enqueue (d : Discovery) (path : Path) : Discovery :=
  if path ∈ d.known then d else { d with queue := d.queue ++ [path] }

/-- The start of a source.  Only the first one is no include. -/
def enter (d : Discovery) (features : Features) (path : Path) : Except SchemaError Builder :=
  let isExternal := !d.found.isEmpty
  let root := Declaration.fresh .standard .root none ⟨path.text, 0, 0⟩ isExternal
  match Graph.add root d.graph with
  | .ok id graph => .ok (Builder.start graph features id isExternal)
  | .error e _ => .error e

/-- What has been found once a source is built. -/
def leave (d : Discovery) (path : Path) (b : Builder) : Except SchemaError Discovery := do
  let includes ← b.finish
  let found := d.found ++ [⟨path, b.root, b.isExternal⟩]
  return (includes.map fun i => path.including i.path).foldl enqueue ⟨b.graph, found, d.queue⟩

/-- Read and build one source. -/
def visit (sources : Sources) (frontEnd : FrontEnd) (features : Features) (d : Discovery)
    (path : Path) : Except SchemaError Discovery := do
  let text ← sources.read path
  let b ← d.enter features path
  match (frontEnd path.text text).run b with
  | .ok () b => d.leave path b
  | .error e _ => throw e

/-- Read and build all sources, at most `limit` of them. -/
def run (sources : Sources) (frontEnd : FrontEnd) (features : Features) :
    Nat → Discovery → Except SchemaError Discovery
  | limit, d =>
    match d.queue with
    | [] => .ok d
    | path :: rest =>
      match limit with
      | 0 => .error (.fileNotFound path)
      | limit + 1 => do
        run sources frontEnd features limit
          (← visit sources frontEnd features { d with queue := rest } path)

end Discovery

namespace Document

/-- How sources are read. -/
structure Options where
  /-- A reference that names nothing is an error. -/
  strict : Bool
  features : Features
deriving DecidableEq, Repr

/-- References may name nothing, and all features may be used. -/
def Options.lenient : Options := ⟨false, .all⟩

/-- The document of a main source and everything it includes. -/
def resolve (sources : Sources) (frontEnd : FrontEnd) (options : Options) (main : Path) :
    Except SchemaError Document := do
  let d ← Discovery.run sources frontEnd options.features sources.limit (Discovery.start main)
  ofGraph d.graph d.found options.strict

end Document

end TypeSchema
