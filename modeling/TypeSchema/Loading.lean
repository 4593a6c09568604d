import TypeSchema.Descriptor.Json
import TypeSchema.Document.Discovery
import TypeSchema.JsonSource

/-!
# Loading

Descriptors, types and documents of a file tree.
-/

namespace TypeSchema.FileTree

/-- The descriptor in a file. -/
def loadDescriptor (t : FileTree) (p : Path) : Except SchemaError Descriptor := do
  Descriptor.ofChars (← t.readText p).toList

/-- The type that the descriptor in a file stands for. -/
def loadType (t : FileTree) (p : Path) : Except SchemaError ValueType := do
  (← t.loadDescriptor p).toType

/-- The document of a file and everything it includes. -/
def loadDocument (t : FileTree) (options : Document.Options) (p : Path) :
    Except SchemaError Document :=
  Document.resolve (.ofFiles t) JsonSource.frontEnd options p

/-- The value of the JSON text in a file, each field once. -/
def loadJson (t : FileTree) (p : Path) : Except SchemaError Json := do
  match Json.ofChars (← t.readText p).toList with
  | some j => return j.distinct
  | none => throw .invalidJson

end TypeSchema.FileTree
