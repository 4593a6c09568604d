import TypeSchema.Error
import TypeSchema.Fields
import TypeSchema.FileTree

/-!
# Sources

Where the texts of sources come from: a list of texts, or a file tree.
-/

namespace TypeSchema

/-- The text that a path leads to.  What is neither a file nor a directory is empty. -/
def FileTree.readText (t : FileTree) (p : Path) : Except SchemaError String :=
  match t.find? p with
  | none => .error (.fileNotFound p)
  | some .directory => .error (.readError p .directory)
  | some .other => .ok ""
  | some (.file content) =>
    match String.fromUTF8? content with
    | some text => .ok text
    | none => .error (.readError p .encoding)

/-- What can be read, by normalized paths. -/
structure Sources where
  read : Path → Except SchemaError String
  /-- How many sources are read at most; beyond that none is found. -/
  limit : Nat

namespace Sources

/-- The texts of a list by their normalized paths; of two with one path the later counts. -/
def ofTexts (texts : List (Path × String)) : Sources where
  read path :=
    let files := Fields.ofList (texts.map fun (p, text) => (p.normalize.text, text))
    match Fields.find? path.normalize.text files with
    | some text => .ok text
    | none => .error (.fileNotFound path)
  limit := texts.length

/-- The texts of a file tree. -/
def ofFiles (t : FileTree) : Sources where
  read := t.readText
  limit := Numeral.max32 + 1

end Sources

end TypeSchema
