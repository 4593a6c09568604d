import TypeSchema.Path

/-!
# File trees

What a file system holds, as a value: the entries by their absolute place, and the directory that
relative paths start from.  A path leads through directories only, so `..` after a missing name
leads nowhere.
-/

namespace TypeSchema

/-- What a place of a file tree holds. -/
inductive FileTree.Entry where
  /-- A file and its bytes. -/
  | file (content : ByteArray)
  | directory
  /-- Something that is there but neither a file nor a directory. -/
  | other

/-- The entries of a file system, by the names that lead to them from the root. -/
structure FileTree where
  entries : List (List String × FileTree.Entry)
  workingDirectory : List String

namespace FileTree

/-- A tree with nothing in it but the root. -/
def empty : FileTree := ⟨[], []⟩

/-- What is at a place; the root is a directory, and so is whatever holds an entry. -/
def at? (t : FileTree) (place : List String) : Option Entry :=
  match t.entries.find? (·.1 = place) with
  | some (_, e) => some e
  | none =>
    if place = [] || place.isPrefixOf t.workingDirectory ||
        t.entries.any (fun e => place.isPrefixOf e.1) then
      some .directory
    else none

/-- The place is a directory. -/
def isDirectoryAt (t : FileTree) (place : List String) : Bool :=
  match t.at? place with
  | some .directory => true
  | _ => false

/-- Follow components from a directory; each step but the last ends in a directory. -/
def walk (t : FileTree) : List String → List Path.Component → Option (List String)
  | place, [] => some place
  | place, c :: rest =>
    if t.isDirectoryAt place then
      match c with
      | .root => t.walk [] rest
      | .current => t.walk place rest
      | .parent => t.walk place.dropLast rest
      | .normal name => t.walk (place ++ [name]) rest
    else none

/-- The path ends in a slash or a dot, and so can only lead to a directory. -/
def endsInDirectory (p : Path) : Bool :=
  match (Path.pieces p.text.toList).reverse with
  | [] :: _ => true
  | ['.'] :: _ => true
  | ['.', '.'] :: _ => true
  | _ => false

/-- The place a path leads to, if anything is there. -/
def locate (t : FileTree) (p : Path) : Option (List String) := do
  if p.text.isEmpty || p.text.toList.contains '\x00' then none
  let place ← t.walk t.workingDirectory p.components
  let _ ← t.at? place
  if endsInDirectory p && !t.isDirectoryAt place then none
  return place

/-- What a path leads to. -/
def find? (t : FileTree) (p : Path) : Option Entry :=
  (t.locate p).bind t.at?

/-- The path leads to something. -/
def hasPath (t : FileTree) (p : Path) : Bool :=
  (t.find? p).isSome

/-- The path leads to a file. -/
def isFile (t : FileTree) (p : Path) : Bool :=
  match t.find? p with
  | some (.file _) => true
  | _ => false

/-- The path leads to a directory. -/
def isDirectory (t : FileTree) (p : Path) : Bool :=
  match t.find? p with
  | some .directory => true
  | _ => false

/-- The absolute path of a place. -/
def placePath (place : List String) : Path :=
  Path.ofComponents (.root :: place.map .normal)

/-- The one absolute path of what a path leads to; where it leads to nothing, the absolute path
with its dots resolved by the text alone. -/
def normalize (t : FileTree) (p : Path) : Path :=
  match t.locate p with
  | some place => placePath place
  | none => ((placePath t.workingDirectory).join p).normalize

end FileTree

/-! ## Listing directories -/

/-- What follows the last dot of a name, if something stands before that dot. -/
def extensionOf? (name : List Char) : Option (List Char) :=
  match (Text.pieces '.' name).reverse with
  | last :: first :: rest => if rest = [] ∧ first = [] then none else some last
  | _ => none

/-- The name at the end of a path has the extension. -/
def Path.hasExtension (p : Path) (extension : String) : Bool :=
  match p.components.reverse with
  | .normal name :: _ => extensionOf? name.toList == some extension.toList
  | _ => false

/-- Names in order, compared one by one. -/
def namesLe (a b : List String) : Bool := !(decide (b < a))

/-- The names that lead from a directory to everything below it that is no directory, in order. -/
def FileTree.filesBelow (t : FileTree) (p : Path) : List (List String) :=
  match t.locate p with
  | none => []
  | some place =>
    if t.isDirectoryAt place then
      let below := t.entries.filterMap fun (names, entry) =>
        match entry with
        | .directory => none
        | _ => if place.isPrefixOf names then some (names.drop place.length) else none
      below.mergeSort namesLe
    else []

end TypeSchema
