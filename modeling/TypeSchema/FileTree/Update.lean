import TypeSchema.FileTree

/-!
# Writing files

A file can be written where its directory is there and no directory is in its place.
-/

namespace TypeSchema.FileTree

/-- Why a file cannot be written. -/
inductive WriteFault where
  | missing
  | notDirectory
  | directory
deriving DecidableEq, Repr

/-- The wording of a fault of writing. -/
def WriteFault.message : WriteFault → String
  | .missing => "No such file or directory (os error 2)"
  | .notDirectory => "Not a directory (os error 20)"
  | .directory => "Is a directory (os error 21)"

/-- The fault of following components that lead through something missing or through a file. -/
def walkFault (t : FileTree) : List String → List Path.Component → WriteFault
  | _, [] => .missing
  | place, c :: rest =>
    match t.at? place with
    | none => .missing
    | some .directory =>
      match c with
      | .root => t.walkFault [] rest
      | .current => t.walkFault place rest
      | .parent => t.walkFault place.dropLast rest
      | .normal name => t.walkFault (place ++ [name]) rest
    | some _ => .notDirectory

/-- The place where a file of the path would be. -/
def placeToWrite (t : FileTree) (p : Path) : Except WriteFault (List String) :=
  if p.text.isEmpty then .error .missing
  else
    match t.walk t.workingDirectory p.components with
    | none => .error (t.walkFault t.workingDirectory p.components)
    | some place =>
      if t.isDirectoryAt place || endsInDirectory p then .error .directory else .ok place

/-- The tree with a file written, instead of one that may have been there. -/
def write (t : FileTree) (p : Path) (content : ByteArray) : Except WriteFault FileTree := do
  let place ← t.placeToWrite p
  return { t with entries := (place, .file content) :: t.entries.filter (·.1 ≠ place) }

end TypeSchema.FileTree
