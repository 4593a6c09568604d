import TypeSchema.Text.Pieces

/-!
# Paths

A path is a text in which slashes part components.  Empty components and single dots say nothing,
except for a dot at the start of a relative path.  Normalizing a path resolves its dots without
looking at any file: a name and the `..` after it cancel out, and `..` directly under the root is
dropped.
-/

namespace TypeSchema

/-- The text of a path. -/
structure Path where
  text : String
deriving DecidableEq, Repr, Inhabited

namespace Path

/-- One step of a path. -/
inductive Component where
  | root
  | current
  | parent
  | normal (name : String)
deriving DecidableEq, Repr

/-- The stretches of a text between slashes. -/
def pieces (cs : List Char) : List (List Char) := Text.pieces '/' cs

/-- The component that a stretch between slashes stands for. -/
def component? : List Char → Option Component
  | [] => none
  | ['.'] => none
  | ['.', '.'] => some .parent
  | name => some (.normal (String.ofList name))

/-- The components of a path: the root first if there is one, or a leading dot. -/
def components (p : Path) : List Component :=
  match pieces p.text.toList with
  | [] :: rest =>
    if p.text.isEmpty then [] else .root :: rest.filterMap component?
  | ['.'] :: rest => .current :: rest.filterMap component?
  | all => all.filterMap component?

/-- The path starts at the root. -/
def isAbsolute (p : Path) : Bool :=
  p.text.toList.head? == some '/'

/-- The text of a component that stands after the root or another component. -/
def Component.text : Component → String
  | .root => ""
  | .current => "."
  | .parent => ".."
  | .normal name => name

/-- The path of given components, with one slash between them. -/
def ofComponents : List Component → Path
  | .root :: rest => ⟨"/" ++ "/".intercalate (rest.map Component.text)⟩
  | all => ⟨"/".intercalate (all.map Component.text)⟩

/-- Take one more component on a normalized path, whose last component comes first. -/
def step (done : List Component) : Component → List Component
  | .current => done
  | .parent =>
    match done with
    | .normal _ :: rest => rest
    | .root :: _ => done
    | _ => .parent :: done
  | c => c :: done

/-- Components without dots, and with `..` only at the start of a relative path. -/
def normalizeComponents (cs : List Component) : List Component :=
  (cs.foldl step []).reverse

/-- The path with its dots resolved, going by the text alone. -/
def normalize (p : Path) : Path :=
  ofComponents (normalizeComponents p.components)

/-- The components of the directory a path is in; those of the root and of no path are none. -/
def directory (p : Path) : List Component :=
  match p.components.reverse with
  | [] => []
  | .root :: _ => []
  | _ :: rest => rest.reverse

/-- The path an include names, relative to the directory of the document that includes it. -/
def including (document : Path) (name : String) : Path :=
  let target : Path := ⟨name⟩
  if target.isAbsolute then target.normalize
  else ofComponents (normalizeComponents (document.directory ++ target.components))

/-- The path `b` seen from `a`. -/
def join (a b : Path) : Path :=
  if b.isAbsolute then b
  else if a.text.isEmpty || a.text.endsWith "/" then ⟨a.text ++ b.text⟩
  else ⟨a.text ++ "/" ++ b.text⟩

end Path

end TypeSchema
