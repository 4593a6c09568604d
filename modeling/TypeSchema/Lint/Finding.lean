import TypeSchema.Document

/-!
# Findings

What is worth saying about the declarations of a document: references that name nothing and
declarations without a type are errors, definitions without use and aliases of aliases are worth a
warning.
-/

namespace TypeSchema.Lint

open Declaration (Id)

/-- How much a finding matters. -/
inductive Severity where
  | error
  | warning
deriving DecidableEq, Repr

/-- The word for a severity. -/
def Severity.word : Severity → String
  | .error => "error"
  | .warning => "warning"

/-- What is found. -/
inductive Finding where
  | placeholder (reference : String)
  | unresolvable (e : SchemaError)
  | untypable (e : SchemaError)
  | unused
  | aliasOfAlias (target : String)

namespace Finding

/-- How much a finding matters. -/
def severity : Finding → Severity
  | .placeholder _ => .error
  | .unresolvable _ => .error
  | .untypable _ => .error
  | .unused => .warning
  | .aliasOfAlias _ => .warning

/-- The code of a finding. -/
def code : Finding → String
  | .placeholder _ => "E001"
  | .unresolvable _ => "E002"
  | .untypable _ => "E003"
  | .unused => "W001"
  | .aliasOfAlias _ => "W002"

/-- The wording of a finding. -/
def message : Finding → String
  | .placeholder reference => "unresolved reference " ++ Rejection.inQuotes reference
  | .unresolvable e => "cannot resolve document: " ++ e.message
  | .untypable e => "cannot build type: " ++ e.message
  | .unused => "definition is never referenced"
  | .aliasOfAlias target =>
    "alias of alias " ++ Rejection.inQuotes target ++ "; reference its target directly"

end Finding

/-- A finding about a declaration of a file; the path is its key, or a slash for the file. -/
structure Diagnostic where
  finding : Finding
  file : Path
  path : String

/-- A reference that names nothing. -/
def placeholders (d : Declaration) : List Finding :=
  match d.reference with
  | .placeholder text => [.placeholder text]
  | _ => []

/-- A declaration at the top of the main source that has no type.  Extensions need none, and what
depends on a placeholder is found there. -/
def untypables (doc : Document) (id : Id) : List Finding :=
  let d := doc.graph.node id
  if d.parent = some doc.root ∧ d.subtype ≠ some .extension then
    match doc.typeOf id with
    | .ok _ => []
    | .error (.unresolvedReference _ _) => []
    | .error e => [.untypable e]
  else []

/-- A definition that nothing refers to. -/
def unusedDefinitions (d : Declaration) : List Finding :=
  if d.role = .definition ∧ d.referencedBy = [] then [.unused] else []

/-- An alias that refers to an alias. -/
def aliasesOfAliases (doc : Document) (d : Declaration) : List Finding :=
  match d.reference with
  | .declaration target =>
    let t := doc.graph.node target
    if d.subtype = some .alias ∧ t.subtype = some .alias then
      [.aliasOfAlias (t.key.getD "")]
    else []
  | _ => []

/-- What is found about one declaration. -/
def findings (doc : Document) (id : Id) : List Finding :=
  let d := doc.graph.node id
  if d.isExternal ∨ id = doc.root then []
  else
    placeholders d ++ untypables doc id ++ unusedDefinitions d ++ aliasesOfAliases doc d

/-- What is found about the declarations of the main source, which stands in a file. -/
def diagnose (doc : Document) (file : Path) : List Diagnostic :=
  doc.graph.ids.flatMap fun id =>
    (findings doc id).map fun f => ⟨f, file, ((doc.graph.node id).key).getD "/"⟩

end TypeSchema.Lint
