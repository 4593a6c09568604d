import TypeSchema.Arity
import TypeSchema.Metadata.Basic

/-!
# Declarations

A declaration gives a name to a type.  It starts open and is committed once, when its key is known;
a committed declaration no longer changes.  A reference, once it has been resolved, no longer
changes either.
-/

namespace TypeSchema

namespace Declaration

/-- A declaration of a graph, by its place in the order in which they were made. -/
abbrev Id := Nat

/-- What a declaration is to the object around it. -/
inductive Role where
  /-- A member. -/
  | standard
  /-- A member that objects over a single value may have, too. -/
  | attr
  /-- A type, and no member. -/
  | definition
deriving DecidableEq, Repr

/-- What of a source a declaration stands for. -/
inductive Production where
  /-- The source as a whole. -/
  | root
  | object
  /-- A name for a type, with nothing inside. -/
  | leaf
  | extension
  | config
deriving DecidableEq, Repr

/-- What a declaration turns out to be. -/
inductive Subtype where
  | extension
  | config
  /-- An object with named members. -/
  | compound
  /-- An object around a single value, with attributes. -/
  | simple
  /-- Another name for the type referred to. -/
  | alias
  /-- The type referred to under further constraints or with another arity. -/
  | augmented
  /-- A fundamental kind under constraints. -/
  | fundamental
deriving DecidableEq, Repr

/-- What a declaration refers to. -/
inductive Reference where
  | none
  /-- A text that has not been looked up. -/
  | unresolved (text : String)
  | declaration (id : Id)
  | fundamental (kind : Fundamental)
  /-- A text that names nothing. -/
  | placeholder (text : String)
deriving DecidableEq, Repr

/-- The reference has been looked up. -/
def Reference.isSettled : Reference → Bool
  | .none => false
  | .unresolved _ => false
  | .declaration _ => true
  | .fundamental _ => true
  | .placeholder _ => true

/-- What a reference leads to. -/
inductive Target where
  | declaration (id : Id)
  | fundamental (kind : Fundamental)
deriving DecidableEq, Repr

/-- What a reference leads to, if it leads anywhere. -/
def Reference.target? : Reference → Option Target
  | .declaration id => some (.declaration id)
  | .fundamental kind => some (.fundamental kind)
  | _ => Option.none

/-- The use of an extension with its arguments. -/
structure Invocation where
  name : String
  positional : List Metadata.Value
  keywords : List (String × Metadata.Value)
deriving DecidableEq, Repr

end Declaration

open Declaration in
/-- A declaration. -/
structure Declaration where
  name : Option String
  parent : Option Id
  /-- What is declared inside, in the order of the source. -/
  children : List Id
  role : Role
  production : Production
  /-- What the declaration turned out to be, once that is known. -/
  subtype : Option Subtype
  reference : Reference
  /-- The declaration or fundamental kind that the reference leads to, if it leads anywhere. -/
  target? : Option Target
  /-- The arity that the source gives. -/
  arity : Option Arity
  metadata : Metadata
  invocation : Option Invocation
  /-- The declarations that refer to this one, in the order in which they were linked. -/
  referencedBy : List Id
  /-- The names that lead here from the root; only a committed declaration has a key. -/
  key : Option String
  isNewType : Bool
  location : Location
  /-- The declaration stands in a source that another one includes. -/
  isExternal : Bool
  /-- Whoever writes a reference writes down what it leads to. -/
  target?_eq : target? = reference.target?

namespace Declaration

/-- What a production is taken for before anything has been resolved. -/
def Production.initialSubtype : Production → Option Subtype
  | .root => some .compound
  | .object => some .compound
  | .extension => some .extension
  | .config => some .config
  | .leaf => Option.none

/-- An open declaration without name, reference, tags and children. -/
def fresh (role : Role) (production : Production) (parent : Option Id) (location : Location)
    (isExternal : Bool) : Declaration where
  name := Option.none
  parent := parent
  children := []
  role := role
  production := production
  subtype := production.initialSubtype
  reference := .none
  target? := Option.none
  arity := Option.none
  metadata := .empty
  invocation := Option.none
  referencedBy := []
  key := Option.none
  isNewType := false
  location := location
  isExternal := isExternal
  target?_eq := rfl

/-- What is found where no declaration is. -/
instance : Inhabited Declaration := ⟨fresh .standard .root Option.none .api false⟩

/-- Things may be declared inside. -/
def isObject (d : Declaration) : Bool :=
  d.production == .object || d.production == .root

/-- The declaration no longer changes. -/
def isCommitted (d : Declaration) : Bool := d.key.isSome

/-- The arity that holds: one, unless the source gives another. -/
def effectiveArity (d : Declaration) : Arity := d.arity.getD .single

/-- How an error names a declaration. -/
def label (d : Declaration) : String := (d.key.or d.name).getD "<root>"

/-! ## Changes -/

/-- The declaration under another reference, with what this one leads to. -/
def withReference (d : Declaration) (reference : Reference) : Declaration :=
  { d with reference := reference, target? := reference.target?, target?_eq := rfl }

@[simp] theorem withReference_self (d : Declaration) : d.withReference d.reference = d := by
  cases d with
  | mk _ _ _ _ _ _ _ _ _ _ _ _ _ _ _ _ target?_eq =>
    subst target?_eq
    rfl

/-- A field of a committed declaration was to be changed. -/
def violation (d : Declaration) (field : Field) : SchemaError :=
  .immutable d.label field d.location

/-- `changed` in place of `d`, if `d` is open. -/
def change (d : Declaration) (field : Field) (changed : Declaration) :
    Except SchemaError Declaration :=
  if d.isCommitted then .error (d.violation field) else .ok changed

/-- Give a name. -/
def setName (d : Declaration) (name : String) : Except SchemaError Declaration :=
  d.change .name { d with name := some name }

/-- Say what the declaration turned out to be. -/
def setSubtype (d : Declaration) (subtype : Subtype) : Except SchemaError Declaration :=
  d.change .subtype { d with subtype := some subtype }

/-- Give a reference; one that has been resolved stays. -/
def setReference (d : Declaration) (reference : Reference) : Except SchemaError Declaration :=
  if d.reference.isSettled then .error (d.violation .reference)
  else d.change .reference (d.withReference reference)

/-- Give an arity. -/
def setArity (d : Declaration) (arity : Arity) : Except SchemaError Declaration :=
  d.change .arity { d with arity := some arity }

/-- Say whether the declaration makes a type of its own. -/
def setNewType (d : Declaration) (isNewType : Bool) : Except SchemaError Declaration :=
  d.change .newType { d with isNewType := isNewType }

/-- Make the declaration the use of an extension. -/
def setInvocation (d : Declaration) (call : Invocation) : Except SchemaError Declaration :=
  d.change .extension { d with invocation := some call }

/-- Attach a tag, which must not be attached already. -/
def addMetadata (d : Declaration) (item : Metadata.Item) : Except SchemaError Declaration := do
  let d ← d.change .metadata d
  return { d with metadata := ← d.metadata.insert item }

/-- Change the arguments of an extension; other declarations have none. -/
def changeArguments (d : Declaration) (f : Invocation → Invocation) :
    Except SchemaError Declaration := do
  let d ← d.change .extension d
  match d.invocation with
  | some call => return { d with invocation := some (f call) }
  | Option.none => throw (.unsupported .looseStringLiteral d.location)

/-- Add an argument of an extension. -/
def addPositional (d : Declaration) (v : Metadata.Value) : Except SchemaError Declaration :=
  d.changeArguments fun call => { call with positional := call.positional ++ [v] }

/-- Add a named argument of an extension. -/
def addKeyword (d : Declaration) (name : String) (v : Metadata.Value) :
    Except SchemaError Declaration :=
  d.changeArguments fun call => { call with keywords := call.keywords ++ [(name, v)] }

/-- Take note of a child. -/
def addChild (d : Declaration) (child : Id) : Except SchemaError Declaration :=
  d.change .children { d with children := d.children ++ [child] }

/-- Take note of a declaration that refers to this one. -/
def addReferrer (d : Declaration) (referrer : Id) : Except SchemaError Declaration :=
  d.change .referencedBy { d with referencedBy := d.referencedBy ++ [referrer] }

/-- Commit a declaration under its key. -/
def close (d : Declaration) (key : String) : Except SchemaError Declaration :=
  d.change .state { d with key := some key }

end Declaration

end TypeSchema
