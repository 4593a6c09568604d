import TypeSchema.Builder

/-!
# Scripts

A script is what a reader of sources does with one of them: it makes calls one after the other, may
go by what each one gives, and ends or gives up.  It touches declarations through its calls only.
-/

namespace TypeSchema

open Declaration (Id Role)

/-- A call that builds declarations. -/
inductive Builder.Call where
  | beginObject (name : String) (role : Role) (base : Option String) (place : Location)
  | endObject
  | declaration (name : String) (role : Role) (reference : String) (place : Location)
  | extension (name : String) (place : Location)
  | config (name reference : String) (place : Location)
  | metadata (tag : String) (value : Metadata.Value) (place : Location)
  | arity (text : String) (place : Location)
  | stringLiteral (text : String)
  | addInclude (path : String) (place : Location)
deriving DecidableEq, Repr

namespace Builder

/-- Make a call.  Those that begin or end a declaration give it. -/
def Call.perform : Call → Action (Option Id)
  | .beginObject name role base place => do return some (← Builder.beginObject name role base place)
  | .endObject => do return some (← Builder.endObject)
  | .declaration name role reference place => do
    return some (← Builder.declaration name role reference place)
  | .extension name place => do return some (← Builder.extension name place)
  | .config name reference place => do return some (← Builder.config name reference place)
  | .metadata tag value place => do Builder.metadata tag value place; return none
  | .arity text place => do Builder.arity text place; return none
  | .stringLiteral text => do Builder.stringLiteral text; return none
  | .addInclude path place => do Builder.addInclude path place; return none

end Builder

/-- Calls, each of which may depend on what the earlier ones gave. -/
inductive Script where
  | done
  | fail (e : SchemaError)
  | call (c : Builder.Call) (next : Except SchemaError (Option Id) → Script)

namespace Script

/-- Make the calls of a script. -/
def run : Script → Builder.Action Unit
  | .done => return ()
  | .fail e => throw e
  | .call c next => fun b =>
    match c.perform b with
    | .ok reply b => (next (.ok reply)).run b
    | .error e b => (next (.error e)).run b

/-- One script after another. -/
def andThen : Script → Script → Script
  | .done, after => after
  | .fail e, _ => .fail e
  | .call c next, after => .call c fun reply => (next reply).andThen after

/-- A call that has to succeed. -/
def need (c : Builder.Call) : Script :=
  .call c fun
    | .ok _ => .done
    | .error e => .fail e

/-- Scripts one after another. -/
def sequence : List Script → Script
  | [] => .done
  | s :: rest => s.andThen (sequence rest)

/-- What comes of a value, if there is one. -/
def ofExcept {α : Type} (r : Except SchemaError α) (s : α → Script) : Script :=
  match r with
  | .ok a => s a
  | .error e => .fail e

end Script

/-- A reader of sources: the script for the text of a source with a name.  Each source is read once,
so for one resolution a reader that remembers the earlier ones is such a function, too. -/
abbrev FrontEnd : Type := (source text : String) → Script

end TypeSchema
