import TypeSchema.Builder.Script
import TypeSchema.JsonSource.Entry

/-!
# Sources written as JSON

A source is a record of the sources it includes and the entries it declares.  Includes come first;
entries are declared in their order, the members of an object between its beginning and its end.
Everything that an entry says is placed where the entry starts.
-/

namespace TypeSchema.JsonSource

open Declaration (Role)

/-- What an entry declares. -/
inductive Subject where
  | object (name : String)
  | extension (name : String)
  | config (name : String)
  | declaration (name : String)
deriving DecidableEq, Repr

/-- What an entry declares, if it names one thing. -/
def Header.subject? (h : Header) : Option Subject :=
  match h.object, h.extension, h.config, h.name with
  | some name, none, none, none => some (.object name)
  | none, some name, none, none => some (.extension name)
  | none, none, some name, none => some (.config name)
  | none, none, none, some name => some (.declaration name)
  | _, _, _, _ => none

/-- How an error names what an entry declares. -/
def Subject.words : Subject → String
  | .object _ => "an object"
  | .extension _ => "an extension"
  | .config _ => "a config entry"
  | .declaration _ => "a declaration"

/-- The fields that an entry may have. -/
def Subject.fields : Subject → List String
  | .object _ => ["base", "kind", "arity", "metadata", "members"]
  | .extension _ => ["args", "keywords"]
  | .config _ => ["type", "kind", "arity", "metadata"]
  | .declaration _ => ["type", "kind", "arity", "metadata"]

/-- The fields that an entry has. -/
def Header.given (h : Header) (hasMembers : Bool) : List String :=
  [("base", h.base.isSome), ("args", !h.args.isEmpty), ("keywords", !h.keywords.isEmpty),
    ("type", h.type.isSome), ("kind", h.kind.isSome), ("arity", h.arity.isSome),
    ("metadata", !h.metadata.isEmpty), ("members", hasMembers)].filterMap
    fun (field, isGiven) => if isGiven then some field else none

/-- What an entry declares, if it has no fields but those that go with it. -/
def Header.check (h : Header) (hasMembers : Bool) (place : Location) :
    Except SchemaError Subject :=
  match h.subject? with
  | none => .error (.unsupported .entryShape place)
  | some subject =>
    match (h.given hasMembers).find? (· ∉ subject.fields) with
    | some field => .error (.unsupported (.misplacedField field subject.words) place)
    | none => .ok subject

/-- The type that an entry gives. -/
def Header.requiredType (h : Header) (place : Location) : Except SchemaError String :=
  match h.type with
  | some type => .ok type
  | none => .error (.unsupported .entryWithoutType place)

/-- The value of a tag. -/
def tagValue (tag : String) (v : Json) (place : Location) : Except SchemaError Metadata.Value :=
  let refused (what : String) : Except SchemaError Metadata.Value :=
    .error (.metadataConstraint [tag] (.unsupportedValue what) place)
  match v with
  | .string s => .ok (.string s)
  | .bool b => .ok (.bool b)
  | .number (.int i) =>
    if Int64.minValue.toInt ≤ i ∧ i ≤ Int64.maxValue.toInt then .ok (.integer (.ofInt i))
    else .ok (.number (Double.ofInt i))
  | .number (.float d) => .ok (.number d)
  | .array items =>
    match items.mapM fun | .string s => some s | _ => none with
    | some strings => .ok (.list strings)
    | none => refused "lists may only hold strings"
  | .null => refused "null"
  | .object _ => refused "object"

/-- Attach tags one after another. -/
def tagScript (place : Location) (tags : List (String × Json)) : Script :=
  .sequence (tags.map fun (tag, v) =>
    .ofExcept (tagValue tag v place) fun value => .need (.metadata tag value place))

/-- Give what every entry but an extension may have: an arity and tags. -/
def commonScript (place : Location) (h : Header) : Script :=
  let arity : Script := match h.arity with
    | some text => .need (.arity text place)
    | none => .done
  arity.andThen (tagScript place h.metadata)

/-- Use an extension. -/
def extensionScript (place : Location) (h : Header) (name : String) : Script :=
  .sequence
    [.need (.extension name place),
     .sequence (h.args.map fun arg => .need (.stringLiteral arg)),
     tagScript place h.keywords]

/-- Declare what has a type and nothing inside. -/
def typedScript (place : Location) (h : Header) (call : String → Builder.Call) : Script :=
  .ofExcept (h.requiredType place) fun type =>
    (Script.need (call type)).andThen (commonScript place h)

/-- Declare an entry whose members are declared by `members`. -/
def entryScript (place : Location) (h : Header) (hasMembers : Bool) (members : Script) : Script :=
  .ofExcept (h.check hasMembers place) fun
    | .object name =>
      .sequence
        [.need (.beginObject name (h.kind.getD .standard) h.base place),
         members,
         .need .endObject,
         commonScript place h]
    | .extension name => extensionScript place h name
    | .config name => typedScript place h fun type => .config name type place
    | .declaration name =>
      typedScript place h fun type => .declaration name (h.kind.getD .standard) type place

mutual

/-- Declare an entry; `place` tells where something starts. -/
def Entry.script (place : Nat → Location) : Entry → Script
  | .unreadable _ => .fail .invalidJson
  | .mk start header members =>
    entryScript (place start) header (!members.isEmpty) (Entry.scripts place members)

/-- Declare entries one after another. -/
def Entry.scripts (place : Nat → Location) : List Entry → Script
  | [] => .done
  | e :: rest => (e.script place).andThen (Entry.scripts place rest)

end

/-- Include a source. -/
def includeScript (place : Nat → Location) (v : Json.Raw) : Script :=
  match v.string? with
  | some path => .need (.addInclude path (place v.start))
  | none => .fail .invalidJson

/-- What a source includes and declares. -/
def readSource (cs : List Char) : Option (List Json.Raw × List Json.Raw) := do
  let raw ← Json.Raw.ofChars cs
  let fields ← raw.record ["include", "declarations"]
  let includes ← Json.Raw.many Json.Raw.items? fields "include"
  let declarations ← Json.Raw.many Json.Raw.items? fields "declarations"
  return (includes, declarations)

/-- The reader of sources that are written as JSON. -/
def frontEnd : FrontEnd := fun source text =>
  let place := Location.after source text.toList
  match readSource text.toList with
  | none => .fail .invalidJson
  | some (includes, declarations) =>
    (Script.sequence (includes.map (includeScript place))).andThen
      (Entry.scripts place (Entry.all declarations))

end TypeSchema.JsonSource
