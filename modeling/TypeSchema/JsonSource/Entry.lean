import TypeSchema.Declaration
import TypeSchema.Json.Record

/-!
# Entries

An entry of a source written as JSON declares one thing, and an object may have entries for what it
contains.  Each entry knows at which character it starts.
-/

namespace TypeSchema.JsonSource

open Declaration (Role)

/-- What an entry says apart from its members. -/
structure Header where
  object : Option String
  base : Option String
  extension : Option String
  args : List String
  keywords : List (String × Json)
  config : Option String
  name : Option String
  type : Option String
  kind : Option Role
  arity : Option String
  metadata : List (String × Json)

/-- An entry of a source. -/
inductive Entry where
  /-- Something that is no entry. -/
  | unreadable (start : Nat)
  | mk (start : Nat) (header : Header) (members : List Entry)

/-- The names of the fields of an entry. -/
def Entry.fieldNames : List String :=
  ["object", "base", "extension", "args", "keywords", "config", "name", "type", "kind", "arity",
    "metadata", "members"]

/-- The role of a word. -/
def roleOfWord : String → Option Role
  | "standard" => some .standard
  | "attribute" => some .attr
  | "definition" => some .definition
  | _ => none

/-- The role that a value names, alone or as the one field of an object. -/
def readRole : Json.Raw → Option Role
  | .string _ body => (Json.unescapeString body).bind roleOfWord
  | .object _ [(name, .null _)] => (Json.unescapeString name).bind roleOfWord
  | _ => none

/-- The strings of an array. -/
def readStrings (v : Json.Raw) : Option (List String) :=
  v.items?.bind (·.mapM Json.Raw.string?)

/-- The tags in an object in their order, each as often as it was written.  Their values are
inside an entry and a list of tags. -/
def readTags : Json.Raw → Option (List (String × Json))
  | .object _ fields => Json.Raw.readFields (Json.maxDepth - 2) fields
  | _ => none

/-- What the fields of an entry say. -/
def Header.ofFields (fields : List (String × Json.Raw)) : Option Header := do
  let text := Json.Raw.optional Json.Raw.string? fields
  return {
    object := ← text "object"
    base := ← text "base"
    extension := ← text "extension"
    args := ← Json.Raw.many readStrings fields "args"
    keywords := ← Json.Raw.many readTags fields "keywords"
    config := ← text "config"
    name := ← text "name"
    type := ← text "type"
    kind := ← Json.Raw.optional readRole fields "kind"
    arity := ← text "arity"
    metadata := ← Json.Raw.many readTags fields "metadata" }

/-- An entry, if its header and its members could be read. -/
def Entry.ofParts (start : Nat) (header : Option Header) (members : Option (List Entry)) :
    Entry :=
  match header, members with
  | some header, some members => .mk start header members
  | _, _ => .unreadable start

/-- What a record of an entry says apart from its members. -/
def Header.ofRaw (v : Json.Raw) : Option Header :=
  (v.record Entry.fieldNames).bind Header.ofFields

mutual

/-- The entry that a value is. -/
def Entry.ofRaw : Json.Raw → Entry
  | .object start fields =>
    .ofParts start (Header.ofRaw (.object start fields)) (Entry.membersOfFields fields)
  | .array start items =>
    .ofParts start (Header.ofRaw (.array start items)) (Entry.membersOfItems 11 items)
  | v => .unreadable v.start

/-- The members in the fields of an entry. -/
def Entry.membersOfFields : List (List Char × Json.Raw) → Option (List Entry)
  | [] => some []
  | (name, v) :: rest =>
    if Json.unescapeString name = some "members" then Entry.membersOf v
    else Entry.membersOfFields rest

/-- The members in the item behind `n` others. -/
def Entry.membersOfItems : Nat → List Json.Raw → Option (List Entry)
  | _, [] => some []
  | 0, v :: _ => Entry.membersOf v
  | n + 1, _ :: rest => Entry.membersOfItems n rest

/-- The members in an array. -/
def Entry.membersOf : Json.Raw → Option (List Entry)
  | .array _ items => some (Entry.all items)
  | _ => none

/-- The entries that values are. -/
def Entry.all : List Json.Raw → List Entry
  | [] => []
  | v :: rest => Entry.ofRaw v :: Entry.all rest

end

end TypeSchema.JsonSource
