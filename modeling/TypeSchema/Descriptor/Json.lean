import TypeSchema.Descriptor
import TypeSchema.Json.Reading
import TypeSchema.Json.Writing

/-!
# Descriptors as JSON

A descriptor is written as an object: the arity if there is one, the keyword of the kind, and what
belongs to the kind.  A member has its name in front of its type.

Reading ignores fields it does not know and takes null for an optional field that is left out.  A
field that counts for the kind may be given only once.  Instead of the keyword of a kind its number
in the order of all kinds is read as well.
-/

namespace TypeSchema.Descriptor

open Json (compact)

/-! ## Writing -/

/-- A field that is left out if there is nothing to say. -/
def optionalField {α : Type} (name : String) (v : Option α) (write : α → Json) :
    List (String × Json) :=
  match v with
  | some a => [(name, write a)]
  | none => []

/-- An array of strings. -/
def stringsJson (items : List String) : Json := .array (items.map .string)

/-- A whole number of 64 bits. -/
def int64Json (i : Int64) : Json := .ofInt i.toInt

/-- The fields of a kind whose parts have been written. -/
def kindField (keyword : String) : String × Json := ("kind", .string keyword)

mutual

/-- The fields of a descriptor. -/
def fields : Descriptor → List (String × Json)
  | .mk arity shape => optionalField "arity" arity (.string ·.text) ++ shapeFields shape

/-- The keyword of a kind, and what belongs to it. -/
def shapeFields : Shape → List (String × Json)
  | .bool => [kindField "bool"]
  | .int l =>
    kindField "int" :: optionalField "min" l.min int64Json ++
    optionalField "max" l.max int64Json ++ optionalField "bytes" l.bytes (.ofNat ·.toNat)
  | .number l =>
    kindField "number" :: optionalField "min" l.min .ofDouble ++
    optionalField "max" l.max .ofDouble
  | .string expression minLength maxLength =>
    kindField "string" :: optionalField "validation_expression" expression .string ++
    optionalField "min_length" minLength (.ofNat ·.toNat) ++
    optionalField "max_length" maxLength (.ofNat ·.toNat)
  | .enumeration l =>
    kindField "enum" :: ("values", stringsJson l.values) ::
    optionalField "friendly_values" l.friendly stringsJson
  | .date => [kindField "date"]
  | .time => [kindField "time"]
  | .dateTime => [kindField "datetime"]
  | .duration => [kindField "duration"]
  | .guid => [kindField "guid"]
  | .uri => [kindField "uri"]
  | .filename l =>
    [kindField "filename", ("ensure_exists", .bool l.ensureExists),
      ("match_any", .bool l.matchAny)]
  | .directory e => [kindField "directory", ("ensure_exists", .bool e)]
  | .object parts exact =>
    [kindField "class", ("members", .array (partsJson parts)),
      ("require_exact_match", .bool exact)]
  | .dict parts exact =>
    [kindField "dict", ("members", .array (partsJson parts)),
      ("require_exact_match", .bool exact)]
  | .anyOf alternatives =>
    [kindField "any_of", ("alternatives", .array (alternativesJson alternatives))]

/-- Members as objects. -/
def partsJson : List Part → List Json
  | [] => []
  | .mk n d :: rest => .object (("name", .string n) :: fields d) :: partsJson rest

/-- Alternatives as objects. -/
def alternativesJson : List Descriptor → List Json
  | [] => []
  | d :: rest => .object (fields d) :: alternativesJson rest

end

/-- A descriptor as an object. -/
def toJson (d : Descriptor) : Json := .object d.fields

/-- The text of a descriptor. -/
def text (d : Descriptor) : String := compact d.toJson

/-! ## Reading -/

/-- The form of a kind, without what belongs to it. -/
inductive Form where
  | fundamental (kind : Fundamental)
  | object
  | dict
  | anyOf
deriving DecidableEq, Repr

/-- All forms, in the order of their numbers. -/
def Form.all : List Form := Fundamental.all.map .fundamental ++ [.object, .dict, .anyOf]

/-- The keyword of a form. -/
def Form.keyword : Form → String
  | .fundamental kind => kind.keyword
  | .object => "class"
  | .dict => "dict"
  | .anyOf => "any_of"

/-- The form that a field for the kind names, by keyword or by number. -/
def Form.ofJson : Json → Option Form
  | .string s => Form.all.find? (·.keyword = s)
  | .number (.int i) => if 0 ≤ i then Form.all[i.toNat]? else none
  | _ => none

/-- The value of a field that is given at most once; `none` if it is given more often. -/
def once (name : String) (fields : List (String × Json)) : Option (Option Json) :=
  match fields.filter (·.1 = name) with
  | [] => some none
  | [(_, v)] => some (some v)
  | _ => none

/-- The value of a field that has to be there, read by `read`. -/
def required {α : Type} (read : Json → Option α) (fields : List (String × Json))
    (name : String) : Option α :=
  match once name fields with
  | some (some v) => read v
  | _ => none

/-- The value of a field that may be left out or null, read by `read`. -/
def optional {α : Type} (read : Json → Option α) (fields : List (String × Json))
    (name : String) : Option (Option α) :=
  match once name fields with
  | some none => some none
  | some (some .null) => some none
  | some (some v) => (read v).map some
  | none => none

/-- A switch that may be left out, and is off then. -/
def switch (fields : List (String × Json)) (name : String) : Option Bool :=
  match once name fields with
  | some none => some false
  | some (some (.bool b)) => some b
  | _ => none

/-- A string. -/
def readString : Json → Option String
  | .string s => some s
  | _ => none

/-- An array of strings. -/
def readStrings : Json → Option (List String)
  | .array items => items.mapM readString
  | _ => none

/-- A whole number between two bounds. -/
def readInt (low high : Int) : Json → Option Int
  | .number (.int i) => if low ≤ i ∧ i ≤ high then some i else none
  | _ => none

/-- A whole number of 64 bits with sign. -/
def readInt64 (j : Json) : Option Int64 := (readInt (-Numeral.max63 - 1) Numeral.max63 j).map Int64.ofInt

/-- A whole number of 64 bits without sign. -/
def readUInt64 (j : Json) : Option UInt64 :=
  (readInt 0 Numeral.max64 j).map (·.toNat.toUInt64)

/-- A whole number of eight bits without sign. -/
def readUInt8 (j : Json) : Option UInt8 := (readInt 0 255 j).map (·.toNat.toUInt8)

/-- A number; whole numbers widen. -/
def readDouble : Json → Option Double
  | .number n => some n.toDouble
  | _ => none

/-- A shorthand text of an arity. -/
def readArity : Json → Option Arity
  | .string s => (Arity.ofChars s.toList).toOption
  | _ => none

/-- The kind in the fields of an object, once its members and its alternatives have been read. -/
def readShape (fields : List (String × Json)) (parts : Option (List Part))
    (alternatives : Option (List Descriptor)) : Form → Option Shape
  | .fundamental .bool => some .bool
  | .fundamental .int => do
    let min ← optional readInt64 fields "min"
    let max ← optional readInt64 fields "max"
    let bytes ← optional readUInt8 fields "bytes"
    return .int ⟨min, max, bytes⟩
  | .fundamental .number => do
    let min ← optional readDouble fields "min"
    let max ← optional readDouble fields "max"
    return .number ⟨min, max⟩
  | .fundamental .string => do
    let expression ← optional readString fields "validation_expression"
    let minLength ← optional readUInt64 fields "min_length"
    let maxLength ← optional readUInt64 fields "max_length"
    return .string expression minLength maxLength
  | .fundamental .enumeration => do
    let values ← required readStrings fields "values"
    let friendly ← optional readStrings fields "friendly_values"
    return .enumeration ⟨values, friendly⟩
  | .fundamental .date => some .date
  | .fundamental .time => some .time
  | .fundamental .dateTime => some .dateTime
  | .fundamental .duration => some .duration
  | .fundamental .guid => some .guid
  | .fundamental .uri => some .uri
  | .fundamental .filename => do
    let ensureExists ← switch fields "ensure_exists"
    let matchAny ← switch fields "match_any"
    return .filename ⟨ensureExists, matchAny⟩
  | .fundamental .directory => (switch fields "ensure_exists").map .directory
  | .object => do return .object (← parts) (← switch fields "require_exact_match")
  | .dict => do return .dict (← parts) (← switch fields "require_exact_match")
  | .anyOf => alternatives.map .anyOf

/-- The descriptor in the fields of an object, once its members and alternatives have been read. -/
def readFields (fields : List (String × Json)) (parts : Option (List Part))
    (alternatives : Option (List Descriptor)) : Option Descriptor := do
  let arity ← optional readArity fields "arity"
  let form ← required Form.ofJson fields "kind"
  let shape ← readShape fields parts alternatives form
  return .mk arity shape

/-- What is read of a field given once stands; a second one spoils it. -/
def alone {α : Type} (first : Option α) (rest : List (String × Json)) (name : String) :
    Option α :=
  if rest.any (·.1 = name) then none else first

mutual

/-- The descriptor that a value stands for. -/
def ofJson : Json → Option Descriptor
  | .object fields => readFields fields (readMembers fields) (readAlternatives fields)
  | _ => none

/-- The members in the fields of an object, if they are given once. -/
def readMembers : List (String × Json) → Option (List Part)
  | [] => none
  | (n, v) :: rest =>
    if n = "members" then alone (readPartList v) rest "members" else readMembers rest

/-- The members in an array. -/
def readPartList : Json → Option (List Part)
  | .array items => readParts items
  | _ => none

/-- The members that values stand for. -/
def readParts : List Json → Option (List Part)
  | [] => some []
  | j :: rest => do
    let part ← readPart j
    let parts ← readParts rest
    return part :: parts

/-- The member that a value stands for. -/
def readPart : Json → Option Part
  | .object fields => do
    let name ← required readString fields "name"
    let type ← readFields fields (readMembers fields) (readAlternatives fields)
    return .mk name type
  | _ => none

/-- The alternatives in the fields of an object, if they are given once. -/
def readAlternatives : List (String × Json) → Option (List Descriptor)
  | [] => none
  | (n, v) :: rest =>
    if n = "alternatives" then alone (readDescriptorList v) rest "alternatives"
    else readAlternatives rest

/-- The alternatives in an array. -/
def readDescriptorList : Json → Option (List Descriptor)
  | .array items => readDescriptors items
  | _ => none

/-- The descriptors that values stand for. -/
def readDescriptors : List Json → Option (List Descriptor)
  | [] => some []
  | j :: rest => do
    let d ← ofJson j
    let ds ← readDescriptors rest
    return d :: ds

end

/-- The descriptor of a JSON text. -/
def ofChars (cs : List Char) : Except SchemaError Descriptor :=
  match (Json.ofChars cs).bind ofJson with
  | some d => .ok d
  | none => .error .invalidJson

end TypeSchema.Descriptor
