import TypeSchema.Double.Reading
import TypeSchema.Fundamental
import TypeSchema.Guid
import TypeSchema.Location
import TypeSchema.Metadata.Value
import TypeSchema.Rejection
import TypeSchema.Uri.Host

/-!
# Errors

What can go wrong when declarations are built, resolved and used.  Each error is a cause; its
wording, its place and the exit code it leads to are functions of it.
-/

namespace TypeSchema

/-- Why tags or the constraints of a type contradict each other. -/
inductive ConstraintFault where
  | unknownTag
  | wrongHost (expected found : Metadata.Host)
  | notForObjects
  | notForKind (kind : Fundamental)
  | negative
  | width
  | fractionalBound
  | crossedInts (min max : Int64)
  | crossedNumbers (min max : Double)
  | crossedLengths (min max : UInt64)
  | unknownWidth (bytes : Nat)
  | tooWide (tag : String) (v : Int64) (bytes : Nat)
  | notANumber
  | zeroLength
  | noValues
  | repeatedValue (v : String)
  | friendlyCount (values friendly : Nat)
  | noAlternatives
  | unnamedMember
  | repeatedMember (name : String)
  | expression
  /-- A value that no tag can hold. -/
  | unsupportedValue (what : String)
deriving DecidableEq, Repr

/-- The wording of a fault of constraints. -/
def ConstraintFault.message : ConstraintFault → String
  | .unknownTag => "unknown metadata tag"
  | .wrongHost expected found => "expected " ++ expected.word ++ " value, got " ++ found.word
  | .notForObjects => "does not apply to objects"
  | .notForKind kind => "does not apply to " ++ kind.keyword
  | .negative => "must not be negative"
  | .width => "must be 1, 2, 4 or 8"
  | .fractionalBound => "int bounds must be integers"
  | .crossedInts min max =>
    "min (" ++ Numeral.ofInt min.toInt ++ ") is greater than max (" ++
    Numeral.ofInt max.toInt ++ ")"
  | .crossedNumbers min max => "min (" ++ min.text ++ ") is greater than max (" ++ max.text ++ ")"
  | .crossedLengths min max =>
    "min_length (" ++ Numeral.ofNat min.toNat ++ ") is greater than max_length (" ++
    Numeral.ofNat max.toNat ++ ")"
  | .unknownWidth bytes => Numeral.ofNat bytes ++ " is not 1, 2, 4 or 8"
  | .tooWide tag v bytes =>
    tag ++ " (" ++ Numeral.ofInt v.toInt ++ ") does not fit in " ++ Numeral.ofNat bytes ++
    " byte(s)"
  | .notANumber => "must be a number"
  | .zeroLength => "must be at least 1"
  | .noValues => "at least one value is required"
  | .repeatedValue v => Rejection.inQuotes v ++ " appears more than once"
  | .friendlyCount values friendly =>
    Numeral.ofNat values ++ " value(s) but " ++ Numeral.ofNat friendly ++ " friendly value(s)"
  | .noAlternatives => "at least one alternative is required"
  | .unnamedMember => "member names must not be empty"
  | .repeatedMember name => "member " ++ Rejection.inQuotes name ++ " appears more than once"
  | .expression => "invalid regular expression"
  | .unsupportedValue what => "unsupported metadata value: " ++ what

/-- Something that a source may not use where it does. -/
inductive Construct where
  | attributeDeclarations
  | definitionDeclarations
  | objectDeclarations
  | endWithoutBegin
  | beginWithoutEnd
  | extension (name : String)
  | documentArity
  | looseStringLiteral
  | memberOfSimple (object : String)
  | declarationWithoutType
  | classText
  | dictionaryText
  | entryShape
  | entryWithoutType
  | misplacedField (field what : String)
  | extensionAsType
  | unclassified
  | baselessSimple
deriving DecidableEq, Repr

/-- The wording of a construct. -/
def Construct.text : Construct → String
  | .attributeDeclarations => "attribute declarations"
  | .definitionDeclarations => "definition declarations"
  | .objectDeclarations => "object declarations"
  | .endWithoutBegin => "end_object without begin_object"
  | .beginWithoutEnd => "object without end_object"
  | .extension name => "extension " ++ Rejection.inQuotes name
  | .documentArity => "arity on the document"
  | .looseStringLiteral => "string literal outside an extension"
  | .memberOfSimple object =>
    "non-attribute member on simple object " ++ Rejection.inQuotes object
  | .declarationWithoutType => "a declaration without a type"
  | .classText => "string serialization of a class"
  | .dictionaryText => "string serialization of a dictionary"
  | .entryShape =>
    "an entry without exactly one of \"object\", \"extension\", \"config\" or \"name\""
  | .entryWithoutType => "an entry without a \"type\""
  | .misplacedField field what => Rejection.inQuotes field ++ " on " ++ what
  | .extensionAsType => "an extension invocation used as a type"
  | .unclassified => "an unclassified declaration"
  | .baselessSimple => "a simple object without a base type"

/-- A part of a declaration that can be set. -/
inductive Field where
  | name | subtype | reference | arity | metadata | extension | newType | referencedBy
  | children | state
deriving DecidableEq, Repr

/-- The word for a part of a declaration. -/
def Field.word : Field → String
  | .name => "name"
  | .subtype => "subtype"
  | .reference => "reference"
  | .arity => "arity"
  | .metadata => "metadata"
  | .extension => "extension"
  | .newType => "is_new_type"
  | .referencedBy => "referenced_by"
  | .children => "children"
  | .state => "state"

/-- Why a text stands for no value of a kind. -/
inductive TextFault where
  | noAlternative
  | int (f : Numeral.Fault)
  | number (f : Double.Fault)
  | notOneOf (s : String)
  | part (name digits : String) (f : Numeral.Fault)
  | fraction (f : Numeral.Fault)
  | notADate (year : Int) (month day : Nat)
  | notATime (hour minute second : Nat)
  | durationRange
  | guid (f : Guid.Fault)
  | uri (f : Uri.Fault)
  | rejected (r : Rejection.Reason)

/-- The wording of a fault of a text. -/
def TextFault.message : TextFault → String
  | .noAlternative => "no alternative matched"
  | .int f => f.message
  | .number f => f.message
  | .notOneOf s => Rejection.inQuotes s ++ " is not one of the values"
  | .part name digits f => name ++ " " ++ Rejection.inQuotes digits ++ ": " ++ f.message
  | .fraction f => "fraction: " ++ f.message
  | .notADate y m d =>
    Numeral.paddedInt 4 y ++ "-" ++ Numeral.padded 2 m ++ "-" ++ Numeral.padded 2 d ++
    " is not a calendar date"
  | .notATime h m s =>
    Numeral.padded 2 h ++ ":" ++ Numeral.padded 2 m ++ ":" ++ Numeral.padded 2 s ++
    " is not a time of day"
  | .durationRange => "duration out of range"
  | .guid f => f.message
  | .uri f => f.message
  | .rejected r => r.message

/-- Why something that is there cannot be read as text. -/
inductive ReadFault where
  | directory
  | encoding
deriving DecidableEq, Repr

/-- The wording of a fault of reading. -/
def ReadFault.message : ReadFault → String
  | .directory => "Is a directory (os error 21)"
  | .encoding => "stream did not contain valid UTF-8"

/-- What goes wrong with declarations and types. -/
inductive SchemaError where
  | invalidArity (text : String) (fault : Arity.Fault) (place : Location)
  | duplicateMetadata (tag : String) (first place : Location)
  | metadataConstraint (tags : List String) (fault : ConstraintFault) (place : Location)
  | unresolvedReference (reference : String) (place : Location)
  | circularReference (key : String) (place : Location)
  | unsupported (construct : Construct) (place : Location)
  | duplicateKey (key : String) (first place : Location)
  | immutable (key : String) (field : Field) (place : Location)
  | stringFormat (kind text : String) (fault : TextFault) (place : Location)
  | invalidValue (rejection : Rejection)
  | fileNotFound (path : Path)
  | readError (path : Path) (fault : ReadFault)
  | invalidJson

namespace SchemaError

/-- A fault of constraints that no source is to blame for. -/
def constraint (tags : List String) (fault : ConstraintFault) : SchemaError :=
  .metadataConstraint tags fault .api

/-- The place an error belongs to, if it has one. -/
def place? : SchemaError → Option Location
  | .invalidArity _ _ l => some l
  | .duplicateMetadata _ _ l => some l
  | .metadataConstraint _ _ l => some l
  | .unresolvedReference _ l => some l
  | .circularReference _ l => some l
  | .unsupported _ l => some l
  | .duplicateKey _ _ l => some l
  | .immutable _ _ l => some l
  | .stringFormat _ _ _ l => some l
  | .invalidValue _ => none
  | .fileNotFound _ => none
  | .readError _ _ => none
  | .invalidJson => none

/-- The error, blamed on `other` where it was made by a call. -/
def placedAt (e : SchemaError) (other : Location) : SchemaError :=
  match e with
  | .invalidArity t f l => .invalidArity t f (l.orElse other)
  | .duplicateMetadata t first l => .duplicateMetadata t first (l.orElse other)
  | .metadataConstraint ts f l => .metadataConstraint ts f (l.orElse other)
  | .unresolvedReference r l => .unresolvedReference r (l.orElse other)
  | .circularReference k l => .circularReference k (l.orElse other)
  | .unsupported c l => .unsupported c (l.orElse other)
  | .duplicateKey k first l => .duplicateKey k first (l.orElse other)
  | .immutable k f l => .immutable k f (l.orElse other)
  | .stringFormat k t f l => .stringFormat k t f (l.orElse other)
  | e => e

/-- The wording of an error apart from its place. -/
def cause : SchemaError → String
  | .invalidArity t f _ => "invalid arity " ++ Rejection.inQuotes t ++ ": " ++ f.message
  | .duplicateMetadata t first _ =>
    "metadata " ++ Rejection.inQuotes t ++ " was already provided (first at " ++ first.text ++ ")"
  | .metadataConstraint ts f _ =>
    "invalid metadata [" ++ ", ".intercalate ts ++ "]: " ++ f.message
  | .unresolvedReference r _ => "unable to resolve reference " ++ Rejection.inQuotes r
  | .circularReference k _ => "circular reference through " ++ Rejection.inQuotes k
  | .unsupported c _ => c.text ++ " is not supported here"
  | .duplicateKey k first _ =>
    Rejection.inQuotes k ++ " is already defined (first at " ++ first.text ++ ")"
  | .immutable k f _ =>
    "declaration " ++ Rejection.inQuotes k ++ " is committed and can no longer change " ++ f.word
  | .stringFormat k t f _ =>
    Rejection.inQuotes t ++ " is not a valid " ++ k ++ ": " ++ f.message
  | .invalidValue r => "invalid value: " ++ r.text
  | .fileNotFound p => "file not found: " ++ p.text
  | .readError p f => "cannot read " ++ p.text ++ ": " ++ f.message
  | .invalidJson => "invalid JSON"

/-- The text of an error, behind its place if it has one. -/
def message (e : SchemaError) : String :=
  match e.place? with
  | some l => l.text ++ ": " ++ e.cause
  | none => e.cause

/-- The exit code of a program that ends with the error: three if something cannot be read, one for
a rejected value and two otherwise. -/
def exitCode : SchemaError → Nat
  | .fileNotFound _ => 3
  | .readError _ _ => 3
  | .invalidValue _ => 1
  | _ => 2

end SchemaError

/-- The arity of two bounds that a call gives. -/
def Arity.checked (min : UInt32) (max : Option UInt32) : Except SchemaError Arity :=
  (Arity.ofBounds min max).mapError fun fault =>
    .invalidArity (Arity.boundsText min max) fault .api

/-- The arity of a shorthand text that stands at `place`. -/
def Arity.read (text : String) (place : Location) : Except SchemaError Arity :=
  (Arity.ofChars text.toList).mapError fun fault => .invalidArity text fault place

end TypeSchema
