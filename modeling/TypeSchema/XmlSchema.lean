import TypeSchema.ValueType.Constraints

/-!
# XML Schema

The XML Schema of a type, without blanks.  Kinds without facets are the names of built-in types,
others are restrictions of these; classes are sequences of elements that say how often they occur.
-/

namespace TypeSchema

namespace XmlSchema

/-- What guids look like. -/
def guidPattern : String :=
  "[0-9a-fA-F]\x7b8\x7d-[0-9a-fA-F]\x7b4\x7d-[0-9a-fA-F]\x7b4\x7d-[0-9a-fA-F]\x7b4\x7d-" ++
  "[0-9a-fA-F]\x7b12\x7d"

/-- A character as it stands in an attribute. -/
def escapeChar (c : Char) : List Char :=
  match c with
  | '&' => "&amp;".toList
  | '<' => "&lt;".toList
  | '>' => "&gt;".toList
  | '"' => "&quot;".toList
  | '\'' => "&apos;".toList
  | c => [c]

/-- A text as it stands in an attribute. -/
def escape (s : String) : String := String.ofList (s.toList.flatMap escapeChar)

/-- A name and a value between quotes, behind a blank. -/
def attr (name value : String) : String := " " ++ name ++ "=\"" ++ value ++ "\""

/-- How often an element occurs; once is not said. -/
def occurs (a : Arity) : String :=
  (if a.min = 1 then "" else attr "minOccurs" (Numeral.ofNat a.min.toNat)) ++
  match a.max with
  | some m => if m = 1 then "" else attr "maxOccurs" (Numeral.ofNat m.toNat)
  | none => attr "maxOccurs" "unbounded"

/-- A fragment is a type of its own, and not the name of one. -/
def isInline (fragment : String) : Bool := fragment.toList.head? = some '<'

/-- An element of a type. -/
def element (name fragment : String) (a : Arity) : String :=
  if isInline fragment then
    "<xs:element" ++ attr "name" (escape name) ++ occurs a ++ ">" ++ fragment ++
    "</xs:element>"
  else
    "<xs:element" ++ attr "name" (escape name) ++ attr "type" fragment ++ occurs a ++ "/>"

/-- One condition of a restriction. -/
def facet (name value : String) : String :=
  "<xs:" ++ name ++ attr "value" (escape value) ++ "/>"

/-- A base type under conditions; the base type alone if there are none. -/
def restriction (base : String) (facets : List String) : String :=
  if facets.isEmpty then base
  else
    "<xs:simpleType><xs:restriction" ++ attr "base" base ++ ">" ++ String.join facets ++
    "</xs:restriction></xs:simpleType>"

/-- A condition, if there is one. -/
def bound {α : Type} (name : String) (v : Option α) (text : α → String) : List String :=
  match v with
  | some a => [facet name (text a)]
  | none => []

/-- The built-in type of integers of a sign and a width. -/
def intBase (l : IntLimits) : String :=
  match l.isUnsigned, l.bytes with
  | true, some 1 => "xs:unsignedByte"
  | true, some 2 => "xs:unsignedShort"
  | true, some 4 => "xs:nonNegativeInt"
  | true, some 8 => "xs:unsignedLong"
  | true, _ => "xs:nonNegativeInteger"
  | false, some 1 => "xs:byte"
  | false, some 2 => "xs:short"
  | false, some 4 => "xs:int"
  | false, some 8 => "xs:long"
  | false, _ => "xs:integer"

/-- Integers. -/
def ofIntLimits (l : IntLimits) : String :=
  restriction (intBase l)
    (bound "minInclusive" l.min (Numeral.ofInt ·.toInt) ++
      bound "maxInclusive" l.max (Numeral.ofInt ·.toInt))

/-- Numbers. -/
def ofNumberLimits (l : NumberLimits) : String :=
  restriction "xs:double"
    (bound "minInclusive" l.min Double.text ++ bound "maxInclusive" l.max Double.text)

/-- Strings. -/
def ofStringLimits (l : StringLimits) : String :=
  restriction "xs:string"
    ((if 0 < l.minLength then [facet "minLength" (Numeral.ofNat l.minLength.toNat)] else []) ++
      bound "maxLength" l.maxLength (Numeral.ofNat ·.toNat) ++
      bound "pattern" l.expression (·.source))

/-- Strings that are not empty. -/
def nonEmpty : String := restriction "xs:string" [facet "minLength" "1"]

/-- A type that consists of elements. -/
def complex (group elements : String) : String :=
  "<xs:complexType><xs:" ++ group ++ ">" ++ elements ++ "</xs:" ++ group ++ "></xs:complexType>"

/-- Any further elements. -/
def anyFurther : String :=
  "<xs:any minOccurs=\"0\" maxOccurs=\"unbounded\" processContents=\"lax\"/>"

/-- A collection of items is a sequence of elements. -/
def collected (a : Arity) (item : String) : String :=
  if a.isCollection then complex "sequence" (element "item" item a) else item

end XmlSchema

open XmlSchema

mutual

/-- The XML Schema of a single value of a kind. -/
def Kind.xmlSchema : Kind → String
  | .bool => "xs:boolean"
  | .int l => ofIntLimits l
  | .number l => ofNumberLimits l
  | .string l => ofStringLimits l
  | .enumeration l => restriction "xs:string" (l.values.map (facet "enumeration"))
  | .date => "xs:date"
  | .time => "xs:time"
  | .dateTime => "xs:dateTime"
  | .duration => "xs:duration"
  | .guid => restriction "xs:string" [facet "pattern" guidPattern]
  | .uri => "xs:anyURI"
  | .filename _ => nonEmpty
  | .directory _ => nonEmpty
  | .object members exact =>
    complex "sequence" (Member.xmlElements members ++ if exact then "" else anyFurther)
  | .dict members exact =>
    complex "sequence" (Member.xmlElements members ++ if exact then "" else anyFurther)
  | .anyOf alternatives => complex "choice" (ValueType.xmlChoices 1 alternatives)

/-- Members as elements, one after the other. -/
def Member.xmlElements : List Member → String
  | [] => ""
  | .mk name (.mk kind arity _) :: rest =>
    element name kind.xmlSchema arity ++ Member.xmlElements rest

/-- Alternatives as elements, one after the other; `i` is the number of the first.  The number keeps
the names of alternatives of one kind apart. -/
def ValueType.xmlChoices (i : Nat) : List ValueType → String
  | [] => ""
  | .mk kind arity _ :: rest =>
    element (kind.keyword ++ Numeral.ofNat i) kind.xmlSchema arity ++
    ValueType.xmlChoices (i + 1) rest

end

/-- The XML Schema of a type. -/
def ValueType.xmlSchema (t : ValueType) : String := collected t.arity t.kind.xmlSchema

end TypeSchema
