/-
# Reading — what a schema says is what the type says

A schema is read in the way in which XML Schema has it: the name of a built-in
type, a restriction of one by facets, or elements that follow each other or
exclude each other, each with a type and with bounds on how often it occurs,
where once is not said (`formOf`).  What a type has to say in this way is its
`Form`: base types, bounds, lengths, patterns and values of enumerations, names
and arities of members, all the way down.

A schema is put together of texts, but each text stands for one form
(`StandsFor`), and what is put around it keeps that (`standsFor_restriction`,
`isElement_element`, `standsFor_complex`).  So the form of a type is read from
its schema (`ValueType.formOf_xmlSchema`).
-/
import TypeSchema.Proofs.Arity
import TypeSchema.Proofs.Double.Text
import TypeSchema.Proofs.ValueType.Constraints
import TypeSchema.Proofs.ValueType.Construction
import TypeSchema.Proofs.XmlSchema.Markup

namespace TypeSchema

namespace Xml

/-! ## Forms -/

/-- A bound of whole numbers or of doubles. -/
inductive Bound where
  | whole (i : Int)
  | double (d : Double)

/-- A built-in type under conditions. -/
structure Simple where
  base : String
  least : Option Bound
  greatest : Option Bound
  minLength : Nat
  maxLength : Option Nat
  pattern : Option String
  values : List String

/-- A built-in type without conditions. -/
def Simple.plain (base : String) : Simple := ⟨base, none, none, 0, none, none, []⟩

mutual

/-- What a schema says of a type. -/
inductive Form where
  | simple (simple : Simple)
  /-- Elements one behind the other, and `further` ones if that is said. -/
  | sequence (elements : List Element) (further : Bool)
  | choice (elements : List Element)

/-- What a schema says of an element. -/
inductive Element where
  | mk (name : String) (arity : Arity) (form : Form)

end

/-! ## Reading schemas -/

/-- The built-in types that need no conditions. -/
def builtInTypes : List String :=
  ["xs:boolean", "xs:byte", "xs:short", "xs:int", "xs:long", "xs:integer", "xs:double",
    "xs:string", "xs:date", "xs:time", "xs:dateTime", "xs:duration", "xs:anyURI"]

/-- The bound that a text stands for, of a base type. -/
def Bound.read? (base text : String) : Option Bound :=
  if base = "xs:double" then (Double.ofChars text.toList).toOption.map .double
  else (Numeral.readInt Numeral.max63 text.toList).toOption.map .whole

/-- The length that a text stands for. -/
def readLength? (text : String) : Option Nat :=
  (Numeral.readNat Numeral.max64 text.toList).toOption

/-- A base type under facets, which are given with their values. -/
def Simple.ofFacets (base : String) (facets : Attributes) : Option Simple := do
  let least ← (facets.lookup "xs:minInclusive").mapM (Bound.read? base)
  let greatest ← (facets.lookup "xs:maxInclusive").mapM (Bound.read? base)
  let minLength ← (facets.lookup "xs:minLength").mapM readLength?
  let maxLength ← (facets.lookup "xs:maxLength").mapM readLength?
  let values := (facets.filter (·.1 = "xs:enumeration")).map (·.2)
  return ⟨base, least, greatest, minLength.getD 0, maxLength, facets.lookup "xs:pattern", values⟩

/-- A facet with its value. -/
def Node.facet? : Node → Option (String × String)
  | .empty name [(key, value)] => if key = "value" then some (name, value) else none
  | _ => none

/-- The form of what is inside of a simple type. -/
def Node.restriction? : List Node → Option Form
  | [.full name [(key, base)] facets] =>
    if name = "xs:restriction" ∧ key = "base" then do
      return .simple (← Simple.ofFacets base (← facets.mapM Node.facet?))
    else none
  | _ => none

/-- The form of a built-in type that is named. -/
def named? (type : String) : Option Form :=
  if type ∈ builtInTypes then some (.simple (.plain type)) else none

/-- How often an element occurs; what is not said is one. -/
def occurs? (attributes : Attributes) : Option Arity := do
  let least := (attributes.lookup "minOccurs").getD "1"
  let greatest := (attributes.lookup "maxOccurs").getD "1"
  let min ← (Arity.readBound least.toList).toOption
  let max ← if greatest = "unbounded" then some none
    else (Arity.readBound greatest.toList).toOption.map some
  (Arity.ofBounds min max).toOption

/-- An element with its attributes, and with the form of its type. -/
def element? (attributes : Attributes) (form : Option Form) : Option Element := do
  return .mk (← attributes.lookup "name") (← occurs? attributes) (← form)

mutual

/-- The form that a node stands for. -/
def Node.form? : Node → Option Form
  | .full name [] inside =>
    if name = "xs:simpleType" then Node.restriction? inside
    else if name = "xs:complexType" then Node.group? inside
    else none
  | _ => none

/-- The form of what is inside of a complex type. -/
def Node.group? : List Node → Option Form
  | [.full name [] particles] => do
    let (elements, further) ← Node.particles? particles
    if name = "xs:sequence" then some (.sequence elements further)
    else if name = "xs:choice" ∧ further = false then some (.choice elements)
    else none
  | _ => none

/-- The elements that nodes stand for, and whether further ones may follow. -/
def Node.particles? : List Node → Option (List Element × Bool)
  | [] => some ([], false)
  | .empty name attributes :: rest =>
    if name = "xs:any" then if rest.isEmpty then some ([], true) else none
    else if name = "xs:element" then do
      let element ← element? attributes ((attributes.lookup "type").bind named?)
      let (elements, further) ← Node.particles? rest
      return (element :: elements, further)
    else none
  | .full name attributes [type] :: rest =>
    if name = "xs:element" then do
      let element ← element? attributes type.form?
      let (elements, further) ← Node.particles? rest
      return (element :: elements, further)
    else none
  | _ => none

end

/-- The form that a schema stands for. -/
def formOf (schema : String) : Option Form :=
  named? schema <|> (read schema.toList).bind Node.form?

end Xml

open Xml

/-! ## Forms of types -/

mutual

/-- What the schema of a single value of a kind has to say. -/
def Kind.xmlForm : Kind → Form
  | .bool => .simple (.plain "xs:boolean")
  | .int l =>
    .simple { Simple.plain (XmlSchema.intBase l) with
      least := l.min.map (.whole ·.toInt)
      greatest := l.max.map (.whole ·.toInt) }
  | .number l =>
    .simple { Simple.plain "xs:double" with
      least := l.min.map .double
      greatest := l.max.map .double }
  | .string l =>
    .simple { Simple.plain "xs:string" with
      minLength := l.minLength.toNat
      maxLength := l.maxLength.map (·.toNat)
      pattern := l.expression.map (·.source) }
  | .enumeration l => .simple { Simple.plain "xs:string" with values := l.values }
  | .date => .simple (.plain "xs:date")
  | .time => .simple (.plain "xs:time")
  | .dateTime => .simple (.plain "xs:dateTime")
  | .duration => .simple (.plain "xs:duration")
  | .guid => .simple { Simple.plain "xs:string" with pattern := some XmlSchema.guidPattern }
  | .uri => .simple (.plain "xs:anyURI")
  | .filename _ => .simple { Simple.plain "xs:string" with minLength := 1 }
  | .directory _ => .simple { Simple.plain "xs:string" with minLength := 1 }
  | .object members exact => .sequence (Member.xmlForms members) (!exact)
  | .dict members exact => .sequence (Member.xmlForms members) (!exact)
  | .anyOf alternatives => .choice (ValueType.choiceForms 1 alternatives)

/-- The elements of members: their names, arities and types. -/
def Member.xmlForms : List Member → List Element
  | [] => []
  | .mk name (.mk kind arity _) :: rest => .mk name arity kind.xmlForm :: Member.xmlForms rest

/-- The elements of alternatives, whose names are their kinds with their numbers. -/
def ValueType.choiceForms (i : Nat) : List ValueType → List Element
  | [] => []
  | .mk kind arity _ :: rest =>
    .mk (kind.keyword ++ Numeral.ofNat i) arity kind.xmlForm :: ValueType.choiceForms (i + 1) rest

end

/-- What the schema of a type has to say.  A collection is made of items. -/
def ValueType.xmlForm (t : ValueType) : Form :=
  if t.arity.isCollection then .sequence [.mk "item" t.arity t.kind.xmlForm] false
  else t.kind.xmlForm

/-! ## Texts of nodes -/

namespace Xml

open XmlSchema (escape escapeChar attr element facet restriction complex)

theorem Node.allTags_eq (nodes : List Node) : Node.allTags nodes = nodes.flatMap Node.tags := by
  induction nodes with
  | nil => simp [allTags]
  | cons node nodes ih => simp [allTags, ih]

theorem Node.text_empty (name : String) (attributes : Attributes) :
    (Node.empty name attributes).text =
      '<' :: (name.toList ++ attributesText attributes) ++ ['/', '>'] := by
  simp [text, tags, Tag.text]

theorem Node.text_full (name : String) (attributes : Attributes) (inside : List Node) :
    (Node.full name attributes inside).text =
      '<' :: (name.toList ++ attributesText attributes) ++ '>' :: inside.flatMap Node.text ++
        '<' :: '/' :: name.toList ++ ['>'] := by
  have within : (inside.flatMap Node.tags).flatMap Tag.text = inside.flatMap Node.text :=
    List.flatMap_assoc
  simp [text, tags, Tag.text, allTags_eq, within]

theorem Node.isWritten_empty {name : String} {attributes : Attributes} (isName : IsName name)
    (are : AreAttributes attributes) : (Node.empty name attributes).IsWritten := by
  rw [IsWritten, tags]
  exact List.forall_mem_singleton.mpr ⟨isName, are⟩

theorem Node.isWritten_full {name : String} {attributes : Attributes} {inside : List Node}
    (isName : IsName name) (are : AreAttributes attributes)
    (within : ∀ node ∈ inside, node.IsWritten) :
    (Node.full name attributes inside).IsWritten := by
  rw [IsWritten, tags, allTags_eq]
  refine List.forall_mem_append.mpr ⟨List.forall_mem_cons.mpr ⟨⟨isName, are⟩, ?_⟩, ?_⟩
  · intro tag htag
    obtain ⟨node, hnode, htag⟩ := List.mem_flatMap.mp htag
    exact within node hnode tag htag
  · exact List.forall_mem_singleton.mpr isName

/-- A node starts with an opening bracket, as no name of a type does. -/
theorem Node.head?_text (node : Node) : node.text.head? = some '<' := by
  cases node with
  | empty name attributes => rw [text_empty]; rfl
  | full name attributes inside => rw [text_full]; rfl

theorem areAttributes_nil : AreAttributes [] := ⟨List.forall_mem_nil _, List.nodup_nil⟩

theorem areAttributes_singleton {a : String × String} (isName : IsName a.1) : AreAttributes [a] :=
  ⟨List.forall_mem_singleton.mpr isName, List.nodup_singleton _⟩

/-! ## Restrictions -/

/-- A text without characters that need references is written as it stands. -/
theorem escape_eq {s : String} (plain : ∀ c ∈ s.toList, escapeChar c = [c]) : escape s = s := by
  have flat : ∀ cs : List Char, (∀ c ∈ cs, escapeChar c = [c]) → cs.flatMap escapeChar = cs := by
    intro cs h
    induction cs with
    | nil => rfl
    | cons c cs ih =>
        obtain ⟨here, later⟩ := List.forall_mem_cons.mp h
        rw [List.flatMap_cons, here, ih later, List.singleton_append]
  rw [escape, flat _ plain, String.ofList_toList]

theorem escape_name {s : String} (isName : IsName s) : escape s = s := by
  refine escape_eq fun c hc => ?_
  have plain := isName.isNameChar_of_mem c hc
  unfold escapeChar
  split
  case h_6 => rfl
  all_goals exact absurd plain (by decide)

theorem isName_ofNat (n : Nat) : IsName (Numeral.ofNat n) := by
  rw [IsName, Numeral.toList_ofNat]
  refine ⟨Numeral.digits_ne_nil, List.all_eq_true.mpr fun c hc => ?_⟩
  rw [isNameChar, Char.isAlphanum, Numeral.isDigit_of_mem_digits hc, Bool.or_true, Bool.true_or]

theorem isName_of_mem_builtInTypes : ∀ s ∈ builtInTypes, IsName s := by decide

/-- A text is the schema that stands for a form. -/
def StandsFor (schema : String) (form : Form) : Prop :=
  (schema ∈ builtInTypes ∧ form = .simple (.plain schema)) ∨
    ∃ node : Node, node.IsWritten ∧ schema.toList = node.text ∧ node.form? = some form

theorem standsFor_named {type : String} (h : type ∈ builtInTypes) :
    StandsFor type (.simple (.plain type)) :=
  .inl ⟨h, rfl⟩

/-- The node of a facet. -/
def facetNode (f : String × String) : Node := .empty ("xs:" ++ f.1) [("value", f.2)]

theorem toList_facet (f : String × String) : (facet f.1 f.2).toList = (facetNode f).text := by
  rw [facetNode, Node.text_empty]
  simp [facet, attributesText]

theorem toList_join_facets (facets : List (String × String)) :
    (String.join (facets.map fun f => facet f.1 f.2)).toList =
      (facets.map facetNode).flatMap Node.text := by
  induction facets with
  | nil => rfl
  | cons f facets ih => simp [String.join_cons, toList_facet, ih]

/-- The names of facets. -/
def facetNames : List String :=
  ["minInclusive", "maxInclusive", "minLength", "maxLength", "pattern", "enumeration"]

/-- Facets with the names that they have in a schema. -/
def qualified (facets : List (String × String)) : Attributes :=
  facets.map fun f => ("xs:" ++ f.1, f.2)

theorem mapM_facetNode (facets : List (String × String)) :
    (facets.map facetNode).mapM Node.facet? = some (qualified facets) := by
  induction facets with
  | nil => rfl
  | cons f facets ih =>
      rw [List.map_cons, List.mapM_cons, ih]
      rfl

/-- A restriction says what its facets say; without facets it is its base. -/
theorem standsFor_restriction {base : String} {facets : List (String × String)} {simple : Simple}
    (isName : IsName base) (bare : facets = [] → base ∈ builtInTypes)
    (known : ∀ f ∈ facets, f.1 ∈ facetNames)
    (h : Simple.ofFacets base (qualified facets) = some simple) :
    StandsFor (restriction base (facets.map fun f => facet f.1 f.2)) (.simple simple) := by
  by_cases none : facets = []
  · -- nothing but the name of the base is written
    subst none
    obtain rfl : Simple.plain base = simple := Option.some.inj h
    exact standsFor_named (bare rfl)
  · right
    let inner : Node := .full "xs:restriction" [("base", base)] (facets.map facetNode)
    refine ⟨.full "xs:simpleType" [] [inner], ?_, ?_, ?_⟩
    · have names : ∀ name ∈ facetNames, IsName ("xs:" ++ name) := by decide
      refine Node.isWritten_full (by decide) areAttributes_nil (List.forall_mem_singleton.mpr ?_)
      have base : IsName "base" := by decide
      have value : IsName "value" := by decide
      refine Node.isWritten_full (by decide) (areAttributes_singleton base) ?_
      refine List.forall_mem_map.mpr fun f hf => ?_
      exact Node.isWritten_empty (names f.1 (known f hf)) (areAttributes_singleton value)
    · rw [Node.text_full, List.flatMap_singleton, Node.text_full, ← toList_join_facets]
      simp [restriction, none, attributesText, escape_name isName]
    · simp [Node.form?, Node.restriction?, inner, -List.mapM_map, mapM_facetNode, h]

/-! ## Elements -/

/-- The attributes that say how often an element occurs. -/
def occursAttributes (a : Arity) : Attributes :=
  (if a.min = 1 then [] else [("minOccurs", Numeral.ofNat a.min.toNat)]) ++
  match a.max with
  | some m => if m = 1 then [] else [("maxOccurs", Numeral.ofNat m.toNat)]
  | none => [("maxOccurs", "unbounded")]

theorem toList_occurs (a : Arity) :
    (XmlSchema.occurs a).toList = attributesText (occursAttributes a) := by
  have unbounded : escape "unbounded" = "unbounded" := escape_name (by decide)
  rw [XmlSchema.occurs, occursAttributes, attributesText, List.flatMap_append, String.toList_append]
  congr 1
  · split <;> simp [escape_name (isName_ofNat _)]
  · cases a.max with
    | none => simp [unbounded]
    | some m => by_cases one : m = 1 <;> simp [one, escape_name (isName_ofNat _)]

theorem areAttributes_append_occurs {attributes : Attributes} (are : AreAttributes attributes)
    (other : ∀ b ∈ attributes, b.1 ∉ ["minOccurs", "maxOccurs"]) (a : Arity) :
    AreAttributes (attributes ++ occursAttributes a) := by
  have keys : (occursAttributes a).map (·.1) ∈
      [[], ["minOccurs"], ["maxOccurs"], ["minOccurs", "maxOccurs"]] := by
    unfold occursAttributes
    cases a.max with
    | none => by_cases min : a.min = 1 <;> simp [min]
    | some m => by_cases min : a.min = 1 <;> by_cases max : m = 1 <;> simp [min, max]
  have plain : ∀ ks ∈ [[], ["minOccurs"], ["maxOccurs"], ["minOccurs", "maxOccurs"]],
      ks.Nodup ∧ ∀ k ∈ ks, IsName k ∧ k ∈ ["minOccurs", "maxOccurs"] := by decide
  obtain ⟨nodup, known⟩ := plain _ keys
  refine ⟨List.forall_mem_append.mpr ⟨are.1, fun b hb => ?_⟩, ?_⟩
  · exact (known b.1 (List.mem_map_of_mem hb)).1
  · rw [List.map_append, List.nodup_append]
    refine ⟨are.2, nodup, fun k hk k' hk' same => ?_⟩
    obtain ⟨b, hb, rfl⟩ := List.mem_map.mp hk
    exact other b hb (same ▸ (known k' hk').2)

theorem lookup_minOccurs (a : Arity) :
    ((occursAttributes a).lookup "minOccurs").getD "1" = Numeral.ofNat a.min.toNat := by
  have none : (match a.max with
      | some m => if m = 1 then [] else [("maxOccurs", Numeral.ofNat m.toNat)]
      | none => [("maxOccurs", "unbounded")]).lookup "minOccurs" = none := by
    cases a.max with
    | none => rfl
    | some m => by_cases one : m = 1 <;> simp [one]
  rw [occursAttributes, List.lookup_append, none, Option.or_none]
  by_cases one : a.min = 1
  · rw [if_pos one, one]
    rfl
  · rw [if_neg one]
    rfl

theorem lookup_maxOccurs (a : Arity) :
    ((occursAttributes a).lookup "maxOccurs").getD "1" =
      match a.max with
      | some m => Numeral.ofNat m.toNat
      | none => "unbounded" := by
  have none : (if a.min = 1 then [] else
      [("minOccurs", Numeral.ofNat a.min.toNat)]).lookup "maxOccurs" = none := by
    split <;> rfl
  rw [occursAttributes, List.lookup_append, none, Option.none_or]
  cases a.max with
  | none => rfl
  | some m =>
      by_cases one : m = 1
      · simp only [one]
        rfl
      · simp only [if_neg one]
        rfl

theorem ofNat_ne_unbounded (n : Nat) : Numeral.ofNat n ≠ "unbounded" := by
  intro same
  have letter : 'u' ∈ Numeral.digits n := by
    rw [← Numeral.toList_ofNat, same]
    decide
  exact absurd (Numeral.isDigit_of_mem_digits letter) (by decide)

/-- How often an element occurs is read with once for what is not said. -/
theorem occurs?_append {attributes : Attributes} (a : Arity)
    (other : ∀ b ∈ attributes, b.1 ∉ ["minOccurs", "maxOccurs"]) :
    occurs? (attributes ++ occursAttributes a) = some a := by
  have behind : ∀ key ∈ ["minOccurs", "maxOccurs"],
      (attributes ++ occursAttributes a).lookup key = (occursAttributes a).lookup key := by
    intro key hkey
    have absent : attributes.lookup key = none := by
      refine List.lookup_eq_none_iff.mpr fun b hb => ?_
      rw [bne_iff_ne]
      rintro rfl
      exact other b hb hkey
    rw [List.lookup_append, absent, Option.none_or]
  have digits : ∀ n : UInt32,
      (Arity.readBound (Numeral.ofNat n.toNat).toList).toOption = some n := by
    intro n
    rw [Numeral.toList_ofNat, Arity.readBound_digits]
    rfl
  have bounds : (Arity.ofBounds a.min a.max).toOption = some a := by
    rw [Arity.ofBounds_self]
    rfl
  rw [occurs?, behind "minOccurs" (by decide), behind "maxOccurs" (by decide), lookup_minOccurs,
    lookup_maxOccurs, digits]
  cases max : a.max with
  | none =>
      rw [max] at bounds
      simpa using bounds
  | some m =>
      rw [max] at bounds
      simpa [ofNat_ne_unbounded, digits] using bounds

theorem element?_append {attributes : Attributes} {name : String} {form : Form} (a : Arity)
    (named : attributes.lookup "name" = some name)
    (other : ∀ b ∈ attributes, b.1 ∉ ["minOccurs", "maxOccurs"]) :
    element? (attributes ++ occursAttributes a) (some form) = some (.mk name a form) := by
  rw [element?, occurs?_append a other, List.lookup_append, named]
  rfl

/-- A text is an element. -/
def IsElement (text : List Char) (element : Element) : Prop :=
  ∃ node : Node, node.IsWritten ∧ text = node.text ∧ ∀ rest,
    Node.particles? (node :: rest) =
      (Node.particles? rest).map fun read => (element :: read.1, read.2)

section Element

variable {name schema : String} {form : Form} (a : Arity)

theorem isElement_named (builtIn : schema ∈ builtInTypes) :
    IsElement (element name schema a).toList (.mk name a (.simple (.plain schema))) := by
  have outside : ∀ s ∈ builtInTypes, XmlSchema.isInline s = false := by decide
  let attributes : Attributes := [("name", name), ("type", schema)]
  have are : AreAttributes attributes := ⟨by simp [attributes]; decide, by simp [attributes]⟩
  have other : ∀ b ∈ attributes, b.1 ∉ ["minOccurs", "maxOccurs"] := by simp [attributes]
  refine ⟨.empty "xs:element" (attributes ++ occursAttributes a), ?_, ?_, fun rest => ?_⟩
  · exact Node.isWritten_empty (by decide) (areAttributes_append_occurs are other a)
  · rw [Node.text_empty, attributesText, List.flatMap_append, ← attributesText,
      ← attributesText, ← toList_occurs]
    simp [element, outside _ builtIn, attributes, attributesText,
      escape_name (isName_of_mem_builtInTypes _ builtIn)]
  · -- the type that is named says what the schema says
    have type : (attributes ++ occursAttributes a).lookup "type" = some schema := rfl
    have form : named? schema = some (.simple (.plain schema)) := if_pos builtIn
    rw [Node.particles?, type, Option.bind_some, form, element?_append a rfl other]
    cases Node.particles? rest <;> rfl

theorem isElement_inline {node : Node} (written : node.IsWritten)
    (text : schema.toList = node.text) (read : node.form? = some form) :
    IsElement (element name schema a).toList (.mk name a form) := by
  have inside : XmlSchema.isInline schema = true := by
    simp [XmlSchema.isInline, text, node.head?_text]
  let attributes : Attributes := [("name", name)]
  have are : AreAttributes attributes := ⟨by simp [attributes]; decide, by simp [attributes]⟩
  have other : ∀ b ∈ attributes, b.1 ∉ ["minOccurs", "maxOccurs"] := by simp [attributes]
  refine ⟨.full "xs:element" (attributes ++ occursAttributes a) [node], ?_, ?_, fun rest => ?_⟩
  · exact Node.isWritten_full (by decide) (areAttributes_append_occurs are other a)
      (List.forall_mem_singleton.mpr written)
  · rw [Node.text_full, attributesText, List.flatMap_append, ← attributesText,
      ← attributesText, ← toList_occurs, List.flatMap_singleton, ← text]
    simp [element, inside, attributes, attributesText]
  · rw [Node.particles?, read, element?_append a rfl other]
    cases Node.particles? rest <;> rfl

/-- An element has its name, its arity and the form of its type, whether that is
named or put inside. -/
theorem isElement_element (stands : StandsFor schema form) :
    IsElement (element name schema a).toList (.mk name a form) := by
  rcases stands with ⟨builtIn, rfl⟩ | ⟨node, written, text, read⟩
  · exact isElement_named a builtIn
  · exact isElement_inline a written text read

end Element

/-! ## Groups -/

/-- A text is elements, one behind the other, and then maybe any further ones. -/
def AreParticles (text : List Char) (elements : List Element) (further : Bool) : Prop :=
  ∃ nodes : List Node, (∀ node ∈ nodes, node.IsWritten) ∧ text = nodes.flatMap Node.text ∧
    Node.particles? nodes = some (elements, further)

theorem areParticles_nil : AreParticles [] [] false :=
  ⟨[], List.forall_mem_nil _, rfl, by rw [Node.particles?]⟩

theorem areParticles_anyFurther : AreParticles XmlSchema.anyFurther.toList [] true := by
  let attributes : Attributes :=
    [("minOccurs", "0"), ("maxOccurs", "unbounded"), ("processContents", "lax")]
  refine ⟨[.empty "xs:any" attributes], List.forall_mem_singleton.mpr ?_, ?_, ?_⟩
  · exact Node.isWritten_empty (by decide) ⟨by decide, by decide⟩
  · rw [List.flatMap_singleton, Node.text_empty]
    decide
  · rw [Node.particles?]
    rfl

theorem IsElement.areParticles {text more : List Char} {element : Element}
    {elements : List Element} {further : Bool} (h : IsElement text element)
    (rest : AreParticles more elements further) :
    AreParticles (text ++ more) (element :: elements) further := by
  obtain ⟨node, written, rfl, read⟩ := h
  obtain ⟨nodes, allWritten, rfl, readRest⟩ := rest
  refine ⟨node :: nodes, List.forall_mem_cons.mpr ⟨written, allWritten⟩, rfl, ?_⟩
  rw [read, readRest]
  rfl

theorem standsFor_complex {group text : String} {elements : List Element} {further : Bool}
    {form : Form} (isName : IsName ("xs:" ++ group))
    (particles : AreParticles text.toList elements further)
    (read : ∀ nodes, Node.particles? nodes = some (elements, further) →
      Node.group? [.full ("xs:" ++ group) [] nodes] = some form) :
    StandsFor (complex group text) form := by
  right
  obtain ⟨nodes, written, isText, readNodes⟩ := particles
  refine ⟨.full "xs:complexType" [] [.full ("xs:" ++ group) [] nodes], ?_, ?_, ?_⟩
  · exact Node.isWritten_full (by decide) areAttributes_nil
      (List.forall_mem_singleton.mpr (Node.isWritten_full isName areAttributes_nil written))
  · rw [Node.text_full, List.flatMap_singleton, Node.text_full, ← isText]
    unfold complex
    simp only [String.toList_append, attributesText, List.flatMap_nil, List.append_nil]
    simp
  · rw [Node.form?, if_neg (by decide), if_pos rfl]
    exact read nodes readNodes

theorem standsFor_sequence {text : String} {elements : List Element} {further : Bool}
    (particles : AreParticles text.toList elements further) :
    StandsFor (complex "sequence" text) (.sequence elements further) := by
  refine standsFor_complex (by decide) particles fun nodes read => ?_
  rw [Node.group?, read]
  rfl

theorem standsFor_choice {text : String} {elements : List Element}
    (particles : AreParticles text.toList elements false) :
    StandsFor (complex "choice" text) (.choice elements) := by
  refine standsFor_complex (by decide) particles fun nodes read => ?_
  rw [Node.group?, read]
  rfl

/-- The form that a schema stands for is read from it. -/
theorem StandsFor.formOf_eq {schema : String} {form : Form} (h : StandsFor schema form) :
    formOf schema = some form := by
  rcases h with ⟨builtIn, rfl⟩ | ⟨node, written, text, read⟩
  · rw [formOf, named?, if_pos builtIn]
    rfl
  · have inside : schema ∉ builtInTypes := by
      have names : ∀ s ∈ builtInTypes, s.toList.head? ≠ some '<' := by decide
      intro builtIn
      exact names _ builtIn (text ▸ node.head?_text)
    have node : Xml.read schema.toList = some node := by
      rw [text, read_eq_some, Node.tags_text written]
    rw [formOf, named?, if_neg inside, node]
    exact read

end Xml

/-! ## Schemas of types -/

section Simple

open XmlSchema (facet restriction intBase ofIntLimits ofNumberLimits ofStringLimits)

/-- A facet with its value, if there is one. -/
def Xml.limit {α : Type} (name : String) (v : Option α) (text : α → String) :
    List (String × String) :=
  (v.map fun a => (name, text a)).toList

theorem XmlSchema.bound_eq {α : Type} (name : String) (v : Option α) (text : α → String) :
    XmlSchema.bound name v text = (limit name v text).map fun f => facet f.1 f.2 := by
  cases v <;> rfl

theorem Xml.mem_limit {α : Type} {name : String} {v : Option α} {text : α → String}
    {f : String × String} (h : f ∈ limit name v text) : f.1 = name := by
  cases v with
  | none => cases h
  | some a => rw [List.mem_singleton.mp h]

theorem Xml.readLength?_ofNat (n : UInt64) :
    readLength? (Numeral.ofNat n.toNat) = some n.toNat := by
  have fits : n.toNat ≤ Numeral.max64 := Nat.le_of_lt_succ n.toNat_lt
  rw [readLength?, Numeral.toList_ofNat, Numeral.readNat_digits fits]
  rfl

theorem Xml.read?_whole {base : String} (other : base ≠ "xs:double") (i : Int64) :
    Bound.read? base (Numeral.ofInt i.toInt) = some (.whole i.toInt) := by
  rw [Bound.read?, if_neg other, Numeral.readInt_toInt]
  rfl

theorem Xml.read?_double {d : Double} (number : d.isNaN = false) :
    Bound.read? "xs:double" d.text = some (.double d) := by
  rw [Bound.read?, if_pos rfl, Double.ofChars_text_of_not_isNaN number]
  rfl

/-- The base types of integers. -/
def XmlSchema.intBases : List String :=
  ["xs:unsignedByte", "xs:unsignedShort", "xs:nonNegativeInt", "xs:unsignedLong",
    "xs:nonNegativeInteger", "xs:byte", "xs:short", "xs:int", "xs:long", "xs:integer"]

theorem XmlSchema.intBase_mem (l : IntLimits) : intBase l ∈ intBases := by
  unfold intBase
  split <;> decide

/-- Unsigned types are not named alone: what makes them unsigned is a bound. -/
theorem XmlSchema.intBase_mem_builtInTypes {l : IntLimits} (unbounded : l.min = none) :
    intBase l ∈ builtInTypes := by
  have signed : l.isUnsigned = false := by rw [IntLimits.isUnsigned, unbounded]
  unfold intBase
  rw [signed]
  split <;> first | decide | simp_all

theorem Xml.standsFor_int (l : IntLimits) :
    StandsFor (ofIntLimits l) (Kind.int l).xmlForm := by
  have bases : ∀ s ∈ XmlSchema.intBases, IsName s ∧ s ≠ "xs:double" := by decide
  obtain ⟨isName, other⟩ := bases _ (XmlSchema.intBase_mem l)
  rw [ofIntLimits, XmlSchema.bound_eq, XmlSchema.bound_eq, ← List.map_append, Kind.xmlForm]
  refine standsFor_restriction isName (fun none => ?_) (fun f hf => ?_) ?_
  · refine XmlSchema.intBase_mem_builtInTypes ?_
    cases min : l.min with
    | none => rfl
    | some lo => simp [limit, min] at none
  · rcases List.mem_append.mp hf with hf | hf <;> rw [mem_limit hf] <;> decide
  · cases l.min <;> cases l.max <;>
      simp [Simple.ofFacets, qualified, limit, read?_whole other, Simple.plain, List.lookup_cons]

theorem Xml.standsFor_number {l : NumberLimits}
    (numbers : ∀ d, l.min = some d ∨ l.max = some d → d.isNaN = false) :
    StandsFor (ofNumberLimits l) (Kind.number l).xmlForm := by
  rw [ofNumberLimits, XmlSchema.bound_eq, XmlSchema.bound_eq, ← List.map_append, Kind.xmlForm]
  refine standsFor_restriction (by decide) (fun _ => by decide) (fun f hf => ?_) ?_
  · rcases List.mem_append.mp hf with hf | hf <;> rw [mem_limit hf] <;> decide
  · cases min : l.min <;> cases max : l.max <;>
      simp_all [Simple.ofFacets, qualified, limit, read?_double, Simple.plain, List.lookup_cons]

theorem Xml.standsFor_string (l : StringLimits) :
    StandsFor (ofStringLimits l) (Kind.string l).xmlForm := by
  have length : (if 0 < l.minLength then [facet "minLength" (Numeral.ofNat l.minLength.toNat)]
      else []) = (if 0 < l.minLength then [("minLength", Numeral.ofNat l.minLength.toNat)]
      else []).map fun f => facet f.1 f.2 := by
    split <;> rfl
  rw [ofStringLimits, XmlSchema.bound_eq, XmlSchema.bound_eq, length, ← List.map_append,
    ← List.map_append, Kind.xmlForm]
  refine standsFor_restriction (by decide) (fun _ => by decide) (fun f hf => ?_) ?_
  · rcases List.mem_append.mp hf with hf | hf
    · rcases List.mem_append.mp hf with hf | hf
      · split at hf
        · rw [List.mem_singleton.mp hf]
          show "minLength" ∈ facetNames
          decide
        · cases hf
      · rw [mem_limit hf]
        decide
    · rw [mem_limit hf]
      decide
  · by_cases some : 0 < l.minLength
    · cases l.maxLength <;> cases l.expression <;>
        simp [Simple.ofFacets, qualified, limit, readLength?_ofNat, Simple.plain,
          List.lookup_cons, some]
    · have zero : l.minLength.toNat = 0 := by
        simpa [UInt64.lt_iff_toNat_lt] using some
      cases l.maxLength <;> cases l.expression <;>
        simp [Simple.ofFacets, qualified, limit, readLength?_ofNat, Simple.plain,
          List.lookup_cons, some, zero]

theorem Xml.standsFor_enumeration (l : EnumLimits) :
    StandsFor (restriction "xs:string" (l.values.map (facet "enumeration")))
      (Kind.enumeration l).xmlForm := by
  have facets : l.values.map (facet "enumeration") =
      (l.values.map fun v => ("enumeration", v)).map fun f => facet f.1 f.2 := by simp
  have absent : ∀ key, key ≠ "xs:enumeration" →
      (l.values.map fun v => ("xs:enumeration", v)).lookup key = none := by
    intro key other
    refine List.lookup_eq_none_iff.mpr (List.forall_mem_map.mpr fun v _ => ?_)
    rwa [bne_iff_ne]
  rw [facets, Kind.xmlForm]
  refine standsFor_restriction (by decide) (fun _ => by decide) ?_ ?_
  · exact List.forall_mem_map.mpr fun v _ => show "enumeration" ∈ facetNames by decide
  · have named : qualified (l.values.map fun v => ("enumeration", v)) =
        l.values.map fun v => ("xs:enumeration", v) := by
      simp [qualified]
    have values : ((l.values.map fun v => ("xs:enumeration", v)).filter
        (·.1 = "xs:enumeration")).map (·.2) = l.values := by
      rw [List.filter_eq_self.mpr (List.forall_mem_map.mpr fun v _ => rfl), List.map_map]
      exact List.map_id' _
    rw [named, Simple.ofFacets, values]
    simp [absent, Simple.plain]

/-- A string under one facet. -/
theorem Xml.standsFor_facet {name value : String} {simple : Simple} (known : name ∈ facetNames)
    (h : Simple.ofFacets "xs:string" [("xs:" ++ name, value)] = some simple) :
    StandsFor (restriction "xs:string" [facet name value]) (.simple simple) := by
  have stands : StandsFor (restriction "xs:string"
      ([(name, value)].map fun f => facet f.1 f.2)) (.simple simple) :=
    standsFor_restriction (by decide) (fun _ => by decide)
      (List.forall_mem_singleton.mpr known) h
  exact stands

end Simple

/-- Members are elements if their types are said. -/
theorem Member.areParticles_xmlElements {members : List Member} {more : List Char}
    {elements : List Element} {further : Bool}
    (types : ∀ m ∈ members, StandsFor m.type.kind.xmlSchema m.type.kind.xmlForm)
    (rest : AreParticles more elements further) :
    AreParticles ((Member.xmlElements members).toList ++ more)
      (Member.xmlForms members ++ elements) further := by
  induction members with
  | nil =>
      rw [xmlElements, xmlForms]
      exact rest
  | cons m members ih =>
      obtain ⟨here, later⟩ := List.forall_mem_cons.mp types
      obtain ⟨name, ⟨kind, arity, hook⟩⟩ := m
      rw [xmlElements, xmlForms, String.toList_append, List.append_assoc, List.cons_append]
      exact (isElement_element arity here).areParticles (ih later)

theorem ValueType.areParticles_xmlChoices {alternatives : List ValueType} (i : Nat)
    (types : ∀ t ∈ alternatives, StandsFor t.kind.xmlSchema t.kind.xmlForm) :
    AreParticles (ValueType.xmlChoices i alternatives).toList
      (ValueType.choiceForms i alternatives) false := by
  induction alternatives generalizing i with
  | nil =>
      rw [xmlChoices, choiceForms]
      exact areParticles_nil
  | cons t alternatives ih =>
      obtain ⟨here, later⟩ := List.forall_mem_cons.mp types
      obtain ⟨kind, arity, hook⟩ := t
      rw [xmlChoices, choiceForms, String.toList_append]
      exact (isElement_element arity here).areParticles (ih (i + 1) later)

theorem Member.standsFor_members {members : List Member} (exact : Bool)
    (types : ∀ m ∈ members, StandsFor m.type.kind.xmlSchema m.type.kind.xmlForm) :
    StandsFor (XmlSchema.complex "sequence"
        (Member.xmlElements members ++ if exact then "" else XmlSchema.anyFurther))
      (.sequence (Member.xmlForms members) (!exact)) := by
  refine standsFor_sequence ?_
  rw [String.toList_append, ← List.append_nil (Member.xmlForms members)]
  refine areParticles_xmlElements types ?_
  cases exact with
  | true => exact areParticles_nil
  | false => exact areParticles_anyFurther

/-- The schema of a kind stands for its form, if those of its parts do. -/
theorem Kind.standsFor_xmlSchema {k : Kind} (agree : k.checkConstraints = .ok ())
    (parts : ∀ t ∈ k.parts, StandsFor t.kind.xmlSchema t.kind.xmlForm) :
    StandsFor k.xmlSchema k.xmlForm := by
  cases k with
  | int l =>
      rw [xmlSchema]
      exact standsFor_int l
  | number l =>
      rw [xmlSchema]
      exact standsFor_number (NumberLimits.check_eq_ok.mp agree).number
  | string l =>
      rw [xmlSchema]
      exact standsFor_string l
  | enumeration l =>
      rw [xmlSchema]
      exact standsFor_enumeration l
  | guid =>
      rw [xmlSchema, xmlForm]
      exact standsFor_facet (by decide) rfl
  | filename l | directory e =>
      rw [xmlSchema, xmlForm]
      exact standsFor_facet (by decide) rfl
  | object members exact | dict members exact =>
      rw [xmlSchema, xmlForm]
      exact Member.standsFor_members exact (List.forall_mem_map.mp parts)
  | anyOf alternatives =>
      rw [xmlSchema, xmlForm]
      exact standsFor_choice (ValueType.areParticles_xmlChoices 1 parts)
  | _ =>
      rw [xmlSchema, xmlForm]
      exact standsFor_named (by decide)

theorem ValueType.standsFor_kind {t : ValueType} (sound : t.Throughout IsSound) :
    StandsFor t.kind.xmlSchema t.kind.xmlForm := by
  induction sound with
  | intro here _ ih => exact Kind.standsFor_xmlSchema here.1 ih

theorem ValueType.standsFor_xmlSchema {t : ValueType} (made : t.Made) :
    StandsFor t.xmlSchema t.xmlForm := by
  have item := standsFor_kind (made_iff.mp made)
  rw [xmlSchema, xmlForm, XmlSchema.collected]
  split
  · refine standsFor_sequence ?_
    rw [← List.append_nil (XmlSchema.element _ _ _).toList]
    exact (isElement_element t.arity item).areParticles areParticles_nil
  · exact item

/-- The schema of a type is the name of a built-in type or tags that nest to one
node, and what the type has to say is read from it. -/
theorem ValueType.formOf_xmlSchema {t : ValueType} (made : t.Made) :
    (t.xmlSchema ∈ builtInTypes ∨
      ∃ node : Node, Xml.tags t.xmlSchema.toList = some node.tags) ∧
    formOf t.xmlSchema = some t.xmlForm := by
  have stands := standsFor_xmlSchema made
  refine ⟨?_, stands.formOf_eq⟩
  rcases stands with ⟨builtIn, -⟩ | ⟨node, written, text, -⟩
  · exact .inl builtIn
  · exact .inr ⟨node, text ▸ Node.tags_text written⟩

/-- A class with characters in its texts that need references. -/
theorem ValueType.formOf_xmlSchema_references :
    let color : ValueType := .mk (.enumeration ⟨["<red>", "\"&amp;\" '"], none⟩) .optional none
    let size : ValueType := .mk (.int ⟨some (-3), none, some 2⟩) .zeroOrMore none
    let t : ValueType := .mk (.object [.mk "a\"/>" color, .mk "größe" size] false) .single none
    t.Made ∧ (∃ node : Node, Xml.tags t.xmlSchema.toList = some node.tags) ∧
      formOf t.xmlSchema = some (.sequence
        [.mk "a\"/>" .optional
          (.simple { Simple.plain "xs:string" with values := ["<red>", "\"&amp;\" '"] }),
        .mk "größe" .zeroOrMore
          (.simple { Simple.plain "xs:short" with least := some (.whole (-3)) })] true) := by
  intro color size t
  have made : t.Made := by
    refine made_iff.mpr (.intro ⟨rfl, trivial⟩ (List.forall_mem_cons.mpr ⟨?_, ?_⟩))
    · exact .flat ⟨rfl, trivial⟩ rfl
    · exact List.forall_mem_singleton.mpr (.flat ⟨rfl, trivial⟩ rfl)
  have inside : t.xmlSchema ∉ builtInTypes := by decide
  obtain ⟨nested, read⟩ := formOf_xmlSchema made
  exact ⟨made, nested.resolve_left inside, read.trans rfl⟩

end TypeSchema
