/-
# Markup — tags are read back, and so is what they are nested to

Reading markup is done in two steps.  Characters are read to tags by an
automaton (`Place.step`), which takes names of letters, digits and colons, and
values between double quotes, where characters that would end them are written
as references.  Tags are then nested with a stack of what is open (`Nesting`).

A text that is made of tags is read as these tags (`tags_flatMap`), since the
automaton comes back to where it was after each of them.  Tags can be nested
exactly if they are those of one node, with everything inside of it closed in
order (`nest_eq_some`): the stack always holds the tags that have been read
(`Nesting.tags_step`).
-/
import TypeSchema.XmlSchema

namespace TypeSchema.Xml

open XmlSchema (escape escapeChar attr)

/-! ## References -/

/-- A text with characters for references.  Only the five that markup itself
needs are known. -/
def unescape : List Char → Option (List Char)
  | [] => some []
  | '&' :: 'a' :: 'm' :: 'p' :: ';' :: cs => ('&' :: ·) <$> unescape cs
  | '&' :: 'l' :: 't' :: ';' :: cs => ('<' :: ·) <$> unescape cs
  | '&' :: 'g' :: 't' :: ';' :: cs => ('>' :: ·) <$> unescape cs
  | '&' :: 'q' :: 'u' :: 'o' :: 't' :: ';' :: cs => ('"' :: ·) <$> unescape cs
  | '&' :: 'a' :: 'p' :: 'o' :: 's' :: ';' :: cs => ('\'' :: ·) <$> unescape cs
  | '&' :: _ => none
  | c :: cs => (c :: ·) <$> unescape cs

theorem unescape_cons_of_ne {c : Char} {cs : List Char} (h : c ≠ '&') :
    unescape (c :: cs) = (c :: ·) <$> unescape cs := by
  rw [unescape.eq_def]
  split <;> simp_all

theorem unescape_escapeChar (c : Char) (cs : List Char) :
    unescape (escapeChar c ++ cs) = (c :: ·) <$> unescape cs := by
  unfold escapeChar
  split
  case h_6 other _ _ _ _ => exact unescape_cons_of_ne other
  all_goals simp [unescape]

theorem unescape_flatMap (cs : List Char) : unescape (cs.flatMap escapeChar) = some cs := by
  induction cs with
  | nil => rfl
  | cons c cs ih => simp [unescape_escapeChar, ih]

/-- What ends a value is written as a reference inside of it. -/
theorem plain_escape {s : String} : ∀ c ∈ (escape s).toList, c ≠ '"' ∧ c ≠ '<' := by
  have plain : ∀ c, (escapeChar c).all (fun e => e ≠ '"' ∧ e ≠ '<') = true := by
    intro c
    unfold escapeChar
    split
    case h_6 _ less _ quote _ => simpa using And.intro quote less
    all_goals rfl
  rw [escape, String.toList_ofList]
  intro e he
  obtain ⟨c, -, he⟩ := List.mem_flatMap.mp he
  exact of_decide_eq_true (List.all_eq_true.mp (plain c) e he)

/-! ## Tags -/

/-- Names of attributes with their values. -/
abbrev Attributes := List (String × String)

/-- What stands between angle brackets. -/
inductive Tag where
  | opening (name : String) (attributes : Attributes)
  | closing (name : String)
  /-- A tag that opens and closes at once. -/
  | empty (name : String) (attributes : Attributes)
deriving DecidableEq, Repr

/-- Attributes as they are written. -/
def attributesText (attributes : Attributes) : List Char :=
  attributes.flatMap fun a => (attr a.1 (escape a.2)).toList

/-- A tag as it is written. -/
def Tag.text : Tag → List Char
  | .opening name attributes => '<' :: (name.toList ++ attributesText attributes) ++ ['>']
  | .closing name => '<' :: '/' :: name.toList ++ ['>']
  | .empty name attributes => '<' :: (name.toList ++ attributesText attributes) ++ ['/', '>']

/-- The characters of names. -/
def isNameChar (c : Char) : Bool := c.isAlphanum || c = ':'

/-- A name has characters, all of them those of names. -/
def IsName (s : String) : Prop := s.toList ≠ [] ∧ s.toList.all isNameChar = true

instance : DecidablePred IsName := fun s =>
  inferInstanceAs (Decidable (s.toList ≠ [] ∧ s.toList.all isNameChar = true))

theorem IsName.isNameChar_of_mem {s : String} (h : IsName s) :
    ∀ c ∈ s.toList, isNameChar c = true := List.all_eq_true.mp h.2

/-- Attributes have names, and no two of them the same. -/
def AreAttributes (attributes : Attributes) : Prop :=
  (∀ a ∈ attributes, IsName a.1) ∧ (attributes.map (·.1)).Nodup

/-- The names in a tag are names. -/
def Tag.IsWritten : Tag → Prop
  | .opening name attributes => IsName name ∧ AreAttributes attributes
  | .closing name => IsName name
  | .empty name attributes => IsName name ∧ AreAttributes attributes

/-! ## Reading tags -/

/-- Where in a text a reader is, and what it has read of a tag. -/
inductive Place where
  | between
  /-- Behind an opening bracket. -/
  | bracket
  | inClosing (word : List Char)
  | inName (word : List Char)
  /-- Behind a name or an attribute. -/
  | behind (name : String) (attributes : Attributes)
  | inKey (name : String) (attributes : Attributes) (word : List Char)
  | behindKey (name : String) (attributes : Attributes) (key : String)
  | inValue (name : String) (attributes : Attributes) (key : String) (word : List Char)
  /-- Behind the slash of an empty tag. -/
  | slash (name : String) (attributes : Attributes)
deriving DecidableEq

namespace Place

/-- How a tag goes on behind a name or an attribute. -/
def goOn (name : String) (attributes : Attributes) (c : Char) : Option (Place × List Tag) :=
  if c = ' ' then some (.inKey name attributes [], [])
  else if c = '/' then some (.slash name attributes, [])
  else if c = '>' then some (.between, [.opening name attributes])
  else none

/-- Take one character, with the tag that it ends. -/
def step : Place → Char → Option (Place × List Tag)
  | .between, c => if c = '<' then some (.bracket, []) else none
  | .bracket, c =>
    if c = '/' then some (.inClosing [], [])
    else if isNameChar c then some (.inName [c], []) else none
  | .inClosing word, c =>
    if isNameChar c then some (.inClosing (word ++ [c]), [])
    else if c = '>' ∧ word ≠ [] then some (.between, [.closing (String.ofList word)]) else none
  | .inName word, c =>
    if isNameChar c then some (.inName (word ++ [c]), []) else goOn (String.ofList word) [] c
  | .behind name attributes, c => goOn name attributes c
  | .inKey name attributes word, c =>
    if isNameChar c then some (.inKey name attributes (word ++ [c]), [])
    else if c = '=' ∧ word ≠ [] then some (.behindKey name attributes (String.ofList word), [])
    else none
  | .behindKey name attributes key, c =>
    if c = '"' then some (.inValue name attributes key [], []) else none
  | .inValue name attributes key word, c =>
    if c = '"' then
      if key ∈ attributes.map (·.1) then none
      else (unescape word).map fun value =>
        (.behind name (attributes ++ [(key, String.ofList value)]), [])
    else if c = '<' then none
    else some (.inValue name attributes key (word ++ [c]), [])
  | .slash name attributes, c =>
    if c = '>' then some (.between, [.empty name attributes]) else none

/-- Take characters, with the tags that they end. -/
def run : Place → List Char → Option (Place × List Tag)
  | p, [] => some (p, [])
  | p, c :: cs => do
    let (q, ts) ← p.step c
    let (r, us) ← q.run cs
    return (r, ts ++ us)

variable {p q r : Place} {cs ds : List Char} {ts us : List Tag}

theorem run_cons {c : Char} (h : p.step c = some (q, ts)) (h' : q.run cs = some (r, us)) :
    p.run (c :: cs) = some (r, ts ++ us) := by
  simp [run, h, h']

theorem run_append (h : p.run cs = some (q, ts)) (h' : q.run ds = some (r, us)) :
    p.run (cs ++ ds) = some (r, ts ++ us) := by
  induction cs generalizing p ts with
  | nil =>
      cases h
      exact h'
  | cons c cs ih =>
      simp only [run, Option.bind_eq_bind, Option.bind_eq_some_iff] at h
      obtain ⟨⟨p₁, ts₁⟩, first, ⟨p₂, ts₂⟩, rest, h⟩ := h
      cases h
      rw [List.append_assoc]
      exact run_cons first (ih rest)

/-- Characters of one sort are taken to a word. -/
theorem run_word (place : List Char → Place) {sort : Char → Prop}
    (takes : ∀ word c, sort c → (place word).step c = some (place (word ++ [c]), []))
    (word : List Char) (h : ∀ c ∈ cs, sort c) :
    (place word).run cs = some (place (word ++ cs), []) := by
  induction cs generalizing word with
  | nil => rw [List.append_nil, run]
  | cons c cs ih =>
      obtain ⟨here, later⟩ := List.forall_mem_cons.mp h
      have rest := ih (word ++ [c]) later
      rw [List.append_assoc] at rest
      exact run_cons (takes word c here) rest

/-- An attribute is put behind the others. -/
theorem run_attribute {name key value : String} {attributes : Attributes} (isName : IsName key)
    (new : key ∉ attributes.map (·.1)) :
    (behind name attributes).run (attr key (escape value)).toList =
      some (.behind name (attributes ++ [(key, value)]), []) := by
  have keyRun : (Place.inKey name attributes []).run key.toList =
      some (.inKey name attributes key.toList, []) :=
    run_word (.inKey name attributes) (fun word c hc => by simp [step, hc]) []
      isName.isNameChar_of_mem
  have valueRun : (inValue name attributes key []).run (escape value).toList =
      some (.inValue name attributes key ([] ++ (escape value).toList), []) := by
    refine run_word (.inValue name attributes key) (fun word c hc => ?_) [] plain_escape
    simp [step, hc.1, hc.2]
  rw [List.nil_append] at valueRun
  have opens : (Place.inKey name attributes key.toList).run ['=', '"'] =
      some (.inValue name attributes key [], []) := by
    simp [run, step, isName.1, show isNameChar '=' = false by decide]
  have closes : (inValue name attributes key (escape value).toList).run ['"'] =
      some (.behind name (attributes ++ [(key, value)]), []) := by
    have read : unescape (escape value).toList = some value.toList := by
      rw [escape, String.toList_ofList, unescape_flatMap]
    simp [run, step, new, read]
  have all := run_append (run_append (run_append keyRun opens) valueRun) closes
  have text : (attr key (escape value)).toList =
      ' ' :: (key.toList ++ ['=', '"'] ++ (escape value).toList ++ ['"']) := by
    simp [attr]
  have opened : (behind name attributes).step ' ' = some (.inKey name attributes [], []) := rfl
  rw [text]
  exact run_cons opened all

theorem run_attributes {name : String} {attributes more : Attributes}
    (are : AreAttributes (attributes ++ more)) :
    (behind name attributes).run (attributesText more) =
      some (.behind name (attributes ++ more), []) := by
  induction more generalizing attributes with
  | nil => rw [List.append_nil, attributesText, List.flatMap_nil, run]
  | cons a more ih =>
      obtain ⟨names, nodup⟩ := are
      have isName := names a (List.mem_append_right _ List.mem_cons_self)
      have new : a.1 ∉ attributes.map (·.1) := by
        rw [List.map_append, List.nodup_append] at nodup
        exact fun h => nodup.2.2 _ h _ List.mem_cons_self rfl
      have rest := @ih (attributes ++ [a])
        ⟨by rwa [List.append_assoc], by rwa [List.append_assoc]⟩
      rw [List.append_assoc] at rest
      exact run_append (run_attribute isName new) rest

/-- Whatever follows a name ends it. -/
theorem run_name {name : String} {attributes : Attributes} {c : Char} (isName : IsName name)
    (are : AreAttributes attributes) (ends : isNameChar c = false)
    (h : (behind name attributes).run (c :: cs) = some (r, us)) :
    bracket.run (name.toList ++ attributesText attributes ++ c :: cs) = some (r, us) := by
  obtain ⟨d, ds, same⟩ := List.exists_cons_of_ne_nil isName.1
  have chars := isName.isNameChar_of_mem
  rw [same] at chars
  obtain ⟨first, later⟩ := List.forall_mem_cons.mp chars
  have start : bracket.step d = some (.inName [d], []) := by
    have : d ≠ '/' := by
      rintro rfl
      cases first
    simp [step, this, first]
  have word : bracket.run name.toList = some (.inName name.toList, []) := by
    rw [same]
    exact run_cons start
      (run_word .inName (fun word c hc => by simp [step, hc]) [d] later)
  -- behind the name the reader goes on in the same way as behind an attribute
  have leave : ∀ {e : Char} {es : List Char}, isNameChar e = false →
      (Place.inName name.toList).run (e :: es) = (behind name []).run (e :: es) := by
    intro e es he
    simp [run, step, he]
  have rest : (behind name []).run (attributesText attributes ++ c :: cs) = some (r, us) :=
    run_append (run_attributes (List.nil_append attributes ▸ are)) h
  rw [List.append_assoc]
  refine run_append word ?_
  cases attributes with
  | nil => exact (leave ends).trans rest
  | cons a more =>
      have space : attributesText (a :: more) ++ c :: cs =
          ' ' :: ((attributesText (a :: more)).tail ++ c :: cs) := by
        simp [attributesText, attr]
      rw [space] at rest ⊢
      exact (leave (by decide)).trans rest

end Place

/-- A tag is read, and the reader is between tags again. -/
theorem Tag.run_text {tag : Tag} (h : tag.IsWritten) :
    Place.between.run tag.text = some (.between, [tag]) := by
  have opens : Place.between.step '<' = some (.bracket, []) := rfl
  cases tag with
  | opening name attributes =>
      have closes : (Place.behind name attributes).run ['>'] =
          some (.between, [.opening name attributes]) := rfl
      simpa [text] using Place.run_cons opens (Place.run_name h.1 h.2 (by decide) closes)
  | empty name attributes =>
      have closes : (Place.behind name attributes).run ['/', '>'] =
          some (.between, [.empty name attributes]) := rfl
      simpa [text] using Place.run_cons opens (Place.run_name h.1 h.2 (by decide) closes)
  | closing name =>
      have word : (Place.inClosing []).run name.toList = some (.inClosing name.toList, []) :=
        Place.run_word .inClosing (fun word c hc => by simp [Place.step, hc]) []
          h.isNameChar_of_mem
      have closes : (Place.inClosing name.toList).run ['>'] = some (.between, [.closing name]) := by
        simp [Place.run, Place.step, h.1, show isNameChar '>' = false by decide]
      have slash : Place.bracket.step '/' = some (.inClosing [], []) := rfl
      simpa [text] using
        Place.run_cons opens (Place.run_cons slash (Place.run_append word closes))

/-- The tags of a text, if there is nothing but tags. -/
def tags (cs : List Char) : Option (List Tag) :=
  match Place.between.run cs with
  | some (.between, ts) => some ts
  | _ => none

/-- Tags are read from the text that they make up. -/
theorem tags_flatMap {ts : List Tag} (h : ∀ tag ∈ ts, tag.IsWritten) :
    tags (ts.flatMap Tag.text) = some ts := by
  have run : Place.between.run (ts.flatMap Tag.text) = some (.between, ts) := by
    induction ts with
    | nil => rfl
    | cons tag ts ih =>
        obtain ⟨here, later⟩ := List.forall_mem_cons.mp h
        exact Place.run_append (Tag.run_text here) (ih later)
  rw [tags, run]

/-! ## Nesting tags -/

/-- An element with what is inside of it. -/
inductive Node where
  | empty (name : String) (attributes : Attributes)
  | full (name : String) (attributes : Attributes) (inside : List Node)

mutual

/-- The tags of a node. -/
def Node.tags : Node → List Tag
  | .empty name attributes => [.empty name attributes]
  | .full name attributes inside =>
    .opening name attributes :: Node.allTags inside ++ [.closing name]

/-- The tags of nodes, one behind the other. -/
def Node.allTags : List Node → List Tag
  | [] => []
  | node :: rest => node.tags ++ Node.allTags rest

end

theorem Node.allTags_append (nodes more : List Node) :
    Node.allTags (nodes ++ more) = Node.allTags nodes ++ Node.allTags more := by
  induction nodes with
  | nil => simp [allTags]
  | cons node nodes ih => simp [allTags, ih]

/-- What has been read of a text: the nodes that are complete, those around that
are still open, and the nodes that stood in front of these. -/
structure Nesting where
  nodes : List Node
  around : List (String × Attributes × List Node)

namespace Nesting

/-- Take one tag.  What is closed is what was opened last. -/
def step : Nesting → Tag → Option Nesting
  | ⟨nodes, around⟩, .empty name attributes => some ⟨nodes ++ [.empty name attributes], around⟩
  | ⟨nodes, around⟩, .opening name attributes => some ⟨[], (name, attributes, nodes) :: around⟩
  | ⟨nodes, (name, attributes, before) :: around⟩, .closing name' =>
    if name = name' then some ⟨before ++ [.full name attributes nodes], around⟩ else none
  | ⟨_, []⟩, .closing _ => none

/-- Take tags. -/
def run : Nesting → List Tag → Option Nesting
  | s, [] => some s
  | s, tag :: ts => do (← s.step tag).run ts

/-- The tags of what is open, with those that stand inside. -/
def openTags : List (String × Attributes × List Node) → List Tag
  | [] => []
  | (name, attributes, before) :: around =>
    openTags around ++ Node.allTags before ++ [.opening name attributes]

/-- The tags that have been read. -/
def tags (s : Nesting) : List Tag := openTags s.around ++ Node.allTags s.nodes

variable {s s' : Nesting}

/-- A tag that is taken is behind those that have been read. -/
theorem tags_step {tag : Tag} (h : s.step tag = some s') : s'.tags = s.tags ++ [tag] := by
  obtain ⟨nodes, around⟩ := s
  cases tag with
  | empty name attributes =>
      cases h
      simp [tags, Node.allTags_append, Node.allTags, Node.tags]
  | opening name attributes =>
      cases h
      simp [tags, openTags, Node.allTags]
  | closing name =>
      cases around with
      | nil => cases h
      | cons frame around =>
          obtain ⟨name', attributes, before⟩ := frame
          simp only [step] at h
          split at h
          · -- the tag completes those of its frame to the tags of a node
            rename_i same
            cases h
            simp [tags, openTags, Node.allTags_append, Node.allTags, Node.tags, same]
          · cases h

theorem tags_run {ts : List Tag} (h : s.run ts = some s') : s'.tags = s.tags ++ ts := by
  induction ts generalizing s with
  | nil =>
      cases h
      rw [List.append_nil]
  | cons tag ts ih =>
      obtain ⟨s₁, first, rest⟩ := Option.bind_eq_some_iff.mp h
      rw [ih rest, tags_step first, List.append_assoc]
      rfl

theorem run_of_step {tag : Tag} (h : s.step tag = some s') (ts : List Tag) :
    s.run (tag :: ts) = s'.run ts := by
  rw [run, h]
  rfl

mutual

/-- The tags of a node are taken to this node. -/
theorem run_tags : ∀ (node : Node) (nodes : List Node)
    (around : List (String × Attributes × List Node)) (rest : List Tag),
    run ⟨nodes, around⟩ (node.tags ++ rest) = run ⟨nodes ++ [node], around⟩ rest
  | .empty name attributes, nodes, around, rest => by
      rw [Node.tags, List.singleton_append]
      exact run_of_step rfl rest
  | .full name attributes inside, nodes, around, rest => by
      have opened : step ⟨nodes, around⟩ (.opening name attributes) =
          some ⟨[], (name, attributes, nodes) :: around⟩ := rfl
      have closed : step ⟨inside, (name, attributes, nodes) :: around⟩ (.closing name) =
          some ⟨nodes ++ [.full name attributes inside], around⟩ := if_pos rfl
      simp only [Node.tags, List.cons_append, List.append_assoc, List.nil_append]
      rw [run_of_step opened, run_allTags inside, List.nil_append, run_of_step closed]

theorem run_allTags : ∀ (more nodes : List Node)
    (around : List (String × Attributes × List Node)) (rest : List Tag),
    run ⟨nodes, around⟩ (Node.allTags more ++ rest) = run ⟨nodes ++ more, around⟩ rest
  | [], nodes, around, rest => by simp [Node.allTags]
  | node :: more, nodes, around, rest => by
      rw [Node.allTags, List.append_assoc, run_tags node, run_allTags more, List.append_assoc]
      rfl

end

end Nesting

/-- The node that tags are nested to, if everything is closed in order and there
is one node at the outside. -/
def nest (ts : List Tag) : Option Node :=
  match Nesting.run ⟨[], []⟩ ts with
  | some ⟨[node], []⟩ => some node
  | _ => none

/-- Tags can be nested exactly if they are the tags of a node. -/
theorem nest_eq_some {ts : List Tag} {node : Node} : nest ts = some node ↔ ts = node.tags := by
  constructor
  · intro h
    unfold nest at h
    split at h
    · rename_i run
      cases h
      simpa [Nesting.tags, Nesting.openTags, Node.allTags] using (Nesting.tags_run run).symm
    · cases h
  · rintro rfl
    have run := Nesting.run_tags node [] [] []
    rw [List.append_nil, List.nil_append] at run
    rw [nest, run]
    rfl

/-! ## Texts -/

/-- A node as it is written. -/
def Node.text (node : Node) : List Char := node.tags.flatMap Tag.text

/-- The names in a node are names. -/
def Node.IsWritten (node : Node) : Prop := ∀ tag ∈ node.tags, tag.IsWritten

/-- The node that a text is markup for. -/
def read (cs : List Char) : Option Node := (tags cs).bind nest

theorem read_eq_some {cs : List Char} {node : Node} : read cs = some node ↔
    tags cs = some node.tags := by
  simp [read, Option.bind_eq_some_iff, nest_eq_some]

/-- A node is read from its text. -/
theorem Node.tags_text {node : Node} (h : node.IsWritten) : Xml.tags node.text = some node.tags :=
  tags_flatMap h

end TypeSchema.Xml
