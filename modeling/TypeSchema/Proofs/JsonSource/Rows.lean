/-
# Rows — the entries of a source, one after the other

The entries of a source can be written down in rows: each one before its
members, these before the next one, and each with the number of the one
around it (`Rows`).  Reading the source makes as many declarations, in the
same order, and each is what its row says, whatever the others say: members
are planted inside their object before the object is completed, but what
completes it is its own header (`Entry.rows_of_forest`, `frontEnd_rows`).
-/
import TypeSchema.Proofs.Document.Discovery
import TypeSchema.Proofs.JsonSource.Described

namespace TypeSchema

open Declaration (Id)
open TypeSchema.Graph (Built)

/-! ## Forests in rows -/

namespace Forest

/-- The declarations of a forest that starts at `n` and stands inside `parent`, in the order of
their numbers. -/
def list (n : Nat) (parent : Option Id) : Forest → List Declaration
  | none => []
  | tree d inside => d.planted parent (inside.tops (n + 1)) :: inside.list (n + 1) (some n)
  | beside f g => f.list n parent ++ g.list (n + f.size) parent

variable {n : Nat} {q : Option Id}

theorem length_list (f : Forest) : (f.list n q).length = f.size := by
  induction f generalizing n q with
  | none => rfl
  | tree d inside ih => rw [list, List.length_cons, ih, size]
  | beside f g ihf ihg => rw [list, List.length_append, ihf, ihg, size]

/-- Numbers count the declarations in their order. -/
theorem find_eq_getElem? (f : Forest) (k : Nat) : f.find n q (n + k) = (f.list n q)[k]? := by
  induction f generalizing n q k with
  | none => rfl
  | tree d inside ih =>
      cases k with
      | zero => rw [find, if_pos (Nat.add_zero n), list, List.getElem?_cons_zero]
      | succ k =>
          rw [find, if_neg (by omega), list, List.getElem?_cons_succ, ← ih,
            show n + (k + 1) = n + 1 + k by omega]
  | beside f g ihf ihg =>
      rw [find, list]
      by_cases hk : k < f.size
      · rw [if_pos (by omega), ihf, List.getElem?_append_left (by rw [length_list]; exact hk)]
      · obtain ⟨j, rfl⟩ : ∃ j, k = f.size + j := ⟨k - f.size, by omega⟩
        rw [if_neg (by omega), ← Nat.add_assoc, ihg, List.getElem?_append_right (by
          rw [length_list]; omega), length_list, Nat.add_sub_cancel_left]

end Forest

/-- What has been planted at the end of a graph is found there in order. -/
theorem Graph.Grown.node_list {g g' : Graph} {p : Option Id} {f : Forest} {k : Nat}
    (grown : Graph.Grown g p f g') (hk : k < (f.list g.size p).length) :
    g'.node (g.size + k) = (f.list g.size p)[k] := by
  rw [grown.newer (g.size + k) (Nat.le_add_right _ _), f.find_eq_getElem?,
    List.getElem?_eq_getElem hk, Option.getD_some]

namespace JsonSource

/-! ## Entries in rows -/

/-- The value is an entry with this header and these members. -/
structure Written (v : Json.Raw) (h : Header) (members : List Json.Raw) : Prop where
  header : Header.ofRaw v = some h
  members : ∃ fields, v.record Entry.fieldNames = some fields ∧
    Json.Raw.many Json.Raw.items? fields "members" = some members

/-- An entry that stands inside the declaration `parent`. -/
structure Row where
  parent : Id
  start : Nat
  header : Header

/-- The rows of entries inside `p`, if the first one has the number `n`. -/
inductive Rows : Id → Nat → List Json.Raw → List Row → Prop
  | nil {p : Id} {n : Nat} : Rows p n [] []
  | cons {p : Id} {n : Nat} {v : Json.Raw} {values members : List Json.Raw} {h : Header}
      {inside later : List Row} : Written v h members → Rows n (n + 1) members inside →
      Rows p (n + 1 + inside.length) values later →
      Rows p n (v :: values) (⟨p, v.start, h⟩ :: (inside ++ later))

/-- The declaration is what the row says. -/
structure Row.Describes (place : Nat → Location) (row : Row) (d : Declaration) : Prop where
  parent : d.parent = some row.parent
  header : ∃ subject, row.header.Describes (place row.start) subject d

/-! ## Members of an entry -/

theorem Entry.membersOf_eq (v : Json.Raw) : Entry.membersOf v = v.items?.map Entry.all := by
  cases v with
  | array start items => rw [Entry.membersOf]; rfl
  | _ =>
      rw [Entry.membersOf]
      · rfl
      all_goals rintro _ _ ⟨⟩

theorem Entry.membersOfFields_eq {fields : List (List Char × Json.Raw)}
    {named : List (String × Json.Raw)} (h : Json.Raw.unescapeNames fields = some named) :
    Entry.membersOfFields fields
      = (Json.Raw.many Json.Raw.items? named "members").map Entry.all := by
  induction fields generalizing named with
  | nil =>
      cases h
      rfl
  | cons field fields ih =>
      obtain ⟨chars, v⟩ := field
      obtain ⟨name, hname, h⟩ := Option.bind_eq_some_iff.mp h
      obtain ⟨rest, hrest, h⟩ := Option.bind_eq_some_iff.mp h
      cases h
      rw [Entry.membersOfFields, hname]
      by_cases same : name = "members"
      · rw [if_pos (congrArg some same), Entry.membersOf_eq, Json.Raw.many, Fields.find?,
          if_pos same]
      · rw [if_neg (fun h => same (Option.some.inj h)), ih hrest, Json.Raw.many, Json.Raw.many,
          Fields.find?, if_neg same]

theorem Entry.membersOfItems_eq (before after : List String) (h : "members" ∉ before)
    (items : List Json.Raw) :
    Entry.membersOfItems before.length items
      = (Json.Raw.many Json.Raw.items? ((before ++ "members" :: after).zip items)
          "members").map Entry.all := by
  induction before generalizing items with
  | nil =>
      cases items with
      | nil => rfl
      | cons v items =>
          rw [List.length_nil, Entry.membersOfItems, Entry.membersOf_eq]
          rfl
  | cons name before ih =>
      obtain ⟨other, h⟩ := not_or.mp (mt List.mem_cons.mpr h)
      cases items with
      | nil => rfl
      | cons v items =>
          rw [List.length_cons, Entry.membersOfItems, ih h, List.cons_append,
            List.zip_cons_cons, Json.Raw.many, Json.Raw.many, Fields.find?, if_neg (Ne.symm other)]

/-- An entry is read from the fields of a record, the members from theirs. -/
theorem Entry.written_of_ofRaw {v : Json.Raw} {start : Nat} {h : Header} {entries : List Entry}
    (read : Entry.ofRaw v = .mk start h entries) :
    start = v.start ∧ ∃ members, Written v h members ∧ entries = Entry.all members := by
  have parts : ∀ {s : Nat} {header : Option Header} {found : Option (List Entry)},
      Entry.ofParts s header found = .mk start h entries →
        start = s ∧ header = some h ∧ found = some entries := by
    intro s header found hparts
    unfold Entry.ofParts at hparts
    split at hparts <;> cases hparts
    exact ⟨rfl, rfl, rfl⟩
  cases v with
  | object s fields =>
      rw [Entry.ofRaw] at read
      obtain ⟨rfl, header, found⟩ := parts read
      obtain ⟨named, record, _⟩ := Option.bind_eq_some_iff.mp header
      obtain ⟨names, unescaped, allowed⟩ := Option.bind_eq_some_iff.mp record
      simp only at allowed
      split at allowed
      case isFalse => cases allowed
      cases allowed
      rw [Entry.membersOfFields_eq unescaped] at found
      obtain ⟨members, hmembers, rfl⟩ := Option.map_eq_some_iff.mp found
      exact ⟨rfl, members, ⟨header, named, record, hmembers⟩, rfl⟩
  | array s items =>
      rw [Entry.ofRaw] at read
      obtain ⟨rfl, header, found⟩ := parts read
      obtain ⟨named, record, _⟩ := Option.bind_eq_some_iff.mp header
      have same : Entry.fieldNames.zip items = named :=
        Option.some.inj (Option.ite_none_right_eq_some.mp record).2
      have last := Entry.membersOfItems_eq ["object", "base", "extension", "args", "keywords",
        "config", "name", "type", "kind", "arity", "metadata"] [] (by decide) items
      rw [show Entry.membersOfItems 11 items = _ from last] at found
      obtain ⟨members, hmembers, rfl⟩ := Option.map_eq_some_iff.mp found
      exact ⟨rfl, members, ⟨header, named, record, same ▸ hmembers⟩, rfl⟩
  | _ =>
      rw [Entry.ofRaw] at read
      · cases read
      all_goals rintro _ _ ⟨⟩

/-! ## What entries come to -/

theorem Row.Describes.of_header {place : Nat → Location} {p : Id} {start : Nat} {h : Header}
    {subject : Subject} {d : Declaration} (describes : h.Describes (place start) subject d)
    (children : List Id) :
    Row.Describes place ⟨p, start, h⟩ (d.planted (some p) children) where
  parent := rfl
  header := ⟨subject, describes.declares, describes.location, describes.production, describes.name, describes.reference,
    describes.role, describes.arity, describes.metadata, describes.invocation, describes.arguments, describes.unused⟩

section Tree

variable {features : Features} {isExternal : Bool} {place : Nat → Location}

mutual

/-- The declaration of an entry is what its row says, and those inside are what
the rows of its members say. -/
theorem Entry.rows_of_tree : ∀ (e : Entry) {v : Json.Raw} {f : Forest} (p : Id) (n : Nat),
    Entry.ofRaw v = e → e.tree? features isExternal place = some f →
    ∃ h members inside, Written v h members ∧ Rows n (n + 1) members inside ∧
      List.Forall₂ (Row.Describes place) (⟨p, v.start, h⟩ :: inside) (f.list n (some p))
  | .unreadable _, _, _, _, _, _, found => by cases found
  | .mk start h entries, v, f, p, n, read, found => by
      obtain ⟨rfl, members, written, same⟩ := Entry.written_of_ofRaw read
      rw [Entry.tree?] at found
      obtain ⟨inside, hinside, found⟩ := Option.bind_eq_some_iff.mp found
      obtain ⟨d, hd, rfl⟩ := Option.map_eq_some_iff.mp found
      obtain ⟨subject, describes⟩ := Header.describes hd
      obtain ⟨rows, listed, told⟩ := Entry.rows_of_forest entries n (n + 1) same.symm hinside
      exact ⟨h, members, rows, written, listed, .cons (.of_header describes _) told⟩

theorem Entry.rows_of_forest : ∀ (es : List Entry) {values : List Json.Raw} {f : Forest} (p : Id)
    (n : Nat), Entry.all values = es → Entry.forest? features isExternal place es = some f →
    ∃ rows, Rows p n values rows ∧ List.Forall₂ (Row.Describes place) rows (f.list n (some p))
  | [], [], _, _, _, _, found => by
      cases found
      exact ⟨[], .nil, .nil⟩
  | [], v :: values, _, _, _, read, _ => by
      rw [Entry.all] at read
      cases read
  | e :: rest, [], _, _, _, read, _ => by cases read
  | e :: rest, v :: values, f, p, n, read, found => by
      rw [Entry.all] at read
      obtain ⟨first, later⟩ := List.cons.inj read
      rw [Entry.forest?] at found
      obtain ⟨t, ht, found⟩ := Option.bind_eq_some_iff.mp found
      obtain ⟨g, hg, rfl⟩ := Option.map_eq_some_iff.mp found
      obtain ⟨h, members, inside, written, listed, told⟩ := Entry.rows_of_tree e p n first ht
      -- the next entry comes after as many declarations as there are rows
      have size : n + t.size = n + 1 + inside.length := by
        rw [← t.length_list, ← told.length_eq, List.length_cons]
        omega
      obtain ⟨rows, listed', told'⟩ := Entry.rows_of_forest rest p (n + t.size) later hg
      exact ⟨_, .cons written listed (size ▸ listed'), List.rel_append told told'⟩

end

end Tree

/-! ## Reading a source -/

/-- Planting what entries declare makes one declaration for each row, in their order, and each is
what its row says. -/
theorem exists_rows {features : Features} {isExternal : Bool} {place : Nat → Location}
    {g g' : Graph} {p : Id} {declarations : List Json.Raw} {f : Forest}
    (forest : Entry.forest? features isExternal place (Entry.all declarations) = some f)
    (grown : Graph.Grown g (some p) f g') :
    ∃ rows, Rows p g.size declarations rows ∧ g'.size = g.size + rows.length ∧
      ∀ k (row : Row), rows[k]? = some row → row.Describes place (g'.node (g.size + k)) := by
  obtain ⟨rows, listed, told⟩ :=
    Entry.rows_of_forest (Entry.all declarations) p g.size rfl forest
  refine ⟨rows, listed, ?_, ?_⟩
  · rw [told.length_eq, Forest.length_list]
    exact grown.size
  · intro k row hrow
    obtain ⟨hk, rfl⟩ := List.getElem?_eq_some_iff.mp hrow
    have hk' : k < (f.list g.size (some p)).length := told.length_eq ▸ hk
    rw [grown.node_list hk']
    exact (List.forall₂_iff_get.mp told).2 k hk hk'

/-- Reading a source makes one declaration for each row, in their order, and
each is what its row says; it adds nothing to the declarations that were there
but to the children of the root, and it asks for what the source includes. -/
theorem frontEnd_rows {g₀ g : Graph} {root : Id} {location : Location} {isExternal : Bool}
    {features : Features} {source text : String} {b : Builder} (built : Built g₀)
    (fresh : Graph.add (.fresh .standard .root none location isExternal) g₀ = .ok root g)
    (run : (frontEnd source text).run (.start g features root isExternal) = .ok () b) :
    ∃ includes declarations rows,
      readSource text.toList = some (includes, declarations) ∧
      Rows root g.size declarations rows ∧
      b.graph.size = g.size + rows.length ∧
      (∀ k (row : Row), rows[k]? = some row →
        row.Describes (Location.after source text.toList) (b.graph.node (g.size + k))) ∧
      (∀ i < g.size, { b.graph.node i with children := (g.node i).children } = g.node i) ∧
      includes.mapM Json.Raw.string? = some (b.includes.map (·.path)) := by
  have sound := Graph.sound_start built.raw built.tree fresh features
  obtain ⟨paths, f, content⟩ := exists_content sound run
  obtain ⟨b', run', grown, _, _, _, same⟩ := frontEnd_run sound rfl content
  cases run.symm.trans run'
  have grown : Graph.Grown g (some root) f b.graph := grown
  obtain ⟨includes, declarations, read, hpaths, forest⟩ := content
  obtain ⟨rows, listed, size, describes⟩ := exists_rows forest grown
  refine ⟨includes, declarations, rows, read, listed, size, describes, ?_, ?_⟩
  · intro i hi
    rw [grown.older i hi]
  · rw [same]
    exact hpaths

/-- A configuration value whose entry calls it an attribute is standard all the same. -/
theorem frontEnd_rows_config :
    let text := "\x7b\"declarations\":[\x7b\"config\":\"c\",\"type\":\"int\",\"kind\":\"attribute\"\x7d]\x7d"
    let b₀ : Builder := .start ⟨#[.fresh .standard .root none .api false]⟩ .all 0 false
    ∃ (b : Builder) (row : Row), (frontEnd "main.json" text).run b₀ = .ok () b ∧
      row.Describes (Location.after "main.json" text.toList) (b.graph.node 1) ∧
      row.header.kind = some .attr ∧ (b.graph.node 1).role = .standard := by
  intro text b₀
  have run := Steps.ok_of_run'
    (show EStateM.run' (frontEnd "main.json" text).run b₀ = some () by decide +kernel)
  have role : ((Steps.left ((frontEnd "main.json" text).run b₀)).graph.node 1).role
      = .standard := by decide +kernel
  have entry : (readSource text.toList).any (fun parts => parts.2.length == 1 &&
      parts.2.all fun v => (Header.ofRaw v).any (·.kind == some .attr)) = true := by decide +kernel
  obtain ⟨includes, declarations, rows, read, listed, _, describes, _⟩ :=
    frontEnd_rows .empty rfl run
  rw [read] at entry
  obtain ⟨one, kinds⟩ := Bool.and_eq_true_iff.mp entry
  obtain ⟨v, rfl⟩ := List.length_eq_one_iff.mp (beq_iff_eq.mp one)
  cases listed with
  | cons written inside later =>
      have kind := List.all_eq_true.mp kinds v List.mem_cons_self
      rw [written.header] at kind
      exact ⟨_, _, run, describes 0 _ rfl, beq_iff_eq.mp kind, role⟩

end JsonSource

end TypeSchema
