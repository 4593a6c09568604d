/-
# Keys — how a resolved document finds its declarations

A key consists of the names on the way from a source to a declaration, which
is what `Qualified` says from one declaration to the next.  Committing makes
keys of lineages instead; the two come to the same, because a declaration
that is inside something other than a root is inside something that has a
name (`qualified_iff`).

All keys are known from the graph that has been built, and it is on this
graph that they have to be different.  So two declarations that would get one
key keep a document from being resolved, wherever they stand.
-/
import TypeSchema.Proofs.Document.Mirror

namespace TypeSchema

open Declaration (Id)

namespace Graph

variable {g h : Graph} {id p : Id} {name key : String}

/-- The name of a declaration behind the names of the objects around it. -/
inductive Qualified (g : Graph) : Id → String → Prop
  | outermost {id p : Id} {name : String} : (g.node id).name = some name →
      (g.node id).parent = some p → (g.node p).production = .root → Qualified g id name
  | inside {id p : Id} {name outer : String} : (g.node id).name = some name →
      (g.node id).parent = some p → (g.node p).production ≠ .root → Qualified g p outer →
      Qualified g id (outer ++ "." ++ name)

/-- What has a name is there. -/
theorem lt_of_name (named : (g.node id).name.isSome) : id < g.size := by
  by_contra hid
  rw [node_of_size_le (Nat.not_lt.mp hid)] at named
  cases named

/-- Declarations stand inside each other, and all of them in sources. -/
structure Planted (g : Graph) : Prop where
  tree : g.Tree
  nested : g.Nested
  rooted : g.Rooted

theorem Built.planted (built : Built g) : g.Planted := ⟨built.tree, built.nested, built.rooted⟩

theorem Planted.congr (s : SameFrame g h) (planted : g.Planted) : h.Planted :=
  ⟨planted.tree.congr s, planted.nested.congr s.seat, planted.rooted.congr s⟩

namespace Planted

variable (planted : g.Planted)
include planted

/-- Roots have no names. -/
theorem isKeyed_iff : g.IsKeyed id ↔ (g.node id).name.isSome := by
  have named := (planted.tree.shaped id).named
  constructor
  · intro keyed
    cases hn : (g.node id).name with
    | none => exact absurd (.inl (by rw [hn]; rfl)) keyed
    | some _ => rfl
  · rintro hn (none | root)
    · rw [Option.isNone_iff_eq_none.mp none] at hn
      cases hn
    · rw [hn, root] at named
      cases named

theorem exists_parent (hn : (g.node id).name = some name) : ∃ p, (g.node id).parent = some p := by
  cases hp : (g.node id).parent with
  | some p => exact ⟨p, rfl⟩
  | none =>
      have named := (planted.tree.shaped id).named
      rw [hn, (planted.rooted id).mp hp] at named
      cases named

/-- What a declaration is inside of is a root or has a name. -/
theorem name_of_parent (hp : (g.node id).parent = some p)
    (inside : (g.node p).production ≠ .root) : ∃ outer, (g.node p).name = some outer := by
  have child : id ∈ (g.node p).children := planted.nested.mem_children.mpr hp
  have shaped := planted.tree.shaped p
  have object : (g.node p).production = .object := by
    cases ho : (g.node p).isObject with
    | false =>
        rw [shaped.childless ho] at child
        cases child
    | true => exact (by simpa [Declaration.isObject] using ho : _ ∨ _).resolve_right inside
  have named := shaped.named
  rw [object] at named
  exact Option.isSome_iff_exists.mp named

/-- The last name on the way to a declaration is its own. -/
theorem segments_eq (hn : (g.node id).name = some name) (hp : (g.node id).parent = some p) :
    (g.lineage id).reverse.filterMap g.segment?
      = (g.lineage p).reverse.filterMap g.segment? ++ [name] := by
  have keyed := planted.isKeyed_iff.mpr (by rw [hn]; rfl)
  have own : g.segment? id = some name := (if_neg (not_or.mp keyed).2).trans hn
  rw [lineage_of_parent planted.nested.older hp, List.reverse_cons, List.filterMap_append]
  simp [own]

theorem keyOf_outermost (hn : (g.node id).name = some name) (hp : (g.node id).parent = some p)
    (root : (g.node p).production = .root) : g.keyOf id = name := by
  have alone : g.lineage p = [p] := by
    rw [lineage, (planted.rooted p).mpr root]
  rw [keyOf, planted.segments_eq hn hp, alone]
  simp [segment?, root]

theorem keyOf_inside (hn : (g.node id).name = some name) (hp : (g.node id).parent = some p)
    (inside : (g.node p).production ≠ .root) : g.keyOf id = g.keyOf p ++ "." ++ name := by
  obtain ⟨outer, houter⟩ := planted.name_of_parent hp inside
  obtain ⟨q, hq⟩ := planted.exists_parent houter
  have some : (g.lineage p).reverse.filterMap g.segment? ≠ [] := by
    rw [planted.segments_eq houter hq]
    exact List.append_ne_nil_of_right_ne_nil _ (List.cons_ne_nil _ _)
  rw [keyOf, planted.segments_eq hn hp,
    String.intercalate_append_of_ne_nil some (List.cons_ne_nil _ _), String.intercalate_singleton]
  rfl

/-- Keys are the names that lead to named declarations. -/
theorem qualified_iff : g.Qualified id key ↔ (g.node id).name.isSome ∧ g.keyOf id = key := by
  constructor
  · intro qualified
    induction qualified with
    | outermost hn hp root => exact ⟨by rw [hn]; rfl, planted.keyOf_outermost hn hp root⟩
    | inside hn hp inside _ ih =>
        exact ⟨by rw [hn]; rfl, by rw [planted.keyOf_inside hn hp inside, ih.2]⟩
  · rintro ⟨named, rfl⟩
    -- parents are older
    induction id using Nat.strongRecOn with
    | ind id ih =>
        obtain ⟨name, hn⟩ := Option.isSome_iff_exists.mp named
        obtain ⟨p, hp⟩ := planted.exists_parent hn
        by_cases root : (g.node p).production = .root
        · rw [planted.keyOf_outermost hn hp root]
          exact .outermost hn hp root
        · obtain ⟨outer, houter⟩ := planted.name_of_parent hp root
          rw [planted.keyOf_inside hn hp root]
          exact .inside hn hp root (ih p (planted.nested.older hp) (by rw [houter]; rfl))

end Planted

end Graph

namespace Document

open TypeSchema.Graph

section Settle

variable {g g' : Graph} {sources : List Source} {strict : Bool} {keys : Keys}
  (built : Built g) (run : settle sources strict g = .ok keys g')
include built run

/-- Keys have to be different already where nothing has been found out yet. -/
theorem uniqueKeys_of_settle : g.UniqueKeys := by
  obtain ⟨g₂, frame, isOpen, committed⟩ := commitAll_of_settle built run
  exact (uniqueKeys_of_commitAll isOpen committed).congr frame.symm

theorem key_of_settle {i : Id} (hi : i < g.size) : (g'.node i).key = some (g.keyOf i) := by
  obtain ⟨g₂, frame, isOpen, committed⟩ := commitAll_of_settle built run
  rw [key_commitAll isOpen committed (frame.size ▸ hi), keyOf_congr frame]

theorem find?_of_settle {key : String} {i : Id} :
    Fields.find? key keys = some i ↔ i < g.size ∧ g.IsKeyed i ∧ g.keyOf i = key := by
  obtain ⟨g₂, frame, isOpen, committed⟩ := commitAll_of_settle built run
  rw [find?_commitAll isOpen committed, ← frame.size, ← isKeyed_congr frame, ← keyOf_congr frame]

end Settle

/-- In a resolved document every declaration is committed and classified.  The
key of a named one is its name, behind the key of the declaration around it
unless that is a root, and keys find named declarations and nothing else.
Where two declarations would get one key, nothing is resolved. -/
theorem resolve_keys (sources : Sources) (frontEnd : FrontEnd) (options : Options) (main : Path) :
    (∀ doc, resolve sources frontEnd options main = .ok doc →
      (∀ id < doc.graph.size,
        (doc.graph.node id).isCommitted ∧ (doc.graph.node id).subtype.isSome) ∧
        (∀ id name, (doc.graph.node id).name = some name →
          ∃ p, (doc.graph.node id).parent = some p ∧
            ((doc.graph.node p).production = .root → (doc.graph.node id).key = some name) ∧
            ((doc.graph.node p).production ≠ .root →
              ∃ outer, (doc.graph.node p).key = some outer ∧
                (doc.graph.node id).key = some (outer ++ "." ++ name))) ∧
        ∀ key id, doc.find? key = some id ↔
          (doc.graph.node id).name.isSome ∧ (doc.graph.node id).production ≠ .root ∧
            (doc.graph.node id).key = some key) ∧
      ∀ d, Discovery.run sources frontEnd options.features sources.limit (Discovery.start main)
          = .ok d →
        ∀ i j key, i ≠ j → d.graph.Qualified i key → d.graph.Qualified j key →
          ∃ e, resolve sources frontEnd options main = .error e := by
  constructor
  · intro doc resolved
    obtain ⟨d, built, run⟩ := resolve_eq_ok resolved
    obtain ⟨run, _⟩ := ofGraph_eq_ok run
    obtain ⟨settled, links, _⟩ := settle_ok built run
    have frame : SameFrame d.graph doc.graph :=
      (sameFrame_lookedUp d.graph _).symm.trans links.frame
    have planted := built.planted.congr frame
    have key : ∀ {id}, id < doc.graph.size →
        (doc.graph.node id).key = some (doc.graph.keyOf id) := by
      intro id hid
      rw [key_of_settle built run (frame.size ▸ hid), keyOf_congr frame]
    refine ⟨fun id hid => ⟨?_, ?_⟩, fun id name hn => ?_, fun k id => ?_⟩
    · rw [Declaration.isCommitted, key hid]
      rfl
    · obtain ⟨s, hs, _⟩ := settled.obeys id hid
      exact Option.isSome_iff_exists.mpr ⟨s, hs⟩
    · have hid : id < doc.graph.size := lt_of_name (by rw [hn]; rfl)
      obtain ⟨p, hp⟩ := planted.exists_parent hn
      refine ⟨p, hp, fun root => ?_, fun inside => ⟨doc.graph.keyOf p, ?_, ?_⟩⟩
      · rw [key hid, planted.keyOf_outermost hn hp root]
      · exact key (Nat.lt_trans (planted.nested.older hp) hid)
      · rw [key hid, planted.keyOf_inside hn hp inside]
    · rw [find?, find?_of_settle built run, frame.size, isKeyed_congr frame, keyOf_congr frame]
      constructor
      · rintro ⟨hid, keyed, rfl⟩
        exact ⟨planted.isKeyed_iff.mp keyed, (not_or.mp keyed).2, key hid⟩
      · rintro ⟨named, _, hk⟩
        have hid := lt_of_name named
        rw [key hid] at hk
        exact ⟨hid, planted.isKeyed_iff.mpr named, Option.some.inj hk⟩
  · intro d found i j key different hi hj
    have built : Built d.graph := Discovery.built_run .empty found
    cases resolved : resolve sources frontEnd options main with
    | error e => exact ⟨e, rfl⟩
    | ok doc =>
        obtain ⟨d', found', run⟩ := Steps.except_bind_eq_ok.mp resolved
        cases found.symm.trans found'
        have unique := uniqueKeys_of_settle built (ofGraph_eq_ok run).1
        have planted := built.planted
        obtain ⟨named, hki⟩ := planted.qualified_iff.mp hi
        obtain ⟨named', hkj⟩ := planted.qualified_iff.mp hj
        exact absurd (unique i j (lt_of_name named) (lt_of_name named')
          (planted.isKeyed_iff.mpr named) (planted.isKeyed_iff.mpr named')
          (hki.trans hkj.symm)) different

/-- A source with a member inside an object, and another one that it includes:
with a name of its own, or with the same names once more. -/
theorem resolve_keys_included :
    let sources : Sources := ⟨fun _ => .ok "", 2⟩
    let object : Script := .sequence [.need (.beginObject "o" .standard none .api),
      .need (.declaration "a" .standard "string" .api), .need .endObject]
    let main (included : Script) : FrontEnd := fun name _ =>
      if name = "main" then .andThen (.need (.addInclude "other" .api)) object else included
    let other : Script := .need (.declaration "b" .standard "string" .api)
    (∃ doc, resolve sources (main other) .lenient ⟨"main"⟩ = .ok doc ∧
        doc.find? "o.a" = some 2 ∧ doc.find? "b" = some 4 ∧
        (doc.graph.node 2).key = some "o.a" ∧ (doc.graph.node 4).key = some "b") ∧
      ∃ e, resolve sources (main object) .lenient ⟨"main"⟩ = .error e := by
  intro sources object main other
  constructor
  · have run : (resolve sources (main other) .lenient ⟨"main"⟩).toOption.any (fun doc =>
        decide (doc.find? "o.a" = some 2 ∧ doc.find? "b" = some 4)) = true := by decide +kernel
    obtain ⟨doc, resolved, inside, included⟩ := Steps.exists_ok_of_decide run
    have inverse := ((resolve_keys sources (main other) .lenient ⟨"main"⟩).1 doc resolved).2.2
    exact ⟨doc, resolved, inside, included, ((inverse "o.a" 2).mp inside).2.2,
      ((inverse "b" 4).mp included).2.2⟩
  · let places : List (Id × Id) := [(0, 1), (3, 4)]
    have run : (Discovery.run sources (main object) .all 2 (.start ⟨"main"⟩)).toOption.any
        (fun d => decide (∀ e ∈ places, (d.graph.node e.2).name = some "o" ∧
          (d.graph.node e.2).parent = some e.1 ∧
          (d.graph.node e.1).production = .root)) = true := by decide +kernel
    obtain ⟨d, found, named⟩ := Steps.exists_ok_of_decide run
    have qualified : ∀ e ∈ places, d.graph.Qualified e.2 "o" := by
      intro e he
      obtain ⟨hn, hp, root⟩ := named e he
      exact .outermost hn hp root
    exact (resolve_keys sources (main object) .lenient ⟨"main"⟩).2 d found 1 4 "o" (by decide)
      (qualified (0, 1) (by decide)) (qualified (3, 4) (by decide))

end Document

end TypeSchema
