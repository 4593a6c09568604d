/-
# Lint — what a clean report is worth

Lint passes over two kinds of declarations: the root of the main source, and
all that stand in included ones.  It also drops one kind of error, that of a
declaration for which a name is missing, since the missing name is reported
where it stands.

Where there is a single source, neither hides anything.  No declaration is
external then (`Marked.external`) and a root refers to nothing, so every
placeholder is reported; and a missing name is always that of a placeholder
which the declaration depends on, by members, bases and aliases of any number
(`exists_placeholder_diagnostic`).  Hence there are no errors exactly if no
name is missing and everything at the top has a type.
-/
import TypeSchema.Proofs.Builder.History
import TypeSchema.Proofs.Document.Search
import TypeSchema.Proofs.Document.Typing

namespace TypeSchema

open Declaration (Id)
open TypeSchema.Graph (Built Newborn)

/-! ## Which declarations are external -/

namespace Graph

/-- A declaration that is added brings nothing external with it but itself. -/
theorem isExternal_adopt {g : Graph} {d : Declaration} (hd : Newborn g d) {id : Id}
    (h : ((g.adopt d).node id).isExternal = true) :
    d.isExternal = true ∨ (g.node id).isExternal = true := by
  by_cases hid : id = g.size
  · rw [hid, node_adopt_self] at h
    exact .inl h
  · rw [node_adopt_ne hd hid] at h
    exact .inr h

theorem parent_adopt {g : Graph} {d : Declaration} (hd : Newborn g d) {id : Id}
    (hid : id < g.size) : ((g.adopt d).node id).parent = (g.node id).parent := by
  rw [node_adopt_ne hd (Nat.ne_of_lt hid)]
  rfl

end Graph

namespace Builder

/-- Something external in the graph, or a source that is, shows that `P`. -/
def ShowsExternal (P : Prop) (b : Builder) : Prop :=
  (b.isExternal = true → P) ∧ ∀ id, (b.graph.node id).isExternal = true → P

/-- What calls declare is external if the source is. -/
theorem Moved.showsExternal {P : Prop} {b b' : Builder} (moved : Moved b b')
    (h : b.ShowsExternal P) : b'.ShowsExternal P := by
  obtain ⟨source, graph⟩ := h
  have inner : ∀ {d}, b.Declares d → ∀ id, ((b.graph.adopt d).node id).isExternal = true → P := by
    intro d hd id external
    rcases Graph.isExternal_adopt hd.toNewborn external with new | old
    · exact source (hd.isExternal.symm.trans new)
    · exact graph id old
  cases moved with
  | stays => exact ⟨source, graph⟩
  | declared hd => exact ⟨source, inner hd⟩
  | begun hd _ => exact ⟨source, inner hd⟩
  | ended _ => exact ⟨source, graph⟩
  | @decorated d same =>
      refine ⟨source, fun id external => graph id ?_⟩
      have plain : undecorated ((b.graph.put b.current d).node id)
          = undecorated (b.graph.node id) := Graph.part_put undecorated same id
      have flag := congrArg Declaration.isExternal plain
      exact flag.symm.trans external
  | noted _ => exact ⟨source, graph⟩

end Builder

namespace Discovery

variable {sources : Sources} {frontEnd : FrontEnd} {features : Features} {d d' : Discovery}
  {path main : Path}

/-- Sources are found with roots that stand inside nothing, and nothing is
external before a second one is found. -/
structure Marked (d : Discovery) : Prop where
  built : Built d.graph
  outermost : ∀ s ∈ d.found, s.root < d.graph.size ∧ (d.graph.node s.root).parent = none
  external : ∀ id, (d.graph.node id).isExternal = true → 1 < d.found.length

theorem marked_start (main : Path) : Marked (.start main) where
  built := .empty
  outermost := fun s hs => absurd hs List.not_mem_nil
  external := fun id h => by
    have blank : Graph.empty.node id = default := Graph.node_of_size_le (Nat.zero_le id)
    rw [show (start main).graph.node id = default from blank] at h
    cases h

theorem Marked.visit {rest : List Path} (marked : Marked d)
    (visited : Discovery.visit sources frontEnd features { d with queue := rest } path = .ok d') :
    Marked d' := by
  obtain ⟨_, _, _, _, found, _⟩ := visit_ok (d := { d with queue := rest }) marked.built visited
  have found : d'.found = d.found ++ [⟨path, d.graph.size, !d.found.isEmpty⟩] := found
  obtain ⟨calls, graph⟩ := exists_calls_of_visit (d := { d with queue := rest })
    marked.built visited
  obtain ⟨_, sound⟩ := enter_eq (d := d) features marked.built path
  have newborn := Graph.newborn_root d.graph ⟨path.text, 0, 0⟩ (!d.found.isEmpty)
  have kept := Builder.keeps_leave calls sound
  have size : (d.entered features path).graph.size = d.graph.size + 1 := Graph.size_adopt ..
  refine ⟨built_visit (d := { d with queue := rest }) marked.built visited, fun s hs => ?_, ?_⟩
  · -- roots stand inside nothing when they are added, and calls leave them there
    have entered : s.root < (d.entered features path).graph.size ∧
        ((d.entered features path).graph.node s.root).parent = none := by
      rw [found] at hs
      rcases List.mem_append.mp hs with hs | hs
      · obtain ⟨hlt, parent⟩ := marked.outermost s hs
        exact ⟨size ▸ Nat.lt_succ_of_lt hlt, (Graph.parent_adopt newborn hlt).trans parent⟩
      · rw [List.mem_singleton.mp hs]
        refine ⟨size ▸ Nat.lt_succ_self _, ?_⟩
        exact congrArg Declaration.parent (Graph.node_adopt_self d.graph _)
    rw [graph]
    exact ⟨Nat.lt_of_lt_of_le entered.1 kept.size,
      (kept.parent s.root entered.1).trans entered.2⟩
  · have second : (!d.found.isEmpty) = true → 1 < d'.found.length := by
      intro some
      have : d.found ≠ [] := by simpa using some
      rw [found, List.length_append]
      exact Nat.succ_lt_succ (List.length_pos_iff.mpr this)
    have before : (d.entered features path).ShowsExternal (1 < d'.found.length) := by
      refine ⟨second, fun id external => ?_⟩
      rcases Graph.isExternal_adopt newborn external with new | old
      · exact second new
      · rw [found, List.length_append]
        exact Nat.lt_add_right 1 (marked.external id old)
    rw [graph]
    exact (Builder.leave_induction (fun _ moved h => moved.showsExternal h) calls sound before).2.2

theorem marked_run {limit : Nat}
    (found : run sources frontEnd features limit (.start main) = .ok d) : Marked d := by
  obtain ⟨succeeds, _⟩ := (ends_of_run found).keeps
    (fun marked _ visited => Marked.visit marked visited) (marked_start main)
  exact (succeeds d rfl).1

end Discovery

namespace Document

open TypeSchema.Graph (sameFrame_lookedUp)

variable {sources : Sources} {frontEnd : FrontEnd} {options : Options} {main : Path}
  {doc : Document}

/-- The root of a document refers to nothing, and where there is a single
source nothing is external. -/
theorem single_of_resolve (resolved : resolve sources frontEnd options main = .ok doc)
    (single : doc.sources.length = 1) :
    (doc.graph.node doc.root).parent = none ∧ (doc.graph.node doc.root).reference = .none ∧
      ∀ id, (doc.graph.node id).isExternal = false := by
  obtain ⟨d, found, settled⟩ := Steps.except_bind_eq_ok.mp resolved
  have marked := Discovery.marked_run found
  obtain ⟨run, same⟩ := ofGraph_eq_ok settled
  obtain ⟨finished, links, _⟩ := settle_ok marked.built run
  have frame : Graph.SameFrame d.graph doc.graph := (sameFrame_lookedUp d.graph _).symm.trans links.frame
  obtain ⟨s, only⟩ := List.length_eq_one_iff.mp single
  have root : doc.root = s.root := by rw [Document.root, only]; rfl
  have outermost := (marked.outermost s (by rw [← same, only]; exact List.mem_singleton_self s)).2
  rw [root, ← frame.parent]
  refine ⟨outermost, ?_, fun id => ?_⟩
  · have production := (marked.built.rooted s.root).mp outermost
    have allowed := finished.linked.reference s.root
    rw [← frame.production, production] at allowed
    exact allowed
  · rw [← frame.isExternal]
    refine Bool.eq_false_iff.mpr fun external => ?_
    have many := marked.external id external
    rw [← same, single] at many
    exact Nat.lt_irrefl 1 many

end Document

/-! ## What is found -/

namespace Lint

variable {sources : Sources} {frontEnd : FrontEnd} {options : Document.Options} {main : Path}
  {doc : Document} {file : Path} {id : Id}

theorem mem_diagnose {d : Diagnostic} : d ∈ diagnose doc file ↔
    ∃ id < doc.graph.size, ∃ f ∈ findings doc id,
      d = ⟨f, file, ((doc.graph.node id).key).getD "/"⟩ := by
  simp only [diagnose, List.mem_flatMap, List.mem_map, Graph.mem_ids, eq_comm]

/-- An error is that a name is missing, or a type. -/
theorem error_cases {f : Finding} (found : f ∈ findings doc id) (error : f.severity = .error) :
    f ∈ placeholders (doc.graph.node id) ∨ f ∈ untypables doc id := by
  rcases findings_cases found with h | h | rfl | ⟨_, rfl⟩
  · exact .inl h
  · exact .inr h
  · cases error
  · cases error

section Single

variable (own : ∀ id, (doc.graph.node id).isExternal = false)
include own

/-- A placeholder is reported where it stands. -/
theorem placeholder_mem_diagnose (hid : id < doc.graph.size) (ne : id ≠ doc.root) {text : String}
    (held : (doc.graph.node id).reference = .placeholder text) :
    ⟨.placeholder text, file, ((doc.graph.node id).key).getD "/"⟩ ∈ diagnose doc file := by
  refine mem_diagnose.mpr ⟨id, hid, _, mem_findings.mpr ⟨⟨own id, ne⟩, .inl ?_⟩, rfl⟩
  exact mem_placeholders.mpr ⟨text, held, rfl⟩

/-- An error for which no name is missing is reported where a type is. -/
theorem untypable_mem_diagnose (hid : id < doc.graph.size) (ne : id ≠ doc.root)
    (parent : (doc.graph.node id).parent = some doc.root)
    (named : (doc.graph.node id).subtype ≠ some .extension) {e : SchemaError}
    (untyped : doc.typeOf id = .error e)
    (other : ∀ text place, e ≠ .unresolvedReference text place) :
    ⟨.untypable e, file, ((doc.graph.node id).key).getD "/"⟩ ∈ diagnose doc file := by
  refine mem_diagnose.mpr ⟨id, hid, _, mem_findings.mpr ⟨⟨own id, ne⟩, .inr (.inl ?_)⟩, rfl⟩
  exact mem_untypables.mpr ⟨⟨parent, named⟩, e, untyped, other, rfl⟩

/-- An error that is not reported itself is that of a placeholder which the
declaration depends on, and which is reported. -/
theorem exists_placeholder_diagnostic (settled : doc.graph.Settled)
    (plain : (doc.graph.node doc.root).reference = .none) (hid : id < doc.graph.size)
    {text : String} {place : Location}
    (untyped : doc.typeOf id = .error (.unresolvedReference text place)) (file : Path) :
    ∃ c, doc.graph.Reaches id c ∧ c < doc.graph.size ∧
      (doc.graph.node c).reference = .placeholder text ∧ (doc.graph.node c).location = place ∧
      ⟨.placeholder text, file, ((doc.graph.node c).key).getD "/"⟩ ∈ diagnose doc file := by
  have explained := Graph.explained_typeOf settled hid
  rw [show doc.graph.typeOf id = _ from untyped] at explained
  cases explained with
  | @unresolved c _ reaches lacks =>
      have hc := settled.reaches_lt hid reaches
      have ne : c ≠ doc.root := by
        rintro rfl
        exact Declaration.Reference.noConfusion (plain.symm.trans lacks.placeholder)
      exact ⟨c, reaches, hc, lacks.placeholder, rfl,
        placeholder_mem_diagnose own hc ne lacks.placeholder⟩

end Single

/-- Of a document with a single source, no error is reported exactly if no
declaration holds a placeholder and everything at the top that is no extension
has a type.  An error about a type that is dropped has its placeholder
reported, however far the declaration that holds it is behind. -/
theorem diagnose_clean_iff (resolved : Document.resolve sources frontEnd options main = .ok doc)
    (single : doc.sources.length = 1) (file : Path) :
    ((∀ d ∈ diagnose doc file, d.finding.severity ≠ .error) ↔
      (∀ id < doc.graph.size, (doc.graph.node id).reference.isPlaceholder = false) ∧
        ∀ id < doc.graph.size, (doc.graph.node id).parent = some doc.root →
          (doc.graph.node id).subtype ≠ some .extension → ∃ t, doc.typeOf id = .ok t) ∧
      ∀ id < doc.graph.size, ∀ text place,
        doc.typeOf id = .error (.unresolvedReference text place) →
          ∃ c, doc.graph.Reaches id c ∧ c < doc.graph.size ∧
            (doc.graph.node c).reference = .placeholder text ∧
            (doc.graph.node c).location = place ∧
            ⟨.placeholder text, file, ((doc.graph.node c).key).getD "/"⟩ ∈ diagnose doc file := by
  have settled := Document.settled_of_resolve resolved
  obtain ⟨outermost, plain, own⟩ := Document.single_of_resolve resolved single
  have dropped := fun id (hid : id < doc.graph.size) text place
      (untyped : doc.typeOf id = .error (.unresolvedReference text place)) =>
    exists_placeholder_diagnostic own settled plain hid untyped file
  refine ⟨⟨fun clean => ⟨fun id hid => ?_, fun id hid parent named => ?_⟩, ?_⟩, dropped⟩
  · -- every placeholder is an error
    cases hr : (doc.graph.node id).reference with
    | placeholder text =>
        have ne : id ≠ doc.root := by
          rintro rfl
          rw [plain] at hr
          cases hr
        exact absurd rfl (clean _ (placeholder_mem_diagnose own hid ne hr))
    | _ => rfl
  · -- every other error about a type is one, and that of a missing name is about a placeholder
    cases untyped : doc.typeOf id with
    | ok t => exact ⟨t, rfl⟩
    | error e =>
        exfalso
        by_cases missing : ∃ text place, e = .unresolvedReference text place
        · obtain ⟨text, place, rfl⟩ := missing
          obtain ⟨_, _, _, _, _, reported⟩ := dropped id hid text place untyped
          exact clean _ reported rfl
        · have ne : id ≠ doc.root := by
            rintro rfl
            rw [outermost] at parent
            cases parent
          refine clean _ (untypable_mem_diagnose own hid ne parent named untyped ?_) rfl
          exact fun text place h => missing ⟨text, place, h⟩
  · rintro ⟨free, typed⟩ d hd error
    obtain ⟨id, hid, f, found, rfl⟩ := mem_diagnose.mp hd
    rcases error_cases found error with h | h
    · obtain ⟨text, held, _⟩ := mem_placeholders.mp h
      have := free id hid
      rw [held] at this
      cases this
    · obtain ⟨⟨parent, named⟩, e, untyped, _⟩ := mem_untypables.mp h
      obtain ⟨t, ht⟩ := typed id hid parent named
      rw [untyped] at ht
      cases ht

/-- A definition and a class with a member over it: nothing is reported, so the
class has a type. -/
theorem diagnose_clean_iff_class :
    let sources : Sources := ⟨fun _ => .ok "", 1⟩
    let frontEnd : FrontEnd := fun _ _ =>
      .sequence [.need (.declaration "Name" .definition "string" .api),
        .need (.beginObject "Person" .standard none .api),
        .need (.declaration "name" .standard "Name" .api), .need .endObject]
    ∃ doc, Document.resolve sources frontEnd .lenient ⟨"main"⟩ = .ok doc ∧
      doc.sources.length = 1 ∧
      (∀ id < doc.graph.size, (doc.graph.node id).reference.isPlaceholder = false) ∧
      ∃ t, doc.typeOf 2 = .ok t := by
  intro sources frontEnd
  have run : (Document.resolve sources frontEnd .lenient ⟨"main"⟩).toOption.any (fun doc =>
      decide (doc.sources.length = 1 ∧
        (∀ d ∈ diagnose doc ⟨"main"⟩, d.finding.severity ≠ .error) ∧ 2 < doc.graph.size ∧
        (doc.graph.node 2).parent = some doc.root ∧
        (doc.graph.node 2).subtype ≠ some .extension)) = true := by
    decide +kernel
  obtain ⟨doc, resolved, single, clean, hid, parent, named⟩ :=
    Steps.exists_ok_of_decide run
  obtain ⟨free, typed⟩ := (diagnose_clean_iff resolved single ⟨"main"⟩).1.mp clean
  exact ⟨doc, resolved, single, free, typed 2 hid parent named⟩

end Lint

end TypeSchema
