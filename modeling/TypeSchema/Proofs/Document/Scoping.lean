/-
# Scoping — what the references of a resolved document are

A reference is looked up in the graph that its sources have been built into,
while others around it are settled already.  Looking up reads names and
places only, and these stay; so the reference of a declaration is what its
text denotes in the document itself (`scoped_of_ofGraph`).

This is also how documents compare: what stands outside the scope of a find
may differ from one document to another (`resolve_scoping`).
-/
import TypeSchema.Proofs.Document.Keys
import TypeSchema.Proofs.Graph.Scoping

namespace TypeSchema

open Declaration (Id Reference)

namespace Document

open TypeSchema.Graph

/-- Resolving leaves a tree of declarations in which siblings have different
names, and a reference that was a text is what is looked up for it. -/
theorem scoped_of_ofGraph {g : Graph} {found : List Source} {strict : Bool} {doc : Document}
    (built : Built g) (run : ofGraph g found strict = .ok doc) :
    doc.graph.Nested ∧ doc.graph.Distinct ∧
      ∀ id text, (g.node id).reference = .unresolved text →
        id < doc.graph.size ∧ (doc.graph.node id).reference =
          doc.graph.lookedUpReference (includedRoots found) id text := by
  obtain ⟨run, _⟩ := ofGraph_eq_ok run
  obtain ⟨_, links, _⟩ := settle_ok built run
  have frame : SameFrame g doc.graph :=
    (sameFrame_lookedUp g (includedRoots found)).symm.trans links.frame
  have distinct : g.Distinct :=
    (uniqueKeys_of_settle built run).distinct built.tree built.nested.older
  refine ⟨built.nested.congr frame.seat, distinct.congr frame, fun id text written => ?_⟩
  have hid : id < g.size := by
    by_contra outside
    rw [node_of_size_le (Nat.not_lt.mp outside)] at written
    cases written
  refine ⟨frame.size ▸ hid, ?_⟩
  rw [← links.reference, reference_lookedUp built.raw hid, lookedUpReference, ← lookup_congr frame]
  exact settledReference_of_text written

/-- In a resolved document the reference of a declaration is what its text
denotes there.  Where that is found in a scope around the declaration, it is
found in every other document that has further declarations outside this
scope only. -/
theorem resolve_scoping {sources : Sources} {frontEnd : FrontEnd} {options : Options} {main : Path}
    {doc : Document} (run : resolve sources frontEnd options main = .ok doc) :
    ∃ d, Discovery.run sources frontEnd options.features sources.limit (Discovery.start main)
        = .ok d ∧
      ∀ id text, (d.graph.node id).reference = .unresolved text →
        (∀ r, (doc.graph.node id).reference = r ↔
          doc.graph.Denotes (includedRoots d.found) id text r) ∧
        ∀ names scope t, Spells text names → "" ∉ names → doc.graph.Nearest id names scope t →
          ∀ sources' frontEnd' options' main' d' doc' f,
            Discovery.run sources' frontEnd' options'.features sources'.limit
              (Discovery.start main') = .ok d' →
            resolve sources' frontEnd' options' main' = .ok doc' →
            GrowsOutside scope f doc.graph doc'.graph →
            (d'.graph.node (f id)).reference = .unresolved text →
            (doc'.graph.node (f id)).reference = .declaration (f t) := by
  obtain ⟨d, found, settled⟩ := Steps.except_bind_eq_ok.mp run
  obtain ⟨nested, distinct, references⟩ :=
    scoped_of_ofGraph (Discovery.built_run .empty found) settled
  refine ⟨d, found, fun id text written => ?_⟩
  obtain ⟨hid, reference⟩ := references id text written
  refine ⟨fun r => by rw [reference, denotes_iff nested.older distinct], ?_⟩
  intro names scope t spells whole near sources' frontEnd' options' main' d' doc' f found' run'
    grows written'
  obtain ⟨d'', found'', settled'⟩ := Steps.except_bind_eq_ok.mp run'
  cases found'.symm.trans found''
  obtain ⟨nested', distinct', references'⟩ :=
    scoped_of_ofGraph (Discovery.built_run .empty found') settled'
  rw [(references' (f id) text written').2, ← denotes_iff nested'.older distinct']
  exact .around spells whole (grows.nearest nested nested' hid near)

/-- Two declarations of a name, one of them inside an object and referring to
the other one, and a second one in the object that refers to the inner one.
A third of the name and another source before them change nothing about that. -/
theorem resolve_scoping_shadowed :
    let sources : Sources := ⟨fun _ => .ok "", 2⟩
    let shadowed : Script := .sequence [.need (.beginObject "o" .standard none .api),
      .need (.declaration "a" .standard "a" .api), .need (.declaration "b" .standard "a" .api),
      .need .endObject, .need (.declaration "a" .standard "string" .api)]
    let further : Script := .sequence [.need (.addInclude "other" .api),
      .need (.beginObject "p" .standard none .api),
      .need (.declaration "a" .standard "number" .api), .need .endObject]
    let frontEnd (main : Script) : FrontEnd := fun name _ =>
      if name = "main" then main else .need (.declaration "c" .standard "string" .api)
    (∃ doc, resolve sources (frontEnd shadowed) .lenient ⟨"main"⟩ = .ok doc ∧
        (doc.graph.node 2).reference = .declaration 4 ∧
        doc.graph.Denotes [] 2 "a" (.declaration 4) ∧
        doc.graph.Nearest 3 ["a"] 1 2 ∧ (doc.graph.node 3).reference = .declaration 2) ∧
      ∃ doc', resolve sources (frontEnd (further.andThen shadowed)) .lenient ⟨"main"⟩ = .ok doc' ∧
        (doc'.graph.node 5).reference = .declaration 4 := by
  intro sources shadowed further frontEnd
  let grown := frontEnd (further.andThen shadowed)
  let f : Nat → Nat := fun i => if i = 0 then 0 else i + 2
  let written (main : FrontEnd) (id : Id) :=
    (Discovery.run sources main .all 2 (.start ⟨"main"⟩)).toOption.any fun d =>
      decide ((d.graph.node id).reference = .unresolved "a")
  have texts : written (frontEnd shadowed) 2 ∧ written (frontEnd shadowed) 3 ∧ written grown 5 := by
    decide +kernel
  have run : (resolve sources (frontEnd shadowed) .lenient ⟨"main"⟩).toOption.any (fun doc =>
      decide (((doc.graph.node 2).reference = .declaration 4 ∧
        includedRoots doc.sources = [] ∧ doc.graph.lineage 3 = [3, 1, 0]) ∧
        (doc.graph.node 3).children = [] ∧ (doc.graph.node 1).children = [2, 3] ∧
        (doc.graph.node 2).name = some "a" ∧ doc.graph.size = 5) &&
      (resolve sources grown .lenient ⟨"main"⟩).toOption.any fun doc' =>
        decide (doc'.graph.size = 9 ∧
          (∀ i : Nat, i < 5 → (doc'.graph.node (f i)).name = (doc.graph.node i).name) ∧
          (∀ i : Nat, i < 5 → (doc'.graph.node (f i)).parent = (doc.graph.node i).parent.map f) ∧
          ∀ j : Nat, j < 9 → (∀ i : Nat, i < 5 → f i ≠ j) → 3 ∉ doc'.graph.lineage j)) = true := by
    decide +kernel
  obtain ⟨doc, resolved, run⟩ := Steps.exists_ok_of_any run
  rw [Bool.and_eq_true] at run
  obtain ⟨⟨own, alone, lineage⟩, leaf, children, name, size⟩ := of_decide_eq_true run.1
  obtain ⟨doc', resolved', size', names, parents, outside⟩ := Steps.exists_ok_of_decide run.2
  obtain ⟨d, found, settled⟩ := Steps.except_bind_eq_ok.mp resolved
  obtain ⟨d', found', settled'⟩ := Steps.except_bind_eq_ok.mp resolved'
  have nested := (scoped_of_ofGraph (Discovery.built_run .empty found) settled).1
  have nested' := (scoped_of_ofGraph (Discovery.built_run .empty found') settled').1
  rw [(ofGraph_eq_ok settled).2] at alone
  have stages : Discovery.run sources (frontEnd shadowed) .all 2 (.start ⟨"main"⟩) = .ok d ∧
      Discovery.run sources grown .all 2 (.start ⟨"main"⟩) = .ok d' := ⟨found, found'⟩
  simp only [written, stages, Except.toOption, Option.any_some, decide_eq_true_eq] at texts
  obtain ⟨text₂, text₃, text₅⟩ := texts
  have spells : Spells "a" ["a"] := spells_iff.mpr (by decide +kernel)
  have whole : "" ∉ ["a"] := by decide
  have near : doc.graph.Nearest 3 ["a"] 1 2 := by
    refine ⟨(mem_lineage nested.older).mp (by rw [lineage]; decide),
      .intro ⟨by rw [children]; decide, name⟩ (by decide) .done, fun s hs inner hne u admits => ?_⟩
    rw [← mem_lineage nested.older, lineage] at hs
    obtain rfl | rfl | rfl : s = 3 ∨ s = 1 ∨ s = 0 := by simpa using hs
    · obtain ⟨⟨hmem, -⟩, -, -⟩ := admits
      rw [leaf] at hmem
      cases hmem
    · exact hne rfl
    · exact absurd (inner.le nested.older) (by decide)
  have injective : ∀ i j, f i = f j → i = j := by
    intro i j same
    simp only [f] at same
    split at same <;> split at same <;> omega
  have grows : GrowsOutside 1 f doc.graph doc'.graph :=
    ⟨fun i _ j _ => injective i j, size ▸ names, size ▸ parents, fun j hj new inside =>
      outside j (size' ▸ hj) (size ▸ new) ((mem_lineage nested'.older).mpr inside)⟩
  obtain ⟨d₀, found₀, scoping⟩ := resolve_scoping resolved
  cases found.symm.trans found₀
  refine ⟨⟨doc, resolved, own, ?_, near, ?_⟩, doc', resolved', ?_⟩
  · exact alone ▸ ((scoping 2 "a" text₂).1 _).mp own
  · exact ((scoping 3 "a" text₃).1 _).mpr (.around spells whole near)
  · exact (scoping 3 "a" text₃).2 ["a"] 1 2 spells whole near sources grown .lenient ⟨"main"⟩ d'
      doc' f found' resolved' grows text₅

end Document

end TypeSchema
