/-
# References — what links hold a resolved document together

Looking up gives each declaration its reference and each one that is referred
to its back-links, in one pass over a graph without any links.  So back-links
mirror references (`Linked.mem_referencedBy`), each list of them in the order
of the pass (`ascending_lookedUp`).

A cycle shows in the graph that comes out of the pass.  Its references are
those that the texts of the sources name (`refers_lookedUp`), and so where
resolution complains of a cycle, there is one in the sources
(`exists_cycle_of_error`).
-/
import TypeSchema.Proofs.Document.Settled

namespace TypeSchema

open Declaration (Id Reference)

namespace Graph

/-- The text that a declaration holds for its reference names another one. -/
def LooksUp (g : Graph) (included : List Id) (a b : Id) : Prop :=
  ∃ text, (g.node a).reference = .unresolved text ∧
    g.lookup included a text = some (.declaration b)

section LookedUp

variable {g : Graph} {included : List Id} {strict : Bool}

/-- Looking up does not add declarations. -/
theorem node_lookedUp_outside {i : Id} (hi : ¬ i < g.size) :
    (g.lookedUp included).node i = default := by
  apply node_of_size_le
  rw [(sameFrame_lookedUp g included).size]
  exact Nat.not_lt.mp hi

theorem settledReference_eq_declaration (raw : g.Raw) {a b : Id} :
    g.settledReference included a = .declaration b ↔ g.LooksUp included a b := by
  unfold settledReference LooksUp
  rcases (raw a).reference_cases with hr | ⟨text, hr⟩
  · simp [hr]
  · cases hl : g.lookup included a text with
    | none => simp [hr, hl]
    | some found => cases found <;> simp [hr, hl]

/-- A pass over all references leaves those that the texts name. -/
theorem refers_lookedUp (raw : g.Raw) {a b : Id} :
    (g.lookedUp included).Refers a b ↔ g.LooksUp included a b := by
  rw [← settledReference_eq_declaration raw, Refers]
  by_cases ha : a < g.size
  · rw [reference_lookedUp raw ha]
  · have blank : (g.node a).reference = .none := by
      rw [node_of_size_le (Nat.not_lt.mp ha)]
      rfl
    rw [node_lookedUp_outside ha, settledReference, blank]
    rfl

/-- Back-links are written in the order in which references are looked up. -/
theorem ascending_lookedUp (raw : g.Raw) (b : Id) :
    (((g.lookedUp included).node b).referencedBy).Pairwise (· < ·) := by
  by_cases hb : b < g.size
  · rw [node_lookedUp raw hb]
    exact List.pairwise_lt_range.filter _
  · rw [node_lookedUp_outside hb]
    exact .nil

/-- Where resolution complains of a cycle at some declaration, the texts of
references lead from there into a cycle. -/
theorem exists_cycle_of_error (raw : g.Raw) (tree : g.Tree) {key : String} {place : Location}
    {h : Graph}
    (fails : resolveReferences included strict g = .error (.circularReference key place) h) :
    ∃ id x, key = (g.node id).name.getD "<root>" ∧ place = (g.node id).location ∧
      Relation.ReflTransGen (g.LooksUp included) id x ∧
      Relation.TransGen (g.LooksUp included) x x := by
  have named : strict = false ∨ ∀ n < g.size, ∀ text, ¬ g.Dangles included n text := by
    cases strict with
    | false => exact .inl rfl
    | true =>
        refine .inr fun n hn text hd => ?_
        -- what names nothing is complained of first
        obtain ⟨m, hm, text', hdm, first⟩ := exists_first_dangling ⟨n, hn, text, hd⟩
        rw [resolveReferences_dangling raw tree hm first hdm] at fails
        cases fails
  rw [resolveReferences_eq raw tree named] at fails
  have refers : (g.lookedUp included).Refers = g.LooksUp included :=
    funext fun a => funext fun b => propext (refers_lookedUp raw)
  cases checked : g.ids.forM (g.lookedUp included).checkNoCycle with
  | ok _ =>
      rw [Steps.ofExcept_ok checked] at fails
      cases fails
  | error e =>
      rw [Steps.ofExcept_error checked] at fails
      cases fails
      obtain ⟨id, _, hid⟩ := Steps.forM_checks_error checked
      unfold checkNoCycle at hid
      split at hid
      · rename_i returns
        obtain ⟨x, leads, cycle⟩ := hasCycle_iff.mp returns
        rw [refers] at leads cycle
        cases hid
        have frame := sameFrame_lookedUp g included
        exact ⟨id, x, by rw [frame.name], frame.location id, leads, cycle⟩
      · cases hid

end LookedUp

namespace Linked

variable {g : Graph}

/-- Back-links mirror references, also where no declaration is. -/
theorem mem_referencedBy_iff (linked : g.Linked) {a b : Id} :
    a ∈ (g.node b).referencedBy ↔ g.Refers a b := by
  by_cases hb : b < g.size
  · exact linked.mem_referencedBy hb
  · refine iff_of_false ?_ fun refers => hb (linked.target refers).1
    rw [node_of_size_le (Nat.not_lt.mp hb)]
    exact List.not_mem_nil

theorem reference_ne_unresolved (linked : g.Linked) (id : Id) (text : String) :
    (g.node id).reference ≠ .unresolved text := by
  intro h
  have allowed := linked.reference id
  rw [h] at allowed
  cases hp : (g.node id).production <;> rw [hp] at allowed
  case object => rcases allowed with h | h <;> cases h
  all_goals cases allowed

end Linked

end Graph

namespace Document

open TypeSchema.Graph

/-- In a resolved document every reference is settled, back-links mirror
references, each once and in ascending order, and each walk is a chain of
different declarations, of which the last one refers to no other.  That
references go in circles is complained of only where the texts of the sources
do. -/
theorem resolve_links (sources : Sources) (frontEnd : FrontEnd) (options : Options) (main : Path) :
    (∀ doc, resolve sources frontEnd options main = .ok doc →
      (∀ id text, (doc.graph.node id).reference ≠ .unresolved text) ∧
        (∀ a b, (a ∈ (doc.graph.node b).referencedBy ↔ doc.graph.Refers a b) ∧
          (doc.graph.Refers a b → (doc.graph.node b).referencedBy.count a = 1)) ∧
        (∀ b, (doc.graph.node b).referencedBy.Pairwise (· < ·)) ∧
        (∀ id, ¬ Relation.TransGen doc.graph.Refers id id) ∧
        ∀ id, Chain doc.graph id (doc.graph.walk id) ∧ (doc.graph.walk id).Nodup ∧
          ∃ last, (doc.graph.walk id).getLast? = some last ∧
            ∀ target, ¬ doc.graph.Refers last target) ∧
      ∀ d, Discovery.run sources frontEnd options.features sources.limit (Discovery.start main)
          = .ok d →
        ∀ key place h,
          resolveReferences (includedRoots d.found) options.strict d.graph
              = .error (.circularReference key place) h →
            resolve sources frontEnd options main = .error (.circularReference key place) ∧
              ∃ id x, key = (d.graph.node id).name.getD "<root>" ∧
                place = (d.graph.node id).location ∧
                Relation.ReflTransGen (d.graph.LooksUp (includedRoots d.found)) id x ∧
                Relation.TransGen (d.graph.LooksUp (includedRoots d.found)) x x := by
  constructor
  · intro doc run
    obtain ⟨d, built, settled⟩ := resolve_eq_ok run
    obtain ⟨⟨linked, _, _, _⟩, links, _⟩ := settle_ok built (ofGraph_eq_ok settled).1
    have ascending : ∀ b, (doc.graph.node b).referencedBy.Pairwise (· < ·) := by
      intro b
      rw [← links.referencedBy]
      exact ascending_lookedUp built.raw b
    refine ⟨linked.reference_ne_unresolved, fun a b => ⟨linked.mem_referencedBy_iff, ?_⟩,
      ascending, linked.acyclic.not_transGen, fun id => ?_⟩
    · intro refers
      exact List.count_eq_one_of_mem ((ascending b).imp Nat.ne_of_lt)
        (linked.mem_referencedBy_iff.mpr refers)
    · obtain ⟨chain, nodup, _⟩ := chain_walk (linked.acyclic.hasCycle id)
      exact ⟨chain, nodup, chain.exists_last⟩
  · intro d found key place h fails
    have built : Built d.graph := Discovery.built_run .empty found
    refine ⟨?_, exists_cycle_of_error built.raw built.tree fails⟩
    have stops : settle d.found options.strict d.graph = .error (.circularReference key place) h :=
      Steps.bind_error fails
    refine Steps.except_bind_eq_error.mpr (.inr ⟨d, found, ?_⟩)
    simp only [ofGraph, stops]

/-- Three names of which the first refers to the second and this to the
third, and two names that refer to each other. -/
theorem resolve_links_three :
    let sources : Sources := ⟨fun _ => .ok "", 1⟩
    let names : List (String × String) → FrontEnd := fun pairs _ _ =>
      .sequence (pairs.map fun p => .need (.declaration p.1 .standard p.2 .api))
    let chain := names [("a", "b"), ("b", "c"), ("c", "string")]
    let circle := names [("a", "b"), ("b", "a")]
    (∃ doc, resolve sources chain .lenient ⟨"main"⟩ = .ok doc ∧ doc.graph.Refers 1 2 ∧
        doc.graph.Refers 2 3 ∧ (doc.graph.node 2).referencedBy.count 1 = 1 ∧
        ∃ last, (doc.graph.walk 1).getLast? = some last ∧
          ∀ target, ¬ doc.graph.Refers last target) ∧
      ∃ d key place,
        Discovery.run sources circle .all 1 (Discovery.start ⟨"main"⟩) = .ok d ∧
          resolve sources circle .lenient ⟨"main"⟩ = .error (.circularReference key place) ∧
          ∃ x, Relation.TransGen (d.graph.LooksUp (includedRoots d.found)) x x := by
  intro sources names chain circle
  constructor
  · have run : (resolve sources chain .lenient ⟨"main"⟩).toOption.any (fun doc =>
        decide ((doc.graph.node 1).reference = .declaration 2 ∧
          (doc.graph.node 2).reference = .declaration 3)) = true := by decide +kernel
    obtain ⟨doc, resolved, first, second⟩ := Steps.exists_ok_of_decide run
    obtain ⟨_, mirrored, _, _, walks⟩ :=
      (resolve_links sources chain .lenient ⟨"main"⟩).1 doc resolved
    exact ⟨doc, resolved, first, second, (mirrored 1 2).2 first, (walks 1).2.2⟩
  · let stage (d : Discovery) := resolveReferences (includedRoots d.found) false d.graph
    have run : (Discovery.run sources circle .all 1 (Discovery.start ⟨"main"⟩)).toOption.any
        (fun d => match stage d with
          | .error (.circularReference _ _) _ => true
          | _ => false) = true := by decide +kernel
    obtain ⟨d, found, run⟩ := Steps.exists_ok_of_any run
    split at run
    · rename_i key place h fails
      obtain ⟨failure, _, x, _, _, _, cycle⟩ :=
        (resolve_links sources circle .lenient ⟨"main"⟩).2 d found key place h fails
      exact ⟨d, key, place, found, failure, x, cycle⟩
    · cases run

end Document

end TypeSchema
