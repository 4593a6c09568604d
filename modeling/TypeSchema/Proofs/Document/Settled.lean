/-
# Settled — what a resolved document holds

A document is settled in four stages: references are looked up, declarations
classified, their tags checked, all of them committed.  Each stage leaves
what the ones before it found out, so the document that comes out satisfies
everything they made sure of (`Graph.Settled`).
-/
import TypeSchema.Document.Discovery
import TypeSchema.Proofs.Graph.Classification
import TypeSchema.Proofs.Graph.Derivation

namespace TypeSchema

open Declaration (Id Production Subtype Reference)

/-! ## Committing -/

/-- All of a declaration but the key under which it is committed. -/
def Declaration.body (d : Declaration) : Declaration := { d with key := none }

namespace Graph

/-- The graphs differ in keys at most. -/
abbrev SameBody : Graph → Graph → Prop := Agree Declaration.body

theorem SameBody.links {g h : Graph} (s : SameBody g h) : SameLinks g h :=
  s.map (fun d => { d with subtype := none, isNewType := false }) _ fun _ => rfl

theorem SameBody.labels {g h : Graph} (s : SameBody g h) : g.labels = h.labels :=
  funext fun id => (s.map (·.subtype) (·.subtype) fun _ => rfl).part id

theorem commitNext_ok {g h : Graph} {keys keys' : Keys} {id : Id}
    (run : commitNext keys id g = .ok keys' h) : SameBody g h := by
  obtain ⟨key, g', hcommit, hrest⟩ := Steps.bind_eq_ok.mp run
  -- what follows the commit only looks at the graph
  have hsame : h = g' := by
    rw [Steps.bind_ok (Steps.get_run g')] at hrest
    by_cases hc : (g'.node id).name.isNone ∨ (g'.node id).production = .root
    · rw [if_pos hc] at hrest
      cases hrest
      rfl
    · rw [if_neg hc] at hrest
      cases hf : Fields.find? key keys with
      | some first => rw [hf] at hrest; cases hrest
      | none => rw [hf] at hrest; cases hrest; rfl
  rw [commit, Steps.bind_ok (Steps.get_run g)] at hcommit
  obtain ⟨_, g₁, hclose, hkey⟩ := Steps.bind_eq_ok.mp hcommit
  cases hkey
  rw [hsame]
  rcases update_eq_ok hclose with rfl | ⟨d, hd, rfl⟩
  · exact .refl _
  · refine (Agree.put ?_).symm
    obtain ⟨_, rfl⟩ := Declaration.change_eq_ok hd
    rfl

theorem foldlM_commitNext {ids : List Id} {g h : Graph} {keys keys' : Keys}
    (run : ids.foldlM commitNext keys g = .ok keys' h) : SameBody g h := by
  induction ids generalizing g keys with
  | nil =>
      cases run
      exact .refl _
  | cons id ids ih =>
      rw [List.foldlM_cons] at run
      obtain ⟨keys₁, g₁, hfirst, hrest⟩ := Steps.bind_eq_ok.mp run
      exact (commitNext_ok hfirst).trans (ih hrest)

/-- Committing gives keys, and changes nothing else. -/
theorem commitAll_ok {g h : Graph} {keys : Keys} (run : commitAll g = .ok keys h) :
    SameBody g h := by
  rw [commitAll, Steps.bind_ok (Steps.get_run g)] at run
  exact foldlM_commitNext run

/-! ## Settled graphs -/

/-- The subtype is found out by what the declaration derives from. -/
def IsDerived : Option Subtype → Prop
  | some .config => True
  | some .alias => True
  | some .augmented => True
  | some .fundamental => True
  | _ => False

/-- Everything has been found out and made sure of: references are looked up,
labels obey the rules, simple objects have attributes only, and the tags of
all other declarations suit what they derive from. -/
structure Settled (g : Graph) : Prop where
  linked : g.Linked
  obeys : g.Obeys g.labels
  attributes : ∀ id < g.size, g.checkSimple id = .ok ()
  suits : ∀ id < g.size, ∀ r, IsDerived (g.labels id) → Derives g id r → Suits g id r

theorem suits_of_checkMetadata {g : Graph} (linked : g.Linked) {id : Id}
    (h : g.checkMetadata id = .ok ()) (derived : IsDerived (g.labels id)) {r : Derivation}
    (derives : Derives g id r) : Suits g id r := by
  refine suits_of_checkDerived linked.acyclic ?_ derives
  unfold checkMetadata at h
  unfold labels at derived
  cases hs : (g.node id).subtype with
  | none => rw [hs] at derived; cases derived
  | some s =>
      rw [hs] at h derived
      cases s <;> first | exact h | cases derived

theorem checkSimple_congr {g h : Graph} (s : SameBody g h) (id : Id) :
    g.checkSimple id = h.checkSimple id := by
  have subtype : (g.node id).subtype = (h.node id).subtype := congrFun s.labels id
  simp only [checkSimple, s.links.frame.production, s.links.frame.children, s.links.frame.role,
    s.links.frame.name, s.links.frame.location, subtype]

end Graph

namespace Document

open TypeSchema.Graph

/-- Settling a built graph settles it: references are what they were looked up
to be, and where names have to be found, they were. -/
theorem settle_ok {g h : Graph} {sources : List Source} {strict : Bool} {keys : Keys}
    (built : Built g) (run : settle sources strict g = .ok keys h) :
    h.Settled ∧ SameLinks (g.lookedUp (includedRoots sources)) h ∧
      (strict = true → ∀ n < g.size, ∀ text, ¬ g.Dangles (includedRoots sources) n text) := by
  obtain ⟨_, g₁, resolved, run⟩ := Steps.bind_eq_ok.mp run
  obtain ⟨_, g₂, hclassify, run⟩ := Steps.bind_eq_ok.mp run
  rw [Steps.bind_ok (Steps.get_run g₂)] at run
  obtain ⟨_, g₃, checked, committed⟩ := Steps.bind_eq_ok.mp run
  obtain ⟨checked, rfl⟩ := Steps.ofExcept_eq_ok.mp checked
  obtain ⟨rfl, linked, complete⟩ := resolveReferences_ok built.raw built.tree resolved
  obtain ⟨c, simple⟩ := classify_ok linked (unjudged_lookedUp built.raw _) hclassify
  have body := commitAll_ok committed
  have links := c.links.trans body.links
  have linked₂ := linked.congr c.links
  refine ⟨⟨linked.congr links, ?_, ?_, ?_⟩, links, complete⟩
  · rw [← body.labels]
    exact c.obeys.congr linked₂ body.links
  · intro id hid
    rw [← links.size] at hid
    rw [← checkSimple_congr body]
    exact simple id hid
  · intro id hid r derived derives
    rw [← body.links.size] at hid
    have check := Steps.forM_checks.mp checked id (mem_ids.mpr hid)
    rw [← body.labels] at derived
    exact (suits_of_checkMetadata linked₂ check derived (derives.congr body.links.symm)).congr
      body.links

theorem ofGraph_eq_ok {g : Graph} {sources : List Source} {strict : Bool} {doc : Document}
    (h : ofGraph g sources strict = .ok doc) :
    settle sources strict g = .ok doc.keys doc.graph ∧ doc.sources = sources := by
  unfold ofGraph at h
  cases run : settle sources strict g with
  | ok keys g' => rw [run] at h; cases h; exact ⟨rfl, rfl⟩
  | error e g' => rw [run] at h; cases h

variable {sources : Sources} {frontEnd : FrontEnd} {options : Options} {main : Path}
  {doc : Document}

/-- A document comes from a graph that its sources have been built into. -/
theorem resolve_eq_ok (run : resolve sources frontEnd options main = .ok doc) :
    ∃ d : Discovery, Built d.graph ∧ ofGraph d.graph d.found options.strict = .ok doc := by
  obtain ⟨d, found, settled⟩ := Steps.except_bind_eq_ok.mp run
  exact ⟨d, Discovery.built_run .empty found, settled⟩

/-- All that is found out about a document is found out when it is resolved. -/
theorem settled_of_resolve (run : resolve sources frontEnd options main = .ok doc) :
    doc.graph.Settled := by
  obtain ⟨d, built, settled⟩ := resolve_eq_ok run
  exact (settle_ok built (ofGraph_eq_ok settled).1).1

end Document

end TypeSchema
