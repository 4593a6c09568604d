/-
# Mirror — settling one graph under other numbers

Each stage of settling succeeds on a mirrored graph as it does on the graph
itself, and leaves mirrored graphs again: references are looked up to
counterparts, declarations are given the verdicts of their counterparts, their
tags suit what they suited before, and keys stand for counterparts.  That
siblings have different names, which lookups depend on, is only made sure of
at the end, when keys turn out to be different; it is carried back to the
start.
-/
import TypeSchema.Proofs.Graph.Classification
import TypeSchema.Proofs.Graph.Committing
import TypeSchema.Proofs.Typing.Mirror

namespace TypeSchema

open Declaration (Id Production Subtype Reference)

namespace Graph

variable {σ : Equiv.Perm Nat} {g g' h : Graph} {included : List Id} {strict : Bool}

/-! ## Looking up references -/

theorem Acyclic.checkNoCycle (acyclic : g.Acyclic) (i : Id) : g.checkNoCycle i = .ok () :=
  if_neg (by rw [acyclic.hasCycle i]; exact Bool.false_ne_true)

/-- Where all references of a graph are found and none go in circles, it is so in a mirrored
graph. -/
theorem Mirror.resolveReferences (m : Mirror σ g h) (built : Built g) (built' : Built h)
    (older : g.Older) (older' : h.Older) (distinct : g.Distinct)
    (fixed : ∀ r ∈ included, σ r = r)
    (run : Graph.resolveReferences included strict g = .ok () g') :
    Graph.resolveReferences included strict h = .ok () (h.lookedUp included) := by
  obtain ⟨rfl, linked, complete⟩ := resolveReferences_ok built.raw built.tree run
  have mirrored := m.lookedUp older older' distinct fixed built.raw built'.raw
  have found : strict = false ∨ ∀ n < h.size, ∀ text, ¬ h.Dangles included n text := by
    cases strict with
    | false => exact .inl rfl
    | true =>
        refine .inr fun n hn text dangles => ?_
        obtain ⟨i, rfl⟩ := σ.surjective n
        exact complete rfl i ((m.lt_iff i).mp hn) text
          ((m.dangles_iff older older' distinct fixed i text).mp dangles)
  rw [resolveReferences_eq built'.raw built'.tree found]
  exact Steps.ofExcept_ok
    (Steps.forM_checks.mpr fun i _ => (mirrored.acyclic linked.acyclic).checkNoCycle i) _

/-! ## Classifying -/

theorem checkSimple_eq_ok {i : Id} : g.checkSimple i = .ok () ↔
    ((g.node i).production = .object → (g.node i).subtype = some .simple →
      ∀ c ∈ (g.node i).children, (g.node c).role = .attr) := by
  simp only [checkSimple]
  by_cases simple : (g.node i).production = .object ∧ (g.node i).subtype = some .simple
  · rw [if_pos simple]
    cases hf : (g.node i).children.find? fun c => (g.node c).role ≠ .attr with
    | none =>
        have attributes := List.find?_eq_none.mp hf
        simp only [decide_eq_true_eq, not_not] at attributes
        exact ⟨fun _ _ _ => attributes, fun _ => rfl⟩
    | some c =>
        have other : (g.node c).role ≠ .attr := by simpa using List.find?_some hf
        refine ⟨fun h => (by cases h), fun h => ?_⟩
        exact absurd (h simple.1 simple.2 c (List.mem_of_find?_eq_some hf)) other
  · rw [if_neg simple]
    exact ⟨fun _ hp hs => absurd ⟨hp, hs⟩ simple, fun _ => rfl⟩

/-- What simple objects contain does not depend on its order. -/
theorem Mirror.checkSimple (m : Mirror σ g h)
    (subtype : ∀ i, (h.node (σ i)).subtype = (g.node i).subtype) {i : Id}
    (ok : g.checkSimple i = .ok ()) : h.checkSimple (σ i) = .ok () := by
  rw [checkSimple_eq_ok] at ok ⊢
  intro hp hs c' hc'
  obtain ⟨c, rfl⟩ := σ.surjective c'
  rw [m.role]
  exact ok (m.production i ▸ hp) (subtype i ▸ hs) c ((m.mem_children i c).mp hc')

/-- Classification finds out the same about counterparts. -/
theorem Mirror.classify (m : Mirror σ g h) (linked : g.Linked) (linked' : h.Linked)
    (unjudged : g.Unjudged) (unjudged' : h.Unjudged) (run : Graph.classify g = .ok () g') :
    ∃ h', Graph.classify h = .ok () h' ∧ Twins σ g' h' := by
  obtain ⟨c, simple⟩ := classify_ok linked unjudged run
  obtain ⟨h', c', run'⟩ := classify_eq linked' unjudged'
  have m' := m.congr c.links c'.links
  have subtype : ∀ i, (h'.node (σ i)).subtype = (g'.node i).subtype := by
    intro i
    by_cases hi : i < g.size
    · have left := c'.verdicts (σ i) ((m.lt_iff i).mpr hi)
      rw [m.verdict linked linked' hi] at left
      exact left.trans (c.verdicts i hi).symm
    · rw [m'.node_outside (c.links.size ▸ Nat.not_lt.mp hi)]
  have checks : h.ids.forM h'.checkSimple = .ok () := by
    refine Steps.forM_checks.mpr fun j hj => ?_
    obtain ⟨i, rfl⟩ := σ.surjective j
    exact m'.checkSimple subtype (simple i ((m.lt_iff i).mp (mem_ids.mp hj)))
  have run'' := run'.trans (Steps.ofExcept_ok checks h')
  refine ⟨h', run'', ⟨m', subtype, fun i => by rw [c.isOpen, c'.isOpen], fun i => ?_⟩⟩
  by_cases hi : i < g.size
  · rw [noted_of_classify linked unjudged run hi,
      noted_of_classify linked' unjudged' run'' ((m.lt_iff i).mpr hi), m.verdict linked linked' hi]
  · rw [m'.node_outside (c.links.size ▸ Nat.not_lt.mp hi)]

/-! ## Committing -/

section Committing

variable {keys : Keys} (t : Twins σ g h) (older : g.Older) (older' : h.Older)
  (isOpen : ∀ i, (g.node i).key = none)
include t older older' isOpen

/-- Committing gives counterparts the same keys. -/
theorem Twins.commitAll (run : Graph.commitAll g = .ok keys g') :
    ∃ keys' h', Graph.commitAll h = .ok keys' h' ∧ Twins σ g' h' ∧
      ∀ key, Fields.find? key keys' = (Fields.find? key keys).map σ := by
  have isOpen' : ∀ j, (h.node j).key = none := by
    intro j
    obtain ⟨i, rfl⟩ := σ.surjective j
    rw [t.key, isOpen]
  have unique := uniqueKeys_of_commitAll isOpen run
  obtain ⟨keys', h', run'⟩ := exists_commitAll isOpen' (t.uniqueKeys older older' unique)
  have body := commitAll_ok run
  have body' := commitAll_ok run'
  have m := t.toMirror.congr body.links body'.links
  refine ⟨keys', h', run', ⟨m, fun i => ?_, fun i => ?_, fun i => ?_⟩,
    t.find?_commitAll older older' isOpen isOpen' run run'⟩
  · have := t.subtype i
    rwa [(body'.map (·.subtype) (·.subtype) fun _ => rfl).part (σ i),
      (body.map (·.subtype) (·.subtype) fun _ => rfl).part i] at this
  · by_cases hi : i < g.size
    · rw [key_commitAll isOpen run hi, key_commitAll isOpen' run' ((t.lt_iff i).mpr hi),
        t.keyOf older older']
    · rw [m.node_outside (body.size ▸ Nat.not_lt.mp hi)]
  · have := t.isNewType i
    rwa [(body'.map (·.isNewType) (·.isNewType) fun _ => rfl).part (σ i),
      (body.map (·.isNewType) (·.isNewType) fun _ => rfl).part i] at this

end Committing

end Graph

/-! ## All stages -/

namespace Document

open TypeSchema.Graph

variable {σ : Equiv.Perm Nat} {g g' h : Graph} {sources : List Source} {strict : Bool}
  {keys : Keys}

/-- The stages of settling, one after another. -/
theorem settle_eq_ok : settle sources strict g = .ok keys g' ↔
    ∃ g₁ g₂, resolveReferences (includedRoots sources) strict g = .ok () g₁ ∧
      classify g₁ = .ok () g₂ ∧ g₂.ids.forM g₂.checkMetadata = .ok () ∧
      commitAll g₂ = .ok keys g' := by
  constructor
  · intro run
    obtain ⟨_, g₁, resolved, run⟩ := Steps.bind_eq_ok.mp run
    obtain ⟨_, g₂, classified, run⟩ := Steps.bind_eq_ok.mp run
    rw [Steps.bind_ok (Steps.get_run g₂)] at run
    obtain ⟨_, g₃, checked, committed⟩ := Steps.bind_eq_ok.mp run
    obtain ⟨checked, rfl⟩ := Steps.ofExcept_eq_ok.mp checked
    exact ⟨g₁, g₃, resolved, classified, checked, committed⟩
  · rintro ⟨g₁, g₂, resolved, classified, checked, committed⟩
    refine (Steps.bind_ok resolved).trans ((Steps.bind_ok classified).trans ?_)
    refine (Steps.bind_ok (Steps.get_run g₂)).trans ?_
    exact (Steps.bind_ok (Steps.ofExcept_ok checked g₂)).trans committed

/-- What can be settled can be settled under other numbers, and everything comes out for
counterparts as it does for the declarations themselves. -/
theorem settle_mirrored (m : Mirror σ g h) (built : Built g) (built' : Built h)
    (older : g.Older) (older' : h.Older) (fixed : ∀ r ∈ includedRoots sources, σ r = r)
    (run : settle sources strict g = .ok keys g') :
    ∃ keys' h', settle sources strict h = .ok keys' h' ∧ Twins σ g' h' ∧
      ∀ key, Fields.find? key keys' = (Fields.find? key keys).map σ := by
  obtain ⟨g₁, g₂, resolved, classified, checked, committed⟩ := settle_eq_ok.mp run
  obtain ⟨rfl, linked, _⟩ := resolveReferences_ok built.raw built.tree resolved
  have unjudged := unjudged_lookedUp built.raw (includedRoots sources)
  have unjudged' := unjudged_lookedUp built'.raw (includedRoots sources)
  obtain ⟨c, _⟩ := classify_ok linked unjudged classified
  have frame : SameFrame g g₂ := (sameFrame_lookedUp g _).symm.trans c.links.frame
  -- keys are different in the end, so siblings were from the start
  have distinct : g.Distinct :=
    (((uniqueKeys_of_commitAll c.isOpen committed).congr frame.symm)).distinct built.tree older
  have resolved' := m.resolveReferences built built' older older' distinct fixed resolved
  obtain ⟨_, linked', _⟩ := resolveReferences_ok built'.raw built'.tree resolved'
  have mirrored := m.lookedUp older older' distinct fixed built.raw built'.raw
  obtain ⟨h₂, classified', t⟩ := mirrored.classify linked linked' unjudged unjudged' classified
  have frame' : SameFrame h h₂ := (sameFrame_lookedUp h _).symm.trans
    (classify_ok linked' unjudged' classified').1.links.frame
  have checked' : h₂.ids.forM h₂.checkMetadata = .ok () := by
    refine Steps.forM_checks.mpr fun j hj => ?_
    obtain ⟨i, rfl⟩ := σ.surjective j
    have hi := mem_ids.mpr ((t.lt_iff i).mp (mem_ids.mp hj))
    exact (t.checkMetadata i).ok_iff.mpr (Steps.forM_checks.mp checked i hi)
  obtain ⟨keys', h', committed', twins, found⟩ :=
    t.commitAll (older.congr frame) (older'.congr frame') c.isOpen committed
  exact ⟨keys', h', settle_eq_ok.mpr ⟨_, h₂, resolved', classified', checked', committed'⟩, twins,
    found⟩

/-- Up to the last stage, declarations stay open and stand as they were built. -/
theorem commitAll_of_settle (built : Built g) (run : settle sources strict g = .ok keys g') :
    ∃ g₂, SameFrame g g₂ ∧ (∀ i, (g₂.node i).key = none) ∧ commitAll g₂ = .ok keys g' := by
  obtain ⟨g₁, g₂, resolved, classified, _, committed⟩ := settle_eq_ok.mp run
  obtain ⟨rfl, linked, _⟩ := resolveReferences_ok built.raw built.tree resolved
  obtain ⟨c, _⟩ := classify_ok linked (unjudged_lookedUp built.raw _) classified
  exact ⟨g₂, (sameFrame_lookedUp g _).symm.trans c.links.frame, c.isOpen, committed⟩

/-- What is found by a key has a name and is no root. -/
theorem isKeyed_of_settle (built : Built g) (run : settle sources strict g = .ok keys g')
    {key : String} {i : Id} (found : Fields.find? key keys = some i) : g'.IsKeyed i := by
  obtain ⟨g₂, _, isOpen, committed⟩ := commitAll_of_settle built run
  obtain ⟨_, keyed, _⟩ := (find?_commitAll isOpen committed).mp found
  exact (isKeyed_congr (commitAll_ok committed).links.frame i).mp keyed

end Document

end TypeSchema
