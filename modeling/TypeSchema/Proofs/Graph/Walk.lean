/-
# Walk — chains of references that end

Following references from a declaration gives a chain, which ends where one
refers to no declaration.  A declaration from which no reference leads back
has a chain without repetition, and this chain is its walk: bounds and lists
of what has been passed play no further part.

`Graph.Acyclic.induction` proves something of all declarations from what
they refer to.  `hasCycle_iff` says in terms of references alone which
declarations have no such chain: those from which references lead into a
cycle.
-/
import Mathlib.Data.List.Nodup
import Mathlib.Data.List.Perm.Subperm
import Mathlib.Logic.Relation
import TypeSchema.Graph.Walk
import TypeSchema.Proofs.Graph.Nodes

namespace TypeSchema.Graph

open Declaration (Id Reference)

/-- No chain of references comes back. -/
def Acyclic (g : Graph) : Prop := ∀ id < g.size, g.hasCycle id = false

/-- The declarations that references lead to from `id`, to the last one. -/
inductive Chain (g : Graph) : Id → List Id → Prop
  | stop {id : Id} : g.next? id = none → Chain g id [id]
  | step {id target : Id} {rest : List Id} :
      g.next? id = some target → Chain g target rest → Chain g id (id :: rest)

/-! ## What a declaration refers to -/

theorem next?_eq_some {g : Graph} {id target : Id} :
    g.next? id = some target ↔ (g.node id).reference = .declaration target := by
  unfold next?
  rw [(g.node id).target?_eq]
  cases (g.node id).reference <;> simp [Reference.target?]

theorem next?_eq_none {g : Graph} {id : Id} :
    g.next? id = none ↔ ∀ target, (g.node id).reference ≠ .declaration target := by
  constructor
  · intro h target ht
    rw [next?_eq_some.mpr ht] at h
    cases h
  · intro h
    cases hn : g.next? id with
    | none => rfl
    | some target => exact absurd (next?_eq_some.mp hn) (h target)

theorem next?_of_size_le {g : Graph} {id : Id} (h : g.size ≤ id) : g.next? id = none := by
  rw [next?_eq_none, node_of_size_le h]
  intro target
  exact Reference.noConfusion

theorem next?_congr {g h : Graph} (s : SameLinks g h) (id : Id) : g.next? id = h.next? id := by
  simp only [next?, Declaration.target?_eq, s.reference]

theorem lt_size_of_next? {g : Graph} {id target : Id} (h : g.next? id = some target) :
    id < g.size := by
  by_contra outside
  rw [next?_of_size_le (Nat.not_lt.mp outside)] at h
  cases h

/-- A list of declarations without repetition has no more than there are. -/
theorem length_le_size {g : Graph} {l : List Id} (nodup : l.Nodup) (inside : ∀ i ∈ l, i < g.size) :
    l.length ≤ g.size := by
  have within : l ⊆ List.range g.size := fun i hi => List.mem_range.mpr (inside i hi)
  have few := (List.Nodup.subperm nodup within).length_le
  rwa [List.length_range] at few

/-! ## Chains -/

namespace Chain

variable {g : Graph} {id : Id} {l : List Id}

theorem unique {l' : List Id} (h : Chain g id l) (h' : Chain g id l') : l = l' := by
  induction h generalizing l' with
  | stop hn =>
      cases h' with
      | stop _ => rfl
      | step hn' _ => rw [hn] at hn'; cases hn'
  | step hn _ ih =>
      cases h' with
      | stop hn' => rw [hn] at hn'; cases hn'
      | step hn' rest =>
          rw [hn] at hn'
          cases hn'
          rw [ih rest]

/-- Bounded following comes to the end of a chain that it has room for, and
back to nothing. -/
theorem followed (h : Chain g id l) :
    ∀ {fuel : Nat} {seen : List Id}, l.Nodup → (∀ i ∈ l, i ∉ seen) → l.length ≤ fuel →
      g.walkFrom fuel seen id = l ∧ g.returnsFrom fuel seen id = false := by
  induction h with
  | @stop id hn =>
      intro fuel seen _ fresh room
      cases fuel with
      | zero => simp at room
      | succ fuel =>
          have : id ∉ seen := fresh id List.mem_cons_self
          simp only [walkFrom, returnsFrom, if_neg this, hn, and_self]
  | @step id target rest hn _ ih =>
      intro fuel seen nodup fresh room
      cases fuel with
      | zero => simp at room
      | succ fuel =>
          have hid : id ∉ seen := fresh id List.mem_cons_self
          obtain ⟨notin, nodup⟩ := List.nodup_cons.mp nodup
          have later : ∀ i ∈ rest, i ∉ id :: seen := by
            intro i hi hseen
            rcases List.mem_cons.mp hseen with rfl | hseen
            · exact notin hi
            · exact fresh i (List.mem_cons_of_mem _ hi) hseen
          obtain ⟨hwalk, hreturns⟩ := ih nodup later (Nat.le_of_succ_le_succ room)
          simp only [walkFrom, returnsFrom, if_neg hid, hn, hwalk, hreturns, and_self]

/-- What does not come back within its bound has a chain within that bound. -/
theorem of_returnsFrom {g : Graph} :
    ∀ {fuel : Nat} {seen : List Id} {id : Id}, g.returnsFrom fuel seen id = false →
      ∃ l, Chain g id l ∧ l.Nodup ∧ (∀ i ∈ l, i ∉ seen) ∧ l.length ≤ fuel
  | 0, _, _, h => by cases h
  | fuel + 1, seen, id, h => by
      unfold returnsFrom at h
      split at h
      · cases h
      · rename_i hid
        cases hn : g.next? id with
        | none =>
            refine ⟨[id], .stop hn, List.nodup_singleton id, ?_, Nat.le_add_left _ _⟩
            intro i hi
            rwa [List.mem_singleton.mp hi]
        | some target =>
            rw [hn] at h
            obtain ⟨rest, chain, nodup, fresh, room⟩ := of_returnsFrom h
            refine ⟨id :: rest, .step hn chain, ?_, ?_, Nat.succ_le_succ room⟩
            · exact List.nodup_cons.mpr ⟨fun hi => fresh id hi List.mem_cons_self, nodup⟩
            · intro i hi hseen
              rcases List.mem_cons.mp hi with rfl | hi
              · exact hid hseen
              · exact fresh i hi (List.mem_cons_of_mem _ hseen)

end Chain

/-! ## Walks without return -/

section Walk

variable {g : Graph} {id target : Id}

theorem chain_walk (h : g.hasCycle id = false) :
    Chain g id (g.walk id) ∧ (g.walk id).Nodup ∧ (g.walk id).length ≤ g.walkBound := by
  obtain ⟨l, chain, nodup, fresh, room⟩ := Chain.of_returnsFrom h
  have hwalk : g.walk id = l := (chain.followed nodup fresh room).1
  rw [hwalk]
  exact ⟨chain, nodup, room⟩

theorem hasCycle_next (h : g.hasCycle id = false) (hn : g.next? id = some target) :
    g.hasCycle target = false := by
  obtain ⟨chain, nodup, room⟩ := chain_walk h
  cases hw : g.walk id with
  | nil => rw [hw] at chain; cases chain
  | cons _ rest =>
      rw [hw] at chain nodup room
      cases chain with
      | stop hn' => rw [hn] at hn'; cases hn'
      | step hn' chain =>
          rw [hn] at hn'
          cases hn'
          exact (chain.followed (List.nodup_cons.mp nodup).2
            (fun _ _ => List.not_mem_nil) (Nat.le_of_succ_le room)).2

theorem walk_stop (h : g.hasCycle id = false) (hn : g.next? id = none) : g.walk id = [id] :=
  (chain_walk h).1.unique (.stop hn)

theorem walk_step (h : g.hasCycle id = false) (hn : g.next? id = some target) :
    g.walk id = id :: g.walk target :=
  (chain_walk h).1.unique (.step hn (chain_walk (hasCycle_next h hn)).1)

theorem Acyclic.hasCycle (h : g.Acyclic) (id : Id) : g.hasCycle id = false := by
  by_cases hid : id < g.size
  · exact h id hid
  · have chain : Chain g id [id] := .stop (next?_of_size_le (Nat.not_lt.mp hid))
    exact (chain.followed (List.nodup_singleton id) (fun _ _ => List.not_mem_nil)
      (Nat.le_add_left 1 _)).2

theorem walk_eq_cons (h : g.hasCycle id = false) : ∃ rest, g.walk id = id :: rest := by
  cases hn : g.next? id with
  | none => exact ⟨[], walk_stop h hn⟩
  | some target => exact ⟨_, walk_step h hn⟩

theorem mem_walk_self (h : g.hasCycle id = false) : id ∈ g.walk id := by
  obtain ⟨rest, hwalk⟩ := walk_eq_cons h
  rw [hwalk]
  exact List.mem_cons_self

/-- To prove something of all declarations, prove it of each one from what it
refers to. -/
theorem Acyclic.induction (h : g.Acyclic) {motive : Id → Prop}
    (step : ∀ id, (∀ target, g.next? id = some target → motive target) → motive id) (id : Id) :
    motive id := by
  -- walks get shorter along references
  have bounded : ∀ (n : Nat) (id : Id), (g.walk id).length ≤ n → motive id := by
    intro n
    induction n with
    | zero =>
        intro id hlen
        have := mem_walk_self (h.hasCycle id)
        rw [List.length_eq_zero_iff.mp (Nat.le_zero.mp hlen)] at this
        cases this
    | succ n ih =>
        intro id hlen
        refine step id fun target hn => ih target ?_
        rw [walk_step (h.hasCycle id) hn] at hlen
        exact Nat.le_of_succ_le_succ hlen
  exact bounded _ id (Nat.le_refl _)

end Walk

/-! ## Cycles -/

/-- A declaration refers to another one. -/
def Refers (g : Graph) (a b : Id) : Prop := (g.node a).reference = .declaration b

/-- References lead from a declaration to one that they lead back to. -/
def EntersCycle (g : Graph) (id : Id) : Prop :=
  ∃ x, Relation.ReflTransGen g.Refers id x ∧ Relation.TransGen g.Refers x x

section Cycles

variable {g : Graph} {id x y : Id}

theorem Chain.exists_last {l : List Id} (h : Chain g id l) :
    ∃ last, l.getLast? = some last ∧ ∀ target, ¬ g.Refers last target := by
  induction h with
  | @stop id hn => exact ⟨id, rfl, next?_eq_none.mp hn⟩
  | step _ chain ih =>
      obtain ⟨last, hlast, ends⟩ := ih
      refine ⟨last, ?_, ends⟩
      rw [List.getLast?_cons, hlast]
      rfl

/-- Following references that come back leads into a cycle.  What has been
passed leads to the declaration at hand, and there is not room for all of
it to be different. -/
theorem entersCycle_of_returnsFrom :
    ∀ {fuel : Nat} {seen : List Id} {id : Id}, g.returnsFrom fuel seen id = true →
      seen.Nodup → (∀ i ∈ seen, i < g.size ∧ Relation.TransGen g.Refers i id) →
      g.size < fuel + seen.length → g.EntersCycle id
  | 0, seen, _, _, nodup, passed, room => by
      have few : seen.length ≤ g.size := length_le_size nodup fun i hi => (passed i hi).1
      omega
  | fuel + 1, seen, id, h, nodup, passed, room => by
      unfold returnsFrom at h
      split at h
      · rename_i hid
        exact ⟨id, .refl, (passed id hid).2⟩
      · rename_i hid
        cases hn : g.next? id with
        | none =>
            rw [hn] at h
            cases h
        | some target =>
            rw [hn] at h
            have refers : g.Refers id target := next?_eq_some.mp hn
            have inside : id < g.size := lt_size_of_next? hn
            have later : ∀ i ∈ id :: seen, i < g.size ∧ Relation.TransGen g.Refers i target := by
              intro i hi
              rcases List.mem_cons.mp hi with rfl | hi
              · exact ⟨inside, .single refers⟩
              · exact ⟨(passed i hi).1, (passed i hi).2.tail refers⟩
            obtain ⟨x, leads, cycle⟩ := entersCycle_of_returnsFrom h
              (List.nodup_cons.mpr ⟨hid, nodup⟩) later (by rw [List.length_cons]; omega)
            exact ⟨x, leads.head refers, cycle⟩

theorem hasCycle_of_refers (h : g.hasCycle x = false) (leads : Relation.ReflTransGen g.Refers x y) :
    g.hasCycle y = false := by
  induction leads with
  | refl => exact h
  | tail _ refers ih => exact hasCycle_next ih (next?_eq_some.mpr refers)

/-- Walks get shorter along references. -/
theorem length_walk_lt (h : g.hasCycle x = false) (leads : Relation.TransGen g.Refers x y) :
    (g.walk y).length < (g.walk x).length := by
  induction leads with
  | single refers =>
      rw [walk_step h (next?_eq_some.mpr refers)]
      exact Nat.lt_succ_self _
  | tail first refers ih =>
      have hb := hasCycle_of_refers h first.to_reflTransGen
      rw [walk_step hb (next?_eq_some.mpr refers)] at ih
      exact Nat.lt_of_succ_lt ih

theorem hasCycle_iff : g.hasCycle id = true ↔ g.EntersCycle id := by
  constructor
  · intro h
    refine entersCycle_of_returnsFrom h List.nodup_nil (fun i hi => absurd hi List.not_mem_nil) ?_
    rw [walkBound, List.length_nil]
    omega
  · rintro ⟨x, leads, cycle⟩
    by_contra h
    have straight := hasCycle_of_refers (Bool.eq_false_iff.mpr h) leads
    exact Nat.lt_irrefl _ (length_walk_lt straight cycle)

theorem Acyclic.not_transGen (h : g.Acyclic) (id : Id) : ¬ Relation.TransGen g.Refers id id := by
  intro cycle
  have := hasCycle_iff.mpr ⟨id, .refl, cycle⟩
  rw [h.hasCycle id] at this
  cases this

end Cycles

/-! ## Walks read references only -/

section Congruence

variable {g h : Graph} (s : SameLinks g h)
include s

theorem walkFrom_congr (fuel : Nat) (seen : List Id) (id : Id) :
    g.walkFrom fuel seen id = h.walkFrom fuel seen id := by
  induction fuel generalizing seen id with
  | zero => rfl
  | succ fuel ih => simp only [walkFrom, next?_congr s, ih]

theorem walk_congr (id : Id) : g.walk id = h.walk id := by
  simp only [walk, walkBound, s.size, walkFrom_congr s]

theorem returnsFrom_congr (fuel : Nat) (seen : List Id) (id : Id) :
    g.returnsFrom fuel seen id = h.returnsFrom fuel seen id := by
  induction fuel generalizing seen id with
  | zero => rfl
  | succ fuel ih => simp only [returnsFrom, next?_congr s, ih]

theorem hasCycle_congr (id : Id) : g.hasCycle id = h.hasCycle id := by
  simp only [hasCycle, walkBound, s.size, returnsFrom_congr s]

theorem Acyclic.congr (acyclic : g.Acyclic) : h.Acyclic :=
  fun id hid => hasCycle_congr s id ▸ acyclic id (s.size ▸ hid)

end Congruence

end TypeSchema.Graph
