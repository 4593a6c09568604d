/-
# Built — the graphs that documents are built into

A graph is built document by document: each one adds its root and makes
calls to a builder, of which some fail and leave everything as it was.
Nothing is looked up, classified or committed meanwhile.

`Built g → Raw g` says what all later stages start from: every declaration
is open and carries its first subtype, references are texts or absent,
nothing is linked.  `Built g → Tree g` says how declarations stand inside
each other, which no later stage changes.  That they do so once (`Nested`) is
kept by every change of a graph.
-/
import TypeSchema.Builder.Script
import TypeSchema.Proofs.Graph.Nodes

namespace TypeSchema

open Declaration (Id Role Production Subtype Reference)

/-- What a call leaves behind; one that fails is passed over. -/
def Builder.Call.leave (b : Builder) (c : Builder.Call) : Builder := Steps.left (c.perform b)

/-- Graphs built from documents, each by calls of any kind in any order. -/
inductive Graph.Built : Graph → Prop
  | empty : Built .empty
  | document {g g' : Graph} {root : Id} (location : Location) (isExternal : Bool)
      (features : Features) (calls : List Builder.Call) :
      Built g →
      Graph.add (.fresh .standard .root none location isExternal) g = .ok root g' →
      Built (calls.foldl Builder.Call.leave (.start g' features root isExternal)).graph

namespace Declaration

/-- What a production may refer to before anything is looked up. -/
def Production.AllowsRaw : Production → Reference → Prop
  | .root, r => r = .none
  | .extension, r => r = .none
  | .object, r => r = .none ∨ ∃ text, r = .unresolved text
  | .leaf, r => ∃ text, r = .unresolved text
  | .config, r => ∃ text, r = .unresolved text

/-- The production makes something that has a name. -/
def Production.isNamed : Production → Bool
  | .object => true
  | .leaf => true
  | .config => true
  | .root => false
  | .extension => false

/-- Nothing has been found out about the declaration. -/
structure IsRaw (d : Declaration) : Prop where
  isOpen : d.key = none
  subtype : d.subtype = d.production.initialSubtype
  unlinked : d.referencedBy = []
  reference : d.production.AllowsRaw d.reference

theorem IsRaw.reference_cases {d : Declaration} (h : d.IsRaw) :
    d.reference = .none ∨ ∃ text, d.reference = .unresolved text := by
  have := h.reference
  cases hp : d.production with
  | root => rw [hp] at this; exact .inl this
  | extension => rw [hp] at this; exact .inl this
  | object => rw [hp] at this; exact this
  | leaf => rw [hp] at this; exact .inr this
  | config => rw [hp] at this; exact .inr this

/-- Name, role and children fit the production. -/
structure IsShaped (d : Declaration) : Prop where
  named : d.name.isSome = d.production.isNamed
  role : d.role ≠ .standard → d.production = .object ∨ d.production = .leaf
  childless : d.isObject = false → d.children = []

end Declaration

namespace Graph

/-- Nothing has been found out about any declaration. -/
def Raw (g : Graph) : Prop := ∀ id, (g.node id).IsRaw

/-- Declarations stand inside each other: a child is there and knows its
parent. -/
structure Tree (g : Graph) : Prop where
  child_lt : ∀ {i c}, c ∈ (g.node i).children → c < g.size
  parent_child : ∀ {i c}, c ∈ (g.node i).children → (g.node c).parent = some i
  shaped : ∀ id, (g.node id).IsShaped

theorem isRaw_default : (default : Declaration).IsRaw := ⟨rfl, rfl, rfl, rfl⟩

theorem isShaped_default : (default : Declaration).IsShaped :=
  ⟨rfl, fun h => absurd rfl h, fun _ => rfl⟩

/-- The frame alone says how declarations stand inside each other. -/
theorem Tree.congr {g h : Graph} (s : SameFrame g h) (t : Tree g) : Tree h where
  child_lt := fun {i _} hc => s.size ▸ t.child_lt (s.children i ▸ hc)
  parent_child := fun {i c} hc => s.parent c ▸ t.parent_child (s.children i ▸ hc)
  shaped := fun id =>
    ⟨s.name id ▸ s.production id ▸ (t.shaped id).named,
      s.role id ▸ s.production id ▸ (t.shaped id).role,
      fun ho => s.children id ▸ (t.shaped id).childless (s.isObject id ▸ ho)⟩

/-! ## Adding a declaration -/

/-- Declarations can be made inside. -/
structure IsScope (g : Graph) (id : Id) : Prop where
  lt : id < g.size
  isObject : (g.node id).isObject

/-- A declaration that is about to be added to `g`: open, without children,
and inside an object or a source, if inside anything. -/
structure Newborn (g : Graph) (d : Declaration) : Prop where
  raw : d.IsRaw
  shaped : d.IsShaped
  childless : d.children = []
  inside : ∀ {p}, d.parent = some p → g.IsScope p

/-- The declaration `i` of `g`, which may just have got the child `d`. -/
def nodeBeside (g : Graph) (d : Declaration) (i : Id) : Declaration :=
  { g.node i with
    children := (g.node i).children ++ if d.parent = some i then [g.size] else [] }

/-- The graph with `d` as the last child of its parent. -/
def adopt (g : Graph) (d : Declaration) : Graph :=
  match d.parent with
  | none => g.push d
  | some p => (g.put p (g.nodeBeside d p)).push d

@[simp] theorem size_adopt (g : Graph) (d : Declaration) : (g.adopt d).size = g.size + 1 := by
  unfold adopt
  split <;> simp

theorem node_adopt_self (g : Graph) (d : Declaration) : (g.adopt d).node g.size = d := by
  unfold adopt
  split
  · exact node_push_self g d
  · rename_i p _
    rw [← size_put g p (g.nodeBeside d p)]
    exact node_push_self _ d

theorem node_adopt_beside {g : Graph} {d : Declaration} {i : Id}
    (inside : ∀ {p}, d.parent = some p → p < g.size) (hi : i ≠ g.size) :
    (g.adopt d).node i = g.nodeBeside d i := by
  have alone : d.parent ≠ some i → g.nodeBeside d i = g.node i := by
    intro h
    simp [nodeBeside, h]
  unfold adopt
  cases hp : d.parent with
  | none =>
      rw [alone (by simp [hp])]
      exact node_push_ne hi
  | some p =>
      have hi' : i ≠ (g.put p (g.nodeBeside d p)).size := by simpa using hi
      simp only
      rw [node_push_ne hi']
      by_cases hip : i = p
      · subst hip
        exact node_put_self (inside hp)
      · rw [node_put_ne hip, alone (by simpa [hp] using Ne.symm hip)]

theorem node_adopt_ne {g : Graph} {d : Declaration} {i : Id} (hd : Newborn g d)
    (hi : i ≠ g.size) : (g.adopt d).node i = g.nodeBeside d i :=
  node_adopt_beside (fun hp => (hd.inside hp).lt) hi

/-- Adding succeeds where the parent, if there is one, can be written to. -/
theorem add_run {g : Graph} {d : Declaration}
    (inside : ∀ {p}, d.parent = some p → p < g.size ∧ (g.node p).key = none) :
    add d g = .ok g.size (g.adopt d) := by
  -- the parent that `add` writes down is the one the declaration has
  have same : ∀ {parent}, d.parent = parent → { d with parent := parent } = d := by
    rintro _ rfl
    rfl
  unfold add adopt
  rw [Steps.bind_ok (Steps.get_run g)]
  cases hp : d.parent with
  | none =>
      show EStateM.Result.ok g.size (g.push { d with parent := none }) = _
      rw [same hp]
  | some p =>
      obtain ⟨hlt, isOpen⟩ := inside hp
      have hfilter : (some p).filter (· < g.size) = some p := by simp [Option.filter, hlt]
      have hchild : update p (·.addChild g.size) g = .ok () (g.put p (g.nodeBeside d p)) :=
        update_ok hlt ((Declaration.change_ok isOpen _ _).trans (by simp [nodeBeside, hp]))
      simp only [hfilter, same hp]
      exact Steps.bind_ok hchild

theorem add_ok {g : Graph} {d : Declaration} (hg : g.Raw) (hd : Newborn g d) :
    add d g = .ok g.size (g.adopt d) :=
  add_run fun {p} hp => ⟨(hd.inside hp).lt, (hg p).isOpen⟩

theorem raw_adopt {g : Graph} {d : Declaration} (hg : g.Raw) (hd : Newborn g d) :
    (g.adopt d).Raw := by
  intro i
  by_cases hi : i = g.size
  · subst hi
    rw [node_adopt_self]
    exact hd.raw
  · rw [node_adopt_ne hd hi]
    exact ⟨(hg i).isOpen, (hg i).subtype, (hg i).unlinked, (hg i).reference⟩

/-- A child of the larger graph was one before, or is the one just added. -/
theorem mem_children_adopt {g : Graph} {d : Declaration} {i c : Id} (hd : Newborn g d)
    (hc : c ∈ ((g.adopt d).node i).children) :
    c ∈ (g.node i).children ∨ c = g.size ∧ d.parent = some i := by
  by_cases hi : i = g.size
  · subst hi
    rw [node_adopt_self, hd.childless] at hc
    cases hc
  · rw [node_adopt_ne hd hi] at hc
    rcases List.mem_append.mp hc with hc | hc
    · exact .inl hc
    · split at hc
      · rename_i hp
        exact .inr ⟨List.mem_singleton.mp hc, hp⟩
      · cases hc

theorem tree_adopt {g : Graph} {d : Declaration} (hg : g.Tree) (hd : Newborn g d) :
    (g.adopt d).Tree := by
  refine ⟨fun hc => ?_, fun {i c} hc => ?_, fun i => ?_⟩
  · rw [size_adopt]
    rcases mem_children_adopt hd hc with hc | ⟨rfl, _⟩
    · exact Nat.lt_succ_of_lt (hg.child_lt hc)
    · exact Nat.lt_succ_self _
  · rcases mem_children_adopt hd hc with hc | ⟨rfl, hp⟩
    · rw [node_adopt_ne hd (Nat.ne_of_lt (hg.child_lt hc))]
      exact hg.parent_child hc
    · rw [node_adopt_self, hp]
  · by_cases hi : i = g.size
    · subst hi
      rw [node_adopt_self]
      exact hd.shaped
    · rw [node_adopt_ne hd hi]
      refine ⟨(hg.shaped i).named, (hg.shaped i).role, fun ho => ?_⟩
      have outside : d.parent ≠ some i := by
        intro hp
        have := (hd.inside hp).isObject
        rw [show (g.node i).isObject = false from ho] at this
        cases this
      simp [nodeBeside, outside, (hg.shaped i).childless ho]

theorem IsScope.adopt {g : Graph} {d : Declaration} {i : Id} (h : g.IsScope i)
    (hd : Newborn g d) : (g.adopt d).IsScope i where
  lt := (size_adopt g d).symm ▸ Nat.lt_succ_of_lt h.lt
  isObject := by
    rw [node_adopt_ne hd (Nat.ne_of_lt h.lt)]
    exact h.isObject

end Graph

/-! ## Declarations inside each other

A declaration knows its parent, and its parent lists it among its children.
Two lists of the same facts stay in step because both are written only when a
declaration is added: its parent is there already, so it is older, and the
new child is younger than all others (`nested_adopt`).  Whatever else is
written to a graph leaves both as they are (`Nested.congr`). -/

/-- Where a declaration stands. -/
def Declaration.seat (d : Declaration) : Option Id × List Id := (d.parent, d.children)

namespace Graph

/-- Parents are older than their children. -/
def Older (g : Graph) : Prop := ∀ {i p : Nat}, (g.node i).parent = some p → p < i

/-- The children of a declaration are those that have it as their parent, the
oldest one first. -/
structure Nested (g : Graph) : Prop where
  mem_children : ∀ {p c}, c ∈ (g.node p).children ↔ (g.node c).parent = some p
  ascending : ∀ p, (g.node p).children.Pairwise (· < ·)
  older : g.Older

variable {g h : Graph}

theorem nested_empty : Nested .empty := by
  have blank : ∀ id, Graph.empty.node id = default := fun id => node_of_size_le (Nat.zero_le id)
  refine ⟨fun {p c} => ?_, fun p => ?_, fun {i p} hp => ?_⟩
  · rw [blank, blank]
    constructor <;> intro h <;> cases h
  · rw [blank]
    exact .nil
  · rw [blank] at hp
    cases hp

/-- What is inside something is there. -/
theorem lt_of_parent {c p : Id} (hp : (g.node c).parent = some p) : c < g.size := by
  by_contra hc
  rw [node_of_size_le (Nat.not_lt.mp hc)] at hp
  cases hp

/-- The way out of a declaration goes through its parent. -/
theorem lineage_of_parent {c p : Id} (older : g.Older) (hp : (g.node c).parent = some p) :
    g.lineage c = c :: g.lineage p := by
  rw [lineage, hp]
  exact if_pos (older hp)

theorem Nested.nodup (nested : g.Nested) (p : Id) : (g.node p).children.Nodup :=
  (nested.ascending p).imp Nat.ne_of_lt

/-- Being nested concerns parents and children only. -/
theorem Nested.congr (s : Agree Declaration.seat g h) (nested : g.Nested) : h.Nested := by
  have parent : ∀ i, (h.node i).parent = (g.node i).parent :=
    fun i => (congrArg Prod.fst (s.part i)).symm
  have children : ∀ i, (h.node i).children = (g.node i).children :=
    fun i => (congrArg Prod.snd (s.part i)).symm
  refine ⟨fun {p c} => ?_, fun p => ?_, fun {i p} hp => ?_⟩
  · rw [children, parent]
    exact nested.mem_children
  · rw [children]
    exact nested.ascending p
  · rw [parent] at hp
    exact nested.older hp

theorem SameFrame.seat (s : SameFrame g h) : Agree Declaration.seat g h :=
  s.map Declaration.seat Declaration.seat fun _ => rfl

/-- A declaration that is added stands inside its parent, behind its siblings. -/
theorem nested_adopt {d : Declaration} (nested : g.Nested)
    (inside : ∀ {p}, d.parent = some p → p < g.size) (childless : d.children = []) :
    (g.adopt d).Nested := by
  have self := node_adopt_self g d
  have other : ∀ {i}, i ≠ g.size → (g.adopt d).node i = g.nodeBeside d i :=
    fun hi => node_adopt_beside inside hi
  have known : ∀ {p c}, c ∈ (g.node p).children → c < g.size :=
    fun hc => lt_of_parent (nested.mem_children.mp hc)
  have listed : ∀ {p}, p ≠ g.size → ((g.adopt d).node p).children
      = (g.node p).children ++ if d.parent = some p then [g.size] else [] :=
    fun hp => congrArg Declaration.children (other hp)
  refine ⟨fun {p c} => ?_, fun p => ?_, fun {c p} hp => ?_⟩
  · by_cases hp : p = g.size
    · -- nothing is inside the declaration that has just been added
      subst hp
      rw [self, childless]
      refine iff_of_false List.not_mem_nil fun hc => ?_
      by_cases hself : c = g.size
      · rw [hself, self] at hc
        exact Nat.lt_irrefl _ (inside hc)
      · rw [other hself] at hc
        exact Nat.lt_asymm (lt_of_parent hc) (nested.older hc)
    · rw [listed hp, List.mem_append]
      by_cases hself : c = g.size
      · subst hself
        rw [self]
        constructor
        · rintro (hc | hc)
          · exact absurd (known hc) (Nat.lt_irrefl _)
          · exact Classical.byContradiction fun hne => by rw [if_neg hne] at hc; cases hc
        · intro hd
          rw [if_pos hd]
          exact .inr List.mem_cons_self
      · rw [other hself]
        refine Iff.trans ⟨?_, .inl⟩ nested.mem_children
        rintro (hc | hc)
        · exact hc
        · split at hc
          · exact absurd (List.mem_singleton.mp hc) hself
          · cases hc
  · by_cases hp : p = g.size
    · rw [hp, self, childless]
      exact .nil
    · rw [listed hp]
      split
      · refine List.pairwise_append.mpr ⟨nested.ascending p, List.pairwise_singleton _ _, ?_⟩
        intro c hc c' hc'
        rw [List.mem_singleton.mp hc']
        exact known hc
      · rw [List.append_nil]
        exact nested.ascending p
  · by_cases hself : c = g.size
    · rw [hself, self] at hp
      exact hself ▸ inside hp
    · rw [other hself] at hp
      exact nested.older hp

end Graph

end TypeSchema
