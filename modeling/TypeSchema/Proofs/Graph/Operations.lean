/-
# Operations — what an operation that fails leaves behind

A graph is changed by operations on declarations that are there: one is added,
edited, linked to another one, or committed.  `Reached` collects the graphs
that operations lead to, those that fail included.

An operation asks whether it may write before it writes, so one that fails
leaves the graph as it is.  Linking is the exception.  It writes to two
declarations and asks before each: where the first is open and the second
committed, the reference is written down before the back-link is refused
(`StopsHalfway`).  `unchanged_iff_of_error` says that this is the only way to
leave something behind, and what is left.
-/
import TypeSchema.Proofs.Graph.Nodes

namespace TypeSchema

open Declaration (Id Role Production Subtype Reference Invocation)

/-! ## Operations -/

/-- A change of one declaration. -/
inductive Declaration.Edit where
  | name (name : String)
  | subtype (subtype : Subtype)
  | reference (reference : Reference)
  | arity (arity : Arity)
  | newType (isNewType : Bool)
  | invocation (call : Invocation)
  | metadata (item : Metadata.Item)
  | positional (v : Metadata.Value)
  | keyword (name : String) (v : Metadata.Value)

/-- The declaration after an edit. -/
def Declaration.Edit.apply : Edit → Declaration → Except SchemaError Declaration
  | .name s, d => d.setName s
  | .subtype s, d => d.setSubtype s
  | .reference r, d => d.setReference r
  | .arity a, d => d.setArity a
  | .newType b, d => d.setNewType b
  | .invocation call, d => d.setInvocation call
  | .metadata item, d => d.addMetadata item
  | .positional v, d => d.addPositional v
  | .keyword s v, d => d.addKeyword s v

namespace Graph

/-- What can be done to a graph. -/
inductive Operation where
  | add (role : Role) (production : Production) (parent : Option Id) (location : Location)
      (isExternal : Bool)
  | edit (id : Id) (change : Declaration.Edit)
  | link (id target : Id)
  | commit (id : Id)

namespace Operation

/-- Do the operation; the id or the key that it gives is left out. -/
def perform : Operation → Change Unit
  | .add role production parent location isExternal => do
    let _ ← Graph.add (.fresh role production parent location isExternal)
  | .edit id change => update id change.apply
  | .link id target => Graph.link id target
  | .commit id => do
    let _ ← Graph.commit id

/-- The declarations that the operation names are there. -/
def IsOn (g : Graph) : Operation → Prop
  | .add _ _ parent _ _ => ∀ p ∈ parent, p < g.size
  | .edit id (.reference (.declaration target)) => id < g.size ∧ target < g.size
  | .edit id _ => id < g.size
  | .link id target => id < g.size ∧ target < g.size
  | .commit id => id < g.size

/-- What the operation leaves, whether it succeeds or not. -/
def leave (g : Graph) (op : Operation) : Graph := Steps.left (op.perform g)

/-- The operation links a declaration that can be written to one that cannot. -/
def StopsHalfway (g : Graph) : Operation → Prop
  | .link id target => (g.node id).isCommitted = false ∧
      (g.node id).reference.isSettled = false ∧ (g.node target).isCommitted
  | _ => False

end Operation

/-- Graphs that operations lead to from the empty one. -/
inductive Reached : Graph → Prop
  | empty : Reached .empty
  | step {g : Graph} {op : Operation} : Reached g → op.IsOn g → Reached (op.leave g)

/-! ## Single changes -/

section Changes

variable {g h : Graph} {id target : Id} {e : SchemaError}

/-- A change of one declaration writes nothing if it fails. -/
theorem eq_of_update_error {f : Declaration → Except SchemaError Declaration}
    (run : update id f g = .error e h) : h = g := by
  unfold update at run
  split at run
  · cases run
  · split at run
    · cases run
    · cases run
      rfl

/-- Adding fails at the parent only, which comes first. -/
theorem eq_of_add_error {d : Declaration} (run : add d g = .error e h) : h = g := by
  unfold add at run
  rw [Steps.bind_ok (Steps.get_run g)] at run
  cases hp : d.parent.filter (· < g.size) with
  | none =>
      rw [hp] at run
      cases run
  | some p =>
      simp only [hp] at run
      cases hchild : update p (·.addChild g.size) g with
      | ok u k =>
          rw [Steps.bind_ok hchild] at run
          cases run
      | error e' k =>
          rw [Steps.bind_error hchild] at run
          cases run
          exact eq_of_update_error hchild

theorem eq_of_commit_error (run : commit id g = .error e h) : h = g := by
  unfold commit at run
  rw [Steps.bind_ok (Steps.get_run g)] at run
  cases hclose : update id (·.close (g.keyOf id)) g with
  | ok u k =>
      rw [Steps.bind_ok hclose] at run
      cases run
  | error e' k =>
      rw [Steps.bind_error hclose] at run
      cases run
      exact eq_of_update_error hclose

/-- The reference is set if the declaration is open and its reference not
settled, and it is refused otherwise. -/
theorem setReference_cases (d : Declaration) (r : Reference) :
    (d.isCommitted = false ∧ d.reference.isSettled = false ∧
      d.setReference r = .ok (d.withReference r)) ∨
    (¬ (d.isCommitted = false ∧ d.reference.isSettled = false) ∧
      d.setReference r = .error (d.violation .reference)) := by
  unfold Declaration.setReference Declaration.change
  cases hr : d.reference.isSettled with
  | true => exact .inr ⟨fun h => (Bool.false_ne_true h.2.symm).elim, rfl⟩
  | false =>
      cases hc : d.isCommitted with
      | true => exact .inr ⟨fun h => (Bool.false_ne_true h.1.symm).elim, rfl⟩
      | false => exact .inl ⟨rfl, rfl, rfl⟩

/-- The graph in which only the reference of `id` is written down. -/
def referTo (g : Graph) (id target : Id) : Graph :=
  g.put id ((g.node id).withReference (.declaration target))

/-- A settled reference was not settled before. -/
theorem referTo_ne (hid : id < g.size) (unsettled : (g.node id).reference.isSettled = false) :
    g.referTo id target ≠ g := by
  intro same
  have hnode : (g.referTo id target).node id =
      (g.node id).withReference (.declaration target) := node_put_self hid
  rw [same] at hnode
  rw [hnode] at unsettled
  cases unsettled

/-- Whether a declaration is committed does not hang on its reference. -/
theorem isCommitted_referTo (i : Id) :
    ((g.referTo id target).node i).isCommitted = (g.node i).isCommitted := by
  refine part_put (·.isCommitted) ?_ i
  rfl

theorem referTo_run (hid : id < g.size) (isOpen : (g.node id).isCommitted = false)
    (unsettled : (g.node id).reference.isSettled = false) :
    update id (·.setReference (.declaration target)) g = .ok () (g.referTo id target) := by
  refine update_ok hid ?_
  rcases setReference_cases (g.node id) (.declaration target) with ⟨-, -, hok⟩ | ⟨hno, -⟩
  · exact hok
  · exact absurd ⟨isOpen, unsettled⟩ hno

/-- A link to a committed declaration stops after its first half. -/
theorem link_halfway (hid : id < g.size) (htarget : target < g.size)
    (h : Operation.StopsHalfway g (.link id target)) :
    link id target g =
      .error (((g.referTo id target).node target).violation .referencedBy)
        (g.referTo id target) := by
  obtain ⟨isOpen, unsettled, committed⟩ := h
  have hsize : target < (g.referTo id target).size := (size_put ..).symm ▸ htarget
  have hadd : ((g.referTo id target).node target).addReferrer id =
      .error (((g.referTo id target).node target).violation .referencedBy) :=
    if_pos ((isCommitted_referTo target).trans committed)
  exact (Steps.bind_ok (referTo_run hid isOpen unsettled)).trans (update_error hsize hadd)

/-- Any other link that fails does so at its first half. -/
theorem eq_of_link_error (hid : id < g.size) (htarget : target < g.size)
    (h : ¬ Operation.StopsHalfway g (.link id target)) {k : Graph}
    (run : link id target g = .error e k) : k = g := by
  rcases setReference_cases (g.node id) (.declaration target) with
    ⟨isOpen, unsettled, -⟩ | ⟨-, hno⟩
  · have uncommitted : ¬ ((g.referTo id target).node target).isCommitted := by
      rw [isCommitted_referTo]
      exact fun committed => h ⟨isOpen, unsettled, committed⟩
    have hsize : target < (g.referTo id target).size := (size_put ..).symm ▸ htarget
    have hadd : ((g.referTo id target).node target).addReferrer id = .ok _ :=
      if_neg uncommitted
    have hlink : link id target g = .ok () _ :=
      (Steps.bind_ok (referTo_run hid isOpen unsettled)).trans (update_ok hsize hadd)
    rw [hlink] at run
    cases run
  · have hlink : link id target g = .error ((g.node id).violation .reference) g :=
      Steps.bind_error (update_error hid hno)
    rw [hlink] at run
    cases run
    rfl

/-- Leaving out the value of a change does not make it fail. -/
theorem error_of_discarded {α : Type} {x : Change α}
    (run : (do let _ ← x : Change Unit) g = .error e h) : x g = .error e h := by
  cases hx : x g with
  | ok a k => cases (Steps.bind_ok hx).symm.trans run
  | error e' k =>
      cases (Steps.bind_error hx).symm.trans run
      rfl

end Changes

/-! ## Every operation -/

/-- An operation that fails leaves the graph as it is, unless it links an open
declaration whose reference is not settled to a committed one.  Such a link
always fails, because its target no longer changes, and it leaves the reference
behind without the back-link. -/
theorem unchanged_iff_of_error {g : Graph} {op : Operation} (on : op.IsOn g) :
    (∀ e h, op.perform g = .error e h → (h = g ↔ ¬ op.StopsHalfway g)) ∧
    ∀ id target, op = .link id target → op.StopsHalfway g →
      op.perform g = .error (((g.referTo id target).node target).violation .referencedBy)
        (g.referTo id target) := by
  constructor
  · intro e h run
    cases op with
    | add role production parent location isExternal =>
        exact iff_of_true (eq_of_add_error (error_of_discarded run)) not_false
    | edit id change => exact iff_of_true (eq_of_update_error run) not_false
    | commit id => exact iff_of_true (eq_of_commit_error (error_of_discarded run)) not_false
    | link id target =>
        have hrun : link id target g = .error e h := run
        by_cases halfway : Operation.StopsHalfway g (.link id target)
        · rw [link_halfway on.1 on.2 halfway] at hrun
          cases hrun
          exact iff_of_false (referTo_ne on.1 halfway.2.1) (not_not.mpr halfway)
        · exact iff_of_true (eq_of_link_error on.1 on.2 halfway hrun) halfway
  · rintro id target rfl halfway
    exact link_halfway on.1 on.2 halfway

/-- Add a declaration on its own. -/
def Operation.addLeaf : Operation := .add .standard .leaf none .api false

/-- Two declarations, of which the second is committed. -/
def halfCommitted : Graph :=
  (Operation.commit 1).leave (Operation.addLeaf.leave (Operation.addLeaf.leave .empty))

theorem reached_halfCommitted : Reached halfCommitted := by
  have first : Reached (Operation.addLeaf.leave .empty) :=
    .step .empty fun p hp => by cases hp
  have second : Reached (Operation.addLeaf.leave (Operation.addLeaf.leave .empty)) :=
    .step first fun p hp => by cases hp
  have on : (Operation.commit 1).IsOn
      (Operation.addLeaf.leave (Operation.addLeaf.leave .empty)) := Nat.one_lt_two
  exact .step second on

/-- Operations do lead to such links. -/
theorem unchanged_iff_of_error_halfCommitted :
    ∃ e h, Reached halfCommitted ∧ (Operation.link 0 1).IsOn halfCommitted ∧
      (Operation.link 0 1).StopsHalfway halfCommitted ∧
      (Operation.link 0 1).perform halfCommitted = .error e h ∧ h ≠ halfCommitted := by
  have on : (Operation.link 0 1).IsOn halfCommitted := ⟨Nat.zero_lt_two, Nat.one_lt_two⟩
  have halfway : (Operation.link 0 1).StopsHalfway halfCommitted := ⟨rfl, rfl, rfl⟩
  obtain ⟨extent, outcome⟩ := unchanged_iff_of_error on
  have run := outcome 0 1 rfl halfway
  exact ⟨_, _, reached_halfCommitted, on, halfway, run,
    fun same => (extent _ _ run).mp same halfway⟩

end Graph

end TypeSchema
