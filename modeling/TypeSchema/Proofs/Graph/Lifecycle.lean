/-
# Lifecycle — what has been written for good

Operations write to a graph in two ways (`Write`).  An open declaration gets
other contents, but stands where it stood, a reference that is settled stays,
and another one leads to a declaration that is there; or a declaration is added
inside an open one.  Each operation, whether
it succeeds or fails on the way, comes to such writes and nothing else
(`Operation.writes_leave`).

So whatever a single write keeps, every sequence of operations keeps: committed
declarations and settled references stay (`Preserves`), declarations stay
inside each other (`Nested`), and references lead nowhere else
(`SelfContained`).  `lifecycle` puts the first two together.
-/
import Mathlib.Data.List.Nodup
import Mathlib.Logic.Relation
import TypeSchema.Proofs.Graph.Built
import TypeSchema.Proofs.Graph.Operations

namespace TypeSchema

open Declaration (Id Reference Target)

/-! ## Changes of one declaration -/

namespace Declaration

/-- Committed declarations refuse the change; others stay where they stand,
and keep a reference that is settled.  If another reference is written, it is
an allowed one. -/
def Respects (allowed : Reference → Prop) (f : Declaration → Except SchemaError Declaration) :
    Prop :=
  ∀ d d', f d = .ok d' → d.isCommitted = false ∧ d'.seat = d.seat ∧
    (d.reference.isSettled → d'.reference = d.reference) ∧
    (d'.reference = d.reference ∨ allowed d'.reference)

variable {allowed : Reference → Prop}

/-- Behind the question whether it may be written, a declaration gets contents
that have nothing to do with seat and reference. -/
theorem respects_change {field : Field} {changed : Declaration → Declaration}
    (seat : ∀ d, (changed d).seat = d.seat) (reference : ∀ d, (changed d).reference = d.reference) :
    Respects allowed fun d => d.change field (changed d) := by
  intro d d' h
  obtain ⟨isOpen, rfl⟩ := change_eq_ok h
  exact ⟨isCommitted_eq_false isOpen, seat d, fun _ => reference d, .inl (reference d)⟩

theorem respects_setReference {r : Reference} (hr : allowed r) :
    Respects allowed (·.setReference r) := by
  intro d d' h
  rcases Graph.setReference_cases d r with ⟨isOpen, unsettled, hok⟩ | ⟨_, hno⟩
  · cases hok.symm.trans h
    refine ⟨isOpen, rfl, fun settled => ?_, .inr hr⟩
    rw [unsettled] at settled
    cases settled
  · cases hno.symm.trans h

theorem respects_addMetadata (item : Metadata.Item) :
    Respects allowed (·.addMetadata item) := by
  intro d d' h
  obtain ⟨d₁, granted, attached⟩ := Steps.except_bind_eq_ok.mp h
  obtain ⟨isOpen, rfl⟩ := change_eq_ok granted
  obtain ⟨tags, _, whole⟩ := Steps.except_bind_eq_ok.mp attached
  cases whole
  exact ⟨isCommitted_eq_false isOpen, rfl, fun _ => rfl, .inl rfl⟩

theorem respects_changeArguments (f : Invocation → Invocation) :
    Respects allowed (·.changeArguments f) := by
  intro d d' h
  obtain ⟨d₁, granted, changed⟩ := Steps.except_bind_eq_ok.mp h
  obtain ⟨isOpen, rfl⟩ := change_eq_ok granted
  split at changed
  · cases changed
    exact ⟨isCommitted_eq_false isOpen, rfl, fun _ => rfl, .inl rfl⟩
  · cases changed

theorem Edit.respects {change : Edit} (h : ∀ r, change = .reference r → allowed r) :
    Respects allowed change.apply := by
  cases change with
  | name s => exact respects_change (fun _ => rfl) fun _ => rfl
  | subtype s => exact respects_change (fun _ => rfl) fun _ => rfl
  | reference r => exact respects_setReference (h r rfl)
  | arity a => exact respects_change (fun _ => rfl) fun _ => rfl
  | newType b => exact respects_change (fun _ => rfl) fun _ => rfl
  | invocation call => exact respects_change (fun _ => rfl) fun _ => rfl
  | metadata item => exact respects_addMetadata item
  | positional v => exact respects_changeArguments _
  | keyword s v => exact respects_changeArguments _

end Declaration

namespace Graph

variable {g h k : Graph} {id target : Id}

/-! ## Writes -/

/-- The reference leads to no declaration but one that is there. -/
def IsWithin (g : Graph) (r : Reference) : Prop := ∀ target, r = .declaration target → target < g.size

/-- One write of an operation. -/
inductive Write (g : Graph) : Graph → Prop
  /-- Contents of an open declaration. -/
  | change {id : Id} {d : Declaration} : id < g.size → (g.node id).isCommitted = false →
      d.seat = (g.node id).seat →
      ((g.node id).reference.isSettled → d.reference = (g.node id).reference) →
      (d.reference = (g.node id).reference ∨ g.IsWithin d.reference) →
      Write g (g.put id d)
  /-- One more declaration. -/
  | adopt {d : Declaration} : d.children = [] → d.reference = .none →
      (∀ {p}, d.parent = some p → p < g.size ∧ (g.node p).isCommitted = false) →
      Write g (g.adopt d)

/-- Writes one after another. -/
abbrev Writes : Graph → Graph → Prop := Relation.ReflTransGen Write

theorem writes_update {f : Declaration → Except SchemaError Declaration}
    (respects : Declaration.Respects g.IsWithin f) (hid : id < g.size) :
    Writes g (Steps.left (update id f g)) := by
  cases hf : f (g.node id) with
  | error e =>
      rw [update_error hid hf]
      exact .refl
  | ok d =>
      rw [update_ok hid hf]
      obtain ⟨isOpen, seat, settled, within⟩ := respects _ _ hf
      exact .single (.change hid isOpen seat settled within)

/-- Nothing is added inside a committed declaration. -/
theorem add_refused {d : Declaration} {p : Id} (hp : d.parent = some p) (hlt : p < g.size)
    (committed : (g.node p).isCommitted) : ∃ e, add d g = .error e g := by
  have refused : (g.node p).addChild g.size = .error ((g.node p).violation .children) :=
    if_pos committed
  have hfilter : (some p).filter (· < g.size) = some p := by simp [Option.filter, hlt]
  refine ⟨(g.node p).violation .children, ?_⟩
  unfold add
  rw [Steps.bind_ok (Steps.get_run g)]
  simp only [hp, hfilter]
  exact Steps.bind_error (update_error hlt refused)

theorem writes_add {d : Declaration} (childless : d.children = []) (free : d.reference = .none)
    (inside : ∀ {p}, d.parent = some p → p < g.size) : Writes g (Steps.left (add d g)) := by
  by_cases isOpen : ∀ p, d.parent = some p → (g.node p).key = none
  · rw [add_run fun {p} hp => ⟨inside hp, isOpen p hp⟩]
    exact .single (.adopt childless free fun {p} hp =>
      ⟨inside hp, Declaration.isCommitted_eq_false (isOpen p hp)⟩)
  · push Not at isOpen
    obtain ⟨p, hp, committed⟩ := isOpen
    obtain ⟨e, run⟩ := add_refused hp (inside hp) (Option.isSome_iff_ne_none.mpr committed)
    rw [run]
    exact .refl

/-- A value that is left out changes nothing about what is left. -/
theorem left_discarded {α : Type} {x : Change α} :
    Steps.left ((do let _ ← x : Change Unit) g) = Steps.left (x g) := by
  cases hx : x g with
  | ok a h => rw [Steps.bind_ok hx]; rfl
  | error e h => rw [Steps.bind_error hx]; rfl

theorem size_update (f : Declaration → Except SchemaError Declaration) :
    (Steps.left (update id f g)).size = g.size := by
  cases run : update id f g with
  | error e h => rw [eq_of_update_error run]; rfl
  | ok u h =>
      rcases update_eq_ok run with rfl | ⟨d, _, rfl⟩
      · rfl
      · exact size_put g id d

/-- The two halves of a link are writes, also where the second is refused. -/
theorem writes_link (hid : id < g.size) (htarget : target < g.size) :
    Writes g (Steps.left (link id target g)) := by
  have within : g.IsWithin (.declaration target) := fun _ same =>
    Reference.declaration.inj same ▸ htarget
  have first := writes_update (Declaration.respects_setReference within) hid
  have size : (Steps.left (update id (·.setReference (.declaration target)) g)).size = g.size :=
    size_update _
  unfold link
  cases hset : update id (·.setReference (.declaration target)) g with
  | error e h =>
      rw [Steps.bind_error hset]
      rwa [hset] at first
  | ok u h =>
      rw [Steps.bind_ok hset]
      rw [hset] at first size
      have inside : target < h.size := Nat.lt_of_lt_of_eq htarget size.symm
      exact first.trans (writes_update
        (Declaration.respects_change (fun _ => rfl) fun _ => rfl) inside)

theorem writes_commit (hid : id < g.size) : Writes g (Steps.left (commit id g)) := by
  have close := writes_update (g := g) (f := (·.close (g.keyOf id)))
    (Declaration.respects_change (fun _ => rfl) fun _ => rfl) hid
  unfold commit
  rw [Steps.bind_ok (Steps.get_run g)]
  cases hclose : update id (·.close (g.keyOf id)) g with
  | error e h =>
      rw [Steps.bind_error hclose]
      rwa [hclose] at close
  | ok u h =>
      rw [Steps.bind_ok hclose]
      rwa [hclose] at close

/-- What an operation does, it does by writes. -/
theorem Operation.writes_leave {op : Operation} (on : op.IsOn g) : Writes g (op.leave g) := by
  cases op with
  | add role production parent location isExternal =>
      rw [leave, perform, left_discarded]
      exact writes_add rfl rfl fun hp => on _ hp
  | edit id change =>
      refine writes_update (Declaration.Edit.respects ?_) ?_
      · rintro r rfl target rfl
        exact on.2
      · unfold IsOn at on
        split at on <;> simp_all
  | link id target => exact writes_link on.1 on.2
  | commit id =>
      rw [leave, perform, left_discarded]
      exact writes_commit on

/-! ## What a write keeps -/

/-- From one graph to a later one declarations stay there, committed ones stay
as they are, and so do settled references. -/
structure Preserves (g h : Graph) : Prop where
  size : g.size ≤ h.size
  committed : ∀ {id}, (g.node id).isCommitted → h.node id = g.node id
  settled : ∀ {id}, (g.node id).reference.isSettled →
    (h.node id).reference = (g.node id).reference

theorem Preserves.refl (g : Graph) : Preserves g g := ⟨Nat.le_refl _, fun _ => rfl, fun _ => rfl⟩

theorem Preserves.trans (first : Preserves g h) (second : Preserves h k) : Preserves g k where
  size := Nat.le_trans first.size second.size
  committed := fun {id} committed => by
    have same := first.committed committed
    rw [second.committed (same ▸ committed), same]
  settled := fun {id} settled => by
    have same := first.settled settled
    rw [second.settled (same ▸ settled), same]

theorem Write.preserves (w : Write g h) : Preserves g h := by
  cases w with
  | @change id d hid isOpen seat settled _ =>
      refine ⟨Nat.le_of_eq (size_put g id d).symm, fun {i} committed => ?_, fun {i} isSettled => ?_⟩
      · refine node_put_ne fun same => ?_
        rw [same, isOpen] at committed
        cases committed
      · by_cases hi : i = id
        · subst hi
          rw [node_put_self hid]
          exact settled isSettled
        · rw [node_put_ne hi]
  | @adopt d childless _ inside =>
      have other : ∀ {i}, i ≠ g.size → (g.adopt d).node i = g.nodeBeside d i :=
        fun hi => node_adopt_beside (fun hp => (inside hp).1) hi
      -- nothing that could be committed or settled stands where the declaration comes
      have blank : g.node g.size = default := node_of_size_le (Nat.le_refl _)
      refine ⟨(size_adopt g d).symm ▸ Nat.le_succ _, fun {i} committed => ?_,
        fun {i} isSettled => ?_⟩
      · have hi : i ≠ g.size := by
          rintro rfl
          rw [blank] at committed
          cases committed
        have hp : d.parent ≠ some i := by
          intro hp
          rw [(inside hp).2] at committed
          cases committed
        rw [other hi, nodeBeside, if_neg hp, List.append_nil]
      · have hi : i ≠ g.size := by
          rintro rfl
          rw [blank] at isSettled
          cases isSettled
        rw [other hi, nodeBeside]

theorem Write.nested (w : Write g h) (nested : g.Nested) : h.Nested := by
  cases w with
  | change _ _ seat _ _ => exact nested.congr (Agree.put seat).symm
  | adopt childless _ inside => exact nested_adopt nested (fun hp => (inside hp).1) childless

/-- All references lead to declarations that are there. -/
def SelfContained (g : Graph) : Prop := ∀ id, g.IsWithin (g.node id).reference

theorem Write.selfContained (w : Write g h) (within : g.SelfContained) : h.SelfContained := by
  have larger := w.preserves.size
  intro i target hr
  refine Nat.lt_of_lt_of_le ?_ larger
  cases w with
  | @change id d hid _ _ _ written =>
      by_cases hi : i = id
      · subst hi
        rw [node_put_self hid] at hr
        rcases written with kept | allowed
        · exact within i target (kept ▸ hr)
        · exact allowed target hr
      · rw [node_put_ne hi] at hr
        exact within i target hr
  | @adopt d _ free inside =>
      by_cases hi : i = g.size
      · rw [hi, node_adopt_self, free] at hr
        cases hr
      · rw [node_adopt_beside (fun hp => (inside hp).1) hi] at hr
        exact within i target hr

theorem Writes.preserves (w : Writes g h) : Preserves g h := by
  induction w with
  | refl => exact .refl g
  | tail _ last ih => exact ih.trans last.preserves

theorem Writes.nested (w : Writes g h) (nested : g.Nested) : h.Nested := by
  induction w with
  | refl => exact nested
  | tail _ last ih => exact last.nested ih

theorem Writes.selfContained (w : Writes g h) (within : g.SelfContained) : h.SelfContained := by
  induction w with
  | refl => exact within
  | tail _ last ih => exact last.selfContained ih

/-! ## Whole runs -/

/-- Graphs that operations lead to from a given one. -/
inductive Later (g : Graph) : Graph → Prop
  | refl : Later g g
  | step {h : Graph} {op : Operation} : Later g h → op.IsOn h → Later g (op.leave h)

theorem Later.writes (later : Later g h) : Writes g h := by
  induction later with
  | refl => exact .refl
  | step _ on ih => exact ih.trans (Operation.writes_leave on)

theorem Reached.later (reached : Reached g) : Later .empty g := by
  induction reached with
  | empty => exact .refl
  | step _ on ih => exact ih.step on

theorem Reached.nested (reached : Reached g) : g.Nested := reached.later.writes.nested nested_empty

theorem Reached.selfContained (reached : Reached g) : g.SelfContained :=
  reached.later.writes.selfContained fun id target hr => by cases hr

theorem isCommitted_of_commit {key : String} (hid : id < g.size)
    (run : commit id g = .ok key h) : id < h.size ∧ (h.node id).isCommitted := by
  unfold commit at run
  rw [Steps.bind_ok (Steps.get_run g)] at run
  cases hclose : (g.node id).close (g.keyOf id) with
  | error e =>
      rw [Steps.bind_error (update_error hid hclose)] at run
      cases run
  | ok d =>
      rw [Steps.bind_ok (update_ok hid hclose)] at run
      cases run
      obtain ⟨_, rfl⟩ := Declaration.change_eq_ok hclose
      rw [node_put_self hid]
      exact ⟨(size_put ..).symm ▸ hid, rfl⟩

/-- What is committed is not committed again. -/
theorem commit_committed (hid : id < g.size) (committed : (g.node id).isCommitted) :
    ∃ e, commit id g = .error e g := by
  have refused : (g.node id).close (g.keyOf id) = .error ((g.node id).violation .state) :=
    if_pos committed
  exact ⟨_, (Steps.bind_ok (Steps.get_run g)).trans
    (Steps.bind_error (update_error hid refused))⟩

/-- Whatever is done to a graph, failing operations included: what has been
committed stays as it is, and cannot be committed again; a settled reference
stays; a target is what a reference leads to; and a declaration is a child of
its parent, once, and younger than this. -/
theorem lifecycle (reached : Reached g) :
    (∀ id key closed, id < g.size → commit id g = .ok key closed → ∀ h, Later closed h →
      h.node id = closed.node id ∧ ∃ e, commit id h = .error e h) ∧
    (∀ id, (g.node id).reference.isSettled → ∀ h, Later g h →
      (h.node id).reference = (g.node id).reference) ∧
    (∀ id, (∀ x, (g.node id).target? = some (.declaration x) ↔
          (g.node id).reference = .declaration x) ∧
        (∀ kind, (g.node id).target? = some (.fundamental kind) ↔
          (g.node id).reference = .fundamental kind) ∧
        ((g.node id).target? = none ↔ (∀ x, (g.node id).reference ≠ .declaration x) ∧
          ∀ kind, (g.node id).reference ≠ .fundamental kind)) ∧
    ∀ p c, (c ∈ (g.node p).children ↔ (g.node c).parent = some p) ∧
      ((g.node c).parent = some p → (g.node p).children.count c = 1 ∧ p < c) := by
  have nested := reached.nested
  refine ⟨fun id key closed hid run h later => ?_, fun id settled h later => ?_, fun id => ?_,
    fun p c => ⟨nested.mem_children, fun hp => ⟨?_, nested.older hp⟩⟩⟩
  · obtain ⟨inside, committed⟩ := isCommitted_of_commit hid run
    have kept := later.writes.preserves
    have same := kept.committed committed
    exact ⟨same, commit_committed (Nat.lt_of_lt_of_le inside kept.size) (same ▸ committed)⟩
  · exact later.writes.preserves.settled settled
  · rw [(g.node id).target?_eq]
    unfold Declaration.Reference.target?
    cases (g.node id).reference <;> simp
  · exact List.count_eq_one_of_mem (nested.nodup p) (nested.mem_children.mpr hp)

/-- A declaration is committed; then another one is linked to it, which fails
on the way, and cannot be linked anew. -/
theorem lifecycle_halfCommitted :
    let linked := (Operation.link 0 1).leave halfCommitted
    let relinked := (Operation.edit 0 (.reference .none)).leave linked
    ∃ g key, Reached g ∧ 1 < g.size ∧ commit 1 g = .ok key halfCommitted ∧
      Later halfCommitted relinked ∧ relinked.node 1 = halfCommitted.node 1 ∧
      (∃ e, commit 1 relinked = .error e relinked) ∧
      (linked.node 0).reference = .declaration 1 ∧
      (relinked.node 0).reference = .declaration 1 := by
  intro linked relinked
  let open₂ := Operation.addLeaf.leave (Operation.addLeaf.leave .empty)
  have reached : Reached open₂ :=
    .step (.step .empty fun p hp => by cases hp) fun p hp => by cases hp
  have run : commit 1 open₂ = .ok (open₂.keyOf 1) halfCommitted :=
    (Steps.bind_ok (Steps.get_run open₂)).trans (Steps.bind_ok (update_ok Nat.one_lt_two rfl))
  have onLink : (Operation.link 0 1).IsOn halfCommitted := ⟨Nat.zero_lt_two, Nat.one_lt_two⟩
  have onEdit : (Operation.edit 0 (.reference .none)).IsOn linked := Nat.zero_lt_two
  have later : Later linked relinked := .step .refl onEdit
  have refers : (linked.node 0).reference = .declaration 1 := rfl
  obtain ⟨same, again⟩ := (lifecycle reached).1 1 _ halfCommitted Nat.one_lt_two run relinked
    (.step (.step .refl onLink) onEdit)
  have settled : (linked.node 0).reference.isSettled := by
    rw [refers]
    rfl
  have kept := (lifecycle (.step reached_halfCommitted onLink)).2.1 0 settled relinked later
  exact ⟨open₂, _, reached, Nat.one_lt_two, run, .step (.step .refl onLink) onEdit, same, again,
    refers, kept.trans refers⟩

end Graph

end TypeSchema
