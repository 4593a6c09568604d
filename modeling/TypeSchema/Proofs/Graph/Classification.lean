/-
# Classification — judging in order finds the one labelling

Declarations are judged one after another, each behind the one whose label
bears on its own.  In between, labels are provisional: objects count as
compound, and some have been made simple ahead of their turn.

`Judging` is what holds in between.  Whoever has been judged carries its
verdict, and whoever has been made simple early has no other verdict to come.
So no label ever goes stale, and the order in which declarations are judged
does not matter (`Ordered.run`).
-/
import TypeSchema.Proofs.Builder
import TypeSchema.Proofs.Graph.Labelling

namespace TypeSchema

open Declaration (Id Production Subtype Reference)

namespace Graph

/-! ## Between two judgements -/

/-- Everything is open, and taken for what its production suggests. -/
def Unjudged (g : Graph) : Prop :=
  ∀ id, (g.node id).key = none ∧ (g.node id).subtype = (g.node id).production.initialSubtype

/-- The state `h` of a graph `g` once `done` have been judged. -/
structure Judging (g : Graph) (done : List Id) (h : Graph) : Prop where
  links : SameLinks g h
  isOpen : ∀ id, (h.node id).key = none
  closed : ∀ id ∈ done, ∀ target, g.basis? id = some target → target ∈ done
  judged : ∀ id ∈ done, h.labels id = some (g.verdict id)
  pending : ∀ id, id ∉ done → h.labels id = (g.node id).production.initialSubtype ∨
    h.labels id = some .simple ∧ g.verdict id = .simple

theorem Unjudged.judging {g : Graph} (h : g.Unjudged) : Judging g [] g where
  links := .refl g
  isOpen := fun id => (h id).1
  closed := by simp
  judged := by simp
  pending := fun id _ => .inl (h id).2

theorem basis?_next {g : Graph} {id target : Id} (h : g.basis? id = some target) :
    g.next? id = some target := by
  unfold basis? at h
  split at h
  · exact h
  · exact h
  · cases h

/-- What is not to be passed over has no basis, or is an object. -/
theorem basis?_of_passing {g : Graph} {id : Id} (h : halts (g.verdicts id) = false) :
    g.basis? id = g.next? id := by
  unfold basis?
  cases hp : (g.node id).production with
  | object => rfl
  | leaf => rfl
  | root => simp [halts, verdicts, verdict, judge, hp] at h
  | extension => simp [halts, verdicts, verdict, judge, hp] at h
  | config => simp [halts, verdicts, verdict, judge, hp] at h

namespace Judging

variable {g h : Graph} {done : List Id}

/-- Going by the labels so far leads from a declaration that has been judged
to the base that the verdicts lead to. -/
theorem corresponds (inv : Judging g done h) (acyclic : g.Acyclic) {i : Id} (hi : i ∈ done) :
    Corresponds id g h g.verdicts h.labels i := by
  refine acyclic.induction
    (motive := fun i => i ∈ done → Corresponds id g h g.verdicts h.labels i)
    (fun i ih hi => ?_) i hi
  refine .of_label (.of_sameLinks inv.links) acyclic (acyclic.congr inv.links) (inv.judged i hi) ?_
  intro passing target hn
  have hb := (basis?_of_passing passing).trans hn
  exact ih target hn (inv.closed i hi target hb)

/-- A declaration whose basis has been judged is given its verdict. -/
theorem subtypeOf (inv : Judging g done h) (linked : g.Linked) {i : Id}
    (basis : ∀ target, g.basis? i = some target → target ∈ done) :
    h.subtypeOf i = .ok (g.verdict i) := by
  have like : Alike id g h := .of_sameLinks inv.links
  have hjudge : ∀ b, judge (h.node i) b = judge (g.node i) b := like.judge i
  rw [subtypeOf_eq (linked.congr inv.links), hjudge, verdict]
  congr 1
  by_cases hp : (g.node i).production = .object
  · have behind : ∀ target, g.next? i = some target →
        Corresponds id g h g.verdicts h.labels target := by
      intro target hn
      have hb : g.basis? i = some target := by simp [basis?, hp, hn]
      exact inv.corresponds linked.acyclic (basis target hb)
    have hover : h.overUnder h.labels (h.node i) = g.overUnder g.verdicts (g.node i) :=
      Corresponds.overUnder_eq like behind
    rw [hover, overUnder_verdicts linked]
  · exact judge_of_not_object hp _ _

/-- What has been made simple ahead of its turn has no other verdict. -/
theorem verdict_of_simple (inv : Judging g done h) {i : Id} (hs : h.labels i = some .simple) :
    g.verdict i = .simple := by
  by_cases hi : i ∈ done
  · have := inv.judged i hi
    rw [hs] at this
    exact (Option.some.inj this).symm
  · rcases inv.pending i hi with hinitial | ⟨_, hv⟩
    · rw [hs] at hinitial
      cases hp : (g.node i).production <;> simp [hp, Production.initialSubtype] at hinitial
    · exact hv

/-- Writing down a verdict. -/
theorem put (inv : Judging g done h) {i : Id} (hi : i < g.size)
    (basis : ∀ target, g.basis? i = some target → target ∈ done) {d : Declaration}
    (links : d.links = (h.node i).links) (isOpen : d.key = none)
    (subtype : d.subtype = some (g.verdict i)) : Judging g (done ++ [i]) (h.put i d) := by
  have hi' : i < h.size := inv.links.size ▸ hi
  have label_self : (h.put i d).labels i = some (g.verdict i) := by
    rw [labels, node_put_self hi', subtype]
  have label_ne : ∀ {j}, j ≠ i → (h.put i d).labels j = h.labels j := by
    intro j hj
    rw [labels, labels, node_put_ne hj]
  refine ⟨inv.links.trans (Agree.put links).symm, ?_, ?_, ?_, ?_⟩
  · intro j
    rw [part_put (·.key) (isOpen.trans (inv.isOpen i).symm) j]
    exact inv.isOpen j
  · intro j hj target hb
    rcases List.mem_append.mp hj with hj | hj
    · exact List.mem_append_left _ (inv.closed j hj target hb)
    · rw [List.mem_singleton.mp hj] at hb
      exact List.mem_append_left _ (basis target hb)
  · intro j hj
    by_cases hji : j = i
    · rw [hji, label_self]
    · have hj : j ∈ done := by simpa [hji] using hj
      rw [label_ne hji, inv.judged j hj]
  · intro j hj
    obtain ⟨hj, hji⟩ : j ∉ done ∧ j ≠ i := by simpa using hj
    rw [label_ne hji]
    exact inv.pending j hj

/-- Making an object simple ahead of its turn, if it has to be in the end. -/
theorem simplify (inv : Judging g done h) {r : Id}
    (hr : (g.node r).production = .object → g.verdict r = .simple) :
    ∃ h', Graph.simplify r h = .ok () h' ∧ Judging g done h' := by
  unfold Graph.simplify
  by_cases hc : (h.node r).production = .object ∧ (h.node r).subtype = some .compound
  · have hv : g.verdict r = .simple := hr (inv.links.frame.production r ▸ hc.1)
    have hlt : r < h.size := by
      by_contra hge
      rw [node_of_size_le (Nat.not_lt.mp hge)] at hc
      cases hc.1
    have early : r ∉ done := by
      intro hmem
      have := (inv.judged r hmem).symm.trans hc.2
      rw [hv] at this
      cases this
    refine ⟨h.put r { h.node r with subtype := some .simple }, ?_, ?_⟩
    · refine (Steps.bind_ok (Steps.get_run h)).trans ?_
      rw [if_pos hc]
      exact update_ok hlt (Declaration.change_ok (inv.isOpen r) _ _)
    · have label_ne : ∀ {j}, j ≠ r →
          (h.put r { h.node r with subtype := some .simple }).labels j = h.labels j := by
        intro j hj
        rw [labels, labels, node_put_ne hj]
      refine ⟨inv.links.trans (Agree.put (by rfl)).symm, ?_, inv.closed, ?_, ?_⟩
      · intro j
        rw [part_put (·.key) (by rfl) j]
        exact inv.isOpen j
      · intro j hj
        have hjr : j ≠ r := fun h => early (h ▸ hj)
        rw [label_ne hjr, inv.judged j hj]
      · intro j hj
        by_cases hjr : j = r
        · subst hjr
          exact .inr ⟨by rw [labels, node_put_self hlt], hv⟩
        · rw [label_ne hjr]
          exact inv.pending j hj
  · refine ⟨h, ?_, inv⟩
    refine (Steps.bind_ok (Steps.get_run h)).trans ?_
    rw [if_neg hc]
    rfl

end Judging

/-- Once all declarations are judged, their labels obey the rules, read
against these labels. -/
theorem Judging.obeys {g h : Graph} {done : List Id} (inv : Judging g done h) (linked : g.Linked)
    (covers : ∀ i < g.size, i ∈ done) : h.Obeys h.labels := by
  intro i hi
  have hi : i ∈ done := covers i (inv.links.size.symm ▸ hi)
  have linked' := linked.congr inv.links
  have same := (inv.subtypeOf linked (inv.closed i hi)).symm.trans (subtypeOf_eq linked' i)
  refine ⟨g.verdict i, inv.judged i hi, ?_⟩
  rw [Except.ok.inj same]
  exact rules_judge linked' h.labels i

/-! ## One judgement -/

theorem Linked.next?_of_mem_referencedBy {g : Graph} (linked : g.Linked) {a b : Id}
    (h : a ∈ (g.node b).referencedBy) : g.next? a = some b := by
  by_cases hb : b < g.size
  · exact next?_eq_some.mpr ((linked.mem_referencedBy hb).mp h)
  · rw [node_of_size_le (Nat.not_lt.mp hb)] at h
    cases h

/-- The back-links of what leads to `id` lead to it. -/
theorem Linked.leads_of_mem_referencedBy {g : Graph} (linked : g.Linked) {a b id : Id}
    (h : a ∈ (g.node b).referencedBy) (hb : g.Leads b id) : g.Leads a id := by
  obtain ⟨target, hn, hmem⟩ := hb
  refine ⟨b, linked.next?_of_mem_referencedBy h, ?_⟩
  rw [walk_step (linked.acyclic.hasCycle b) hn]
  exact List.mem_cons_of_mem _ hmem

theorem leads_of_mem_referrersFrom {g : Graph} (linked : g.Linked) {id : Id} {fuel : Nat} :
    ∀ {seen queue : List Id}, (∀ r ∈ queue, g.Leads r id) →
      ∀ r ∈ g.referrersFrom fuel seen queue, g.Leads r id := by
  induction fuel with
  | zero => intro _ _ _ r hr; cases hr
  | succ fuel ih =>
      intro seen queue hq r hr
      cases queue with
      | nil => cases hr
      | cons q queue =>
          obtain ⟨hq, hqueue⟩ := List.forall_mem_cons.mp hq
          unfold referrersFrom at hr
          split at hr
          · exact ih hqueue r hr
          · rcases List.mem_cons.mp hr with rfl | hr
            · exact hq
            · refine ih (fun a ha => ?_) r hr
              rcases List.mem_append.mp ha with ha | ha
              · exact hqueue a ha
              · exact linked.leads_of_mem_referencedBy ha hq

theorem leads_of_mem_referrers {g : Graph} (linked : g.Linked) {id r : Id}
    (hr : r ∈ g.referrers id) : g.Leads r id := by
  refine leads_of_mem_referrersFrom linked (fun a ha => ?_) r hr
  exact ⟨id, linked.next?_of_mem_referencedBy ha, mem_walk_self (linked.acyclic.hasCycle id)⟩

section Judge

variable {g h : Graph} {done : List Id} (inv : Judging g done h) (linked : g.Linked) {i : Id}
  (basis : ∀ target, g.basis? i = some target → target ∈ done)
include inv linked basis

/-- A declaration whose basis has been judged is given its verdict; if that is
to be simple, so are the objects behind it. -/
theorem Judging.classifyOne_run (hi : i < h.size) :
    Graph.classifyOne i h
      = (if g.verdict i = .simple then (h.referrers i).forM Graph.simplify else pure ())
          (h.put i { h.node i with
            subtype := some (g.verdict i), isNewType := isNewType (g.verdict i) }) := by
  have kept : (if (h.node i).subtype = some .simple ∧ g.verdict i = .compound then .simple
      else g.verdict i) = g.verdict i := by
    split
    · rename_i hs
      exact (inv.verdict_of_simple hs.1).symm
    · rfl
  let d₀ : Declaration := { h.node i with subtype := some (g.verdict i) }
  let d : Declaration := { d₀ with isNewType := isNewType (g.verdict i) }
  have hnode : (h.put i d₀).node i = d₀ := node_put_self hi
  have first : update i (·.setSubtype (g.verdict i)) h = .ok () (h.put i d₀) :=
    update_ok hi (Declaration.change_ok (inv.isOpen i) _ _)
  have second : update i (·.setNewType (isNewType (g.verdict i))) (h.put i d₀)
      = .ok () (h.put i d) := by
    rw [← put_put h i d₀ d]
    refine update_ok (by simpa using hi) ?_
    rw [hnode]
    exact Declaration.change_ok (inv.isOpen i) _ _
  refine (Steps.bind_ok (Steps.get_run h)).trans ?_
  refine (Steps.bind_ok (Steps.ofExcept_ok (inv.subtypeOf linked basis) h)).trans ?_
  simp only [kept]
  exact (Steps.bind_ok first).trans (Steps.bind_ok second)

/-- Judging one declaration whose basis has been judged. -/
theorem Judging.classifyOne (hi : i < g.size) :
    ∃ h', Graph.classifyOne i h = .ok () h' ∧ Judging g (done ++ [i]) h' := by
  let d : Declaration :=
    { h.node i with subtype := some (g.verdict i), isNewType := isNewType (g.verdict i) }
  have written : Judging g (done ++ [i]) (h.put i d) := inv.put hi basis rfl (inv.isOpen i) rfl
  have run := inv.classifyOne_run linked basis (inv.links.size ▸ hi)
  by_cases hs : g.verdict i = .simple
  · rw [run, if_pos hs]
    have step : ∀ r ∈ h.referrers i, (g.node r).production = .object → g.verdict r = .simple := by
      intro r hr hp
      have leads := leads_of_mem_referrers (linked.congr inv.links) hr
      exact simple_of_leads linked hp (leads.congr inv.links.symm) hs
    obtain ⟨h', hrun, inv'⟩ := Steps.forM_keeps (f := Graph.simplify)
      (P := fun _ h => Judging g (done ++ [i]) h) (h.referrers i) [] (h.put i d)
      (fun before r after t split inv' => inv'.simplify (step r (by simp [split]))) written
    exact ⟨h', hrun, inv'⟩
  · rw [run, if_neg hs]
    exact ⟨_, rfl, written⟩

end Judge

/-! ## The order of judgements -/

/-- After `done`, the declarations `todo` can be judged in turn: each is new,
and behind the one whose label bears on its own. -/
inductive Ordered (g : Graph) : List Id → List Id → Prop
  | nil {done : List Id} : Ordered g done []
  | cons {done todo : List Id} {id : Id} : id < g.size → id ∉ done →
      (∀ target, g.basis? id = some target → target ∈ done) →
      Ordered g (done ++ [id]) todo → Ordered g done (id :: todo)

/-- In whichever such order declarations are judged, no judgement fails, and
all are given their verdicts. -/
theorem Ordered.run {g h : Graph} {done todo : List Id} (order : Ordered g done todo)
    (linked : g.Linked) (inv : Judging g done h) :
    ∃ h', todo.forM classifyOne h = .ok () h' ∧ Judging g (done ++ todo) h' := by
  induction order generalizing h with
  | nil => exact ⟨h, rfl, by simpa using inv⟩
  | cons hid _ basis _ ih =>
      obtain ⟨h₁, hrun, inv₁⟩ := inv.classifyOne linked basis hid
      obtain ⟨h', hrest, inv'⟩ := ih inv₁
      exact ⟨h', (Steps.forM_cons_ok hrun).trans hrest, by simpa using inv'⟩

section Order

variable {g : Graph} {done : List Id}

theorem Ordered.append {todo more : List Id} (h : Ordered g done todo)
    (h' : Ordered g (done ++ todo) more) : Ordered g done (todo ++ more) := by
  induction h with
  | nil => simpa using h'
  | cons hid fresh basis _ ih => exact .cons hid fresh basis (ih (by simpa using h'))

theorem Ordered.singleton {id : Id} (hid : id < g.size) (fresh : id ∉ done)
    (basis : ∀ target, g.basis? id = some target → target ∈ done) : Ordered g done [id] :=
  .cons hid fresh basis .nil

variable (done) in
/-- What is pending before `id` comes from the chain of `id`, in an order to
judge in, and leaves nothing of `id` to be judged. -/
theorem ordered_pendingFrom (linked : g.Linked) {id : Id} {l : List Id} (chain : Chain g id l) :
    ∀ {fuel : Nat} (passed : List Id), id < g.size → l.length ≤ fuel → l.Nodup →
      (∀ i ∈ l, i ∉ passed) →
      Ordered g done (g.pendingFrom fuel (passed ++ done) id) ∧
        id ∈ done ++ g.pendingFrom fuel (passed ++ done) id ∧
        ∀ i ∈ g.pendingFrom fuel (passed ++ done) id, i ∈ l := by
  induction chain with
  | @stop id hn =>
      intro fuel passed hid room _ apart
      obtain ⟨fuel, rfl⟩ : ∃ f, fuel = f + 1 := Nat.exists_eq_add_of_le' room
      have hpassed : id ∉ passed := apart id List.mem_cons_self
      have hb : g.basis? id = none := by
        cases hb : g.basis? id with
        | none => rfl
        | some target => rw [basis?_next hb] at hn; cases hn
      by_cases hdone : id ∈ done
      · simp [pendingFrom, hdone, Ordered.nil]
      · have : id ∉ passed ++ done := by simp [hpassed, hdone]
        simp only [pendingFrom, if_neg this, hb]
        exact ⟨.singleton hid hdone (by simp [hb]), by simp, by simp⟩
  | @step id target rest hn chain ih =>
      intro fuel passed hid room nodup apart
      obtain ⟨fuel, rfl⟩ : ∃ f, fuel = f + 1 :=
        Nat.exists_eq_add_of_le' (Nat.le_trans (Nat.le_add_left 1 rest.length) room)
      have hpassed : id ∉ passed := apart id List.mem_cons_self
      by_cases hdone : id ∈ done
      · simp [pendingFrom, hdone, Ordered.nil]
      · have hseen : id ∉ passed ++ done := by simp [hpassed, hdone]
        cases hb : g.basis? id with
        | none =>
            simp only [pendingFrom, if_neg hseen, hb]
            exact ⟨.singleton hid hdone (by simp [hb]), by simp, by simp⟩
        | some t =>
            have ht : t = target := by
              have := (basis?_next hb).symm.trans hn
              exact Option.some.inj this
            subst ht
            obtain ⟨notin, nodup⟩ := List.nodup_cons.mp nodup
            have apart' : ∀ i ∈ rest, i ∉ id :: passed := by
              intro i hi hmem
              rcases List.mem_cons.mp hmem with rfl | hmem
              · exact notin hi
              · exact apart i (List.mem_cons_of_mem _ hi) hmem
            obtain ⟨order, covers, within⟩ := ih (id :: passed)
              (linked.target (next?_eq_some.mp hn)).1 (Nat.le_of_succ_le_succ room) nodup apart'
            simp only [pendingFrom, if_neg hseen, hb]
            refine ⟨order.append (.singleton hid ?_ ?_), by simp, ?_⟩
            · intro hmem
              rcases List.mem_append.mp hmem with hmem | hmem
              · exact hdone hmem
              · exact notin (within id hmem)
            · intro t' ht'
              rw [hb] at ht'
              cases ht'
              exact covers
            · intro i hi
              rcases List.mem_append.mp hi with hi | hi
              · exact List.mem_cons_of_mem _ (within i hi)
              · exact List.mem_singleton.mp hi ▸ List.mem_cons_self

/-- All declarations, in an order to judge in. -/
theorem ordered_judgementOrder (linked : g.Linked) :
    Ordered g [] g.judgementOrder ∧ ∀ id < g.size, id ∈ g.judgementOrder := by
  have all : ∀ (ids done : List Id), (∀ id ∈ ids, id < g.size) → Ordered g [] done →
      let order := ids.foldl (fun done id => done ++ g.pendingFrom g.walkBound done id) done
      Ordered g [] order ∧ (∀ id ∈ done, id ∈ order) ∧ ∀ id ∈ ids, id ∈ order := by
    intro ids
    induction ids with
    | nil => intro done _ h; exact ⟨h, fun _ => id, by simp⟩
    | cons id ids ih =>
        intro done hids h
        obtain ⟨hid, hids⟩ := List.forall_mem_cons.mp hids
        obtain ⟨chain, nodup, room⟩ := chain_walk (linked.acyclic.hasCycle id)
        obtain ⟨order, covers, _⟩ :=
          ordered_pendingFrom done linked chain [] hid room nodup (by simp)
        obtain ⟨order', keeps, covers'⟩ := ih _ hids (h.append (by simpa using order))
        refine ⟨order', fun i hi => keeps i (List.mem_append_left _ hi), ?_⟩
        intro i hi
        rcases List.mem_cons.mp hi with rfl | hi
        · exact keeps i covers
        · exact covers' i hi
  obtain ⟨order, _, covers⟩ := all g.ids [] (fun _ => mem_ids.mp) .nil
  exact ⟨order, fun id hid => covers id (mem_ids.mpr hid)⟩

end Order

/-! ## All declarations -/

/-- What the classification of `g` leaves. -/
structure Classified (g h : Graph) : Prop where
  links : SameLinks g h
  isOpen : ∀ id, (h.node id).key = none
  verdicts : ∀ id < g.size, h.labels id = some (g.verdict id)
  obeys : h.Obeys h.labels

/-- Classification gives all verdicts; all that can fail then is the check of
what simple objects contain. -/
theorem classify_eq {g : Graph} (linked : g.Linked) (unjudged : g.Unjudged) :
    ∃ h, Classified g h ∧
      classify g = (MonadExcept.ofExcept (g.ids.forM h.checkSimple) : Change Unit) h := by
  obtain ⟨order, covers⟩ := ordered_judgementOrder linked
  obtain ⟨h, run, inv⟩ := order.run linked unjudged.judging
  refine ⟨h, ⟨inv.links, inv.isOpen, fun id hid => inv.judged id (covers id hid),
    inv.obeys linked covers⟩, ?_⟩
  refine (Steps.bind_ok (Steps.get_run g)).trans ?_
  refine (Steps.bind_ok run).trans ?_
  exact Steps.bind_ok (Steps.get_run h)

theorem classify_ok {g h : Graph} (linked : g.Linked) (unjudged : g.Unjudged)
    (run : classify g = .ok () h) :
    Classified g h ∧ ∀ id < g.size, h.checkSimple id = .ok () := by
  obtain ⟨h', classified, hrun⟩ := classify_eq linked unjudged
  rw [hrun] at run
  obtain ⟨checked, rfl⟩ := Steps.ofExcept_eq_ok.mp run
  exact ⟨classified, fun id hid => Steps.forM_checks.mp checked id (mem_ids.mpr hid)⟩

/-- Looking up references judges nothing. -/
theorem unjudged_lookedUp {g : Graph} (raw : g.Raw) (included : List Id) :
    (g.lookedUp included).Unjudged := by
  intro id
  have same : ((g.lookedUp included).node id).subtype = (g.node id).subtype :=
    part_mapNodes (·.subtype) (fun _ _ => by rfl) id
  refine ⟨key_lookedUpTo raw id, ?_⟩
  rw [same, (sameFrame_lookedUp g included).production]
  exact (raw id).subtype

/-- What declarations of a built graph end up as is the one labelling that
obeys the rules, read against this labelling itself.  It does not depend on
the order in which declarations were made: those that look alike in two
graphs, wherever in them they are, end up alike. -/
theorem classify_labelling {g₀ g g' : Graph} {included : List Id} {strict : Bool}
    (built : Built g₀) (resolved : resolveReferences included strict g₀ = .ok () g)
    (classified : classify g = .ok () g') :
    SameLinks g g' ∧ g'.Obeys g'.labels ∧
      (∀ ℓ, g'.Obeys ℓ → ∀ id < g'.size, ℓ id = g'.labels id) ∧
      ∀ (σ : Id → Id) (h₀ h h' : Graph) (included' : List Id) (strict' : Bool),
        Built h₀ → resolveReferences included' strict' h₀ = .ok () h → classify h = .ok () h' →
        Alike σ g h → ∀ id < g.size, h'.labels (σ id) = g'.labels id := by
  have settled : ∀ {g₀ g g' : Graph} {included : List Id} {strict : Bool}, Built g₀ →
      resolveReferences included strict g₀ = .ok () g → classify g = .ok () g' →
      g.Linked ∧ Classified g g' := by
    intro g₀ g g' included strict built resolved classified
    obtain ⟨rfl, linked, _⟩ := resolveReferences_ok built.raw built.tree resolved
    exact ⟨linked, (classify_ok linked (unjudged_lookedUp built.raw included) classified).1⟩
  obtain ⟨linked, c⟩ := settled built resolved classified
  refine ⟨c.links, c.obeys, ?_, ?_⟩
  · intro ℓ obeys id hid
    exact c.obeys.unique (linked.congr c.links) obeys hid
  · intro σ h₀ h h' included' strict' built' resolved' classified' like id hid
    obtain ⟨linked', c'⟩ := settled built' resolved' classified'
    rw [c.verdicts id hid, c'.verdicts (σ id) (like.lt hid)]
    exact (obeys_verdicts linked).alike like linked linked' (obeys_verdicts linked') hid

/-- An object over an alias of an object that comes last: its label is found
after the other two, and no other one obeys the rules. -/
theorem classify_labelling_forward :
    let calls : List Builder.Call :=
      [.beginObject "B" .standard (some "L") .api, .endObject,
       .declaration "L" .standard "A" .api,
       .beginObject "A" .standard none .api, .endObject]
    let start : Builder := .start ⟨#[.fresh .standard .root none .api false]⟩ .all 0 false
    ∃ g g' : Graph,
      resolveReferences [] true (calls.foldl Builder.Call.leave start).graph = .ok () g ∧
      classify g = .ok () g' ∧ g'.labels 1 = some .compound ∧ g'.labels 2 = some .alias ∧
      ∀ ℓ, g'.Obeys ℓ → ℓ 1 = some .compound := by
  intro calls start
  have run : (match resolveReferences [] true (calls.foldl Builder.Call.leave start).graph with
      | .ok _ g =>
        match classify g with
        | .ok _ g' =>
          decide (1 < g'.size ∧ g'.labels 1 = some .compound ∧ g'.labels 2 = some .alias)
        | .error _ _ => false
      | .error _ _ => false) = true := by decide +kernel
  have built : Built (calls.foldl Builder.Call.leave start).graph :=
    .document .api false .all calls .empty rfl
  cases resolved : resolveReferences [] true (calls.foldl Builder.Call.leave start).graph with
  | error e g => rw [resolved] at run; cases run
  | ok _ g =>
      rw [resolved] at run
      cases classified : classify g with
      | error e g' => simp only [classified] at run; cases run
      | ok _ g' =>
          simp only [classified, decide_eq_true_eq] at run
          obtain ⟨hsize, hcompound, halias⟩ := run
          obtain ⟨_, _, unique, _⟩ := classify_labelling built resolved classified
          exact ⟨g, g', rfl, classified, hcompound, halias,
            fun ℓ obeys => (unique ℓ obeys 1 hsize).trans hcompound⟩

/-! ## Types of their own

When a declaration is judged, it is noted whether it makes a type of its own.
Making an object simple ahead of its turn does not touch the note, and the
note is written again when the turn comes.  So in the end it agrees with what
the declaration turned out to be. -/

section NewTypes

variable {g h h' : Graph} {done todo : List Id}

/-- The graphs agree on what makes a type of its own. -/
abbrev SameNewTypes : Graph → Graph → Prop := Agree Declaration.isNewType

theorem sameNewTypes_simplify {r : Id} (run : simplify r h = .ok () h') : SameNewTypes h' h := by
  unfold simplify at run
  rw [Steps.bind_ok (Steps.get_run h)] at run
  split at run
  · rcases update_eq_ok run with rfl | ⟨d, hd, rfl⟩
    · exact .refl _
    · obtain ⟨_, rfl⟩ := Declaration.change_eq_ok hd
      exact .put rfl
  · cases run
    exact .refl _

theorem sameNewTypes_forM {rs : List Id} (run : rs.forM simplify h = .ok () h') :
    SameNewTypes h' h := by
  induction rs generalizing h with
  | nil =>
      cases run
      exact .refl _
  | cons r rs ih =>
      obtain ⟨_, h₁, first, rest⟩ := Steps.bind_eq_ok.mp run
      exact (ih rest).trans (sameNewTypes_simplify first)

/-- What has been judged is noted as its verdict says. -/
def Noted (g : Graph) (done : List Id) (h : Graph) : Prop :=
  ∀ i ∈ done, (h.node i).isNewType = isNewType (g.verdict i)

theorem Judging.noted (inv : Judging g done h) (linked : g.Linked) {i : Id}
    (basis : ∀ target, g.basis? i = some target → target ∈ done) (hi : i < g.size)
    (noted : Noted g done h) (run : Graph.classifyOne i h = .ok () h') :
    Noted g (done ++ [i]) h' := by
  have hi' : i < h.size := inv.links.size ▸ hi
  rw [inv.classifyOne_run linked basis hi'] at run
  have same : SameNewTypes h' (h.put i { h.node i with
      subtype := some (g.verdict i), isNewType := isNewType (g.verdict i) }) := by
    split at run
    · exact sameNewTypes_forM run
    · cases run
      exact .refl _
  intro j hj
  rw [same.part j]
  by_cases hji : j = i
  · rw [hji, node_put_self hi']
  · rw [node_put_ne hji]
    exact noted j (by simpa [hji] using hj)

theorem Ordered.noted (order : Ordered g done todo) (linked : g.Linked) (inv : Judging g done h)
    (noted : Noted g done h) (run : todo.forM classifyOne h = .ok () h') :
    Noted g (done ++ todo) h' := by
  induction order generalizing h with
  | nil =>
      cases run
      rwa [List.append_nil]
  | cons hid _ basis _ ih =>
      obtain ⟨h₁, first, inv₁⟩ := inv.classifyOne linked basis hid
      rw [Steps.forM_cons_ok first] at run
      have := ih inv₁ (inv.noted linked basis hid noted first) run
      rwa [List.append_assoc] at this

/-- Classification notes of every declaration whether it makes a type of its own. -/
theorem noted_of_classify (linked : g.Linked) (unjudged : g.Unjudged)
    (run : classify g = .ok () h) {i : Id} (hi : i < g.size) :
    (h.node i).isNewType = isNewType (g.verdict i) := by
  obtain ⟨order, covers⟩ := ordered_judgementOrder linked
  unfold classify at run
  rw [Steps.bind_ok (Steps.get_run g)] at run
  obtain ⟨_, h₁, judged, checked⟩ := Steps.bind_eq_ok.mp run
  rw [Steps.bind_ok (Steps.get_run h₁)] at checked
  obtain ⟨_, rfl⟩ := Steps.ofExcept_eq_ok.mp checked
  exact order.noted linked unjudged.judging (by simp [Noted]) judged i (covers i hi)

end NewTypes

end Graph

end TypeSchema
