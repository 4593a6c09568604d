/-
# Committing — which keys a graph has

Committing goes through all declarations once.  It closes each of them under
its key, and it fails as soon as the key of a named declaration was met
before.  So it succeeds exactly if named declarations have different keys
(`exists_commitAll`, `uniqueKeys_of_commitAll`), and a key then stands for the
one declaration that has it, whatever the order in which they came
(`find?_commitAll`).
-/
import TypeSchema.Proofs.Fields
import TypeSchema.Proofs.Graph.Mirror

namespace TypeSchema

open Declaration (Id)

namespace Graph

variable {g h : Graph} {keys keys' : Keys} {id : Id} {ids : List Id}

/-! ## One declaration -/

/-- The declaration is found by its key. -/
def IsKeyed (g : Graph) (id : Id) : Prop :=
  ¬ ((g.node id).name.isNone ∨ (g.node id).production = .root)

instance (g : Graph) (id : Id) : Decidable (g.IsKeyed id) := inferInstanceAs (Decidable (¬ _))

/-- The graph in which a declaration is committed. -/
def closed (g : Graph) (id : Id) : Graph :=
  g.put id { g.node id with key := some (g.keyOf id) }

theorem sameBody_closed (g : Graph) (id : Id) : SameBody (g.closed id) g := Agree.put rfl

theorem commit_run (hid : id < g.size) (isOpen : (g.node id).key = none) :
    commit id g = .ok (g.keyOf id) (g.closed id) := by
  refine (Steps.bind_ok (Steps.get_run g)).trans ?_
  exact Steps.bind_ok (update_ok hid (Declaration.change_ok isOpen _ _))

theorem isKeyed_congr (s : SameFrame g h) (id : Id) : g.IsKeyed id ↔ h.IsKeyed id := by
  rw [IsKeyed, IsKeyed, s.name, s.production]

section CommitNext

variable (hid : id < g.size) (isOpen : (g.node id).key = none)
include hid isOpen

theorem commitNext_unkeyed (unkeyed : ¬ g.IsKeyed id) :
    commitNext keys id g = .ok keys (g.closed id) := by
  have unkeyed' := mt (isKeyed_congr (sameBody_closed g id).links.frame id).mp unkeyed
  refine (Steps.bind_ok (commit_run hid isOpen)).trans ?_
  refine (Steps.bind_ok (Steps.get_run _)).trans ?_
  rw [if_pos (not_not.mp unkeyed')]
  rfl

theorem commitNext_keyed (keyed : g.IsKeyed id) (fresh : Fields.find? (g.keyOf id) keys = none) :
    commitNext keys id g = .ok (Fields.insert (g.keyOf id) id keys) (g.closed id) := by
  have keyed' := (isKeyed_congr (sameBody_closed g id).links.frame id).mpr keyed
  refine (Steps.bind_ok (commit_run hid isOpen)).trans ?_
  refine (Steps.bind_ok (Steps.get_run _)).trans ?_
  rw [if_neg keyed', fresh]
  rfl

theorem commitNext_duplicate (keyed : g.IsKeyed id) {first : Id}
    (found : Fields.find? (g.keyOf id) keys = some first) :
    ∃ e, commitNext keys id g = .error e (g.closed id) := by
  have keyed' := (isKeyed_congr (sameBody_closed g id).links.frame id).mpr keyed
  refine ⟨.duplicateKey (g.keyOf id) ((g.closed id).node first).location
    ((g.closed id).node id).location, (Steps.bind_ok (commit_run hid isOpen)).trans ?_⟩
  refine (Steps.bind_ok (Steps.get_run _)).trans ?_
  rw [if_neg keyed', found]
  rfl

end CommitNext

/-! ## All declarations -/

theorem keyOf_congr (s : SameFrame g h) (id : Id) : g.keyOf id = h.keyOf id := by
  have segments : g.segment? = h.segment? := funext fun i => by
    rw [segment?, segment?, s.production, s.name]
  rw [keyOf, keyOf, lineage_congr s, segments]

/-- The keys of named declarations, with the declarations. -/
def keyed (g : Graph) (ids : List Id) : Keys :=
  (ids.filter (g.IsKeyed ·)).map fun id => (g.keyOf id, id)

theorem keyed_congr (s : SameFrame g h) (ids : List Id) : g.keyed ids = h.keyed ids := by
  have names : (fun id => decide (g.IsKeyed id)) = fun id => decide (h.IsKeyed id) :=
    funext fun id => decide_eq_decide.mpr (isKeyed_congr s id)
  have entries : (fun id => (g.keyOf id, id)) = fun id => (h.keyOf id, id) :=
    funext fun id => by rw [keyOf_congr s]
  simp only [keyed, names, entries]

/-- None of the entries has a key that was there before. -/
def Fresh (keys entries : Keys) : Prop :=
  (∀ e ∈ entries, Fields.find? e.1 keys = none) ∧ (entries.map (·.1)).Nodup

theorem fresh_cons {e : String × Id} {entries : Keys} :
    Fresh keys (e :: entries) ↔
      Fields.find? e.1 keys = none ∧ Fresh (Fields.insert e.1 e.2 keys) entries := by
  simp only [Fresh, List.forall_mem_cons, List.map_cons, List.nodup_cons, Fields.find?_insert,
    List.mem_map, not_exists, not_and]
  constructor
  · rintro ⟨⟨first, rest⟩, alone, nodup⟩
    refine ⟨first, fun e' he' => ?_, nodup⟩
    rw [if_neg fun same => alone e' he' same.symm]
    exact rest e' he'
  · rintro ⟨first, rest, nodup⟩
    refine ⟨⟨first, fun e' he' => ?_⟩, fun e' he' same => ?_, nodup⟩
    · have := rest e' he'
      split at this
      · cases this
      · exact this
    · have := rest e' he'
      rw [if_pos same.symm] at this
      cases this

/-- A round that succeeds; `closed` is all it does to the graph. -/
theorem foldlM_commitNext_cons_ok {id : Id} {first : Keys}
    (run : commitNext keys id g = .ok first (g.closed id)) :
    (id :: ids).foldlM commitNext keys g = ids.foldlM commitNext first (g.closed id) := by
  rw [List.foldlM_cons]
  exact Steps.bind_ok run

/-- The loop over declarations that are there and open. -/
theorem foldlM_commitNext_run (nodup : ids.Nodup)
    (isOpen : ∀ id ∈ ids, id < g.size ∧ (g.node id).key = none) :
    (Fresh keys (g.keyed ids) → ids.foldlM commitNext keys g
      = .ok ((g.keyed ids).foldl (fun keys e => Fields.insert e.1 e.2 keys) keys)
        (ids.foldl closed g)) ∧
    (¬ Fresh keys (g.keyed ids) → ∃ e h, ids.foldlM commitNext keys g = .error e h) := by
  induction ids generalizing g keys with
  | nil =>
      refine ⟨fun _ => rfl, fun stale => absurd ?_ stale⟩
      exact ⟨by simp [keyed], List.nodup_nil⟩
  | cons id ids ih =>
      obtain ⟨hid, open₁⟩ := isOpen id List.mem_cons_self
      obtain ⟨notin, nodup⟩ := List.nodup_cons.mp nodup
      have same := (sameBody_closed g id).links.frame
      have later : ∀ {keys}, _ := fun {keys} => @ih (g.closed id) keys nodup
        fun i hi => by
          obtain ⟨hlt, hopen⟩ := isOpen i (List.mem_cons_of_mem _ hi)
          have hne : i ≠ id := fun h => notin (h ▸ hi)
          exact ⟨(sameBody_closed g id).size ▸ hlt, by rw [closed, node_put_ne hne]; exact hopen⟩
      rw [keyed_congr same] at later
      by_cases hk : g.IsKeyed id
      · have split : g.keyed (id :: ids) = (g.keyOf id, id) :: g.keyed ids := by
          simp [keyed, hk]
        rw [split, fresh_cons]
        cases hf : Fields.find? (g.keyOf id) keys with
        | none =>
            rw [foldlM_commitNext_cons_ok (commitNext_keyed hid open₁ hk hf)]
            exact ⟨fun fresh => later.1 fresh.2, fun stale => later.2 fun fresh =>
              stale ⟨rfl, fresh⟩⟩
        | some first =>
            refine ⟨fun fresh => by simp at fresh, fun _ => ?_⟩
            obtain ⟨e, run⟩ := commitNext_duplicate hid open₁ hk hf
            exact ⟨e, _, by rw [List.foldlM_cons]; exact Steps.bind_error run⟩
      · have split : g.keyed (id :: ids) = g.keyed ids := by simp [keyed, hk]
        rw [split, foldlM_commitNext_cons_ok (commitNext_unkeyed hid open₁ hk)]
        exact later

/-- What stands for which key once fresh entries have been added. -/
theorem find?_entries {key : String} {entries : Keys} (fresh : Fresh keys entries) :
    Fields.find? key (entries.foldl (fun keys e => Fields.insert e.1 e.2 keys) keys) = some id ↔
      Fields.find? key keys = some id ∨ (key, id) ∈ entries := by
  induction entries generalizing keys with
  | nil => simp
  | cons e entries ih =>
      obtain ⟨first, rest⟩ := fresh_cons.mp fresh
      rw [List.foldl_cons, ih rest, Fields.find?_insert, List.mem_cons]
      obtain ⟨k, i⟩ := e
      by_cases same : k = key
      · subst same
        rw [if_pos rfl, first]
        simp [eq_comm]
      · simp [same, Ne.symm same]

theorem node_foldl_closed {ids : List Id} (nodup : ids.Nodup) (hlt : ∀ id ∈ ids, id < g.size) :
    SameBody (ids.foldl closed g) g ∧
      (∀ i ∉ ids, (ids.foldl closed g).node i = g.node i) ∧
      ∀ i ∈ ids, ((ids.foldl closed g).node i).key = some (g.keyOf i) := by
  induction ids generalizing g with
  | nil => exact ⟨.refl g, fun _ _ => rfl, by simp⟩
  | cons id ids ih =>
      obtain ⟨notin, nodup⟩ := List.nodup_cons.mp nodup
      obtain ⟨hid, hlt⟩ := List.forall_mem_cons.mp hlt
      have body := sameBody_closed g id
      obtain ⟨same, outside, inside⟩ := ih (g := g.closed id) nodup
        fun i hi => body.size ▸ hlt i hi
      refine ⟨same.trans body, fun i hi => ?_, fun i hi => ?_⟩
      · obtain ⟨hne, hi⟩ := not_or.mp (mt List.mem_cons.mpr hi)
        exact (outside i hi).trans (node_put_ne hne)
      · rcases List.mem_cons.mp hi with rfl | hi
        · rw [List.foldl_cons, outside i notin, closed, node_put_self hid]
        · rw [List.foldl_cons, inside i hi, keyOf_congr body.links.frame]

/-- Named declarations have different keys. -/
def UniqueKeys (g : Graph) : Prop :=
  ∀ i j, i < g.size → j < g.size → g.IsKeyed i → g.IsKeyed j → g.keyOf i = g.keyOf j → i = j

theorem mem_keyed {key : String} {i : Id} :
    (key, i) ∈ g.keyed g.ids ↔ i < g.size ∧ g.IsKeyed i ∧ g.keyOf i = key := by
  simp only [keyed, List.mem_map, List.mem_filter, mem_ids, decide_eq_true_eq, Prod.mk.injEq]
  constructor
  · rintro ⟨j, ⟨hj, named⟩, hkey, rfl⟩
    exact ⟨hj, named, hkey⟩
  · rintro ⟨hi, named, hkey⟩
    exact ⟨i, ⟨hi, named⟩, hkey, rfl⟩

theorem fresh_iff : Fresh [] (g.keyed g.ids) ↔ g.UniqueKeys := by
  have keys : (g.keyed g.ids).map (·.1) = (g.ids.filter (g.IsKeyed ·)).map g.keyOf := by
    rw [keyed, List.map_map]
    rfl
  have different := List.nodup_map_iff_inj_on (f := g.keyOf)
    (g.nodup_ids.filter (g.IsKeyed ·))
  simp only [List.mem_filter, mem_ids, decide_eq_true_eq] at different
  rw [Fresh, keys, different]
  constructor
  · rintro ⟨_, unique⟩ i j hi hj named named' same
    exact unique i ⟨hi, named⟩ j ⟨hj, named'⟩ same
  · exact fun unique => ⟨fun _ _ => rfl, fun i hi j hj same =>
      unique i j hi.1 hj.1 hi.2 hj.2 same⟩

section CommitAll

variable (isOpen : ∀ id, (g.node id).key = none)
include isOpen

theorem commitAll_run :
    (g.UniqueKeys → commitAll g
      = .ok ((g.keyed g.ids).foldl (fun keys e => Fields.insert e.1 e.2 keys) [])
        (g.ids.foldl closed g)) ∧
    (¬ g.UniqueKeys → ∃ e h, commitAll g = .error e h) := by
  have run := @foldlM_commitNext_run g [] g.ids g.nodup_ids
    fun id hid => ⟨mem_ids.mp hid, isOpen id⟩
  rwa [fresh_iff] at run

/-- Committing succeeds where keys are different. -/
theorem exists_commitAll (unique : g.UniqueKeys) : ∃ keys h, commitAll g = .ok keys h :=
  ⟨_, _, (commitAll_run isOpen).1 unique⟩

theorem uniqueKeys_of_commitAll (run : commitAll g = .ok keys h) : g.UniqueKeys := by
  by_contra stale
  obtain ⟨e, h', failed⟩ := (commitAll_run isOpen).2 stale
  rw [failed] at run
  cases run

/-- A key stands for the declaration that has it. -/
theorem find?_commitAll (run : commitAll g = .ok keys h) {key : String} {i : Id} :
    Fields.find? key keys = some i ↔ i < g.size ∧ g.IsKeyed i ∧ g.keyOf i = key := by
  have unique := uniqueKeys_of_commitAll isOpen run
  rw [(commitAll_run isOpen).1 unique] at run
  cases run
  rw [find?_entries (fresh_iff.mpr unique), mem_keyed]
  simp [Fields.find?]

theorem key_commitAll (run : commitAll g = .ok keys h) {i : Id} (hi : i < g.size) :
    (h.node i).key = some (g.keyOf i) := by
  rw [(commitAll_run isOpen).1 (uniqueKeys_of_commitAll isOpen run)] at run
  cases run
  exact (node_foldl_closed g.nodup_ids fun _ => mem_ids.mp).2.2 i (mem_ids.mpr hi)

end CommitAll

/-! ## Mirrored graphs -/

theorem UniqueKeys.congr (s : SameFrame g h) (unique : g.UniqueKeys) : h.UniqueKeys := by
  intro i j hi hj keyed keyed' same
  rw [← s.size] at hi hj
  rw [← isKeyed_congr s] at keyed keyed'
  rw [← keyOf_congr s, ← keyOf_congr s] at same
  exact unique i j hi hj keyed keyed' same

/-- Siblings of one name have one key. -/
theorem keyOf_sibling (tree : g.Tree) (older : g.Older) {i c c' : Id}
    (hc : c ∈ (g.node i).children) (hc' : c' ∈ (g.node i).children) (keyed : g.IsKeyed c)
    (keyed' : g.IsKeyed c') (same : (g.node c').name = (g.node c).name) :
    g.keyOf c' = g.keyOf c := by
  have lineage : ∀ {c}, c ∈ (g.node i).children → g.lineage c = c :: g.lineage i :=
    fun hc => lineage_of_parent older (tree.parent_child hc)
  have segment : ∀ {c}, g.IsKeyed c → g.segment? c = (g.node c).name :=
    fun keyed => if_neg (not_or.mp keyed).2
  rw [keyOf, keyOf, lineage hc, lineage hc', List.reverse_cons, List.reverse_cons,
    List.filterMap_append, List.filterMap_append, List.filterMap_cons, List.filterMap_cons,
    segment keyed, segment keyed', same]

/-- Where named declarations have different keys, siblings have different names. -/
theorem UniqueKeys.distinct (unique : g.UniqueKeys) (tree : g.Tree) (older : g.Older) :
    g.Distinct := by
  intro i c c' hc hc' named same
  have keyed : ∀ {c}, (g.node c).name.isSome → g.IsKeyed c := by
    rintro c named (hn | root)
    · rw [Option.isNone_iff_eq_none.mp hn] at named
      cases named
    · have := (tree.shaped c).named
      rw [root] at this
      exact Bool.noConfusion (named.symm.trans this)
  exact unique c c' (tree.child_lt hc) (tree.child_lt hc') (keyed named)
    (keyed (same ▸ named)) (keyOf_sibling tree older hc hc' (keyed named)
      (keyed (same ▸ named)) same).symm

namespace Mirror

variable {σ : Equiv.Perm Nat} (m : Mirror σ g h)
include m

theorem isKeyed (i : Id) : h.IsKeyed (σ i) ↔ g.IsKeyed i := by
  rw [IsKeyed, IsKeyed, m.name, m.production]

variable (older : g.Older) (older' : h.Older)
include older older'

theorem uniqueKeys (unique : g.UniqueKeys) : h.UniqueKeys := by
  intro i' j' hi hj keyed keyed' same
  obtain ⟨i, rfl⟩ := σ.surjective i'
  obtain ⟨j, rfl⟩ := σ.surjective j'
  rw [m.lt_iff] at hi hj
  rw [m.isKeyed] at keyed keyed'
  rw [m.keyOf older older', m.keyOf older older'] at same
  exact congrArg σ (unique i j hi hj keyed keyed' same)

/-- A key stands for the counterpart of what it stood for. -/
theorem find?_commitAll {g' h' : Graph} (isOpen : ∀ i, (g.node i).key = none)
    (isOpen' : ∀ i, (h.node i).key = none) (run : commitAll g = .ok keys g')
    (run' : commitAll h = .ok keys' h') (key : String) :
    Fields.find? key keys' = (Fields.find? key keys).map σ := by
  have counterpart : ∀ i, Fields.find? key keys' = some (σ i) ↔ Fields.find? key keys = some i := by
    intro i
    rw [Graph.find?_commitAll isOpen run, Graph.find?_commitAll isOpen' run', m.lt_iff, m.isKeyed,
      m.keyOf older older']
  cases found : Fields.find? key keys with
  | some i => exact (counterpart i).mpr found
  | none =>
      cases found' : Fields.find? key keys' with
      | none => rfl
      | some j =>
          obtain ⟨i, rfl⟩ := σ.surjective j
          have := (counterpart i).mp found'
          rw [found] at this
          cases this

end Mirror

end Graph

end TypeSchema
