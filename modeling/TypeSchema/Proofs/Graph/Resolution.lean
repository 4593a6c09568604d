/-
# Resolution — looking up all references in one pass

A reference is looked up by names, parents and children alone, and none of
them is changed by the references that were looked up before.  So the loop
over all declarations gives each of them the reference that it would get in
the graph it started from (`resolveReference_ok`), and the only thing that
can stop it is a reference that names nothing, where that is an error
(`resolveReference_dangling`).
-/
import Mathlib.Data.Nat.Find
import TypeSchema.Graph.References
import TypeSchema.Proofs.Graph.Built
import TypeSchema.Proofs.Graph.Walk

namespace TypeSchema

open Declaration (Id Production Reference Target)

namespace Graph

/-! ## Looking up reads the frame only -/

section Congruence

variable {g h : Graph} (s : SameFrame g h)
include s

theorem lineage_congr (id : Id) : g.lineage id = h.lineage id := by
  induction id using Nat.strongRecOn with
  | ind id ih =>
      rw [lineage, lineage, s.parent]
      cases hp : (h.node id).parent with
      | none => rfl
      | some p =>
          by_cases hlt : p < id
          · simp only [if_pos hlt, ih p hlt]
          · simp only [if_neg hlt]

theorem childNamed_congr (parent : Id) (name : String) (self : Option Id) :
    g.childNamed parent name self = h.childNamed parent name self := by
  simp only [childNamed, s.children, s.name]

theorem descend_congr (names : List String) :
    ∀ (scope : Id) (self : Option Id), g.descend scope self names = h.descend scope self names := by
  induction names with
  | nil => exact fun _ _ => rfl
  | cons name rest ih =>
      intro scope self
      cases rest with
      | nil => exact childNamed_congr s scope name self
      | cons _ _ =>
          simp only [descend, childNamed_congr s scope name self]
          exact congrArg _ (funext fun child => ih child none)

theorem lookup_congr (included : List Id) (id : Id) (text : String) :
    g.lookup included id text = h.lookup included id text := by
  have hd : (g.descend · (some id) (segments text)) = (h.descend · (some id) (segments text)) :=
    funext fun scope => descend_congr s _ scope _
  simp only [lookup, scopes, lineage_congr s id, hd]

end Congruence

/-! ## Looking up finds named declarations -/

theorem descend_mem {g : Graph} (names : List String) :
    ∀ {scope : Id} {self : Option Id} {t : Id}, g.descend scope self names = some t →
      ∃ parent name, t ∈ (g.node parent).children ∧ (g.node t).name = some name := by
  have named : ∀ {parent : Id} {name : String} {self : Option Id} {t : Id},
      g.childNamed parent name self = some t →
        t ∈ (g.node parent).children ∧ (g.node t).name = some name := by
    intro parent name self t h
    have ht := List.find?_some h
    simp only [decide_eq_true_eq] at ht
    exact ⟨List.mem_of_find?_eq_some h, ht.2⟩
  induction names with
  | nil => intro scope self t h; cases h
  | cons name rest ih =>
      intro scope self t h
      cases rest with
      | nil => exact ⟨scope, name, named h⟩
      | cons _ _ =>
          obtain ⟨child, _, h⟩ := Option.bind_eq_some_iff.mp h
          exact ih h

theorem lookup_declaration {g : Graph} (tree : g.Tree) {included : List Id} {id t : Id}
    {text : String} (h : g.lookup included id text = some (.declaration t)) :
    t < g.size ∧ (g.node t).production.isNamed := by
  unfold lookup at h
  split at h
  · cases h
  · split at h
    · rename_i found hfound
      cases h
      obtain ⟨scope, _, hscope⟩ := List.exists_of_findSome?_eq_some hfound
      obtain ⟨parent, name, hchild, hname⟩ := descend_mem _ hscope
      refine ⟨tree.child_lt hchild, ?_⟩
      rw [← (tree.shaped t).named, hname]
      rfl
    · cases hk : Fundamental.ofKeyword? text <;> simp [hk] at h

/-! ## Giving a declaration its reference -/

/-- The graph in which `id` refers to `r`, and the declaration it refers to
takes note of it. -/
def refer (g : Graph) (id : Id) (r : Reference) : Graph :=
  g.mapNodes fun i d =>
    { d.withReference (if i = id then r else d.reference) with
      referencedBy := d.referencedBy ++ if r = .declaration i then [id] else [] }

section Refer

variable {g : Graph} {id : Id} {r : Reference}

theorem node_refer {i : Id} (hi : i < g.size) :
    (g.refer id r).node i =
      { (g.node i).withReference (if i = id then r else (g.node i).reference) with
        referencedBy := (g.node i).referencedBy ++ if r = .declaration i then [id] else [] } :=
  node_mapNodes hi

/-- A reference that stays as it is and leads to no declaration. -/
theorem refer_same (hr : (g.node id).reference = r) (alone : ∀ t, r ≠ .declaration t) :
    g.refer id r = g := by
  refine ext_node (size_mapNodes ..) fun i hi => ?_
  have hi : i < g.size := by rwa [show (g.refer id r).size = g.size from size_mapNodes ..] at hi
  rw [node_refer hi, if_neg (alone i), List.append_nil]
  by_cases hid : i = id
  · subst hid
    rw [if_pos rfl, ← hr]
    exact (g.node i).withReference_self
  · rw [if_neg hid]
    exact (g.node i).withReference_self

/-- Setting a reference that leads to no declaration. -/
theorem setReference_run (hid : id < g.size) (isOpen : (g.node id).key = none)
    (unsettled : (g.node id).reference.isSettled = false) (alone : ∀ t, r ≠ .declaration t) :
    update id (·.setReference r) g = .ok () (g.refer id r) := by
  refine (update_ok hid (Declaration.setReference_ok isOpen unsettled r)).trans ?_
  congr 1
  refine ext_node (by simp [refer]) fun i hi => ?_
  rw [size_put] at hi
  rw [node_refer hi, if_neg (alone i), List.append_nil]
  by_cases hii : i = id
  · subst hii
    rw [node_put_self hi, if_pos rfl]
    rfl
  · rw [node_put_ne hii, if_neg hii]
    exact (g.node i).withReference_self.symm

/-- Linking a declaration to another one, or to itself. -/
theorem link_run {target : Id} (hid : id < g.size) (htarget : target < g.size)
    (isOpen : ∀ i < g.size, (g.node i).key = none)
    (unsettled : (g.node id).reference.isSettled = false) :
    link id target g = .ok () (g.refer id (.declaration target)) := by
  let h := g.put id ((g.node id).withReference (.declaration target))
  have hsize : h.size = g.size := size_put ..
  have hkey : (h.node target).key = none :=
    (part_put (d := (g.node id).withReference (.declaration target)) (·.key) rfl target).trans
      (isOpen target htarget)
  have hset : update id (·.setReference (.declaration target)) g = .ok () h :=
    update_ok hid (Declaration.setReference_ok (isOpen id hid) unsettled _)
  refine (Steps.bind_ok hset).trans ?_
  refine (update_ok (f := (·.addReferrer id)) (hsize ▸ htarget)
    (Declaration.change_ok hkey _ _)).trans ?_
  congr 1
  refine ext_node (by simp [refer, hsize]) fun i hi => ?_
  rw [size_put, hsize] at hi
  rw [node_refer hi]
  have hnode : h.node i =
      (g.node i).withReference (if i = id then .declaration target else (g.node i).reference) := by
    by_cases hii : i = id
    · subst hii
      rw [if_pos rfl]
      exact node_put_self hi
    · rw [if_neg hii, Declaration.withReference_self]
      exact node_put_ne hii
  by_cases hit : i = target
  · subst hit
    rw [node_put_self (hsize ▸ hi), hnode, if_pos rfl]
    rfl
  · have : Reference.declaration target ≠ .declaration i := by
      rintro ⟨⟩
      exact hit rfl
    rw [node_put_ne hit, hnode, if_neg this, List.append_nil]
    rfl

end Refer

/-! ## What a reference turns into -/

/-- What the reference of `id` is once it has been looked up. -/
def settledReference (g : Graph) (included : List Id) (id : Id) : Reference :=
  match (g.node id).reference with
  | .unresolved text =>
    match g.lookup included id text with
    | some (.declaration target) => .declaration target
    | some (.fundamental kind) => .fundamental kind
    | none => .placeholder text
  | r => r

/-- The reference of `id` is a text that names nothing. -/
def Dangles (g : Graph) (included : List Id) (id : Id) (text : String) : Prop :=
  (g.node id).reference = .unresolved text ∧ g.lookup included id text = none

/-- The graph in which the references of the first `n` declarations have been
looked up. -/
def lookedUpTo (g : Graph) (included : List Id) (n : Nat) : Graph :=
  g.mapNodes fun i d =>
    { d.withReference (if i < n then g.settledReference included i else d.reference) with
      referencedBy := d.referencedBy ++
        (List.range n).filter fun a => g.settledReference included a = .declaration i }

/-- The graph in which all references have been looked up. -/
def lookedUp (g : Graph) (included : List Id) : Graph := g.lookedUpTo included g.size

section LookedUp

variable {g : Graph} {included : List Id} {n : Nat}

theorem sameFrame_lookedUpTo (g : Graph) (included : List Id) (n : Nat) :
    SameFrame (g.lookedUpTo included n) g :=
  Agree.mapNodes fun _ _ => rfl

@[simp] theorem size_lookedUpTo : (g.lookedUpTo included n).size = g.size := size_mapNodes ..

theorem node_lookedUpTo {i : Id} (hi : i < g.size) :
    (g.lookedUpTo included n).node i =
      { (g.node i).withReference
          (if i < n then g.settledReference included i else (g.node i).reference) with
        referencedBy := (g.node i).referencedBy ++
          (List.range n).filter fun a => g.settledReference included a = .declaration i } :=
  node_mapNodes hi

theorem lookedUpTo_zero : g.lookedUpTo included 0 = g := by
  refine ext_node size_lookedUpTo fun i hi => ?_
  rw [node_lookedUpTo (by simpa using hi)]
  simp

/-- One more round gives one more declaration its reference. -/
theorem lookedUpTo_succ :
    g.lookedUpTo included (n + 1)
      = (g.lookedUpTo included n).refer n (g.settledReference included n) := by
  refine ext_node (by simp [refer]) fun i hi => ?_
  have hi : i < g.size := by simpa using hi
  rw [node_refer (by simpa using hi), node_lookedUpTo hi, node_lookedUpTo hi]
  have href : (if i < n + 1 then g.settledReference included i else (g.node i).reference)
      = if i = n then g.settledReference included n
        else if i < n then g.settledReference included i else (g.node i).reference := by
    by_cases hin : i = n
    · subst hin
      simp
    · have : i < n + 1 ↔ i < n := ⟨fun h => Nat.lt_of_le_of_ne (Nat.le_of_lt_succ h) hin,
        fun h => Nat.lt_succ_of_lt h⟩
      simp only [if_neg hin, this]
  have hback : (if g.settledReference included n = .declaration i then [n] else [])
      = [n].filter fun a => g.settledReference included a = .declaration i := by
    by_cases h : g.settledReference included n = .declaration i <;> simp [h]
  simp only [href, hback, List.range_succ, List.filter_append, List.append_assoc]
  rfl

end LookedUp

/-! ## The loop -/

section Loop

variable {g : Graph} {included : List Id} {strict : Bool} {n : Nat}

theorem lookup_lookedUpTo (text : String) :
    (g.lookedUpTo included n).lookup included n text = g.lookup included n text :=
  lookup_congr (sameFrame_lookedUpTo g included n) included n text

/-- A round comes upon the reference that it would find at the start. -/
theorem reference_lookedUpTo (hn : n < g.size) :
    ((g.lookedUpTo included n).node n).reference = (g.node n).reference := by
  rw [node_lookedUpTo hn]
  simp

theorem location_lookedUpTo (i : Id) :
    ((g.lookedUpTo included n).node i).location = (g.node i).location :=
  (sameFrame_lookedUpTo g included n).location i

theorem key_lookedUpTo (raw : g.Raw) (i : Id) : ((g.lookedUpTo included n).node i).key = none := by
  have same : ((g.lookedUpTo included n).node i).key = (g.node i).key :=
    part_mapNodes (·.key) (fun _ _ => by rfl) i
  exact same.trans (raw i).isOpen

/-- A round that finds what it looks up, or may leave a placeholder. -/
theorem resolveReference_ok (raw : g.Raw) (tree : g.Tree) (hn : n < g.size)
    (h : strict = false ∨ ∀ text, ¬ g.Dangles included n text) :
    resolveReference included strict n (g.lookedUpTo included n) =
      .ok () (g.lookedUpTo included (n + 1)) := by
  have hn' : n < (g.lookedUpTo included n).size := by simpa using hn
  have isOpen : ∀ i, ((g.lookedUpTo included n).node i).key = none := key_lookedUpTo raw
  have href : ((g.lookedUpTo included n).node n).reference = (g.node n).reference :=
    reference_lookedUpTo hn
  unfold resolveReference
  refine (Steps.bind_ok (Steps.get_run _)).trans ?_
  rw [lookedUpTo_succ]
  simp only [href, lookup_lookedUpTo]
  rcases (raw n).reference_cases with hraw | ⟨text, hraw⟩
  · have hr : g.settledReference included n = .none := by simp [settledReference, hraw]
    rw [hr, refer_same (href.trans hraw) (by simp), hraw]
    rfl
  · have unsettled : ((g.lookedUpTo included n).node n).reference.isSettled = false := by
      rw [href, hraw]
      rfl
    cases hl : g.lookup included n text with
    | none =>
        have hr : g.settledReference included n = .placeholder text := by
          simp [settledReference, hraw, hl]
        have hstrict : strict = false := h.resolve_right fun hd => hd text ⟨hraw, hl⟩
        simp only [hraw, hl, hstrict, hr]
        exact setReference_run (r := .placeholder text) hn' (isOpen n) unsettled (by simp)
    | some target =>
        cases target with
        | fundamental kind =>
            have hr : g.settledReference included n = .fundamental kind := by
              simp [settledReference, hraw, hl]
            simp only [hraw, hl, hr]
            exact setReference_run (r := .fundamental kind) hn' (isOpen n) unsettled (by simp)
        | declaration t =>
            have hr : g.settledReference included n = .declaration t := by
              simp [settledReference, hraw, hl]
            have ht : t < g.size := (lookup_declaration tree hl).1
            simp only [hraw, hl, hr]
            exact link_run hn' (by simpa using ht) (fun i _ => isOpen i) unsettled

/-- A round that names nothing where that is an error. -/
theorem resolveReference_dangling (hn : n < g.size) {text : String}
    (h : g.Dangles included n text) :
    resolveReference included true n (g.lookedUpTo included n) =
      .error (.unresolvedReference text (g.node n).location) (g.lookedUpTo included n) := by
  have href : ((g.lookedUpTo included n).node n).reference = (g.node n).reference :=
    reference_lookedUpTo hn
  unfold resolveReference
  refine (Steps.bind_ok (Steps.get_run _)).trans ?_
  simp only [href, h.1, lookup_lookedUpTo, h.2, location_lookedUpTo]
  rfl

/-- A pass in which no reference has to fail. -/
theorem forM_resolveReference (raw : g.Raw) (tree : g.Tree)
    (h : strict = false ∨ ∀ n < g.size, ∀ text, ¬ g.Dangles included n text) :
    g.ids.forM (resolveReference included strict) g = .ok () (g.lookedUp included) := by
  have pass := Steps.forM_range (f := resolveReference included strict) (n := g.size)
    (g.lookedUpTo included) fun k hk =>
      resolveReference_ok raw tree hk (h.imp_right fun h => h k hk)
  rwa [lookedUpTo_zero] at pass

/-- Where a reference that names nothing is an error, the first of them ends
the pass. -/
theorem forM_resolveReference_dangling (raw : g.Raw) (tree : g.Tree) {m : Nat} {text : String}
    (hm : m < g.size) (first : ∀ k < m, ∀ text, ¬ g.Dangles included k text)
    (h : g.Dangles included m text) :
    g.ids.forM (resolveReference included true) g =
      .error (.unresolvedReference text (g.node m).location) (g.lookedUpTo included m) := by
  have pass := Steps.forM_range_error (f := resolveReference included true) (n := g.size)
    (g.lookedUpTo included)
    (fun k hk => resolveReference_ok raw tree (Nat.lt_trans hk hm) (.inr (first k hk))) hm
    (resolveReference_dangling hm h)
  rwa [lookedUpTo_zero] at pass

/-- All of the resolution is the pass and the check that nothing goes in
circles. -/
theorem resolveReferences_eq (raw : g.Raw) (tree : g.Tree)
    (h : strict = false ∨ ∀ n < g.size, ∀ text, ¬ g.Dangles included n text) :
    resolveReferences included strict g =
      (MonadExcept.ofExcept (g.ids.forM (g.lookedUp included).checkNoCycle) : Change Unit)
        (g.lookedUp included) := by
  refine (Steps.bind_ok (Steps.get_run g)).trans ?_
  refine (Steps.bind_ok (forM_resolveReference raw tree h)).trans ?_
  exact Steps.bind_ok (Steps.get_run _)

theorem resolveReferences_dangling (raw : g.Raw) (tree : g.Tree) {m : Nat} {text : String}
    (hm : m < g.size) (first : ∀ k < m, ∀ text, ¬ g.Dangles included k text)
    (h : g.Dangles included m text) :
    resolveReferences included true g =
      .error (.unresolvedReference text (g.node m).location) (g.lookedUpTo included m) := by
  refine (Steps.bind_ok (Steps.get_run g)).trans ?_
  exact Steps.bind_error (forM_resolveReference_dangling raw tree hm first h)

/-- If some reference names nothing, one of them is the first. -/
theorem exists_first_dangling (h : ∃ n < g.size, ∃ text, g.Dangles included n text) :
    ∃ m < g.size, ∃ text, g.Dangles included m text ∧
      ∀ k < m, ∀ text, ¬ g.Dangles included k text := by
  classical
  have hex : ∃ n, n < g.size ∧ ∃ text, g.Dangles included n text := by
    obtain ⟨n, hn, h⟩ := h
    exact ⟨n, hn, h⟩
  obtain ⟨hm, text, hdangles⟩ := Nat.find_spec hex
  refine ⟨Nat.find hex, hm, text, hdangles, fun k hk text hd => ?_⟩
  exact Nat.find_min hex hk ⟨Nat.lt_trans hk hm, text, hd⟩

end Loop

/-! ## Linked graphs -/

end Graph

/-- What a production refers to once everything is looked up. -/
def Declaration.Production.AllowsSettled : Production → Reference → Prop
  | .root, r => r = .none
  | .extension, r => r = .none
  | .object, r => r = .none ∨ r.isSettled
  | .leaf, r => r.isSettled
  | .config, r => r.isSettled

namespace Graph

/-- All references are looked up: they lead to named declarations, these know
who refers to them, and no chain of references comes back. -/
structure Linked (g : Graph) : Prop where
  tree : g.Tree
  reference : ∀ id, (g.node id).production.AllowsSettled (g.node id).reference
  target : ∀ {id target}, (g.node id).reference = .declaration target →
    target < g.size ∧ (g.node target).production.isNamed
  mem_referencedBy : ∀ {a b}, b < g.size →
    (a ∈ (g.node b).referencedBy ↔ (g.node a).reference = .declaration b)
  acyclic : g.Acyclic

/-- Being linked concerns frames, references and back-links only. -/
theorem Linked.congr {g h : Graph} (s : SameLinks g h) (linked : Linked g) : Linked h where
  tree := linked.tree.congr s.frame
  reference := fun id => by
    rw [← s.frame.production, ← s.reference]
    exact linked.reference id
  target := fun {id target} ht => by
    rw [← s.reference] at ht
    rw [← s.size, ← s.frame.production]
    exact linked.target ht
  mem_referencedBy := fun {a b} hb => by
    rw [← s.reference, ← s.referencedBy]
    exact linked.mem_referencedBy (s.size ▸ hb)
  acyclic := linked.acyclic.congr s

section Linked

variable {g : Graph} {included : List Id} {strict : Bool}

theorem node_lookedUp {i : Id} (raw : g.Raw) (hi : i < g.size) :
    (g.lookedUp included).node i =
      { (g.node i).withReference (g.settledReference included i) with
        referencedBy :=
          g.ids.filter fun a => g.settledReference included a = .declaration i } := by
  rw [lookedUp, node_lookedUpTo hi, if_pos hi, (raw i).unlinked]
  rfl

theorem reference_lookedUp {i : Id} (raw : g.Raw) (hi : i < g.size) :
    ((g.lookedUp included).node i).reference = g.settledReference included i := by
  rw [node_lookedUp raw hi]
  rfl

theorem settledReference_allowed (raw : g.Raw) (i : Id) :
    (g.node i).production.AllowsSettled (g.settledReference included i) := by
  have settled : ∀ text, (g.node i).reference = .unresolved text →
      (g.settledReference included i).isSettled := by
    intro text htext
    simp only [settledReference, htext]
    cases g.lookup included i text with
    | none => rfl
    | some target => cases target <;> rfl
  have blank : (g.node i).reference = .none → g.settledReference included i = .none := by
    intro h
    simp only [settledReference, h]
  have allowed := (raw i).reference
  cases hp : (g.node i).production with
  | root => rw [hp] at allowed; exact blank allowed
  | extension => rw [hp] at allowed; exact blank allowed
  | object =>
      rw [hp] at allowed
      rcases allowed with h | ⟨text, h⟩
      · exact .inl (blank h)
      · exact .inr (settled text h)
  | leaf =>
      rw [hp] at allowed
      obtain ⟨text, h⟩ := allowed
      exact settled text h
  | config =>
      rw [hp] at allowed
      obtain ⟨text, h⟩ := allowed
      exact settled text h

/-- A declaration that a settled reference leads to was found by its name. -/
theorem settledReference_declaration (raw : g.Raw) (tree : g.Tree) {i target : Id}
    (h : g.settledReference included i = .declaration target) :
    target < g.size ∧ (g.node target).production.isNamed := by
  unfold settledReference at h
  rcases (raw i).reference_cases with hr | ⟨text, hr⟩
  · rw [hr] at h
    cases h
  · rw [hr] at h
    cases hl : g.lookup included i text with
    | none => simp [hl] at h
    | some found =>
        cases found with
        | fundamental kind => simp [hl] at h
        | declaration t =>
            simp only [hl] at h
            cases h
            exact lookup_declaration tree hl

theorem sameFrame_lookedUp (g : Graph) (included : List Id) :
    SameFrame (g.lookedUp included) g := sameFrame_lookedUpTo g included g.size

theorem linked_lookedUp (raw : g.Raw) (tree : g.Tree) (acyclic : (g.lookedUp included).Acyclic) :
    (g.lookedUp included).Linked := by
  have hsize : (g.lookedUp included).size = g.size := (sameFrame_lookedUp g included).size
  have hprod := (sameFrame_lookedUp g included).production
  have hdefault : ∀ {i}, ¬ i < g.size → ((g.lookedUp included).node i).reference = .none := by
    intro i hi
    rw [node_of_size_le (hsize.symm ▸ Nat.not_lt.mp hi)]
    rfl
  refine ⟨tree.congr (sameFrame_lookedUp g included).symm, ?_, ?_, ?_, acyclic⟩
  · intro i
    rw [hprod]
    by_cases hi : i < g.size
    · rw [reference_lookedUp raw hi]
      exact settledReference_allowed raw i
    · rw [hdefault hi, node_of_size_le (Nat.not_lt.mp hi)]
      rfl
  · intro i target h
    by_cases hi : i < g.size
    · rw [reference_lookedUp raw hi] at h
      rw [hsize, hprod]
      exact settledReference_declaration raw tree h
    · rw [hdefault hi] at h
      cases h
  · intro a b hb
    rw [hsize] at hb
    rw [node_lookedUp raw hb]
    by_cases ha : a < g.size
    · simp [reference_lookedUp raw ha, ha]
    · simp [hdefault ha, ha]

/-- A resolution that succeeds gives every declaration the reference that was
looked up, and leaves a linked graph. -/
theorem resolveReferences_ok (raw : g.Raw) (tree : g.Tree) {g' : Graph}
    (h : resolveReferences included strict g = .ok () g') :
    g' = g.lookedUp included ∧ g'.Linked ∧
      (strict = true → ∀ n < g.size, ∀ text, ¬ g.Dangles included n text) := by
  have complete : strict = true → ∀ n < g.size, ∀ text, ¬ g.Dangles included n text := by
    rintro rfl n hn text hd
    obtain ⟨m, hm, text', hdm, first⟩ := exists_first_dangling ⟨n, hn, text, hd⟩
    rw [resolveReferences_dangling raw tree hm first hdm] at h
    cases h
  have hstrict : strict = false ∨ ∀ n < g.size, ∀ text, ¬ g.Dangles included n text := by
    cases strict with
    | false => exact .inl rfl
    | true => exact .inr (complete rfl)
  rw [resolveReferences_eq raw tree hstrict] at h
  obtain ⟨checked, rfl⟩ := Steps.ofExcept_eq_ok.mp h
  refine ⟨rfl, linked_lookedUp raw tree fun id hid => ?_, complete⟩
  rw [(sameFrame_lookedUp g included).size] at hid
  have := Steps.forM_checks.mp checked id (mem_ids.mpr hid)
  unfold checkNoCycle at this
  split at this
  · cases this
  · rename_i hc
    simpa using hc

end Linked

end TypeSchema.Graph
