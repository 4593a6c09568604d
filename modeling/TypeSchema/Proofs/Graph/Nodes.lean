/-
# Nodes — what single changes do to a graph

A graph is read through `node` and `size` only: two graphs of one size whose
nodes agree are equal.  `put` replaces one declaration and `mapNodes` all of
them; every change of `Graph` is one of the two, or fails, or adds a
declaration at the end.
-/
import TypeSchema.Proofs.Steps

namespace TypeSchema

open Declaration (Id Reference)

namespace Graph

/-! ## Reading -/

@[simp] theorem mem_ids {g : Graph} {id : Id} : id ∈ g.ids ↔ id < g.size := List.mem_range

theorem nodup_ids (g : Graph) : g.ids.Nodup := List.nodup_range

theorem node_eq_getElem {g : Graph} {id : Id} (h : id < g.size) :
    g.node id = getElem g.nodes id h :=
  dif_pos h

/-- Where no declaration is, the blank root is found. -/
theorem node_of_size_le {g : Graph} {id : Id} (h : g.size ≤ id) : g.node id = default :=
  dif_neg (Nat.not_lt.mpr h)

theorem ext_node {g h : Graph} (hs : g.size = h.size)
    (hn : ∀ id < g.size, g.node id = h.node id) : g = h := by
  obtain ⟨as⟩ := g
  obtain ⟨bs⟩ := h
  congr 1
  refine Array.ext hs fun i hi hi' => ?_
  have := hn i hi
  rwa [node_eq_getElem hi, node_eq_getElem hi'] at this

/-! ## Replacing declarations -/

/-- The graph with `d` in the place of `id`, if there is one. -/
def put (g : Graph) (id : Id) (d : Declaration) : Graph := ⟨g.nodes.setIfInBounds id d⟩

/-- The graph with `f` done to every declaration. -/
def mapNodes (f : Id → Declaration → Declaration) (g : Graph) : Graph := ⟨g.nodes.mapIdx f⟩

/-- The graph with one more declaration at its end. -/
def push (g : Graph) (d : Declaration) : Graph := ⟨g.nodes.push d⟩

@[simp] theorem size_put (g : Graph) (id : Id) (d : Declaration) : (g.put id d).size = g.size := by
  simp [put, size]

@[simp] theorem size_mapNodes (f : Id → Declaration → Declaration) (g : Graph) :
    (g.mapNodes f).size = g.size := by
  simp [mapNodes, size]

@[simp] theorem size_push (g : Graph) (d : Declaration) : (g.push d).size = g.size + 1 := by
  simp [push, size]

theorem node_put_self {g : Graph} {id : Id} {d : Declaration} (h : id < g.size) :
    (g.put id d).node id = d := by
  rw [node_eq_getElem (by simpa using h)]
  simp [put]

theorem node_put_ne {g : Graph} {id i : Id} {d : Declaration} (h : i ≠ id) :
    (g.put id d).node i = g.node i := by
  by_cases hi : i < g.size
  · rw [node_eq_getElem (by simpa using hi), node_eq_getElem hi]
    exact Array.getElem_setIfInBounds_ne hi h.symm
  · rw [node_of_size_le (by simpa using hi), node_of_size_le (by simpa using hi)]

theorem put_put (g : Graph) (id : Id) (d e : Declaration) : (g.put id d).put id e = g.put id e := by
  refine ext_node (by simp) fun i hi => ?_
  by_cases hid : i = id
  · subst hid
    have hi : i < g.size := by simpa using hi
    rw [node_put_self (by simpa using hi), node_put_self hi]
  · rw [node_put_ne hid, node_put_ne hid, node_put_ne hid]

theorem node_mapNodes {f : Id → Declaration → Declaration} {g : Graph} {id : Id}
    (h : id < g.size) : (g.mapNodes f).node id = f id (g.node id) := by
  rw [node_eq_getElem (by simpa using h), node_eq_getElem h]
  exact Array.getElem_mapIdx ..

theorem node_push_self (g : Graph) (d : Declaration) : (g.push d).node g.size = d := by
  rw [node_eq_getElem (by simp)]
  simp [push, size]

theorem node_push_ne {g : Graph} {i : Id} {d : Declaration} (h : i ≠ g.size) :
    (g.push d).node i = g.node i := by
  by_cases hi : i < g.size
  · rw [node_eq_getElem (by simpa using Nat.lt_succ_of_lt hi), node_eq_getElem hi]
    exact Array.getElem_push_lt hi
  · have : g.size + 1 ≤ i := Nat.lt_of_le_of_ne (Nat.not_lt.mp hi) (Ne.symm h)
    rw [node_of_size_le (by simpa using this), node_of_size_le (by simpa using hi)]

/-- A part of declarations that `d` has in common with the one it replaces is
read as before. -/
theorem part_put {γ : Sort*} {g : Graph} {id : Id} {d : Declaration} (part : Declaration → γ)
    (same : part d = part (g.node id)) (i : Id) : part ((g.put id d).node i) = part (g.node i) := by
  by_cases hi : i = id
  · subst hi
    by_cases h : i < g.size
    · rw [node_put_self h, same]
    · rw [node_of_size_le (by simpa using h), node_of_size_le (by simpa using h)]
  · rw [node_put_ne hi]

/-- A part of declarations that `f` leaves alone is read as before. -/
theorem part_mapNodes {γ : Sort*} {f : Id → Declaration → Declaration} {g : Graph}
    (part : Declaration → γ) (same : ∀ id d, part (f id d) = part d) (i : Id) :
    part ((g.mapNodes f).node i) = part (g.node i) := by
  by_cases h : i < g.size
  · rw [node_mapNodes h, same]
  · rw [node_of_size_le (by simpa using h), node_of_size_le (by simpa using h)]

/-! ## What stays

References and back-links come to a declaration once its source is built,
then a subtype, then a key.  The rest of it, its frame, stays from the start,
and its links stay once all references are looked up. -/

/-- Graphs of one size whose declarations have `part` in common. -/
structure Agree {γ : Sort*} (part : Declaration → γ) (g h : Graph) : Prop where
  size : g.size = h.size
  part : ∀ id, part (g.node id) = part (h.node id)

end Graph

namespace Declaration

/-- What nothing changes once references are looked up. -/
def links (d : Declaration) : Declaration :=
  { d with subtype := none, key := none, isNewType := false }

/-- What nothing changes once a source is built. -/
def frame (d : Declaration) : Declaration :=
  { d.links.withReference .none with referencedBy := [] }

end Declaration

namespace Graph

/-- The graphs differ in what is found out after building at most. -/
abbrev SameFrame : Graph → Graph → Prop := Agree Declaration.frame

/-- The graphs differ in what is found out after looking up at most. -/
abbrev SameLinks : Graph → Graph → Prop := Agree Declaration.links

namespace Agree

variable {γ δ : Sort*} {part : Declaration → γ} {g h k : Graph}

theorem refl (g : Graph) : Agree part g g := ⟨rfl, fun _ => rfl⟩

theorem symm (s : Agree part g h) : Agree part h g := ⟨s.size.symm, fun id => (s.part id).symm⟩

theorem trans (s : Agree part g h) (t : Agree part h k) : Agree part g k :=
  ⟨s.size.trans t.size, fun id => (s.part id).trans (t.part id)⟩

theorem ids (s : Agree part g h) : g.ids = h.ids := by rw [Graph.ids, s.size, Graph.ids]

/-- What can be read from a part is common to the graphs if the part is. -/
theorem map (s : Agree part g h) (read : γ → δ) (whole : Declaration → δ)
    (reads : ∀ d, read (part d) = whole d) : Agree whole g h :=
  ⟨s.size, fun id => by rw [← reads, s.part, reads]⟩

theorem put {id : Id} {d : Declaration} (same : part d = part (g.node id)) :
    Agree part (g.put id d) g :=
  ⟨size_put g id d, part_put part same⟩

theorem mapNodes {f : Id → Declaration → Declaration} (same : ∀ id d, part (f id d) = part d) :
    Agree part (g.mapNodes f) g :=
  ⟨size_mapNodes f g, part_mapNodes part same⟩

end Agree

theorem SameLinks.frame {g h : Graph} (s : SameLinks g h) : SameFrame g h :=
  s.map (fun d => { d.withReference .none with referencedBy := [] }) _ fun _ => rfl

namespace SameFrame

variable {g h : Graph} (s : SameFrame g h)
include s

theorem name (id : Id) : (g.node id).name = (h.node id).name :=
  (s.map (·.name) (·.name) fun _ => rfl).part id

theorem parent (id : Id) : (g.node id).parent = (h.node id).parent :=
  (s.map (·.parent) (·.parent) fun _ => rfl).part id

theorem children (id : Id) : (g.node id).children = (h.node id).children :=
  (s.map (·.children) (·.children) fun _ => rfl).part id

theorem role (id : Id) : (g.node id).role = (h.node id).role :=
  (s.map (·.role) (·.role) fun _ => rfl).part id

theorem production (id : Id) : (g.node id).production = (h.node id).production :=
  (s.map (·.production) (·.production) fun _ => rfl).part id

theorem isObject (id : Id) : (g.node id).isObject = (h.node id).isObject :=
  (s.map (·.isObject) (·.isObject) fun _ => rfl).part id

theorem metadata (id : Id) : (g.node id).metadata = (h.node id).metadata :=
  (s.map (·.metadata) (·.metadata) fun _ => rfl).part id

theorem arity (id : Id) : (g.node id).arity = (h.node id).arity :=
  (s.map (·.arity) (·.arity) fun _ => rfl).part id

theorem location (id : Id) : (g.node id).location = (h.node id).location :=
  (s.map (·.location) (·.location) fun _ => rfl).part id

theorem isExternal (id : Id) : (g.node id).isExternal = (h.node id).isExternal :=
  (s.map (·.isExternal) (·.isExternal) fun _ => rfl).part id

end SameFrame

namespace SameLinks

variable {g h : Graph} (s : SameLinks g h)
include s

theorem reference (id : Id) : (g.node id).reference = (h.node id).reference :=
  (s.map (·.reference) (·.reference) fun _ => rfl).part id

theorem referencedBy (id : Id) : (g.node id).referencedBy = (h.node id).referencedBy :=
  (s.map (·.referencedBy) (·.referencedBy) fun _ => rfl).part id

end SameLinks

/-! ## Changes -/

theorem update_ok {g : Graph} {id : Id} {f : Declaration → Except SchemaError Declaration}
    {d : Declaration} (hid : id < g.size) (h : f (g.node id) = .ok d) :
    update id f g = .ok () (g.put id d) := by
  have found : g.nodes[id]? = some (g.node id) := by
    rw [node_eq_getElem hid]
    exact Array.getElem?_eq_getElem hid
  simp only [update, found, h]
  rfl

theorem update_error {g : Graph} {id : Id} {f : Declaration → Except SchemaError Declaration}
    {e : SchemaError} (hid : id < g.size) (h : f (g.node id) = .error e) :
    update id f g = .error e g := by
  have found : g.nodes[id]? = some (g.node id) := by
    rw [node_eq_getElem hid]
    exact Array.getElem?_eq_getElem hid
  simp only [update, found, h]

/-- Nothing is changed where no declaration is. -/
theorem update_missing {g : Graph} {id : Id} {f : Declaration → Except SchemaError Declaration}
    (hid : g.size ≤ id) : update id f g = .ok () g := by
  have missing : g.nodes[id]? = none := Array.getElem?_eq_none hid
  simp only [update, missing]

theorem update_eq_ok {g h : Graph} {id : Id} {f : Declaration → Except SchemaError Declaration}
    (run : update id f g = .ok () h) : h = g ∨ ∃ d, f (g.node id) = .ok d ∧ h = g.put id d := by
  by_cases hid : id < g.size
  · cases hf : f (g.node id) with
    | error e => rw [update_error hid hf] at run; cases run
    | ok d => rw [update_ok hid hf] at run; cases run; exact .inr ⟨d, rfl, rfl⟩
  · rw [update_missing (Nat.not_lt.mp hid)] at run
    cases run
    exact .inl rfl

end Graph

/-! ## Open declarations -/

namespace Declaration

theorem isCommitted_eq_false {d : Declaration} (h : d.key = none) : d.isCommitted = false := by
  simp [isCommitted, h]

theorem change_ok {d : Declaration} (h : d.key = none) (field : Field) (changed : Declaration) :
    d.change field changed = .ok changed := by
  simp [change, isCommitted_eq_false h]

theorem change_eq_ok {d changed d' : Declaration} {field : Field}
    (h : d.change field changed = .ok d') : d.key = none ∧ d' = changed := by
  unfold change at h
  split at h
  · cases h
  · rename_i committed
    refine ⟨by simpa [isCommitted] using committed, ?_⟩
    cases h
    rfl

theorem setReference_ok {d : Declaration} (h : d.key = none) (hr : d.reference.isSettled = false)
    (r : Reference) : d.setReference r = .ok (d.withReference r) := by
  simp only [setReference, hr, Bool.false_eq_true, if_false]
  exact change_ok h _ _

end Declaration

end TypeSchema
