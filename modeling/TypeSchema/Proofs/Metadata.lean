/-
# Metadata — tags that are laid over others

Tags come together by attaching one after the other and by laying some over
others (`Assembled`).  A tag is attached behind those that are there, or refused
because it is there (`insert_cases`), and what lies on top hides what has the same
tag below it (`find?_overlay`); so whatever has come together, each tag is there
once.

Laying over is associative, with no tags at all as its neutral element, and
tags over themselves are what they were.  This is meant of the tags in their
order: those below come first, as far as they are not hidden.  So along a
derivation it does not matter where one begins, and the item of a tag is the one
that the nearest declaration gave, at the place where it was given
(`Derivation.find?_metadata`).
-/
import Mathlib.Data.List.Induction
import Mathlib.Data.List.Nodup
import TypeSchema.Graph.Derivation

namespace TypeSchema

open Declaration (Id)

namespace Metadata

/-- Tags that come together by attaching one after the other and by laying some over others. -/
inductive Assembled : Metadata → Prop
  | empty : Assembled .empty
  | insert {m n : Metadata} {item : Item} :
      Assembled m → m.insert item = .ok n → Assembled n
  | overlay {top base : Metadata} :
      Assembled top → Assembled base → Assembled (top.overlay base)

theorem ext_items {m n : Metadata} (h : m.items = n.items) : m = n := by
  cases m
  cases n
  cases h
  rfl

/-! ## Attaching a tag -/

/-- A tag comes behind those that are there, or it is there and stays where it was given first. -/
theorem insert_cases (m : Metadata) (item : Item) :
    (m.find? item.tag = none ∧ ∃ n, m.insert item = .ok n ∧ n.items = m.items ++ [item]) ∨
      ∃ first, m.find? item.tag = some first ∧
        m.insert item = .error (.duplicateMetadata item.tag first.place item.place) := by
  unfold insert
  split
  · rename_i first found
    exact .inr ⟨first, found, rfl⟩
  · rename_i fresh
    exact .inl ⟨fresh, _, rfl, rfl⟩

theorem exists_insert {m : Metadata} {item : Item} (h : m.find? item.tag = none) :
    ∃ n, m.insert item = .ok n ∧ n.items = m.items ++ [item] := by
  rcases m.insert_cases item with ⟨_, done⟩ | ⟨first, found, _⟩
  · exact done
  · rw [h] at found
    cases found

theorem exists_insert_error {m : Metadata} {item : Item} (h : m.find? item.tag ≠ none) :
    ∃ e, m.insert item = .error e := by
  rcases m.insert_cases item with ⟨fresh, _⟩ | ⟨first, _, refused⟩
  · exact absurd fresh h
  · exact ⟨_, refused⟩

/-- All tags that there can be come together by attaching them in their order. -/
theorem assembled (m : Metadata) : Assembled m := by
  obtain ⟨items, nodup⟩ := m
  induction items using List.reverseRecOn with
  | nil => exact .empty
  | append_singleton items item ih =>
      obtain ⟨front, -, apart⟩ := List.nodup_append.mp (List.map_append ▸ nodup)
      let m : Metadata := ⟨items, front⟩
      have fresh : m.find? item.tag = none :=
        find?_eq_none_iff.mpr fun given => apart _ given _ List.mem_cons_self rfl
      obtain ⟨n, run, behind⟩ := exists_insert fresh
      have same : n = ⟨items ++ [item], nodup⟩ := ext_items behind
      exact .insert (ih front) (same ▸ run)

/-- Each tag is there once at most. -/
theorem countP_tag_le_one (m : Metadata) (tag : String) : m.items.countP (·.tag = tag) ≤ 1 := by
  have once := List.nodup_iff_count_le_one.mp m.nodup tag
  rwa [List.count, List.countP_map] at once

/-- So an item is the one that is found for its tag. -/
theorem find?_tag_of_mem {m : Metadata} {item : Item} (h : item ∈ m.items) :
    m.find? item.tag = some item := by
  cases found : m.find? item.tag with
  | none => exact absurd (List.mem_map_of_mem h) (find?_eq_none_iff.mp found)
  | some other =>
      have same : other.tag = item.tag := by simpa using List.find?_some found
      rw [List.inj_on_of_nodup_map m.nodup (List.mem_of_find?_eq_some found) h same]

/-! ## Laying tags over others -/

/-- A tag on top hides the same one below. -/
theorem find?_overlay (top m : Metadata) (tag : String) :
    (top.overlay m).find? tag = (top.find? tag).or (m.find? tag) := by
  simp only [find?, overlay, List.find?_append, List.find?_filter]
  cases h : top.items.find? (·.tag = tag) with
  | none =>
      rw [Option.or_none, Option.none_or]
      refine congrArg (List.find? · m.items) (funext fun item => ?_)
      by_cases hi : item.tag = tag
      · simp [hi, h]
      · simp [hi]
  | some item =>
      rw [Option.some_or]
      have hidden : m.items.find? (fun other =>
          (top.items.find? (·.tag = other.tag)).isNone && other.tag = tag) = none := by
        rw [List.find?_eq_none]
        intro other _ same
        simp only [Bool.and_eq_true, decide_eq_true_eq] at same
        rw [same.2, h] at same
        cases same.1
      simp only [Bool.decide_and, Bool.decide_eq_true]
      rw [hidden, Option.none_or]

theorem value?_overlay (top m : Metadata) (tag : String) :
    (top.overlay m).value? tag = (top.value? tag).or (m.value? tag) := by
  rw [value?, find?_overlay, Option.map_or]
  rfl

theorem empty_overlay (m : Metadata) : empty.overlay m = m := by
  refine ext_items ?_
  simp [overlay, empty, find?]

theorem overlay_empty (m : Metadata) : m.overlay empty = m := ext_items (List.nil_append _)

theorem overlay_self (m : Metadata) : m.overlay m = m := by
  have hidden : m.items.filter (fun item => (m.find? item.tag).isNone) = [] := by
    rw [List.filter_eq_nil_iff]
    intro item there
    rw [find?_tag_of_mem there]
    exact Bool.false_ne_true
  exact ext_items ((congrArg (· ++ m.items) hidden).trans (List.nil_append _))

/-- What is left of the tags at the bottom is what neither layer above hides. -/
theorem overlay_assoc (top middle base : Metadata) :
    (top.overlay middle).overlay base = top.overlay (middle.overlay base) := by
  have hidden : ∀ item : Item, ((top.overlay middle).find? item.tag).isNone
      = ((top.find? item.tag).isNone && (middle.find? item.tag).isNone) := by
    intro item
    rw [find?_overlay]
    cases top.find? item.tag <;> rfl
  refine ext_items ?_
  calc ((top.overlay middle).overlay base).items
      = base.items.filter (fun item =>
            (top.find? item.tag).isNone && (middle.find? item.tag).isNone)
          ++ (middle.items.filter (fun item => (top.find? item.tag).isNone) ++ top.items) := by
        simp only [overlay, ← hidden]
    _ = (top.overlay (middle.overlay base)).items := by
        simp only [overlay, List.filter_append, List.filter_filter, List.append_assoc]

/-- The tags below come first, those on top behind them, and nothing else comes in. -/
theorem sublist_overlay (top base : Metadata) :
    (top.overlay base).items.Sublist (base.items ++ top.items) :=
  List.Sublist.append List.filter_sublist (List.Sublist.refl _)

end Metadata

/-! ## Along a derivation -/

namespace Graph.Derivation

/-- The item of a tag is the one that the nearest declaration gave. -/
theorem find?_metadata (g : Graph) (r : Derivation) (tag : String) :
    (r.metadata g).find? tag = r.chain.findSome? fun id => (g.node id).metadata.find? tag := by
  unfold Derivation.metadata
  induction r.chain with
  | nil => rfl
  | cons id farther ih =>
      rw [List.foldr_cons, Metadata.find?_overlay, ih, List.findSome?_cons]
      cases (g.node id).metadata.find? tag <;> rfl

/-- Of a tag that several declarations on the way carry, the nearest counts. -/
theorem value?_metadata (g : Graph) (r : Derivation) (tag : String) :
    (r.metadata g).value? tag = r.chain.findSome? fun id => (g.node id).metadata.value? tag := by
  rw [Metadata.value?, find?_metadata, List.map_findSome?]
  rfl

/-- The tags of farther declarations come first, those of each one in their order. -/
theorem sublist_metadata (g : Graph) (r : Derivation) :
    (r.metadata g).items.Sublist
      (r.chain.reverse.flatMap fun id => (g.node id).metadata.items) := by
  unfold Derivation.metadata
  induction r.chain with
  | nil => exact List.Sublist.refl _
  | cons id farther ih =>
      rw [List.foldr_cons, List.reverse_cons, List.flatMap_append, List.flatMap_singleton]
      exact (Metadata.sublist_overlay _ _).trans (ih.append (List.Sublist.refl _))

end Graph.Derivation

/-- Tags in their order, each of which is there once, are a monoid under laying
over: it is associative, no tags at all change nothing on either side, and
neither do tags that are laid over themselves.  Of a tag the value on top
counts; so along any chain of declarations the item of a tag is that of the
nearest declaration that carries it, with the place where that one gave it. -/
theorem Metadata.overlay_laws :
    (∀ m : Metadata, m.Assembled ∧ ∀ tag, m.items.countP (·.tag = tag) ≤ 1) ∧
    (∀ top middle base : Metadata,
      (top.overlay middle).overlay base = top.overlay (middle.overlay base)) ∧
    (∀ m : Metadata, empty.overlay m = m ∧ m.overlay empty = m ∧ m.overlay m = m) ∧
    (∀ (top base : Metadata) (tag : String),
      (top.overlay base).value? tag = (top.value? tag).or (base.value? tag)) ∧
    ∀ (g : Graph) (r : Graph.Derivation),
      (∀ (tag : String) (item : Item), (r.metadata g).find? tag = some item ↔
        ∃ nearer id farther, r.chain = nearer ++ id :: farther ∧
          (g.node id).metadata.find? tag = some item ∧
          ∀ n ∈ nearer, (g.node n).metadata.find? tag = none) ∧
      (r.metadata g).items.Sublist
        (r.chain.reverse.flatMap fun id => (g.node id).metadata.items) := by
  refine ⟨fun m => ⟨m.assembled, m.countP_tag_le_one⟩, overlay_assoc,
    fun m => ⟨m.empty_overlay, m.overlay_empty, m.overlay_self⟩, value?_overlay, fun g r => ?_⟩
  refine ⟨fun tag item => ?_, Graph.Derivation.sublist_metadata g r⟩
  rw [Graph.Derivation.find?_metadata, List.findSome?_eq_some_iff]

end TypeSchema
