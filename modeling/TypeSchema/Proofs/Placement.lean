/-
# Placement — declarations, tags and errors without their places

A place tells where something stands in the text of a source.  Nothing is
decided by places: they are passed on until an error is blamed on one.
`unplaced` takes them out of tags, declarations and errors; `SameOutcome`
compares two results up to the places of their errors.
-/
import Mathlib.Data.List.Basic
import TypeSchema.Declaration
import TypeSchema.Proofs.Metadata
import TypeSchema.Proofs.Steps

namespace TypeSchema

/-! ## Tags -/

namespace Metadata

/-- The tag as if it had been given by a call. -/
def Item.unplaced (item : Item) : Item := { item with place := .api }

/-- The tags as if they had been given by calls. -/
def unplaced (m : Metadata) : Metadata where
  items := m.items.map Item.unplaced
  nodup := by
    rw [List.map_map]
    exact m.nodup

theorem find?_unplaced (m : Metadata) (tag : String) :
    m.unplaced.find? tag = (m.find? tag).map Item.unplaced :=
  List.find?_map ..

theorem value?_unplaced (m : Metadata) (tag : String) : m.unplaced.value? tag = m.value? tag := by
  rw [value?, value?, find?_unplaced, Option.map_map]
  rfl

theorem onlyDescribes_unplaced (m : Metadata) :
    m.unplaced.onlyDescribes = m.onlyDescribes :=
  List.all_map ..

theorem overlay_unplaced (top base : Metadata) :
    (top.overlay base).unplaced = top.unplaced.overlay base.unplaced := by
  refine ext_items ?_
  have absent : ((fun item : Item => (top.unplaced.find? item.tag).isNone) ∘ Item.unplaced)
      = fun item : Item => (top.find? item.tag).isNone := by
    funext item
    show (top.unplaced.find? item.tag).isNone = _
    rw [find?_unplaced, Option.isNone_map]
  simp only [overlay, unplaced, List.map_append, List.filter_map]
  exact congrArg (fun p => (base.items.filter p).map Item.unplaced ++ top.items.map Item.unplaced)
    absent.symm

/-- Whether a tag can be attached does not depend on places. -/
theorem insert_unplaced (m : Metadata) (item : Item) :
    (m.unplaced.insert item.unplaced).toOption = (m.insert item).toOption.map unplaced := by
  have found : m.unplaced.find? item.unplaced.tag = none ↔ m.find? item.tag = none := by
    rw [find?_unplaced, Option.map_eq_none_iff]
    rfl
  by_cases h : m.find? item.tag = none
  · obtain ⟨n, run, items⟩ := exists_insert h
    obtain ⟨n', run', items'⟩ := exists_insert (found.mpr h)
    rw [run, run']
    refine congrArg some (ext_items (items'.trans ?_))
    show m.items.map Item.unplaced ++ [item.unplaced] = n.items.map Item.unplaced
    rw [items, List.map_append]
    rfl
  · obtain ⟨e, run⟩ := exists_insert_error h
    obtain ⟨e', run'⟩ := exists_insert_error (mt found.mp h)
    rw [run, run']
    rfl

end Metadata

/-! ## Declarations -/

/-- The declaration as if it had been made by calls. -/
def Declaration.unplaced (d : Declaration) : Declaration :=
  { d with location := .api, metadata := d.metadata.unplaced }

/-! ## Errors -/

namespace SchemaError

/-- The error as if it had been made by a call. -/
def unplaced : SchemaError → SchemaError
  | .invalidArity t f _ => .invalidArity t f .api
  | .duplicateMetadata t _ _ => .duplicateMetadata t .api .api
  | .metadataConstraint ts f _ => .metadataConstraint ts f .api
  | .unresolvedReference r _ => .unresolvedReference r .api
  | .circularReference k _ => .circularReference k .api
  | .unsupported c _ => .unsupported c .api
  | .duplicateKey k _ _ => .duplicateKey k .api .api
  | .immutable k f _ => .immutable k f .api
  | .stringFormat k t f _ => .stringFormat k t f .api
  | .invalidValue r => .invalidValue r
  | .fileNotFound p => .fileNotFound p
  | .readError p f => .readError p f
  | .invalidJson => .invalidJson

theorem unplaced_placedAt (e : SchemaError) (place : Location) :
    (e.placedAt place).unplaced = e.unplaced := by
  cases e <;> rfl

variable {α β ι : Type}

/-- Both succeed with one value, or fail with errors that differ in their places at most. -/
def SameOutcome (x y : Except SchemaError α) : Prop := x.mapError unplaced = y.mapError unplaced

namespace SameOutcome

variable {x y : Except SchemaError α}

theorem refl (x : Except SchemaError α) : SameOutcome x x := rfl

theorem error {e e' : SchemaError} (h : e.unplaced = e'.unplaced) :
    SameOutcome (.error e : Except SchemaError α) (.error e') := congrArg Except.error h

theorem symm (h : SameOutcome x y) : SameOutcome y x := Eq.symm h

theorem trans {z : Except SchemaError α} (h : SameOutcome x y) (h' : SameOutcome y z) :
    SameOutcome x z := Eq.trans h h'

/-- The two ways in which outcomes can be the same. -/
theorem cases (h : SameOutcome x y) :
    (∃ a, x = .ok a ∧ y = .ok a) ∨
      ∃ e e', x = .error e ∧ y = .error e' ∧ e.unplaced = e'.unplaced := by
  cases x with
  | ok a =>
      cases y with
      | ok b => exact .inl ⟨a, rfl, by rw [Except.ok.inj h]⟩
      | error e => cases h
  | error e =>
      cases y with
      | ok b => cases h
      | error e' => exact .inr ⟨e, e', rfl, rfl, Except.error.inj h⟩

theorem ok_iff (h : SameOutcome x y) {a : α} : x = .ok a ↔ y = .ok a := by
  rcases h.cases with ⟨b, rfl, rfl⟩ | ⟨e, e', rfl, rfl, _⟩
  · rfl
  · exact ⟨fun h => (by cases h), fun h => (by cases h)⟩

theorem bind {f f' : α → Except SchemaError β} (h : SameOutcome x y)
    (hf : ∀ a, SameOutcome (f a) (f' a)) : SameOutcome (x >>= f) (y >>= f') :=
  Steps.mapError_bind h hf

theorem map (f : α → β) (h : SameOutcome x y) : SameOutcome (x.map f) (y.map f) := by
  rcases h.cases with ⟨a, rfl, rfl⟩ | ⟨e, e', rfl, rfl, same⟩
  · rfl
  · exact error same

/-- On what place an error is blamed makes no difference. -/
theorem placedAt (x : Except SchemaError α) (place place' : Location) :
    SameOutcome (x.mapError (·.placedAt place)) (x.mapError (·.placedAt place')) := by
  cases x with
  | ok a => rfl
  | error e =>
      exact error ((unplaced_placedAt e place).trans (unplaced_placedAt e place').symm)

/-- Rounds of two loops with the same outcomes, one by one. -/
theorem foldlM {f f' : α → ι → Except SchemaError α} {g : ι → ι} {is : List ι}
    (h : ∀ i ∈ is, ∀ a, SameOutcome (f a i) (f' a (g i))) (a : α) :
    SameOutcome (is.foldlM f a) ((is.map g).foldlM f' a) := by
  rw [List.foldlM_map]
  exact Steps.mapError_foldlM h a

end SameOutcome

end SchemaError

end TypeSchema
