import TypeSchema.Error
import TypeSchema.Metadata.Catalog

/-!
# Metadata

The tags of a declaration in the order in which they were given, each tag once.
-/

namespace TypeSchema

/-- A tag with its value and the place where it was given. -/
structure Metadata.Item where
  tag : String
  value : Metadata.Value
  place : Location
deriving DecidableEq, Repr

/-- Tags in the order in which they were given. -/
structure Metadata where
  items : List Metadata.Item
  nodup : (items.map (·.tag)).Nodup

namespace Metadata

/-- No tags. -/
def empty : Metadata := ⟨[], List.nodup_nil⟩

/-- The item of a tag. -/
def find? (m : Metadata) (tag : String) : Option Item := m.items.find? (·.tag = tag)

/-- The value of a tag. -/
def value? (m : Metadata) (tag : String) : Option Value := (m.find? tag).map (·.value)

/-- A tag that is not found is carried by no item. -/
theorem find?_eq_none_iff {m : Metadata} {tag : String} :
    m.find? tag = none ↔ tag ∉ m.items.map (·.tag) := by
  simp [find?]

/-- Add an item behind the others; a tag that is there already is refused. -/
def insert (m : Metadata) (item : Item) : Except SchemaError Metadata :=
  match h : m.find? item.tag with
  | some first => .error (.duplicateMetadata item.tag first.place item.place)
  | none =>
    .ok ⟨m.items ++ [item], by
      have fresh := find?_eq_none_iff.mp h
      rw [List.map_append, List.nodup_append]
      refine ⟨m.nodup, by simp, ?_⟩
      intro a ha b hb
      simp only [List.map_cons, List.map_nil, List.mem_singleton] at hb
      subst hb
      exact fun same => fresh (same ▸ ha)⟩

/-- The items of `base` whose tags `top` does not carry, then those of `top`. -/
def overlay (top base : Metadata) : Metadata where
  items := base.items.filter (fun item => (top.find? item.tag).isNone) ++ top.items
  nodup := by
    rw [List.map_append, List.nodup_append]
    refine ⟨?_, top.nodup, ?_⟩
    · exact List.Nodup.sublist (List.filter_sublist.map _) base.nodup
    · intro a ha b hb same
      obtain ⟨item, hitem, rfl⟩ := List.mem_map.mp ha
      have absent := (List.mem_filter.mp hitem).2
      rw [Option.isNone_iff_eq_none, find?_eq_none_iff] at absent
      exact absent (same ▸ hb)

/-- The value of a tag, or what it means that `owner` leaves it out. -/
def valueOrDefault (m : Metadata) (tag : String) (owner : Option String) : Option Value :=
  (m.value? tag).or ((spec? tag).bind (·.defaultValue owner))

/-- No tag makes a type of its own: all are known and only describe. -/
def onlyDescribes (m : Metadata) : Bool :=
  m.items.all fun item => (spec? item.tag).any (!·.createsNewType)

/-- A tag is known and its value is of its type. -/
def Item.check (item : Item) : Except SchemaError Spec :=
  match spec? item.tag with
  | none => .error (.metadataConstraint [item.tag] .unknownTag item.place)
  | some spec =>
    if spec.host.accepts item.value then .ok spec
    else
      .error
        (.metadataConstraint [item.tag] (.wrongHost spec.host item.value.host) item.place)

/-- An object may carry the tag. -/
def Item.checkForObject (item : Item) : Except SchemaError Unit := do
  let spec ← item.check
  if spec.appliesToObjects then return ()
  throw (.metadataConstraint [item.tag] .notForObjects item.place)

/-- An object may carry all the tags. -/
def checkForObject (m : Metadata) : Except SchemaError Unit :=
  m.items.forM Item.checkForObject

end Metadata

end TypeSchema
