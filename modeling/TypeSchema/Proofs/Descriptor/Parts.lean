/-
# Parts — descriptors inside of descriptors

A descriptor has those of its members or alternatives for its parts, and what
holds of a descriptor if it holds of its parts holds of all of them
(`inductionOnParts`).  The type that a descriptor stands for has the types of
the parts in the same places, so nothing is in it that no part stands for
(`exists_part_of_kindOf`).
-/
import TypeSchema.Descriptor
import TypeSchema.Proofs.ValueType.Construction

namespace TypeSchema

namespace Descriptor

/-- The name of a written member. -/
def Part.name : Part → String
  | .mk n _ => n

/-- The written type of a member. -/
def Part.type : Part → Descriptor
  | .mk _ d => d

/-- The descriptors of the members or alternatives of a written kind. -/
def Shape.parts : Shape → List Descriptor
  | .object parts _ => parts.map (·.type)
  | .dict parts _ => parts.map (·.type)
  | .anyOf alternatives => alternatives
  | _ => []

theorem sizeOf_lt_of_mem_parts {d : Descriptor} {s : Shape} (h : d ∈ s.parts) :
    sizeOf d < sizeOf s := by
  have member : ∀ ps : List Part, d ∈ ps.map (·.type) → sizeOf d < sizeOf ps := by
    intro ps h
    obtain ⟨⟨n, _⟩, hp, rfl⟩ := List.mem_map.mp h
    have := List.sizeOf_lt_of_mem hp
    simp only [Part.mk.sizeOf_spec] at this
    simp only [Part.type]
    omega
  cases s with
  | object ps exact | dict ps exact =>
      have := member ps h
      simp only [Shape.object.sizeOf_spec, Shape.dict.sizeOf_spec]
      omega
  | anyOf ds =>
      have : sizeOf d < sizeOf ds := List.sizeOf_lt_of_mem h
      simp only [Shape.anyOf.sizeOf_spec]
      omega
  | _ => cases h

/-- What holds of a descriptor if it holds of its parts holds of every one. -/
@[elab_as_elim]
theorem inductionOnParts {motive : Descriptor → Prop}
    (step : ∀ arity shape, (∀ d ∈ shape.parts, motive d) → motive (.mk arity shape)) :
    ∀ d, motive d
  | .mk arity shape => step arity shape fun d _hd => inductionOnParts step d
termination_by d => sizeOf d
decreasing_by
  have := sizeOf_lt_of_mem_parts _hd
  simp only [mk.sizeOf_spec]
  omega

/-- Something holds of a descriptor and of every one inside of it. -/
inductive Throughout (p : Descriptor → Prop) : Descriptor → Prop
  | intro {d : Descriptor} (here : p d) (inside : ∀ e ∈ d.shape.parts, Throughout p e) :
      Throughout p d

theorem Throughout.mono {p q : Descriptor → Prop} (imp : ∀ d, p d → q d) {d : Descriptor}
    (h : d.Throughout p) : d.Throughout q := by
  induction h with
  | intro here _ ih => exact .intro (imp _ here) ih

/-! ## Types of parts -/

theorem exists_part_of_membersOf {ps : List Part} {ms : List Member} (h : membersOf ps = .ok ms) :
    ∀ m ∈ ms, ∃ p ∈ ps, p.type.toType = .ok m.type := by
  induction ps generalizing ms with
  | nil =>
      rw [membersOf] at h
      cases h
      exact List.forall_mem_nil _
  | cons p ps ih =>
      obtain ⟨n, d⟩ := p
      rw [membersOf] at h
      obtain ⟨t, ht, h⟩ := Steps.except_bind_eq_ok.mp h
      obtain ⟨more, hmore, h⟩ := Steps.except_bind_eq_ok.mp h
      cases h
      refine List.forall_mem_cons.mpr ⟨⟨_, List.mem_cons_self, ht⟩, fun m hm => ?_⟩
      obtain ⟨p, hp, hd⟩ := ih hmore m hm
      exact ⟨p, List.mem_cons_of_mem _ hp, hd⟩

theorem exists_part_of_toTypes {ds : List Descriptor} {ts : List ValueType}
    (h : toTypes ds = .ok ts) : ∀ t ∈ ts, ∃ d ∈ ds, d.toType = .ok t := by
  induction ds generalizing ts with
  | nil =>
      rw [toTypes] at h
      cases h
      exact List.forall_mem_nil _
  | cons d ds ih =>
      rw [toTypes] at h
      obtain ⟨t, ht, h⟩ := Steps.except_bind_eq_ok.mp h
      obtain ⟨more, hmore, h⟩ := Steps.except_bind_eq_ok.mp h
      cases h
      refine List.forall_mem_cons.mpr ⟨⟨_, List.mem_cons_self, ht⟩, fun s hs => ?_⟩
      obtain ⟨e, he, hd⟩ := ih hmore s hs
      exact ⟨e, List.mem_cons_of_mem _ he, hd⟩

/-- Every part of the kind is the type of a part of the written one. -/
theorem exists_part_of_kindOf {s : Shape} {k : Kind} (h : kindOf s = .ok k) :
    ∀ t ∈ k.parts, ∃ d ∈ s.parts, d.toType = .ok t := by
  cases s with
  | object parts exact | dict parts exact =>
      rw [kindOf] at h
      obtain ⟨members, hmembers, h⟩ := Steps.except_bind_eq_ok.mp h
      cases h
      refine List.forall_mem_map.mpr fun m hm => ?_
      obtain ⟨p, hp, hd⟩ := exists_part_of_membersOf hmembers m hm
      exact ⟨p.type, List.mem_map_of_mem hp, hd⟩
  | anyOf alternatives =>
      rw [kindOf] at h
      obtain ⟨types, htypes, h⟩ := Steps.except_bind_eq_ok.mp h
      cases h
      exact exists_part_of_toTypes htypes
  | string expression minLength maxLength =>
      rw [kindOf] at h
      obtain ⟨_, -, h⟩ := Steps.except_bind_eq_ok.mp h
      cases h
      exact List.forall_mem_nil _
  | _ =>
      cases h
      exact List.forall_mem_nil _

/-- A type comes of the written kind, under the arity if there is one. -/
theorem toType_eq_ok {arity : Option Arity} {shape : Shape} {t : ValueType}
    (h : toType (.mk arity shape) = .ok t) :
    ∃ k, kindOf shape = .ok k ∧ k.checkConstraints = .ok () ∧
      t = .mk k (arity.getD .single) none := by
  rw [toType] at h
  obtain ⟨k, hk, h⟩ := Steps.except_bind_eq_ok.mp h
  obtain ⟨t', ht', h⟩ := Steps.except_bind_eq_ok.mp h
  obtain ⟨agree, rfl⟩ := ValueType.ofKind_eq_ok.mp ht'
  cases h
  refine ⟨k, hk, agree, ?_⟩
  cases arity <;> rfl

end Descriptor

end TypeSchema
