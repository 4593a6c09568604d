/-
# Construction — how types come about

A type is made from a kind under the constraints of the kind, and may then be
given another arity and a check from outside (`ValueType.Made`).  The parts of
the kind, the types of members and alternatives, have been made before.  So
what the construction demands of a kind it has demanded of every kind inside
of it (`made_iff`), though it looks at the outermost one only.
-/
import Mathlib.Data.List.Basic
import TypeSchema.Proofs.Steps
import TypeSchema.ValueType.Constraints

namespace TypeSchema

/-! ## Types through and through -/

/-- The types of the members or alternatives of a kind. -/
def Kind.parts : Kind → List ValueType
  | .object members _ => members.map (·.type)
  | .dict members _ => members.map (·.type)
  | .anyOf alternatives => alternatives
  | _ => []

theorem Kind.object?_eq_some {k : Kind} {members : List Member} {exact : Bool} :
    k.object? = some (members, exact) ↔ k = .object members exact := by
  constructor
  · intro h
    cases k <;> cases h
    rfl
  · rintro rfl
    rfl

namespace ValueType

/-- Something holds of a type and of every type inside of it. -/
inductive Throughout (p : ValueType → Prop) : ValueType → Prop
  | intro {t : ValueType} (here : p t) (inside : ∀ s ∈ t.kind.parts, Throughout p s) :
      Throughout p t

namespace Throughout

variable {p q : ValueType → Prop} {t : ValueType}

theorem here (h : t.Throughout p) : p t := by
  cases h with
  | intro here _ => exact here

theorem inside (h : t.Throughout p) : ∀ s ∈ t.kind.parts, s.Throughout p := by
  cases h with
  | intro _ inside => exact inside

theorem mono (weaken : ∀ s, p s → q s) (h : t.Throughout p) : t.Throughout q := by
  induction h with
  | intro here _ ih => exact .intro (weaken _ here) ih

theorem flat (here : p t) (parts : t.kind.parts = []) : t.Throughout p := by
  refine .intro here ?_
  rw [parts]
  exact List.forall_mem_nil _

theorem and (h : t.Throughout p) (h' : t.Throughout q) : t.Throughout fun s => p s ∧ q s := by
  induction h with
  | intro here _ ih => exact .intro ⟨here, h'.here⟩ fun s hs => ih s hs (h'.inside s hs)

end Throughout

end ValueType

/-! ## Types that have been made -/

/-- The pattern belongs to its source. -/
def Pattern.IsCompiled (p : Pattern) : Prop := ofSource p.source = some p

theorem Pattern.isCompiled_ofSource {source : String} {p : Pattern}
    (h : ofSource source = some p) : p.IsCompiled := by
  have named : p.source = source := by
    obtain ⟨r, -, rfl⟩ := Option.map_eq_some_iff.mp h
    rfl
  rw [IsCompiled, named]
  exact h

/-- The pattern of the kind, if it has one, belongs to its source. -/
def Kind.IsCompiled : Kind → Prop
  | .string l => ∀ p, l.expression = some p → p.IsCompiled
  | _ => True

namespace ValueType

/-- The types that can be constructed: from a kind whose parts have been made,
under its constraints; with another arity; and with a check from outside. -/
inductive Made : ValueType → Prop
  | ofKind {k : Kind} {t : ValueType} (compiled : k.IsCompiled) (parts : ∀ s ∈ k.parts, Made s)
      (h : ofKind k = .ok t) : Made t
  | withArity {t : ValueType} (a : Arity) (h : Made t) : Made (t.withArity a)
  | withHook {t : ValueType} (hook : Hook) (h : Made t) : Made (t.withHook hook)

/-- From a kind comes the type of a single value, if the constraints agree. -/
theorem ofKind_eq_ok {k : Kind} {t : ValueType} :
    ofKind k = .ok t ↔ k.checkConstraints = .ok () ∧ t = .mk k .single none := by
  unfold ofKind
  rw [Steps.except_bind_eq_ok]
  constructor
  · rintro ⟨_, agree, h⟩
    cases h
    exact ⟨agree, rfl⟩
  · rintro ⟨agree, rfl⟩
    exact ⟨(), agree, rfl⟩

/-- The kind of a type is one that a type can be made from, its parts apart. -/
def IsSound (t : ValueType) : Prop := t.kind.checkConstraints = .ok () ∧ t.kind.IsCompiled

/-- The types that can be constructed are those whose kind is sound and that of
every type inside. -/
theorem made_iff {t : ValueType} : t.Made ↔ t.Throughout IsSound := by
  constructor
  · intro h
    induction h with
    | ofKind compiled _ h ih =>
        obtain ⟨agree, rfl⟩ := ofKind_eq_ok.mp h
        exact .intro ⟨agree, compiled⟩ ih
    | withArity a _ ih => exact .intro ih.here ih.inside
    | withHook hook _ ih => exact .intro ih.here ih.inside
  · intro h
    induction h with
    | @intro t here _ ih =>
        obtain ⟨k, a, hook⟩ := t
        have single : Made (.mk k .single none) :=
          .ofKind here.2 ih (ofKind_eq_ok.mpr ⟨here.1, rfl⟩)
        cases hook with
        | none => exact single.withArity a
        | some hook => exact (single.withArity a).withHook hook

theorem Made.inside {t : ValueType} (h : t.Made) : ∀ s ∈ t.kind.parts, s.Made := by
  intro s hs
  exact made_iff.mpr ((made_iff.mp h).inside s hs)

/-- An error that is given another place is none the less an error. -/
theorem made_of_mapError {k : Kind} {t : ValueType} {tell : SchemaError → SchemaError}
    (compiled : k.IsCompiled) (parts : ∀ s ∈ k.parts, s.Made)
    (h : (ofKind k).mapError tell = .ok t) : t.Made := by
  cases hk : ofKind k with
  | error e =>
      rw [hk] at h
      cases h
  | ok t' =>
      rw [hk] at h
      cases h
      exact .ofKind compiled parts hk

end ValueType

end TypeSchema
