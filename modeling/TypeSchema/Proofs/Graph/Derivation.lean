/-
# Derivation — where derivations end

A declaration that is no object derives from the first object on its walk, or
from the fundamental kind at its end (`Derives`), or from nothing, if a
placeholder stands there (`Misses`).  On a linked graph there is no third
case, so the error that a derivation would have to make up is never needed.
-/
import TypeSchema.Graph.Derivation
import TypeSchema.Proofs.Graph.Labelling

namespace TypeSchema

open Declaration (Id Production Subtype Reference)

namespace Graph

/-- What `id` derives from, by references. -/
inductive Derives (g : Graph) : Id → Derivation → Prop
  | object {id : Id} : (g.node id).isObject → Derives g id ⟨[], .declaration id⟩
  | fundamental {id : Id} {kind : Fundamental} : (g.node id).isObject = false →
      (g.node id).reference = .fundamental kind → Derives g id ⟨[id], .fundamental kind⟩
  | next {id target : Id} {r : Derivation} : (g.node id).isObject = false →
      (g.node id).reference = .declaration target → Derives g target r →
      Derives g id ⟨id :: r.chain, r.target⟩

/-- Before any object, references lead from `id` to `holder`, which refers to
a text that names nothing. -/
inductive Misses (g : Graph) : Id → Id → String → Prop
  | here {id : Id} {text : String} : (g.node id).isObject = false →
      (g.node id).reference = .placeholder text → Misses g id id text
  | next {id target holder : Id} {text : String} : (g.node id).isObject = false →
      (g.node id).reference = .declaration target → Misses g target holder text →
      Misses g id holder text

/-- A declaration derives from something or misses it for a placeholder; no
derivation gets lost. -/
theorem derives_or_misses {g : Graph} (linked : g.Linked) {id : Id}
    (hid : (g.node id).production ≠ .extension) :
    (∃ r, Derives g id r) ∨ ∃ holder text, Misses g id holder text := by
  refine linked.acyclic.induction (motive := fun id => (g.node id).production ≠ .extension →
    (∃ r, Derives g id r) ∨ ∃ holder text, Misses g id holder text) (fun id ih hid => ?_) id hid
  cases ho : (g.node id).isObject with
  | true => exact .inl ⟨_, .object ho⟩
  | false =>
      cases hr : (g.node id).reference with
      | none =>
          have allowed := linked.reference id
          cases hp : (g.node id).production <;>
            simp_all [Declaration.isObject, Production.AllowsSettled, Reference.isSettled]
      | unresolved text => exact absurd hr (linked.not_unresolved id text)
      | fundamental kind => exact .inl ⟨_, .fundamental ho hr⟩
      | placeholder text => exact .inr ⟨id, text, .here ho hr⟩
      | declaration target =>
          have named : (g.node target).production ≠ .extension := by
            intro hp
            have := (linked.target hr).2
            simp [hp, Production.isNamed] at this
          rcases ih target (next?_eq_some.mpr hr) named with ⟨r, derives⟩ | ⟨holder, text, misses⟩
          · exact .inl ⟨_, .next ho hr derives⟩
          · exact .inr ⟨holder, text, .next ho hr misses⟩

section Run

variable {g : Graph} {id : Id}

theorem Derives.run (acyclic : g.Acyclic) {r : Derivation} (h : Derives g id r)
    (lost : SchemaError) : g.deriveAlong lost (g.walk id) = .ok r := by
  induction h with
  | @object id ho =>
      obtain ⟨rest, hwalk⟩ := walk_eq_cons (acyclic.hasCycle id)
      simp [hwalk, deriveAlong, ho]
  | @fundamental id kind ho hr =>
      obtain ⟨rest, hwalk⟩ := walk_eq_cons (acyclic.hasCycle id)
      simp [hwalk, deriveAlong, ho, hr]
  | @next id target r ho hr _ ih =>
      have hwalk := walk_step (acyclic.hasCycle id) (next?_eq_some.mpr hr)
      simp [hwalk, deriveAlong, ho, hr, ih, Except.map]

theorem Misses.run (acyclic : g.Acyclic) {holder : Id} {text : String}
    (h : Misses g id holder text) (lost : SchemaError) :
    g.deriveAlong lost (g.walk id)
      = .error (.unresolvedReference text (g.node holder).location) := by
  induction h with
  | @here id text ho hr =>
      obtain ⟨rest, hwalk⟩ := walk_eq_cons (acyclic.hasCycle id)
      simp [hwalk, deriveAlong, ho, hr]
  | @next id target holder text ho hr _ ih =>
      have hwalk := walk_step (acyclic.hasCycle id) (next?_eq_some.mpr hr)
      simp [hwalk, deriveAlong, ho, hr, ih, Except.map]

/-- What is found along a chain is what its first declaration derives from. -/
theorem Chain.derives {is : List Id} (chain : Chain g id is) {lost : SchemaError} {r : Derivation}
    (h : g.deriveAlong lost is = .ok r) : Derives g id r := by
  induction chain generalizing r with
  | @stop id hn =>
      cases ho : (g.node id).isObject with
      | true =>
          simp only [deriveAlong, ho, if_true] at h
          cases h
          exact .object ho
      | false =>
          cases hr : (g.node id).reference with
          | fundamental kind =>
              simp only [deriveAlong, ho, hr, Bool.false_eq_true, if_false] at h
              cases h
              exact .fundamental ho hr
          | declaration target => exact absurd hr (next?_eq_none.mp hn target)
          | _ =>
              simp only [deriveAlong, ho, hr, Bool.false_eq_true, if_false] at h
              cases h
  | @step id target rest hn chain ih =>
      have hr := next?_eq_some.mp hn
      cases ho : (g.node id).isObject with
      | true =>
          simp only [deriveAlong, ho, if_true] at h
          cases h
          exact .object ho
      | false =>
          simp only [deriveAlong, ho, hr, Bool.false_eq_true, if_false] at h
          cases hrest : g.deriveAlong lost rest with
          | error e => rw [hrest] at h; cases h
          | ok r' =>
              rw [hrest] at h
              cases h
              exact .next ho hr (ih hrest)

theorem derives_of_derivation (acyclic : g.Acyclic) {r : Derivation}
    (h : g.derivation id = .ok r) : Derives g id r :=
  (chain_walk (acyclic.hasCycle id)).1.derives h

end Run

/-! ## Tags that have been checked -/

/-- The tags along a derivation suit what it leads to. -/
def Suits (g : Graph) (id : Id) (r : Derivation) : Prop :=
  match r.target with
  | .fundamental kind =>
    ∃ type, ValueType.ofMetadata kind (r.metadata g) (g.node id).location = .ok type
  | .declaration _ => (r.metadata g).checkForObject = .ok ()

section Congruence

variable {g h : Graph} (s : SameLinks g h)
include s

theorem Derives.congr {id : Id} {r : Derivation} (derives : Derives g id r) : Derives h id r := by
  induction derives with
  | object ho => exact .object (s.frame.isObject _ ▸ ho)
  | fundamental ho hr => exact .fundamental (s.frame.isObject _ ▸ ho) (s.reference _ ▸ hr)
  | next ho hr _ ih => exact .next (s.frame.isObject _ ▸ ho) (s.reference _ ▸ hr) ih

theorem Suits.congr {id : Id} {r : Derivation} (suits : Suits g id r) : Suits h id r := by
  have tags : r.metadata h = r.metadata g := by
    simp only [Derivation.metadata, s.frame.metadata]
  unfold Suits at suits ⊢
  rw [tags, ← s.frame.location]
  exact suits

end Congruence

/-- The check of a derivation makes sure of that. -/
theorem suits_of_checkDerived {g : Graph} (acyclic : g.Acyclic) {id : Id} {r : Derivation}
    (h : g.checkDerived id = .ok ()) (derives : Derives g id r) : Suits g id r := by
  unfold checkDerived at h
  rw [derivation, derives.run acyclic] at h
  unfold Suits
  cases ht : r.target with
  | declaration object => simpa only [ht] using h
  | fundamental kind =>
      simp only [ht] at h
      cases htype : ValueType.ofMetadata kind (r.metadata g) (g.node id).location with
      | ok type => exact ⟨type, htype⟩
      | error e => rw [htype] at h; cases h

end Graph

end TypeSchema
