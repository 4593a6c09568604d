/-
# Dependencies — what a type is made of, and what can be wrong with it

The type of a declaration is made of the types of what it depends on: its
members and what it refers to.  If it has none, something that it depends on,
directly or not, is to blame (`Blame`); if it has one, nothing is
(`Typable`).

To make the type of a declaration in one step, that of only some of its
dependencies is asked for (`Asks`), or that of an object further on.  There
is one exception: an object whose own base is a placeholder is taken to
derive from itself, and asks for its own type.
-/
import Mathlib.Logic.Relation
import TypeSchema.Graph.Types
import TypeSchema.Proofs.Document.Settled
import TypeSchema.Proofs.Typing.Classes

namespace TypeSchema

open Declaration (Id Production Subtype Reference)

namespace Graph

/-! ## Dependencies -/

/-- The type of `x` is made of that of `y`, which is a member of it or what it
refers to. -/
def Depends (g : Graph) (x y : Id) : Prop :=
  y ∈ (g.node x).children ∧ g.isMember y ∨ (g.node x).reference = .declaration y

/-- Dependencies lead from `x` to `y`, or the two are one. -/
abbrev Reaches (g : Graph) : Id → Id → Prop := Relation.ReflTransGen g.Depends

/-- Dependencies lead from `x` back to it. -/
abbrev Cyclic (g : Graph) (x : Id) : Prop := Relation.TransGen g.Depends x x

/-- An object over a text that names nothing. -/
structure LacksBase (g : Graph) (id : Id) : Prop where
  isObject : (g.node id).isObject
  placeholder : (g.node id).reference.isPlaceholder

/-- Anything else over a text that names nothing. -/
structure LacksType (g : Graph) (id : Id) (text : String) : Prop where
  notObject : (g.node id).isObject = false
  placeholder : (g.node id).reference = .placeholder text

/-- The declaration becomes a class. -/
def IsClass (label : Option Subtype) : Prop := label = some .compound ∨ label = some .simple

/-- A simple object has a member that holds its value. -/
def HoldsValue (g : Graph) (id : Id) : Prop :=
  (∃ kind, (g.node id).reference = .fundamental kind) ∨
    ∃ target r kind, (g.node id).reference = .declaration target ∧ Derives g target r ∧
      r.target = .fundamental kind

/-- The class of `id` cannot be made: a member has no name, the value of a
simple object has none or that of an attribute, or the object is one over an
enumeration, for which it gives no values. -/
inductive ClassFault (g : Graph) (id : Id) : List String → ConstraintFault → Prop
  | unnamed {child : Id} : IsClass (g.labels id) → child ∈ (g.node id).children →
      g.isMember child → (g.node child).name = some "" →
      ClassFault g id ["members"] .unnamedMember
  | unnamedValue : g.labels id = some .simple → g.HoldsValue id → valueName (g.node id) = "" →
      ClassFault g id ["members"] .unnamedMember
  | repeatedValue {child : Id} : g.labels id = some .simple → g.HoldsValue id →
      child ∈ (g.node id).children → g.isMember child →
      (g.node child).name = some (valueName (g.node id)) →
      ClassFault g id ["members"] (.repeatedMember (valueName (g.node id)))
  | noValues : g.labels id = some .simple → (g.node id).reference = .fundamental .enumeration →
      ClassFault g id ["values"] .noValues

/-- What can be to blame for an error of the type of `id`. -/
inductive Blame (g : Graph) (id : Id) : SchemaError → Prop
  | circular {c : Id} : g.Reaches id c → g.Cyclic c ∨ g.LacksBase c →
      Blame g id (.circularReference (g.node c).label (g.node c).location)
  | unresolved {c : Id} {text : String} : g.Reaches id c → g.LacksType c text →
      Blame g id (.unresolvedReference text (g.node c).location)
  | constraint {c : Id} {tags : List String} {fault : ConstraintFault} : g.Reaches id c →
      g.ClassFault c tags fault → Blame g id (.metadataConstraint tags fault (g.node c).location)
  | extension : (g.node id).production = .extension →
      Blame g id (.unsupported .extensionAsType (g.node id).location)

/-- There is nothing to blame: no placeholder, no fault of a class, and
dependencies come to an end. -/
inductive Typable (g : Graph) : Id → Prop
  | intro {id : Id} : (g.node id).reference.isPlaceholder = false →
      (∀ tags fault, ¬ g.ClassFault id tags fault) →
      (∀ y, g.Depends id y → Typable g y) → Typable g id

section Typable

variable {g : Graph} {id : Id}

theorem Typable.of_reaches (h : g.Typable id) {c : Id} (reaches : g.Reaches id c) :
    g.Typable c := by
  induction reaches with
  | refl => exact h
  | tail _ hd ih =>
      obtain ⟨_, _, behind⟩ := ih
      exact behind _ hd

theorem Typable.not_cyclic (h : g.Typable id) : ¬ g.Cyclic id := by
  induction h with
  | @intro id _ _ _ ih =>
      intro cycle
      -- a cycle through `id` is one through what comes next on it
      obtain ⟨y, hy, back⟩ := Relation.TransGen.head'_iff.mp cycle
      exact ih y hy (Relation.TransGen.tail' back hy)

end Typable

/-- What is to blame for a dependency is to blame for whatever depends on it. -/
theorem Blame.of_reaches {g : Graph} {x y : Id} {e : SchemaError} (h : g.Blame y e)
    (reaches : g.Reaches x y) (named : (g.node y).production ≠ .extension) : g.Blame x e := by
  cases h with
  | circular hc cause => exact .circular (reaches.trans hc) cause
  | unresolved hc lacks => exact .unresolved (reaches.trans hc) lacks
  | constraint hc fault => exact .constraint (reaches.trans hc) fault
  | extension hp => exact absurd hp named

/-! ## What a type is asked for -/

/-- Making the type of `id` asks for that of `y`. -/
inductive Asks (g : Graph) (id : Id) : Id → Prop
  | member {child : Id} : IsClass (g.labels id) → child ∈ (g.node id).children →
      g.isMember child → Asks g id child
  | base {target : Id} : IsClass (g.labels id) →
      (g.node id).reference = .declaration target → Asks g id target
  | derived {r : Derivation} {object : Id} : IsDerived (g.labels id) → Derives g id r →
      r.target = .declaration object → Asks g id object

/-- The type that was made of `id` is a class exactly if `id` derives from an
object, and then a class that can be made. -/
structure Typed (g : Graph) (id : Id) (t : ValueType) : Prop where
  formed : t.Formed
  derives : ∃ r, Derives g id r ∧ (t.kind.object?.isSome ↔ ∃ object, r.target = .declaration object)

theorem IsDerived.not_isClass {label : Option Subtype} (hd : IsDerived label) :
    ¬ IsClass label := by
  rintro (rfl | rfl) <;> cases hd

/-- Only classes have faults of their own. -/
theorem ClassFault.isClass {g : Graph} {id : Id} {tags : List String} {fault : ConstraintFault}
    (h : g.ClassFault id tags fault) : IsClass (g.labels id) := by
  cases h with
  | unnamed hl => exact hl
  | unnamedValue hl => exact .inr hl
  | repeatedValue hl => exact .inr hl
  | noValues hl => exact .inr hl

theorem Derives.unique {g : Graph} {id : Id} {r r' : Derivation} (h : Derives g id r)
    (h' : Derives g id r') : r = r' := by
  induction h generalizing r' with
  | object ho =>
      cases h' with
      | object _ => rfl
      | fundamental ho' _ => rw [ho] at ho'; cases ho'
      | next ho' _ _ => rw [ho] at ho'; cases ho'
  | fundamental ho hr =>
      cases h' with
      | object ho' => rw [ho] at ho'; cases ho'
      | fundamental _ hr' => rw [hr] at hr'; cases hr'; rfl
      | next _ hr' _ => rw [hr] at hr'; cases hr'
  | next ho hr _ ih =>
      cases h' with
      | object ho' => rw [ho] at ho'; cases ho'
      | fundamental _ hr' => rw [hr] at hr'; cases hr'
      | next _ hr' h' => rw [hr] at hr'; cases hr'; rw [ih h']

/-- A declaration that becomes no class asks for the object it derives from
at most. -/
theorem Asks.target_of_derived {g : Graph} {id y : Id} (asks : Asks g id y)
    (hl : IsDerived (g.labels id)) {r : Derivation} (derives : Derives g id r) :
    r.target = .declaration y := by
  cases asks with
  | member hc => exact absurd hc hl.not_isClass
  | base hc => exact absurd hc hl.not_isClass
  | derived _ derives' ht => rw [derives.unique derives', ht]

/-- A derivation that ends at an object follows references to it. -/
theorem Derives.object_reached {g : Graph} (linked : g.Linked) {id object : Id} {r : Derivation}
    (h : Derives g id r) (hr : r.target = .declaration object) (hid : id < g.size) :
    g.Reaches id object ∧ object < g.size ∧ (g.node object).isObject := by
  induction h with
  | object ho => cases hr; exact ⟨.refl, hid, ho⟩
  | fundamental => cases hr
  | next _ href _ ih =>
      obtain ⟨reaches, found⟩ := ih hr (linked.target href).1
      exact ⟨.head (.inr href) reaches, found⟩

/-- Something that has no placeholder misses nothing. -/
theorem Misses.reached {g : Graph} {id holder : Id} {text : String}
    (h : Misses g id holder text) : g.Reaches id holder ∧ g.LacksType holder text := by
  induction h with
  | here ho hr => exact ⟨.refl, ho, hr⟩
  | next _ href _ ih => exact ⟨.head (.inr href) ih.1, ih.2⟩

namespace Settled

variable {g : Graph} {id : Id} (settled : g.Settled)
include settled

/-- A declaration becomes a class, derives its type, or is an extension. -/
theorem label_cases (hid : id < g.size) :
    (IsClass (g.labels id) ∧ (g.node id).isObject ∧ (g.node id).reference.isPlaceholder = false) ∨
      (IsDerived (g.labels id) ∧ (g.node id).production ≠ .extension ∧
        ((g.node id).isObject → (g.node id).reference.isPlaceholder)) ∨
      g.labels id = some .extension ∧ (g.node id).production = .extension := by
  obtain ⟨s, hs, rule⟩ := settled.obeys id hid
  have allowed := settled.linked.reference id
  rw [hs]
  cases rule with
  | root hp =>
      rw [hp] at allowed
      have hr : (g.node id).reference = .none := allowed
      exact .inl ⟨.inl rfl, by simp [Declaration.isObject, hp],
        by simp [hr, Reference.isPlaceholder]⟩
  | extension hp => exact .inr (.inr ⟨rfl, hp⟩)
  | objectFree hp hr | objectCompound hp hr =>
      exact .inl ⟨.inl rfl, by simp [Declaration.isObject, hp],
        by simp [hr, Reference.isPlaceholder]⟩
  | objectFundamental hp hr | objectSimple hp hr =>
      exact .inl ⟨.inr rfl, by simp [Declaration.isObject, hp],
        by simp [hr, Reference.isPlaceholder]⟩
  | objectPlaceholder hp hr =>
      exact .inr (.inl ⟨trivial, by simp [hp], fun _ => by simp [hr, Reference.isPlaceholder]⟩)
  | config hp | leafFundamental hp | leafPlaceholder hp | leafAlias hp | leafAugmented hp =>
      exact .inr (.inl ⟨trivial, by simp [hp], by simp [Declaration.isObject, hp]⟩)

/-- Classes are made of objects, and not of placeholders. -/
theorem object_of_isClass (hid : id < g.size) (hl : IsClass (g.labels id)) :
    (g.node id).isObject ∧ (g.node id).reference.isPlaceholder = false := by
  rcases settled.label_cases hid with ⟨_, object⟩ | ⟨hd, _⟩ | ⟨hx, _⟩
  · exact object
  · exact absurd hl hd.not_isClass
  · rcases hl with hl | hl <;> simp [hx] at hl

/-- An extension refers to nothing. -/
theorem reference_of_extension (hp : (g.node id).production = .extension) :
    (g.node id).reference = .none := by
  have allowed := settled.linked.reference id
  rw [hp] at allowed
  exact allowed

/-- A simple object refers to something. -/
theorem simple_refers (hid : id < g.size) (hs : g.labels id = some .simple) :
    (∃ kind, (g.node id).reference = .fundamental kind) ∨
      ∃ target, (g.node id).reference = .declaration target := by
  obtain ⟨s, hs', rule⟩ := settled.obeys id hid
  rw [hs] at hs'
  cases hs'
  cases rule with
  | objectFundamental _ hr => exact .inl ⟨_, hr⟩
  | objectSimple _ hr => exact .inr ⟨_, hr⟩

/-- What is asked for is a declaration that `id` depends on.  Only an object
without its base asks for itself. -/
theorem asks_cases (hid : id < g.size) {y : Id} (h : Asks g id y) :
    y < g.size ∧ (g.node y).production ≠ .extension ∧
      (Relation.TransGen g.Depends id y ∨ y = id ∧ g.LacksBase id) := by
  cases h with
  | member _ hc hm =>
      refine ⟨settled.linked.tree.child_lt hc, ?_, .inl (.single (.inl ⟨hc, hm⟩))⟩
      intro hp
      simp [isMember, hp] at hm
  | base _ hr =>
      obtain ⟨hlt, named⟩ := settled.linked.target hr
      refine ⟨hlt, ?_, .inl (.single (.inr hr))⟩
      intro hp
      simp [hp, Production.isNamed] at named
  | derived hd derives hr =>
      obtain ⟨_, hlt, ho⟩ := derives.object_reached settled.linked hr hid
      refine ⟨hlt, ?_, ?_⟩
      · intro hp
        simp [Declaration.isObject, hp] at ho
      · cases derives with
        | object hself =>
            cases hr
            rcases settled.label_cases hid with ⟨hc, _⟩ | ⟨_, _, lacks⟩ | ⟨hx, _⟩
            · rcases hc with hc | hc <;> simp [hc, IsDerived] at hd
            · exact .inr ⟨rfl, hself, lacks hself⟩
            · simp [hx, IsDerived] at hd
        | fundamental => cases hr
        | next _ href derives =>
            have reaches := derives.object_reached settled.linked hr (settled.linked.target href).1
            exact .inl (.head' (.inr href) reaches.1)

/-- The children of a simple object are its attributes. -/
theorem attr_of_child (hid : id < g.size) (hs : g.labels id = some .simple) {child : Id}
    (hc : child ∈ (g.node id).children) : (g.node child).role = .attr ∧ g.isMember child := by
  have hp : (g.node id).production = .object := by
    obtain ⟨s, hs', rule⟩ := settled.obeys id hid
    rw [hs] at hs'
    cases hs'
    cases rule with
    | objectFundamental hp _ => exact hp
    | objectSimple hp _ => exact hp
  have check := settled.attributes id hid
  have hcond : (g.node id).production = .object ∧ (g.node id).subtype = some .simple := ⟨hp, hs⟩
  unfold checkSimple at check
  simp only [if_pos hcond] at check
  cases hf : (g.node id).children.find? fun child => (g.node child).role ≠ .attr with
  | some other => rw [hf] at check; cases check
  | none =>
      have hrole : (g.node child).role = .attr := by
        simpa using List.find?_eq_none.mp hf child hc
      refine ⟨hrole, ?_⟩
      have := (settled.linked.tree.shaped child).role (by simp [hrole])
      rcases this with hp | hp <;> simp [isMember, hrole, hp]

/-- A member has a name. -/
theorem name_of_member {child : Id} (hm : g.isMember child) :
    ∃ name, (g.node child).name = some name := by
  have named := (settled.linked.tree.shaped child).named
  have : (g.node child).production.isNamed := by
    cases hp : (g.node child).production <;> simp_all [isMember, Production.isNamed]
  exact Option.isSome_iff_exists.mp (named.trans this)

end Settled

end Graph

end TypeSchema
