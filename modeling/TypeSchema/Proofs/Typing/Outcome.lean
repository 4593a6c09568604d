/-
# Outcome — whether there is a type, and why not

The typing goes down dependencies with the declarations that it has not come
through yet.  What carries the induction is that all others lead to the one
at hand, so coming upon one of them closes a circle.  In the end a type means
that nothing is wrong with anything it depends on, and an error is to blame
on something (`explained_typeOf`); the two together say exactly when there is
a type (`typeOf_eq_ok_iff`).
-/
import TypeSchema.Proofs.Typing.Step

namespace TypeSchema

open Declaration (Id Production Subtype Reference)

namespace Graph

/-! ## All declarations -/

namespace Settled

variable {g : Graph} {id : Id} (settled : g.Settled)
include settled

/-- Nothing is wrong with a declaration that derives from something, if
nothing is with the object it derives from. -/
theorem typable_of_derives {r : Derivation} (h : Derives g id r) (hid : id < g.size)
    (object : ∀ o, r.target = .declaration o → g.Typable o) : g.Typable id := by
  have sound : ∀ {i}, i < g.size → (g.node i).isObject = false →
      (∀ tags fault, ¬ g.ClassFault i tags fault) ∧
        ∀ y, g.Depends i y → (g.node i).reference = .declaration y := by
    intro i hi ho
    refine ⟨fun tags fault hfault => ?_, ?_⟩
    · have object := (settled.object_of_isClass hi hfault.isClass).1
      rw [ho] at object
      cases object
    · rintro y (⟨hc, _⟩ | hr)
      · rw [(settled.linked.tree.shaped i).childless ho] at hc
        cases hc
      · exact hr
  induction h with
  | object => exact object _ rfl
  | fundamental ho hr =>
      obtain ⟨noFault, next⟩ := sound hid ho
      refine .intro (by simp [hr, Reference.isPlaceholder]) noFault fun y hy => ?_
      have := next y hy
      rw [hr] at this
      cases this
  | next ho hr _ ih =>
      obtain ⟨noFault, next⟩ := sound hid ho
      refine .intro (by simp [hr, Reference.isPlaceholder]) noFault fun y hy => ?_
      have := next y hy
      rw [hr] at this
      cases this
      exact ih (settled.linked.target hr).1 object

theorem not_derives_of_extension (hp : (g.node id).production = .extension) {r : Derivation} :
    ¬ Derives g id r := by
  have hr := settled.reference_of_extension hp
  intro h
  cases h with
  | object ho => simp [Declaration.isObject, hp] at ho
  | fundamental _ hr' => rw [hr] at hr'; cases hr'
  | next _ hr' _ => rw [hr] at hr'; cases hr'

end Settled

/-- What the result of a typing says about a declaration. -/
def Explained (g : Graph) (id : Id) : Except SchemaError ValueType → Prop
  | .ok t => Typed g id t ∧ g.Typable id
  | .error e => g.Blame id e

/-! ## One step -/

section Step

variable {g : Graph} (settled : g.Settled) {id : Id} (hid : id < g.size) {typeOf : Typing}
  (behind : ∀ y < g.size, Relation.TransGen g.Depends id y → Explained g y (typeOf y))
  (self : typeOf id = .error (g.circular id))
include settled hid behind self

/-- The types that are asked for are what they should be. -/
theorem typed_of_asks {y : Id} (asks : Asks g id y) {t : ValueType} (h : typeOf y = .ok t) :
    Typed g y t ∧ g.Typable y := by
  obtain ⟨hy, _, depends | ⟨rfl, _⟩⟩ := settled.asks_cases hid asks
  · have explained := behind y hy depends
    rw [h] at explained
    exact explained
  · rw [self] at h
    cases h

theorem blame_of_refused {e : SchemaError} (refused : Refused g typeOf id e) : g.Blame id e := by
  cases refused with
  | @asked y _ asks he =>
      obtain ⟨hy, named, depends | ⟨rfl, lacks⟩⟩ := settled.asks_cases hid asks
      · have explained := behind y hy depends
        rw [he] at explained
        exact explained.of_reaches depends.to_reflTransGen named
      · -- an object without its base asked for itself
        rw [self] at he
        cases he
        exact .circular .refl (.inr lacks)
  | fault hfault => exact .constraint .refl hfault
  | missing misses =>
      obtain ⟨reaches, lacks⟩ := misses.reached
      exact .unresolved reaches lacks
  | extension hp => exact .extension hp

theorem typable_of_made {t : ValueType} (made : Made g typeOf id t) : g.Typable id := by
  have typable : ∀ y, Asks g id y → g.Typable y := by
    intro y asks
    obtain ⟨t', ht'⟩ := made.asked y asks
    exact (typed_of_asks settled hid behind self asks ht').2
  obtain ⟨r, derives, _⟩ := made.typed.derives
  rcases settled.label_cases hid with ⟨hl, _, hr⟩ | ⟨hl, _⟩ | ⟨_, hp⟩
  · refine .intro hr made.sound ?_
    rintro y (⟨hc, hm⟩ | hr)
    · exact typable y (.member hl hc hm)
    · exact typable y (.base hl hr)
  · exact settled.typable_of_derives derives hid fun o ho => typable o (.derived hl derives ho)
  · exact absurd derives (settled.not_derives_of_extension hp)

/-- One step explains its result, if the results for what comes next on
dependencies are explained and the declaration does not count itself as
typed. -/
theorem explained_typeStep : Explained g id (g.typeStep typeOf id) := by
  have answers := typeStep_answers settled hid fun y asks t ht =>
    (typed_of_asks settled hid behind self asks ht).1
  cases h : g.typeStep typeOf id with
  | ok t =>
      rw [h] at answers
      exact ⟨answers.typed, typable_of_made settled hid behind self answers⟩
  | error e =>
      rw [h] at answers
      exact blame_of_refused settled hid behind self answers

end Step

/-! ## All steps -/

/-- While all declarations that are no longer free lead to `id`, the result
for `id` is explained. -/
theorem explained_typeWithin {g : Graph} (settled : g.Settled) :
    ∀ (n : Nat) {free : List Id} {id : Id}, free.length = n → free.Nodup → id < g.size →
      (∀ x < g.size, x ∉ free → Relation.TransGen g.Depends x id) →
      Explained g id (g.typeWithin free id) := by
  intro n
  induction n with
  | zero =>
      intro free id hlen _ hid leads
      have hfree : id ∉ free := by
        rw [List.length_eq_zero_iff.mp hlen]
        exact List.not_mem_nil
      rw [typeWithin, dif_neg hfree]
      exact .circular .refl (.inl (leads id hid hfree))
  | succ n ih =>
      intro free id hlen nodup hid leads
      rw [typeWithin]
      by_cases hfree : id ∈ free
      · rw [dif_pos hfree]
        have hlen' : (free.erase id).length = n := by
          rw [List.length_erase_of_mem hfree, hlen, Nat.add_sub_cancel]
        refine explained_typeStep settled hid (fun y hy depends => ?_) ?_
        · refine ih hlen' (nodup.erase id) hy fun x hx hx' => ?_
          by_cases hxid : x = id
          · exact hxid ▸ depends
          · have : x ∉ free := fun h => hx' ((List.mem_erase_of_ne hxid).mpr h)
            exact (leads x hx this).trans depends
        · rw [typeWithin, dif_neg nodup.not_mem_erase]
      · rw [dif_neg hfree]
        exact .circular .refl (.inl (leads id hid hfree))

/-- Whether a declaration has a type, and why not if it has none. -/
theorem explained_typeOf {g : Graph} (settled : g.Settled) {id : Id} (hid : id < g.size) :
    Explained g id (g.typeOf id) :=
  explained_typeWithin settled _ rfl (nodup_ids g) hid fun _ hx hfree =>
    absurd (mem_ids.mpr hx) hfree

/-- There is a type exactly if there is nothing to blame, and something to
make a type of. -/
theorem typeOf_eq_ok_iff {g : Graph} (settled : g.Settled) {id : Id} (hid : id < g.size) :
    (∃ t, g.typeOf id = .ok t) ↔ g.Typable id ∧ (g.node id).production ≠ .extension := by
  have explained := explained_typeOf settled hid
  constructor
  · rintro ⟨t, h⟩
    rw [h] at explained
    obtain ⟨r, derives, _⟩ := explained.1.derives
    exact ⟨explained.2, fun hp => settled.not_derives_of_extension hp derives⟩
  · rintro ⟨typable, named⟩
    cases h : g.typeOf id with
    | ok t => exact ⟨t, rfl⟩
    | error e =>
        exfalso
        rw [h] at explained
        cases explained with
        | circular reaches cause =>
            have behind := typable.of_reaches reaches
            have lacks := (cause.resolve_left behind.not_cyclic).placeholder
            obtain ⟨free, _, _⟩ := behind
            rw [free] at lacks
            cases lacks
        | unresolved reaches lacks =>
            obtain ⟨free, _, _⟩ := typable.of_reaches reaches
            rw [lacks.placeholder] at free
            cases free
        | constraint reaches fault =>
            obtain ⟨_, sound, _⟩ := typable.of_reaches reaches
            exact sound _ _ fault
        | extension hp => exact named hp

/-- An object without its base is taken to be part of itself. -/
theorem typeOf_of_lacksBase {g : Graph} (settled : g.Settled) {id : Id} (hid : id < g.size)
    (lacks : g.LacksBase id) : g.typeOf id = .error (g.circular id) := by
  have hl : IsDerived (g.labels id) := by
    rcases settled.label_cases hid with ⟨_, _, hr⟩ | ⟨hl, _⟩ | ⟨_, hp⟩
    · have := lacks.placeholder
      rw [hr] at this
      cases this
    · exact hl
    · have := lacks.isObject
      simp [Declaration.isObject, hp] at this
  have derives : Derives g id ⟨[], .declaration id⟩ := .object lacks.isObject
  have found : g.derivation id = .ok ⟨[], .declaration id⟩ :=
    derives.run settled.linked.acyclic _
  have suits : Metadata.checkForObject (Derivation.metadata g ⟨[], .declaration id⟩) = .ok () :=
    settled.suits id hid _ hl derives
  have self : g.typeWithin (g.ids.erase id) id = .error (g.circular id) := by
    rw [typeWithin, dif_neg (nodup_ids g).not_mem_erase]
  rw [typeOf, typeWithin, dif_pos (mem_ids.mpr hid), typeStep_of_derived hl, derivedType, found]
  simp only [bind, Except.bind, suits, self]

end Graph

end TypeSchema
