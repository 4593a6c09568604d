/-
# Mirror — the types of one graph under other numbers

In two mirrored graphs that agree on subtypes and keys (`Twins`), a
declaration and its counterpart derive from counterparts, under tags that
differ in their places at most.  So the same types are made of them, or the
same errors, up to the places that are blamed (`SameOutcome`).

The order of children bears on the type of a root only, and nothing asks for
the type of a root: members and what references name are no roots
(`typeStep`).  The recursion then goes through both graphs side by side, over
lists of free declarations that correspond (`typeWithin`).
-/
import TypeSchema.Graph.Types
import TypeSchema.Proofs.Graph.Mirror

namespace TypeSchema

open Declaration (Id Production Subtype Reference Target)
open SchemaError (SameOutcome)

/-! ## Outcomes of checks and loops -/

namespace SchemaError.SameOutcome

variable {α β γ ι : Type}

/-- The rest of two computations whose first results correspond by `f`. -/
theorem bind_map {x : Except SchemaError β} {y : Except SchemaError α} {f : α → β}
    {k : β → Except SchemaError γ} {k' : α → Except SchemaError γ} (h : SameOutcome x (y.map f))
    (hk : ∀ a, y = .ok a → SameOutcome (k (f a)) (k' a)) :
    SameOutcome (x >>= k) (y >>= k') := by
  cases y with
  | ok a =>
      cases h.ok_iff.mpr rfl
      exact hk a rfl
  | error e =>
      rcases h.cases with ⟨b, _, failed⟩ | ⟨e', e'', rfl, failed, same⟩
      · cases failed
      · cases failed
        exact error same

/-- Checks with the same outcomes, one by one. -/
theorem forM {f f' : ι → Except SchemaError Unit} {g : ι → ι} {is : List ι}
    (h : ∀ i ∈ is, SameOutcome (f i) (f' (g i))) :
    SameOutcome (is.forM f) ((is.map g).forM f') := by
  induction is with
  | nil => rfl
  | cons i is ih =>
      exact (h i List.mem_cons_self).bind fun _ => ih fun j hj => h j (List.mem_cons_of_mem _ hj)

end SchemaError.SameOutcome

/-! ## Tags in other places -/

namespace Metadata

theorem Item.check_unplaced (item : Item) : SameOutcome item.check item.unplaced.check := by
  have tag : item.unplaced.tag = item.tag := rfl
  have value : item.unplaced.value = item.value := rfl
  unfold Item.check
  rw [tag, value]
  cases spec? item.tag with
  | none => exact .error rfl
  | some spec =>
      dsimp only
      split
      · exact .refl _
      · exact .error rfl

theorem Item.checkForObject_unplaced (item : Item) :
    SameOutcome item.checkForObject item.unplaced.checkForObject := by
  refine item.check_unplaced.bind fun spec => ?_
  cases spec.appliesToObjects with
  | true => exact .refl _
  | false => exact .error rfl

theorem checkForObject_unplaced (m : Metadata) :
    SameOutcome m.checkForObject m.unplaced.checkForObject :=
  .forM fun item _ => item.checkForObject_unplaced

/-- Tags in other places suit an object or not, all the same. -/
theorem checkForObject_places {m n : Metadata} (same : m.unplaced = n.unplaced) :
    SameOutcome m.checkForObject n.checkForObject :=
  m.checkForObject_unplaced.trans (same ▸ n.checkForObject_unplaced.symm)

theorem value?_places {m n : Metadata} (same : m.unplaced = n.unplaced) (tag : String) :
    m.value? tag = n.value? tag := by
  rw [← value?_unplaced, same, value?_unplaced]

end Metadata

theorem Kind.taggedBy_unplaced (base : Fundamental) (k : Kind) (item : Metadata.Item) :
    SameOutcome (k.taggedBy base item) (k.taggedBy base item.unplaced) := by
  refine item.check_unplaced.bind fun spec => ?_
  cases spec.appliesTo base with
  | true => exact .placedAt _ _ _
  | false => exact .error rfl

theorem ValueType.ofMetadata_unplaced (base : Fundamental) (m : Metadata) (place : Location) :
    SameOutcome (ofMetadata base m place) (ofMetadata base m.unplaced .api) :=
  (SameOutcome.foldlM (fun item _ k => k.taggedBy_unplaced base item) _).bind fun _ =>
    .placedAt _ _ _

/-- Tags in other places come to the same type. -/
theorem ValueType.ofMetadata_places {m n : Metadata} (same : m.unplaced = n.unplaced)
    (base : Fundamental) (place place' : Location) :
    SameOutcome (ofMetadata base m place) (ofMetadata base n place') :=
  (ofMetadata_unplaced base m place).trans (same ▸ (ofMetadata_unplaced base n place').symm)

namespace Graph

/-! ## Roots are out of reach -/

section Derived

variable {g : Graph}

theorem mem_of_deriveAlong {lost : SchemaError} {is : List Id} {r : Derivation} {object : Id}
    (h : g.deriveAlong lost is = .ok r) (ht : r.target = .declaration object) : object ∈ is := by
  induction is generalizing r with
  | nil => cases h
  | cons i is ih =>
      have further : (g.deriveAlong lost is).map (fun r => (⟨i :: r.chain, r.target⟩ : Derivation))
          = .ok r → object ∈ i :: is := by
        intro h
        cases hr : g.deriveAlong lost is with
        | error e => rw [hr] at h; cases h
        | ok r' =>
            rw [hr] at h
            cases h
            exact List.mem_cons_of_mem _ (ih hr ht)
      simp only [deriveAlong] at h
      split at h
      · cases h
        cases ht
        exact List.mem_cons_self
      · cases href : (g.node i).reference with
        | none => rw [href] at h; exact further h
        | declaration target => rw [href] at h; exact further h
        | fundamental kind => rw [href] at h; cases h; cases ht
        | placeholder text => rw [href] at h; cases h
        | unresolved text => rw [href] at h; cases h

theorem Linked.target_ne_root (linked : g.Linked) {i target : Id}
    (href : (g.node i).reference = .declaration target) : (g.node target).production ≠ .root := by
  intro root
  have := (linked.target href).2
  rw [root] at this
  cases this

theorem Chain.ne_root (linked : g.Linked) {i : Id} {is : List Id} (chain : Chain g i is)
    (hi : (g.node i).production ≠ .root) : ∀ j ∈ is, (g.node j).production ≠ .root := by
  induction chain with
  | stop _ => exact List.forall_mem_singleton.mpr hi
  | step next _ ih =>
      exact List.forall_mem_cons.mpr ⟨hi, ih (linked.target_ne_root (next?_eq_some.mp next))⟩

/-- What is no root derives from no root. -/
theorem Linked.derived_ne_root (linked : g.Linked) {i : Id} (hi : (g.node i).production ≠ .root)
    {r : Derivation} (derived : g.derivation i = .ok r) (object : Id)
    (ht : r.target = .declaration object) : (g.node object).production ≠ .root :=
  (chain_walk (linked.acyclic.hasCycle i)).1.ne_root linked hi object
    (mem_of_deriveAlong derived ht)

end Derived

/-! ## Mirrored graphs in which everything has been found out -/

/-- The derivation after a change of numbers. -/
def Derivation.map (σ : Id → Id) (r : Derivation) : Derivation where
  chain := r.chain.map σ
  target := r.target.map σ

/-- Mirrored graphs that agree on what has been found out about declarations. -/
structure Twins (σ : Equiv.Perm Nat) (g h : Graph) : Prop extends Mirror σ g h where
  subtype : ∀ i, (h.node (σ i)).subtype = (g.node i).subtype
  key : ∀ i, (h.node (σ i)).key = (g.node i).key
  isNewType : ∀ i, (h.node (σ i)).isNewType = (g.node i).isNewType

/-- The class of a simple object over what has the type `base`. -/
def classOver (d : Declaration) (own : List Member) : Option ValueType →
    Except SchemaError ValueType
  | some base =>
    match base.kind.object? with
    | some (members, _) => Graph.classOf d (Member.join own members)
    | none => Graph.classOf d (own ++ [.mk (Graph.valueName d) (base.withArity .single)])
  | none => .error (.unsupported .baselessSimple d.location)

namespace Twins

variable {σ : Equiv.Perm Nat} {g h : Graph} (t : Twins σ g h)
include t

theorem label (i : Id) : (h.node (σ i)).label = (g.node i).label := by
  rw [Declaration.label, Declaration.label, t.key, t.name]

theorem circular (i : Id) : (h.circular (σ i)).unplaced = (g.circular i).unplaced := by
  rw [Graph.circular, Graph.circular, t.label]
  rfl

/-! ## Derivations -/

theorem deriveAlong {lost lost' : SchemaError} (same : lost'.unplaced = lost.unplaced)
    (is : List Id) :
    SameOutcome (h.deriveAlong lost' (is.map σ))
      ((g.deriveAlong lost is).map (Derivation.map σ)) := by
  induction is with
  | nil => exact .error same
  | cons i is ih =>
      simp only [List.map_cons, Graph.deriveAlong, t.isObject, t.reference]
      have further : SameOutcome
          ((h.deriveAlong lost' (is.map σ)).map fun r => ⟨σ i :: r.chain, r.target⟩)
          (((g.deriveAlong lost is).map fun r => ⟨i :: r.chain, r.target⟩).map
            (Derivation.map σ)) := by
        have := ih.map fun r => (⟨σ i :: r.chain, r.target⟩ : Derivation)
        cases hr : g.deriveAlong lost is <;> rwa [hr] at this
      split
      · rfl
      · cases (g.node i).reference with
        | none => exact further
        | declaration target => exact further
        | fundamental kind => rfl
        | placeholder text => exact .error rfl
        | unresolved text => exact .error rfl

theorem derivation (i : Id) :
    SameOutcome (h.derivation (σ i)) ((g.derivation i).map (Derivation.map σ)) := by
  rw [Graph.derivation, Graph.derivation, t.walk]
  exact t.deriveAlong (t.circular i) (g.walk i)

theorem derivation_metadata (r : Derivation) :
    ((r.map σ).metadata h).unplaced = (r.metadata g).unplaced := by
  have along : ∀ is : List Id,
      ((is.map σ).foldr (fun id tags => (h.node id).metadata.overlay tags) .empty).unplaced
        = (is.foldr (fun id tags => (g.node id).metadata.overlay tags) .empty).unplaced := by
    intro is
    induction is with
    | nil => rfl
    | cons i is ih =>
        simp only [List.map_cons, List.foldr_cons, Metadata.overlay_unplaced, ih, t.metadata]
  exact along r.chain

theorem derivation_arity? (r : Derivation) : (r.map σ).arity? h = r.arity? g := by
  have along : ∀ is : List Id, (is.map σ).findSome? (fun id => (h.node id).arity)
      = is.findSome? fun id => (g.node id).arity := by
    intro is
    induction is with
    | nil => rfl
    | cons i is ih => simp only [List.map_cons, List.findSome?_cons, t.arity, ih]
  exact along r.chain

/-! ## Checks -/

theorem checkDerived (i : Id) : SameOutcome (h.checkDerived (σ i)) (g.checkDerived i) := by
  unfold Graph.checkDerived
  rcases (t.derivation i).cases with ⟨r', hr', hr⟩ | ⟨e', e, he', he, same⟩
  · cases hd : g.derivation i with
    | error e => rw [hd] at hr; cases hr
    | ok r =>
        rw [hd] at hr
        cases hr
        rw [hr']
        have tags := t.derivation_metadata r
        obtain ⟨chain, target⟩ := r
        cases target with
        | declaration object => exact Metadata.checkForObject_places tags
        | fundamental kind => exact (ValueType.ofMetadata_places tags kind _ _).map _
  · cases hd : g.derivation i with
    | ok r => rw [hd] at he; cases he
    | error e₁ =>
        rw [hd] at he
        cases he
        rw [he']
        -- a placeholder is passed over, whatever place is blamed for it
        cases e' <;> cases e <;> cases same <;> rfl

theorem checkMetadata (i : Id) : SameOutcome (h.checkMetadata (σ i)) (g.checkMetadata i) := by
  unfold Graph.checkMetadata
  rw [t.subtype]
  have object := Metadata.checkForObject_places (t.metadata i)
  cases (g.node i).subtype with
  | none => exact .refl _
  | some s =>
      cases s with
      | extension => exact .refl _
      | compound => exact object
      | simple => exact object
      | _ => exact t.checkDerived i

/-! ## Types -/

theorem isMember (i : Id) : h.isMember (σ i) = g.isMember i := by
  rw [Graph.isMember, Graph.isMember, t.role, t.production]

theorem isExact (i : Id) :
    Graph.isExact (h.node (σ i)).metadata = Graph.isExact (g.node i).metadata := by
  rw [Graph.isExact, Graph.isExact, Metadata.value?_places (t.metadata i)]

theorem valueName (i : Id) : Graph.valueName (h.node (σ i)) = Graph.valueName (g.node i) := by
  rw [Graph.valueName, Graph.valueName, Metadata.valueOrDefault, Metadata.valueOrDefault,
    Metadata.value?_places (t.metadata i), t.name]

theorem classOf (i : Id) (members : List Member) :
    SameOutcome (Graph.classOf (h.node (σ i)) members) (Graph.classOf (g.node i) members) := by
  have arity : (h.node (σ i)).effectiveArity = (g.node i).effectiveArity := by
    rw [Declaration.effectiveArity, Declaration.effectiveArity, t.arity]
  unfold Graph.classOf
  rw [t.isExact, arity]
  exact (SameOutcome.placedAt _ _ _).bind fun _ => .refl _

theorem classOver (own : List Member) (base : Option ValueType) (i : Id) :
    SameOutcome (Graph.classOver (h.node (σ i)) own base)
      (Graph.classOver (g.node i) own base) := by
  cases base with
  | none => exact .error rfl
  | some base =>
      simp only [Graph.classOver, t.valueName]
      cases base.kind.object? with
      | none => exact t.classOf i _
      | some found => exact t.classOf i _

end Twins

/-- Two typings that agree on all declarations but roots, under new numbers in the second. -/
def SameTyping (σ : Equiv.Perm Nat) (g : Graph) (typing typing' : Typing) : Prop :=
  ∀ i, (g.node i).production ≠ .root → SameOutcome (typing' (σ i)) (typing i)

namespace Twins

section Step

variable {σ : Equiv.Perm Nat} {g h : Graph} (t : Twins σ g h) {typing typing' : Typing}
  (same : SameTyping σ g typing typing')
include t same

theorem addMembers (members : List Member) {children : List Id}
    (named : ∀ c ∈ children, (g.node c).production ≠ .root) :
    SameOutcome (h.addMembers typing' members (children.map σ))
      (g.addMembers typing members children) := by
  refine (SameOutcome.foldlM (fun c hc done => ?_) members).symm
  rw [t.name]
  exact (same c (named c hc)).symm.bind fun _ => .refl _

theorem inherited (linked : g.Linked) (i : Id) :
    SameOutcome (Graph.inherited typing' (h.node (σ i))) (Graph.inherited typing (g.node i)) := by
  unfold Graph.inherited
  rw [t.reference]
  cases href : (g.node i).reference with
  | declaration target =>
      exact (same target (linked.target_ne_root href)).map some
  | _ => exact .refl _

theorem compoundType (linked : g.Linked) {i : Id} (hi : (g.node i).production ≠ .root) :
    SameOutcome (h.compoundType typing' (h.node (σ i))) (g.compoundType typing (g.node i)) := by
  unfold Graph.compoundType
  have members : (h.node (σ i)).children.filter h.isMember
      = ((g.node i).children.filter g.isMember).map σ := by
    rw [t.children i hi, List.filter_map]
    exact congrArg (List.map σ) (List.filter_congr fun c _ => t.isMember c)
  rw [members]
  refine (t.inherited same linked i).bind fun base => ?_
  refine (t.addMembers same _ fun c hc => ?_).bind fun members => t.classOf i members
  intro root
  have := (List.mem_filter.mp hc).2
  simp [Graph.isMember, root] at this

theorem simpleType (linked : g.Linked) {i : Id} (hi : (g.node i).production ≠ .root) :
    SameOutcome (h.simpleType typing' (h.node (σ i))) (g.simpleType typing (g.node i)) := by
  unfold Graph.simpleType
  have attributes : ((h.node (σ i)).children.filter fun c => (h.node c).role == .attr)
      = ((g.node i).children.filter fun c => (g.node c).role == .attr).map σ := by
    rw [t.children i hi, List.filter_map]
    exact congrArg (List.map σ) (List.filter_congr fun c _ => by
      rw [Function.comp_apply, t.role])
  rw [attributes]
  refine (t.addMembers same _ fun c hc => ?_).bind fun own => ?_
  · have role := beq_iff_eq.mp (List.mem_filter.mp hc).2
    have := (linked.tree.shaped c).role (by simp [role])
    rcases this with hp | hp <;> simp [hp]
  · refine (t.inherited same linked i).bind fun base => ?_
    have whole := t.classOver own base i
    rw [t.reference]
    cases href : (g.node i).reference with
    | fundamental kind =>
        refine (ValueType.ofMetadata_places rfl kind _ _).bind fun value => ?_
        rw [t.valueName]
        exact t.classOf i _
    | none => cases base <;> exact whole
    | declaration target => cases base <;> exact whole
    | placeholder text => cases base <;> exact whole
    | unresolved text => cases base <;> exact whole

omit t same in
theorem retagged (base : ValueType) {tags tags' : Metadata} (tagged : tags'.unplaced = tags.unplaced)
    (place place' : Location) :
    SameOutcome (Graph.retagged base tags' place') (Graph.retagged base tags place) := by
  have absent : (tags'.find? "require_exact_match").isNone
      = (tags.find? "require_exact_match").isNone := by
    have := congrArg Option.isNone (congrArg (·.find? "require_exact_match") tagged)
    simpa only [Metadata.find?_unplaced, Option.isNone_map] using this
  have exact : Graph.isExact tags' = Graph.isExact tags := by
    rw [Graph.isExact, Graph.isExact, Metadata.value?_places tagged]
  unfold Graph.retagged
  rw [absent, exact]
  split
  · exact .refl _
  · cases base.kind.object? with
    | none => exact .refl _
    | some found => exact (SameOutcome.placedAt _ _ _).map _

theorem derivedType (linked : g.Linked) {i : Id} (hi : (g.node i).production ≠ .root) :
    SameOutcome (h.derivedType typing' (σ i)) (g.derivedType typing i) := by
  unfold Graph.derivedType
  refine (t.derivation i).bind_map fun r derived => ?_
  have tags := t.derivation_metadata r
  have arity := t.derivation_arity? r
  simp only [arity]
  have notRoot := linked.derived_ne_root hi derived
  obtain ⟨chain, target⟩ := r
  cases target with
  | fundamental kind => exact (ValueType.ofMetadata_places tags kind _ _).bind fun _ => .refl _
  | declaration object =>
      refine (Metadata.checkForObject_places tags).bind fun _ => ?_
      refine (same object (notRoot object rfl)).bind fun base => ?_
      exact (retagged base tags _ _).bind fun _ => .refl _

theorem typeStep (linked : g.Linked) {i : Id} (hi : (g.node i).production ≠ .root) :
    SameOutcome (h.typeStep typing' (σ i)) (g.typeStep typing i) := by
  simp only [Graph.typeStep, t.subtype]
  cases (g.node i).subtype with
  | none => exact .error rfl
  | some s =>
      cases s with
      | compound => exact t.compoundType same linked hi
      | simple => exact t.simpleType same linked hi
      | extension => exact .error rfl
      | _ => exact t.derivedType same linked hi

end Step

section Recursion

variable {σ : Equiv.Perm Nat} {g h : Graph} (t : Twins σ g h)
include t

/-- Side by side, over free declarations that correspond, in whatever order. -/
theorem typeWithin (linked : g.Linked) {free free' : List Id} (perm : free'.Perm (free.map σ))
    {i : Id} (hi : (g.node i).production ≠ .root) :
    SameOutcome (h.typeWithin free' (σ i)) (g.typeWithin free i) := by
  induction hn : free.length using Nat.strongRecOn generalizing free free' i with
  | ind n ih =>
      have mem : σ i ∈ free' ↔ i ∈ free := perm.mem_iff.trans Mirror.mem_map_iff
      rw [Graph.typeWithin, Graph.typeWithin]
      by_cases hfree : i ∈ free
      · rw [dif_pos hfree, dif_pos (mem.mpr hfree)]
        refine t.typeStep (fun j hj => ?_) linked hi
        have shorter : (free.erase i).length < n := by
          rw [List.length_erase_of_mem hfree, hn]
          exact Nat.sub_lt (hn ▸ List.length_pos_of_mem hfree) Nat.one_pos
        have erased : (free'.erase (σ i)).Perm ((free.erase i).map σ) := by
          rw [List.map_erase σ.injective]
          exact perm.erase _
        exact ih _ shorter erased hj rfl
      · rw [dif_neg hfree, dif_neg (mt mem.mp hfree)]
        exact .error (t.circular i)

theorem ids : h.ids.Perm (g.ids.map σ) := by
  refine (List.perm_ext_iff_of_nodup h.nodup_ids (g.nodup_ids.map σ.injective)).mpr fun j => ?_
  obtain ⟨i, rfl⟩ := σ.surjective j
  rw [mem_ids, t.lt_iff, Mirror.mem_map_iff, mem_ids]

/-- Counterparts describe the same type, or none for the same reason. -/
theorem typeOf (linked : g.Linked) {i : Id} (hi : (g.node i).production ≠ .root) :
    SameOutcome (h.typeOf (σ i)) (g.typeOf i) :=
  t.typeWithin linked t.ids hi

end Recursion

end Twins

end Graph

end TypeSchema
