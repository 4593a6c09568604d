/-
# Labelling — the rules that say what a declaration is

`Rules` says what a declaration may be labelled, given the labels of all
others.  Only objects that refer to a declaration look at other labels: at
that of their base, the first declaration behind aliases and augmentations.

On a linked graph the rules leave no choice (`Obeys.alike`): what a
declaration is depends on what it refers to, and this never on the
declaration itself.  `verdict` finds the labelling by going along walks
once, without any labels to begin with (`obeys_verdicts`).
-/
import TypeSchema.Graph.Subtypes
import TypeSchema.Proofs.Graph.Resolution

namespace TypeSchema

open Declaration (Id Production Subtype Reference)

namespace Declaration

/-- The reference is a text that names nothing. -/
def Reference.isPlaceholder : Reference → Bool
  | .placeholder _ => true
  | _ => false

/-- The declaration only describes: its tags are descriptions and plurals,
and it gives no arity. -/
def IsPlain (d : Declaration) : Prop :=
  (∀ item ∈ d.metadata.items, item.tag = "description" ∨ item.tag = "plural") ∧ d.arity = none

theorem describes_iff (tag : String) :
    (Metadata.spec? tag).any (!·.createsNewType) ↔ tag = "description" ∨ tag = "plural" := by
  by_cases hd : tag = "description"
  · subst hd; decide
  · by_cases hp : tag = "plural"
    · subst hp; decide
    · -- all later tags of the catalog make types
      simp only [hd, hp, or_self, iff_false, Bool.not_eq_true, Option.any_eq_false]
      intro spec found
      have hmem := List.mem_of_find?_eq_some found
      have hname : spec.name = tag := by simpa using List.find?_some found
      have others : ∀ s ∈ Metadata.catalog,
          s.createsNewType = false → s.name = "description" ∨ s.name = "plural" := by decide
      cases hc : spec.createsNewType with
      | true => rfl
      | false =>
          rcases others spec hmem hc with h | h
          · exact absurd (hname.symm.trans h) hd
          · exact absurd (hname.symm.trans h) hp

theorem isPlain_iff {d : Declaration} :
    d.IsPlain ↔ (d.metadata.onlyDescribes && d.arity.isNone) = true := by
  simp only [IsPlain, Metadata.onlyDescribes, Bool.and_eq_true, List.all_eq_true, describes_iff,
    Option.isNone_iff_eq_none]

end Declaration

namespace Graph

/-! ## The rules -/

/-- What each declaration is taken for, if for anything. -/
abbrev Labels : Type := Id → Option Subtype

/-- What the declarations of a graph are taken for. -/
def labels (g : Graph) : Labels := fun id => (g.node id).subtype

/-- A search for something that is neither alias nor augmented ends here. -/
def halts (label : Option Subtype) : Bool := label != some .alias && label != some .augmented

/-- The first declaration on the walk from `id` that is neither alias nor
augmented, or else the last one. -/
def baseUnder (g : Graph) (ℓ : Labels) (id : Id) : Id :=
  ((g.walk id).find? fun i => halts (ℓ i)).getD ((g.walk id).getLastD id)

/-- The declaration stands directly in a source. -/
def onTop (g : Graph) (id : Id) : Bool :=
  (g.node id).parent.any fun parent => (g.node parent).production == .root

/-- An object whose base is `id` is compound. -/
def IsCompoundBase (g : Graph) (ℓ : Labels) (id : Id) : Prop :=
  (g.node id).isObject ∧ ℓ id = some .compound ∧ g.onTop id ∨ (g.node id).reference.isPlaceholder

instance (g : Graph) (ℓ : Labels) (id : Id) : Decidable (g.IsCompoundBase ℓ id) :=
  inferInstanceAs (Decidable (_ ∧ _ ∧ _ ∨ _))

/-- What `id` is, if the others are what `ℓ` says. -/
inductive Rules (g : Graph) (ℓ : Labels) (id : Id) : Subtype → Prop
  | root : (g.node id).production = .root → Rules g ℓ id .compound
  | extension : (g.node id).production = .extension → Rules g ℓ id .extension
  | config : (g.node id).production = .config → Rules g ℓ id .config
  | objectFree : (g.node id).production = .object → (g.node id).reference = .none →
      Rules g ℓ id .compound
  | objectFundamental {kind : Fundamental} : (g.node id).production = .object →
      (g.node id).reference = .fundamental kind → Rules g ℓ id .simple
  | objectPlaceholder {text : String} : (g.node id).production = .object →
      (g.node id).reference = .placeholder text → Rules g ℓ id .alias
  | objectCompound {target : Id} : (g.node id).production = .object →
      (g.node id).reference = .declaration target →
      g.IsCompoundBase ℓ (g.baseUnder ℓ target) → Rules g ℓ id .compound
  | objectSimple {target : Id} : (g.node id).production = .object →
      (g.node id).reference = .declaration target →
      ¬ g.IsCompoundBase ℓ (g.baseUnder ℓ target) → Rules g ℓ id .simple
  | leafFundamental {kind : Fundamental} : (g.node id).production = .leaf →
      (g.node id).reference = .fundamental kind → Rules g ℓ id .fundamental
  | leafPlaceholder {text : String} : (g.node id).production = .leaf →
      (g.node id).reference = .placeholder text → Rules g ℓ id .alias
  | leafAlias {target : Id} : (g.node id).production = .leaf →
      (g.node id).reference = .declaration target → (g.node id).IsPlain → Rules g ℓ id .alias
  | leafAugmented {target : Id} : (g.node id).production = .leaf →
      (g.node id).reference = .declaration target → ¬ (g.node id).IsPlain →
      Rules g ℓ id .augmented

/-- Every declaration is labelled as the rules say, going by the labels
themselves. -/
def Obeys (g : Graph) (ℓ : Labels) : Prop := ∀ id < g.size, ∃ s, ℓ id = some s ∧ g.Rules ℓ id s

/-! ## The rules as a function

Of all that the other labels say, a declaration only asks whether the base
of what it refers to makes an object compound. -/

/-- What a declaration is, where `overCompound` says whether an object over
its reference is compound. -/
def judge (d : Declaration) (overCompound : Bool) : Subtype :=
  match d.production, d.reference with
  | .root, _ => .compound
  | .extension, _ => .extension
  | .config, _ => .config
  | .object, .none => .compound
  | .object, .fundamental _ => .simple
  | .object, .placeholder _ => .alias
  | .object, _ => if overCompound then .compound else .simple
  | .leaf, .fundamental _ => .fundamental
  | .leaf, .placeholder _ => .alias
  | .leaf, _ => if d.metadata.onlyDescribes && d.arity.isNone then .alias else .augmented

/-- Only objects look at what they refer to. -/
theorem judge_of_not_object {d : Declaration} (h : d.production ≠ .object) (b b' : Bool) :
    judge d b = judge d b' := by
  cases hp : d.production with
  | object => exact absurd hp h
  | root => simp only [judge, hp]
  | extension => simp only [judge, hp]
  | config => simp only [judge, hp]
  | leaf => cases hr : d.reference <;> simp only [judge, hp, hr]

/-- Going by labels, an object over the reference of `d` is compound. -/
def overUnder (g : Graph) (ℓ : Labels) (d : Declaration) : Bool :=
  match d.reference with
  | .declaration target => decide (g.IsCompoundBase ℓ (g.baseUnder ℓ target))
  | _ => false

theorem Rules.eq_judge {g : Graph} {ℓ : Labels} {id : Id} {s : Subtype} (h : g.Rules ℓ id s) :
    s = judge (g.node id) (g.overUnder ℓ (g.node id)) := by
  cases h with
  | root hp => simp [judge, hp]
  | extension hp => simp [judge, hp]
  | config hp => simp [judge, hp]
  | objectFree hp hr => simp [judge, hp, hr]
  | objectFundamental hp hr => simp [judge, hp, hr]
  | objectPlaceholder hp hr => simp [judge, hp, hr]
  | objectCompound hp hr hb => simp [judge, overUnder, hp, hr, hb]
  | objectSimple hp hr hb => simp [judge, overUnder, hp, hr, hb]
  | leafFundamental hp hr => simp [judge, hp, hr]
  | leafPlaceholder hp hr => simp [judge, hp, hr]
  | leafAlias hp hr hd => simp only [judge, hp, hr, if_pos (Declaration.isPlain_iff.mp hd)]
  | leafAugmented hp hr hd =>
      have plain := mt Declaration.isPlain_iff.mpr hd
      simp only [judge, hp, hr, if_neg plain]

theorem Linked.not_unresolved {g : Graph} (linked : g.Linked) (id : Id) (text : String) :
    (g.node id).reference ≠ .unresolved text := by
  intro hr
  have allowed := linked.reference id
  rw [hr] at allowed
  cases hp : (g.node id).production <;> simp [hp, Production.AllowsSettled, Reference.isSettled]
    at allowed

theorem Linked.leaf_refers {g : Graph} (linked : g.Linked) {id : Id}
    (hp : (g.node id).production = .leaf) : (g.node id).reference ≠ .none := by
  intro hr
  have allowed := linked.reference id
  rw [hr, hp] at allowed
  cases allowed

/-- Where all references are looked up, some rule applies. -/
theorem rules_judge {g : Graph} (linked : g.Linked) (ℓ : Labels) (id : Id) :
    g.Rules ℓ id (judge (g.node id) (g.overUnder ℓ (g.node id))) := by
  suffices ∃ s, g.Rules ℓ id s by
    obtain ⟨s, hs⟩ := this
    exact hs.eq_judge ▸ hs
  cases hp : (g.node id).production with
  | root => exact ⟨_, .root hp⟩
  | extension => exact ⟨_, .extension hp⟩
  | config => exact ⟨_, .config hp⟩
  | object =>
      cases hr : (g.node id).reference with
      | none => exact ⟨_, .objectFree hp hr⟩
      | unresolved text => exact absurd hr (linked.not_unresolved id text)
      | fundamental kind => exact ⟨_, .objectFundamental hp hr⟩
      | placeholder text => exact ⟨_, .objectPlaceholder hp hr⟩
      | declaration target =>
          by_cases hb : g.IsCompoundBase ℓ (g.baseUnder ℓ target)
          · exact ⟨_, .objectCompound hp hr hb⟩
          · exact ⟨_, .objectSimple hp hr hb⟩
  | leaf =>
      cases hr : (g.node id).reference with
      | none => exact absurd hr (linked.leaf_refers hp)
      | unresolved text => exact absurd hr (linked.not_unresolved id text)
      | fundamental kind => exact ⟨_, .leafFundamental hp hr⟩
      | placeholder text => exact ⟨_, .leafPlaceholder hp hr⟩
      | declaration target =>
          by_cases hd : (g.node id).IsPlain
          · exact ⟨_, .leafAlias hp hr hd⟩
          · exact ⟨_, .leafAugmented hp hr hd⟩

/-- Judging a declaration in a graph is applying the rules to the labels that
the graph carries. -/
theorem subtypeOf_eq {g : Graph} (linked : g.Linked) (id : Id) :
    g.subtypeOf id = .ok (judge (g.node id) (g.overUnder g.labels (g.node id))) := by
  have base : ∀ target, g.isCompoundBase target
      = decide (g.IsCompoundBase g.labels (g.baseUnder g.labels target)) := by
    intro target
    have unfolded : g.isCompoundBase target =
        ((g.node (g.baseUnder g.labels target)).isObject &&
          g.labels (g.baseUnder g.labels target) == some .compound &&
          g.onTop (g.baseUnder g.labels target) ||
          (g.node (g.baseUnder g.labels target)).reference.isPlaceholder) := rfl
    rw [Bool.eq_iff_iff, decide_eq_true_eq, unfolded]
    simp [IsCompoundBase, and_assoc]
  cases hp : (g.node id).production with
  | root => simp [subtypeOf, judge, hp]
  | extension => simp [subtypeOf, judge, hp]
  | config => simp [subtypeOf, judge, hp]
  | object =>
      cases hr : (g.node id).reference with
      | none => simp [subtypeOf, judge, hp, hr]
      | unresolved text => exact absurd hr (linked.not_unresolved id text)
      | fundamental kind => simp [subtypeOf, judge, hp, hr]
      | placeholder text => simp [subtypeOf, judge, hp, hr]
      | declaration target => simp [subtypeOf, judge, overUnder, hp, hr, base]
  | leaf =>
      cases hr : (g.node id).reference with
      | none => exact absurd hr (linked.leaf_refers hp)
      | unresolved text => exact absurd hr (linked.not_unresolved id text)
      | fundamental kind => simp [subtypeOf, judge, hp, hr]
      | placeholder text => simp [subtypeOf, judge, hp, hr]
      | declaration target => simp [subtypeOf, judge, hp, hr]

/-! ## Bases -/

section Base

variable {g : Graph} {ℓ : Labels} {id target : Id}

theorem baseUnder_halts (acyclic : g.Acyclic) (h : halts (ℓ id)) : g.baseUnder ℓ id = id := by
  obtain ⟨rest, hwalk⟩ := walk_eq_cons (acyclic.hasCycle id)
  simp [baseUnder, hwalk, h]

theorem baseUnder_last (acyclic : g.Acyclic) (hn : g.next? id = none) :
    g.baseUnder ℓ id = id := by
  rw [baseUnder, walk_stop (acyclic.hasCycle id) hn]
  cases h : halts (ℓ id) <;> simp [h]

theorem baseUnder_next (acyclic : g.Acyclic) (h : halts (ℓ id) = false)
    (hn : g.next? id = some target) : g.baseUnder ℓ id = g.baseUnder ℓ target := by
  obtain ⟨i, rest, hrest⟩ : ∃ i rest, g.walk target = i :: rest :=
    List.exists_cons_of_ne_nil (List.ne_nil_of_mem (mem_walk_self (acyclic.hasCycle target)))
  simp [baseUnder, walk_step (acyclic.hasCycle id) hn, h, hrest, List.getLast?_cons]

end Base

/-! ## The rules leave no choice -/

end Graph

/-- A reference after a change of names. -/
def Declaration.Reference.map (σ : Id → Id) : Reference → Reference
  | .declaration id => .declaration (σ id)
  | r => r

namespace Graph

/-- Each declaration of `g` looks like the one of `h` that `σ` names: the two
are made alike, stand inside corresponding ones, and refer to corresponding
ones.  Nothing is said about the order in which they were made. -/
structure Alike (σ : Id → Id) (g h : Graph) : Prop where
  lt : ∀ {id}, id < g.size → σ id < h.size
  production : ∀ id, (h.node (σ id)).production = (g.node id).production
  parent : ∀ id, (h.node (σ id)).parent = (g.node id).parent.map σ
  reference : ∀ id, (h.node (σ id)).reference = (g.node id).reference.map σ
  plain : ∀ id, (h.node (σ id)).IsPlain ↔ (g.node id).IsPlain

/-- Whatever has the same links looks the same. -/
theorem Alike.of_sameLinks {g h : Graph} (s : SameLinks g h) : Alike id g h where
  lt := fun hid => s.size ▸ hid
  production := fun i => (s.frame.production i).symm
  parent := fun i => (s.frame.parent i).symm.trans Option.map_id'.symm
  reference := fun i => by
    show (h.node i).reference = _
    rw [← s.reference]
    cases (g.node i).reference <;> rfl
  plain := fun i => by
    show (h.node i).IsPlain ↔ _
    rw [Declaration.IsPlain, ← s.frame.metadata, ← s.frame.arity, Declaration.IsPlain]

section Alike

variable {σ : Id → Id} {g h : Graph} {ℓ m : Labels}

theorem Alike.next? (like : Alike σ g h) (id : Id) : h.next? (σ id) = (g.next? id).map σ := by
  have href := like.reference id
  simp only [Graph.next?, Declaration.target?_eq, href]
  cases (g.node id).reference <;> rfl

theorem Alike.onTop (like : Alike σ g h) (id : Id) : h.onTop (σ id) = g.onTop id := by
  simp only [Graph.onTop, like.parent]
  cases (g.node id).parent with
  | none => rfl
  | some p => simp [like.production]

theorem Alike.isCompoundBase (like : Alike σ g h) {b : Id} (hb : m (σ b) = ℓ b) :
    h.IsCompoundBase m (σ b) ↔ g.IsCompoundBase ℓ b := by
  have placeholder : (h.node (σ b)).reference.isPlaceholder
      = (g.node b).reference.isPlaceholder := by
    rw [like.reference]
    cases (g.node b).reference <;> rfl
  simp only [IsCompoundBase, Declaration.isObject, like.production, like.onTop, hb, placeholder]

/-- Declarations that look alike are judged alike. -/
theorem Alike.judge (like : Alike σ g h) (id : Id) (b : Bool) :
    Graph.judge (h.node (σ id)) b = Graph.judge (g.node id) b := by
  have plain : ((h.node (σ id)).metadata.onlyDescribes && (h.node (σ id)).arity.isNone)
      = ((g.node id).metadata.onlyDescribes && (g.node id).arity.isNone) := by
    rw [Bool.eq_iff_iff, ← Declaration.isPlain_iff, ← Declaration.isPlain_iff]
    exact like.plain id
  simp only [Graph.judge, like.production, like.reference, plain]
  cases (g.node id).production <;> cases (g.node id).reference <;> rfl

/-- Labels, and the bases that they lead to, correspond below `id`. -/
structure Corresponds (σ : Id → Id) (g h : Graph) (ℓ m : Labels) (id : Id) : Prop where
  label : m (σ id) = ℓ id
  base : h.baseUnder m (σ id) = σ (g.baseUnder ℓ id)
  labelBase : m (σ (g.baseUnder ℓ id)) = ℓ (g.baseUnder ℓ id)

/-- Corresponding labels of a declaration lead to corresponding bases, if
those of what it refers to do. -/
theorem Corresponds.of_label (like : Alike σ g h) (hg : g.Acyclic) (hh : h.Acyclic) {id : Id}
    (label : m (σ id) = ℓ id) (behind : halts (ℓ id) = false → ∀ target, g.next? id = some target →
      Corresponds σ g h ℓ m target) : Corresponds σ g h ℓ m id := by
  cases hl : halts (ℓ id) with
  | true =>
      have hb := baseUnder_halts hg hl
      refine ⟨label, ?_, by rw [hb, label]⟩
      rw [hb, baseUnder_halts hh (label.symm ▸ hl)]
  | false =>
      cases hn : g.next? id with
      | none =>
          have hb : g.baseUnder ℓ id = id := baseUnder_last hg hn
          have hn' : h.next? (σ id) = none := by rw [like.next?, hn]; rfl
          refine ⟨label, ?_, by rw [hb, label]⟩
          rw [hb, baseUnder_last hh hn']
      | some target =>
          have hb := baseUnder_next hg hl hn
          have hn' : h.next? (σ id) = some (σ target) := by rw [like.next?, hn]; rfl
          have later := behind hl target hn
          refine ⟨label, ?_, hb ▸ later.labelBase⟩
          rw [hb, baseUnder_next hh (label.symm ▸ hl) hn']
          exact later.base

/-- Corresponding bases are judged alike. -/
theorem Corresponds.overUnder_eq (like : Alike σ g h) {id : Id}
    (behind : ∀ target, g.next? id = some target → Corresponds σ g h ℓ m target) :
    h.overUnder m (h.node (σ id)) = g.overUnder ℓ (g.node id) := by
  cases hr : (g.node id).reference with
  | declaration target =>
      have later := behind target (next?_eq_some.mpr hr)
      simp only [overUnder, like.reference, hr, Reference.map, later.base,
        like.isCompoundBase later.labelBase]
  | none => simp [overUnder, like.reference, hr, Reference.map]
  | unresolved text => simp [overUnder, like.reference, hr, Reference.map]
  | fundamental kind => simp [overUnder, like.reference, hr, Reference.map]
  | placeholder text => simp [overUnder, like.reference, hr, Reference.map]

/-- Labellings that obey the rules on graphs that look alike are alike. -/
theorem Obeys.alike (like : Alike σ g h) (hg : g.Linked) (hh : h.Linked) (obeys : g.Obeys ℓ)
    (obeys' : h.Obeys m) {id : Id} (hid : id < g.size) : m (σ id) = ℓ id := by
  suffices id < g.size → Corresponds σ g h ℓ m id from (this hid).label
  refine hg.acyclic.induction (motive := fun id => id < g.size → Corresponds σ g h ℓ m id)
    (fun id ih hid => ?_) id
  have behind : ∀ target, g.next? id = some target → Corresponds σ g h ℓ m target :=
    fun target hn => ih target hn (hg.target (next?_eq_some.mp hn)).1
  obtain ⟨s, hs, rule⟩ := obeys id hid
  obtain ⟨s', hs', rule'⟩ := obeys' (σ id) (like.lt hid)
  have same : s' = s := by
    rw [rule'.eq_judge, like.judge, Corresponds.overUnder_eq like behind, ← rule.eq_judge]
  exact .of_label like hg.acyclic hh.acyclic (by rw [hs, hs', same]) fun _ => behind

/-- The rules read frames and references only. -/
theorem Obeys.congr (linked : g.Linked) (s : SameLinks g h) (obeys : g.Obeys ℓ) : h.Obeys ℓ := by
  have like : Alike id g h := .of_sameLinks s
  intro i hi
  obtain ⟨label, hl, rule⟩ := obeys i (s.size ▸ hi)
  refine ⟨label, hl, ?_⟩
  have base : ∀ target, h.baseUnder ℓ target = g.baseUnder ℓ target := fun target => by
    simp only [baseUnder, walk_congr s]
  have same : h.overUnder ℓ (h.node i) = g.overUnder ℓ (g.node i) :=
    Corresponds.overUnder_eq like fun target _ => ⟨rfl, base target, rfl⟩
  have judged : judge (h.node i) (h.overUnder ℓ (h.node i)) = label := by
    rw [same, rule.eq_judge]
    exact like.judge i _
  exact judged ▸ rules_judge (linked.congr s) ℓ i

/-- At most one labelling obeys the rules. -/
theorem Obeys.unique (linked : g.Linked) (obeys : g.Obeys ℓ) (obeys' : g.Obeys m) {id : Id}
    (hid : id < g.size) : m id = ℓ id :=
  obeys.alike (.of_sameLinks (.refl g)) linked linked obeys' hid

end Alike

/-! ## The labelling that obeys -/

/-- Whether an object is compound that refers to the first of these
declarations, of which each refers to the next.  Leaves are passed over; all
objects have to stand directly in a source. -/
def compoundAlong (g : Graph) : List Id → Bool
  | [] => false
  | id :: rest =>
    match (g.node id).production, (g.node id).reference with
    | _, .placeholder _ => true
    | .object, .none => g.onTop id
    | .object, .declaration _ => g.onTop id && g.compoundAlong rest
    | .leaf, .declaration _ => g.compoundAlong rest
    | _, _ => false

/-- An object over the reference of `d` is compound. -/
def overCompound (g : Graph) (d : Declaration) : Bool :=
  match d.reference with
  | .declaration target => g.compoundAlong (g.walk target)
  | _ => false

/-- What a declaration is. -/
def verdict (g : Graph) (id : Id) : Subtype := judge (g.node id) (g.overCompound (g.node id))

/-- What all declarations are. -/
def verdicts (g : Graph) : Labels := fun id => some (g.verdict id)

section Verdict

variable {g : Graph} (linked : g.Linked)
include linked

omit linked in
/-- A declaration at the end of a walk is its own base. -/
theorem isCompoundBase_last {id : Id} (named : (g.node id).production.isNamed)
    (hn : g.next? id = none) (known : ∀ text, (g.node id).reference ≠ .unresolved text) :
    g.IsCompoundBase g.verdicts id ↔ g.compoundAlong [id] := by
  cases hr : (g.node id).reference with
  | declaration target => exact absurd hr (next?_eq_none.mp hn target)
  | unresolved text => exact absurd hr (known text)
  | none =>
      cases hp : (g.node id).production <;>
        simp_all [compoundAlong, IsCompoundBase, Declaration.isObject, verdicts, verdict, judge,
          Reference.isPlaceholder, Production.isNamed]
  | fundamental kind =>
      cases hp : (g.node id).production <;>
        simp_all [compoundAlong, IsCompoundBase, Declaration.isObject, verdicts, verdict, judge,
          Reference.isPlaceholder, Production.isNamed]
  | placeholder text =>
      simp [compoundAlong, IsCompoundBase, hr, Reference.isPlaceholder]

/-- Going along a walk finds out about the base that the labels lead to. -/
theorem isCompoundBase_verdicts {id : Id} (named : (g.node id).production.isNamed) :
    g.IsCompoundBase g.verdicts (g.baseUnder g.verdicts id) ↔ g.compoundAlong (g.walk id) := by
  refine linked.acyclic.induction (motive := fun id => (g.node id).production.isNamed →
    (g.IsCompoundBase g.verdicts (g.baseUnder g.verdicts id) ↔ g.compoundAlong (g.walk id)))
    (fun id ih named => ?_) id named
  have acyclic := linked.acyclic
  have hcycle := acyclic.hasCycle id
  cases hn : g.next? id with
  | none =>
      rw [baseUnder_last acyclic hn, walk_stop hcycle hn]
      exact isCompoundBase_last named hn (linked.not_unresolved id)
  | some target =>
      have hr := next?_eq_some.mp hn
      have behind := ih target hn (linked.target hr).2
      rw [walk_step hcycle hn]
      cases hp : (g.node id).production with
      | root => simp [hp, Production.isNamed] at named
      | extension => simp [hp, Production.isNamed] at named
      | config =>
          have hv : halts (g.verdicts id) := by simp [halts, verdicts, verdict, judge, hp]
          rw [baseUnder_halts acyclic hv]
          simp [compoundAlong, IsCompoundBase, Declaration.isObject, Reference.isPlaceholder,
            hp, hr]
      | object =>
          have hv : g.verdicts id
              = some (if g.compoundAlong (g.walk target) then .compound else .simple) := by
            simp [verdicts, verdict, judge, overCompound, hp, hr]
          have halting : halts (g.verdicts id) := by
            rw [hv]
            split <;> rfl
          rw [baseUnder_halts acyclic halting]
          simp [compoundAlong, IsCompoundBase, Declaration.isObject, Reference.isPlaceholder, hp,
            hr, hv, and_comm]
      | leaf =>
          have passing : halts (g.verdicts id) = false := by
            simp only [halts, verdicts, verdict, judge, hp, hr]
            split <;> rfl
          rw [baseUnder_next acyclic passing hn, behind]
          simp [compoundAlong, hp, hr]

theorem overUnder_verdicts (id : Id) :
    g.overUnder g.verdicts (g.node id) = g.overCompound (g.node id) := by
  unfold overUnder overCompound
  cases hr : (g.node id).reference with
  | declaration target =>
      simp only [isCompoundBase_verdicts linked (linked.target hr).2, Bool.decide_eq_true]
  | none => rfl
  | unresolved text => rfl
  | fundamental kind => rfl
  | placeholder text => rfl

/-- The verdicts obey the rules. -/
theorem obeys_verdicts : g.Obeys g.verdicts := by
  intro id _
  refine ⟨_, rfl, ?_⟩
  rw [verdict, ← overUnder_verdicts linked]
  exact rules_judge linked g.verdicts id

/-! ## Simple objects

An object that leads to a simple one through references is simple itself. -/

/-- Where a walk makes an object compound, it passes no simple one. -/
theorem not_simple_of_compoundAlong {id : Id} (h : g.compoundAlong (g.walk id)) {s : Id}
    (hs : s ∈ g.walk id) : g.verdict s ≠ .simple := by
  refine linked.acyclic.induction (motive := fun id => g.compoundAlong (g.walk id) →
    ∀ s ∈ g.walk id, g.verdict s ≠ .simple) (fun id ih h s hs => ?_) id h s hs
  have hcycle := linked.acyclic.hasCycle id
  cases hn : g.next? id with
  | none =>
      rw [walk_stop hcycle hn] at h hs
      rw [List.mem_singleton.mp hs]
      cases hp : (g.node id).production <;> cases hr : (g.node id).reference <;>
        simp_all [compoundAlong, verdict, judge]
  | some target =>
      have hr := next?_eq_some.mp hn
      rw [walk_step hcycle hn] at h hs
      have hv : g.overCompound (g.node id) = g.compoundAlong (g.walk target) := by
        simp [overCompound, hr]
      cases hp : (g.node id).production with
      | object =>
          obtain ⟨_, behind⟩ : g.onTop id ∧ g.compoundAlong (g.walk target) := by
            simpa [compoundAlong, hp, hr] using h
          rcases List.mem_cons.mp hs with rfl | hs
          · simp [verdict, judge, hp, hr, hv, behind]
          · exact ih target hn behind s hs
      | leaf =>
          have behind : g.compoundAlong (g.walk target) := by
            simpa [compoundAlong, hp, hr] using h
          rcases List.mem_cons.mp hs with rfl | hs
          · simp only [verdict, judge, hp, hr]
            split <;> simp
          · exact ih target hn behind s hs
      | root => simp [compoundAlong, hp, hr] at h
      | extension => simp [compoundAlong, hp, hr] at h
      | config => simp [compoundAlong, hp, hr] at h

/-- Following references from `id`, at least one, comes to `target`. -/
def Leads (g : Graph) (id target : Id) : Prop :=
  ∃ next, g.next? id = some next ∧ target ∈ g.walk next

omit linked in
theorem Leads.congr {h : Graph} (s : SameLinks g h) {id target : Id} (leads : g.Leads id target) :
    h.Leads id target := by
  obtain ⟨next, hn, hmem⟩ := leads
  exact ⟨next, next?_congr s id ▸ hn, walk_congr s next ▸ hmem⟩

theorem simple_of_leads {id s : Id} (hp : (g.node id).production = .object) (h : g.Leads id s)
    (hs : g.verdict s = .simple) : g.verdict id = .simple := by
  obtain ⟨target, hn, hmem⟩ := h
  have hr := next?_eq_some.mp hn
  cases hc : g.compoundAlong (g.walk target) with
  | true => exact absurd hs (not_simple_of_compoundAlong linked hc hmem)
  | false => simp [verdict, judge, overCompound, hp, hr, hc]

end Verdict

end Graph

end TypeSchema
