/-
# Scoping — what a text names, read off the tree

Looking up goes through a list of scopes and takes the first find.  Read off
the tree, the names of a text lead from child to child, the first one not to
the declaration itself (`Admits`), and of the declarations around it the
innermost one that admits them counts (`Nearest`), then the first of the
included roots (`Foremost`), then the keywords.  Where siblings have different
names there is one child of a name, so `Denotes` leaves no choice and says
just what is looked up (`denotes_iff`).

What stands outside the nearest scope plays no part in this.  When
declarations are added there (`GrowsOutside`), all that lies between the
declaration and this scope stays, under other numbers, and so does the find
(`GrowsOutside.nearest`).
-/
import Mathlib.Logic.Relation
import TypeSchema.Proofs.Graph.Mirror
import TypeSchema.Proofs.Path

namespace TypeSchema

open Declaration (Id Reference Target)

theorem Fundamental.ofKeyword?_eq_none {text : String} :
    ofKeyword? text = none ↔ ∀ kind : Fundamental, kind.keyword ≠ text := by
  have complete : ∀ kind : Fundamental, kind ∈ all := by
    intro kind
    cases kind <;> decide
  simp only [ofKeyword?, List.find?_eq_none, decide_eq_true_eq]
  exact ⟨fun h kind => h kind (complete kind), fun h kind _ => h kind⟩

theorem Fundamental.ofKeyword?_eq_some {text : String} {kind : Fundamental} :
    ofKeyword? text = some kind ↔ kind.keyword = text := by
  constructor
  · intro h
    simpa using List.find?_some h
  · rintro rfl
    exact ofKeyword?_keyword kind

namespace Graph

/-! ## The names in a text -/

/-- The names, with dots between them, are the text. -/
structure Spells (text : String) (names : List String) : Prop where
  some : names ≠ []
  undotted : ∀ name ∈ names, '.' ∉ name.toList
  joined : ".".intercalate names = text

theorem spells_iff {text : String} {names : List String} :
    Spells text names ↔ segments text = names := by
  constructor
  · rintro ⟨some, undotted, rfl⟩
    have split : Text.pieces '.' (['.'].intercalate (names.map String.toList))
        = names.map String.toList := by
      refine Text.pieces_intercalate (by simpa using some) fun piece hpiece => ?_
      obtain ⟨name, hname, rfl⟩ := List.mem_map.mp hpiece
      exact undotted name hname
    rw [segments, String.toList_intercalate, show ".".toList = ['.'] from rfl, split, List.map_map]
    simp [Function.comp_def]
  · rintro rfl
    refine ⟨?_, fun name hname => ?_, ?_⟩
    · simpa [segments] using Text.pieces_ne_nil '.' text.toList
    · obtain ⟨piece, hpiece, rfl⟩ := List.mem_map.mp hname
      rw [String.toList_ofList]
      exact Text.not_mem_of_mem_pieces hpiece
    · rw [← String.toList_inj, String.toList_intercalate, segments, List.map_map]
      simpa [Function.comp_def] using Text.intercalate_pieces '.' text.toList

/-! ## Ways through the tree -/

section Ways

variable (g : Graph)

/-- A child of a name. -/
def HasChild (scope : Id) (name : String) (child : Id) : Prop :=
  child ∈ (g.node scope).children ∧ (g.node child).name = some name

/-- The names lead from one declaration to another, each of them to a child. -/
inductive Descends : Id → List String → Id → Prop
  | done {id : Id} : Descends id [] id
  | next {scope child t : Id} {name : String} {rest : List String} :
      g.HasChild scope name child → Descends child rest t → Descends scope (name :: rest) t

/-- The names lead from `scope` to `t`, and the first of them does not lead to `self`. -/
inductive Admits (self scope : Id) : List String → Id → Prop
  | intro {child t : Id} {name : String} {rest : List String} :
      g.HasChild scope name child → child ≠ self → g.Descends child rest t →
      Admits self scope (name :: rest) t

/-- The declaration `id` is `scope`, or stands inside it at whatever depth. -/
def Inside : Id → Id → Prop := Relation.ReflTransGen fun id p => (g.node id).parent = some p

/-- Of the declarations around `id`, and `id` itself, the innermost one that
admits the names is `scope`, and from there they lead to `t`. -/
structure Nearest (id : Id) (names : List String) (scope t : Id) : Prop where
  around : g.Inside id scope
  admits : g.Admits id scope names t
  nearer : ∀ s, g.Inside id s → g.Inside s scope → s ≠ scope → ∀ u, ¬ g.Admits id s names u

/-- Of the roots in `included` the first one that admits the names is `root`,
and from there they lead to `t`. -/
structure Foremost (included : List Id) (id : Id) (names : List String) (root t : Id) : Prop where
  admits : g.Admits id root names t
  first : ∃ before after, included = before ++ root :: after ∧
    ∀ r ∈ before, ∀ u, ¬ g.Admits id r names u

/-- What the text of a reference of `id` denotes, where the sources with the
roots in `included` are included. -/
inductive Denotes (included : List Id) (id : Id) (text : String) : Reference → Prop
  | around {names : List String} {scope t : Id} : Spells text names → "" ∉ names →
      g.Nearest id names scope t → Denotes included id text (.declaration t)
  | included {names : List String} {root t : Id} : Spells text names → "" ∉ names →
      (∀ s, g.Inside id s → ∀ u, ¬ g.Admits id s names u) →
      g.Foremost included id names root t → Denotes included id text (.declaration t)
  | keyword {names : List String} {kind : Fundamental} : Spells text names → "" ∉ names →
      (∀ s, g.Inside id s → ∀ u, ¬ g.Admits id s names u) →
      (∀ r ∈ included, ∀ u, ¬ g.Admits id r names u) →
      kind.keyword = text → Denotes included id text (.fundamental kind)
  | nothing {names : List String} : Spells text names → "" ∉ names →
      (∀ s, g.Inside id s → ∀ u, ¬ g.Admits id s names u) →
      (∀ r ∈ included, ∀ u, ¬ g.Admits id r names u) →
      (∀ kind : Fundamental, kind.keyword ≠ text) → Denotes included id text (.placeholder text)
  | gap {names : List String} : Spells text names → "" ∈ names →
      Denotes included id text (.placeholder text)

end Ways

/-! ## One child of a name -/

section Descent

variable {g : Graph} (distinct : g.Distinct) {scope child t : Id} {name : String}
  {names rest : List String} {self : Option Id}

theorem descend_cons : g.descend scope self (name :: rest) =
    (g.childNamed scope name self).bind fun child =>
      if rest = [] then some child else g.descend child none rest := by
  cases rest with
  | nil => simp [descend]
  | cons _ _ => simp [descend]

include distinct

theorem childNamed_eq_some :
    g.childNamed scope name self = some child ↔
      g.HasChild scope name child ∧ some child ≠ self := by
  constructor
  · intro h
    have hp := List.find?_some h
    simp only [decide_eq_true_eq] at hp
    exact ⟨⟨List.mem_of_find?_eq_some h, hp.2⟩, hp.1⟩
  · rintro ⟨⟨hmem, hname⟩, hself⟩
    cases h : g.childNamed scope name self with
    | none =>
        have := List.find?_eq_none.mp h child hmem
        simp [hself, hname] at this
    | some other =>
        have hp := List.find?_some h
        simp only [decide_eq_true_eq] at hp
        exact congrArg some (distinct (List.mem_of_find?_eq_some h) hmem (by rw [hp.2]; rfl)
          (hname.trans hp.2.symm))

theorem descends_iff :
    (if names = [] then some scope else g.descend scope none names) = some t ↔
      g.Descends scope names t := by
  induction names generalizing scope with
  | nil =>
      constructor
      · rintro ⟨⟩
        exact .done
      · rintro ⟨⟩
        rfl
  | cons name rest ih =>
      rw [if_neg (List.cons_ne_nil _ _), descend_cons, Option.bind_eq_some_iff]
      constructor
      · rintro ⟨child, hchild, h⟩
        exact .next ((childNamed_eq_some distinct).mp hchild).1 (ih.mp h)
      · rintro (_ | ⟨hchild, h⟩)
        exact ⟨_, (childNamed_eq_some distinct).mpr ⟨hchild, by simp⟩, ih.mpr h⟩

theorem admits_iff {id : Id} :
    g.descend scope (some id) names = some t ↔ g.Admits id scope names t := by
  cases names with
  | nil =>
      refine iff_of_false ?_ ?_
      · rintro ⟨⟩
      · rintro ⟨⟩
  | cons name rest =>
      rw [descend_cons, Option.bind_eq_some_iff]
      constructor
      · rintro ⟨child, hchild, h⟩
        obtain ⟨hchild, hself⟩ := (childNamed_eq_some distinct).mp hchild
        exact .intro hchild (fun same => hself (congrArg some same))
          ((descends_iff distinct).mp h)
      · rintro ⟨hchild, hself, h⟩
        exact ⟨_, (childNamed_eq_some distinct).mpr ⟨hchild, by simpa using hself⟩,
          (descends_iff distinct).mpr h⟩

theorem descend_eq_none {id : Id} :
    g.descend scope (some id) names = none ↔ ∀ u, ¬ g.Admits id scope names u := by
  simp only [← admits_iff distinct, Option.eq_none_iff_forall_ne_some, ne_eq]

end Descent

/-! ## From the inside out -/

section Outwards

variable {g : Graph} (older : g.Older) {id s t : Id}
include older

theorem Inside.le (h : g.Inside id s) : s ≤ id := by
  induction h with
  | refl => exact Nat.le_refl id
  | tail _ hp ih => exact Nat.le_trans (Nat.le_of_lt (older hp)) ih

/-- The first find on the way out is that of the innermost scope that has one. -/
theorem findSome?_lineage {f : Id → Option Id} : (g.lineage id).findSome? f = some t ↔
    ∃ scope, g.Inside id scope ∧ f scope = some t ∧
      ∀ s, g.Inside id s → g.Inside s scope → s ≠ scope → f s = none := by
  induction id using Nat.strongRecOn with
  | ind id ih =>
      have own : f id = some t → ∃ scope, g.Inside id scope ∧ f scope = some t ∧
          ∀ s, g.Inside id s → g.Inside s scope → s ≠ scope → f s = none := fun h =>
        ⟨id, .refl, h, fun s hs hs' hne =>
          absurd (Nat.le_antisymm (hs.le older) (hs'.le older)) hne⟩
      have innermost : ∀ {scope}, g.Inside id scope →
          (∀ s, g.Inside id s → g.Inside s scope → s ≠ scope → f s = none) → f id ≠ none →
          scope = id := fun around nearer hid =>
        Classical.byContradiction fun hne => hid (nearer id .refl around (Ne.symm hne))
      cases hp : (g.node id).parent with
      | none =>
          rw [lineage, hp, List.findSome?_singleton]
          refine ⟨own, ?_⟩
          rintro ⟨scope, around, h, -⟩
          rcases around.cases_head with rfl | ⟨p, hp', -⟩
          · exact h
          · rw [hp] at hp'
            cases hp'
      | some p =>
          rw [lineage_of_parent older hp, List.findSome?_cons]
          cases hid : f id with
          | some u =>
              refine ⟨fun h => own (hid.trans h), ?_⟩
              rintro ⟨scope, around, h, nearer⟩
              rw [innermost around nearer (by simp [hid]), hid] at h
              exact h
          | none =>
              rw [ih p (older hp)]
              constructor
              · rintro ⟨scope, around, h, nearer⟩
                refine ⟨scope, .head hp around, h, fun s hs hs' hne => ?_⟩
                rcases hs.cases_head with rfl | ⟨p', hp', hs⟩
                · exact hid
                · rw [hp] at hp'
                  cases hp'
                  exact nearer s hs hs' hne
              · rintro ⟨scope, around, h, nearer⟩
                rcases around.cases_head with rfl | ⟨p', hp', around⟩
                · rw [hid] at h
                  cases h
                · rw [hp] at hp'
                  cases hp'
                  exact ⟨scope, around, h, fun s hs => nearer s (.head hp hs)⟩

theorem mem_lineage : s ∈ g.lineage id ↔ g.Inside id s := by
  induction id using Nat.strongRecOn with
  | ind id ih =>
      rw [Inside, Relation.ReflTransGen.cases_head_iff]
      cases hp : (g.node id).parent with
      | none => simp [lineage, hp, eq_comm]
      | some p =>
          rw [lineage_of_parent older hp, List.mem_cons, ih p (older hp)]
          simp [Inside, eq_comm]

omit older in
theorem getLastD_lineage_mem : (g.lineage id).getLastD id ∈ g.lineage id := by
  have some : g.lineage id ≠ [] := by
    rw [lineage]
    split
    · exact List.cons_ne_nil _ _
    · split <;> exact List.cons_ne_nil _ _
  rw [List.getLastD_eq_getLast?, List.getLast?_eq_getLast_of_ne_nil some]
  exact List.getLast_mem some

end Outwards

/-! ## What is looked up -/

section Lookup

variable {g : Graph} {included : List Id} {id : Id} {text : String}

/-- The reference that a text is replaced by when it is looked up. -/
def lookedUpReference (g : Graph) (included : List Id) (id : Id) (text : String) : Reference :=
  match g.lookup included id text with
  | some (.declaration t) => .declaration t
  | some (.fundamental kind) => .fundamental kind
  | none => .placeholder text

theorem settledReference_of_text (written : (g.node id).reference = .unresolved text) :
    g.settledReference included id = g.lookedUpReference included id text := by
  simp only [settledReference, written]
  rfl

/-- What finds nothing can be left out of a search. -/
theorem findSome?_filter_ne {f : Id → Option Id} {own : Id} (hown : f own = none) (is : List Id) :
    (is.filter (· ≠ own)).findSome? f = is.findSome? f := by
  induction is with
  | nil => rfl
  | cons i is ih =>
      by_cases hi : i = own
      · rw [List.filter_cons_of_neg (by simpa using hi), List.findSome?_cons, hi, hown, ih]
      · rw [List.filter_cons_of_pos (by simpa using hi), List.findSome?_cons, List.findSome?_cons,
          ih]

/-- The find around the declaration counts, and then the one below an included
root.  That its own root is left out there makes no difference: nothing was
found below it before. -/
theorem lookup_eq : g.lookup included id text =
    if "" ∈ segments text then none
    else
      ((((g.lineage id).findSome? (g.descend · (some id) (segments text))).or
        (included.findSome? (g.descend · (some id) (segments text)))).map Target.declaration).or
          ((Fundamental.ofKeyword? text).map Target.fundamental) := by
  unfold lookup scopes
  rw [List.findSome?_append]
  split
  · rfl
  · cases h : (g.lineage id).findSome? (g.descend · (some id) (segments text)) with
    | some t => rfl
    | none =>
        have own := List.findSome?_eq_none_iff.mp h _ getLastD_lineage_mem
        rw [findSome?_filter_ne own, Option.none_or]
        cases included.findSome? (g.descend · (some id) (segments text)) with
        | some t => rfl
        | none => rfl

variable (older : g.Older) (distinct : g.Distinct)
include older distinct

theorem findSome?_around {t : Id} {names : List String} :
    (g.lineage id).findSome? (g.descend · (some id) names) = some t ↔
      ∃ scope, g.Nearest id names scope t := by
  rw [findSome?_lineage older]
  simp only [admits_iff distinct, descend_eq_none distinct]
  exact ⟨fun ⟨scope, around, admits, nearer⟩ => ⟨scope, around, admits, nearer⟩,
    fun ⟨scope, near⟩ => ⟨scope, near.around, near.admits, near.nearer⟩⟩

theorem findSome?_around_eq_none {names : List String} :
    (g.lineage id).findSome? (g.descend · (some id) names) = none ↔
      ∀ s, g.Inside id s → ∀ u, ¬ g.Admits id s names u := by
  simp only [List.findSome?_eq_none_iff, mem_lineage older, descend_eq_none distinct]

omit older

theorem findSome?_included {t : Id} {names : List String} :
    included.findSome? (g.descend · (some id) names) = some t ↔
      ∃ root, g.Foremost included id names root t := by
  simp only [List.findSome?_eq_some_iff, admits_iff distinct, descend_eq_none distinct]
  constructor
  · rintro ⟨before, root, after, position, admits, first⟩
    exact ⟨root, admits, before, after, position, first⟩
  · rintro ⟨root, admits, before, after, position, first⟩
    exact ⟨before, root, after, position, admits, first⟩

theorem findSome?_included_eq_none {names : List String} :
    included.findSome? (g.descend · (some id) names) = none ↔
      ∀ r ∈ included, ∀ u, ¬ g.Admits id r names u := by
  simp only [List.findSome?_eq_none_iff, descend_eq_none distinct]

include older

/-- What is looked up is what the text denotes, and nothing else. -/
theorem denotes_iff {r : Reference} :
    g.Denotes included id text r ↔ g.lookedUpReference included id text = r := by
  unfold lookedUpReference
  rw [lookup_eq]
  constructor
  · intro denotes
    cases denotes with
    | around spells whole near =>
        obtain rfl := spells_iff.mp spells
        rw [if_neg whole, (findSome?_around older distinct).mpr ⟨_, near⟩]
        rfl
    | included spells whole away foremost =>
        obtain rfl := spells_iff.mp spells
        rw [if_neg whole, (findSome?_around_eq_none older distinct).mpr away,
          (findSome?_included distinct).mpr ⟨_, foremost⟩]
        rfl
    | keyword spells whole away beyond word =>
        obtain rfl := spells_iff.mp spells
        rw [if_neg whole, (findSome?_around_eq_none older distinct).mpr away,
          (findSome?_included_eq_none distinct).mpr beyond, Fundamental.ofKeyword?_eq_some.mpr word]
        rfl
    | nothing spells whole away beyond other =>
        obtain rfl := spells_iff.mp spells
        rw [if_neg whole, (findSome?_around_eq_none older distinct).mpr away,
          (findSome?_included_eq_none distinct).mpr beyond,
          Fundamental.ofKeyword?_eq_none.mpr other]
        rfl
    | gap spells gap =>
        obtain rfl := spells_iff.mp spells
        rw [if_pos gap]
  · rintro rfl
    have spells := spells_iff.mpr (rfl : segments text = _)
    by_cases gap : "" ∈ segments text
    · rw [if_pos gap]
      exact .gap spells gap
    rw [if_neg gap]
    cases haround : (g.lineage id).findSome? (g.descend · (some id) (segments text)) with
    | some t =>
        obtain ⟨scope, near⟩ := (findSome?_around older distinct).mp haround
        exact .around spells gap near
    | none =>
        have away := (findSome?_around_eq_none older distinct).mp haround
        cases hincluded : included.findSome? (g.descend · (some id) (segments text)) with
        | some t =>
            obtain ⟨root, foremost⟩ := (findSome?_included distinct).mp hincluded
            exact .included spells gap away foremost
        | none =>
            have beyond := (findSome?_included_eq_none distinct).mp hincluded
            cases hkind : Fundamental.ofKeyword? text with
            | some kind =>
                exact .keyword spells gap away beyond (Fundamental.ofKeyword?_eq_some.mp hkind)
            | none =>
                exact .nothing spells gap away beyond (Fundamental.ofKeyword?_eq_none.mp hkind)

end Lookup

/-! ## Declarations that are added outside a scope -/

/-- All declarations of `g` stay in `h`, under the numbers that `f` gives them,
and all others in `h` stand outside `scope`. -/
structure GrowsOutside (scope : Id) (f : Id → Id) (g h : Graph) : Prop where
  injective : ∀ i < g.size, ∀ j < g.size, f i = f j → i = j
  name : ∀ i < g.size, (h.node (f i)).name = (g.node i).name
  parent : ∀ i < g.size, (h.node (f i)).parent = (g.node i).parent.map f
  outside : ∀ j < h.size, (∀ i < g.size, f i ≠ j) → ¬ h.Inside j (f scope)

namespace GrowsOutside

variable {g h : Graph} {scope : Id} {f : Id → Id} (grows : GrowsOutside scope f g h)
  {i s c' t' : Id} {name : String} {names : List String}
include grows

theorem inside (around : g.Inside i s) : h.Inside (f i) (f s) := by
  induction around with
  | refl => exact .refl
  | tail _ hp ih =>
      refine ih.tail ?_
      rw [grows.parent _ (lt_of_parent hp), hp]
      rfl

variable (nested : g.Nested) (nested' : h.Nested)
include nested

/-- The way out is the same in both graphs. -/
theorem exists_inside (hi : i < g.size) (around : h.Inside (f i) t') :
    ∃ t < g.size, f t = t' ∧ g.Inside i t := by
  induction around with
  | refl => exact ⟨i, hi, rfl, .refl⟩
  | tail _ hp ih =>
      obtain ⟨t, ht, rfl, around⟩ := ih
      rw [grows.parent t ht, Option.map_eq_some_iff] at hp
      obtain ⟨p, hp, rfl⟩ := hp
      exact ⟨p, Nat.lt_trans (nested.older hp) ht, rfl, around.tail hp⟩

include nested'

/-- Inside the scope there are no further children. -/
theorem hasChild (hs : s < g.size) (around : g.Inside s scope) :
    h.HasChild (f s) name c' ↔ ∃ c < g.size, f c = c' ∧ g.HasChild s name c := by
  constructor
  · rintro ⟨hmem, hname⟩
    have hp := nested'.mem_children.mp hmem
    have old : ∃ c < g.size, f c = c' := by
      by_contra new
      refine grows.outside c' (lt_of_parent hp) (fun c hc same => new ⟨c, hc, same⟩) ?_
      exact .head hp (grows.inside around)
    obtain ⟨c, hc, rfl⟩ := old
    rw [grows.parent c hc, Option.map_eq_some_iff] at hp
    obtain ⟨p, hp, same⟩ := hp
    obtain rfl := grows.injective p (Nat.lt_trans (nested.older hp) hc) s hs same
    exact ⟨c, hc, rfl, nested.mem_children.mpr hp, (grows.name c hc).symm.trans hname⟩
  · rintro ⟨c, hc, rfl, hmem, hname⟩
    refine ⟨nested'.mem_children.mpr ?_, (grows.name c hc).trans hname⟩
    rw [grows.parent c hc, nested.mem_children.mp hmem]
    rfl

theorem descends (hs : s < g.size) (around : g.Inside s scope) :
    h.Descends (f s) names t' ↔ ∃ t, f t = t' ∧ g.Descends s names t := by
  induction names generalizing s with
  | nil =>
      constructor
      · rintro ⟨⟩
        exact ⟨s, rfl, .done⟩
      · rintro ⟨_, rfl, ⟨⟩⟩
        exact .done
  | cons name rest ih =>
      have below : ∀ {c}, g.HasChild s name c → g.Inside c scope := fun hc =>
        .head (nested.mem_children.mp hc.1) around
      constructor
      · rintro (_ | ⟨hchild, hrest⟩)
        obtain ⟨c, hc, rfl, old⟩ := (grows.hasChild nested nested' hs around).mp hchild
        obtain ⟨t, rfl, oldRest⟩ := (ih hc (below old)).mp hrest
        exact ⟨t, rfl, .next old oldRest⟩
      · rintro ⟨t, rfl, _ | ⟨hchild, hrest⟩⟩
        have hc := lt_of_parent (nested.mem_children.mp hchild.1)
        exact .next ((grows.hasChild nested nested' hs around).mpr ⟨_, hc, rfl, hchild⟩)
          ((ih hc (below hchild)).mpr ⟨t, rfl, hrest⟩)

theorem admits (hi : i < g.size) (hs : s < g.size) (around : g.Inside s scope) :
    h.Admits (f i) (f s) names t' ↔ ∃ t, f t = t' ∧ g.Admits i s names t := by
  have below : ∀ {name c}, g.HasChild s name c → g.Inside c scope := fun hc =>
    .head (nested.mem_children.mp hc.1) around
  constructor
  · rintro ⟨hchild, hself, hrest⟩
    obtain ⟨c, hc, rfl, old⟩ := (grows.hasChild nested nested' hs around).mp hchild
    obtain ⟨t, rfl, oldRest⟩ := (grows.descends nested nested' hc (below old)).mp hrest
    exact ⟨t, rfl, .intro old (fun same => hself (congrArg f same)) oldRest⟩
  · rintro ⟨t, rfl, hchild, hself, hrest⟩
    have hc := lt_of_parent (nested.mem_children.mp hchild.1)
    exact .intro ((grows.hasChild nested nested' hs around).mpr ⟨_, hc, rfl, hchild⟩)
      (fun same => hself (grows.injective _ hc i hi same))
      ((grows.descends nested nested' hc (below hchild)).mpr ⟨t, rfl, hrest⟩)

/-- The nearest scope stays the nearest, and what is found there stays the find. -/
theorem nearest {t : Id} (hi : i < g.size) (near : g.Nearest i names scope t) :
    h.Nearest (f i) names (f scope) (f t) := by
  have hscope : scope < g.size := Nat.lt_of_le_of_lt (near.around.le nested.older) hi
  refine ⟨grows.inside near.around,
    (grows.admits nested nested' hi hscope .refl).mpr ⟨t, rfl, near.admits⟩, ?_⟩
  intro s' hs' inner hne u admits
  obtain ⟨s, hs, rfl, around⟩ := grows.exists_inside nested hi hs'
  obtain ⟨s₀, hs₀, same, within⟩ := grows.exists_inside nested hs inner
  obtain rfl := grows.injective s₀ hs₀ scope hscope same
  obtain ⟨u, rfl, old⟩ := (grows.admits nested nested' hi hs within).mp admits
  exact near.nearer s around within (fun same => hne (congrArg f same)) u old

end GrowsOutside

end Graph

end TypeSchema
