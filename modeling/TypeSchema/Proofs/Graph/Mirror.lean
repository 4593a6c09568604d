/-
# Mirror — one graph under other numbers

`Mirror σ g h` says that `h` is `g` with each declaration under the number
that `σ` gives it, in other places of their texts, and with the children of
roots in another order.  Names are the only thing that is looked for among
children, so where siblings have different names (`Distinct`) everything that
is found in `h` is what is found in `g`, renumbered: lineages, lookups, the
references they settle, walks, and with them the verdicts.

Each function of graphs has its lemma, which says that it commutes with the
change of numbers.
-/
import Mathlib.Logic.Equiv.Basic
import TypeSchema.Proofs.Document.Settled
import TypeSchema.Proofs.Graph.Built
import TypeSchema.Proofs.Graph.Reordering

namespace TypeSchema

open Declaration (Id Role Production Subtype Reference Target)

namespace Declaration

/-- What is left of a declaration without places, relatives and all that is found out later. -/
def outline (d : Declaration) : Declaration := d.unplaced.frame.planted none []

/-- A target after a change of numbers. -/
def Target.map (σ : Id → Id) : Target → Target
  | .declaration id => .declaration (σ id)
  | .fundamental kind => .fundamental kind

end Declaration

namespace Graph

/-- `h` is `g` under the numbers that `σ` gives. -/
structure Mirror (σ : Equiv.Perm Nat) (g h : Graph) : Prop where
  size : h.size = g.size
  outside : ∀ i, g.size ≤ i → σ i = i
  outline : ∀ i, (h.node (σ i)).outline = (g.node i).outline
  parent : ∀ i, (h.node (σ i)).parent = (g.node i).parent.map σ
  perm : ∀ i, (h.node (σ i)).children.Perm ((g.node i).children.map σ)
  children : ∀ i, (g.node i).production ≠ .root →
    (h.node (σ i)).children = (g.node i).children.map σ
  reference : ∀ i, (h.node (σ i)).reference = (g.node i).reference.map σ

/-- Siblings have different names. -/
def Distinct (g : Graph) : Prop :=
  ∀ {i c c'}, c ∈ (g.node i).children → c' ∈ (g.node i).children →
    (g.node c).name.isSome → (g.node c').name = (g.node c).name → c = c'

section Congruence

variable {g h : Graph}

theorem Older.congr (s : SameFrame g h) (older : g.Older) : h.Older :=
  fun {i _} hp => older ((s.parent i).trans hp)

theorem Distinct.congr (s : SameFrame g h) (distinct : g.Distinct) : h.Distinct := by
  intro i c c' hc hc' named same
  rw [← s.children] at hc hc'
  rw [← s.name c] at named
  rw [← s.name c, ← s.name c'] at same
  exact distinct hc hc' named same

end Congruence

namespace Mirror

variable {σ : Equiv.Perm Nat} {g h : Graph}

/-! ## What is under the new numbers -/

section Parts

variable (m : Mirror σ g h)
include m

/-- What can be read from an outline is the same in both graphs. -/
theorem part {γ : Sort*} (read : Declaration → γ) (reads : ∀ d, read d.outline = read d) (i : Id) :
    read (h.node (σ i)) = read (g.node i) := by
  rw [← reads, m.outline, reads]

theorem name (i : Id) : (h.node (σ i)).name = (g.node i).name := m.part _ (fun _ => rfl) i

theorem role (i : Id) : (h.node (σ i)).role = (g.node i).role := m.part _ (fun _ => rfl) i

theorem production (i : Id) : (h.node (σ i)).production = (g.node i).production :=
  m.part _ (fun _ => rfl) i

theorem arity (i : Id) : (h.node (σ i)).arity = (g.node i).arity := m.part _ (fun _ => rfl) i

theorem isObject (i : Id) : (h.node (σ i)).isObject = (g.node i).isObject :=
  m.part _ (fun _ => rfl) i

theorem metadata (i : Id) : (h.node (σ i)).metadata.unplaced = (g.node i).metadata.unplaced :=
  congrArg Declaration.metadata (m.outline i)

theorem lt_iff (i : Nat) : σ i < h.size ↔ i < g.size := by
  rw [m.size]
  constructor
  · intro hi
    by_contra hc
    rw [m.outside i (Nat.not_lt.mp hc)] at hi
    exact hc hi
  · intro hi
    by_contra hc
    have : σ i = i := σ.injective (m.outside (σ i) (Nat.not_lt.mp hc))
    rw [this] at hc
    exact hc hi

theorem node_outside {i : Nat} (hi : g.size ≤ i) : h.node (σ i) = g.node i := by
  rw [m.outside i hi, node_of_size_le hi, node_of_size_le (m.size.symm ▸ hi)]

theorem mem_children (i c : Id) :
    σ c ∈ (h.node (σ i)).children ↔ c ∈ (g.node i).children := by
  rw [(m.perm i).mem_iff, List.mem_map]
  constructor
  · rintro ⟨c', hc', same⟩
    rwa [← σ.injective same]
  · exact fun hc => ⟨c, hc, rfl⟩

end Parts

/-- What has the same links is mirrored the same way. -/
theorem congr {g' h' : Graph} (m : Mirror σ g h) (s : SameLinks g g') (t : SameLinks h h') :
    Mirror σ g' h' where
  size := by rw [← t.size, m.size, s.size]
  outside := fun i hi => m.outside i (s.size ▸ hi)
  outline := fun i => by
    have left := (t.map Declaration.outline Declaration.outline fun _ => rfl).part (σ i)
    have right := (s.map Declaration.outline Declaration.outline fun _ => rfl).part i
    rw [← left, ← right, m.outline]
  parent := fun i => by rw [← t.frame.parent, ← s.frame.parent, m.parent]
  perm := fun i => by
    rw [← t.frame.children, ← s.frame.children]
    exact m.perm i
  children := fun i hp => by
    rw [← t.frame.children, ← s.frame.children]
    exact m.children i (s.frame.production i ▸ hp)
  reference := fun i => by rw [← t.reference, ← s.reference, m.reference]

/-! ## Lookups -/

section Lookup

variable (m : Mirror σ g h) (older : g.Older) (older' : h.Older) (distinct : g.Distinct)
include m

include older older' in
theorem lineage (i : Nat) : h.lineage (σ i) = (g.lineage i).map σ := by
  induction i using Nat.strongRecOn with
  | ind i ih =>
      rw [Graph.lineage, Graph.lineage, m.parent]
      cases hp : (g.node i).parent with
      | none => rfl
      | some p =>
          have hlt : p < i := older hp
          have hlt' : σ p < σ i := older' (by rw [m.parent, hp]; rfl)
          simp only [Option.map_some, if_pos hlt, if_pos hlt', ih p hlt, List.map_cons]

include distinct in
/-- Of children with different names, at most one is found, whatever their order. -/
theorem childNamed (parent : Id) (name : String) (self : Option Id) :
    h.childNamed (σ parent) name (self.map σ) = (g.childNamed parent name self).map σ := by
  have same : ∀ c, (some (σ c) ≠ self.map σ ∧ (h.node (σ c)).name = some name) ↔
      (some c ≠ self ∧ (g.node c).name = some name) := by
    intro c
    have hself : some (σ c) = self.map σ ↔ some c = self := by
      cases self with
      | none => simp
      | some i => simp
    rw [m.name, Ne, hself]
  have preimage : ∀ {c'}, c' ∈ (h.node (σ parent)).children →
      ∃ c ∈ (g.node parent).children, σ c = c' :=
    fun hc => List.mem_map.mp ((m.perm parent).mem_iff.mp hc)
  unfold Graph.childNamed
  cases found : (g.node parent).children.find? fun c =>
      some c ≠ self ∧ (g.node c).name = some name with
  | none =>
      rw [Option.map_none, List.find?_eq_none]
      intro c' hc'
      obtain ⟨c, hc, rfl⟩ := preimage hc'
      have := List.find?_eq_none.mp found c hc
      simpa only [decide_eq_true_eq, same] using this
  | some c =>
      have hc := List.mem_of_find?_eq_some found
      have named : some c ≠ self ∧ (g.node c).name = some name := by
        simpa using List.find?_some found
      have there : ((h.node (σ parent)).children.find? fun c' =>
          some c' ≠ self.map σ ∧ (h.node c').name = some name).isSome := by
        rw [List.find?_isSome]
        exact ⟨σ c, (m.mem_children parent c).mpr hc,
          by simpa only [decide_eq_true_eq] using (same c).mpr named⟩
      obtain ⟨c', hc'⟩ := Option.isSome_iff_exists.mp there
      obtain ⟨c₂, hc₂, rfl⟩ := preimage (List.mem_of_find?_eq_some hc')
      have named₂ : some c₂ ≠ self ∧ (g.node c₂).name = some name :=
        (same c₂).mp (by simpa only [decide_eq_true_eq] using List.find?_some hc')
      have : c = c₂ := distinct hc hc₂ (by rw [named.2]; rfl) (named₂.2.trans named.2.symm)
      rw [hc', this, Option.map_some]

include distinct in
theorem descend (names : List String) (scope : Id) (self : Option Id) :
    h.descend (σ scope) (self.map σ) names = (g.descend scope self names).map σ := by
  induction names generalizing scope self with
  | nil => rfl
  | cons name rest ih =>
      cases rest with
      | nil => exact m.childNamed distinct scope name self
      | cons next rest =>
          simp only [Graph.descend]
          rw [m.childNamed distinct]
          cases g.childNamed scope name self with
          | none => rfl
          | some child => exact ih child none

variable {included : List Id} (fixed : ∀ r ∈ included, σ r = r)

omit m in
theorem findSome?_map {f f' : Id → Option Id} (hf : ∀ i, f' (σ i) = (f i).map σ) (is : List Id) :
    (is.map σ).findSome? f' = (is.findSome? f).map σ := by
  induction is with
  | nil => rfl
  | cons i is ih =>
      rw [List.map_cons, List.findSome?_cons, List.findSome?_cons, hf, ih]
      cases f i <;> rfl

include older older' fixed in
theorem scopes (i : Id) : h.scopes included (σ i) = (g.scopes included i).map σ := by
  have last : ∀ (is : List Id) (i : Id), (is.map σ).getLastD (σ i) = σ (is.getLastD i) := by
    intro is
    induction is with
    | nil => exact fun _ => rfl
    | cons j is ih =>
        intro i
        rw [List.map_cons, List.getLastD_cons, List.getLastD_cons]
        exact ih j
  have others : ∀ own : Id, included.filter (· ≠ σ own) = (included.filter (· ≠ own)).map σ := by
    intro own
    have stay : (included.filter (· ≠ own)).map σ = included.filter (· ≠ own) := by
      refine (List.map_congr_left fun r hr => ?_).trans (List.map_id _)
      exact fixed r (List.mem_of_mem_filter hr)
    rw [stay]
    refine List.filter_congr fun r hr => ?_
    rw [decide_eq_decide, Ne, Ne]
    conv_lhs => rw [← fixed r hr, σ.injective.eq_iff]
  simp only [Graph.scopes, m.lineage older older', List.map_append, last]
  exact congrArg _ (others _)

include older older' distinct fixed in
theorem lookup (i : Id) (text : String) :
    h.lookup included (σ i) text = (g.lookup included i text).map (Target.map σ) := by
  unfold Graph.lookup
  rw [m.scopes older older' fixed,
    findSome?_map (fun scope => m.descend distinct (segments text) scope (some i))]
  split
  · rfl
  · cases (g.scopes included i).findSome? (g.descend · (some i) (segments text)) with
    | none => cases Fundamental.ofKeyword? text <;> rfl
    | some target => rfl

include older older' distinct fixed in
theorem settledReference (i : Id) :
    h.settledReference included (σ i) = (g.settledReference included i).map σ := by
  unfold Graph.settledReference
  rw [m.reference]
  cases (g.node i).reference with
  | none => rfl
  | declaration target => rfl
  | fundamental kind => rfl
  | placeholder text => rfl
  | unresolved text =>
      simp only [Reference.map]
      rw [m.lookup older older' distinct fixed]
      cases g.lookup included i text with
      | none => rfl
      | some target => cases target <;> rfl

include older older' distinct fixed in
theorem dangles_iff (i : Id) (text : String) :
    h.Dangles included (σ i) text ↔ g.Dangles included i text := by
  have href : (h.node (σ i)).reference = .unresolved text ↔
      (g.node i).reference = .unresolved text := by
    rw [m.reference]
    cases (g.node i).reference <;> simp [Reference.map]
  rw [Graph.Dangles, Graph.Dangles, href, m.lookup older older' distinct fixed,
    Option.map_eq_none_iff]

include older older' distinct fixed in
/-- Looking up all references gives mirrored graphs again. -/
theorem lookedUp (raw : g.Raw) (raw' : h.Raw) :
    Mirror σ (g.lookedUp included) (h.lookedUp included) := by
  have s := sameFrame_lookedUp g included
  have t := sameFrame_lookedUp h included
  have outlines := fun {g : Graph} (s : SameFrame (g.lookedUp included) g) (i : Id) =>
    (s.map (fun d => d.unplaced.planted none []) Declaration.outline fun _ => rfl).part i
  constructor
  · rw [t.size, m.size, s.size]
  · exact fun i hi => m.outside i (s.size ▸ hi)
  · intro i
    rw [outlines t, outlines s, m.outline]
  · intro i
    rw [t.parent, s.parent, m.parent]
  · intro i
    rw [t.children, s.children]
    exact m.perm i
  · intro i hp
    rw [t.children, s.children]
    exact m.children i (s.production i ▸ hp)
  · intro i
    by_cases hi : i < g.size
    · rw [reference_lookedUp raw hi, reference_lookedUp raw' ((m.lt_iff i).mpr hi)]
      exact m.settledReference older older' distinct fixed i
    · have outside := m.outside i (Nat.not_lt.mp hi)
      rw [outside, node_of_size_le (by rw [t.size, m.size]; exact Nat.not_lt.mp hi),
        node_of_size_le (by rw [s.size]; exact Nat.not_lt.mp hi)]
      rfl

end Lookup

/-! ## Walks -/

section Walk

variable (m : Mirror σ g h)
include m

theorem next? (i : Id) : h.next? (σ i) = (g.next? i).map σ := by
  simp only [Graph.next?, Declaration.target?_eq, m.reference]
  cases (g.node i).reference <;> rfl

omit m in
theorem mem_map_iff {i : Id} {is : List Id} : σ i ∈ is.map σ ↔ i ∈ is :=
  List.mem_map_of_injective σ.injective

theorem walkFrom (fuel : Nat) (seen : List Id) (i : Id) :
    h.walkFrom fuel (seen.map σ) (σ i) = (g.walkFrom fuel seen i).map σ := by
  induction fuel generalizing seen i with
  | zero => rfl
  | succ fuel ih =>
      simp only [Graph.walkFrom, mem_map_iff, m.next?]
      split
      · rfl
      · cases g.next? i with
        | none => rfl
        | some target =>
            have later := ih (i :: seen) target
            rw [List.map_cons] at later
            simp only [Option.map_some, later, List.map_cons]

theorem returnsFrom (fuel : Nat) (seen : List Id) (i : Id) :
    h.returnsFrom fuel (seen.map σ) (σ i) = g.returnsFrom fuel seen i := by
  induction fuel generalizing seen i with
  | zero => rfl
  | succ fuel ih =>
      simp only [Graph.returnsFrom, mem_map_iff, m.next?]
      split
      · rfl
      · cases g.next? i with
        | none => rfl
        | some target => exact ih (i :: seen) target

theorem walk (i : Id) : h.walk (σ i) = (g.walk i).map σ := by
  rw [Graph.walk, Graph.walkBound, m.size]
  exact m.walkFrom _ [] i

theorem acyclic (acyclic : g.Acyclic) : h.Acyclic := by
  intro j hj
  obtain ⟨i, rfl⟩ := σ.surjective j
  have := acyclic i ((m.lt_iff i).mp hj)
  rwa [hasCycle, walkBound, m.size, ← List.map_nil (f := σ), m.returnsFrom]

/-! ## What declarations turn out to be -/

theorem alike : Alike σ g h where
  lt := fun {i} hi => (m.lt_iff i).mpr hi
  production := m.production
  parent := m.parent
  reference := m.reference
  plain := fun i => by
    rw [Declaration.isPlain_iff, Declaration.isPlain_iff, m.arity,
      ← Metadata.onlyDescribes_unplaced, m.metadata, Metadata.onlyDescribes_unplaced]

/-- Mirrored declarations are given the same verdict. -/
theorem verdict (linked : g.Linked) (linked' : h.Linked) {i : Nat} (hi : i < g.size) :
    h.verdict (σ i) = g.verdict i :=
  Option.some.inj
    ((obeys_verdicts linked).alike m.alike linked linked' (obeys_verdicts linked') hi)

/-! ## Keys -/

theorem segment? (i : Id) : h.segment? (σ i) = g.segment? i := by
  rw [Graph.segment?, Graph.segment?, m.production, m.name]

theorem keyOf (older : g.Older) (older' : h.Older) (i : Id) : h.keyOf (σ i) = g.keyOf i := by
  rw [Graph.keyOf, Graph.keyOf, m.lineage older older', ← List.map_reverse, List.filterMap_map]
  exact congrArg (".".intercalate ·)
    (List.filterMap_congr fun j _ => m.segment? j)

end Walk

end Mirror

end Graph

end TypeSchema
