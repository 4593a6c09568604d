/-
# Reordering — the order of entries bears on no meaning

A source may have its entries in another order.  Then the same sources are
found, and each graph is a forest with the same roots, of which one is the
other after a change of numbers (`Discovery.Related.exists_mirror`).  A graph
that mirrors one that can be settled can be settled as well
(`Document.settle_mirrored`).  What can be asked of a document by keys then has
the same answer: which keys there are, what their declarations turned out to
be and refer to, and what types they describe (`Document.SameMeaning`).
-/
import TypeSchema.Proofs.Document.Discovery
import TypeSchema.Proofs.Document.Mirror

namespace TypeSchema

open Declaration (Id Production Subtype Reference)
open SchemaError (SameOutcome)

/-! ## From forests to mirrored graphs -/

namespace Declaration

variable {σ : Equiv.Perm Nat} {d d' : Declaration}

theorem Counterpart.default (σ : Id → Id) :
    (default : Declaration).Counterpart σ (default : Declaration) :=
  .of_renumbered σ _

theorem Counterpart.outline (h : d.unplaced.Counterpart σ d'.unplaced) :
    d'.outline = d.outline := by
  have same := congrArg (fun d : Declaration => d.frame.planted none []) h.rest
  exact same

theorem Counterpart.parent (h : d.unplaced.Counterpart σ d'.unplaced) :
    d'.parent = d.parent.map σ :=
  congrArg Declaration.parent h.rest

/-- References that have not been looked up do not change with numbers. -/
theorem Counterpart.reference (h : d.unplaced.Counterpart σ d'.unplaced) (raw : d.IsRaw) :
    d'.reference = d.reference.map σ := by
  have same : d'.unplaced.reference = d.unplaced.reference := by
    rw [h.rest]
    rfl
  rcases raw.reference_cases with none | ⟨text, unresolved⟩
  · rw [none]
    exact same.trans none
  · rw [unresolved]
    exact same.trans unresolved

end Declaration

namespace Discovery

open Graph (Mirror)

section Shows

variable {g h : Graph} {f f' : Forest} {σ : Equiv.Perm Nat}

theorem Shows.size (shows : Shows g f) : g.size = f.size :=
  (Graph.Grown.size shows).trans (Nat.zero_add _)

theorem Shows.node (shows : Shows g f) (i : Id) : g.node i = (f.find 0 none i).getD default :=
  Graph.Grown.newer shows i (Nat.zero_le i)

theorem Shows.unplaced_node (shows : Shows g f) (i : Id) :
    (g.node i).unplaced = (f.unplaced.find 0 none i).getD default := by
  rw [shows.node, Forest.find_unplaced]
  cases f.find 0 none i <;> rfl

theorem Shows.mirror (shows : Shows g f) (shows' : Shows h f') (raw : g.Raw)
    (mirrors : f.unplaced.Mirrors σ 0 f'.unplaced) : Mirror σ g h := by
  have size : h.size = g.size := by
    rw [shows.size, shows'.size, ← f.size_unplaced, ← f'.size_unplaced, mirrors.size]
  have outside : ∀ i, g.size ≤ i → σ i = i := fun i hi =>
    mirrors.outside i (.inr (by rwa [f.size_unplaced, Nat.zero_add, ← shows.size]))
  have counterpart : ∀ i, (g.node i).unplaced.Counterpart σ (h.node (σ i)).unplaced := by
    intro i
    rw [shows.unplaced_node, shows'.unplaced_node]
    cases found : f.unplaced.find 0 none i with
    | some d =>
        obtain ⟨d', found', counterpart⟩ := mirrors.find i d found
        rw [found']
        exact counterpart
    | none =>
        have hi : g.size ≤ i := by
          by_contra hc
          have : (f.unplaced.find 0 none i).isSome := Forest.find_isSome.mpr
            ⟨Nat.zero_le i, by rw [f.size_unplaced, ← shows.size]; omega⟩
          rw [found] at this
          cases this
        have missing : f'.unplaced.find 0 none (σ i) = none := by
          rw [← Option.not_isSome_iff_eq_none, Forest.find_isSome, outside i hi, mirrors.size,
            f.size_unplaced, ← shows.size]
          omega
        rw [missing]
        exact .default σ
  exact ⟨size, outside, fun i => (counterpart i).outline, fun i => (counterpart i).parent,
    fun i => (counterpart i).perm, fun i hp => (counterpart i).children hp,
    fun i => (counterpart i).reference (raw i)⟩

end Shows

/-- Two searches that have found the same, in another order, give mirrored graphs with the same
roots. -/
theorem Related.exists_mirror {d d' : Discovery} (h : Related d d') :
    ∃ σ, Mirror σ d.graph d'.graph ∧ d.graph.Older ∧ d'.graph.Older ∧
      ∀ s ∈ d.found, σ s.root = s.root := by
  obtain ⟨f, f', shows, shows', resown, roots⟩ := h.forests
  obtain ⟨σ, mirrors⟩ := resown.exists_mirrors 0
  refine ⟨σ, shows.mirror shows' h.built.raw mirrors, h.built.nested.older, h.built'.nested.older,
    fun s hs => ?_⟩
  refine mirrors.fixed s.root ?_
  rw [f.tops_unplaced, ← roots]
  exact List.mem_map_of_mem hs

end Discovery

/-! ## What documents mean -/

namespace Document

open TypeSchema.Graph

/-- What a declaration refers to; other declarations go by their keys. -/
inductive Referent where
  | nothing
  | unresolved (text : String)
  | declaration (key : Option String)
  | fundamental (kind : Fundamental)
  | placeholder (text : String)
deriving DecidableEq

/-- What the declaration `id` refers to. -/
def referent (doc : Document) (id : Id) : Referent :=
  match (doc.graph.node id).reference with
  | .none => .nothing
  | .unresolved text => .unresolved text
  | .declaration target => .declaration (doc.graph.node target).key
  | .fundamental kind => .fundamental kind
  | .placeholder text => .placeholder text

/-- The same has been found out about two declarations, whatever their numbers. -/
structure SameDeclaration (doc doc' : Document) (i j : Id) : Prop where
  subtype : (doc'.graph.node j).subtype = (doc.graph.node i).subtype
  isNewType : (doc'.graph.node j).isNewType = (doc.graph.node i).isNewType
  arity : (doc'.graph.node j).effectiveArity = (doc.graph.node i).effectiveArity
  referent : doc'.referent j = doc.referent i

/-- Everything that is asked by keys has the same answer.  Types are equal, and errors differ in
the places that they name at most. -/
structure SameMeaning (doc doc' : Document) : Prop where
  keys : ∀ key, key ∈ doc'.keys.map (·.1) ↔ key ∈ doc.keys.map (·.1)
  declaration : ∀ key i j, doc.find? key = some i → doc'.find? key = some j →
    SameDeclaration doc doc' i j
  type : ∀ key, SameOutcome (doc'.typeOfKey key) (doc.typeOfKey key)

section Meaning

variable {σ : Equiv.Perm Nat} {doc doc' : Document}

theorem SameDeclaration.of_twins (t : Twins σ doc.graph doc'.graph) (i : Id) :
    SameDeclaration doc doc' i (σ i) where
  subtype := t.subtype i
  isNewType := t.isNewType i
  arity := by rw [Declaration.effectiveArity, Declaration.effectiveArity, t.arity]
  referent := by
    unfold Document.referent
    rw [t.reference]
    cases (doc.graph.node i).reference with
    | declaration target => exact congrArg Referent.declaration (t.key target)
    | _ => rfl

theorem SameMeaning.of_twins (t : Twins σ doc.graph doc'.graph) (linked : doc.graph.Linked)
    (found : ∀ key, doc'.find? key = (doc.find? key).map σ)
    (keyed : ∀ key i, doc.find? key = some i → doc.graph.IsKeyed i) : SameMeaning doc doc' where
  keys := fun key => by
    rw [← Fields.find?_isSome_iff, ← Fields.find?_isSome_iff]
    have := congrArg Option.isSome (found key)
    rw [Option.isSome_map] at this
    exact Bool.eq_iff_iff.mp this
  declaration := fun key i j hi hj => by
    rw [found, hi] at hj
    cases hj
    exact .of_twins t i
  type := fun key => by
    unfold typeOfKey
    rw [found]
    cases hi : doc.find? key with
    | none => exact .refl _
    | some i => exact t.typeOf linked (not_or.mp (keyed key i hi)).2

end Meaning

/-! ## Reordered sources -/

end Document

namespace Fields

variable {α : Type}

/-- Fields of which one may have another value. -/
def DifferAt (v w : α) (fields fields' : List (String × α)) : Prop :=
  ∀ key, find? key fields' = find? key fields ∨
    find? key fields = some v ∧ find? key fields' = some w

theorem DifferAt.insert {v w : α} {fields fields' : List (String × α)}
    (h : DifferAt v w fields fields') (name : String) (u : α) :
    DifferAt v w (Fields.insert name u fields) (Fields.insert name u fields') := by
  intro key
  rw [find?_insert, find?_insert]
  split
  · exact .inl rfl
  · exact h key

theorem differAt_ofList (name : String) (v w : α) (fields : List (String × α)) :
    DifferAt v w (ofList ((name, v) :: fields)) (ofList ((name, w) :: fields)) := by
  have along : ∀ (fields done done' : List (String × α)), DifferAt v w done done' →
      DifferAt v w (fields.foldl (fun done field => Fields.insert field.1 field.2 done) done)
        (fields.foldl (fun done field => Fields.insert field.1 field.2 done) done') := by
    intro fields
    induction fields with
    | nil => exact fun _ _ h => h
    | cons field fields ih => exact fun _ _ h => ih _ _ (h.insert field.1 field.2)
  refine along fields _ _ fun key => ?_
  by_cases hk : name = key <;> simp [Fields.insert, find?, hk]

end Fields

/-- A text among others, with its entries in another order. -/
theorem Sources.Reordered.ofTexts {text text' : String} (same : JsonSource.SameEntries text text')
    (path : Path) (others : List (Path × String)) :
    (Sources.ofTexts ((path, text) :: others)).Reordered
      (Sources.ofTexts ((path, text') :: others)) where
  limit := rfl
  read := fun p => by
    simp only [Sources.ofTexts, List.map_cons]
    generalize List.map _ others = fields
    rcases Fields.differAt_ofList path.normalize.text text text' fields p.normalize.text with
      eq | ⟨left, right⟩
    · exact .inl (by rw [eq])
    · exact .inr ⟨text, text', by rw [left], by rw [right], same⟩

namespace Document

variable {sources sources' : Sources} {options : Options} {main : Path} {doc : Document}

/-- A source that can be resolved can be resolved with its entries in another order, and then
means the same. -/
theorem exists_resolve_reordered (same : sources.Reordered sources')
    (run : resolve sources JsonSource.frontEnd options main = .ok doc) :
    ∃ doc', resolve sources' JsonSource.frontEnd options main = .ok doc' ∧
      SameMeaning doc doc' := by
  obtain ⟨d, searched, settled⟩ := Steps.except_bind_eq_ok.mp run
  obtain ⟨d', searched', related⟩ := (Discovery.Related.start main).run same searched
  obtain ⟨σ, mirror, older, older', roots⟩ := related.exists_mirror
  have fixed : ∀ r ∈ includedRoots d.found, σ r = r := by
    intro r hr
    obtain ⟨s, hs, rfl⟩ := List.mem_map.mp hr
    exact roots s (List.mem_of_mem_filter hs)
  obtain ⟨settled, _⟩ := ofGraph_eq_ok settled
  obtain ⟨keys, h, settled', twins, found⟩ :=
    settle_mirrored mirror related.built related.built' older older' fixed settled
  refine ⟨⟨h, d'.found, keys⟩, Steps.except_bind_eq_ok.mpr ⟨d', same.limit ▸ searched', ?_⟩, ?_⟩
  · rw [ofGraph, related.found, settled']
  · exact .of_twins twins (settle_ok related.built settled).1.linked found
      fun key i hi => isKeyed_of_settle related.built settled hi

/-- The order of the entries at the top of sources bears on nothing: with other orders resolving
succeeds as it did before, and the document means the same. -/
theorem resolve_reordered (same : sources.Reordered sources') (options : Options) (main : Path) :
    ((∃ doc, resolve sources JsonSource.frontEnd options main = .ok doc) ↔
      ∃ doc', resolve sources' JsonSource.frontEnd options main = .ok doc') ∧
    ∀ doc doc', resolve sources JsonSource.frontEnd options main = .ok doc →
      resolve sources' JsonSource.frontEnd options main = .ok doc' → SameMeaning doc doc' := by
  refine ⟨⟨?_, ?_⟩, ?_⟩
  · rintro ⟨doc, run⟩
    obtain ⟨doc', run', _⟩ := exists_resolve_reordered same run
    exact ⟨doc', run'⟩
  · rintro ⟨doc', run'⟩
    obtain ⟨doc, run, _⟩ := exists_resolve_reordered same.symm run'
    exact ⟨doc, run⟩
  · intro doc doc' run run'
    obtain ⟨_, again, meaning⟩ := exists_resolve_reordered same run
    cases run'.symm.trans again
    exact meaning

/-- Objects over objects over a string: in the order in which they lead to each other, and the
other way round. -/
theorem resolve_reordered_indirect :
    let base := "\x7b\"object\": \"B\", \"base\": \"string\"\x7d"
    let a := "\x7b\"object\": \"A\", \"base\": \"B\"\x7d"
    let c := "\x7b\"object\": \"C\", \"base\": \"A\"\x7d"
    let source := fun entries : List String =>
      "\x7b\"declarations\": [" ++ ", ".intercalate entries ++ "]\x7d"
    let resolved := fun entries : List String =>
      resolve (.ofTexts [(⟨"main.json"⟩, source entries)]) JsonSource.frontEnd .lenient
        ⟨"main.json"⟩
    ∃ doc doc', resolved [c, a, base] = .ok doc ∧ resolved [base, a, c] = .ok doc' ∧
      doc.find? "C" = some 1 ∧ (doc.graph.node 1).subtype = some .simple ∧
      SameMeaning doc doc' := by
  intro base a c source resolved
  have same : JsonSource.SameEntries (source [c, a, base]) (source [base, a, c]) := by
    decide +kernel
  have run : (resolved [c, a, base]).toOption.any (fun doc =>
      decide (doc.find? "C" = some 1 ∧ (doc.graph.node 1).subtype = some .simple)) = true := by
    decide +kernel
  obtain ⟨⟨exists', _⟩, meaning⟩ := resolve_reordered (.ofTexts same ⟨"main.json"⟩ [])
    .lenient ⟨"main.json"⟩
  obtain ⟨doc, resolves, found, simple⟩ := Steps.exists_ok_of_decide run
  obtain ⟨doc', resolves'⟩ := exists' ⟨doc, resolves⟩
  exact ⟨doc, doc', resolves, resolves', found, simple, meaning doc doc' resolves resolves'⟩

end Document

end TypeSchema
