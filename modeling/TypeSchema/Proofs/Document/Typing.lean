/-
# Typing — the types of a resolved document

What is wrong with the types of a document is one of three things: a circle of
dependencies, a placeholder, or a class that cannot be made.  Placeholders are
told in two ways.  Over anything but an object they are references that name
nothing; an object over one is taken to derive from itself, so that it looks
like a circle (`typeOf_circularReference`).  A class that cannot be made is
the only way in which constraints are violated, since all tags were checked
when the document was resolved (`typeOf_metadataConstraint`).
-/
import TypeSchema.Lint.Finding
import TypeSchema.Proofs.Typing.Outcome

namespace TypeSchema

open Declaration (Id Production)

/-! ## What is found about types -/

namespace Lint

variable {doc : Document} {id : Id}

theorem mem_findings {f : Finding} :
    f ∈ findings doc id ↔ ((doc.graph.node id).isExternal = false ∧ id ≠ doc.root) ∧
      (f ∈ placeholders (doc.graph.node id) ∨ f ∈ untypables doc id ∨
        f ∈ unusedDefinitions (doc.graph.node id) ∨
        f ∈ aliasesOfAliases doc (doc.graph.node id)) := by
  by_cases hc : (doc.graph.node id).isExternal ∨ id = doc.root
  · have : ¬ ((doc.graph.node id).isExternal = false ∧ id ≠ doc.root) := by
      rintro ⟨own, ne⟩
      simp [own, ne] at hc
    simp [findings, if_pos hc, this]
  · obtain ⟨own, ne⟩ := not_or.mp hc
    simp [findings, Bool.eq_false_iff.mpr own, ne]

theorem mem_placeholders {d : Declaration} {f : Finding} :
    f ∈ placeholders d ↔ ∃ text, d.reference = .placeholder text ∧ f = .placeholder text := by
  unfold placeholders
  cases d.reference <;> simp

/-- A type is found to be missing at the top, for any reason but a missing name. -/
theorem mem_untypables {f : Finding} : f ∈ untypables doc id ↔
    ((doc.graph.node id).parent = some doc.root ∧
      (doc.graph.node id).subtype ≠ some .extension) ∧
      ∃ e, doc.typeOf id = .error e ∧ (∀ text place, e ≠ .unresolvedReference text place) ∧
        f = .untypable e := by
  unfold untypables
  by_cases top : (doc.graph.node id).parent = some doc.root ∧
      (doc.graph.node id).subtype ≠ some .extension
  · rw [and_iff_right top]
    simp only [if_pos top]
    split
    · rename_i typed
      simp [typed]
    · rename_i untyped
      simp [untyped]
    · rename_i e other untyped
      simp only [List.mem_singleton, untyped, Except.error.injEq]
      constructor
      · rintro rfl
        exact ⟨e, rfl, other, rfl⟩
      · rintro ⟨_, rfl, _, rfl⟩
        rfl
  · simp only [if_neg top]
    exact iff_of_false List.not_mem_nil fun h => top h.1

/-- What a finding is tells where it was made. -/
theorem findings_cases {f : Finding} (h : f ∈ findings doc id) :
    f ∈ placeholders (doc.graph.node id) ∨ f ∈ untypables doc id ∨ f = .unused ∨
      ∃ target, f = .aliasOfAlias target := by
  obtain ⟨_, h | h | h | h⟩ := mem_findings.mp h
  · exact .inl h
  · exact .inr (.inl h)
  · unfold unusedDefinitions at h
    split at h
    · exact .inr (.inr (.inl (List.mem_singleton.mp h)))
    · cases h
  · cases hr : (doc.graph.node id).reference <;> simp [aliasesOfAliases, hr] at h
    exact .inr (.inr (.inr ⟨_, h.2⟩))

/-- A declaration for which a name is missing is not found to have no type. -/
theorem code_ne_of_unresolved {text : String} {place : Location}
    (h : doc.typeOf id = .error (.unresolvedReference text place)) :
    ∀ f ∈ findings doc id, f.code ≠ "E003" := by
  intro f hf hcode
  rcases findings_cases hf with hf | hf | rfl | ⟨_, rfl⟩
  · obtain ⟨_, _, rfl⟩ := mem_placeholders.mp hf
    simp [Finding.code] at hcode
  · obtain ⟨_, e, untyped, other, _⟩ := mem_untypables.mp hf
    rw [h] at untyped
    cases untyped
    exact other text place rfl
  · simp [Finding.code] at hcode
  · simp [Finding.code] at hcode

end Lint

namespace Graph

/-! ## Placeholders alone -/

/-- Nothing is wrong with what `id` depends on but that there are
placeholders. -/
structure OnlyLacks (g : Graph) (id : Id) : Prop where
  acyclic : ∀ c, g.Reaches id c → ¬ g.Cyclic c
  sound : ∀ c, g.Reaches id c → ∀ tags fault, ¬ g.ClassFault c tags fault
  held : ∃ c, g.Reaches id c ∧ (g.node c).reference.isPlaceholder

/-- A placeholder that is depended on is in no worse a state. -/
theorem OnlyLacks.of_reaches {g : Graph} {id c : Id} (only : g.OnlyLacks id)
    (reaches : g.Reaches id c) (held : (g.node c).reference.isPlaceholder) : g.OnlyLacks c where
  acyclic := fun d behind => only.acyclic d (reaches.trans behind)
  sound := fun d behind => only.sound d (reaches.trans behind)
  held := ⟨c, .refl, held⟩

/-- What has no members and refers to no declaration depends on nothing. -/
theorem isolated {g : Graph} {id : Id} (childless : (g.node id).children = [])
    (unbound : ∀ y, (g.node id).reference ≠ .declaration y) :
    ¬ g.Cyclic id ∧ ∀ {c}, g.Reaches id c → c = id := by
  have last : ∀ y, ¬ g.Depends id y := by
    rintro y (⟨hc, _⟩ | hr)
    · rw [childless] at hc
      cases hc
    · exact unbound y hr
  refine ⟨fun cycle => ?_, fun reaches => ?_⟩
  · obtain ⟨y, depends, _⟩ := Relation.TransGen.head'_iff.mp cycle
    exact last y depends
  · rcases reaches.cases_head with rfl | ⟨y, depends, _⟩
    · rfl
    · exact absurd depends (last y)

/-- An object over the enumeration that has nothing else has no values. -/
theorem typeOf_of_enumeration {g : Graph} {id : Id} (hid : id < g.size)
    (childless : (g.node id).children = []) (simple : (g.node id).subtype = some .simple)
    (hr : (g.node id).reference = .fundamental .enumeration) :
    g.typeOf id = .error (.metadataConstraint ["values"] .noValues (g.node id).location) := by
  rw [typeOf, typeWithin, dif_pos (mem_ids.mpr hid)]
  simp only [typeStep, simple]
  rw [simpleType_fundamental (by rw [childless]; rfl) hr]
  rfl

namespace Settled

variable {g : Graph} {id : Id} (settled : g.Settled)
include settled

theorem reaches_lt (hid : id < g.size) {c : Id} (reaches : g.Reaches id c) : c < g.size := by
  induction reaches with
  | refl => exact hid
  | tail _ depends _ =>
      rcases depends with ⟨hc, _⟩ | hr
      · exact settled.linked.tree.child_lt hc
      · exact (settled.linked.target hr).1

/-- An extension depends on nothing, and holds no placeholder. -/
theorem extension_isolated (hp : (g.node id).production = .extension) :
    (g.node id).reference = .none ∧ ∀ {c}, g.Reaches id c → c = id := by
  have hr := settled.reference_of_extension hp
  have childless := (settled.linked.tree.shaped id).childless (by simp [Declaration.isObject, hp])
  exact ⟨hr, (isolated childless (by simp [hr])).2⟩

/-- Nothing else is wrong with a placeholder that has no members. -/
theorem onlyLacks_of_childless (hid : id < g.size) (childless : (g.node id).children = [])
    (held : (g.node id).reference.isPlaceholder) : g.OnlyLacks id := by
  obtain ⟨acyclic, alone⟩ := isolated childless fun y hr => by
    rw [hr] at held
    cases held
  refine ⟨fun c reaches => alone reaches ▸ acyclic, fun c reaches tags fault hfault => ?_,
    id, .refl, held⟩
  rw [alone reaches] at hfault
  have free := (settled.object_of_isClass hid hfault.isClass).2
  rw [held] at free
  cases free

/-- Where there are only placeholders, there is no type, and one of them is to
blame. -/
theorem typeOf_of_onlyLacks (hid : id < g.size) (only : g.OnlyLacks id) :
    (∃ c, g.Reaches id c ∧ g.LacksBase c ∧ g.typeOf id = .error (g.circular c)) ∨
      ∃ c text, g.Reaches id c ∧ g.LacksType c text ∧
        g.typeOf id = .error (.unresolvedReference text (g.node c).location) := by
  obtain ⟨acyclic, sound, holder, hholder, held⟩ := only
  have explained := explained_typeOf settled hid
  cases h : g.typeOf id with
  | ok t =>
      rw [h] at explained
      obtain ⟨free, _, _⟩ := explained.2.of_reaches hholder
      rw [held] at free
      cases free
  | error e =>
      rw [h] at explained
      cases explained with
      | @circular c reaches cause =>
          exact .inl ⟨c, reaches, cause.resolve_left (acyclic c reaches), rfl⟩
      | unresolved reaches lacks => exact .inr ⟨_, _, reaches, lacks, rfl⟩
      | constraint reaches fault => exact absurd fault (sound _ reaches _ _)
      | extension hp =>
          obtain ⟨hr, alone⟩ := settled.extension_isolated hp
          rw [alone hholder, hr] at held
          cases held

/-- Where dependencies come to an end and name something, a class that cannot
be made is to blame. -/
theorem typeOf_of_classFault (hid : id < g.size)
    (linked : ∀ c, g.Reaches id c → ¬ g.Cyclic c ∧ (g.node c).reference.isPlaceholder = false)
    {holder : Id} {tags : List String} {fault : ConstraintFault} (reaches : g.Reaches id holder)
    (hfault : g.ClassFault holder tags fault) :
    ∃ c tags fault, g.Reaches id c ∧ g.ClassFault c tags fault ∧
      g.typeOf id = .error (.metadataConstraint tags fault (g.node c).location) := by
  have explained := explained_typeOf settled hid
  cases h : g.typeOf id with
  | ok t =>
      rw [h] at explained
      obtain ⟨_, sound, _⟩ := explained.2.of_reaches reaches
      exact absurd hfault (sound tags fault)
  | error e =>
      rw [h] at explained
      cases explained with
      | circular hc cause =>
          obtain ⟨acyclic, free⟩ := linked _ hc
          have lacks := (cause.resolve_left acyclic).placeholder
          rw [free] at lacks
          cases lacks
      | unresolved hc lacks =>
          have free := (linked _ hc).2
          rw [lacks.placeholder] at free
          cases free
      | constraint hc fault => exact ⟨_, _, _, hc, fault, rfl⟩
      | extension hp =>
          rw [(settled.extension_isolated hp).2 reaches] at hfault
          have object := (settled.object_of_isClass hid hfault.isClass).1
          simp [Declaration.isObject, hp] at object

end Settled

end Graph

namespace Document

open TypeSchema.Graph

variable {sources : Sources} {frontEnd : FrontEnd} {options : Options} {main : Path}
  {doc : Document}

/-- A declaration at the top of the main source. -/
structure IsTop (doc : Document) (id : Id) : Prop where
  parent : (doc.graph.node id).parent = some doc.root
  own : (doc.graph.node id).isExternal = false
  ne : id ≠ doc.root

/-- That an object lacks its base is found as a missing type. -/
theorem untypable_mem_findings (settled : doc.graph.Settled) {id : Id}
    (hid : id < doc.graph.size) (top : doc.IsTop id) (lacks : doc.graph.LacksBase id) :
    .untypable (doc.graph.circular id) ∈ Lint.findings doc id := by
  have circular : doc.typeOf id = .error (doc.graph.circular id) :=
    typeOf_of_lacksBase settled hid lacks
  have named : (doc.graph.node id).subtype ≠ some .extension := by
    intro hx
    rcases settled.label_cases hid with ⟨hc, _⟩ | ⟨hd, _⟩ | ⟨_, hp⟩
    · rcases hc with hc | hc <;> simp [labels, hx] at hc
    · simp [labels, hx, IsDerived] at hd
    · have := lacks.isObject
      simp [Declaration.isObject, hp] at this
  have other : ∀ text place, doc.graph.circular id ≠ .unresolvedReference text place := by
    intro text place h
    cases h
  refine Lint.mem_findings.mpr ⟨⟨top.own, top.ne⟩, .inr (.inl ?_)⟩
  exact Lint.mem_untypables.mpr ⟨⟨top.parent, named⟩, _, circular, other, rfl⟩

/-- What is reported as a circle is one, or an object without its base. -/
theorem circularReference_cause (settled : doc.graph.Settled) {id : Id}
    (hid : id < doc.graph.size) {key : String} {place : Location}
    (h : doc.typeOf id = .error (.circularReference key place)) :
    ∃ c, doc.graph.Reaches id c ∧ (doc.graph.Cyclic c ∨ doc.graph.LacksBase c) ∧
      key = (doc.graph.node c).label ∧ place = (doc.graph.node c).location := by
  have explained := explained_typeOf settled hid
  rw [show doc.graph.typeOf id = _ from h] at explained
  cases explained with
  | circular reaches cause => exact ⟨_, reaches, cause, rfl, rfl⟩

/-- All circles that are reported are some exactly if objects without a base
depend on one anyway. -/
theorem circularReference_cyclic_iff (settled : doc.graph.Settled) :
    (∀ id < doc.graph.size, ∀ key place,
      doc.typeOf id = .error (.circularReference key place) →
        ∃ c, doc.graph.Reaches id c ∧ doc.graph.Cyclic c) ↔
      ∀ id < doc.graph.size, doc.graph.LacksBase id →
        ∃ c, doc.graph.Reaches id c ∧ doc.graph.Cyclic c := by
  constructor
  · intro claimed id hid lacks
    exact claimed id hid _ _ (typeOf_of_lacksBase settled hid lacks)
  · intro based id hid key place h
    obtain ⟨c, reaches, cyclic | lacks, _⟩ := circularReference_cause settled hid h
    · exact ⟨c, reaches, cyclic⟩
    · obtain ⟨d, reaches', cyclic⟩ := based c (settled.reaches_lt hid reaches) lacks
      exact ⟨d, reaches.trans reaches', cyclic⟩

/-- Placeholders alone are reported as what they are exactly if they are none
of objects. -/
theorem unresolvedReference_onlyLacks_iff (settled : doc.graph.Settled) :
    (∀ id < doc.graph.size, doc.graph.OnlyLacks id →
      ∃ text place, doc.typeOf id = .error (.unresolvedReference text place)) ↔
      ∀ id < doc.graph.size, doc.graph.OnlyLacks id → ¬ doc.graph.LacksBase id := by
  constructor
  · intro claimed id hid only lacks
    obtain ⟨text, place, h⟩ := claimed id hid only
    have circular : doc.typeOf id = _ := typeOf_of_lacksBase settled hid lacks
    rw [circular] at h
    cases h
  · intro based id hid only
    rcases settled.typeOf_of_onlyLacks hid only with ⟨c, reaches, lacks, _⟩ | ⟨_, _, _, _, h⟩
    · have behind := only.of_reaches reaches lacks.placeholder
      exact absurd lacks (based c (settled.reaches_lt hid reaches) behind)
    · exact ⟨_, _, h⟩

/-- A circle is reported for a circle, or for an object without its base that
the declaration depends on.  Such an object is always reported as a circle, by
lint too.  Where there are only placeholders, the error is that of one of
them, and no finding of lint unless it is an object's.

So all circles that are reported are some exactly if all such objects depend
on one anyway, and placeholders alone are reported as what they are exactly if
none of them is an object's. -/
theorem typeOf_circularReference
    (resolved : resolve sources frontEnd options main = .ok doc) :
    (∀ id < doc.graph.size, ∀ key place,
      doc.typeOf id = .error (.circularReference key place) →
        ∃ c, doc.graph.Reaches id c ∧ (doc.graph.Cyclic c ∨ doc.graph.LacksBase c) ∧
          key = (doc.graph.node c).label ∧ place = (doc.graph.node c).location) ∧
      (∀ id < doc.graph.size, doc.graph.LacksBase id →
        doc.typeOf id = .error (doc.graph.circular id) ∧
          (doc.IsTop id → .untypable (doc.graph.circular id) ∈ Lint.findings doc id)) ∧
      (∀ id < doc.graph.size, doc.graph.OnlyLacks id →
        (∃ c, doc.graph.Reaches id c ∧ doc.graph.LacksBase c ∧
          doc.typeOf id = .error (doc.graph.circular c)) ∨
        ∃ c text, doc.graph.Reaches id c ∧ doc.graph.LacksType c text ∧
          doc.typeOf id = .error (.unresolvedReference text (doc.graph.node c).location) ∧
          ∀ f ∈ Lint.findings doc id, f.code ≠ "E003") ∧
      ((∀ id < doc.graph.size, ∀ key place,
        doc.typeOf id = .error (.circularReference key place) →
          ∃ c, doc.graph.Reaches id c ∧ doc.graph.Cyclic c) ↔
        ∀ id < doc.graph.size, doc.graph.LacksBase id →
          ∃ c, doc.graph.Reaches id c ∧ doc.graph.Cyclic c) ∧
      ((∀ id < doc.graph.size, doc.graph.OnlyLacks id →
        ∃ text place, doc.typeOf id = .error (.unresolvedReference text place)) ↔
        ∀ id < doc.graph.size, doc.graph.OnlyLacks id → ¬ doc.graph.LacksBase id) := by
  have settled := settled_of_resolve resolved
  refine ⟨fun id hid key place h => circularReference_cause settled hid h, fun id hid lacks => ?_,
    fun id hid only => ?_, circularReference_cyclic_iff settled,
    unresolvedReference_onlyLacks_iff settled⟩
  · exact ⟨typeOf_of_lacksBase settled hid lacks,
      fun top => untypable_mem_findings settled hid top lacks⟩
  · rcases settled.typeOf_of_onlyLacks hid only with lacks | ⟨c, text, reaches, lacks, h⟩
    · exact .inl lacks
    · exact .inr ⟨c, text, reaches, lacks, h, Lint.code_ne_of_unresolved h⟩

/-- An object over a text that names nothing: a circle is reported where there
is none. -/
theorem typeOf_circularReference_missing :
    let sources : Sources := ⟨fun _ => .ok "", 1⟩
    let frontEnd : FrontEnd := fun _ _ =>
      .sequence [.need (.beginObject "A" .standard (some "Missing") .api), .need .endObject]
    ∃ doc, resolve sources frontEnd .lenient ⟨"main"⟩ = .ok doc ∧
      doc.typeOf 1 = .error (doc.graph.circular 1) ∧
      .untypable (doc.graph.circular 1) ∈ Lint.findings doc 1 ∧
      ∀ c, doc.graph.Reaches 1 c → ¬ doc.graph.Cyclic c := by
  intro sources frontEnd
  have run : (resolve sources frontEnd .lenient ⟨"main"⟩).toOption.any (fun doc =>
      let d := doc.graph.node 1
      decide (1 < doc.graph.size ∧ (d.isObject ∧ d.reference.isPlaceholder ∧ d.children = []) ∧
        d.parent = some doc.root ∧ d.isExternal = false ∧ 1 ≠ doc.root)) = true := by
    decide +kernel
  obtain ⟨doc, resolved, hid, ⟨object, held, childless⟩, parent, own, ne⟩ :=
    Steps.exists_ok_of_decide run
  obtain ⟨_, lacks, _⟩ := typeOf_circularReference resolved
  obtain ⟨circular, found⟩ := lacks 1 hid ⟨object, held⟩
  have only := (settled_of_resolve resolved).onlyLacks_of_childless hid childless held
  exact ⟨doc, resolved, circular, found ⟨parent, own, ne⟩, only.acyclic⟩

/-- Constraints are violated by classes that cannot be made, and by nothing
else: tags suit what they are for.  Where dependencies come to an end and name
something, such a class is always in the way of a type. -/
theorem typeOf_metadataConstraint
    (resolved : resolve sources frontEnd options main = .ok doc) {id : Id}
    (hid : id < doc.graph.size) :
    (∀ tags fault place, doc.typeOf id = .error (.metadataConstraint tags fault place) →
      ∃ c, doc.graph.Reaches id c ∧ doc.graph.ClassFault c tags fault ∧
        place = (doc.graph.node c).location) ∧
      ((∀ c, doc.graph.Reaches id c →
          ¬ doc.graph.Cyclic c ∧ (doc.graph.node c).reference.isPlaceholder = false) →
        ∀ c tags fault, doc.graph.Reaches id c → doc.graph.ClassFault c tags fault →
          ∃ tags fault place, doc.typeOf id = .error (.metadataConstraint tags fault place)) := by
  have settled := settled_of_resolve resolved
  refine ⟨fun tags fault place h => ?_, fun linked c tags fault reaches hfault => ?_⟩
  · have explained := explained_typeOf settled hid
    rw [show doc.graph.typeOf id = _ from h] at explained
    cases explained with
    | constraint reaches hfault => exact ⟨_, reaches, hfault, rfl⟩
  · obtain ⟨_, tags, fault, _, _, h⟩ := settled.typeOf_of_classFault hid linked reaches hfault
    exact ⟨tags, fault, _, h⟩

/-- An object over the enumeration is resolved. -/
theorem resolve_enumeration :
    let sources : Sources := ⟨fun _ => .ok "", 1⟩
    let frontEnd : FrontEnd := fun _ _ =>
      .sequence [.need (.beginObject "E" .standard (some "enum") .api), .need .endObject]
    ∃ doc, resolve sources frontEnd .lenient ⟨"main"⟩ = .ok doc ∧
      1 < doc.graph.size ∧ (doc.graph.node 1).children = [] ∧
      (doc.graph.node 1).subtype = some .simple ∧
      (doc.graph.node 1).reference = .fundamental .enumeration := by
  intro sources frontEnd
  have run : (resolve sources frontEnd .lenient ⟨"main"⟩).toOption.any (fun doc =>
      let d := doc.graph.node 1
      decide (1 < doc.graph.size ∧ d.children = [] ∧ d.subtype = some .simple ∧
        d.reference = .fundamental .enumeration)) = true := by
    decide +kernel
  exact Steps.exists_ok_of_decide run

/-- Constraints are violated by an object over the enumeration, which has no
values there, and what its type depends on is at fault. -/
theorem typeOf_metadataConstraint_enumeration :
    let sources : Sources := ⟨fun _ => .ok "", 1⟩
    let frontEnd : FrontEnd := fun _ _ =>
      .sequence [.need (.beginObject "E" .standard (some "enum") .api), .need .endObject]
    ∃ doc, resolve sources frontEnd .lenient ⟨"main"⟩ = .ok doc ∧
      ∃ tags fault place, doc.typeOf 1 = .error (.metadataConstraint tags fault place) ∧
        ∃ c, doc.graph.Reaches 1 c ∧ doc.graph.ClassFault c tags fault := by
  obtain ⟨doc, resolved, hid, childless, hs, hr⟩ := resolve_enumeration
  obtain ⟨cause, converse⟩ := typeOf_metadataConstraint resolved hid
  have linked : ∀ c, doc.graph.Reaches 1 c →
      ¬ doc.graph.Cyclic c ∧ (doc.graph.node c).reference.isPlaceholder = false := by
    intro c reaches
    obtain ⟨acyclic, alone⟩ := isolated childless (by simp [hr])
    rw [alone reaches]
    exact ⟨acyclic, by rw [hr]; rfl⟩
  obtain ⟨tags, fault, place, h⟩ := converse linked 1 ["values"] .noValues .refl (.noValues hs hr)
  obtain ⟨c, reaches, hfault, _⟩ := cause tags fault place h
  exact ⟨doc, resolved, tags, fault, place, h, c, reaches, hfault⟩

/-- Resolving does not rule out that types violate constraints. -/
theorem resolve_not_constrained :
    ¬ ∀ (sources : Sources) (frontEnd : FrontEnd) (options : Options) (main : Path)
      (doc : Document), resolve sources frontEnd options main = .ok doc →
        ∀ id < doc.graph.size, ∀ tags fault place,
          doc.typeOf id ≠ .error (.metadataConstraint tags fault place) := by
  intro never
  obtain ⟨doc, resolved, hid, childless, hs, hr⟩ := resolve_enumeration
  exact never _ _ _ _ doc resolved 1 hid _ _ _ (typeOf_of_enumeration hid childless hs hr)

end Document

end TypeSchema
