/-
# Inheritance — classes over classes

A compound object puts its members one by one into those of its base, a simple
one puts the members of its base behind its own.  With names that differ among
the own members, and among those of the base, both come to a list that can be
written down (`Member.foldl_put`, `Member.join_eq`).  Where no own member takes
the place of an inherited one, all inherited members are in the list, as they
are; so a value of the class is one of its base, unless the base minds further
fields (`ValueType.validateItem_of_members`).

A type of a declaration is made of the types of others (`typeStep_typeOf`), so
all this is about one step, whatever the base is derived from in turn.
-/
import TypeSchema.Proofs.Document.Scoping
import TypeSchema.Proofs.Typing.Aliases
import TypeSchema.Proofs.ValueType.Acceptance

namespace TypeSchema

open Declaration (Id)

/-! ## Members among others -/

namespace Member

/-- The members of a base with own ones in the places of those of their names,
and the other own ones behind them. -/
def override (base own : List Member) : List Member :=
  base.map (fun m => (find? m.name own).getD m) ++ own.filter (·.name ∉ names base)

variable {base own ms : List Member} {m n : Member} {name : String}

theorem override_nil (own : List Member) : override [] own = own := by
  simp [override]

theorem find?_eq_none : find? name ms = none ↔ name ∉ names ms := by
  simp [find?, names]

@[simp] theorem mk_name_type (m : Member) : mk m.name m.type = m := by
  cases m
  rfl

/-- One name more to leave out makes no difference if nothing has it. -/
theorem filter_names_concat (names : List String) (fresh : name ∉ ms.map Member.name) :
    ms.filter (·.name ∉ names ++ [name]) = ms.filter (·.name ∉ names) := by
  refine List.filter_congr fun n hn => ?_
  have hne : n.name ≠ name := fun same => fresh (List.mem_map.mpr ⟨n, hn, same⟩)
  simp [hne]

/-- Where names differ, there is one place to put a member in. -/
theorem put_eq (distinct : (names ms).Nodup) : put m.name m.type ms =
    ms.map (fun n => if n.name = m.name then m else n) ++
      if m.name ∈ names ms then [] else [m] := by
  induction ms with
  | nil => simp [put]
  | cons n ms ih =>
      obtain ⟨fresh, distinct⟩ := List.nodup_cons.mp distinct
      rw [put, List.map_cons, names_cons]
      by_cases hn : n.name = m.name
      · have others : ms.map (fun k => if k.name = m.name then m else k) = ms := by
          have hne : ∀ k ∈ ms, k.name ≠ m.name := fun k hk same =>
            fresh (List.mem_map.mpr ⟨k, hk, same.trans hn.symm⟩)
          exact (List.map_congr_left fun k hk => if_neg (hne k hk)).trans (List.map_id ms)
        rw [if_pos hn, if_pos hn, if_pos (hn ▸ List.mem_cons_self), others, List.append_nil,
          mk_name_type]
      · have elsewhere : m.name ∈ n.name :: names ms ↔ m.name ∈ names ms :=
          List.mem_cons.trans (or_iff_right (Ne.symm hn))
        rw [if_neg hn, if_neg hn, ih distinct, List.cons_append]
        simp only [elsewhere]

/-- Own members that are put one by one end up in place of others or behind them. -/
theorem foldl_put (distinct : (names base).Nodup) (distinct' : (names own).Nodup) :
    own.foldl (fun done m => put m.name m.type done) base = override base own := by
  induction own generalizing base with
  | nil => simp [override, find?]
  | cons m own ih =>
      obtain ⟨fresh, distinct'⟩ := List.nodup_cons.mp distinct'
      have left : find? m.name own = none := find?_eq_none.mpr fresh
      have places : base.map ((fun n => (find? n.name own).getD n) ∘
          fun n => if n.name = m.name then m else n) =
            base.map fun n => (find? n.name (m :: own)).getD n := by
        refine List.map_congr_left fun n _ => ?_
        by_cases hn : n.name = m.name
        · rw [Function.comp_apply, if_pos hn, left]
          simp [find?, hn]
        · simp [hn, Ne.symm hn, find?]
      rw [List.foldl_cons, ih (nodup_names_put distinct) distinct', override, names_put,
        put_eq distinct, List.map_append, List.map_map, places, List.append_assoc, override,
        List.append_cancel_left_eq]
      by_cases hm : m.name ∈ names base
      · simp [hm]
      · rw [if_neg hm, if_neg hm, filter_names_concat _ fresh]
        simp [hm, left]

/-- What no own member is named like stays in its place. -/
theorem mem_override (apart : m.name ∉ names own) (hm : m ∈ base) : m ∈ override base own := by
  refine List.mem_append_left _ (List.mem_map.mpr ⟨m, hm, ?_⟩)
  rw [find?_eq_none.mpr apart]
  rfl

/-- Joining leaves out those of the names that are there. -/
theorem join_eq (distinct : (names base).Nodup) :
    join own base = own ++ base.filter (·.name ∉ names own) := by
  unfold join
  induction base generalizing own with
  | nil => simp
  | cons m base ih =>
      obtain ⟨fresh, distinct⟩ := List.nodup_cons.mp distinct
      have there : own.any (·.name = m.name) = true ↔ m.name ∈ names own := by
        simp only [List.any_eq_true, decide_eq_true_eq, names, List.mem_map]
      rw [List.foldl_cons, ih distinct]
      by_cases hm : m.name ∈ names own
      · simp [there.mpr hm, hm]
      · rw [if_neg (mt there.mp hm), names_append, names_cons, names_nil,
          filter_names_concat _ fresh]
        simp [hm]

end Member

/-- A class with all members of another one accepts no more values, unless
the other one minds further fields. -/
theorem ValueType.validateItem_of_members {t base : ValueType} {ms bs : List Member} {exact : Bool}
    (class_t : t.kind = .object ms exact) (class_base : base.kind = .object bs false)
    (bare : base.hook = none) (all : ∀ m ∈ bs, m ∈ ms) {files : FileTree} {v : Value}
    (h : t.validateItem files v = .ok ()) : base.validateItem files v = .ok () := by
  obtain ⟨accepted, -⟩ := Checked.bind_eq_ok.mp h
  rw [class_t] at accepted
  obtain ⟨fields, rfl, admits, -⟩ := Kind.accept_object_eq_ok.mp accepted
  refine Checked.bind_eq_ok.mpr ⟨?_, ?_⟩
  · rw [class_base]
    exact Kind.accept_object_eq_ok.mpr ⟨fields, rfl, fun m hm => admits m (all m hm), nofun⟩
  · rw [bare]
    rfl

namespace Graph

open Member (names)

/-! ## Types of declarations have no check from outside -/

section Hookless

variable {g : Graph} {typing : Typing} {id : Id} {t : ValueType}

theorem hook_classOf {d : Declaration} {ms : List Member} (h : classOf d ms = .ok t) :
    t.hook = none := by
  obtain ⟨type, hof, h⟩ := Steps.except_bind_eq_ok.mp h
  cases h
  obtain ⟨-, rfl⟩ := ValueType.ofKind_eq_ok.mp (Steps.mapError_eq_ok.mp hof)
  rfl

theorem hook_retagged {base : ValueType} {tags : Metadata} {place : Location}
    (bare : base.hook = none) (h : retagged base tags place = .ok t) : t.hook = none := by
  unfold retagged at h
  split at h
  · cases h
    exact bare
  · split at h
    · cases h
      exact bare
    · obtain ⟨type, hof, rfl⟩ := Steps.map_eq_ok.mp h
      obtain ⟨-, rfl⟩ := ValueType.ofKind_eq_ok.mp (Steps.mapError_eq_ok.mp hof)
      rfl

theorem hook_typeStep (bare : ∀ y s, typing y = .ok s → s.hook = none)
    (h : g.typeStep typing id = .ok t) : t.hook = none := by
  unfold typeStep at h
  simp only at h
  split at h
  · obtain ⟨base, -, h⟩ := Steps.except_bind_eq_ok.mp h
    obtain ⟨members, -, h⟩ := Steps.except_bind_eq_ok.mp h
    exact hook_classOf h
  · obtain ⟨own, -, h⟩ := Steps.except_bind_eq_ok.mp h
    obtain ⟨base, -, h⟩ := Steps.except_bind_eq_ok.mp h
    split at h
    · obtain ⟨value, -, h⟩ := Steps.except_bind_eq_ok.mp h
      exact hook_classOf h
    · split at h <;> exact hook_classOf h
    · cases h
  · cases h
  · obtain ⟨r, -, h⟩ := Steps.except_bind_eq_ok.mp h
    simp only at h
    split at h
    · obtain ⟨type, ht, h⟩ := Steps.except_bind_eq_ok.mp h
      cases h
      exact (ValueType.givenBy_of_ofMetadata ht).2.2
    · obtain ⟨_, -, h⟩ := Steps.except_bind_eq_ok.mp h
      obtain ⟨base, hbase, h⟩ := Steps.except_bind_eq_ok.mp h
      obtain ⟨type, ht, h⟩ := Steps.except_bind_eq_ok.mp h
      cases h
      show type.hook = none
      exact hook_retagged (bare _ base hbase) ht
  · cases h

theorem hook_typeWithin (g : Graph) : ∀ (n : Nat) {free : List Id}, free.length = n →
    ∀ y s, g.typeWithin free y = .ok s → s.hook = none := by
  intro n
  induction n with
  | zero =>
      intro free hlen y s h
      rw [typeWithin, List.length_eq_zero_iff.mp hlen, dif_neg List.not_mem_nil] at h
      cases h
  | succ n ih =>
      intro free hlen y s h
      rw [typeWithin] at h
      split at h
      · rename_i hfree
        refine hook_typeStep (ih ?_) h
        rw [List.length_erase_of_mem hfree, hlen, Nat.add_sub_cancel]
      · cases h

theorem hook_typeOf (h : g.typeOf id = .ok t) : t.hook = none := hook_typeWithin g _ rfl id t h

end Hookless

/-! ## Own members -/

/-- The members that children make: their names, each with the type of its child. -/
def MakeMembers (g : Graph) (typing : Typing) : List Id → List Member → Prop :=
  List.Forall₂ fun child m => (g.node child).name = some m.name ∧ typing child = .ok m.type

section Own

variable {g : Graph} {typing : Typing} {children : List Id} {ms all own : List Member}

theorem exists_makeMembers (named : ∀ c ∈ children, ∃ name, (g.node c).name = some name)
    (h : g.addMembers typing ms children = .ok all) :
    ∃ own, g.MakeMembers typing children own ∧
      all = own.foldl (fun done m => Member.put m.name m.type done) ms := by
  unfold addMembers at h
  induction children generalizing ms with
  | nil =>
      cases h
      exact ⟨[], .nil, rfl⟩
  | cons c children ih =>
      rw [List.foldlM_cons] at h
      obtain ⟨ms₁, first, rest⟩ := Steps.except_bind_eq_ok.mp h
      obtain ⟨t, ht, hput⟩ := Steps.except_bind_eq_ok.mp first
      cases hput
      obtain ⟨name, hname⟩ := named c List.mem_cons_self
      obtain ⟨own, makes, rfl⟩ := ih (fun c hc => named c (List.mem_cons_of_mem _ hc)) rest
      refine ⟨.mk name t :: own, .cons ⟨hname, ht⟩ makes, ?_⟩
      rw [List.foldl_cons, hname]
      rfl

theorem MakeMembers.names (makes : g.MakeMembers typing children own) :
    (Member.names own).map some = children.map fun c => (g.node c).name := by
  induction makes with
  | nil => rfl
  | cons hc _ ih => rw [Member.names_cons, List.map_cons, List.map_cons, ih, hc.1]

/-- Children with different names make members with different names. -/
theorem MakeMembers.nodup (makes : g.MakeMembers typing children own)
    (different : children.Pairwise fun c c' => (g.node c).name ≠ (g.node c').name) :
    (Member.names own).Nodup :=
  List.Nodup.of_map some (makes.names ▸ List.pairwise_map.mpr different)

end Own

section Settled

variable {g : Graph} (settled : g.Settled)
include settled

/-- The members among the children of a declaration have different names. -/
theorem pairwise_names (nested : g.Nested) (distinct : g.Distinct) (o : Id) :
    ((g.node o).children.filter g.isMember).Pairwise
      fun c c' => (g.node c).name ≠ (g.node c').name := by
  refine List.Pairwise.imp_of_mem ?_ ((nested.nodup o).filter _)
  intro c c' hc hc' hne same
  obtain ⟨hc, hm⟩ := List.mem_filter.mp hc
  obtain ⟨name, hname⟩ := settled.name_of_member hm
  exact hne (distinct hc (List.mem_filter.mp hc').1 (by rw [hname]; rfl) same.symm)

section Base

variable {o base : Id} (refers : (g.node o).reference = .declaration base)
  {t b : ValueType} {bs : List Member} {exact : Bool} (based : g.typeOf base = .ok b)
  (class_b : b.kind = .object bs exact)
include refers based class_b

theorem nodup_names_of_base : (names bs).Nodup := by
  have explained := explained_typeOf settled (settled.linked.target refers).1
  rw [based] at explained
  exact (explained.1.formed bs exact class_b).distinct

variable (nested : g.Nested) (distinct : g.Distinct) (ho : o < g.size)
  (typed : g.typeOf o = .ok t)
include nested distinct ho typed

/-- The members of a compound object: those of its base under its own. -/
theorem typeOf_compound (hl : (g.node o).subtype = some .compound) :
    ∃ own, g.MakeMembers g.typeOf ((g.node o).children.filter g.isMember) own ∧
      t.kind = .object (Member.override bs own) (isExact (g.node o).metadata) := by
  have step := typeStep_typeOf settled ho typed
  simp only [typeStep, hl] at step
  obtain ⟨inherits, hbase, step⟩ := Steps.except_bind_eq_ok.mp step
  obtain ⟨b', hb, rfl⟩ := (inherited_eq_ok hbase).1 base refers
  cases hb.symm.trans based
  simp only [Option.bind_some, class_b, Kind.object?] at step
  obtain ⟨ms, added, step⟩ := Steps.except_bind_eq_ok.mp step
  obtain ⟨own, makes, rfl⟩ := exists_makeMembers
    (fun c hc => settled.name_of_member (List.mem_filter.mp hc).2) added
  refine ⟨own, makes, ?_⟩
  rw [(classOf_eq_ok step).2, Member.foldl_put (nodup_names_of_base settled refers based class_b)
    (makes.nodup (pairwise_names settled nested distinct o))]

/-- The members of a simple object: its own, and those of its base that have
other names. -/
theorem typeOf_simple (hl : (g.node o).subtype = some .simple) :
    ∃ own, g.MakeMembers g.typeOf ((g.node o).children.filter g.isMember) own ∧
      t.kind = .object (own ++ bs.filter (·.name ∉ names own)) (isExact (g.node o).metadata) := by
  have step := typeStep_typeOf settled ho typed
  simp only [typeStep, hl] at step
  have attributes : ((g.node o).children.filter fun child => (g.node child).role == .attr)
      = (g.node o).children.filter g.isMember := by
    refine List.filter_congr fun c hc => ?_
    obtain ⟨role, hm⟩ := settled.attr_of_child ho hl hc
    rw [role, hm]
    rfl
  obtain ⟨own, added, -⟩ := Steps.except_bind_eq_ok.mp step
  rw [simpleType_declaration added refers, based] at step
  simp only [bind, Except.bind, class_b, Kind.object?] at step
  rw [attributes] at added
  obtain ⟨own, makes, rfl⟩ := exists_makeMembers
    (fun c hc => settled.name_of_member (List.mem_filter.mp hc).2) added
  have empty : (names []).Nodup := List.nodup_nil
  rw [Member.foldl_put empty (makes.nodup (pairwise_names settled nested distinct o)),
    Member.override_nil] at step
  refine ⟨own, makes, ?_⟩
  rw [(classOf_eq_ok step).2, Member.join_eq (nodup_names_of_base settled refers based class_b)]

end Base

end Settled

end Graph

namespace Document

open TypeSchema.Graph

/-- An object over a class is a class itself.  A compound one has the members
of its base, with its own members in the places of those of their names, and
then its other own ones; a simple one has its own and those of its base that
have other names.  No two members have one name.  Where no own member has a
name from the base, and the base does not mind further fields, each value of
the object is one of its base. -/
theorem typeOf_inherits {sources : Sources} {frontEnd : FrontEnd} {options : Options} {main : Path}
    {doc : Document} (resolved : resolve sources frontEnd options main = .ok doc) {o base : Id}
    (object : (doc.graph.node o).isObject)
    (refers : (doc.graph.node o).reference = .declaration base) {t b : ValueType}
    (typed : doc.typeOf o = .ok t) (based : doc.typeOf base = .ok b) {bs : List Member}
    {exact : Bool} (class_b : b.kind = .object bs exact) :
    ∃ own ms, doc.graph.MakeMembers doc.typeOf
        ((doc.graph.node o).children.filter doc.graph.isMember) own ∧
      t.kind = .object ms (isExact (doc.graph.node o).metadata) ∧
      ((doc.graph.node o).subtype = some .compound ∧ ms = Member.override bs own ∨
        (doc.graph.node o).subtype = some .simple ∧
          ms = own ++ bs.filter (·.name ∉ Member.names own)) ∧
      (Member.names ms).Nodup ∧
      ((∀ m ∈ own, m.name ∉ Member.names bs) → exact = false → ∀ files v,
        t.validateItem files v = .ok () → b.validateItem files v = .ok ()) := by
  have settled := settled_of_resolve resolved
  obtain ⟨d, built, run⟩ := resolve_eq_ok resolved
  obtain ⟨nested, distinct, -⟩ := scoped_of_ofGraph built run
  have ho : o < doc.graph.size := by
    by_contra outside
    rw [node_of_size_le (Nat.not_lt.mp outside)] at refers
    cases refers
  have formed := explained_typeOf settled ho
  rw [show doc.graph.typeOf o = .ok t from typed] at formed
  have label : IsClass (doc.graph.labels o) := by
    rcases settled.label_cases ho with ⟨hl, -⟩ | ⟨-, -, lacks⟩ | ⟨-, hp⟩
    · exact hl
    · have := lacks object
      rw [refers] at this
      cases this
    · simp [Declaration.isObject, hp] at object
  have apart_of : ∀ {own : List Member}, (∀ m ∈ own, m.name ∉ Member.names bs) →
      ∀ m ∈ bs, m.name ∉ Member.names own := by
    intro own apart m hm again
    obtain ⟨n, hn, same⟩ := List.mem_map.mp again
    exact apart n hn (List.mem_map.mpr ⟨m, hm, same.symm⟩)
  rcases label with hl | hl
  · obtain ⟨own, makes, class_t⟩ :=
      typeOf_compound settled refers based class_b nested distinct ho typed hl
    refine ⟨own, _, makes, class_t, .inl ⟨hl, rfl⟩, (formed.1.formed _ _ class_t).distinct, ?_⟩
    rintro apart rfl files v
    exact ValueType.validateItem_of_members class_t class_b (hook_typeOf based) fun m hm =>
      Member.mem_override (apart_of apart m hm) hm
  · obtain ⟨own, makes, class_t⟩ :=
      typeOf_simple settled refers based class_b nested distinct ho typed hl
    refine ⟨own, _, makes, class_t, .inr ⟨hl, rfl⟩, (formed.1.formed _ _ class_t).distinct, ?_⟩
    rintro apart rfl files v
    exact ValueType.validateItem_of_members class_t class_b (hook_typeOf based) fun m hm =>
      List.mem_append_right _ (List.mem_filter.mpr ⟨hm, by simpa using apart_of apart m hm⟩)

/-- A spot is a point with another kind of `y` and a size.  A price is an
amount with a currency next to its unit, and so is each value of it. -/
theorem typeOf_inherits_spot :
    let sources : Sources := ⟨fun _ => .ok "", 1⟩
    let frontEnd : FrontEnd := fun _ _ =>
      .sequence [.need (.beginObject "Point" .standard none .api),
        .need (.declaration "x" .attr "int" .api), .need (.declaration "y" .standard "int" .api),
        .need .endObject, .need (.beginObject "Spot" .standard (some "Point") .api),
        .need (.declaration "y" .attr "string" .api),
        .need (.declaration "size" .standard "int" .api), .need .endObject,
        .need (.beginObject "Amount" .standard (some "int") .api),
        .need (.declaration "unit" .attr "string" .api), .need .endObject,
        .need (.beginObject "Price" .standard (some "Amount") .api),
        .need (.declaration "currency" .attr "string" .api), .need .endObject]
    let price : Value := .object [("currency", .string "EUR"), ("unit", .string "kg"),
      ("value", .int 3)]
    ∃ doc, resolve sources frontEnd .lenient ⟨"main"⟩ = .ok doc ∧
      (∃ t own bs, doc.typeOf 4 = .ok t ∧ Member.names bs = ["x", "y"] ∧
        Member.names own = ["y", "size"] ∧ t.kind = .object (Member.override bs own) false) ∧
      ∃ t b, doc.typeOf 9 = .ok t ∧ doc.typeOf 7 = .ok b ∧
        t.validateItem .empty price = .ok () ∧ b.validateItem .empty price = .ok () := by
  intro sources frontEnd price
  let names (g : Graph) (id : Id) : List (Option String) :=
    ((g.node id).children.filter g.isMember).map fun c => (g.node c).name
  let isClass (ns : List String) (t : ValueType) : Bool :=
    t.kind.object?.any fun o => decide (Member.names o.1 = ns ∧ o.2 = false)
  let accepts (t : ValueType) : Bool := (t.validateItem .empty price).toOption.isSome
  have run : (resolve sources frontEnd .lenient ⟨"main"⟩).toOption.any (fun doc =>
      let g := doc.graph
      decide ((g.node 4).isObject ∧ (g.node 4).reference = .declaration 1 ∧
        (g.node 4).subtype = some .compound ∧ names g 4 = [some "y", some "size"] ∧
        isExact (g.node 4).metadata = false) &&
      decide ((g.node 9).isObject ∧ (g.node 9).reference = .declaration 7 ∧
        names g 9 = [some "currency"]) &&
      (doc.typeOf 1).toOption.any (isClass ["x", "y"]) &&
      (doc.typeOf 4).toOption.any (isClass ["x", "y", "size"]) &&
      (doc.typeOf 7).toOption.any (isClass ["unit", "value"]) &&
      (doc.typeOf 9).toOption.any accepts) = true := by decide +kernel
  have class_of : ∀ {t ns}, isClass ns t = true →
      ∃ ms, t.kind = .object ms false ∧ Member.names ms = ns := by
    intro t ns h
    obtain ⟨⟨ms, e⟩, ho, h⟩ := (Option.any_eq_true _ _).mp h
    obtain ⟨hns, rfl⟩ := of_decide_eq_true h
    exact ⟨ms, Kind.object?_eq_some.mp ho, hns⟩
  obtain ⟨doc, resolved, run⟩ := Steps.exists_ok_of_any run
  simp only [Bool.and_eq_true, decide_eq_true_eq] at run
  obtain ⟨⟨⟨⟨⟨⟨object, refers, compound, hown, plain⟩, object', refers', hown'⟩, point⟩,
    spot⟩, amount⟩, accepted⟩ := run
  obtain ⟨b, based, hb⟩ := Steps.exists_ok_of_any point
  obtain ⟨bs, class_b, hbs⟩ := class_of hb
  obtain ⟨t, typed_t, -⟩ := Steps.exists_ok_of_any spot
  obtain ⟨b', based', hb'⟩ := Steps.exists_ok_of_any amount
  obtain ⟨bs', class_b', hbs'⟩ := class_of hb'
  obtain ⟨t', typed_t', ht'⟩ := Steps.exists_ok_of_any accepted
  have injective : Function.Injective (List.map (some : String → Option String)) :=
    List.map_injective_iff.mpr (Option.some_injective String)
  refine ⟨doc, resolved, ?_, t', b', typed_t', based', ?_⟩
  · obtain ⟨own, ms, makes, class_t, ⟨-, rfl⟩ | ⟨simple, -⟩, -⟩ :=
      typeOf_inherits resolved object refers typed_t based class_b
    · have named : Member.names own = ["y", "size"] := injective (makes.names.trans hown)
      exact ⟨t, own, bs, typed_t, hbs, named, plain ▸ class_t⟩
    · rw [compound] at simple
      cases simple
  · obtain ⟨own, ms, makes, -, -, -, values⟩ :=
      typeOf_inherits resolved object' refers' typed_t' based' class_b'
    have named : Member.names own = ["currency"] := injective (makes.names.trans hown')
    have apart : ∀ m ∈ own, m.name ∉ Member.names bs' := by
      intro m hm
      have : m.name ∈ Member.names own := List.mem_map.mpr ⟨m, hm, rfl⟩
      rw [named, List.mem_singleton] at this
      rw [this, hbs']
      decide
    cases hv : t'.validateItem .empty price with
    | error r => simp only [accepts, hv] at ht'; cases ht'
    | ok u => exact ⟨rfl, values apart rfl .empty price hv⟩

end Document

end TypeSchema
