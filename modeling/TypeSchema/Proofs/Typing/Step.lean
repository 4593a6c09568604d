/-
# Step — making one type from others

Every kind of declaration makes its type in its own way, but what comes of it
is of one form (`Answers`): a type, and then there was one of everything that
was asked for and the declaration has no fault of its own; or an error, which
is that of something asked for, or names a fault of the declaration itself.
-/
import TypeSchema.Proofs.Typing.Dependencies

namespace TypeSchema

open Declaration (Id Production Subtype Reference)

namespace Graph

open Member (names WellNamed not_mem_before repeats_last)

/-! ## One declaration -/

/-- A type was made, of types of all that was asked for. -/
structure Made (g : Graph) (typeOf : Typing) (id : Id) (t : ValueType) : Prop where
  typed : Typed g id t
  asked : ∀ y, Asks g id y → ∃ t, typeOf y = .ok t
  sound : ∀ tags fault, ¬ g.ClassFault id tags fault

/-- No type was made: there was none for what was asked for, or the
declaration itself is at fault. -/
inductive Refused (g : Graph) (typeOf : Typing) (id : Id) : SchemaError → Prop
  | asked {y : Id} {e : SchemaError} : Asks g id y → typeOf y = .error e → Refused g typeOf id e
  | fault {tags : List String} {fault : ConstraintFault} : g.ClassFault id tags fault →
      Refused g typeOf id (.metadataConstraint tags fault (g.node id).location)
  | missing {holder : Id} {text : String} : Misses g id holder text →
      Refused g typeOf id (.unresolvedReference text (g.node holder).location)
  | extension : (g.node id).production = .extension →
      Refused g typeOf id (.unsupported .extensionAsType (g.node id).location)

/-- Either comes of making a type. -/
def Answers (g : Graph) (typeOf : Typing) (id : Id) : Except SchemaError ValueType → Prop
  | .ok t => Made g typeOf id t
  | .error e => Refused g typeOf id e

section Step

theorem inherited_eq_ok {typeOf : Typing} {d : Declaration} {base : Option ValueType}
    (h : inherited typeOf d = .ok base) :
    (∀ target, d.reference = .declaration target → ∃ t, typeOf target = .ok t ∧ base = some t) ∧
      ((∀ target, d.reference ≠ .declaration target) → base = none) := by
  unfold inherited at h
  cases hr : d.reference with
  | declaration target =>
      rw [hr] at h
      cases ht : typeOf target with
      | error e => simp only [ht] at h; cases h
      | ok t =>
          simp only [ht] at h
          cases h
          refine ⟨?_, fun none => absurd rfl (none target)⟩
          rintro _ ⟨⟩
          exact ⟨t, ht, rfl⟩
  | _ =>
      rw [hr] at h
      cases h
      exact ⟨by simp, fun _ => rfl⟩

theorem inherited_eq_error {typeOf : Typing} {d : Declaration} {e : SchemaError}
    (h : inherited typeOf d = .error e) :
    ∃ target, d.reference = .declaration target ∧ typeOf target = .error e := by
  unfold inherited at h
  cases hr : d.reference with
  | declaration target =>
      rw [hr] at h
      cases ht : typeOf target with
      | error e' => simp only [ht] at h; cases h; exact ⟨target, rfl, ht⟩
      | ok t => simp only [ht] at h; cases h
  | _ => rw [hr] at h; cases h

variable {g : Graph} {typeOf : Typing} {id : Id}

/-- The members that a class starts out with are those of its base, if that is
a class. -/
theorem wellNamed_inherited {base : Option ValueType}
    (formed : ∀ t, base = some t → t.Formed) :
    WellNamed (match base.bind (·.kind.object?) with
      | some (members, _) => members
      | none => []) := by
  cases base with
  | none => exact ⟨List.nodup_nil, List.not_mem_nil⟩
  | some t =>
      cases hk : t.kind with
      | object members exact => simpa [hk, Kind.object?] using formed t rfl members exact hk
      | _ => simpa [hk, Kind.object?] using ⟨List.nodup_nil, List.not_mem_nil⟩

/-- What an object refers to has a type that is no class, or a class that can
be made. -/
theorem formed_inherited
    (typed : ∀ y, Asks g id y → ∀ t, typeOf y = .ok t → Typed g y t) (hl : IsClass (g.labels id))
    {base : Option ValueType}
    (h : inherited typeOf (g.node id) = .ok base) : ∀ t, base = some t → t.Formed := by
  rintro t rfl
  obtain ⟨hasked, hnone⟩ := inherited_eq_ok h
  by_cases hr : ∃ target, (g.node id).reference = .declaration target
  · obtain ⟨target, hr⟩ := hr
    obtain ⟨t', ht', heq⟩ := hasked target hr
    cases heq
    exact (typed target (.base hl hr) t ht').formed
  · have := hnone fun target ht => hr ⟨target, ht⟩
    cases this

/-- The members that the children of a declaration make. -/
structure OwnNames (g : Graph) (id : Id) (own : List String) : Prop where
  distinct : own.Nodup
  mem_iff : ∀ n, n ∈ own ↔
    ∃ child ∈ (g.node id).children, g.isMember child ∧ (g.node child).name = some n

/-- The members of a simple object: its attributes, next to its value or to
the members of the class it refers to. -/
inductive SimpleMembers (g : Graph) (id : Id) (ms : List Member) : Prop
  | value {own : List String} : OwnNames g id own → g.HoldsValue id →
      (g.node id).reference ≠ .fundamental .enumeration →
      names ms = own ++ [valueName (g.node id)] → SimpleMembers g id ms
  | base {own inherited : List String} : OwnNames g id own → ¬ g.HoldsValue id →
      (names ms).Nodup → (∀ n, n ∈ names ms ↔ n ∈ own ∨ n ∈ inherited) → "" ∉ inherited →
      SimpleMembers g id ms

/-- A simple object is refused before its members are put together, or it
becomes the class of these. -/
inductive SimpleOutcome (g : Graph) (typeOf : Typing) (id : Id) : Prop
  | refused {e : SchemaError} : g.simpleType typeOf (g.node id) = .error e →
      Refused g typeOf id e → SimpleOutcome g typeOf id
  | members {ms : List Member} : SimpleMembers g id ms →
      (∀ y, Asks g id y → ∃ t, typeOf y = .ok t) →
      g.simpleType typeOf (g.node id) = classOf (g.node id) ms → SimpleOutcome g typeOf id

theorem simpleType_fundamental {own : List Member} {kind : Fundamental}
    (hown : g.addMembers typeOf []
      ((g.node id).children.filter fun child => (g.node child).role == .attr) = .ok own)
    (hr : (g.node id).reference = .fundamental kind) :
    g.simpleType typeOf (g.node id) =
      ValueType.ofMetadata kind .empty (g.node id).location >>= fun value =>
        classOf (g.node id) (own ++ [.mk (valueName (g.node id)) value]) := by
  unfold simpleType
  rw [hown, hr]
  simp only [inherited, hr]
  rfl

theorem simpleType_declaration {own : List Member} {target : Id}
    (hown : g.addMembers typeOf []
      ((g.node id).children.filter fun child => (g.node child).role == .attr) = .ok own)
    (hr : (g.node id).reference = .declaration target) :
    g.simpleType typeOf (g.node id) = typeOf target >>= fun base =>
      match base.kind.object? with
      | some (members, _) => classOf (g.node id) (Member.join own members)
      | none =>
        classOf (g.node id) (own ++ [.mk (valueName (g.node id)) (base.withArity .single)]) := by
  unfold simpleType
  rw [hown]
  simp only [inherited, hr]
  cases typeOf target <;> rfl

theorem typeStep_of_derived (hl : IsDerived (g.labels id)) :
    g.typeStep typeOf id = g.derivedType typeOf id := by
  unfold labels at hl
  unfold typeStep
  cases hs : (g.node id).subtype with
  | none => rw [hs] at hl; cases hl
  | some s =>
      rw [hs] at hl
      simp only [hs]
      cases s <;> first | rfl | cases hl

variable (settled : g.Settled) (hid : id < g.size)
include settled hid

theorem compoundType_ok {t : ValueType} (hl : g.labels id = some .compound)
    (h : g.compoundType typeOf (g.node id) = .ok t) : Made g typeOf id t := by
  obtain ⟨base, hbase, h⟩ := Steps.except_bind_eq_ok.mp h
  obtain ⟨members, hmembers, h⟩ := Steps.except_bind_eq_ok.mp h
  obtain ⟨wellNamed, hkind⟩ := classOf_eq_ok h
  obtain ⟨hasked, _⟩ := inherited_eq_ok hbase
  obtain ⟨htyped, _, covers⟩ := addMembers_eq_ok hmembers
  have ho := (settled.object_of_isClass hid (.inl hl)).1
  refine ⟨⟨?_, _, .object ho, ?_⟩, ?_, ?_⟩
  · intro members' exact hk
    rw [hkind] at hk
    cases hk
    exact wellNamed
  · simp [hkind, Kind.object?]
  · intro y asks
    cases asks with
    | member _ hc hm => exact htyped y (List.mem_filter.mpr ⟨hc, hm⟩)
    | base _ hr =>
        obtain ⟨t', ht', _⟩ := hasked y hr
        exact ⟨t', ht'⟩
    | derived hd => simp [hl, IsDerived] at hd
  · intro tags fault hfault
    cases hfault with
    | unnamed _ hc hm hname =>
        refine wellNamed.named ((covers "").mpr (.inr ⟨_, List.mem_filter.mpr ⟨hc, hm⟩, ?_⟩))
        rw [hname]
        rfl
    | unnamedValue hs => simp [hl] at hs
    | repeatedValue hs => simp [hl] at hs
    | noValues hs => simp [hl] at hs

theorem ownNames_addMembers (hl : g.labels id = some .simple) {own : List Member}
    (h : g.addMembers typeOf []
      ((g.node id).children.filter fun child => (g.node child).role == .attr) = .ok own) :
    OwnNames g id (names own) ∧ ∀ child ∈ (g.node id).children, ∃ t, typeOf child = .ok t := by
  obtain ⟨htyped, distinct, covers⟩ := addMembers_eq_ok h
  have attr : ∀ {child}, child ∈ (g.node id).children →
      child ∈ (g.node id).children.filter fun child => (g.node child).role == .attr := by
    intro child hc
    have := (settled.attr_of_child hid hl hc).1
    exact List.mem_filter.mpr ⟨hc, by simp [this]⟩
  refine ⟨⟨distinct List.nodup_nil, fun n => ?_⟩, fun child hc => htyped child (attr hc)⟩
  rw [covers]
  constructor
  · rintro (hn | ⟨child, hc, hname⟩)
    · cases hn
    · have hc := (List.mem_filter.mp hc).1
      have hm := (settled.attr_of_child hid hl hc).2
      obtain ⟨name, hsome⟩ := settled.name_of_member hm
      rw [hsome] at hname
      exact ⟨child, hc, hm, hsome.trans (congrArg some hname)⟩
  · rintro ⟨child, hc, _, hname⟩
    exact .inr ⟨child, attr hc, by rw [hname]; rfl⟩

variable (typed : ∀ y, Asks g id y → ∀ t, typeOf y = .ok t → Typed g y t)
include typed

omit hid in
theorem compoundType_error {e : SchemaError} (hl : g.labels id = some .compound)
    (h : g.compoundType typeOf (g.node id) = .error e) : Refused g typeOf id e := by
  have hclass : IsClass (g.labels id) := .inl hl
  rcases Steps.except_bind_eq_error.mp h with hbase | ⟨base, hbase, h⟩
  · obtain ⟨target, hr, he⟩ := inherited_eq_error hbase
    exact .asked (.base hclass hr) he
  have start := wellNamed_inherited (formed_inherited typed hclass hbase)
  rcases Steps.except_bind_eq_error.mp h with hmembers | ⟨members, hmembers, h⟩
  · obtain ⟨child, hc, he⟩ := addMembers_eq_error hmembers
    obtain ⟨hc, hm⟩ := List.mem_filter.mp hc
    exact .asked (.member hclass hc hm) he
  obtain ⟨_, distinct, covers⟩ := addMembers_eq_ok hmembers
  rcases classOf_eq_error h with ⟨rfl, hmem⟩ | ⟨n, before, after, rfl, split, hn⟩
  · rcases (covers "").mp hmem with hstart | ⟨child, hc, hname⟩
    · exact absurd hstart start.named
    · obtain ⟨hc, hm⟩ := List.mem_filter.mp hc
      obtain ⟨name, hsome⟩ := settled.name_of_member hm
      rw [hsome] at hname
      exact .fault (.unnamed hclass hc hm (hsome.trans (congrArg some hname)))
  · exact absurd hn (not_mem_before (distinct start.distinct) split)

omit typed in
/-- Over a fundamental kind, the value is of this kind. -/
theorem simpleOutcome_of_fundamental (hl : g.labels id = some .simple) {own : List Member}
    (hown : g.addMembers typeOf []
      ((g.node id).children.filter fun child => (g.node child).role == .attr) = .ok own)
    {kind : Fundamental} (hr : (g.node id).reference = .fundamental kind) :
    SimpleOutcome g typeOf id := by
  obtain ⟨ownNames, htyped⟩ := ownNames_addMembers settled hid hl hown
  have unfolded := simpleType_fundamental hown hr
  rcases ValueType.ofMetadata_empty kind (g.node id).location with
    ⟨hkind, value, hvalue⟩ | ⟨rfl, hvalue⟩
  · rw [hvalue] at unfolded
    refine .members (.value ownNames (.inl ⟨kind, hr⟩) ?_ (by simp)) ?_ unfolded
    · rw [hr]
      simpa using hkind
    · intro y asks
      cases asks with
      | member _ hc _ => exact htyped y hc
      | base _ hr' => rw [hr] at hr'; cases hr'
      | derived hd => simp [hl, IsDerived] at hd
  · rw [hvalue] at unfolded
    exact .refused unfolded (.fault (.noValues hl hr))

/-- Over a declaration, there are the members of its class, or the value is of
its type. -/
theorem simpleOutcome_of_declaration (hl : g.labels id = some .simple) {own : List Member}
    (hown : g.addMembers typeOf []
      ((g.node id).children.filter fun child => (g.node child).role == .attr) = .ok own)
    {target : Id} (hr : (g.node id).reference = .declaration target) :
    SimpleOutcome g typeOf id := by
  obtain ⟨ownNames, htyped⟩ := ownNames_addMembers settled hid hl hown
  have unfolded := simpleType_declaration hown hr
  cases hbase : typeOf target with
  | error e =>
      rw [hbase] at unfolded
      exact .refused unfolded (.asked (.base (.inr hl) hr) hbase)
  | ok base =>
      simp only [hbase, bind, Except.bind] at unfolded
      have asked : ∀ y, Asks g id y → ∃ t, typeOf y = .ok t := by
        intro y asks
        cases asks with
        | member _ hc _ => exact htyped y hc
        | base _ hr' => rw [hr] at hr'; cases hr'; exact ⟨base, hbase⟩
        | derived hd => simp [hl, IsDerived] at hd
      obtain ⟨formed, r, derives, isClass⟩ := typed target (.base (.inr hl) hr) base hbase
      cases hk : base.kind.object? with
      | none =>
          simp only [hk] at unfolded
          refine .members (.value ownNames (.inr ?_) (by simp [hr]) (by simp)) asked unfolded
          cases ht : r.target with
          | fundamental kind => exact ⟨target, r, kind, hr, derives, ht⟩
          | declaration object => simp [hk, ht] at isClass
      | some found =>
          obtain ⟨members, exact⟩ := found
          simp only [hk] at unfolded
          have hkind : base.kind = .object members exact := by
            cases hb : base.kind <;> simp_all [Kind.object?]
          refine .members (.base ownNames ?_ (Member.nodup_names_join ownNames.distinct)
            (fun n => Member.mem_names_join) (formed members exact hkind).named) asked unfolded
          rintro (⟨kind, hr'⟩ | ⟨target', r', kind, hr', derives', ht⟩)
          · rw [hr] at hr'
            cases hr'
          · rw [hr] at hr'
            cases hr'
            rw [derives.unique derives'] at isClass
            simp [hk, ht] at isClass

theorem simpleOutcome (hl : g.labels id = some .simple) : SimpleOutcome g typeOf id := by
  cases hown : g.addMembers typeOf []
      ((g.node id).children.filter fun child => (g.node child).role == .attr) with
  | error e =>
      obtain ⟨child, hc, he⟩ := addMembers_eq_error hown
      have hc := (List.mem_filter.mp hc).1
      have hm := (settled.attr_of_child hid hl hc).2
      exact .refused (Steps.except_bind_eq_error.mpr (.inl hown)) (.asked (.member (.inr hl) hc hm) he)
  | ok own =>
      rcases settled.simple_refers hid hl with ⟨kind, hr⟩ | ⟨target, hr⟩
      · exact simpleOutcome_of_fundamental settled hid hl hown hr
      · exact simpleOutcome_of_declaration settled hid typed hl hown hr

theorem simpleType_ok {t : ValueType} (hl : g.labels id = some .simple)
    (h : g.simpleType typeOf (g.node id) = .ok t) : Made g typeOf id t := by
  have ho := (settled.object_of_isClass hid (.inr hl)).1
  obtain ⟨he, _⟩ | ⟨members, asked, heq⟩ := simpleOutcome settled hid typed hl
  · rw [he] at h
    cases h
  rw [heq] at h
  obtain ⟨wellNamed, hkind⟩ := classOf_eq_ok h
  refine ⟨⟨?_, _, .object ho, by simp [hkind, Kind.object?]⟩, asked, ?_⟩
  · intro members' exact hk
    rw [hkind] at hk
    cases hk
    exact wellNamed
  · intro tags fault hfault
    cases members with
    | value own _ hkind hnames =>
        obtain ⟨distinct, named⟩ := wellNamed
        rw [hnames] at distinct named
        cases hfault with
        | unnamed _ hc hm hname =>
            exact named (List.mem_append_left _ ((own.mem_iff "").mpr ⟨_, hc, hm, hname⟩))
        | unnamedValue _ _ hvalue => exact named (by simp [hvalue])
        | repeatedValue _ _ hc hm hname =>
            have hmem := (own.mem_iff _).mpr ⟨_, hc, hm, hname⟩
            exact (List.nodup_append.mp distinct).2.2 _ hmem _ (List.mem_singleton_self _) rfl
        | noValues _ hr => exact hkind hr
    | base own none _ covers _ =>
        cases hfault with
        | unnamed _ hc hm hname =>
            have hmem := (own.mem_iff "").mpr ⟨_, hc, hm, hname⟩
            exact wellNamed.named ((covers "").mpr (.inl hmem))
        | unnamedValue _ holds _ => exact none holds
        | repeatedValue _ holds _ _ _ => exact none holds
        | noValues _ hr => exact none (.inl ⟨_, hr⟩)

theorem simpleType_error {e : SchemaError} (hl : g.labels id = some .simple)
    (h : g.simpleType typeOf (g.node id) = .error e) : Refused g typeOf id e := by
  have hclass : IsClass (g.labels id) := .inr hl
  obtain ⟨he, refused⟩ | ⟨members, _, heq⟩ := simpleOutcome settled hid typed hl
  · rw [he] at h
    cases h
    exact refused
  rw [heq] at h
  have hcase := classOf_eq_error h
  cases members with
  | @value own own' holds _ hnames =>
      rw [hnames] at hcase
      rcases hcase with ⟨rfl, hmem⟩ | ⟨n, before, after, rfl, split, hn⟩
      · rcases List.mem_append.mp hmem with hmem | hmem
        · obtain ⟨child, hc, hm, hname⟩ := (own'.mem_iff "").mp hmem
          exact .fault (.unnamed hclass hc hm hname)
        · exact .fault (.unnamedValue hl holds (List.mem_singleton.mp hmem).symm)
      · -- the attributes have names of their own, so it is the value's that repeats one
        obtain ⟨rfl, hmem⟩ := repeats_last own'.distinct split hn
        obtain ⟨child, hc, hm, hname⟩ := (own'.mem_iff _).mp hmem
        exact .fault (.repeatedValue hl holds hc hm hname)
  | base own _ distinct covers named =>
      rcases hcase with ⟨rfl, hmem⟩ | ⟨n, before, after, rfl, split, hn⟩
      · rcases (covers "").mp hmem with hmem | hmem
        · obtain ⟨child, hc, hm, hname⟩ := (own.mem_iff "").mp hmem
          exact .fault (.unnamed hclass hc hm hname)
        · exact absurd hmem named
      · exact absurd hn (not_mem_before distinct split)

omit typed in
/-- What derives from a fundamental kind is of this kind, and no class. -/
theorem derivedType_of_fundamental (hl : IsDerived (g.labels id)) {r : Derivation}
    (derives : Derives g id r) {kind : Fundamental} (ht : r.target = .fundamental kind) :
    Answers g typeOf id (g.derivedType typeOf id) := by
  have found : g.derivation id = .ok r := derives.run settled.linked.acyclic _
  have suits := settled.suits id hid r hl derives
  unfold Suits at suits
  rw [ht] at suits
  obtain ⟨type, htype⟩ := suits
  have plain := ValueType.object?_ofMetadata htype
  unfold derivedType
  rw [found]
  simp only [bind, Except.bind, ht, htype]
  refine ⟨⟨?_, r, derives, ?_⟩, ?_, fun tags fault hfault => hl.not_isClass hfault.isClass⟩
  · intro members exact hk
    have hk : type.kind = .object members exact := hk
    simp [hk, Kind.object?] at plain
  · show type.kind.object?.isSome ↔ _
    simp [plain, ht]
  · intro y asks
    have := asks.target_of_derived hl derives
    rw [ht] at this
    cases this

/-- What derives from an object becomes the class of this object. -/
theorem derivedType_of_object (hl : IsDerived (g.labels id)) {r : Derivation}
    (derives : Derives g id r) {object : Id} (ht : r.target = .declaration object) :
    Answers g typeOf id (g.derivedType typeOf id) := by
  have found : g.derivation id = .ok r := derives.run settled.linked.acyclic _
  have suits := settled.suits id hid r hl derives
  unfold Suits at suits
  rw [ht] at suits
  have asksObject : Asks g id object := .derived hl derives ht
  unfold derivedType
  rw [found]
  simp only [bind, Except.bind, ht, suits]
  cases hobject : typeOf object with
  | error e => exact .asked asksObject hobject
  | ok base =>
      obtain ⟨formed, r', derives', isClass⟩ := typed object asksObject base hobject
      have ho := (derives.object_reached settled.linked ht hid).2.2
      rw [derives'.unique (.object ho)] at isClass
      obtain ⟨type, htype, formed', same⟩ :=
        retagged_ok formed (r.metadata g) (g.node id).location
      simp only [htype]
      refine ⟨⟨formed', r, derives, ?_⟩, ?_, fun tags fault hfault => hl.not_isClass hfault.isClass⟩
      · show type.kind.object?.isSome ↔ _
        rw [same, isClass, ht]
      · intro y asks
        have := asks.target_of_derived hl derives
        rw [ht] at this
        cases this
        exact ⟨base, hobject⟩

theorem derivedType_answers (hl : IsDerived (g.labels id))
    (hp : (g.node id).production ≠ .extension) :
    Answers g typeOf id (g.derivedType typeOf id) := by
  rcases derives_or_misses settled.linked hp with ⟨r, derives⟩ | ⟨holder, text, misses⟩
  · cases ht : r.target with
    | fundamental kind => exact derivedType_of_fundamental settled hid hl derives ht
    | declaration object => exact derivedType_of_object settled hid typed hl derives ht
  · have lost : g.derivation id = .error (.unresolvedReference text (g.node holder).location) :=
      misses.run settled.linked.acyclic _
    unfold derivedType
    rw [lost]
    exact .missing misses

/-- Making the type of a declaration, in one step from the types of others. -/
theorem typeStep_answers : Answers g typeOf id (g.typeStep typeOf id) := by
  rcases settled.label_cases hid with ⟨hl | hl, _⟩ | ⟨hl, hp, _⟩ | ⟨hl, hp⟩
  · have hs : (g.node id).subtype = some .compound := hl
    simp only [typeStep, hs]
    cases h : g.compoundType typeOf (g.node id) with
    | ok t => exact compoundType_ok settled hid hl h
    | error e => exact compoundType_error settled typed hl h
  · have hs : (g.node id).subtype = some .simple := hl
    simp only [typeStep, hs]
    cases h : g.simpleType typeOf (g.node id) with
    | ok t => exact simpleType_ok settled hid typed hl h
    | error e => exact simpleType_error settled hid typed hl h
  · rw [typeStep_of_derived hl]
    exact derivedType_answers settled hid typed hl hp
  · have hs : (g.node id).subtype = some .extension := hl
    simp only [typeStep, hs]
    exact .extension hp

end Step

end Graph

end TypeSchema
