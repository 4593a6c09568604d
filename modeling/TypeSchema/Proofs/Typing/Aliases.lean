/-
# Aliases — names that make no difference, and what they lead to

An alias and what it refers to become types in different ways: the alias adds
tags of its own, and has been come through itself when an object is made into
its class.  Neither shows.  The tags of an alias only describe, and what
describes has no part in a type (`ofMetadata_overlay`).  And an object that is
part of itself has no type, whether this is noticed at the object or before,
at an alias of it; so whether the alias has been come through makes no
difference to the object (`typeWithin_erase_target`).

Where references lead to a fundamental kind and come through no object, the
type is that kind.  Its tags are laid over each other along the way, those
nearer on top (`Derivation.value?_metadata`), and the tags that are found so
have been made sure of when the document was settled.  So there is a type, and
what it is follows from the tags alone (`typeOf_of_fundamental`).
-/
import TypeSchema.Proofs.Typing.Descent
import TypeSchema.Proofs.ValueType.Tagged

namespace TypeSchema

open Declaration (Id Production Subtype Reference)

/-- Which of the errors it is, whatever it says of texts and places. -/
def SchemaError.variant (e : SchemaError) : Nat := e.ctorIdx

theorem SchemaError.variant_placedAt (e : SchemaError) (place : Location) :
    (e.placedAt place).variant = e.variant := by
  cases e <;> rfl

/-! ## Tags that only describe -/

namespace Metadata

/-- The tag makes no type. -/
def Item.Describes (item : Item) : Prop := item.tag = "description" ∨ item.tag = "plural"

instance : DecidablePred Item.Describes := fun _ => inferInstanceAs (Decidable (_ ∨ _))

variable {top m : Metadata}

theorem find?_of_describes (describes : ∀ item ∈ top.items, item.Describes) {tag : String}
    (ht : tag ≠ "description" ∧ tag ≠ "plural") : top.find? tag = none := by
  rw [find?_eq_none_iff]
  intro h
  obtain ⟨item, hi, rfl⟩ := List.mem_map.mp h
  rcases describes item hi with h | h
  · exact ht.1 h
  · exact ht.2 h

theorem filter_overlay (describes : ∀ item ∈ top.items, item.Describes) :
    (top.overlay m).items.filter (¬ ·.Describes) = m.items.filter (¬ ·.Describes) := by
  have none : top.items.filter (¬ ·.Describes) = [] := by
    simpa [List.filter_eq_nil_iff] using describes
  rw [overlay, List.filter_append, none, List.append_nil, List.filter_filter]
  refine List.filter_congr fun item _ => ?_
  by_cases h : item.Describes
  · simp [h]
  · have := find?_of_describes describes (not_or.mp h)
    simp [this]

end Metadata

namespace Kind

variable {base : Fundamental} {k k' : Kind}

theorem tagged_describes {tag : String} {v : Metadata.Value}
    (hd : tag = "description" ∨ tag = "plural") (h : k.tagged tag v = .ok k') : k' = k := by
  have limits : ∀ l l' : IntLimits, l.tagged tag v = .ok l' → l' = l := by
    intro l l' hl
    rcases hd with rfl | rfl <;> cases v <;> cases hl <;> rfl
  have texts : ∀ l : StringLimits, l.tagged tag v = .ok l := by
    rcases hd with rfl | rfl <;> cases v <;> exact fun _ => rfl
  cases k with
  | int l =>
      obtain ⟨l', hl, h⟩ := Steps.except_bind_eq_ok.mp h
      cases h
      rw [limits l l' hl]
  | string l =>
      simp only [tagged, texts] at h
      cases h
      rfl
  | _ => rcases hd with rfl | rfl <;> cases v <;> cases h <;> rfl

/-- A tag that only describes leaves a kind as it is. -/
theorem taggedBy_describes {item : Metadata.Item} (hd : item.Describes)
    (h : k.taggedBy base item = .ok k') : k' = k :=
  tagged_describes hd (taggedBy_eq_ok h).2.2

/-- Tags that only describe may be left out. -/
theorem foldlM_taggedBy_filter {items : List Metadata.Item}
    (h : items.foldlM (taggedBy base) k = .ok k') :
    (items.filter (¬ ·.Describes)).foldlM (taggedBy base) k = .ok k' := by
  induction items generalizing k with
  | nil => exact h
  | cons item items ih =>
      rw [List.foldlM_cons] at h
      obtain ⟨k₁, first, rest⟩ := Steps.except_bind_eq_ok.mp h
      by_cases hd : item.Describes
      · rw [List.filter_cons_of_neg (by simpa using hd)]
        cases taggedBy_describes hd first
        exact ih rest
      · rw [List.filter_cons_of_pos (by simpa using hd), List.foldlM_cons, first]
        exact ih rest

end Kind

/-- What describes has no part in a type. -/
theorem ValueType.ofMetadata_overlay {base : Fundamental} {top m : Metadata}
    {place place' : Location} {t t' : ValueType}
    (describes : ∀ item ∈ top.items, item.Describes)
    (h : ofMetadata base m place = .ok t) (h' : ofMetadata base (top.overlay m) place' = .ok t') :
    t' = t := by
  obtain ⟨k, tagged, h⟩ := Steps.except_bind_eq_ok.mp h
  obtain ⟨k', tagged', h'⟩ := Steps.except_bind_eq_ok.mp h'
  have same := Kind.foldlM_taggedBy_filter tagged'
  rw [Metadata.filter_overlay describes, Kind.foldlM_taggedBy_filter tagged] at same
  cases same
  cases hk : ofKind k with
  | error e => rw [hk] at h; cases h
  | ok t₀ =>
      rw [hk] at h h'
      cases h
      cases h'
      rfl

namespace Graph

theorem retagged_told {base : ValueType} {tags tags' : Metadata} {place place' : Location}
    (same : tags.find? "require_exact_match" = tags'.find? "require_exact_match") :
    (retagged base tags place).mapError SchemaError.variant
      = (retagged base tags' place').mapError SchemaError.variant := by
  have exact : isExact tags = isExact tags' := by
    rw [isExact, isExact, Metadata.value?, Metadata.value?, same]
  unfold retagged
  rw [same, exact]
  split
  · rfl
  · cases base.kind.object? with
    | none => rfl
    | some found =>
        obtain ⟨members, _⟩ := found
        dsimp only
        cases ValueType.ofKind (.object members (isExact tags')) with
        | ok t => rfl
        | error e =>
            exact congrArg Except.error
              ((e.variant_placedAt place).trans (e.variant_placedAt place').symm)

section Settled

variable {g : Graph} (settled : g.Settled)
include settled

/-! ## What derives from an object -/

section Object

variable {x o : Id} (hx : x < g.size) (hl : IsDerived (g.labels x)) {r : Derivation}
  (derives : Derives g x r) (ht : r.target = .declaration o)
include hx hl derives ht

/-- What derives from an object is its class, under tags and an arity. -/
theorem typeStep_of_object (typing : Typing) :
    g.typeStep typing x = typing o >>= fun base => do
      let type ← retagged base (r.metadata g) (g.node x).location
      return type.withArity ((r.arity? g).getD type.arity) := by
  have found : g.derivation x = .ok r := derives.run settled.linked.acyclic _
  have suits := settled.suits x hx r hl derives
  unfold Suits at suits
  rw [ht] at suits
  rw [typeStep_of_derived hl, derivedType, found]
  simp only [bind, Except.bind, ht, suits]

/-- While its object is not free, a declaration is found to be part of itself,
and so is the object where the declaration is not free: it does not show which
of the two a descent comes to first. -/
theorem typeWithin_erase :
    ∀ (n : Nat) {free : List Id}, free.length = n → free.Nodup → o ∉ free → ∀ y,
      (g.typeWithin (free.erase x) y).mapError SchemaError.variant
        = (g.typeWithin free y).mapError SchemaError.variant := by
  intro n
  induction n with
  | zero =>
      intro free hlen _ _ y
      rw [List.length_eq_zero_iff.mp hlen, List.erase_nil]
  | succ n ih =>
      intro free hlen nodup closed y
      by_cases hy : y ∈ free
      · by_cases hyx : y = x
        · -- one descent ends at `x`, the other one goes on to `o`
          subst hyx
          have ends : g.typeWithin (free.erase y) y = .error (g.circular y) := by
            rw [typeWithin, dif_neg nodup.not_mem_erase]
          have goesOn : g.typeWithin free y = .error (g.circular o) := by
            have hclosed : o ∉ free.erase y := fun h => closed (List.mem_of_mem_erase h)
            have hobject : g.typeWithin (free.erase y) o = .error (g.circular o) := by
              rw [typeWithin, dif_neg hclosed]
            rw [typeWithin, dif_pos hy, typeStep_of_object settled hx hl derives ht, hobject]
            rfl
          rw [ends, goesOn]
          rfl
        · have hy' : y ∈ free.erase x := (List.mem_erase_of_ne hyx).mpr hy
          have hlen' : (free.erase y).length = n := by
            rw [List.length_erase_of_mem hy, hlen, Nat.add_sub_cancel]
          have hclosed : o ∉ free.erase y := fun h => closed (List.mem_of_mem_erase h)
          rw [typeWithin, dif_pos hy', typeWithin, dif_pos hy]
          refine typeStep_told fun z _ => ?_
          rw [List.erase_comm]
          exact ih hlen' (nodup.erase y) hclosed z
      · have hy' : y ∉ free.erase x := fun h => hy (List.mem_of_mem_erase h)
        rw [typeWithin, dif_neg hy', typeWithin, dif_neg hy]

/-- Whether a declaration is free makes no difference to the object that it
derives from. -/
theorem typeWithin_erase_target {free : List Id} (nodup : free.Nodup) :
    (g.typeWithin (free.erase x) o).mapError SchemaError.variant
      = (g.typeWithin free o).mapError SchemaError.variant := by
  by_cases ho : o ∈ free
  · by_cases hox : o = x
    · -- an object without its base, which derives from itself
      subst hox
      have self : g.typeWithin (free.erase o) o = .error (g.circular o) := by
        rw [typeWithin, dif_neg nodup.not_mem_erase]
      have whole : g.typeWithin free o = .error (g.circular o) := by
        rw [typeWithin, dif_pos ho, typeStep_of_object settled hx hl derives ht, self]
        rfl
      rw [self, whole]
    · have ho' : o ∈ free.erase x := (List.mem_erase_of_ne hox).mpr ho
      rw [typeWithin, dif_pos ho', typeWithin, dif_pos ho]
      refine typeStep_told fun z _ => ?_
      rw [List.erase_comm]
      exact typeWithin_erase settled hx hl derives ht _ rfl (nodup.erase o)
        nodup.not_mem_erase z
  · exact typeWithin_erase settled hx hl derives ht _ rfl nodup ho o

end Object

/-! ## Aliases -/

/-- What a reference names becomes a class or derives its type. -/
theorem label_of_target {a t : Id} (hr : (g.node a).reference = .declaration t) :
    (IsClass (g.labels t) ∧ (g.node t).isObject) ∨ IsDerived (g.labels t) := by
  obtain ⟨hlt, named⟩ := settled.linked.target hr
  rcases settled.label_cases hlt with ⟨hl, object, _⟩ | ⟨hl, _⟩ | ⟨_, hp⟩
  · exact .inl ⟨hl, object⟩
  · exact .inr hl
  · simp [hp, Production.isNamed] at named

section Alias

variable {a t : Id} (ha : a < g.size) (hs : g.labels a = some .alias)
  (hr : (g.node a).reference = .declaration t)
include ha hs hr

theorem alias_plain : (g.node a).isObject = false ∧ (g.node a).IsPlain := by
  obtain ⟨s, hs', rule⟩ := settled.obeys a ha
  rw [hs] at hs'
  cases hs'
  cases rule with
  | leafAlias hp _ plain => exact ⟨by simp [Declaration.isObject, hp], plain⟩
  | objectPlaceholder _ hr' => rw [hr] at hr'; cases hr'
  | leafPlaceholder _ hr' => rw [hr] at hr'; cases hr'

/-- Over a fundamental kind, an alias has the type of what it refers to. -/
theorem typeStep_alias_fundamental {typing typing' : Typing} (hl : IsDerived (g.labels t))
    {r : Derivation} (derives : Derives g t r) {kind : Fundamental}
    (ht : r.target = .fundamental kind) :
    g.typeStep typing a = g.typeStep typing' t := by
  have hlt := (settled.linked.target hr).1
  obtain ⟨ho, describes, arity⟩ := alias_plain settled ha hs hr
  have derives' : Derives g a ⟨a :: r.chain, r.target⟩ := .next ho hr derives
  have found : g.derivation t = .ok r := derives.run settled.linked.acyclic _
  have found' : g.derivation a = _ := derives'.run settled.linked.acyclic _
  have suits := settled.suits t hlt r hl derives
  have suits' := settled.suits a ha _ (by rw [hs]; trivial) derives'
  unfold Suits at suits suits'
  rw [ht] at suits
  simp only [ht] at suits'
  obtain ⟨type, htype⟩ := suits
  obtain ⟨type', htype'⟩ := suits'
  have same : type' = type := ValueType.ofMetadata_overlay describes htype htype'
  have arity' : Derivation.arity? g ⟨a :: r.chain, r.target⟩ = r.arity? g := by
    simp [Derivation.arity?, arity]
  rw [typeStep_of_derived hl, typeStep_of_derived (by rw [hs]; trivial), derivedType, derivedType,
    found, found']
  simp only [bind, Except.bind, ht, htype, htype', same]
  rw [ht] at arity'
  rw [arity']

/-- Over an object, or over what derives from one, an alias is the class of
that object. -/
theorem typeOf_alias_object {r : Derivation} (derives : Derives g t r) {o : Id}
    (ht : r.target = .declaration o) :
    (g.typeOf a).mapError SchemaError.variant = (g.typeOf t).mapError SchemaError.variant := by
  have hlt := (settled.linked.target hr).1
  obtain ⟨ho, describes, arity⟩ := alias_plain settled ha hs hr
  have hl : IsDerived (g.labels a) := by rw [hs]; trivial
  have derives' : Derives g a ⟨a :: r.chain, r.target⟩ := .next ho hr derives
  have tags : (Derivation.metadata g ⟨a :: r.chain, r.target⟩).find? "require_exact_match"
      = (r.metadata g).find? "require_exact_match" := by
    refine (Metadata.find?_overlay _ _ _).trans ?_
    rw [Metadata.find?_of_describes describes (by decide), Option.none_or]
    rfl
  have arity' : Derivation.arity? g ⟨a :: r.chain, r.target⟩ = r.arity? g := by
    simp [Derivation.arity?, arity]
  have below := typeWithin_erase_target settled ha hl derives' ht (nodup_ids g)
  rw [typeOf_eq_typeStep ha, typeStep_of_object settled ha hl derives' ht, arity']
  rcases label_of_target settled hr with ⟨_, object⟩ | hl'
  · -- `t` is the object itself, and no tag or arity is left
    cases derives.unique (.object object)
    cases ht
    have bare : ∀ base place, retagged base
        (Derivation.metadata g ⟨[a], .declaration t⟩) place = .ok base := by
      intro base place
      rw [retagged, tags]
      rfl
    refine Eq.trans ?_ below
    cases g.typeWithin (g.ids.erase a) t with
    | error e => rfl
    | ok base =>
        simp only [bind, Except.bind, bare]
        cases base
        rfl
  · have below' := typeWithin_erase_target settled hlt hl' derives ht (nodup_ids g)
    rw [typeOf_eq_typeStep hlt, typeStep_of_object settled hlt hl' derives ht]
    refine Steps.mapError_bind (below.trans below'.symm) fun base => ?_
    exact Steps.mapError_bind (retagged_told tags) fun _ => rfl

/-- An alias has the type of what it refers to, or fails with an error of the
same kind. -/
theorem typeOf_alias_told :
    (g.typeOf a).mapError SchemaError.variant = (g.typeOf t).mapError SchemaError.variant := by
  obtain ⟨hlt, named⟩ := settled.linked.target hr
  have hp : (g.node t).production ≠ .extension := by
    intro hp
    simp [hp, Production.isNamed] at named
  have hl : (g.node t).isObject = false → IsDerived (g.labels t) := by
    intro ho
    refine (label_of_target settled hr).resolve_left fun whole => ?_
    have object := whole.2
    rw [ho] at object
    cases object
  rcases derives_or_misses settled.linked hp with ⟨r, derives⟩ | ⟨holder, text, misses⟩
  · cases ht : r.target with
    | declaration o => exact typeOf_alias_object settled ha hs hr derives ht
    | fundamental kind =>
        have ho : (g.node t).isObject = false := by
          cases derives with
          | object _ => cases ht
          | fundamental ho _ => exact ho
          | next ho _ _ => exact ho
        rw [typeOf_eq_typeStep ha, typeOf_eq_typeStep hlt,
          typeStep_alias_fundamental settled ha hs hr (hl ho) derives ht]
  · have ho : (g.node t).isObject = false := by
      cases misses with
      | here ho _ => exact ho
      | next ho _ _ => exact ho
    have lost : g.derivation t = _ := misses.run settled.linked.acyclic _
    have misses' : Misses g a holder text := .next (alias_plain settled ha hs hr).1 hr misses
    have lost' : g.derivation a = _ := misses'.run settled.linked.acyclic _
    rw [typeOf_eq_typeStep ha, typeOf_eq_typeStep hlt, typeStep_of_derived (hl ho),
      typeStep_of_derived (by rw [hs]; trivial), derivedType, derivedType, lost, lost']
    rfl

end Alias

end Settled

end Graph

namespace Document

open TypeSchema.Graph

variable {sources : Sources} {frontEnd : FrontEnd} {options : Options} {main : Path}
  {doc : Document}

/-- An alias and what it refers to have the same type, or none of the two has
one, for errors of one kind. -/
theorem typeOf_alias (resolved : resolve sources frontEnd options main = .ok doc) {a t : Id}
    (hs : (doc.graph.node a).subtype = some .alias)
    (hr : (doc.graph.node a).reference = .declaration t) :
    (∃ type, doc.typeOf a = .ok type ∧ doc.typeOf t = .ok type) ∨
      ∃ e e', doc.typeOf a = .error e ∧ doc.typeOf t = .error e' ∧ e.variant = e'.variant := by
  have ha : a < doc.graph.size := by
    by_contra outside
    rw [node_of_size_le (Nat.not_lt.mp outside)] at hs
    cases hs
  have told : (doc.typeOf a).mapError SchemaError.variant
      = (doc.typeOf t).mapError SchemaError.variant :=
    typeOf_alias_told (settled_of_resolve resolved) ha hs hr
  cases h : doc.typeOf a with
  | ok type =>
      cases h' : doc.typeOf t with
      | ok type' =>
          rw [h, h'] at told
          cases told
          exact .inl ⟨type, rfl, rfl⟩
      | error e => rw [h, h'] at told; cases told
  | error e =>
      cases h' : doc.typeOf t with
      | ok type => rw [h, h'] at told; cases told
      | error e' =>
          rw [h, h'] at told
          exact .inr ⟨e, e', rfl, rfl, Except.error.inj told⟩

/-- An alias of an object that has a member of this alias: neither has a
type.  An alias of this alias goes the same way. -/
theorem typeOf_alias_recursive :
    let sources : Sources := ⟨fun _ => .ok "", 1⟩
    let frontEnd : FrontEnd := fun _ _ =>
      .sequence [.need (.beginObject "Node" .standard none .api),
        .need (.declaration "next" .attr "Link" .api), .need .endObject,
        .need (.declaration "Link" .definition "Node" .api),
        .need (.declaration "Edge" .definition "Link" .api)]
    ∃ doc, resolve sources frontEnd .lenient ⟨"main"⟩ = .ok doc ∧
      (∃ e e', doc.typeOf 3 = .error e ∧ doc.typeOf 1 = .error e' ∧ e.variant = e'.variant) ∧
      ∃ e e', doc.typeOf 4 = .error e ∧ doc.typeOf 3 = .error e' ∧ e.variant = e'.variant := by
  intro sources frontEnd
  have run : (resolve sources frontEnd .lenient ⟨"main"⟩).toOption.any (fun doc =>
      let g := doc.graph
      decide (3 < g.size ∧ (2 ∈ (g.node 1).children ∧ g.isMember 2) ∧
        (g.node 2).reference = .declaration 3 ∧
        ((g.node 3).subtype = some .alias ∧ (g.node 3).reference = .declaration 1) ∧
        (g.node 4).subtype = some .alias ∧ (g.node 4).reference = .declaration 3)) = true := by
    decide +kernel
  obtain ⟨doc, resolved, hid, ⟨hc, hm⟩, toLink, ⟨hs, toNode⟩, hs', toAlias⟩ :=
    Steps.exists_ok_of_decide run
  have circle : doc.graph.Cyclic 3 :=
    .tail (.tail (.single (.inr toNode)) (.inl ⟨hc, hm⟩)) (.inr toLink)
  have untyped : ∀ type, doc.typeOf 3 ≠ .ok type := fun type h =>
    ((typeOf_eq_ok_iff (settled_of_resolve resolved) hid).mp ⟨type, h⟩).1.not_cyclic circle
  refine ⟨doc, resolved, (typeOf_alias resolved hs toNode).resolve_left ?_,
    (typeOf_alias resolved hs' toAlias).resolve_left ?_⟩
  · rintro ⟨type, h, _⟩
    exact untyped type h
  · rintro ⟨type, _, h⟩
    exact untyped type h

end Document

/-! ## The ends of references -/

namespace Graph

theorem typeOf_of_fundamental {g : Graph} (settled : g.Settled) {id : Id} (hid : id < g.size)
    (derived : IsDerived (g.labels id)) {chain : List Id} {kind : Fundamental}
    (derives : Derives g id ⟨chain, .fundamental kind⟩) :
    ∃ type, ValueType.ofMetadata kind (Derivation.metadata g ⟨chain, .fundamental kind⟩)
        (g.node id).location = .ok type ∧
      g.typeOf id = .ok (type.withArity
        ((Derivation.arity? g ⟨chain, .fundamental kind⟩).getD .single)) := by
  obtain ⟨type, suits⟩ := settled.suits id hid _ derived derives
  have found : g.derivation id = .ok ⟨chain, .fundamental kind⟩ :=
    derives.run settled.linked.acyclic _
  refine ⟨type, suits, ?_⟩
  rw [typeOf_eq_typeStep hid, typeStep_of_derived derived, derivedType, found]
  simp only [bind, Except.bind, suits]
  rfl

end Graph

namespace Document

open TypeSchema.Graph

/-- A declaration whose references end in a fundamental kind, without coming
through an object, has a type: this kind under constraints each of which is
given by the nearest declaration on the way that carries its tag, of the
nearest arity on the way. -/
theorem typeOf_derived {sources : Sources} {frontEnd : FrontEnd} {options : Options} {main : Path}
    {doc : Document} (resolved : resolve sources frontEnd options main = .ok doc) {id : Id}
    (derived : IsDerived (doc.graph.node id).subtype) {chain : List Id} {kind : Fundamental}
    (derives : Derives doc.graph id ⟨chain, .fundamental kind⟩) :
    ∃ type, doc.typeOf id = .ok type ∧
      type.kind.GivenBy (fun tag => chain.findSome? fun i => (doc.graph.node i).metadata.value? tag)
        kind ∧
      type.arity = (chain.findSome? fun i => (doc.graph.node i).arity).getD .single ∧
      type.hook = none := by
  have hid : id < doc.graph.size := by
    by_contra outside
    rw [node_of_size_le (Nat.not_lt.mp outside)] at derived
    cases derived
  obtain ⟨type, tagged, typed⟩ :=
    typeOf_of_fundamental (settled_of_resolve resolved) hid derived derives
  obtain ⟨given, -, bare⟩ := ValueType.givenBy_of_ofMetadata tagged
  have tags : (Derivation.metadata doc.graph ⟨chain, .fundamental kind⟩).value?
      = fun tag => chain.findSome? fun i => (doc.graph.node i).metadata.value? tag :=
    funext fun tag => Derivation.value?_metadata doc.graph _ tag
  exact ⟨_, typed, tags ▸ given, rfl, bare⟩

/-- An integer with bounds and an arity, an alias of it and a value of the
configuration over the alias with another upper bound. -/
theorem typeOf_derived_config :
    let sources : Sources := ⟨fun _ => .ok "", 1⟩
    let frontEnd : FrontEnd := fun _ _ =>
      .sequence [.need (.declaration "level" .standard "int" .api),
        .need (.metadata "min" (.integer 1) .api), .need (.metadata "max" (.integer 9) .api),
        .need (.arity "{2}" .api), .need (.declaration "same" .standard "level" .api),
        .need (.config "low" "same" .api), .need (.metadata "max" (.integer 5) .api)]
    ∃ doc, resolve sources frontEnd .lenient ⟨"main"⟩ = .ok doc ∧
      ∃ type, doc.typeOf 3 = .ok type ∧ type.kind = .int ⟨some 1, some 5, none⟩ ∧
        (doc.graph.node 1).arity = some type.arity := by
  intro sources frontEnd
  have run : (resolve sources frontEnd .lenient ⟨"main"⟩).toOption.any (fun doc =>
      let g := doc.graph
      let tag (t : String) : Option Metadata.Value :=
        [3, 2, 1].findSome? fun i => (g.node i).metadata.value? t
      decide ((g.node 3).subtype = some .config ∧ (g.node 3).reference = .declaration 2 ∧
        (g.node 2).reference = .declaration 1 ∧ (g.node 1).reference = .fundamental .int) &&
      [3, 2, 1].all (fun i => !(g.node i).isObject) &&
      decide (tag "min" = some (.integer 1) ∧ tag "max" = some (.integer 5) ∧ tag "bytes" = none) &&
      [3, 2].all (fun i => (g.node i).arity.isNone) && (g.node 1).arity.isSome) = true := by
    decide +kernel
  obtain ⟨doc, resolved, run⟩ := Steps.exists_ok_of_any run
  simp only [Bool.and_eq_true, decide_eq_true_eq,
    List.all_cons, List.all_nil, Bool.not_eq_true', Option.isNone_iff_eq_none] at run
  obtain ⟨⟨⟨⟨⟨config, toSame, toLevel, toInt⟩, leaf₃, leaf₂, leaf₁, -⟩, min, max, bytes⟩, bare,
    bare', -⟩, arity⟩ := run
  have derives : Derives doc.graph 3 ⟨[3, 2, 1], .fundamental .int⟩ :=
    .next leaf₃ toSame (.next leaf₂ toLevel (.fundamental leaf₁ toInt))
  obtain ⟨type, typed, given, nearest, -⟩ :=
    typeOf_derived resolved (by rw [config]; trivial) derives
  refine ⟨doc, resolved, type, typed, ?_, ?_⟩
  · generalize type.kind = k at given
    cases given with
    | @int l given =>
        obtain ⟨lo, hi, width⟩ := given
        obtain ⟨_, _, _⟩ := l
        simp only [min, max, bytes] at lo hi width
        rcases lo with _ | ⟨⟨⟩⟩
        rcases hi with _ | ⟨⟨⟩⟩
        cases width
        rfl
    | unconstrained h => exact absurd h (by decide)
  · rw [nearest]
    obtain ⟨a, ha⟩ := Option.isSome_iff_exists.mp arity
    simp [bare, bare', ha]

end Document

end TypeSchema
