/-
# Descent — making a type comes to an end

To make the type of a declaration, those of what it requires are made first,
and so on down (`Requires`).  A descent that comes back to a declaration it
has come through gives up there, and this is all that ends one on the way:
`Finds` bounds neither how deep it goes nor how long.  Each descent ends
all the same, with one result (`finds_typeOf`, `Finds.unique`), and where this
is a type, no way down from the declaration comes back to itself.
-/
import TypeSchema.Proofs.Typing.Outcome

namespace TypeSchema

open Declaration (Id Production Subtype Reference)

namespace Graph

/-! ## What a type is made of -/

/-- The type of `x` is made of that of `y`: an object's of what it refers to
and of its members or attributes, any other of the object at the end of its
derivation. -/
inductive Requires (g : Graph) (x : Id) : Id → Prop
  | base {y : Id} : IsClass (g.labels x) → (g.node x).reference = .declaration y → Requires g x y
  | member {y : Id} : g.labels x = some .compound → y ∈ (g.node x).children → g.isMember y →
      Requires g x y
  | attr {y : Id} : g.labels x = some .simple → y ∈ (g.node x).children →
      (g.node y).role = .attr → Requires g x y
  | object {y : Id} {r : Derivation} : ¬ IsClass (g.labels x) → g.derivation x = .ok r →
      r.target = .declaration y → Requires g x y

/-- What the descent from `id` finds, if it has come through `stack`. -/
inductive Finds (g : Graph) : List Id → Id → Except SchemaError ValueType → Prop
  | again {stack : List Id} {id : Id} : id ∈ stack → Finds g stack id (.error (g.circular id))
  | through {stack : List Id} {id : Id} {typing : Typing} : id ∉ stack →
      (∀ y, g.Requires id y → Finds g (id :: stack) y (typing y)) →
      Finds g stack id (g.typeStep typing id)

/-! ## A step looks at what is required only -/

section Told

variable {g : Graph} {id : Id} {β : Type} {tell : SchemaError → β} {typing typing' : Typing}

theorem inherited_told
    (same : ∀ y, (g.node id).reference = .declaration y →
      (typing y).mapError tell = (typing' y).mapError tell) :
    (inherited typing (g.node id)).mapError tell = (inherited typing' (g.node id)).mapError tell := by
  unfold inherited
  cases hr : (g.node id).reference with
  | declaration y => exact Steps.mapError_bind (same y hr) fun _ => rfl
  | _ => rfl

theorem addMembers_told {members : List Member} {children : List Id}
    (same : ∀ y ∈ children, (typing y).mapError tell = (typing' y).mapError tell) :
    (g.addMembers typing members children).mapError tell
      = (g.addMembers typing' members children).mapError tell :=
  Steps.mapError_foldlM (fun y hy _ => Steps.mapError_bind (same y hy) fun _ => rfl) members

/-- If two typings say the same of all that `id` requires, and tell the same of
errors, so do the steps to the type of `id`. -/
theorem typeStep_told
    (same : ∀ y, g.Requires id y → (typing y).mapError tell = (typing' y).mapError tell) :
    (g.typeStep typing id).mapError tell = (g.typeStep typing' id).mapError tell := by
  have derived : ¬ IsClass (g.labels id) →
      (g.derivedType typing id).mapError tell = (g.derivedType typing' id).mapError tell := by
    intro hl
    unfold derivedType
    cases hd : g.derivation id with
    | error e => rfl
    | ok r =>
        simp only [bind, Except.bind]
        cases ht : r.target with
        | fundamental kind => rfl
        | declaration object =>
            refine Steps.mapError_bind rfl fun _ => ?_
            exact Steps.mapError_bind (same object (.object hl hd ht)) fun _ => rfl
  cases hs : (g.node id).subtype with
  | none => simp only [typeStep, hs]
  | some s =>
      have hl : g.labels id = some s := hs
      simp only [typeStep, hs]
      cases s with
      | extension => trivial
      | compound =>
          refine Steps.mapError_bind (inherited_told fun y hr => same y (.base (.inl hl) hr))
            fun base => Steps.mapError_bind (addMembers_told fun y hy => ?_) fun _ => rfl
          obtain ⟨hc, hm⟩ := List.mem_filter.mp hy
          exact same y (.member hl hc hm)
      | simple =>
          refine Steps.mapError_bind (addMembers_told fun y hy => ?_) fun own =>
            Steps.mapError_bind (inherited_told fun y hr => same y (.base (.inr hl) hr))
              fun _ => rfl
          obtain ⟨hc, hrole⟩ := List.mem_filter.mp hy
          exact same y (.attr hl hc (by simpa using hrole))
      | _ => exact derived (by rintro (h | h) <;> rw [hl] at h <;> cases h)

theorem typeStep_congr (same : ∀ y, g.Requires id y → typing y = typing' y) :
    g.typeStep typing id = g.typeStep typing' id := by
  have whole : ∀ x : Except SchemaError ValueType, x.mapError (fun e => e) = x := by
    intro x
    cases x <;> rfl
  rw [← whole (g.typeStep typing id), ← whole (g.typeStep typing' id)]
  exact typeStep_told fun y hy => by rw [same y hy]

end Told

/-- A descent ends in one way only. -/
theorem Finds.unique {g : Graph} {stack : List Id} {id : Id}
    {found found' : Except SchemaError ValueType} (h : g.Finds stack id found)
    (h' : g.Finds stack id found') : found = found' := by
  induction h generalizing found' with
  | again hs =>
      cases h' with
      | again _ => rfl
      | through hs' _ => exact absurd hs hs'
  | through hs _ ih =>
      cases h' with
      | again hs' => exact absurd hs' hs
      | through _ behind => exact typeStep_congr fun y hy => ih y hy (behind y hy)

section Settled

variable {g : Graph} (settled : g.Settled) {id x y : Id}
include settled

/-- What is required is asked for. -/
theorem Requires.asks (hx : x < g.size) (h : g.Requires x y) : Asks g x y := by
  cases h with
  | base hl hr => exact .base hl hr
  | member hl hc hm => exact .member (.inl hl) hc hm
  | attr hl hc _ => exact .member (.inr hl) hc (settled.attr_of_child hx hl hc).2
  | object hl hd ht =>
      have derives := derives_of_derivation settled.linked.acyclic hd
      rcases settled.label_cases hx with ⟨hl', _⟩ | ⟨hl', _⟩ | ⟨_, hp⟩
      · exact absurd hl' hl
      · exact .derived hl' derives ht
      · exact absurd derives (settled.not_derives_of_extension hp)

/-! ## Every descent ends -/

/-- A descent through all that is not free any more finds the type that is
made of what is.  It ends because less is free each time that it goes on. -/
theorem finds_typeWithin :
    ∀ (n : Nat) {free stack : List Id} {id : Id}, free.length = n → free.Nodup → id < g.size →
      (∀ x < g.size, x ∈ stack ↔ x ∉ free) → g.Finds stack id (g.typeWithin free id) := by
  intro n
  induction n with
  | zero =>
      intro free stack id hlen _ hid passed
      have hfree : id ∉ free := by
        rw [List.length_eq_zero_iff.mp hlen]
        exact List.not_mem_nil
      rw [typeWithin, dif_neg hfree]
      exact .again ((passed id hid).mpr hfree)
  | succ n ih =>
      intro free stack id hlen nodup hid passed
      rw [typeWithin]
      by_cases hfree : id ∈ free
      · rw [dif_pos hfree]
        have hlen' : (free.erase id).length = n := by
          rw [List.length_erase_of_mem hfree, hlen, Nat.add_sub_cancel]
        refine .through (fun hs => (passed id hid).mp hs hfree) fun y hy => ?_
        have hlt := (settled.asks_cases hid (hy.asks settled hid)).1
        refine ih hlen' (nodup.erase id) hlt fun x hx => ?_
        rw [List.mem_cons, passed x hx, nodup.mem_erase_iff]
        tauto
      · rw [dif_neg hfree]
        exact .again ((passed id hid).mpr hfree)

theorem finds_typeOf (hid : id < g.size) : g.Finds [] id (g.typeOf id) := by
  refine finds_typeWithin settled _ rfl (nodup_ids g) hid fun x hx => ?_
  constructor
  · intro h; cases h
  · exact fun hx' => absurd (mem_ids.mpr hx) hx'

/-! ## A type is not made of itself -/

/-- What a declaration with a type requires, it depends on. -/
theorem Requires.depends (hx : x < g.size) (typable : g.Typable x) (h : g.Requires x y) :
    Relation.TransGen g.Depends x y := by
  obtain ⟨_, _, depends | ⟨rfl, lacks⟩⟩ := settled.asks_cases hx (h.asks settled hx)
  · exact depends
  · obtain ⟨free, _, _⟩ := typable
    have held := lacks.placeholder
    rw [free] at held
    cases held

theorem reaches_of_requires (hid : id < g.size) (typable : g.Typable id)
    (leads : Relation.ReflTransGen g.Requires id x) : x < g.size ∧ g.Reaches id x := by
  induction leads with
  | refl => exact ⟨hid, .refl⟩
  | tail _ requires ih =>
      obtain ⟨hlt, reaches⟩ := ih
      have depends := requires.depends settled hlt (typable.of_reaches reaches)
      exact ⟨(settled.asks_cases hlt (requires.asks settled hlt)).1,
        reaches.trans depends.to_reflTransGen⟩

theorem not_cyclic_of_requires (hid : id < g.size) (typable : g.Typable id)
    (leads : Relation.ReflTransGen g.Requires id x) : ¬ Relation.TransGen g.Requires x x := by
  intro cycle
  obtain ⟨hx, reaches⟩ := reaches_of_requires settled hid typable leads
  have typable := typable.of_reaches reaches
  obtain ⟨y, requires, back⟩ := Relation.TransGen.head'_iff.mp cycle
  have depends := requires.depends settled hx typable
  have hy := (settled.asks_cases hx (requires.asks settled hx)).1
  have behind := typable.of_reaches depends.to_reflTransGen
  exact typable.not_cyclic (depends.trans_left (reaches_of_requires settled hy behind back).2)

end Settled

/-! ## Types from types -/

/-- What does not require `x` does not ask whether `x` is free. -/
theorem typeWithin_erase_of_not_requires {g : Graph} {x : Id} :
    ∀ (n : Nat) {free : List Id} {y : Id}, free.length = n →
      ¬ Relation.ReflTransGen g.Requires y x → g.typeWithin (free.erase x) y = g.typeWithin free y := by
  intro n
  induction n with
  | zero =>
      intro free y hlen _
      rw [List.length_eq_zero_iff.mp hlen, List.erase_nil]
  | succ n ih =>
      intro free y hlen away
      have hne : y ≠ x := by
        rintro rfl
        exact away .refl
      rw [typeWithin, typeWithin]
      by_cases hy : y ∈ free
      · rw [dif_pos hy, dif_pos ((List.mem_erase_of_ne hne).mpr hy), List.erase_comm]
        refine typeStep_congr fun z requires => ih ?_ fun leads => away (.head requires leads)
        rw [List.length_erase_of_mem hy, hlen, Nat.add_sub_cancel]
      · rw [dif_neg hy, dif_neg (mt (List.mem_erase_of_ne hne).mp hy)]

theorem typeOf_eq_typeStep {g : Graph} {id : Id} (hid : id < g.size) :
    g.typeOf id = g.typeStep (fun other => g.typeWithin (g.ids.erase id) other) id := by
  rw [typeOf, typeWithin, dif_pos (mem_ids.mpr hid)]

/-- Where there is a type, it is made of the types that others have. -/
theorem typeStep_typeOf {g : Graph} (settled : g.Settled) {id : Id} (hid : id < g.size)
    {t : ValueType} (h : g.typeOf id = .ok t) : g.typeStep g.typeOf id = .ok t := by
  have typable := ((typeOf_eq_ok_iff settled hid).mp ⟨t, h⟩).1
  rw [← h, typeOf_eq_typeStep hid]
  refine typeStep_congr fun y requires => (typeWithin_erase_of_not_requires _ rfl ?_).symm
  exact fun leads => not_cyclic_of_requires settled hid typable .refl (.head' requires leads)

end Graph

namespace Document

open TypeSchema.Graph

variable {sources : Sources} {frontEnd : FrontEnd} {options : Options} {main : Path}
  {doc : Document}

/-- References end, and so does each descent, with the type of the declaration
or the error there is instead.  Where it ends with a type, what the
declaration requires, directly or not, does not require itself; so a type that
would be part of itself ends in an error. -/
theorem typeOf_terminates (resolved : resolve sources frontEnd options main = .ok doc) {id : Id}
    (hid : id < doc.graph.size) :
    Chain doc.graph id (doc.graph.walk id) ∧
      (∀ found, doc.graph.Finds [] id found ↔ found = doc.typeOf id) ∧
      (∀ type, doc.typeOf id = .ok type → ∀ x, Relation.ReflTransGen doc.graph.Requires id x →
        ¬ Relation.TransGen doc.graph.Requires x x) ∧
      ∀ x, Relation.ReflTransGen doc.graph.Requires id x →
        Relation.TransGen doc.graph.Requires x x → ∃ e, doc.typeOf id = .error e := by
  have settled := settled_of_resolve resolved
  have straight : ∀ type, doc.typeOf id = .ok type → ∀ x,
      Relation.ReflTransGen doc.graph.Requires id x →
        ¬ Relation.TransGen doc.graph.Requires x x := by
    intro type h x leads
    have typable := ((typeOf_eq_ok_iff settled hid).mp ⟨type, h⟩).1
    exact not_cyclic_of_requires settled hid typable leads
  refine ⟨(chain_walk (settled.linked.acyclic id hid)).1, fun found => ⟨fun h => ?_, ?_⟩, straight,
    fun x leads cycle => ?_⟩
  · exact h.unique (finds_typeOf settled hid)
  · rintro rfl
    exact finds_typeOf settled hid
  · cases h : doc.typeOf id with
    | error e => exact ⟨e, rfl⟩
    | ok type => exact absurd cycle (straight type h x leads)

/-- A list requires itself, being its own rest; its head has a type. -/
theorem typeOf_terminates_recursive :
    let sources : Sources := ⟨fun _ => .ok "", 1⟩
    let frontEnd : FrontEnd := fun _ _ =>
      .sequence [.need (.beginObject "List" .standard none .api),
        .need (.declaration "rest" .attr "List" .api), .need (.declaration "head" .attr "int" .api),
        .need .endObject]
    ∃ doc, resolve sources frontEnd .lenient ⟨"main"⟩ = .ok doc ∧
      (∃ e, doc.graph.Finds [] 1 (.error e) ∧ doc.typeOf 1 = .error e) ∧
      ∃ type, doc.typeOf 3 = .ok type ∧ ¬ Relation.TransGen doc.graph.Requires 3 3 := by
  intro sources frontEnd
  have run : (resolve sources frontEnd .lenient ⟨"main"⟩).toOption.any (fun doc =>
      let g := doc.graph
      decide (3 < g.size ∧
        (g.labels 1 = some .compound ∧ 2 ∈ (g.node 1).children ∧ g.isMember 2 ∧
          (g.node 1).isObject) ∧
        (g.labels 2 = some .alias ∧ (g.node 2).isObject = false ∧
          (g.node 2).reference = .declaration 1) ∧
        (g.node 3).production = .leaf ∧ (g.node 3).isObject = false ∧
          (g.node 3).reference = .fundamental .int)) = true := by
    decide +kernel
  obtain ⟨doc, resolved, hid, ⟨hl, hc, hm, ho⟩, ⟨hl', ho', hr'⟩, leaf, ho'', hr''⟩ :=
    Steps.exists_ok_of_decide run
  have settled := settled_of_resolve resolved
  have first : 1 < doc.graph.size := Nat.lt_trans (by decide) hid
  obtain ⟨_, finds, _, recursive⟩ := typeOf_terminates resolved first
  obtain ⟨_, _, straight, _⟩ := typeOf_terminates resolved hid
  have up : Derives doc.graph 2 ⟨[2], .declaration 1⟩ := .next ho' hr' (.object ho)
  have circle : Relation.TransGen doc.graph.Requires 1 1 :=
    .tail (.single (.member hl hc hm))
      (.object (by rintro (h | h) <;> rw [hl'] at h <;> cases h)
        (up.run settled.linked.acyclic _) rfl)
  obtain ⟨e, he⟩ := recursive 1 .refl circle
  have typable := settled.typable_of_derives (.fundamental ho'' hr'') hid (by rintro o ⟨⟩)
  obtain ⟨type, typed⟩ := (typeOf_eq_ok_iff settled hid).mpr ⟨typable, by simp [leaf]⟩
  exact ⟨doc, resolved, ⟨e, (finds _).mpr he.symm, he⟩, type, typed, straight type typed 3 .refl⟩

end Document

end TypeSchema
