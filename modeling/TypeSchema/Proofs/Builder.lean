/-
# Builder — what calls do, and what they build

A builder is sound while its graph is raw and a tree, and the places it
remembers — its root, the opened objects, the current declaration — are
places of the graph.  A call to a sound builder changes nothing, if it fails,
or else does what such a call does (`all_or_nothing`, `Does`).  Without the
calls themselves this makes six moves (`Moved`); what these keep, all calls
keep (`leave_induction`), being sound to begin with.

Of the graph moves only make two things: they add a declaration inside an
object, or write tags, arities and arguments.  Together with the roots that
documents start from, these are all steps by which graphs are built
(`Built.induction`).
-/
import TypeSchema.Document.Discovery
import TypeSchema.Proofs.Graph.Built

namespace TypeSchema

open Declaration (Id Role Production Subtype Reference)
open TypeSchema.Graph (Built Raw Tree Newborn)
open Steps (left)

namespace Declaration

/-- Attach a tag; to the use of an extension it is a named argument. -/
def giveTag (tag : String) (value : Metadata.Value) (place : Location) (d : Declaration) :
    Except SchemaError Declaration :=
  if d.production = .extension then d.addKeyword tag value else d.addMetadata ⟨tag, value, place⟩

/-- Give the arity of a shorthand text, which a source as a whole cannot have. -/
def giveArity (text : String) (place : Location) (d : Declaration) :
    Except SchemaError Declaration := do
  let arity ← Arity.read text place
  if d.production = .root then throw (.unsupported .documentArity place) else d.setArity arity

end Declaration

namespace Builder

/-- The graph is as it is before anything has been looked up, and the builder
remembers places of it. -/
structure Sound (b : Builder) : Prop where
  raw : b.graph.Raw
  tree : b.graph.Tree
  root_scope : b.graph.IsScope b.root
  opened_scope : ∀ id ∈ b.opened, b.graph.IsScope id
  current_lt : b.current < b.graph.size

variable {α β : Type} {b : Builder}

theorem Sound.isScope (h : Sound b) : b.graph.IsScope b.scope := by
  unfold scope
  cases hb : b.opened with
  | nil => exact h.root_scope
  | cons id _ => exact h.opened_scope id (by simp [hb])

/-! ## Actions that fail without a trace -/

/-- The action changes nothing. -/
def IsGuard (x : Action Unit) : Prop := ∀ b, x b = .ok () b ∨ ∃ e, x b = .error e b

/-- The action succeeds, as `P` says, or fails and changes nothing. -/
def AllOrNothing (x : Action α) (b : Builder) (P : α → Builder → Prop) : Prop :=
  (∃ a b', x b = .ok a b' ∧ P a b') ∨ ∃ e, x b = .error e b

namespace AllOrNothing

variable {x : Action α} {P : α → Builder → Prop}

theorem ok {a : α} {b' : Builder} (h : x b = .ok a b') (hP : P a b') : AllOrNothing x b P :=
  .inl ⟨a, b', h, hP⟩

theorem error {e : SchemaError} (h : x b = .error e b) : AllOrNothing x b P := .inr ⟨e, h⟩

theorem get {f : Builder → Action α} (h : AllOrNothing (f b) b P) :
    AllOrNothing (get >>= f) b P := h

/-- Behind a guard there is either the rest of the action or nothing. -/
theorem guard {g : Action Unit} {f : Unit → Action α} (hg : IsGuard g)
    (hf : AllOrNothing (f ()) b P) : AllOrNothing (g >>= f) b P := by
  rcases hg b with h | ⟨e, h⟩
  · unfold AllOrNothing
    rwa [Steps.bind_ok h]
  · exact error (Steps.bind_error h)

theorem map {Q : β → Builder → Prop} (h : AllOrNothing x b P) (f : α → β)
    (hQ : ∀ a b', P a b' → Q (f a) b') : AllOrNothing (x >>= fun a => pure (f a)) b Q := by
  rcases h with ⟨a, b', run, hP⟩ | ⟨e, run⟩
  · exact ok (Steps.bind_ok run) (hQ a b' hP)
  · exact error (Steps.bind_error run)

/-- What the action does if it succeeds. -/
theorem of_ok (h : AllOrNothing x b P) {a : α} {b' : Builder} (run : x b = .ok a b') : P a b' := by
  rcases h with ⟨_, _, run', hP⟩ | ⟨e, run'⟩
  · rw [run] at run'
    cases run'
    exact hP
  · rw [run] at run'
    cases run'

theorem of_error (h : AllOrNothing x b P) {e : SchemaError} {b' : Builder}
    (run : x b = .error e b') : b' = b := by
  rcases h with ⟨_, _, run', _⟩ | ⟨_, run'⟩
  · rw [run] at run'
    cases run'
  · rw [run] at run'
    cases run'
    rfl

end AllOrNothing

theorem isGuard_guardConstruct (allowed : Bool) (c : Construct) (place : Location) :
    IsGuard (guardConstruct allowed c place) := by
  intro b
  unfold guardConstruct
  split
  · exact .inl rfl
  · exact .inr ⟨_, rfl⟩

theorem isGuard_guardRole (role : Role) (place : Location) : IsGuard (guardRole role place) := by
  intro b
  cases role with
  | standard => exact .inl rfl
  | attr => exact isGuard_guardConstruct _ _ _ b
  | definition => exact isGuard_guardConstruct _ _ _ b

/-! ## Declaring -/

/-- The builder behind the declaration of `d`. -/
def declared (b : Builder) (d : Declaration) : Builder :=
  { b with graph := b.graph.adopt d, current := b.graph.size }

theorem sound_declared {d : Declaration} (hb : Sound b) (hd : Newborn b.graph d) :
    Sound (b.declared d) where
  raw := Graph.raw_adopt hb.raw hd
  tree := Graph.tree_adopt hb.tree hd
  root_scope := hb.root_scope.adopt hd
  opened_scope := fun id h => (hb.opened_scope id h).adopt hd
  current_lt := (Graph.size_adopt b.graph d).symm ▸ Nat.lt_succ_self _

theorem onGraph_ok {change : Graph.Change α} {a : α} {g : Graph} (h : change b.graph = .ok a g) :
    onGraph change b = .ok a { b with graph := g } := by
  simp only [onGraph, h]

theorem onGraph_error {change : Graph.Change α} {e : SchemaError} {g : Graph}
    (h : change b.graph = .error e g) : onGraph change b = .error e { b with graph := g } := by
  simp only [onGraph, h]

theorem create_ok {role : Role} {production : Production} {place : Location}
    {fill : Declaration → Declaration} (hb : Sound b)
    (hd : Newborn b.graph (fill (.fresh role production (some b.scope) place b.isExternal))) :
    create role production place fill b = .ok b.graph.size
      (b.declared (fill (.fresh role production (some b.scope) place b.isExternal))) := by
  unfold create
  rw [Steps.bind_ok (Steps.get_run b)]
  exact Steps.bind_ok (onGraph_ok (Graph.add_ok hb.raw hd))

/-- A blank declaration of the scope becomes a newborn one when it gets a name
and a reference that suit its production. -/
theorem newborn_fill (role : Role) {production : Production} (place : Location)
    (name : Option String) (call : Option Declaration.Invocation) {reference : Reference}
    (hb : Sound b) (allowed : production.AllowsRaw reference)
    (named : name.isSome = production.isNamed)
    (suited : role ≠ .standard → production = .object ∨ production = .leaf) :
    Newborn b.graph
      { (Declaration.fresh role production (some b.scope) place b.isExternal).withReference
          reference with
        name := name, invocation := call } where
  raw := ⟨rfl, rfl, rfl, allowed⟩
  shaped := ⟨named, suited, fun _ => rfl⟩
  childless := rfl
  inside := by
    rintro p ⟨⟩
    exact hb.isScope

/-! ## Tags, arities and arguments -/

/-- The declaration without its tags, its arity and its arguments. -/
def undecorated (d : Declaration) : Declaration :=
  { d with metadata := .empty, arity := none, invocation := none }

/-- The change concerns tags, arity and arguments only. -/
def Decorates (f : Declaration → Except SchemaError Declaration) : Prop :=
  ∀ d d', f d = .ok d' → undecorated d' = undecorated d

theorem sound_put {d : Declaration} {id : Id} (hb : Sound b)
    (same : undecorated d = undecorated (b.graph.node id)) :
    Sound { b with graph := b.graph.put id d } := by
  have plain : ∀ i, undecorated ((b.graph.put id d).node i) = undecorated (b.graph.node i) :=
    Graph.part_put undecorated same
  have size := Graph.size_put b.graph id d
  have children : ∀ i, ((b.graph.put id d).node i).children = (b.graph.node i).children := by
    intro i
    have := congrArg Declaration.children (plain i)
    exact this
  have parent : ∀ i, ((b.graph.put id d).node i).parent = (b.graph.node i).parent := by
    intro i
    have := congrArg Declaration.parent (plain i)
    exact this
  have raw : ∀ i, (undecorated (b.graph.node i)).IsRaw := fun i =>
    ⟨(hb.raw i).isOpen, (hb.raw i).subtype, (hb.raw i).unlinked, (hb.raw i).reference⟩
  have shaped : ∀ i, (undecorated (b.graph.node i)).IsShaped := fun i =>
    ⟨(hb.tree.shaped i).named, (hb.tree.shaped i).role, (hb.tree.shaped i).childless⟩
  have scope : ∀ {i}, b.graph.IsScope i → (b.graph.put id d).IsScope i := by
    intro i hi
    refine ⟨size ▸ hi.lt, ?_⟩
    have := congrArg Declaration.isObject (plain i)
    exact this.trans hi.isObject
  refine ⟨fun i => ?_, ⟨fun {i c} hc => ?_, fun {i c} hc => ?_, fun i => ?_⟩, ?_, ?_, ?_⟩
  · have := plain i ▸ raw i
    exact ⟨this.isOpen, this.subtype, this.unlinked, this.reference⟩
  · exact size ▸ hb.tree.child_lt (children i ▸ hc)
  · exact parent c ▸ hb.tree.parent_child (children i ▸ hc)
  · have := plain i ▸ shaped i
    exact ⟨this.named, this.role, this.childless⟩
  · exact scope hb.root_scope
  · exact fun i hi => scope (hb.opened_scope i hi)
  · exact size ▸ hb.current_lt

theorem decorates_addMetadata (item : Metadata.Item) : Decorates (·.addMetadata item) := by
  intro d d' h
  obtain ⟨d₀, hd₀, h₀⟩ := Steps.except_bind_eq_ok.mp h
  obtain ⟨_, rfl⟩ := Declaration.change_eq_ok hd₀
  obtain ⟨m, _, h₁⟩ := Steps.except_bind_eq_ok.mp h₀
  cases h₁
  rfl

theorem decorates_changeArguments (f : Declaration.Invocation → Declaration.Invocation) :
    Decorates (·.changeArguments f) := by
  intro d d' h
  obtain ⟨d₀, hd₀, h₀⟩ := Steps.except_bind_eq_ok.mp h
  obtain ⟨_, rfl⟩ := Declaration.change_eq_ok hd₀
  split at h₀
  · cases h₀
    rfl
  · cases h₀

theorem decorates_giveTag (tag : String) (value : Metadata.Value) (place : Location) :
    Decorates (·.giveTag tag value place) := by
  intro d d' h
  simp only [Declaration.giveTag] at h
  split at h
  · exact decorates_changeArguments _ d d' h
  · exact decorates_addMetadata _ d d' h

theorem decorates_giveArity (text : String) (place : Location) :
    Decorates (·.giveArity text place) := by
  intro d d' h
  obtain ⟨a, _, h⟩ := Steps.except_bind_eq_ok.mp h
  split at h
  · cases h
  · obtain ⟨_, rfl⟩ := Declaration.change_eq_ok h
    rfl

/-- The builder with `d` in the place of the current declaration. -/
def completed (b : Builder) (d : Declaration) : Builder :=
  { b with graph := b.graph.put b.current d }

section OnCurrent

variable {f : Declaration → Except SchemaError Declaration}

theorem onCurrent_ok {d : Declaration} (hb : b.current < b.graph.size)
    (h : f b.currentNode = .ok d) : onCurrent f b = .ok () (b.completed d) :=
  (Steps.bind_ok (Steps.get_run b)).trans (onGraph_ok (Graph.update_ok hb h))

theorem onCurrent_error {e : SchemaError} (hb : b.current < b.graph.size)
    (h : f b.currentNode = .error e) : onCurrent f b = .error e b :=
  (Steps.bind_ok (Steps.get_run b)).trans (onGraph_error (Graph.update_error hb h))

/-- A change is made to the current declaration only, so it matters what it is there. -/
theorem onCurrent_congr {k : Declaration → Except SchemaError Declaration}
    (h : f b.currentNode = k b.currentNode) : onCurrent f b = onCurrent k b := by
  by_cases hb : b.current < b.graph.size
  · cases hf : f b.currentNode with
    | ok d => rw [onCurrent_ok hb hf, onCurrent_ok hb (h ▸ hf)]
    | error e => rw [onCurrent_error hb hf, onCurrent_error hb (h ▸ hf)]
  · have missing : ∀ f, onCurrent f b = .ok () b := fun f =>
      (Steps.bind_ok (Steps.get_run b)).trans
        (onGraph_ok (Graph.update_missing (Nat.not_lt.mp hb)))
    rw [missing, missing]

theorem metadata_run (tag : String) (value : Metadata.Value) (place : Location) :
    metadata tag value place b = onCurrent (·.giveTag tag value place) b := by
  refine (Steps.bind_ok (Steps.get_run b)).trans ?_
  by_cases hp : b.currentNode.production = .extension
  · rw [if_pos hp]
    exact onCurrent_congr (if_pos hp).symm
  · rw [if_neg hp]
    exact onCurrent_congr (if_neg hp).symm

theorem arity_run (hb : b.current < b.graph.size) (text : String) (place : Location) :
    arity text place b = onCurrent (·.giveArity text place) b := by
  unfold arity
  cases ha : Arity.read text place with
  | error e =>
      have refused : b.currentNode.giveArity text place = .error e := by
        simp only [Declaration.giveArity, ha]
        rfl
      rw [Steps.bind_error (Steps.ofExcept_error rfl b), onCurrent_error hb refused]
  | ok a =>
      have given : ∀ d : Declaration, d.giveArity text place
          = if d.production = .root then .error (.unsupported .documentArity place)
            else d.setArity a := by
        intro d
        simp only [Declaration.giveArity, ha]
        rfl
      rw [Steps.bind_ok (Steps.ofExcept_ok rfl b), Steps.bind_ok (Steps.get_run b)]
      by_cases hp : b.currentNode.production = .root
      · rw [onCurrent_error hb ((given _).trans (if_pos hp))]
        exact Steps.bind_error (by simp only [guardConstruct, hp]; rfl)
      · have allowed : (b.currentNode.production != .root) = true := by simpa using hp
        rw [onCurrent_congr (k := (·.setArity a)) ((given _).trans (if_neg hp)), allowed]
        exact Steps.bind_ok rfl

end OnCurrent

/-! ## What a call does -/

/-- A call declares `d` where the builder stands. -/
structure Declares (b : Builder) (d : Declaration) : Prop extends Newborn b.graph d where
  parent : d.parent = some b.scope
  production : d.production ≠ .root
  isExternal : d.isExternal = b.isExternal

/-- The call makes a declaration. -/
def Call.declares : Call → Bool
  | .beginObject .. => true
  | .declaration .. => true
  | .extension .. => true
  | .config .. => true
  | _ => false

/-- The declaration that the call makes is an object, which is begun. -/
def Call.opens : Call → Bool
  | .beginObject .. => true
  | _ => false

/-- What the call changes about the current declaration. -/
def Call.change? : Call → Option (Declaration → Except SchemaError Declaration)
  | .metadata tag value place => some (·.giveTag tag value place)
  | .arity text place => some (·.giveArity text place)
  | .stringLiteral text => some (·.addPositional (.string text))
  | _ => none

/-- What a call does that succeeds, and its reply. -/
inductive Does (b : Builder) : Call → Option Id → Builder → Prop
  | declares {c : Call} {d : Declaration} : c.declares → Declares b d → (c.opens → d.isObject) →
      Does b c (some b.graph.size)
        { b.declared d with opened := if c.opens then b.graph.size :: b.opened else b.opened }
  | ends {id : Id} {rest : List Id} : b.opened = id :: rest →
      Does b .endObject (some id) { b with opened := rest, current := id }
  | writes {c : Call} {f : Declaration → Except SchemaError Declaration} {d : Declaration} :
      c.change? = some f → f b.currentNode = .ok d → Does b c none (b.completed d)
  | notes (path : String) (place : Location) : Does b (.addInclude path place) none
      { b with includes := b.includes ++ [⟨path, place⟩] }

section AllOrNothing

variable (hb : Sound b)
include hb

theorem does_beginObject (name : String) (role : Role) (base : Option String) (place : Location) :
    AllOrNothing (beginObject name role base place) b fun id =>
      Does b (.beginObject name role base place) (some id) := by
  refine .get (.guard (isGuard_guardConstruct _ _ _) (.guard (isGuard_guardRole _ _) ?_))
  have allowed : Production.object.AllowsRaw ((base.map Reference.unresolved).getD .none) := by
    cases base with
    | none => exact .inl rfl
    | some text => exact .inr ⟨text, rfl⟩
  have hd : Newborn b.graph _ := newborn_fill role place (some name) none hb allowed rfl
    (fun _ => .inl rfl)
  exact .ok (Steps.bind_ok (create_ok hb hd))
    (.declares rfl ⟨hd, rfl, Production.noConfusion, rfl⟩ fun _ => rfl)

omit hb in
theorem does_endObject : AllOrNothing endObject b fun id => Does b .endObject (some id) := by
  cases h : b.opened with
  | nil =>
      refine .error (e := .unsupported .endWithoutBegin (b.graph.node b.root).location) ?_
      refine (Steps.bind_ok (Steps.get_run b)).trans ?_
      rw [h]
      rfl
  | cons id rest =>
      refine .ok (a := id) ?_ (.ends h)
      refine (Steps.bind_ok (Steps.get_run b)).trans ?_
      rw [h]
      rfl

theorem does_declaration (name : String) (role : Role) (reference : String) (place : Location) :
    AllOrNothing (declaration name role reference place) b fun id =>
      Does b (.declaration name role reference place) (some id) := by
  refine .guard (isGuard_guardRole _ _) ?_
  have allowed : Production.leaf.AllowsRaw (.unresolved reference) := ⟨reference, rfl⟩
  have hd : Newborn b.graph _ := newborn_fill role place (some name) none hb allowed rfl
    (fun _ => .inr rfl)
  exact .ok (create_ok hb hd) (.declares rfl ⟨hd, rfl, Production.noConfusion, rfl⟩ nofun)

theorem does_extension (name : String) (place : Location) :
    AllOrNothing (extension name place) b fun id => Does b (.extension name place) (some id) := by
  refine .get (.guard (isGuard_guardConstruct _ _ _) ?_)
  have allowed : Production.extension.AllowsRaw .none := rfl
  have hd : Newborn b.graph _ := newborn_fill .standard place none (some ⟨name, [], []⟩) hb
    allowed rfl (fun h => absurd rfl h)
  exact .ok (create_ok hb hd) (.declares rfl ⟨hd, rfl, Production.noConfusion, rfl⟩ nofun)

theorem does_config (name reference : String) (place : Location) :
    AllOrNothing (config name reference place) b fun id =>
      Does b (.config name reference place) (some id) := by
  have allowed : Production.config.AllowsRaw (.unresolved reference) := ⟨reference, rfl⟩
  have hd : Newborn b.graph _ := newborn_fill .standard place (some name) none hb allowed rfl
    (fun h => absurd rfl h)
  exact .ok (create_ok hb hd) (.declares rfl ⟨hd, rfl, Production.noConfusion, rfl⟩ nofun)

/-- A change of the current declaration is made, or refused. -/
theorem does_change {c : Call} {f : Declaration → Except SchemaError Declaration}
    (hc : c.change? = some f) : AllOrNothing (onCurrent f) b fun _ => Does b c none := by
  cases h : f b.currentNode with
  | ok d => exact .ok (onCurrent_ok hb.current_lt h) (.writes hc h)
  | error e => exact .error (onCurrent_error hb.current_lt h)

/-- A call to a sound builder does what such a call does, or fails and changes
nothing. -/
theorem all_or_nothing (c : Call) : AllOrNothing c.perform b (Does b c) := by
  cases c with
  | beginObject name role base place =>
      exact (does_beginObject hb name role base place).map some fun _ _ h => h
  | endObject => exact does_endObject.map some fun _ _ h => h
  | declaration name role reference place =>
      exact (does_declaration hb name role reference place).map some fun _ _ h => h
  | extension name place => exact (does_extension hb name place).map some fun _ _ h => h
  | config name reference place =>
      exact (does_config hb name reference place).map some fun _ _ h => h
  | metadata tag value place =>
      have change := does_change hb (c := .metadata tag value place) rfl
      unfold AllOrNothing at change
      rw [← metadata_run] at change
      exact AllOrNothing.map change (fun _ => none) fun _ _ h => h
  | arity text place =>
      have change := does_change hb (c := .arity text place) rfl
      unfold AllOrNothing at change
      rw [← arity_run hb.current_lt] at change
      exact AllOrNothing.map change (fun _ => none) fun _ _ h => h
  | stringLiteral text =>
      exact (does_change hb (c := .stringLiteral text) rfl).map (fun _ => none) fun _ _ h => h
  | addInclude path place => exact .ok rfl (.notes path place)

end AllOrNothing

/-- All that a call can do to a builder. -/
inductive Moved (b : Builder) : Builder → Prop
  | stays : Moved b b
  | declared {d : Declaration} : Declares b d → Moved b (b.declared d)
  | begun {d : Declaration} : Declares b d → d.isObject →
      Moved b { b.declared d with opened := b.graph.size :: b.opened }
  | ended {id : Id} {rest : List Id} : b.opened = id :: rest →
      Moved b { b with opened := rest, current := id }
  | decorated {d : Declaration} : undecorated d = undecorated b.currentNode →
      Moved b { b with graph := b.graph.put b.current d }
  | noted (i : Include) : Moved b { b with includes := b.includes ++ [i] }

theorem Call.decorates {c : Call} {f : Declaration → Except SchemaError Declaration}
    (h : c.change? = some f) : Decorates f := by
  cases c <;> cases h
  · exact decorates_giveTag _ _ _
  · exact decorates_giveArity _ _
  · exact decorates_changeArguments _

theorem Does.moved {c : Call} {reply : Option Id} {b' : Builder} (does : Does b c reply b') :
    Moved b b' := by
  cases does with
  | @declares _ d _ hd isObject =>
      cases opens : c.opens with
      | true => exact .begun hd (isObject opens)
      | false => exact .declared hd
  | ends h => exact .ended h
  | writes hc h => exact .decorated (Call.decorates hc _ _ h)
  | notes path place => exact .noted ⟨path, place⟩

/-- Whatever comes of a call, a sound builder moves as calls make it move. -/
theorem moved_leave (hb : Sound b) (c : Call) : Moved b (c.leave b) := by
  rcases all_or_nothing hb c with ⟨reply, b', run, does⟩ | ⟨e, run⟩
  · rw [Call.leave, run]
    exact does.moved
  · rw [Call.leave, run]
    exact .stays

/-! ## What calls keep -/

theorem Moved.sound {b' : Builder} (hb : Sound b) (moved : Moved b b') : Sound b' := by
  cases moved with
  | stays => exact hb
  | declared hd => exact sound_declared hb hd.toNewborn
  | begun hd isObject =>
      have sound := sound_declared hb hd.toNewborn
      refine { sound with opened_scope := fun id h => ?_ }
      rcases List.mem_cons.mp h with rfl | h
      · exact ⟨sound.current_lt, (Graph.node_adopt_self b.graph _).symm ▸ isObject⟩
      · exact sound.opened_scope id h
  | @ended id rest h =>
      have member : ∀ i ∈ id :: rest, b.graph.IsScope i := h ▸ hb.opened_scope
      exact ⟨hb.raw, hb.tree, hb.root_scope, fun i hi => member i (List.mem_cons_of_mem _ hi),
        (member id List.mem_cons_self).lt⟩
  | decorated same => exact sound_put hb same
  | noted i => exact ⟨hb.raw, hb.tree, hb.root_scope, hb.opened_scope, hb.current_lt⟩

/-- What every move of a sound builder keeps, any calls keep. -/
theorem leave_induction {P : Builder → Prop}
    (step : ∀ {b b'}, Sound b → Moved b b' → P b → P b') (calls : List Call) {b : Builder}
    (hb : Sound b) (hP : P b) :
    Sound (calls.foldl Call.leave b) ∧ P (calls.foldl Call.leave b) := by
  induction calls generalizing b with
  | nil => exact ⟨hb, hP⟩
  | cons c calls ih =>
      have moved := moved_leave hb c
      exact ih (moved.sound hb) (step hb moved hP)

theorem sound_leave (calls : List Call) {b : Builder} (hb : Sound b) :
    Sound (calls.foldl Call.leave b) :=
  (leave_induction (P := fun _ => True) (fun _ _ h => h) calls hb trivial).1

end Builder

/-! ## Built graphs -/

namespace Graph

theorem newborn_root (g : Graph) (location : Location) (isExternal : Bool) :
    Newborn g (.fresh .standard .root none location isExternal) where
  raw := ⟨rfl, rfl, rfl, rfl⟩
  shaped := ⟨rfl, fun h => absurd rfl h, fun _ => rfl⟩
  childless := rfl
  inside := by rintro p ⟨⟩

/-- The builder of a document starts out sound. -/
theorem sound_start {g g' : Graph} {root : Id} {location : Location} {isExternal : Bool}
    (raw : g.Raw) (tree : g.Tree)
    (h : add (.fresh .standard .root none location isExternal) g = .ok root g')
    (features : Features) : Builder.Sound (.start g' features root isExternal) := by
  have hd := newborn_root g location isExternal
  rw [add_ok raw hd] at h
  cases h
  have hlt : g.size < (g.adopt (.fresh .standard .root none location isExternal)).size := by
    rw [size_adopt]
    exact Nat.lt_succ_self _
  refine ⟨raw_adopt raw hd, tree_adopt tree hd, ⟨hlt, ?_⟩,
    fun id hid => absurd hid List.not_mem_nil, hlt⟩
  show ((g.adopt _).node g.size).isObject
  rw [node_adopt_self]
  rfl

theorem Built.sound {g : Graph} (h : Built g) : g.Raw ∧ g.Tree := by
  induction h with
  | empty =>
      have blank : ∀ id, Graph.empty.node id = default := fun id => node_of_size_le (Nat.zero_le id)
      refine ⟨fun id => blank id ▸ isRaw_default, ⟨?_, ?_, fun id => blank id ▸ isShaped_default⟩⟩
      · intro i c hc
        rw [blank] at hc
        cases hc
      · intro i c hc
        rw [blank] at hc
        cases hc
  | document location isExternal features calls _ hadd ih =>
      have := Builder.sound_leave calls (sound_start ih.1 ih.2 hadd features)
      exact ⟨this.raw, this.tree⟩

theorem Built.raw {g : Graph} (h : Built g) : g.Raw := h.sound.1

theorem Built.tree {g : Graph} (h : Built g) : g.Tree := h.sound.2

/-- What stands inside nothing is the root of a source, and nothing else is. -/
def Rooted (g : Graph) : Prop :=
  ∀ i, (g.node i).parent = none ↔ (g.node i).production = .root

theorem Rooted.congr {g h : Graph} (s : SameFrame g h) (rooted : g.Rooted) : h.Rooted := by
  intro i
  rw [← s.parent, ← s.production]
  exact rooted i

/-- What holds of the graph without declarations, and stays when one is added
or gets tags, arity and arguments, holds of all graphs that are built. -/
theorem Built.induction {P : Graph → Prop} (empty : P .empty)
    (adopt : ∀ {g d}, Newborn g d → (d.parent = none ↔ d.production = .root) → P g →
      P (g.adopt d))
    (decorate : ∀ {g h}, Agree Builder.undecorated g h → P g → P h) {g : Graph}
    (built : Built g) : P g := by
  have step : ∀ {b b' : Builder}, b.Sound → b.Moved b' → P b.graph → P b'.graph := by
    intro b b' _ moved hP
    have inner : ∀ {d}, b.Declares d → P (b.graph.adopt d) := fun hd =>
      adopt hd.toNewborn (iff_of_false (by simp [hd.parent]) hd.production) hP
    cases moved with
    | stays => exact hP
    | declared hd => exact inner hd
    | begun hd _ => exact inner hd
    | ended _ => exact hP
    | decorated same => exact decorate (Agree.put same).symm hP
    | noted _ => exact hP
  induction built with
  | empty => exact empty
  | @document g g' root location isExternal features calls built hadd ih =>
      have sound := sound_start built.raw built.tree hadd features
      have hd := newborn_root g location isExternal
      have grown := adopt hd (iff_of_true rfl rfl) ih
      rw [add_ok built.raw hd] at hadd
      cases hadd
      exact (Builder.leave_induction (P := fun b => P b.graph) step calls sound grown).2

theorem Built.nested {g : Graph} (built : Built g) : g.Nested :=
  built.induction nested_empty
    (fun hd _ nested => nested_adopt nested (fun hp => (hd.inside hp).lt) hd.childless)
    fun s nested => nested.congr (s.map Declaration.seat Declaration.seat fun _ => rfl)

theorem Built.rooted {g : Graph} (built : Built g) : g.Rooted := by
  refine built.induction (P := Rooted) ?_ ?_ ?_
  · intro i
    rw [node_of_size_le (Nat.zero_le i)]
    exact iff_of_true rfl rfl
  · intro g d hd outermost rooted i
    by_cases hi : i = g.size
    · rw [hi, node_adopt_self]
      exact outermost
    · rw [node_adopt_ne hd hi]
      exact rooted i
  · intro g h s rooted i
    have parent := congrArg Declaration.parent (s.part i)
    have production := congrArg Declaration.production (s.part i)
    rw [show (h.node i).parent = (g.node i).parent from parent.symm,
      show (h.node i).production = (g.node i).production from production.symm]
    exact rooted i

end Graph

/-! ## What discovery builds -/

/-- Running a script makes calls; those that fail leave what they leave. -/
theorem Script.exists_calls (s : Script) (b : Builder) :
    ∃ calls : List Builder.Call, left (s.run b) = calls.foldl Builder.Call.leave b := by
  induction s generalizing b with
  | done => exact ⟨[], rfl⟩
  | fail e => exact ⟨[], rfl⟩
  | call c next ih =>
      cases h : c.perform b with
      | ok reply b' =>
          obtain ⟨calls, run⟩ := ih (.ok reply) b'
          refine ⟨c :: calls, ?_⟩
          have : Builder.Call.leave b c = b' := by simp [Builder.Call.leave, h, left]
          rw [List.foldl_cons, this, ← run]
          simp only [Script.run, h]
      | error e b' =>
          obtain ⟨calls, run⟩ := ih (.error e) b'
          refine ⟨c :: calls, ?_⟩
          have : Builder.Call.leave b c = b' := by simp [Builder.Call.leave, h, left]
          rw [List.foldl_cons, this, ← run]
          simp only [Script.run, h]

namespace Discovery

variable {sources : Sources} {frontEnd : FrontEnd} {features : Features}

theorem graph_enqueue (paths : List Path) (d : Discovery) :
    (paths.foldl enqueue d).graph = d.graph := by
  induction paths generalizing d with
  | nil => rfl
  | cons path paths ih =>
      rw [List.foldl_cons, ih]
      unfold enqueue
      split <;> rfl

theorem built_visit {d d' : Discovery} {path : Path} (hd : Built d.graph)
    (h : visit sources frontEnd features d path = .ok d') : Built d'.graph := by
  unfold visit at h
  cases htext : sources.read path with
  | error e => rw [htext] at h; cases h
  | ok text =>
  rw [htext] at h
  cases hadd : Graph.add
      (.fresh .standard .root none ⟨path.text, 0, 0⟩ (!d.found.isEmpty)) d.graph with
  | error e g => simp [enter, hadd, bind, Except.bind] at h
  | ok root g =>
  simp only [enter, hadd, bind, Except.bind] at h
  obtain ⟨calls, run⟩ := Script.exists_calls (frontEnd path.text text)
    (.start g features root (!d.found.isEmpty))
  cases hrun : (frontEnd path.text text).run (.start g features root (!d.found.isEmpty)) with
  | error e b => rw [hrun] at h; cases h
  | ok _ b =>
  rw [hrun] at h run
  have hb : Built b.graph := by
    rw [show b = _ from run]
    exact .document _ _ features calls hd hadd
  unfold leave at h
  cases hfinish : b.finish with
  | error e => simp [hfinish, bind, Except.bind] at h
  | ok includes =>
  simp only [hfinish, bind, Except.bind, pure, Except.pure] at h
  cases h
  rw [graph_enqueue]
  exact hb

theorem built_run {limit : Nat} {d d' : Discovery} (hd : Built d.graph)
    (h : run sources frontEnd features limit d = .ok d') : Built d'.graph := by
  induction limit generalizing d with
  | zero =>
      unfold run at h
      split at h
      · cases h; exact hd
      · cases h
  | succ limit ih =>
      unfold run at h
      split at h
      · cases h; exact hd
      · rename_i path rest _
        cases hv : visit sources frontEnd features { d with queue := rest } path with
        | error e => simp [hv, bind, Except.bind] at h
        | ok d₁ =>
            simp only [hv, bind, Except.bind] at h
            exact ih (built_visit (d := { d with queue := rest }) hd hv) h

end Discovery

end TypeSchema
