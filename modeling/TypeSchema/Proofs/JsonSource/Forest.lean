/-
# Forest — the declarations that the entries of a source come to

The script of an entry begins a declaration, declares the members inside, and
completes the declaration.  What comes of it does not depend on the builder
it runs on: `Entry.tree?` finds it from the entry alone, and running the
script plants it where the builder is (`Entry.plants_script`).  Nor does it
depend on where the entry stands in its text (`Entry.tree?_unplaced`), or on
whether its source is an included one (`Entry.isSome_tree?`), beyond what is
noted of it in each declaration.
-/
import TypeSchema.Proofs.JsonSource.Header
import TypeSchema.Proofs.JsonSource.Placement

namespace TypeSchema

open Declaration (Id Role Production Reference)

namespace JsonSource

open Builder (allowsRole)

/-! ## Entries -/

mutual

/-- The declaration of an entry with those of its members inside. -/
def Entry.tree? (features : Features) (isExternal : Bool) (place : Nat → Location) :
    Entry → Option Forest
  | .unreadable _ => none
  | .mk start header members =>
    (Entry.forest? features isExternal place members).bind fun inside =>
      (header.declaration? features isExternal (place start) (!members.isEmpty)).map (.tree · inside)

/-- The declarations of entries. -/
def Entry.forest? (features : Features) (isExternal : Bool) (place : Nat → Location) :
    List Entry → Option Forest
  | [] => some .none
  | e :: rest =>
    (e.tree? features isExternal place).bind fun f =>
      (Entry.forest? features isExternal place rest).map (.beside f ·)

end

/-! ## Running scripts -/

/-- The builder `b'` is `b` with a forest planted where it is. -/
structure After (b : Builder) (f : Forest) (b' : Builder) : Prop where
  grown : Graph.Grown b.graph (some b.scope) f b'.graph
  features : b'.features = b.features
  root : b'.root = b.root
  opened : b'.opened = b.opened
  includes : b'.includes = b.includes
  isExternal : b'.isExternal = b.isExternal

/-- The script plants a forest where the builder is; it fails if there is none. -/
structure Plants (s : Script) (b : Builder) (f? : Option Forest) : Prop where
  ok : ∀ {f}, f? = some f → ∃ b', s.run b = .ok () b' ∧ After b f b'
  fails : f? = none → s.Fails b

section Run

variable {b b' : Builder} {h : Header} {d : Declaration} {name : String} {place : Location}

theorem After.scope {f : Forest} (after : After b f b') : b'.scope = b.scope := by
  rw [Builder.scope, after.opened, after.root, Builder.scope]

theorem After.none (b : Builder) : After b .none b :=
  ⟨.none b.graph _, rfl, rfl, rfl, rfl, rfl⟩

theorem After.beside {f g : Forest} {b'' : Builder} (hb : b.Sound) (first : After b f b')
    (second : After b' g b'') : After b (.beside f g) b'' where
  grown := by
    refine .beside ?_ first.grown (first.scope ▸ second.grown)
    rintro q ⟨⟩
    exact hb.isScope.lt
  features := second.features.trans first.features
  root := second.root.trans first.root
  opened := second.opened.trans first.opened
  includes := second.includes.trans first.includes
  isExternal := second.isExternal.trans first.isExternal

theorem Plants.fail (e : SchemaError) (b : Builder) : Plants (.fail e) b none where
  ok := by rintro f ⟨⟩
  fails := fun _ => ⟨e, b, rfl⟩

/-! ### Beginning -/

/-- A begun declaration can be added where the builder is. -/
theorem newborn_begun (hb : b.Sound) {subject : Subject}
    (begun : h.begun? b.features b.isExternal place subject = some d) :
    Graph.Newborn b.graph (d.planted (some b.scope) []) := by
  cases subject with
  | object name =>
      simp only [Header.begun?, Option.ite_none_right_eq_some] at begun
      obtain ⟨_, ⟨⟩⟩ := begun
      refine Builder.newborn_fill _ place (some name) none hb ?_ rfl fun _ => .inl rfl
      cases h.base with
      | none => exact .inl rfl
      | some text => exact .inr ⟨text, rfl⟩
  | extension name =>
      simp only [Header.begun?, Option.ite_none_right_eq_some] at begun
      obtain ⟨_, ⟨⟩⟩ := begun
      exact Builder.newborn_fill .standard place none (some ⟨name, [], []⟩) hb
        (show Production.AllowsRaw .extension .none from rfl) rfl fun h => absurd rfl h
  | config name =>
      obtain ⟨type, _, rfl⟩ := Option.map_eq_some_iff.mp begun
      exact Builder.newborn_fill .standard place (some name) none hb
        (show Production.AllowsRaw .config (.unresolved type) from ⟨type, rfl⟩) rfl
        fun h => absurd rfl h
  | declaration name =>
      simp only [Header.begun?, Option.ite_none_right_eq_some] at begun
      obtain ⟨type, _, rfl⟩ := Option.map_eq_some_iff.mp begun.2
      exact Builder.newborn_fill _ place (some name) none hb
        (show Production.AllowsRaw .leaf (.unresolved type) from ⟨type, rfl⟩) rfl
        fun _ => .inr rfl

theorem perform_object (hb : b.Sound)
    (begun : h.begun? b.features b.isExternal place (.object name) = some d) :
    (Builder.Call.beginObject name (h.kind.getD .standard) h.base place).perform b
      = .ok (some b.graph.size)
        { b.declared (d.planted (some b.scope) []) with opened := b.graph.size :: b.opened } := by
  have newborn := newborn_begun hb begun
  simp only [Header.begun?, Option.ite_none_right_eq_some, Bool.and_eq_true] at begun
  obtain ⟨⟨objects, role⟩, ⟨⟩⟩ := begun
  refine (Steps.bind_ok (a := b.graph.size) ?_).trans rfl
  refine (Steps.bind_ok (Steps.get_run b)).trans ?_
  refine (Steps.bind_ok (Builder.guardConstruct_ok objects _ place)).trans ?_
  refine (Steps.bind_ok (Builder.guardRole_ok role place)).trans ?_
  exact Steps.bind_ok (Builder.create_ok hb newborn)

theorem object_refused (hb : h.begun? b.features b.isExternal place (.object name) = none) :
    ∃ e, (Builder.Call.beginObject name (h.kind.getD .standard) h.base place).perform b
      = .error e b := by
  simp only [Header.begun?, ite_eq_right_iff, reduceCtorEq, imp_false, Bool.and_eq_true, not_and] at hb
  cases objects : b.features.objects with
  | false =>
      have refused := Builder.guardConstruct_error (b := b) objects .objectDeclarations place
      exact ⟨_, Steps.bind_error ((Steps.bind_ok (Steps.get_run b)).trans
        (Steps.bind_error refused))⟩
  | true =>
      obtain ⟨e, refused⟩ := Builder.guardRole_error (Bool.eq_false_iff.mpr (hb objects)) place
      refine ⟨e, Steps.bind_error ?_⟩
      refine (Steps.bind_ok (Steps.get_run b)).trans ?_
      refine (Steps.bind_ok (Builder.guardConstruct_ok objects _ place)).trans ?_
      exact Steps.bind_error refused

theorem perform_extension (hb : b.Sound)
    (begun : h.begun? b.features b.isExternal place (.extension name) = some d) :
    (Builder.Call.extension name place).perform b
      = .ok (some b.graph.size) (b.declared (d.planted (some b.scope) [])) := by
  have newborn := newborn_begun hb begun
  simp only [Header.begun?, Option.ite_none_right_eq_some] at begun
  obtain ⟨allowed, ⟨⟩⟩ := begun
  refine (Steps.bind_ok (a := b.graph.size) ?_).trans rfl
  refine (Steps.bind_ok (Steps.get_run b)).trans ?_
  refine (Steps.bind_ok (Builder.guardConstruct_ok allowed _ place)).trans ?_
  exact Builder.create_ok hb newborn

theorem extension_refused (hb : h.begun? b.features b.isExternal place (.extension name) = none) :
    ∃ e, (Builder.Call.extension name place).perform b = .error e b := by
  simp only [Header.begun?, ite_eq_right_iff, reduceCtorEq, imp_false] at hb
  have refused := Builder.guardConstruct_error (b := b) (Bool.eq_false_iff.mpr hb)
    (.extension name) place
  exact ⟨_, Steps.bind_error ((Steps.bind_ok (Steps.get_run b)).trans (Steps.bind_error refused))⟩

theorem perform_config (hb : b.Sound) {type : String} (typed : h.type = some type)
    (begun : h.begun? b.features b.isExternal place (.config name) = some d) :
    (Builder.Call.config name type place).perform b
      = .ok (some b.graph.size) (b.declared (d.planted (some b.scope) [])) := by
  have newborn := newborn_begun hb begun
  simp only [Header.begun?, typed, Option.map_some] at begun
  obtain ⟨⟩ := begun
  exact (Steps.bind_ok (Builder.create_ok hb newborn)).trans rfl

theorem perform_declaration (hb : b.Sound) {type : String} (typed : h.type = some type)
    (begun : h.begun? b.features b.isExternal place (.declaration name) = some d) :
    (Builder.Call.declaration name (h.kind.getD .standard) type place).perform b
      = .ok (some b.graph.size) (b.declared (d.planted (some b.scope) [])) := by
  have newborn := newborn_begun hb begun
  simp only [Header.begun?, typed, Option.map_some, Option.ite_none_right_eq_some] at begun
  obtain ⟨role, ⟨⟩⟩ := begun
  refine (Steps.bind_ok (a := b.graph.size) ?_).trans rfl
  refine (Steps.bind_ok (Builder.guardRole_ok role place)).trans ?_
  exact Builder.create_ok hb newborn

theorem declaration_refused {type : String} (typed : h.type = some type)
    (hb : h.begun? b.features b.isExternal place (.declaration name) = none) :
    ∃ e, (Builder.Call.declaration name (h.kind.getD .standard) type place).perform b
      = .error e b := by
  simp only [Header.begun?, typed, Option.map_some, ite_eq_right_iff, reduceCtorEq, imp_false] at hb
  obtain ⟨e, refused⟩ := Builder.guardRole_error (Bool.eq_false_iff.mpr hb) place
  exact ⟨e, Steps.bind_error (Steps.bind_error refused)⟩

/-! ### Declaring an entry -/

/-- What has no members is begun, and then completed. -/
theorem plants_leaf {c : Builder.Call} {s : Script} {f : Declaration → Option Declaration}
    (hb : b.Sound) (newborn : Graph.Newborn b.graph (d.planted (some b.scope) []))
    (run : c.perform b = .ok (some b.graph.size) (b.declared (d.planted (some b.scope) [])))
    (completes : s.Completes f)
    (blind : ∀ parent children, f (d.planted parent children)
      = (f d).map (·.planted parent children)) :
    Plants ((Script.need c).andThen s) b ((f d).map (.tree · .none)) := by
  have first := Script.need_ok run
  have sound := Builder.sound_declared hb newborn
  have current : (b.declared (d.planted (some b.scope) [])).currentNode
      = d.planted (some b.scope) [] := Graph.node_adopt_self _ _
  constructor
  · intro f hf
    obtain ⟨d', hd, rfl⟩ := Option.map_eq_some_iff.mp hf
    have completed := completes.ok sound.current_lt (d := d'.planted (some b.scope) [])
      (by rw [current, blind, hd]; rfl)
    refine ⟨_, (Script.andThen_ok first).trans completed, ?_, rfl, rfl, rfl, rfl, rfl⟩
    exact Graph.Grown.tree newborn (.none _ _) d'
  · intro hf
    have missing : f d = none := Option.map_eq_none_iff.mp hf
    exact Script.fails_andThen first (completes.fails sound.current_lt
      (by rw [current, blind, missing]; rfl))

/-- An object is begun, then its members are declared inside; it is completed once it has been
ended. -/
theorem plants_object {members : Script} {inside? : Option Forest} (hb : b.Sound)
    (begun : h.begun? b.features b.isExternal place (.object name) = some d)
    (plants : ∀ b₁ : Builder, b₁.Sound → b₁.features = b.features → b₁.isExternal = b.isExternal →
      Plants members b₁ inside?) :
    Plants (Script.sequence
        [.need (.beginObject name (h.kind.getD .standard) h.base place), members,
          .need .endObject, commonScript place h]) b
      (inside?.bind fun inside =>
        (h.completed place (.object name) d).map (.tree · inside)) := by
  have newborn := newborn_begun hb begun
  have first := Script.need_ok (perform_object hb begun)
  have sound₁ := Script.sound_run hb first
  have inner := plants _ sound₁ rfl rfl
  -- once the members are declared, the object is current again and has them as children
  have ended : ∀ {inside : Forest} {b₂ : Builder},
      After { b.declared (d.planted (some b.scope) []) with
        opened := b.graph.size :: b.opened } inside b₂ → b₂.Sound →
      (Script.need .endObject).run b₂
          = .ok () { b₂ with opened := b.opened, current := b.graph.size } ∧
        b.graph.size < b₂.graph.size ∧
        b₂.graph.node b.graph.size
          = d.planted (some b.scope) (inside.tops (b.graph.size + 1)) := by
    intro inside b₂ after sound₂
    have opened : b₂.opened = b.graph.size :: b.opened := after.opened
    refine ⟨Script.need_ok (r := some b.graph.size) ?_, ?_, ?_⟩
    · refine Steps.bind_ok (a := b.graph.size) ?_
      refine (Steps.bind_ok (Steps.get_run b₂)).trans ?_
      simp only [opened]
      rfl
    · exact (sound₂.opened_scope b.graph.size (by rw [opened]; exact List.mem_cons_self)).lt
    · exact Graph.Grown.node_self (d := d.planted (some b.scope) []) rfl after.grown
  have blind := commutes_planted place h (.object name) (some b.scope)
  have completes := completes_commonScript place h
  constructor
  · intro f hf
    obtain ⟨inside, hinside, hf⟩ := Option.bind_eq_some_iff.mp hf
    obtain ⟨d', hd, rfl⟩ := Option.map_eq_some_iff.mp hf
    obtain ⟨b₂, run₂, after⟩ := inner.ok hinside
    obtain ⟨run₃, inside₃, node₃⟩ := ended after (Script.sound_run sound₁ run₂)
    have run₄ := completes.ok (b := { b₂ with opened := b.opened, current := b.graph.size })
      (d := d'.planted (some b.scope) (inside.tops (b.graph.size + 1))) inside₃
      ((congrArg _ node₃).trans ((blind _ d).trans (by rw [hd]; rfl)))
    refine ⟨_, (Script.andThen_ok first).trans ((Script.andThen_ok run₂).trans
      ((Script.andThen_ok run₃).trans (Script.andThen_ok run₄))), ?_, after.features, after.root,
      rfl, after.includes, after.isExternal⟩
    exact Graph.Grown.tree newborn after.grown d'
  · intro hf
    refine Script.fails_andThen first ?_
    cases hinside : inside? with
    | none => exact (inner.fails hinside).andThen
    | some inside =>
        rw [hinside, Option.bind_some, Option.map_eq_none_iff] at hf
        obtain ⟨b₂, run₂, after⟩ := inner.ok hinside
        obtain ⟨run₃, inside₃, node₃⟩ := ended after (Script.sound_run sound₁ run₂)
        refine Script.fails_andThen run₂ (Script.fails_andThen run₃ (Script.Fails.andThen ?_))
        exact completes.fails inside₃
          ((congrArg _ node₃).trans ((blind _ d).trans (by rw [hf]; rfl)))

/-- Only objects have members. -/
theorem members_of_check {hasMembers : Bool} {subject : Subject}
    (checked : h.check hasMembers place = .ok subject) (leaf : ∀ name, subject ≠ .object name) :
    hasMembers = false := by
  cases hasMembers with
  | false => rfl
  | true =>
      have allowed := (Header.check_eq_ok checked).2 "members" (by simp [Header.given])
      cases subject with
      | object name => exact absurd rfl (leaf name)
      | extension name => simp [Subject.fields] at allowed
      | config name => simp [Subject.fields] at allowed
      | declaration name => simp [Subject.fields] at allowed

/-- Any other entry is begun, and then completed. -/
theorem plants_single (hb : b.Sound) {subject : Subject} {c : Builder.Call} {s : Script}
    (run : ∀ {d}, h.begun? b.features b.isExternal place subject = some d →
      c.perform b = .ok (some b.graph.size) (b.declared (d.planted (some b.scope) [])))
    (refused : h.begun? b.features b.isExternal place subject = none →
      ∃ e, c.perform b = .error e b)
    (completes : s.Completes (h.completed place subject)) :
    Plants ((Script.need c).andThen s) b
      (((h.begun? b.features b.isExternal place subject).bind (h.completed place subject)).map
        (.tree · .none)) := by
  cases begun : h.begun? b.features b.isExternal place subject with
  | none =>
      obtain ⟨e, error⟩ := refused begun
      exact ⟨by rintro f ⟨⟩, fun _ => (Script.need_fails error).andThen⟩
  | some d =>
      exact plants_leaf hb (newborn_begun hb begun) (run begun) completes
        fun parent children => commutes_planted place h subject parent children d

/-- The script of an entry plants its declaration over what its members come to. -/
theorem plants_entry {members : Script} {hasMembers : Bool} {inside? : Option Forest}
    (hb : b.Sound) (alone : hasMembers = false → inside? = some .none)
    (plants : ∀ b₁ : Builder, b₁.Sound → b₁.features = b.features → b₁.isExternal = b.isExternal →
      Plants members b₁ inside?) :
    Plants (entryScript place h hasMembers members) b
      (inside?.bind fun inside =>
        (h.declaration? b.features b.isExternal place hasMembers).map (.tree · inside)) := by
  have nothing : ∀ inside? : Option Forest,
      (inside?.bind fun inside => (none : Option Declaration).map (Forest.tree · inside)) = none := by
    intro inside?
    cases inside? <;> rfl
  rw [entryScript, Header.declaration?]
  cases checked : h.check hasMembers place with
  | error e =>
      show Plants (.fail e) b (inside?.bind fun inside =>
        (none : Option Declaration).map (Forest.tree · inside))
      rw [nothing]
      exact .fail e b
  | ok subject =>
      simp only [Script.ofExcept, Except.toOption, Option.bind_some]
      have single : (∀ name, subject ≠ .object name) → inside? = some .none :=
        fun leaf => alone (members_of_check checked leaf)
      cases subject with
      | object name =>
          cases begun : h.begun? b.features b.isExternal place (.object name) with
          | none =>
              obtain ⟨e, refused⟩ := object_refused begun
              rw [Option.bind_none, nothing]
              exact ⟨by rintro f ⟨⟩, fun _ => (Script.need_fails refused).andThen⟩
          | some d => exact plants_object hb begun plants
      | extension name =>
          rw [single (by simp), Option.bind_some]
          exact plants_single hb (perform_extension hb) extension_refused
            (completes_extension place h name)
      | config name =>
          rw [single (by simp), Option.bind_some]
          simp only [typedScript, Header.requiredType]
          cases typed : h.type with
          | none =>
              have : h.begun? b.features b.isExternal place (.config name) = none := by
                simp [Header.begun?, typed]
              rw [this]
              exact .fail _ b
          | some type =>
              refine plants_single hb (perform_config hb typed) ?_ (completes_commonScript place h)
              intro begun
              simp [Header.begun?, typed] at begun
      | declaration name =>
          rw [single (by simp), Option.bind_some]
          simp only [typedScript, Header.requiredType]
          cases typed : h.type with
          | none =>
              have : h.begun? b.features b.isExternal place (.declaration name) = none := by
                simp [Header.begun?, typed]
              rw [this]
              exact .fail _ b
          | some type =>
              exact plants_single hb (perform_declaration hb typed) (declaration_refused typed)
                (completes_commonScript place h)

end Run

mutual

theorem Entry.plants_script (place : Nat → Location) : ∀ (e : Entry) {b : Builder}, b.Sound →
    Plants (e.script place) b (e.tree? b.features b.isExternal place)
  | .unreadable _, b, _ => .fail .invalidJson b
  | .mk start h members, b, hb => by
      rw [Entry.script, Entry.tree?]
      refine plants_entry hb ?_ fun b₁ sound features isExternal =>
        features ▸ isExternal ▸ Entry.plants_scripts place members sound
      intro alone
      cases members with
      | nil => rfl
      | cons e rest => cases alone

theorem Entry.plants_scripts (place : Nat → Location) : ∀ (es : List Entry) {b : Builder},
    b.Sound → Plants (Entry.scripts place es) b (Entry.forest? b.features b.isExternal place es)
  | [], b, _ => ⟨by rintro f ⟨⟩; exact ⟨b, rfl, .none b⟩, by rintro ⟨⟩⟩
  | e :: rest, b, hb => by
      have first := Entry.plants_script place e hb
      rw [Entry.scripts, Entry.forest?]
      cases hf : e.tree? b.features b.isExternal place with
      | none => exact ⟨by rintro f ⟨⟩, fun _ => (first.fails hf).andThen⟩
      | some f =>
          obtain ⟨b', run, after⟩ := first.ok hf
          have sound := Script.sound_run hb run
          have later := Entry.plants_scripts place rest sound
          rw [after.features, after.isExternal] at later
          constructor
          · intro fs hfs
            obtain ⟨g, hg, rfl⟩ := Option.map_eq_some_iff.mp hfs
            obtain ⟨b'', run', after'⟩ := later.ok hg
            exact ⟨b'', (Script.andThen_ok run).trans run', after.beside hb after'⟩
          · intro hfs
            exact Script.fails_andThen run (later.fails (Option.map_eq_none_iff.mp hfs))

end

/-! ## Where entries stand in their text -/

mutual

/-- Where an entry stands shows in the places of what it declares only. -/
theorem Entry.tree?_unplaced (features : Features) (isExternal : Bool) (place : Nat → Location) :
    ∀ e : Entry, (e.tree? features isExternal place).map Forest.unplaced
      = e.unplaced.tree? features isExternal fun _ => .api
  | .unreadable _ => rfl
  | .mk start h members => by
      have empty : (Entry.unplacedAll members).isEmpty = members.isEmpty := by
        cases members <;> rfl
      rw [Entry.unplaced, Entry.tree?, Entry.tree?, empty,
        ← Entry.forest?_unplaced features isExternal place members,
        ← h.declaration?_unplaced features isExternal (place start)]
      cases Entry.forest? features isExternal place members with
      | none => rfl
      | some inside =>
          cases h.declaration? features isExternal (place start) (!members.isEmpty) <;> rfl

theorem Entry.forest?_unplaced (features : Features) (isExternal : Bool)
    (place : Nat → Location) :
    ∀ es : List Entry, (Entry.forest? features isExternal place es).map Forest.unplaced
      = Entry.forest? features isExternal (fun _ => .api) (Entry.unplacedAll es)
  | [] => rfl
  | e :: rest => by
      rw [Entry.unplacedAll, Entry.forest?, Entry.forest?,
        ← Entry.tree?_unplaced features isExternal place e,
        ← Entry.forest?_unplaced features isExternal place rest]
      cases e.tree? features isExternal place with
      | none => rfl
      | some f => cases Entry.forest? features isExternal place rest <;> rfl

end

/-! ## Sources that are included -/

/-- One value after another is there if both are, whatever they are. -/
theorem isSome_bind_congr {α β γ : Type} {o o' : Option α} {p p' : Option β} {f f' : α → β → γ}
    (first : o.isSome = o'.isSome) (second : p.isSome = p'.isSome) :
    (o.bind fun a => p.map (f a)).isSome = (o'.bind fun a => p'.map (f' a)).isSome := by
  cases o with
  | none =>
      cases o' with
      | none => rfl
      | some a' => cases first
  | some a =>
      cases o' with
      | none => cases first
      | some a' =>
          rw [Option.bind_some, Option.bind_some, Option.isSome_map, Option.isSome_map]
          exact second

mutual

/-- Entries come to declarations in included sources if they do in the main one. -/
theorem Entry.isSome_tree? (features : Features) (e e' : Bool) (place : Nat → Location) :
    ∀ entry : Entry, (entry.tree? features e place).isSome = (entry.tree? features e' place).isSome
  | .unreadable _ => rfl
  | .mk start h members => by
      rw [Entry.tree?, Entry.tree?]
      exact isSome_bind_congr (Entry.isSome_forest? features e e' place members)
        (h.isSome_declaration? features e e' (place start) (!members.isEmpty))

theorem Entry.isSome_forest? (features : Features) (e e' : Bool) (place : Nat → Location) :
    ∀ es : List Entry, (Entry.forest? features e place es).isSome
      = (Entry.forest? features e' place es).isSome
  | [] => rfl
  | entry :: rest => by
      rw [Entry.forest?, Entry.forest?]
      exact isSome_bind_congr (Entry.isSome_tree? features e e' place entry)
        (Entry.isSome_forest? features e e' place rest)

end

end JsonSource

end TypeSchema
