/-
# Header — the declaration that a header comes to

A header begins a declaration and attaches to it what the entry says.  Which
declaration that is follows from the header and the features alone
(`Header.declaration?`), and the scripts of an entry do the same to whatever is
current (`completes_commonScript`, `completes_extension`).

Completing a declaration looks at nothing but its name, its production and
what is attached already; so it does not matter whether that is done before
or after the declaration has got its place (`commutes_planted`), not where
the entry stands in its text (`Header.declaration?_unplaced`), and not whether
another source includes that text (`Header.declaration?_marked`).
-/
import TypeSchema.JsonSource
import TypeSchema.Proofs.Graph.Forest
import TypeSchema.Proofs.Script

namespace TypeSchema

open Declaration (Id Role Production Reference)

/-- The declaration as one of a source that is included, or of the main one. -/
def Declaration.marked (isExternal : Bool) (d : Declaration) : Declaration :=
  { d with isExternal := isExternal }

/-! ## Beginning a declaration -/

namespace Builder

variable {b : Builder} {role : Role} {place : Location}

/-- Sources with these features may use the role. -/
def allowsRole (features : Features) : Role → Bool
  | .standard => true
  | .attr => features.attributes
  | .definition => features.definitions

theorem guardConstruct_ok {allowed : Bool} (h : allowed = true) (c : Construct)
    (place : Location) : guardConstruct allowed c place b = .ok () b := by
  subst h
  rfl

theorem guardConstruct_error {allowed : Bool} (h : allowed = false) (c : Construct)
    (place : Location) : guardConstruct allowed c place b = .error (.unsupported c place) b := by
  subst h
  rfl

theorem guardRole_ok (h : allowsRole b.features role = true) (place : Location) :
    guardRole role place b = .ok () b := by
  cases role with
  | standard => rfl
  | attr => exact guardConstruct_ok h _ place
  | definition => exact guardConstruct_ok h _ place

theorem guardRole_error (h : allowsRole b.features role = false) (place : Location) :
    ∃ e, guardRole role place b = .error e b := by
  cases role with
  | standard => cases h
  | attr => exact ⟨_, guardConstruct_error h _ place⟩
  | definition => exact ⟨_, guardConstruct_error h _ place⟩

end Builder

namespace JsonSource

open Builder (allowsRole)

/-- The declaration of an entry before anything is attached to it. -/
def Header.begun? (features : Features) (isExternal : Bool) (place : Location) (h : Header) :
    Subject → Option Declaration
  | .object name =>
    if features.objects && allowsRole features (h.kind.getD .standard) then
      let d := Declaration.fresh (h.kind.getD .standard) .object none place isExternal
      some { d.withReference ((h.base.map .unresolved).getD .none) with name := some name }
    else none
  | .extension name =>
    if features.allowsExtension name then
      some { Declaration.fresh .standard .extension none place isExternal with
        invocation := some ⟨name, [], []⟩ }
    else none
  | .config name =>
    h.type.map fun type =>
      let d := Declaration.fresh .standard .config none place isExternal
      { d.withReference (.unresolved type) with name := some name }
  | .declaration name =>
    if allowsRole features (h.kind.getD .standard) then
      h.type.map fun type =>
        let d := Declaration.fresh (h.kind.getD .standard) .leaf none place isExternal
        { d.withReference (.unresolved type) with name := some name }
    else none

/-! ## Completing a declaration -/

/-- Attach a tag whose value is written as JSON. -/
def tagged (place : Location) (d : Declaration) (tag : String × Json) : Option Declaration :=
  (tagValue tag.1 tag.2 place).toOption.bind fun value =>
    (d.giveTag tag.1 value place).toOption

/-- Add an argument to the use of an extension. -/
def argued (d : Declaration) (arg : String) : Option Declaration :=
  (d.addPositional (.string arg)).toOption

/-- Give the arity of an entry, if it has one. -/
def Header.withArity (place : Location) (h : Header) (d : Declaration) : Option Declaration :=
  match h.arity with
  | some text => (d.giveArity text place).toOption
  | none => some d

/-- Attach to a declaration what its entry says of it. -/
def Header.completed (place : Location) (h : Header) : Subject → Declaration → Option Declaration
  | .extension _, d =>
    (h.args.foldlM argued d).bind (h.keywords.foldlM (tagged place) ·)
  | _, d => (h.withArity place d).bind (h.metadata.foldlM (tagged place) ·)

/-- The declaration of an entry. -/
def Header.declaration? (features : Features) (isExternal : Bool) (place : Location) (h : Header)
    (hasMembers : Bool) : Option Declaration :=
  (h.check hasMembers place).toOption.bind fun subject =>
    (h.begun? features isExternal place subject).bind (h.completed place subject)

theorem completes_tagScript (place : Location) (tags : List (String × Json)) :
    (tagScript place tags).Completes (tags.foldlM (tagged place) ·) :=
  .sequence (f := tagged place) (fun tag => .ofExcept fun value => .metadata tag.1 value place) tags

theorem completes_commonScript (place : Location) (h : Header) :
    (commonScript place h).Completes fun d =>
      (h.withArity place d).bind (h.metadata.foldlM (tagged place) ·) := by
  refine .andThen (f := h.withArity place) ?_ (completes_tagScript place h.metadata)
  unfold Header.withArity
  cases h.arity with
  | none => exact .done
  | some text => exact .arity text place

/-- What follows once the use of an extension is begun. -/
theorem completes_extension (place : Location) (h : Header) (name : String) :
    (Script.sequence [.sequence (h.args.map fun arg => .need (.stringLiteral arg)),
      tagScript place h.keywords]).Completes (h.completed place (.extension name)) := by
  have arguments : (Script.sequence (h.args.map fun arg => .need (.stringLiteral arg))).Completes
      (h.args.foldlM argued ·) :=
    .sequence (f := argued) Script.Completes.stringLiteral h.args
  have all := arguments.andThen ((completes_tagScript place h.keywords).andThen .done)
  simp only [Option.bind_fun_some] at all
  exact all

/-! ### Completing is blind -/

/-- What a value means as a tag does not depend on its place. -/
theorem toOption_tagValue (tag : String) (v : Json) (place place' : Location) :
    (tagValue tag v place).toOption = (tagValue tag v place').toOption := by
  cases v with
  | string s => rfl
  | bool b => rfl
  | null => rfl
  | object fields => rfl
  | number n =>
      cases n with
      | int i => rfl
      | float d => rfl
  | array items =>
      simp only [tagValue]
      generalize (List.mapM _ items : Option (List String)) = strings
      cases strings <;> rfl

/-- It does not matter whether `T` is done before or after completing a declaration. -/
def Commutes (T : Declaration → Declaration) (f f' : Declaration → Option Declaration) : Prop :=
  ∀ d, f' (T d) = (f d).map T

section Commutes

variable {T : Declaration → Declaration} {f f' g g' : Declaration → Option Declaration}

theorem Commutes.bind (hf : Commutes T f f') (hg : Commutes T g g') :
    Commutes T (fun d => (f d).bind g) fun d => (f' d).bind g' := by
  intro d
  show (f' (T d)).bind g' = ((f d).bind g).map T
  rw [hf d]
  cases f d with
  | none => rfl
  | some d => exact hg d

theorem Commutes.foldlM {ι : Type} {s s' : Declaration → ι → Option Declaration}
    (h : ∀ i, Commutes T (s · i) (s' · i)) (is : List ι) :
    Commutes T (is.foldlM s ·) (is.foldlM s' ·) := by
  induction is with
  | nil => exact fun _ => rfl
  | cons i is ih => exact (h i).bind ih

end Commutes

/-- `T` changes nothing that bears on what can be attached: not the key, the production or the
arguments; tags it changes by `M`. -/
structure Overlooks (T : Declaration → Declaration) (M : Metadata → Metadata) : Prop where
  isCommitted : ∀ d, (T d).isCommitted = d.isCommitted
  production : ∀ d, (T d).production = d.production
  invocation : ∀ d, (T d).invocation = d.invocation
  metadata : ∀ d, (T d).metadata = M d.metadata
  setInvocation : ∀ d call, { T d with invocation := some call } = T { d with invocation := some call }
  setArity : ∀ d a, { T d with arity := some a } = T { d with arity := some a }
  setMetadata : ∀ d m, { T d with metadata := M m } = T { d with metadata := m }

namespace Overlooks

variable {T : Declaration → Declaration} {M : Metadata → Metadata} (overlooks : Overlooks T M)
include overlooks

theorem changeArguments (f : Declaration.Invocation → Declaration.Invocation) :
    Commutes T (fun d => (d.changeArguments f).toOption) fun d =>
      (d.changeArguments f).toOption := by
  intro d
  simp only [Declaration.toOption_changeArguments, overlooks.isCommitted, overlooks.invocation]
  cases d.isCommitted with
  | true => rfl
  | false => cases d.invocation with
    | none => rfl
    | some call => exact congrArg some (overlooks.setInvocation d (f call))

theorem giveArity (text : String) (place place' : Location) :
    Commutes T (fun d => (d.giveArity text place).toOption) fun d =>
      (d.giveArity text place').toOption := by
  intro d
  have same : (T d).production = .root ∨ (T d).isCommitted ↔ d.production = .root ∨ d.isCommitted := by
    rw [overlooks.production, overlooks.isCommitted]
  simp only [Declaration.toOption_giveArity]
  cases (Arity.ofChars text.toList).toOption with
  | none => rfl
  | some a =>
      rw [Option.bind_some, Option.bind_some]
      by_cases hd : d.production = .root ∨ d.isCommitted
      · rw [if_pos (same.mpr hd), if_pos hd]
        rfl
      · rw [if_neg (mt same.mp hd), if_neg hd]
        exact congrArg some (overlooks.setArity d a)

theorem giveTag {place place' : Location}
    (insert : ∀ (m : Metadata) (tag : String) (value : Metadata.Value),
      ((M m).insert ⟨tag, value, place'⟩).toOption
        = (m.insert ⟨tag, value, place⟩).toOption.map M)
    (tag : String) (value : Metadata.Value) :
    Commutes T (fun d => (d.giveTag tag value place).toOption) fun d =>
      (d.giveTag tag value place').toOption := by
  intro d
  show ((T d).giveTag tag value place').toOption = (d.giveTag tag value place).toOption.map T
  unfold Declaration.giveTag
  rw [overlooks.production]
  by_cases hp : d.production = .extension
  · rw [if_pos hp, if_pos hp]
    exact overlooks.changeArguments _ d
  · rw [if_neg hp, if_neg hp, Declaration.toOption_addMetadata, Declaration.toOption_addMetadata,
      overlooks.isCommitted, overlooks.metadata, insert]
    cases d.isCommitted with
    | true => rfl
    | false =>
        cases (d.metadata.insert ⟨tag, value, place⟩).toOption with
        | none => rfl
        | some m => exact congrArg some (overlooks.setMetadata d m)

/-- Then `T` can as well be done before an entry completes the declaration. -/
theorem completed {place place' : Location}
    (insert : ∀ (m : Metadata) (tag : String) (value : Metadata.Value),
      ((M m).insert ⟨tag, value, place'⟩).toOption
        = (m.insert ⟨tag, value, place⟩).toOption.map M)
    (h : Header) (subject : Subject) :
    Commutes T (h.completed place subject) (h.completed place' subject) := by
  have tags : ∀ tags : List (String × Json),
      Commutes T (tags.foldlM (tagged place) ·) (tags.foldlM (tagged place') ·) := by
    refine fun tags => .foldlM (fun tag d => ?_) tags
    unfold tagged
    rw [toOption_tagValue tag.1 tag.2 place' place]
    cases (tagValue tag.1 tag.2 place).toOption with
    | none => rfl
    | some value => exact overlooks.giveTag insert tag.1 value d
  have common : Commutes T
      (fun d => (h.withArity place d).bind (h.metadata.foldlM (tagged place) ·))
      fun d => (h.withArity place' d).bind (h.metadata.foldlM (tagged place') ·) := by
    have arity : Commutes T (h.withArity place) (h.withArity place') := by
      unfold Header.withArity
      cases h.arity with
      | none => exact fun _ => rfl
      | some text => exact overlooks.giveArity text place place'
    exact arity.bind (tags h.metadata)
  cases subject with
  | object name => exact common
  | config name => exact common
  | declaration name => exact common
  | extension name =>
      have arguments : Commutes T (h.args.foldlM argued ·) (h.args.foldlM argued ·) :=
        .foldlM (fun _ => overlooks.changeArguments _) h.args
      exact arguments.bind (tags h.keywords)

end Overlooks

/-- The place of a declaration among others has no bearing on what is attached to it. -/
theorem commutes_planted (place : Location) (h : Header) (subject : Subject)
    (parent : Option Id) (children : List Id) :
    Commutes (·.planted parent children) (h.completed place subject)
      (h.completed place subject) := by
  have overlooks : Overlooks (·.planted parent children) id := by
    constructor <;> intros <;> rfl
  exact overlooks.completed (fun _ _ _ => Option.map_id'.symm) h subject

/-- Neither has the place of the entry in its text. -/
theorem commutes_unplaced (place : Location) (h : Header) (subject : Subject) :
    Commutes Declaration.unplaced (h.completed place subject) (h.completed .api subject) := by
  have overlooks : Overlooks Declaration.unplaced Metadata.unplaced := by
    constructor <;> intros <;> rfl
  exact overlooks.completed (fun m tag value => m.insert_unplaced ⟨tag, value, place⟩) h subject

/-! ## Where entries stand in their text -/

theorem Header.begun?_unplaced (features : Features) (isExternal : Bool) (place : Location)
    (h : Header) (subject : Subject) :
    (h.begun? features isExternal place subject).map Declaration.unplaced
      = h.begun? features isExternal .api subject := by
  cases subject with
  | object name =>
      simp only [begun?]
      split <;> rfl
  | extension name =>
      simp only [begun?]
      split <;> rfl
  | config name =>
      simp only [begun?, Option.map_map]
      rfl
  | declaration name =>
      simp only [begun?]
      split
      · rw [Option.map_map]
        rfl
      · rfl

/-- A check that succeeds finds one thing that is declared, and no fields but
those that go with it. -/
theorem Header.check_eq_ok {h : Header} {hasMembers : Bool} {place : Location}
    {subject : Subject} (checked : h.check hasMembers place = .ok subject) :
    h.subject? = some subject ∧ ∀ field ∈ h.given hasMembers, field ∈ subject.fields := by
  unfold check at checked
  cases hs : h.subject? with
  | none => simp [hs] at checked
  | some found =>
      cases hf : (h.given hasMembers).find? (· ∉ found.fields) with
      | some field =>
          simp only [hs, hf] at checked
          cases checked
      | none =>
          simp only [hs, hf, Except.ok.injEq] at checked
          subst checked
          exact ⟨rfl, by simpa using List.find?_eq_none.mp hf⟩

theorem Header.toOption_check (h : Header) (hasMembers : Bool) (place place' : Location) :
    (h.check hasMembers place).toOption = (h.check hasMembers place').toOption := by
  unfold check
  cases h.subject? with
  | none => rfl
  | some subject =>
      cases found : (h.given hasMembers).find? (· ∉ subject.fields) with
      | none => simp only [found]
      | some field =>
          simp only [found]
          rfl

theorem Header.declaration?_unplaced (features : Features) (isExternal : Bool) (place : Location)
    (h : Header) (hasMembers : Bool) :
    (h.declaration? features isExternal place hasMembers).map Declaration.unplaced
      = h.declaration? features isExternal .api hasMembers := by
  unfold declaration?
  rw [h.toOption_check hasMembers place .api]
  cases (h.check hasMembers .api).toOption with
  | none => rfl
  | some subject =>
      rw [Option.bind_some, Option.bind_some, ← h.begun?_unplaced features isExternal place subject]
      cases h.begun? features isExternal place subject with
      | none => rfl
      | some d => exact (commutes_unplaced place h subject d).symm

/-! ## Sources that are included -/

/-- Whether its source is included only shows in a mark of the declaration. -/
theorem Header.declaration?_marked (features : Features) (e e' : Bool) (place : Location)
    (h : Header) (hasMembers : Bool) :
    (h.declaration? features e place hasMembers).map (Declaration.marked e')
      = h.declaration? features e' place hasMembers := by
  have overlooks : Overlooks (Declaration.marked e') id := by
    constructor <;> intros <;> rfl
  have begun : ∀ subject, (h.begun? features e place subject).map (Declaration.marked e')
      = h.begun? features e' place subject := by
    intro subject
    cases subject <;> simp only [begun?]
    case object => split <;> rfl
    case extension => split <;> rfl
    case config => rw [Option.map_map]; rfl
    case declaration =>
      split
      · rw [Option.map_map]
        rfl
      · rfl
  unfold declaration?
  cases (h.check hasMembers place).toOption with
  | none => rfl
  | some subject =>
      have completed : Commutes (Declaration.marked e') (h.completed place subject)
          (h.completed place subject) :=
        overlooks.completed (fun _ _ _ => Option.map_id'.symm) h subject
      rw [Option.bind_some, Option.bind_some, ← begun]
      cases h.begun? features e place subject with
      | none => rfl
      | some d => exact (completed d).symm

/-- So an entry has a declaration in included sources as it has in the main one. -/
theorem Header.isSome_declaration? (features : Features) (e e' : Bool) (place : Location)
    (h : Header) (hasMembers : Bool) :
    (h.declaration? features e place hasMembers).isSome
      = (h.declaration? features e' place hasMembers).isSome := by
  rw [← h.declaration?_marked features e e' place, Option.isSome_map]

end JsonSource

end TypeSchema
