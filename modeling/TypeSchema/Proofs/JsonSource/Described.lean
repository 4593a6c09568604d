/-
# Described — a declaration says what its entry says

The declaration of an entry is begun with the name, the role and the reference
that the header gives, and what is attached to it afterwards is added behind
what is there (`foldlM_tagged`, `foldlM_keywords`, `foldlM_argued`).  As a new
declaration has no tags, arity or arguments, it ends up with those of its
header and no others (`Header.describes`).

There is one exception: a configuration value has no role of its own.  Its
entry may give one, but this is not looked at.
-/
import TypeSchema.Proofs.JsonSource.Header

namespace TypeSchema

open Declaration (Role Production Reference)

namespace JsonSource

/-! ## What a header says -/

/-- The production that an entry stands for. -/
def Subject.production : Subject → Production
  | .object _ => .object
  | .extension _ => .extension
  | .config _ => .config
  | .declaration _ => .leaf

/-- The name that an entry gives; the use of an extension has none. -/
def Subject.name? : Subject → Option String
  | .object name => some name
  | .extension _ => none
  | .config name => some name
  | .declaration name => some name

/-- What an entry refers to. -/
def Header.referred? (h : Header) : Subject → Option String
  | .object _ => h.base
  | .extension _ => none
  | .config _ => h.type
  | .declaration _ => h.type

/-- The tag that is written so. -/
def writtenTag (place : Location) (tag : String × Json) : Option Metadata.Item :=
  (tagValue tag.1 tag.2 place).toOption.map (⟨tag.1, ·, place⟩)

/-- The named argument that is written so. -/
def writtenKeyword (place : Location) (tag : String × Json) : Option (String × Metadata.Value) :=
  (tagValue tag.1 tag.2 place).toOption.map (tag.1, ·)

/-- The use of an extension that an entry asks for. -/
def Header.invocation? (h : Header) (place : Location) : Subject → Option Declaration.Invocation
  | .extension name =>
    (h.keywords.mapM (writtenKeyword place)).map fun keywords =>
      ⟨name, h.args.map .string, keywords⟩
  | _ => none

/-- The declaration `d` is what the header of an entry at `place` says. -/
structure Header.Describes (h : Header) (place : Location) (subject : Subject) (d : Declaration) :
    Prop where
  declares : h.subject? = some subject
  location : d.location = place
  production : d.production = subject.production
  name : d.name = subject.name?
  reference : d.reference = ((h.referred? subject).map .unresolved).getD .none
  /-- Configuration values are standard, whatever the entry says. -/
  role : d.role = if subject.production = .config then .standard else h.kind.getD .standard
  arity : d.arity.map some = h.arity.map fun text => (Arity.ofChars text.toList).toOption
  metadata : h.metadata.mapM (writtenTag place) = some d.metadata.items
  invocation : d.invocation = h.invocation? place subject
  arguments : subject.production = .extension ↔ d.invocation.isSome
  unused : subject.production ≠ .extension → h.args = [] ∧ h.keywords = []

/-! ## Attaching -/

section Attach

variable {place : Location} {d d' : Declaration}

/-- A tag that is attached comes behind those that are there. -/
theorem tagged_eq_some {tag : String × Json} (hp : d.production ≠ .extension)
    (h : tagged place d tag = some d') :
    ∃ item, writtenTag place tag = some item ∧ d' = { d with metadata := d'.metadata } ∧
      d'.metadata.items = d.metadata.items ++ [item] := by
  obtain ⟨value, hvalue, h⟩ := Option.bind_eq_some_iff.mp h
  let item : Metadata.Item := ⟨tag.1, value, place⟩
  refine ⟨item, by rw [writtenTag, hvalue]; rfl, ?_⟩
  rw [Declaration.giveTag, if_neg hp, Declaration.toOption_addMetadata] at h
  split at h
  · cases h
  · obtain ⟨m, hm, rfl⟩ := Option.map_eq_some_iff.mp h
    refine ⟨rfl, ?_⟩
    by_cases fresh : d.metadata.find? item.tag = none
    · obtain ⟨m', hm', items⟩ := Metadata.exists_insert fresh
      rw [hm'] at hm
      cases hm
      exact items
    · obtain ⟨e, he⟩ := Metadata.exists_insert_error fresh
      rw [he] at hm
      cases hm

theorem foldlM_tagged {tags : List (String × Json)} (hp : d.production ≠ .extension)
    (h : tags.foldlM (tagged place) d = some d') :
    ∃ items, tags.mapM (writtenTag place) = some items ∧ d' = { d with metadata := d'.metadata } ∧
      d'.metadata.items = d.metadata.items ++ items := by
  induction tags generalizing d with
  | nil =>
      cases h
      exact ⟨[], rfl, rfl, (List.append_nil _).symm⟩
  | cons tag tags ih =>
      obtain ⟨d₁, first, rest⟩ := Option.bind_eq_some_iff.mp h
      obtain ⟨item, written, same, items⟩ := tagged_eq_some hp first
      have hp₁ : d₁.production ≠ .extension := by rw [same]; exact hp
      obtain ⟨more, written', same', items'⟩ := ih hp₁ rest
      refine ⟨item :: more, ?_, ?_, ?_⟩
      · rw [List.mapM_cons, written, written']
        rfl
      · rw [same', same]
      · rw [items', items, List.append_assoc]
        rfl

/-- To the use of an extension tags are named arguments. -/
theorem foldlM_keywords {call : Declaration.Invocation} {tags : List (String × Json)}
    (hp : d.production = .extension) (hc : d.invocation = some call)
    (h : tags.foldlM (tagged place) d = some d') :
    ∃ keywords, tags.mapM (writtenKeyword place) = some keywords ∧
      d' = { d with
        invocation := some { call with keywords := call.keywords ++ keywords } } := by
  induction tags generalizing d call with
  | nil =>
      cases h
      refine ⟨[], rfl, ?_⟩
      rw [List.append_nil, ← hc]
  | cons tag tags ih =>
      obtain ⟨d₁, first, rest⟩ := Option.bind_eq_some_iff.mp h
      obtain ⟨value, hvalue, first⟩ := Option.bind_eq_some_iff.mp first
      rw [Declaration.giveTag, if_pos hp, Declaration.addKeyword,
        Declaration.toOption_changeArguments, hc] at first
      split at first
      · cases first
      · cases first
        let d₁ : Declaration := { d with
          invocation := some { call with keywords := call.keywords ++ [(tag.1, value)] } }
        have hp₁ : d₁.production = .extension := hp
        obtain ⟨more, written, rfl⟩ := ih hp₁ rfl rest
        refine ⟨(tag.1, value) :: more, ?_, ?_⟩
        · rw [List.mapM_cons, written, writtenKeyword, hvalue]
          rfl
        · rw [List.append_assoc]
          rfl

theorem foldlM_argued {call : Declaration.Invocation} {args : List String}
    (hc : d.invocation = some call) (h : args.foldlM argued d = some d') :
    d' = { d with
      invocation := some { call with positional := call.positional ++ args.map .string } } := by
  induction args generalizing d call with
  | nil =>
      cases h
      rw [List.map_nil, List.append_nil, ← hc]
  | cons arg args ih =>
      obtain ⟨d₁, first, rest⟩ := Option.bind_eq_some_iff.mp h
      rw [argued, Declaration.addPositional, Declaration.toOption_changeArguments, hc] at first
      split at first
      · cases first
      · cases first
        rw [ih rfl rest, List.append_assoc]
        rfl

/-- The arity of an entry is the one that its text means. -/
theorem Header.withArity_eq_some {h : Header} (hd : d.arity = none)
    (run : h.withArity place d = some d') :
    d' = { d with arity := d'.arity } ∧
      d'.arity.map some = h.arity.map fun text => (Arity.ofChars text.toList).toOption := by
  unfold withArity at run
  cases ha : h.arity with
  | none =>
      rw [ha] at run
      cases run
      exact ⟨rfl, by rw [hd]; rfl⟩
  | some text =>
      rw [ha] at run
      simp only [Declaration.toOption_giveArity] at run
      obtain ⟨a, read, run⟩ := Option.bind_eq_some_iff.mp run
      split at run
      · cases run
      · cases run
        exact ⟨rfl, by rw [Option.map_some, Option.map_some, read]⟩

end Attach

/-! ## The declaration of a header -/

section Header

variable {h : Header} {place : Location} {hasMembers : Bool} {subject : Subject} {d : Declaration}

/-- Only uses of extensions have arguments. -/
theorem Header.args_of_check (checked : h.check hasMembers place = .ok subject)
    (hp : subject.production ≠ .extension) : h.args = [] ∧ h.keywords = [] := by
  have goesWith := (check_eq_ok checked).2
  have foreign : "args" ∉ subject.fields ∧ "keywords" ∉ subject.fields := by
    cases subject <;> simp_all [Subject.production, Subject.fields]
  constructor
  · by_contra given
    exact foreign.1 (goesWith "args" (by simp [given, Header.given]))
  · by_contra given
    exact foreign.2 (goesWith "keywords" (by simp [given, Header.given]))

/-- Uses of extensions have nothing else. -/
theorem Header.bare_of_check {name : String}
    (checked : h.check hasMembers place = .ok (.extension name)) :
    h.kind = none ∧ h.arity = none ∧ h.metadata = [] := by
  have goesWith := (check_eq_ok checked).2
  have foreign : ∀ field ∈ ["kind", "arity", "metadata"],
      field ∉ h.given hasMembers := by
    intro field hf given
    have := goesWith field given
    simp only [Subject.fields, List.mem_cons, List.not_mem_nil, or_false] at hf this
    rcases this with rfl | rfl <;> simp at hf
  refine ⟨?_, ?_, ?_⟩
  · cases given : h.kind with
    | none => rfl
    | some _ => exact absurd (by simp [given, Header.given]) (foreign "kind" (by simp))
  · cases given : h.arity with
    | none => rfl
    | some _ => exact absurd (by simp [given, Header.given]) (foreign "arity" (by simp))
  · cases given : h.metadata with
    | nil => rfl
    | cons _ _ => exact absurd (by simp [given, Header.given]) (foreign "metadata" (by simp))

/-- A declaration is begun with what goes into it whole. -/
structure Begun (h : Header) (place : Location) (subject : Subject) (d : Declaration) : Prop where
  location : d.location = place
  production : d.production = subject.production
  name : d.name = subject.name?
  reference : d.reference = ((h.referred? subject).map .unresolved).getD .none
  role : d.role = if subject.production = .config then .standard else h.kind.getD .standard
  arity : d.arity = none
  metadata : d.metadata = .empty

theorem Header.begun?_eq_some {features : Features} {isExternal : Bool}
    (checked : h.check hasMembers place = .ok subject)
    (begun : h.begun? features isExternal place subject = some d) :
    Begun h place subject d ∧ (subject.production ≠ .extension → d.invocation = none) ∧
      ∀ name, subject = .extension name → d.invocation = some ⟨name, [], []⟩ := by
  cases subject with
  | object name =>
      simp only [begun?, Option.ite_none_right_eq_some] at begun
      obtain ⟨_, ⟨⟩⟩ := begun
      exact ⟨⟨rfl, rfl, rfl, rfl, rfl, rfl, rfl⟩, fun _ => rfl, fun _ h => by cases h⟩
  | extension name =>
      simp only [begun?, Option.ite_none_right_eq_some] at begun
      obtain ⟨_, ⟨⟩⟩ := begun
      refine ⟨⟨rfl, rfl, rfl, rfl, ?_, rfl, rfl⟩, fun hp => absurd rfl hp, by rintro _ ⟨⟩; rfl⟩
      rw [(bare_of_check checked).1]
      rfl
  | config name =>
      obtain ⟨type, htype, rfl⟩ := Option.map_eq_some_iff.mp begun
      refine ⟨⟨rfl, rfl, rfl, ?_, rfl, rfl, rfl⟩, fun _ => rfl, fun _ h => by cases h⟩
      rw [referred?, htype]
      rfl
  | declaration name =>
      simp only [begun?, Option.ite_none_right_eq_some] at begun
      obtain ⟨_, begun⟩ := begun
      obtain ⟨type, htype, rfl⟩ := Option.map_eq_some_iff.mp begun
      refine ⟨⟨rfl, rfl, rfl, ?_, rfl, rfl, rfl⟩, fun _ => rfl, fun _ h => by cases h⟩
      rw [referred?, htype]
      rfl

/-- What is completed with an arity and tags has those of the header. -/
theorem Begun.describes {d' : Declaration} (begun : Begun h place subject d)
    (checked : h.check hasMembers place = .ok subject) (hp : subject.production ≠ .extension)
    (plain : d.invocation = none)
    (run : (h.withArity place d).bind (h.metadata.foldlM (tagged place) ·) = some d') :
    h.Describes place subject d' := by
  obtain ⟨d₁, first, rest⟩ := Option.bind_eq_some_iff.mp run
  obtain ⟨same, arity⟩ := Header.withArity_eq_some begun.arity first
  have hp₁ : d₁.production ≠ .extension := by
    rw [same]
    exact fun h => hp (begun.production ▸ h)
  obtain ⟨items, written, same', tags⟩ := foldlM_tagged hp₁ rest
  have none : h.invocation? place subject = none := by
    cases subject with
    | extension name => exact absurd rfl hp
    | _ => rfl
  have empty : d₁.metadata = .empty := by rw [same]; exact begun.metadata
  have invocation : d'.invocation = Option.none := by rw [same', same]; exact plain
  constructor
  · exact (Header.check_eq_ok checked).1
  · rw [same', same]; exact begun.location
  · rw [same', same]; exact begun.production
  · rw [same', same]; exact begun.name
  · rw [same', same]; exact begun.reference
  · rw [same', same]; exact begun.role
  · rw [same']; exact arity
  · rw [written, tags, empty]; rfl
  · rw [invocation, none]
  · rw [invocation]; simp [hp]
  · exact fun _ => Header.args_of_check checked hp

/-- The declaration of a header is what the header says. -/
theorem Header.describes {features : Features} {isExternal : Bool}
    (found : h.declaration? features isExternal place hasMembers = some d) :
    ∃ subject, h.Describes place subject d := by
  obtain ⟨subject, checked, found⟩ := Option.bind_eq_some_iff.mp found
  obtain ⟨d₀, hbegun, run⟩ := Option.bind_eq_some_iff.mp found
  have checked : h.check hasMembers place = .ok subject := by
    cases hc : h.check hasMembers place with
    | error e => rw [hc] at checked; cases checked
    | ok s => rw [hc] at checked; cases checked; rfl
  obtain ⟨begun, plain, extension⟩ := begun?_eq_some checked hbegun
  refine ⟨subject, ?_⟩
  cases subject with
  | object name => exact begun.describes checked (by rintro ⟨⟩) (plain (by rintro ⟨⟩)) run
  | config name => exact begun.describes checked (by rintro ⟨⟩) (plain (by rintro ⟨⟩)) run
  | declaration name => exact begun.describes checked (by rintro ⟨⟩) (plain (by rintro ⟨⟩)) run
  | extension name =>
      obtain ⟨d₁, args, keywords⟩ := Option.bind_eq_some_iff.mp run
      have call := foldlM_argued (extension name rfl) args
      have hp : d₁.production = .extension := by rw [call]; exact begun.production
      obtain ⟨pairs, written, rfl⟩ := foldlM_keywords hp (by rw [call]) keywords
      obtain ⟨kind, arity, metadata⟩ := bare_of_check checked
      rw [call]
      refine ⟨(check_eq_ok checked).1, begun.location, begun.production, begun.name,
        begun.reference, begun.role, ?_, ?_, ?_, ?_, fun hp => absurd rfl hp⟩
      · rw [arity, begun.arity]
        rfl
      · rw [metadata, begun.metadata]
        rfl
      · rw [invocation?, written]
        rfl
      · exact iff_of_true rfl rfl

end Header

end JsonSource

end TypeSchema
