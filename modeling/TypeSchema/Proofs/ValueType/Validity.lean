/-
# Validity — the types that are given out

Types are given out from descriptors and for declarations.  Either way they are
put together from smaller ones: the parts of a descriptor; the members that a
class inherits, is given, or takes over; the base under an arity or under
further tags.  Nothing but constructed types goes in, so nothing else comes out
(`made_toType`, `made_typeOf`), and the constraints of every kind in it agree.
-/
import TypeSchema.Document.Discovery
import TypeSchema.Proofs.Descriptor.Parts
import TypeSchema.Proofs.ValueType.Constraints
import TypeSchema.Proofs.ValueType.Tagged

namespace TypeSchema

open Declaration (Id)

/-! ## Types of descriptors -/

namespace Descriptor

theorem isCompiled_patternOf {source : Option String} {found : Option Pattern}
    (h : patternOf source = .ok found) : ∀ p, found = some p → p.IsCompiled := by
  cases source with
  | none =>
      cases h
      rintro _ ⟨⟩
  | some source =>
      unfold patternOf at h
      cases hp : Pattern.ofSource source with
      | none =>
          simp only [hp] at h
          cases h
      | some p =>
          simp only [hp] at h
          cases h
          rintro _ ⟨⟩
          exact Pattern.isCompiled_ofSource hp

theorem isCompiled_kindOf {s : Shape} {k : Kind} (h : kindOf s = .ok k) : k.IsCompiled := by
  cases s with
  | string expression minLength maxLength =>
      rw [kindOf] at h
      obtain ⟨p, hp, h⟩ := Steps.except_bind_eq_ok.mp h
      cases h
      exact isCompiled_patternOf hp
  | object _ _ | dict _ _ | anyOf _ =>
      rw [kindOf] at h
      obtain ⟨_, -, h⟩ := Steps.except_bind_eq_ok.mp h
      cases h
      trivial
  | _ =>
      cases h
      trivial

theorem made_toType (d : Descriptor) : ∀ {t : ValueType}, d.toType = .ok t → t.Made := by
  induction d using inductionOnParts with
  | step arity shape ih =>
      intro t h
      obtain ⟨k, hk, agree, rfl⟩ := toType_eq_ok h
      have parts : ∀ s ∈ k.parts, s.Made := by
        intro s hs
        obtain ⟨d, hd, ht⟩ := exists_part_of_kindOf hk s hs
        exact ih d hd ht
      have single : ValueType.ofKind k = .ok (.mk k .single none) :=
        ValueType.ofKind_eq_ok.mpr ⟨agree, rfl⟩
      exact .withArity _ (.ofKind (isCompiled_kindOf hk) parts single)

end Descriptor

/-! ## Types from tags -/

namespace Kind

/-- A kind without parts, whose pattern belongs to its source. -/
structure IsFlat (k : Kind) : Prop where
  compiled : k.IsCompiled
  parts : k.parts = []

theorem isFlat_ofFundamental (base : Fundamental) : (ofFundamental base).IsFlat := by
  cases base with
  | string => exact ⟨by rintro _ ⟨⟩, rfl⟩
  | _ => exact ⟨trivial, rfl⟩

/-- A tag gives a string no pattern but that of the source it holds. -/
theorem isCompiled_tagged {l l' : StringLimits} {tag : String} {v : Metadata.Value}
    (compiled : (Kind.string l).IsCompiled) (h : l.tagged tag v = .ok l') :
    (Kind.string l').IsCompiled := by
  unfold StringLimits.tagged at h
  split at h
  · obtain ⟨_, -, h⟩ := Steps.except_bind_eq_ok.mp h
    cases h
    exact compiled
  · obtain ⟨_, -, h⟩ := Steps.except_bind_eq_ok.mp h
    cases h
    exact compiled
  · rename_i s
    cases hp : Pattern.ofSource s with
    | none =>
        rw [hp] at h
        cases h
    | some p =>
        rw [hp] at h
        cases h
        rintro _ ⟨⟩
        exact Pattern.isCompiled_ofSource hp
  · cases h
    exact compiled

theorem IsFlat.tagged {k k' : Kind} {tag : String} {v : Metadata.Value} (flat : k.IsFlat)
    (h : k.tagged tag v = .ok k') : k'.IsFlat := by
  cases k with
  | int l =>
      obtain ⟨_, -, hk⟩ := Steps.except_bind_eq_ok.mp h
      cases hk
      exact ⟨trivial, rfl⟩
  | string l =>
      obtain ⟨_, hl, hk⟩ := Steps.except_bind_eq_ok.mp h
      cases hk
      exact ⟨isCompiled_tagged flat.compiled hl, rfl⟩
  | directory e =>
      simp only [Kind.tagged] at h
      split at h <;> cases h <;> exact ⟨trivial, rfl⟩
  | _ =>
      cases h
      exact ⟨trivial, flat.parts⟩

theorem IsFlat.taggedBy {base : Fundamental} {k k' : Kind} {item : Metadata.Item} (flat : k.IsFlat)
    (h : k.taggedBy base item = .ok k') : k'.IsFlat :=
  flat.tagged (taggedBy_eq_ok h).2.2

end Kind

theorem ValueType.made_ofMetadata {base : Fundamental} {m : Metadata} {place : Location}
    {t : ValueType} (h : ofMetadata base m place = .ok t) : t.Made := by
  obtain ⟨k, hk, h⟩ := Steps.except_bind_eq_ok.mp h
  have flat : k.IsFlat := Steps.foldlM_keeps (fun _ _ _ _ tagged flat => flat.taggedBy tagged) hk
    (Kind.isFlat_ofFundamental base)
  refine made_of_mapError flat.compiled ?_ h
  rw [flat.parts]
  exact List.forall_mem_nil _

/-! ## Types of declarations -/

namespace Member

/-- The types of all of the members have been made. -/
def Made (ms : List Member) : Prop := ∀ m ∈ ms, m.type.Made

theorem Made.put {name : String} {type : ValueType} {ms : List Member} (ht : type.Made)
    (made : Made ms) : Made (put name type ms) := by
  induction ms with
  | nil => exact List.forall_mem_cons.mpr ⟨ht, List.forall_mem_nil _⟩
  | cons m ms ih =>
      obtain ⟨hm, hms⟩ := List.forall_mem_cons.mp made
      rw [Member.put]
      split
      · exact List.forall_mem_cons.mpr ⟨ht, hms⟩
      · exact List.forall_mem_cons.mpr ⟨hm, ih hms⟩

theorem Made.append {ms : List Member} (made : Made ms) {m : Member} (hm : m.type.Made) :
    Made (ms ++ [m]) :=
  List.forall_mem_append.mpr ⟨made, List.forall_mem_singleton.mpr hm⟩

theorem Made.join {ms more : List Member} (h : Made ms) (h' : Made more) : Made (join ms more) := by
  unfold Member.join
  induction more generalizing ms with
  | nil => exact h
  | cons m more ih =>
      obtain ⟨hm, hmore⟩ := List.forall_mem_cons.mp h'
      rw [List.foldl_cons]
      refine ih ?_ hmore
      split
      · exact h
      · exact h.append hm

/-- Members that have been made make a class. -/
theorem Made.class {ms : List Member} {exact : Bool} {t : ValueType}
    {tell : SchemaError → SchemaError} (made : Made ms)
    (h : (ValueType.ofKind (.object ms exact)).mapError tell = .ok t) : t.Made :=
  ValueType.made_of_mapError (k := .object ms exact) trivial (List.forall_mem_map.mpr made) h

end Member

/-- What a class passes on to others has been made if it has. -/
theorem ValueType.Made.members {t : ValueType} {members : List Member} {exact : Bool}
    (made : t.Made) (h : t.kind.object? = some (members, exact)) : Member.Made members := by
  have inside := made.inside
  rw [Kind.object?_eq_some.mp h] at inside
  exact List.forall_mem_map.mp inside

namespace Graph

variable {g : Graph} {typeOf : Typing} {d : Declaration} {id : Id} {t : ValueType}

/-- Whatever types there are have been made. -/
def Typing.Sound (typeOf : Typing) : Prop := ∀ id t, typeOf id = .ok t → t.Made

theorem made_classOf {members : List Member} (made : Member.Made members)
    (h : classOf d members = .ok t) : t.Made := by
  obtain ⟨type, hof, h⟩ := Steps.except_bind_eq_ok.mp h
  cases h
  exact (made.class hof).withArity _

section Sound

variable (sound : typeOf.Sound)
include sound

theorem made_addMembers {members all : List Member} {children : List Id}
    (made : Member.Made members) (h : g.addMembers typeOf members children = .ok all) :
    Member.Made all := by
  refine Steps.foldlM_keeps (fun child _ done done' round made => ?_) h made
  obtain ⟨type, ht, h⟩ := Steps.except_bind_eq_ok.mp round
  cases h
  exact made.put (sound child type ht)

theorem made_inherited {base : Option ValueType} (h : inherited typeOf d = .ok base) :
    ∀ t, base = some t → t.Made := by
  unfold inherited at h
  split at h
  · rename_i y _
    cases hy : typeOf y with
    | error e =>
        rw [hy] at h
        cases h
    | ok t =>
        rw [hy] at h
        cases h
        rintro _ ⟨⟩
        exact sound y t hy
  · cases h
    rintro _ ⟨⟩

theorem made_compoundType (h : g.compoundType typeOf d = .ok t) : t.Made := by
  obtain ⟨base, hbase, h⟩ := Steps.except_bind_eq_ok.mp h
  obtain ⟨members, hmembers, h⟩ := Steps.except_bind_eq_ok.mp h
  refine made_classOf (made_addMembers sound ?_ hmembers) h
  split
  · rename_i hobject
    obtain ⟨b, rfl, hb⟩ := Option.bind_eq_some_iff.mp hobject
    exact (made_inherited sound hbase b rfl).members hb
  · exact List.forall_mem_nil _

theorem made_simpleType (h : g.simpleType typeOf d = .ok t) : t.Made := by
  obtain ⟨own, hown, h⟩ := Steps.except_bind_eq_ok.mp h
  have own := made_addMembers sound (List.forall_mem_nil _) hown
  obtain ⟨base, hbase, h⟩ := Steps.except_bind_eq_ok.mp h
  have inherits := made_inherited sound hbase
  split at h
  · obtain ⟨value, hvalue, h⟩ := Steps.except_bind_eq_ok.mp h
    exact made_classOf (own.append (ValueType.made_ofMetadata hvalue)) h
  · rename_i b _
    have made := inherits b rfl
    split at h
    · rename_i hobject
      exact made_classOf (own.join (made.members hobject)) h
    · exact made_classOf (own.append (m := .mk _ _) (made.withArity .single)) h
  · cases h

omit sound in
theorem made_retagged {base : ValueType} {tags : Metadata} {place : Location} (made : base.Made)
    (h : retagged base tags place = .ok t) : t.Made := by
  unfold retagged at h
  split at h
  · cases h
    exact made
  · split at h
    · cases h
      exact made
    · rename_i hobject
      obtain ⟨type, hof, rfl⟩ := Steps.map_eq_ok.mp h
      exact ((made.members hobject).class hof).withArity _

theorem made_derivedType (h : g.derivedType typeOf id = .ok t) : t.Made := by
  obtain ⟨r, -, h⟩ := Steps.except_bind_eq_ok.mp h
  simp only at h
  split at h
  · obtain ⟨type, ht, h⟩ := Steps.except_bind_eq_ok.mp h
    cases h
    exact (ValueType.made_ofMetadata ht).withArity _
  · rename_i object _
    obtain ⟨_, -, h⟩ := Steps.except_bind_eq_ok.mp h
    obtain ⟨base, hbase, h⟩ := Steps.except_bind_eq_ok.mp h
    obtain ⟨type, ht, h⟩ := Steps.except_bind_eq_ok.mp h
    cases h
    exact (made_retagged (sound object base hbase) ht).withArity _

/-- One step makes a type of types that have been made. -/
theorem made_typeStep (h : g.typeStep typeOf id = .ok t) : t.Made := by
  unfold typeStep at h
  simp only at h
  split at h
  · exact made_compoundType sound h
  · exact made_simpleType sound h
  · cases h
  · exact made_derivedType sound h
  · cases h

end Sound

/-- The descent makes types of nothing but types that it has made further
down, where less is free. -/
theorem made_typeWithin (g : Graph) :
    ∀ (n : Nat) {free : List Id}, free.length = n → Typing.Sound (g.typeWithin free) := by
  intro n
  -- On how many declarations are free: a step sees types with one less.
  induction n with
  | zero =>
      intro free hlen id t h
      rw [typeWithin, List.length_eq_zero_iff.mp hlen, dif_neg List.not_mem_nil] at h
      cases h
  | succ n ih =>
      intro free hlen id t h
      rw [typeWithin] at h
      split at h
      · rename_i hfree
        refine made_typeStep (ih ?_) h
        rw [List.length_erase_of_mem hfree, hlen, Nat.add_sub_cancel]
      · cases h

theorem made_typeOf (g : Graph) : Typing.Sound g.typeOf := made_typeWithin g _ rfl

end Graph

/-! ## Valid types -/

namespace ValueType

/-- The constraints of the kind agree, and the arity leaves room for a value. -/
structure IsValid (t : ValueType) : Prop where
  agrees : t.kind.Agrees
  ordered : ∀ max, t.arity.max = some max → t.arity.min ≤ max
  room : ∀ max, t.arity.max = some max → 1 ≤ max

theorem IsSound.isValid {t : ValueType} (sound : t.IsSound) : t.IsValid where
  agrees := Kind.checkConstraints_eq_ok.mp sound.1
  ordered := fun max h => (t.arity.ordered max h).1
  room := fun max h => (t.arity.ordered max h).2

theorem Made.isValid_throughout {t : ValueType} (made : t.Made) : t.Throughout IsValid :=
  (made_iff.mp made).mono fun _ sound => sound.isValid

/-- Types that descriptors stand for and types of declarations are valid through
and through. -/
theorem throughout_isValid {t : ValueType} :
    (∀ d : Descriptor, d.toType = .ok t → t.Throughout IsValid) ∧
      ∀ (doc : Document) (id : Id), doc.typeOf id = .ok t → t.Throughout IsValid := by
  constructor
  · intro d h
    exact (d.made_toType h).isValid_throughout
  · intro doc id h
    exact (Graph.made_typeOf doc.graph id t h).isValid_throughout

/-- A class with a choice in it, and one that inherits what its base has. -/
theorem throughout_isValid_nested :
    let port : Descriptor := .mk (some .optional) (.int ⟨some 1, some 65535, some 2⟩)
    let host : Descriptor := .mk none
      (.anyOf [.mk none .uri, .mk (some .oneOrMore) (.string none (some 3) (some 40))])
    let sources : Sources := ⟨fun _ => .ok "", 1⟩
    let frontEnd : FrontEnd := fun _ _ =>
      .sequence [.need (.beginObject "Point" .standard none .api),
        .need (.declaration "x" .attr "int" .api), .need .endObject,
        .need (.beginObject "Pixel" .standard (some "Point") .api),
        .need (.declaration "color" .attr "string" .api), .need .endObject]
    (∃ t, (Descriptor.mk none (.object [.mk "host" host, .mk "port" port] true)).toType = .ok t ∧
      t.Throughout IsValid) ∧
    ∃ doc t, Document.resolve sources frontEnd .lenient ⟨"main"⟩ = .ok doc ∧
      doc.typeOf 3 = .ok t ∧ t.kind.parts.length = 2 ∧ t.Throughout IsValid := by
  intro port host sources frontEnd
  refine ⟨⟨_, rfl, throughout_isValid.1 (.mk none (.object [.mk "host" host, .mk "port" port] true))
    rfl⟩, ?_⟩
  have run : (Document.resolve sources frontEnd .lenient ⟨"main"⟩).toOption.any (fun doc =>
      (doc.typeOf 3).toOption.any (·.kind.parts.length = 2)) = true := by
    decide +kernel
  obtain ⟨doc, resolved, run⟩ := Steps.exists_ok_of_any run
  obtain ⟨t, typed, two⟩ := Steps.exists_ok_of_decide run
  exact ⟨doc, t, resolved, typed, two, throughout_isValid.2 doc 3 typed⟩

end ValueType

end TypeSchema
