/-
# Inhabitants — types that some value is of

Constraints that agree leave room for a value of every kind but one: a choice
between lists offers nothing where a single value has to be chosen.  So whether
there is a value of a type can be told from the type (`ValueType.offers`): where
there is one, it is put together from those of the parts (`exists_of_offers`),
and from a value that is accepted the same is read off the other way
(`offers_of_validate`).
-/
import TypeSchema.Proofs.Descriptor.Parts
import TypeSchema.Proofs.Fields
import TypeSchema.Proofs.ValueType.Acceptance
import TypeSchema.Proofs.ValueType.Constraints

namespace TypeSchema

/-! ## Values -/

namespace Value

/-- Names ascend, and a uri is one that can be read. -/
def IsProper : Value → Prop
  | .object fields => Fields.Ascending fields
  | .map entries => Fields.Ascending entries
  | .uri u => ∃ cs, Uri.ofChars cs = .ok u
  | _ => True

end Value

/-! ## What a type offers -/

mutual

/-- Some value is of the type; if it has to be `plain`, one that is neither
nothing nor a list. -/
def ValueType.offers (plain : Bool) : ValueType → Bool
  | .mk kind arity _ =>
    if plain then !arity.isCollection && kind.offers true
    else arity.min == 0 || kind.offers (!arity.isCollection)

/-- Some item is of the kind; if it has to be `plain`, one that is neither
nothing nor a list. -/
def Kind.offers (plain : Bool) : Kind → Bool
  | .object members _ => Member.allOffer members
  | .dict members _ => Member.allOffer members
  | .anyOf alternatives => ValueType.anyOffers plain alternatives
  | _ => true

/-- Some value is of the type of each member. -/
def Member.allOffer : List Member → Bool
  | [] => true
  | .mk _ t :: rest => t.offers false && Member.allOffer rest

/-- Some value is of one of the types. -/
def ValueType.anyOffers (plain : Bool) : List ValueType → Bool
  | [] => false
  | t :: rest => t.offers plain || ValueType.anyOffers plain rest

end

theorem Member.allOffer_iff {ms : List Member} :
    allOffer ms = true ↔ ∀ m ∈ ms, m.type.offers false = true := by
  induction ms with
  | nil => simp [allOffer]
  | cons m ms ih =>
      obtain ⟨n, t⟩ := m
      rw [allOffer, Bool.and_eq_true, ih, List.forall_mem_cons]
      rfl

theorem ValueType.anyOffers_iff {plain : Bool} {ts : List ValueType} :
    anyOffers plain ts = true ↔ ∃ t ∈ ts, t.offers plain = true := by
  induction ts with
  | nil => simp [anyOffers]
  | cons t ts ih => rw [anyOffers, Bool.or_eq_true, ih, List.exists_mem_cons_iff]

/-! ## What is accepted is offered -/

section Offered

variable {files : FileTree}

/-- A value is of the type, a plain one if need be. -/
def ValueType.Has (files : FileTree) (plain : Bool) (t : ValueType) (v : Value) : Prop :=
  (plain = true → v.IsPlain) ∧ t.validate files v = .ok ()

theorem Kind.offers_of_accept {k : Kind} {plain : Bool} {v : Value}
    (inside : ∀ t ∈ k.parts, ∀ plain v, t.Has files plain v → t.offers plain = true)
    (hv : plain = true → v.IsPlain) (h : k.accept files v = .ok ()) : k.offers plain = true := by
  have members : ∀ {ms : List Member} {exact : Bool} {fields : List (String × Value)},
      (∀ t ∈ ms.map (·.type), ∀ plain v, t.Has files plain v → t.offers plain = true) →
        Member.Admit files ms exact fields → Member.allOffer ms = true := by
    intro ms exact fields inside admitted
    refine Member.allOffer_iff.mpr fun m hm => ?_
    exact inside m.type (List.mem_map_of_mem hm) false _ ⟨Bool.false_ne_true.elim, admitted.1 m hm⟩
  cases k with
  | object ms exact =>
      obtain ⟨fields, -, admitted⟩ := accept_object_eq_ok.mp h
      rw [offers]
      exact members inside admitted
  | dict ms exact =>
      obtain ⟨entries, -, admitted⟩ := accept_dict_eq_ok.mp h
      rw [offers]
      exact members inside admitted
  | anyOf ts =>
      obtain ⟨t, ht, hvalid⟩ := accept_anyOf_eq_ok.mp h
      rw [offers, ValueType.anyOffers_iff]
      exact ⟨t, ht, inside t ht plain v ⟨hv, hvalid⟩⟩
  | _ => simp [offers]

theorem ValueType.offers_of_validate {t : ValueType} (free : t.Throughout (·.hook = none)) :
    ∀ plain v, t.Has files plain v → t.offers plain = true := by
  induction free with
  | @intro t here _ ih =>
      obtain ⟨k, a, hook⟩ := t
      obtain rfl : hook = none := here
      rintro plain v ⟨hv, h⟩
      rw [offers]
      by_cases there : v = .null
      · subst there
        have least := validate_null.mp h
        cases plain with
        | false => simp [least]
        | true => exact absurd rfl (hv rfl).1
      cases collection : a.isCollection with
      | true =>
          obtain ⟨items, rfl, count, each⟩ := (validate_collection collection there).mp h
          cases plain with
          | true => cases (hv rfl).2
          | false =>
              obtain ⟨least, -⟩ := Arity.accepts_iff.mp count
              cases items with
              | nil => simp [← UInt32.toNat_inj, Nat.le_zero.mp least]
              | cons w rest =>
                  have item : k.offers false = true :=
                    k.offers_of_accept ih nofun (each w List.mem_cons_self)
                  simp [item]
      | false =>
          obtain ⟨unlisted, accepted⟩ := (validate_single collection there).mp h
          have item : k.offers true = true :=
            k.offers_of_accept ih (fun _ => ⟨there, unlisted⟩) accepted
          cases plain <;> simp [item]

end Offered

/-! ## Samples of single kinds -/

/-- Bounds are finite, strings have no pattern, and nothing has to be there for
paths to lead to. -/
def Kind.IsFree : Kind → Prop
  | .number l => ∀ v, l.min = some v ∨ l.max = some v → v.isFinite = true
  | .string l => l.expression = none
  | .filename l => l.ensureExists = false
  | .directory e => e = false
  | _ => True

/-- A bound, or zero if there is none. -/
def IntLimits.sample (l : IntLimits) : Int64 := l.min.getD (l.max.getD 0)

/-- A bound, or zero if there is none. -/
def NumberLimits.sample (l : NumberLimits) : Double := l.min.getD (l.max.getD .zero)

/-- A string of the least length. -/
def StringLimits.sample (l : StringLimits) : String :=
  String.ofList (List.replicate l.minLength.toNat 'a')

theorem IntLimits.fits_sample {l : IntLimits} (agree : l.Agree) {b : UInt8}
    (hb : l.bytes = some b) : Fits l.isUnsigned b.toNat l.sample := by
  unfold sample
  cases hmin : l.min with
  | some lo => exact agree.within b hb lo (.inl hmin)
  | none =>
      cases hmax : l.max with
      | some hi => exact agree.within b hb hi (.inr hmax)
      | none =>
          have room : (0 : Int) < 2 ^ (8 * b.toNat - 1) := Int.pow_pos (by decide)
          simp [Fits, isUnsigned, hmin, room, room.le]

theorem IntLimits.accept_sample {l : IntLimits} (agree : l.Agree) : l.accept l.sample = .ok () := by
  refine IntLimits.accept_eq_ok.mpr ⟨?_, ?_, ?_⟩
  · intro lo hlo
    simp [sample, hlo]
  · intro hi hhi
    cases hmin : l.min with
    | none => simp [sample, hmin, hhi]
    | some lo => simpa [sample, hmin] using agree.ordered lo hi hmin hhi
  · intro lo hi hw
    cases hb : l.bytes with
    | none =>
        rw [widthBounds, hb] at hw
        cases hw
    | some b =>
        rw [widthBounds_of_bytes hb, if_pos (agree.width b hb)] at hw
        have within := (fits_iff_widthRange (agree.width b hb)).mp (fits_sample agree hb)
        rw [Option.some.inj hw] at within
        exact within

theorem Double.not_lt_self (d : Double) : d.lt d = false := by
  simp [Double.lt]

theorem NumberLimits.accept_sample {l : NumberLimits} (agree : l.Agree)
    (finite : ∀ v, l.min = some v ∨ l.max = some v → v.isFinite = true) :
    l.accept l.sample = .ok () := by
  rw [NumberLimits.accept_eq_ok]
  cases hmin : l.min with
  | some lo =>
      refine ⟨by simpa [sample, hmin] using finite lo (.inl hmin), ?_, fun hi hhi => ?_⟩
      · rintro _ ⟨⟩
        simp [sample, hmin, Double.not_lt_self]
      · have straight := agree.ordered lo hi hmin hhi
        rw [Double.le_iff_not_lt (agree.number lo (.inl hmin))
          (agree.number hi (.inr hhi))] at straight
        simpa [sample, hmin] using straight
  | none =>
      cases hmax : l.max with
      | some hi =>
          refine ⟨by simpa [sample, hmin, hmax] using finite hi (.inr hmax), by rintro _ ⟨⟩, ?_⟩
          rintro _ ⟨⟩
          simp [sample, hmin, hmax, Double.not_lt_self]
      | none =>
          refine ⟨?_, by rintro _ ⟨⟩, by rintro _ ⟨⟩⟩
          simp only [sample, hmin, hmax, Option.getD_none]
          decide

theorem StringLimits.accept_sample {l : StringLimits} (agree : l.Agree)
    (free : l.expression = none) : l.accept l.sample = .ok () := by
  have length : l.sample.length = l.minLength.toNat := by simp [sample]
  rw [StringLimits.accept_eq_ok free, length]
  exact ⟨Nat.le_refl _, fun max hmax => agree.ordered max hmax⟩

/-- A uri of nothing but a scheme. -/
def Uri.sample : Uri := ⟨['a'], none, [], none, none⟩

/-- A value of a kind that has neither values to choose from nor parts. -/
def Kind.sample? : Kind → Option Value
  | .bool => some (.bool true)
  | .int l => some (.int l.sample)
  | .number l => some (.float l.sample)
  | .string l => some (.string l.sample)
  | .date => some (.date ⟨2000, 1, 1, by decide⟩)
  | .time => some (.time ⟨0, 0, 0, 0, by decide⟩)
  | .dateTime => some (.dateTime ⟨⟨2000, 1, 1, by decide⟩, ⟨0, 0, 0, 0, by decide⟩⟩)
  | .duration => some (.duration ⟨0, by decide⟩)
  | .guid => some (.guid ⟨0⟩)
  | .uri => some (.uri .sample)
  | .filename _ => some (.path ⟨"a"⟩)
  | .directory _ => some (.path ⟨"a"⟩)
  | _ => none

theorem Kind.isPlain_sample {k : Kind} {v : Value} (h : k.sample? = some v) : v.IsPlain := by
  cases k <;> cases h <;> exact ⟨by simp, rfl⟩

theorem Kind.accept_sample (files : FileTree) {k : Kind} {v : Value} (agrees : k.Agrees)
    (free : k.IsFree) (h : k.sample? = some v) :
    v.Throughout Value.IsProper ∧ v.IsPlain ∧ k.accept files v = .ok () := by
  have hv := isPlain_sample h
  cases k with
  | int l =>
      cases h
      exact ⟨.flat trivial rfl, hv, accept_int_eq_ok.mpr ⟨_, rfl, l.accept_sample agrees⟩⟩
  | number l =>
      cases h
      refine ⟨.flat trivial rfl, hv, ?_⟩
      rw [accept]
      exact l.accept_sample agrees free
  | string l =>
      cases h
      refine ⟨.flat trivial rfl, hv, ?_⟩
      exact accept_string_eq_ok.mpr ⟨_, rfl, l.accept_sample agrees free⟩
  | uri =>
      cases h
      have read : Uri.ofChars "a:".toList = .ok .sample := by decide +kernel
      exact ⟨.flat ⟨_, read⟩ rfl, hv, by rw [accept]⟩
  | filename l =>
      cases h
      refine ⟨.flat trivial rfl, hv, ?_⟩
      rw [accept, FilenameLimits.accept, show l.ensureExists = false from free]
      rfl
  | directory e =>
      cases h
      refine ⟨.flat trivial rfl, hv, ?_⟩
      rw [accept, show e = false from free]
      rfl
  | enumeration _ | object _ _ | dict _ _ | anyOf _ => cases h
  | _ =>
      cases h
      exact ⟨.flat trivial rfl, hv, by rw [accept]⟩

/-! ## What is offered is accepted -/

section Accepted

variable {files : FileTree}

/-- Values for all members make an object of them. -/
theorem Member.exists_admitted {ms : List Member} (wellNamed : WellNamed ms) (exact : Bool)
    (h : ∀ m ∈ ms, ∃ v : Value, v.Throughout Value.IsProper ∧ m.type.validate files v = .ok ()) :
    ∃ fields, Fields.Ascending fields ∧ (∀ v ∈ fields.map (·.2), v.Throughout Value.IsProper) ∧
      Admit files ms exact fields := by
  choose! value proper valid using h
  let fields := ms.map fun m => (m.name, value m)
  have names : fields.map (·.1) = Member.names ms := by simp [fields, Member.names]
  refine ⟨Fields.ofList fields, Fields.ascending_ofList fields, ?_, fun m hm => ?_,
    fun _ f hf => ?_⟩
  · refine List.forall_mem_map.mpr fun f hf => ?_
    obtain ⟨m, hm, rfl⟩ := List.mem_map.mp (Fields.mem_of_mem_ofList hf)
    exact proper m hm
  · have found : Fields.find? m.name (Fields.ofList fields) = some (value m) :=
      Fields.find?_ofList_of_mem (by rw [names]; exact wellNamed.distinct)
        (List.mem_map.mpr ⟨m, hm, rfl⟩)
    rw [found]
    exact valid m hm
  · obtain ⟨m, hm, rfl⟩ := List.mem_map.mp (Fields.mem_of_mem_ofList hf)
    exact ⟨m, hm, rfl⟩

theorem Kind.exists_of_offers {k : Kind} {plain : Bool} (agrees : k.Agrees) (free : k.IsFree)
    (inside : ∀ t ∈ k.parts, ∀ plain, t.offers plain = true →
      ∃ v : Value, v.Throughout Value.IsProper ∧ t.Has files plain v)
    (h : k.offers plain = true) :
    ∃ v : Value, v.Throughout Value.IsProper ∧ (plain = true → v.IsPlain) ∧
      k.accept files v = .ok () := by
  have members : ∀ {ms : List Member}, (∀ t ∈ ms.map (·.type), ∀ plain, t.offers plain = true →
        ∃ v : Value, v.Throughout Value.IsProper ∧ t.Has files plain v) →
      Member.allOffer ms = true →
        ∀ m ∈ ms, ∃ v : Value, v.Throughout Value.IsProper ∧ m.type.validate files v = .ok () := by
    intro ms inside h m hm
    have offered := Member.allOffer_iff.mp h m hm
    obtain ⟨v, proper, -, valid⟩ := inside m.type (List.mem_map_of_mem hm) false offered
    exact ⟨v, proper, valid⟩
  cases k with
  | object ms exact =>
      rw [offers] at h
      obtain ⟨fields, ascending, proper, admitted⟩ :=
        Member.exists_admitted agrees exact (members inside h)
      exact ⟨.object fields, .intro ascending proper, fun _ => ⟨nofun, rfl⟩,
        accept_object_eq_ok.mpr ⟨fields, rfl, admitted⟩⟩
  | dict ms exact =>
      rw [offers] at h
      obtain ⟨entries, ascending, proper, admitted⟩ :=
        Member.exists_admitted agrees exact (members inside h)
      exact ⟨.map entries, .intro ascending proper, fun _ => ⟨nofun, rfl⟩,
        accept_dict_eq_ok.mpr ⟨entries, rfl, admitted⟩⟩
  | anyOf ts =>
      rw [offers, ValueType.anyOffers_iff] at h
      obtain ⟨t, ht, offered⟩ := h
      obtain ⟨v, proper, hv, valid⟩ := inside t ht plain offered
      exact ⟨v, proper, hv, accept_anyOf_eq_ok.mpr ⟨t, ht, valid⟩⟩
  | enumeration l =>
      obtain ⟨s, hs⟩ := List.exists_mem_of_ne_nil _ agrees.there
      exact ⟨.string s, .flat trivial rfl, fun _ => ⟨nofun, rfl⟩,
        accept_enumeration_eq_ok.mpr ⟨s, rfl, hs⟩⟩
  | _ =>
      obtain ⟨proper, hv, accepted⟩ := Kind.accept_sample files agrees free rfl
      exact ⟨_, proper, fun _ => hv, accepted⟩

/-- The kind is one that a type can be made from, and it is free. -/
def ValueType.IsFree (t : ValueType) : Prop :=
  t.hook = none ∧ t.kind.Agrees ∧ t.kind.IsFree

theorem ValueType.exists_of_offers {t : ValueType} (free : t.Throughout IsFree) :
    ∀ plain, t.offers plain = true →
      ∃ v : Value, v.Throughout Value.IsProper ∧ t.Has files plain v := by
  induction free with
  | @intro t here _ ih =>
      obtain ⟨k, a, hook⟩ := t
      obtain ⟨rfl, agrees, free⟩ := here
      intro plain h
      have item : ∀ {plain}, k.offers plain = true → ∃ v : Value, v.Throughout Value.IsProper ∧
          (plain = true → v.IsPlain) ∧ k.accept files v = .ok () :=
        k.exists_of_offers agrees free ih
      have single : a.isCollection = false → k.offers true = true →
          ∃ v : Value, v.Throughout Value.IsProper ∧ (ValueType.mk k a none).Has files true v := by
        intro collection h
        obtain ⟨v, proper, hv, accepted⟩ := item h
        obtain ⟨there, unlisted⟩ := hv rfl
        exact ⟨v, proper, hv, (validate_single collection there).mpr ⟨unlisted, accepted⟩⟩
      rw [offers] at h
      cases plain with
      | true =>
          obtain ⟨collection, h⟩ := Bool.and_eq_true_iff.mp h
          exact single (by simpa using collection) h
      | false =>
          rcases Bool.or_eq_true_iff.mp h with least | h
          · exact ⟨.null, .flat trivial rfl, nofun, validate_null.mpr (beq_iff_eq.mp least)⟩
          cases collection : a.isCollection with
          | false =>
              rw [collection] at h
              obtain ⟨v, proper, -, valid⟩ := single collection h
              exact ⟨v, proper, nofun, valid⟩
          | true =>
              rw [collection] at h
              obtain ⟨v, proper, -, accepted⟩ := item h
              -- One item over and over makes a list of the least length.
              refine ⟨.list (List.replicate a.min.toNat v), .intro trivial ?_, nofun, ?_⟩
              · intro w hw
                rw [List.eq_of_mem_replicate hw]
                exact proper
              · refine (validate_collection (v := .list _) collection nofun).mpr
                  ⟨_, rfl, ?_, fun w hw => ?_⟩
                · rw [List.length_replicate]
                  exact Arity.accepts_iff.mpr ⟨Nat.le_refl _, fun m hm => (a.ordered m hm).1⟩
                · rw [List.eq_of_mem_replicate hw]
                  exact accepted

end Accepted

/-- Where every choice has an alternative of at most one value, there is a value
of every type. -/
theorem ValueType.offers_of_choices {t : ValueType}
    (choices : t.Throughout fun s => ∀ ts, s.kind = .anyOf ts →
      ∃ t ∈ ts, t.arity.isCollection = false) :
    ∀ plain, (plain = true → t.arity.isCollection = false) → t.offers plain = true := by
  induction choices with
  | @intro t here _ ih =>
      obtain ⟨k, a, hook⟩ := t
      intro plain single
      have item : ∀ plain, k.offers plain = true := by
        intro plain
        cases k with
        | object ms exact | dict ms exact =>
            rw [Kind.offers, Member.allOffer_iff]
            exact fun m hm => ih m.type (List.mem_map_of_mem hm) false nofun
        | anyOf ts =>
            obtain ⟨s, hs, unlisted⟩ := here ts rfl
            rw [Kind.offers, ValueType.anyOffers_iff]
            exact ⟨s, hs, ih s hs plain fun _ => unlisted⟩
        | _ => simp [Kind.offers]
      rw [offers]
      cases plain with
      | true =>
          have unlisted : a.isCollection = false := single rfl
          simp [item, unlisted]
      | false => simp [item]

/-! ## Types of descriptors -/

namespace Descriptor

/-- Bounds are finite, strings have no pattern, and nothing has to be there for
paths to lead to. -/
def Shape.IsFree : Shape → Prop
  | .number l => ∀ v, l.min = some v ∨ l.max = some v → v.isFinite = true
  | .string expression _ _ => expression = none
  | .filename l => l.ensureExists = false
  | .directory e => e = false
  | _ => True

theorem isFree_kindOf {s : Shape} {k : Kind} (free : s.IsFree) (h : kindOf s = .ok k) :
    k.IsFree := by
  cases s with
  | string expression minLength maxLength =>
      obtain rfl : expression = none := free
      rw [kindOf] at h
      cases h
      rfl
  | object _ _ | dict _ _ | anyOf _ =>
      rw [kindOf] at h
      obtain ⟨_, -, h⟩ := Steps.except_bind_eq_ok.mp h
      cases h
      trivial
  | _ =>
      cases h
      exact free

theorem isFree_toType {d : Descriptor} (free : d.Throughout (·.shape.IsFree)) :
    ∀ {t : ValueType}, d.toType = .ok t → t.Throughout ValueType.IsFree := by
  induction free with
  | @intro d here _ ih =>
      obtain ⟨arity, shape⟩ := d
      intro t h
      obtain ⟨k, hk, agree, rfl⟩ := toType_eq_ok h
      refine .intro ⟨rfl, Kind.checkConstraints_eq_ok.mp agree, isFree_kindOf here hk⟩
        fun s hs => ?_
      obtain ⟨e, he, ht⟩ := exists_part_of_kindOf hk s hs
      exact ih e he ht

end Descriptor

/-- A type comes of a descriptor with finite bounds, without patterns and without
paths that have to lead somewhere.  There is a value of it exactly if it offers
one, and then one that is well formed throughout.  It does if every choice in it
has an alternative of at most one value. -/
theorem ValueType.exists_validate_iff {d : Descriptor} {t : ValueType} (files : FileTree)
    (h : d.toType = .ok t) (free : d.Throughout (·.shape.IsFree)) :
    ((∃ v, t.validate files v = .ok ()) ↔ t.offers false = true) ∧
    (t.offers false = true →
      ∃ v : Value, v.Throughout Value.IsProper ∧ t.validate files v = .ok ()) ∧
    ((t.Throughout fun s => ∀ ts, s.kind = .anyOf ts → ∃ t ∈ ts, t.arity.isCollection = false) →
      t.offers false = true) := by
  have free := Descriptor.isFree_toType free h
  have accepted : t.offers false = true →
      ∃ v : Value, v.Throughout Value.IsProper ∧ t.validate files v = .ok () := by
    intro offered
    obtain ⟨v, proper, -, valid⟩ := exists_of_offers free false offered
    exact ⟨v, proper, valid⟩
  refine ⟨⟨?_, fun offered => ?_⟩, accepted, fun choices => offers_of_choices choices false nofun⟩
  · rintro ⟨v, valid⟩
    exact offers_of_validate (free.mono fun _ free => free.1) false v ⟨nofun, valid⟩
  · obtain ⟨v, -, valid⟩ := accepted offered
    exact ⟨v, valid⟩

/-- A choice between lists of one or more is of single values itself, and these
are no lists. -/
theorem ValueType.exists_validate_iff_lists :
    let d : Descriptor := .mk none (.anyOf [.mk (some .oneOrMore) (.int ⟨none, none, none⟩)])
    ∃ t, d.toType = .ok t ∧ d.Throughout (·.shape.IsFree) ∧
      ∀ files v, t.validate files v ≠ .ok () := by
  intro d
  let t : ValueType := .mk (.anyOf [.mk (.int ⟨none, none, none⟩) .oneOrMore none]) .single none
  have hookless : t.Throughout (·.hook = none) :=
    .intro rfl (List.forall_mem_singleton.mpr (.flat rfl rfl))
  refine ⟨t, rfl, ?_, fun files v h => ?_⟩
  · exact .intro trivial (List.forall_mem_singleton.mpr (.intro trivial (List.forall_mem_nil _)))
  · have offered : t.offers false = true := offers_of_validate hookless false v ⟨nofun, h⟩
    exact absurd offered (by decide)

/-- A port within two bytes, and beside it a choice between one name and some. -/
theorem ValueType.exists_validate_iff_class :
    let port : Descriptor := .mk none (.int ⟨some 1, some 65535, some 2⟩)
    let hosts : Descriptor := .mk none (.anyOf
      [.mk (some .oneOrMore) .uri, .mk none (.string none (some 3) (some 40))])
    let d : Descriptor := .mk none (.object [.mk "hosts" hosts, .mk "port" port] true)
    ∃ t, d.toType = .ok t ∧ d.Throughout (·.shape.IsFree) ∧ t.offers false = true ∧
      ∃ v : Value, v.Throughout Value.IsProper ∧ t.validate .empty v = .ok () := by
  intro port hosts d
  have free : d.Throughout (·.shape.IsFree) := by
    refine .intro trivial (List.forall_mem_cons.mpr ⟨?_, List.forall_mem_singleton.mpr ?_⟩)
    · refine .intro trivial (List.forall_mem_cons.mpr ⟨?_, List.forall_mem_singleton.mpr ?_⟩)
      · exact .intro trivial (List.forall_mem_nil _)
      · exact .intro rfl (List.forall_mem_nil _)
    · exact .intro trivial (List.forall_mem_nil _)
  have built : ∃ t, d.toType = .ok t ∧ t.offers false = true := ⟨_, rfl, by decide⟩
  obtain ⟨t, h, offered⟩ := built
  exact ⟨t, h, free, offered, (exists_validate_iff .empty h free).2.1 offered⟩

end TypeSchema
