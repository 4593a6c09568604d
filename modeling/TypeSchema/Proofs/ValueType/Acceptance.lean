/-
# Acceptance — when a value is of a type

Validation stops at the first thing that is wrong.  Here it is said for each
part of it when nothing is wrong: an arity and the limits of a kind demand
bounds, a collection demands its kind of every item, members demand their types
of the fields of their names, and a choice demands one of its alternatives.

Of a single value an arity asks only that it is no collection
(`validate_of_isPlain`).  The first alternative of a choice that accepts a value
also says how it is normalized (`exists_first_of_accept_anyOf`).

What is asked of a value is often asked of all that is in it as well
(`Value.Throughout`).
-/
import Mathlib.Order.Lattice.Nat
import TypeSchema.Proofs.Steps
import TypeSchema.ValueType.Normalization
import TypeSchema.ValueType.Validation

namespace TypeSchema

/-! ## Values and what is inside of them -/

namespace Value

/-- Neither nothing nor a list. -/
def IsPlain (v : Value) : Prop := v ≠ .null ∧ v.items? = none

/-- What is directly inside of a value. -/
def parts : Value → List Value
  | .list items => items
  | .object fields => fields.map (·.2)
  | .map entries => entries.map (·.2)
  | _ => []

/-- The names that a value gives to what is inside. -/
def names : Value → List String
  | .object fields => fields.map (·.1)
  | .map entries => entries.map (·.1)
  | _ => []

/-- Something holds of a value and of everything inside of it. -/
inductive Throughout (p : Value → Prop) : Value → Prop
  | intro {v : Value} (here : p v) (inside : ∀ w ∈ v.parts, Throughout p w) : Throughout p v

theorem Throughout.here {p : Value → Prop} {v : Value} (h : v.Throughout p) : p v := by
  cases h with
  | intro here _ => exact here

theorem Throughout.inside {p : Value → Prop} {v : Value} (h : v.Throughout p) :
    ∀ w ∈ v.parts, w.Throughout p := by
  cases h with
  | intro _ inside => exact inside

theorem Throughout.flat {p : Value → Prop} {v : Value} (here : p v) (parts : v.parts = []) :
    v.Throughout p := by
  refine .intro here ?_
  rw [parts]
  exact List.forall_mem_nil _

theorem Throughout.mono {p q : Value → Prop} (h : ∀ v, p v → q v) {v : Value}
    (hv : v.Throughout p) : v.Throughout q := by
  induction hv with
  | intro here _ ih => exact .intro (h _ here) ih

end Value

/-! ## What accepted values satisfy -/

/-- An accepted string is long enough and matches the pattern. -/
theorem StringLimits.accept_ok {l : StringLimits} {s : String} (h : l.accept s = .ok ()) :
    l.minLength.toNat ≤ s.length ∧ ∀ p, l.expression = some p → p.isFullMatch s := by
  simp only [StringLimits.accept, bind, Except.bind, pure, Except.pure, throw, throwThe,
    MonadExceptOf.throw] at h
  constructor
  · by_contra hlt
    rw [if_pos (Nat.lt_of_not_le hlt)] at h
    cases h
  · intro p hp
    by_contra hno
    simp only [hp, Bool.eq_false_iff.mpr hno, Bool.not_false, if_true] at h
    repeat' split at h
    all_goals cases h

/-- An accepted integer is within the bounds and the width. -/
theorem IntLimits.accept_ok {l : IntLimits} {i : Int64} (h : l.accept i = .ok ()) :
    (∀ lo, l.min = some lo → lo ≤ i) ∧ (∀ hi, l.max = some hi → i ≤ hi) ∧
      ∀ lo hi, l.widthBounds = some (lo, hi) → lo ≤ i ∧ i ≤ hi := by
  simp only [IntLimits.accept, bind, Except.bind, pure, Except.pure, throw, throwThe,
    MonadExceptOf.throw] at h
  refine ⟨fun lo hlo => ?_, fun hi hhi => ?_, fun lo hi hw => ?_⟩
  · by_contra hlt
    simp only [hlo, if_pos (Int64.not_le.mp hlt)] at h
    cases h
  · by_contra hlt
    simp only [hhi, if_pos (Int64.not_le.mp hlt)] at h
    repeat' split at h
    all_goals cases h
  · by_contra hlt
    have hout : i < lo ∨ hi < i := by
      rw [not_and_or, Int64.not_le, Int64.not_le] at hlt
      exact hlt
    simp only [hw, if_pos hout] at h
    repeat' split at h
    all_goals cases h

namespace IntLimits

variable {l : IntLimits} {i : Int64}

/-- The lower bound, for which the width stands in, is one. -/
theorem lower_le (hi : l.accept i = .ok ()) {lo : Int64}
    (hlo : l.min.or (l.widthBounds.map (·.1)) = some lo) : lo ≤ i := by
  obtain ⟨hmin, -, hwidth⟩ := l.accept_ok hi
  rcases Option.or_eq_some_iff.mp hlo with h | ⟨-, h⟩
  · exact hmin lo h
  · obtain ⟨⟨a, b⟩, hab, rfl⟩ := Option.map_eq_some_iff.mp h
    exact (hwidth a b hab).1

/-- The upper bound, for which the width stands in, is one. -/
theorem le_upper (hi : l.accept i = .ok ()) {hi' : Int64}
    (hhi : l.max.or (l.widthBounds.map (·.2)) = some hi') : i ≤ hi' := by
  obtain ⟨-, hmax, hwidth⟩ := l.accept_ok hi
  rcases Option.or_eq_some_iff.mp hhi with h | ⟨-, h⟩
  · exact hmax hi' h
  · obtain ⟨⟨a, b⟩, hab, rfl⟩ := Option.map_eq_some_iff.mp h
    exact (hwidth a b hab).2

end IntLimits

theorem EnumLimits.accept_ok {l : EnumLimits} {s : String} (h : l.accept s = .ok ()) :
    s ∈ l.values := by
  unfold EnumLimits.accept at h
  split at h
  · assumption
  · cases h

/-! ## Checks -/

/-- Two checks in a row. -/
theorem Checked.bind_eq_ok {x : Checked} {f : Unit → Checked} :
    (x >>= f) = .ok () ↔ x = .ok () ∧ f () = .ok () := by
  cases x with
  | ok u => exact ⟨fun h => ⟨rfl, h⟩, fun h => h.2⟩
  | error r =>
      refine iff_of_false ?_ ?_
      · intro h
        cases h
      · rintro ⟨h, -⟩
        cases h

@[simp]
theorem Checked.pure_eq : (pure () : Checked) = .ok () := rfl

@[simp]
theorem Checked.throw_eq {r : Rejection} : (throw r : Checked) = .error r := rfl

@[simp]
theorem Checked.error_bind {r : Rejection} {f : Unit → Checked} :
    ((.error r : Checked) >>= f) = .error r := rfl

/-- A check that gives up on a condition and goes on otherwise. -/
@[simp]
theorem Checked.unless_eq_ok {c : Prop} [Decidable c] {r : Rejection} {x : Checked} :
    (if c then .error r else x) = .ok () ↔ ¬ c ∧ x = .ok () := by
  by_cases h : c
  · rw [if_pos h]
    refine iff_of_false ?_ fun hok => hok.1 h
    intro hok
    cases hok
  · rw [if_neg h]
    exact (and_iff_right h).symm

/-! ## Limits -/

theorem IntLimits.accept_eq_ok {l : IntLimits} {i : Int64} :
    l.accept i = .ok () ↔
      (∀ lo, l.min = some lo → lo ≤ i) ∧ (∀ hi, l.max = some hi → i ≤ hi) ∧
      ∀ lo hi, l.widthBounds = some (lo, hi) → lo ≤ i ∧ i ≤ hi := by
  unfold IntLimits.accept
  cases l.min <;> cases l.max <;> rcases l.widthBounds with _ | ⟨lo, hi⟩ <;>
    simp [Int64.not_lt]

theorem checkWidth_eq_ok {bytes : UInt8} {range : Int64 × Int64} {tag : String}
    {limit : Option Int64} :
    checkWidth bytes range tag limit = .ok () ↔
      ∀ m, limit = some m → range.1 ≤ m ∧ m ≤ range.2 := by
  unfold checkWidth
  cases limit with
  | none =>
      refine iff_of_true rfl ?_
      rintro _ ⟨⟩
  | some m =>
      by_cases h : m < range.1 ∨ range.2 < m
      · refine iff_of_false (fun hok => ?_) fun hle => ?_
        · cases (if_pos h).symm.trans hok
        · obtain ⟨hlo, hhi⟩ := hle m rfl
          exact h.elim (Int64.not_lt.mpr hlo) (Int64.not_lt.mpr hhi)
      · refine iff_of_true (if_neg h) ?_
        rintro _ ⟨⟩
        exact ⟨Int64.not_lt.mp fun hlt => h (.inl hlt), Int64.not_lt.mp fun hlt => h (.inr hlt)⟩

/-- Bounds that agree with the width lie within it. -/
theorem IntLimits.bounds_of_check {l : IntLimits} (agree : l.check = .ok ()) {lo hi : Int64}
    (hw : l.widthBounds = some (lo, hi)) :
    (∀ m, l.min = some m → lo ≤ m) ∧ ∀ m, l.max = some m → m ≤ hi := by
  have width : ∃ b, checkWidth b (lo, hi) "min" l.min = .ok () ∧
      checkWidth b (lo, hi) "max" l.max = .ok () := by
    cases hb : l.bytes with
    | none =>
        simp only [IntLimits.widthBounds, hb] at hw
        cases hw
    | some b =>
        refine ⟨b, ?_⟩
        have both : (checkWidth b (lo, hi) "min" l.min >>= fun _ =>
            checkWidth b (lo, hi) "max" l.max) = .ok () := by
          simp only [IntLimits.check, hb, hw] at agree
          split at agree
          · split at agree
            · cases agree
            · exact agree
          · exact agree
        obtain ⟨_, hmin, hmax⟩ := Steps.except_bind_eq_ok.mp both
        exact ⟨hmin, hmax⟩
  obtain ⟨b, hmin, hmax⟩ := width
  exact ⟨fun m h => (checkWidth_eq_ok.mp hmin m h).1, fun m h => (checkWidth_eq_ok.mp hmax m h).2⟩

/-- An integer is accepted exactly if it is between the bounds for which the
width stands in. -/
theorem IntLimits.accept_iff_between {l : IntLimits} (agree : l.check = .ok ()) {i : Int64} :
    l.accept i = .ok () ↔
      (∀ lo, l.min.or (l.widthBounds.map (·.1)) = some lo → lo ≤ i) ∧
      ∀ hi, l.max.or (l.widthBounds.map (·.2)) = some hi → i ≤ hi := by
  constructor
  · intro h
    exact ⟨fun _ => l.lower_le h, fun _ => l.le_upper h⟩
  · rintro ⟨hlower, hupper⟩
    refine IntLimits.accept_eq_ok.mpr ⟨?_, ?_, ?_⟩
    · intro lo hlo
      exact hlower lo (by rw [hlo]; rfl)
    · intro hi hhi
      exact hupper hi (by rw [hhi]; rfl)
    · intro lo hi hw
      obtain ⟨hlo, hhi⟩ := bounds_of_check agree hw
      constructor
      · cases hmin : l.min with
        | none => exact hlower lo (by rw [hmin, hw]; rfl)
        | some m => exact Int64.le_trans (hlo m hmin) (hlower m (by rw [hmin]; rfl))
      · cases hmax : l.max with
        | none => exact hupper hi (by rw [hmax, hw]; rfl)
        | some m => exact Int64.le_trans (hupper m (by rw [hmax]; rfl)) (hhi m hmax)

/-- Without a pattern only the length of a string counts. -/
theorem StringLimits.accept_eq_ok {l : StringLimits} {s : String}
    (free : l.expression = none) :
    l.accept s = .ok () ↔
      l.minLength.toNat ≤ s.length ∧ ∀ max, l.maxLength = some max → s.length ≤ max.toNat := by
  unfold StringLimits.accept
  rw [free]
  cases l.maxLength <;> simp

theorem NumberLimits.accept_eq_ok {l : NumberLimits} {d : Double} :
    l.accept d = .ok () ↔ d.isFinite = true ∧ (∀ lo, l.min = some lo → d.lt lo = false) ∧
      ∀ hi, l.max = some hi → hi.lt d = false := by
  unfold NumberLimits.accept
  cases l.min <;> cases l.max <;> simp

/-- Bounds whose constraints agree are numbers. -/
theorem NumberLimits.isNaN_of_check {l : NumberLimits} (agree : l.check = .ok ()) :
    (∀ lo, l.min = some lo → lo.isNaN = false) ∧ ∀ hi, l.max = some hi → hi.isNaN = false := by
  have number : ∀ {tag : String} {limit : Option Double}, checkNumber tag limit = .ok () →
      ∀ b, limit = some b → b.isNaN = false := by
    rintro tag _ h b rfl
    cases hb : b.isNaN with
    | false => rfl
    | true => cases (if_pos (Option.any_some.trans hb)).symm.trans h
  obtain ⟨_, hmin, h⟩ := Steps.except_bind_eq_ok.mp agree
  obtain ⟨_, hmax, -⟩ := Steps.except_bind_eq_ok.mp h
  exact ⟨number hmin, number hmax⟩

theorem EnumLimits.accept_eq_ok {l : EnumLimits} {s : String} :
    l.accept s = .ok () ↔ s ∈ l.values :=
  ⟨EnumLimits.accept_ok, fun h => if_pos h⟩

/-! ## Items -/

section Acceptance

variable {files : FileTree} {kind : Kind} {a : Arity} {v : Value}

theorem Arity.accepts_iff {n : Nat} :
    a.accepts n = true ↔ a.min.toNat ≤ n ∧ ∀ m, a.max = some m → n ≤ m.toNat := by
  unfold Arity.accepts
  cases a.max <;> simp

theorem Arity.checkCount_eq_ok {n : Nat} :
    a.checkCount n = .ok () ↔ a.accepts n = true := by
  unfold Arity.checkCount
  constructor
  · intro h
    by_contra hno
    rw [if_neg hno] at h
    split at h <;> cases h
  · intro h
    exact if_pos h

theorem checkItems_eq_ok {check : Value → Checked} {i : Nat} {items : List Value} :
    checkItems check i items = .ok () ↔ ∀ w ∈ items, check w = .ok () := by
  induction items generalizing i with
  | nil => exact iff_of_true rfl (List.forall_mem_nil _)
  | cons w rest ih =>
      rw [List.forall_mem_cons, ← ih (i := i + 1), checkItems]
      cases check w with
      | ok u => exact ⟨fun h => ⟨rfl, h⟩, fun h => h.2⟩
      | error r =>
          refine iff_of_false ?_ ?_
          · intro h
            cases h
          · rintro ⟨h, -⟩
            cases h

/-- Without a check from outside only the kind speaks of an item. -/
theorem item_eq :
    (do kind.accept files v; Hook.accept none v) = kind.accept files v := by
  cases kind.accept files v <;> rfl

theorem ValueType.validate_null {hook : Option Hook} :
    (ValueType.mk kind a hook).validate files .null = .ok () ↔ a.min = 0 := by
  rw [ValueType.validate, Checked.bind_eq_ok]
  constructor
  · rintro ⟨h, -⟩
    by_contra hne
    cases (if_neg hne).symm.trans h
  · intro h
    exact ⟨if_pos h, rfl⟩

/-- A collection holds a list whose length is within the arity. -/
theorem ValueType.validate_collection (collection : a.isCollection = true) (there : v ≠ .null) :
    (ValueType.mk kind a none).validate files v = .ok () ↔
      ∃ items, v = .list items ∧ a.accepts items.length = true ∧
        ∀ w ∈ items, kind.accept files w = .ok () := by
  rw [ValueType.validate, Checked.bind_eq_ok]
  cases v with
  | null => exact absurd rfl there
  | list items =>
      have harity : a.check (.list items) = a.checkCount items.length := if_pos collection
      simp only [harity, Arity.checkCount_eq_ok, collection, if_true, item_eq, checkItems_eq_ok]
      constructor
      · rintro ⟨count, each⟩
        exact ⟨items, rfl, count, each⟩
      · rintro ⟨_, ⟨⟩, count, each⟩
        exact ⟨count, each⟩
  | _ =>
      refine iff_of_false ?_ ?_
      · rintro ⟨h, -⟩
        cases (if_pos collection).symm.trans h
      · rintro ⟨_, ⟨⟩, -⟩

/-- Where there is no collection, a value that is no list is accepted by the kind. -/
theorem ValueType.validate_single (single : a.isCollection = false) (there : v ≠ .null) :
    (ValueType.mk kind a none).validate files v = .ok () ↔
      v.items? = none ∧ kind.accept files v = .ok () := by
  rw [ValueType.validate, Checked.bind_eq_ok]
  have collection : ¬ a.isCollection = true := by rw [single]; exact Bool.false_ne_true
  cases v with
  | null => exact absurd rfl there
  | list items =>
      refine iff_of_false ?_ ?_
      · rintro ⟨h, -⟩
        cases (if_neg collection).symm.trans h
      · rintro ⟨h, -⟩
        cases h
  | _ => exact and_congr (iff_of_true (if_neg collection) rfl) (by simp only [item_eq])

/-! ## Members and alternatives -/

theorem Member.acceptAll_eq_ok {members : List Member} {fields : List (String × Value)} :
    Member.acceptAll files members fields = .ok () ↔
      ∀ m ∈ members,
        m.type.validate files ((Fields.find? m.name fields).getD .null) = .ok () := by
  induction members with
  | nil => exact iff_of_true (by rw [Member.acceptAll]) (List.forall_mem_nil _)
  | cons m rest ih =>
      obtain ⟨name, type⟩ := m
      rw [List.forall_mem_cons, ← ih, Member.acceptAll]
      show _ ↔ type.validate files ((Fields.find? name fields).getD .null) = .ok () ∧ _
      cases type.validate files ((Fields.find? name fields).getD .null) with
      | ok u => exact ⟨fun h => ⟨rfl, h⟩, fun h => h.2⟩
      | error r =>
          refine iff_of_false ?_ ?_
          · intro h
            cases h
          · rintro ⟨h, -⟩
            cases h

theorem Member.find?_isSome {name : String} {members : List Member} :
    (Member.find? name members).isSome ↔ ∃ m ∈ members, m.name = name := by
  simp [Member.find?]

/-- An exact kind has a member for every field. -/
theorem checkExtra_eq_ok {members : List Member} {exact : Bool}
    {fields : List (String × Value)} :
    checkExtra members exact fields = .ok () ↔
      (exact = true → ∀ f ∈ fields, ∃ m ∈ members, m.name = f.1) := by
  unfold checkExtra
  cases exact with
  | false => exact iff_of_true rfl fun h => (Bool.false_ne_true h).elim
  | true =>
      simp only [if_true, forall_const, ← Member.find?_isSome]
      cases hf : fields.find? fun f => (Member.find? f.1 members).isNone with
      | none =>
          refine iff_of_true rfl fun f hmem => ?_
          have hsome := List.find?_eq_none.mp hf f hmem
          rwa [Bool.not_eq_true, Option.isNone_eq_false_iff] at hsome
      | some f =>
          refine iff_of_false (fun h => ?_) fun h => ?_
          · cases h
          · have hnone := List.find?_some hf
            have hsome := h f (List.mem_of_find?_eq_some hf)
            rw [← Option.not_isSome, hsome] at hnone
            cases hnone

theorem ValueType.acceptAny_eq_ok {alternatives : List ValueType}
    {reasons : List (String × List String × Rejection.Reason)} :
    ValueType.acceptAny files reasons alternatives v = .ok () ↔
      ∃ t ∈ alternatives, t.validate files v = .ok () := by
  induction alternatives generalizing reasons with
  | nil =>
      refine iff_of_false (fun h => ?_) (by simp)
      rw [ValueType.acceptAny] at h
      cases h
  | cons t rest ih =>
      rw [ValueType.acceptAny, List.exists_mem_cons_iff]
      cases t.validate files v with
      | ok u => exact iff_of_true rfl (.inl rfl)
      | error r =>
          constructor
          · intro h
            exact .inr (ih.mp h)
          · rintro (h | h)
            · cases h
            · exact ih.mpr h

/-! ## Kinds -/

attribute [local simp] Kind.accept mismatch

theorem Kind.accept_bool_eq_ok : Kind.bool.accept files v = .ok () ↔ ∃ b, v = .bool b := by
  cases v with
  | bool b => exact iff_of_true (by rw [Kind.accept]) ⟨b, rfl⟩
  | _ => simp

theorem Kind.accept_int_eq_ok {l : IntLimits} :
    (Kind.int l).accept files v = .ok () ↔ ∃ i, v = .int i ∧ l.accept i = .ok () := by
  cases v with
  | int i =>
      rw [Kind.accept]
      constructor
      · intro h
        exact ⟨i, rfl, h⟩
      · rintro ⟨_, ⟨⟩, h⟩
        exact h
  | _ => simp

theorem Kind.accept_string_eq_ok {l : StringLimits} :
    (Kind.string l).accept files v = .ok () ↔ ∃ s, v = .string s ∧ l.accept s = .ok () := by
  cases v with
  | string s =>
      rw [Kind.accept]
      constructor
      · intro h
        exact ⟨s, rfl, h⟩
      · rintro ⟨_, ⟨⟩, h⟩
        exact h
  | _ => simp

theorem Kind.accept_enumeration_eq_ok {l : EnumLimits} :
    (Kind.enumeration l).accept files v = .ok () ↔ ∃ s, v = .string s ∧ s ∈ l.values := by
  cases v with
  | string s =>
      rw [Kind.accept, EnumLimits.accept_eq_ok]
      constructor
      · intro h
        exact ⟨s, rfl, h⟩
      · rintro ⟨_, ⟨⟩, h⟩
        exact h
  | _ => simp

/-- Every member accepts the field of its name, and an exact kind has no others. -/
def Member.Admit (files : FileTree) (members : List Member) (exact : Bool)
    (fields : List (String × Value)) : Prop :=
  (∀ m ∈ members, m.type.validate files ((Fields.find? m.name fields).getD .null) = .ok ()) ∧
    (exact = true → ∀ f ∈ fields, ∃ m ∈ members, m.name = f.1)

theorem Kind.accept_object_eq_ok {members : List Member} {exact : Bool} :
    (Kind.object members exact).accept files v = .ok () ↔
      ∃ fields, v = .object fields ∧ Member.Admit files members exact fields := by
  cases v with
  | object fields =>
      rw [Kind.accept, Checked.bind_eq_ok, Member.acceptAll_eq_ok, checkExtra_eq_ok]
      constructor
      · intro h
        exact ⟨fields, rfl, h⟩
      · rintro ⟨_, ⟨⟩, h⟩
        exact h
  | _ => simp

theorem Kind.accept_dict_eq_ok {members : List Member} {exact : Bool} :
    (Kind.dict members exact).accept files v = .ok () ↔
      ∃ entries, v = .map entries ∧ Member.Admit files members exact entries := by
  cases v with
  | map entries =>
      rw [Kind.accept, Checked.bind_eq_ok, Member.acceptAll_eq_ok, checkExtra_eq_ok]
      constructor
      · intro h
        exact ⟨entries, rfl, h⟩
      · rintro ⟨_, ⟨⟩, h⟩
        exact h
  | _ => simp

theorem Kind.accept_anyOf_eq_ok {alternatives : List ValueType} :
    (Kind.anyOf alternatives).accept files v = .ok () ↔
      ∃ t ∈ alternatives, t.validate files v = .ok () := by
  rw [Kind.accept]
  exact ValueType.acceptAny_eq_ok

end Acceptance

section Choice

variable {files : FileTree} {t : ValueType} {v : Value}

/-! ## Single values -/

/-- An item has to be of the kind, and the check from outside has to agree. -/
theorem ValueType.validateItem_eq_ok :
    t.validateItem files v = .ok () ↔
      t.kind.accept files v = .ok () ∧ Hook.accept t.hook v = .ok () :=
  Checked.bind_eq_ok

theorem Arity.check_of_isPlain {a : Arity} (plain : v.IsPlain) :
    a.check v = .ok () ↔ a.isCollection = false := by
  cases v with
  | null => exact absurd rfl plain.1
  | list items => cases plain.2
  | _ => cases h : a.isCollection <;> simp [Arity.check, h]

/-- A single value is its own only item, and no collection. -/
theorem ValueType.validate_of_isPlain (plain : v.IsPlain) :
    t.validate files v = .ok () ↔
      t.arity.isCollection = false ∧ t.validateItem files v = .ok () := by
  obtain ⟨kind, a, hook⟩ := t
  rw [ValueType.validate, Checked.bind_eq_ok, Arity.check_of_isPlain plain]
  cases v with
  | null => exact absurd rfl plain.1
  | list items => cases plain.2
  | _ => exact Iff.rfl

theorem ValueType.normalize_of_isPlain (plain : v.IsPlain) :
    t.normalize files v = t.kind.normalize files v := by
  obtain ⟨kind, a, hook⟩ := t
  cases v with
  | null => exact absurd rfl plain.1
  | list items => cases plain.2
  | _ => simp only [ValueType.normalize]; rfl

/-! ## Alternatives -/

theorem ValueType.accepts_iff : t.accepts files v = true ↔ t.validate files v = .ok () := by
  unfold ValueType.accepts
  cases t.validate files v with
  | ok u => exact iff_of_true rfl rfl
  | error r =>
      refine iff_of_false Bool.false_ne_true ?_
      intro h
      cases h

/-- Alternatives that do not accept the value are passed over. -/
theorem ValueType.normalizeAny_append {before after : List ValueType}
    (refuse : ∀ s ∈ before, s.validate files v ≠ .ok ()) (accept : t.validate files v = .ok ()) :
    ValueType.normalizeAny files (before ++ t :: after) v = t.normalize files v := by
  induction before with
  | nil =>
      rw [List.nil_append, ValueType.normalizeAny, if_pos (accepts_iff.mpr accept)]
  | cons s before ih =>
      have no : ¬ s.accepts files v = true := by
        rw [accepts_iff]
        exact refuse s List.mem_cons_self
      rw [List.cons_append, ValueType.normalizeAny, if_neg no]
      exact ih fun s hs => refuse s (List.mem_cons_of_mem _ hs)

/-- A choice accepts a value by the first alternative that does, and normalizes
it as that one does. -/
theorem Kind.exists_first_of_accept_anyOf {alternatives : List ValueType}
    (h : (Kind.anyOf alternatives).accept files v = .ok ()) :
    ∃ before t after, alternatives = before ++ t :: after ∧
      (∀ s ∈ before, s.validate files v ≠ .ok ()) ∧ t.validate files v = .ok () ∧
      (Kind.anyOf alternatives).normalize files v = t.normalize files v := by
  obtain ⟨s, hs, accept⟩ := Kind.accept_anyOf_eq_ok.mp h
  have found : (alternatives.find? (ValueType.accepts files · v)).isSome :=
    List.find?_isSome.mpr ⟨s, hs, ValueType.accepts_iff.mpr accept⟩
  obtain ⟨t, first⟩ := Option.isSome_iff_exists.mp found
  obtain ⟨ht, before, after, rfl, pass⟩ := List.find?_eq_some_iff_append.mp first
  have accept : t.validate files v = .ok () := ValueType.accepts_iff.mp ht
  have refuse : ∀ s ∈ before, s.validate files v ≠ .ok () := by
    intro s hs yes
    have no := pass s hs
    rw [ValueType.accepts_iff.mpr yes] at no
    cases no
  refine ⟨before, t, after, rfl, refuse, accept, ?_⟩
  rw [Kind.normalize]
  exact ValueType.normalizeAny_append refuse accept

end Choice

end TypeSchema
