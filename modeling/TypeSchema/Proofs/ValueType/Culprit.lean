/-
# Culprit — where a value is rejected

A rejection names a place inside of the value.  The steps to it lead through
lists, by the index of an item, and through objects and maps, by the name of a
member; the type goes along, from a collection to one of its items and from a
class to the type of the member (`Demand.Leads`).  Nothing before a step and no
arity on the way is at fault, and what is asked at the end is refused there as
a whole (`ValueType.validate_eq_error_iff`).

Rejections are looked at from the outside, one segment of their path after the
other: a check that refuses with a path has handed on what a part of the value
is refused for, and all other checks refuse without one (`Checked.IsLocal`).  So
the induction is on the path, and alternatives, whose rejections go into the
reason and not into the path, end it.
-/
import TypeSchema.Proofs.ValueType.Acceptance

namespace TypeSchema

/-! ## Ways into a value -/

/-- A step from a value to what is directly inside of it. -/
inductive Rejection.Step where
  | item (i : Nat)
  | member (name : String)
deriving DecidableEq

namespace Rejection.Step

/-- The segment of a path that stands for a step. -/
def segment : Step → String
  | .item i => Numeral.ofNat i
  | .member name => name

/-- The text of a way: every step behind a slash. -/
def wayText : List Step → String
  | [] => ""
  | s :: rest => "/" ++ s.segment ++ wayText rest

theorem pathText_eq (steps : List Step) :
    Rejection.pathText (steps.map (·.segment)) = wayText steps := by
  rw [Rejection.pathText, List.map_map]
  induction steps with
  | nil => rfl
  | cons s rest ih => rw [List.map_cons, String.join_cons, ih, wayText, Function.comp_apply]

end Rejection.Step

/-- The members that a kind has for the fields of a value, if it has members and
the value fields. -/
def Kind.inside? : Kind → Value → Option (List Member × List (String × Value))
  | .object members _, .object fields => some (members, fields)
  | .dict members _, .map entries => some (members, entries)
  | _, _ => none

/-- What a member is asked about: the field of its name, or nothing where there
is none. -/
def Member.field (m : Member) (fields : List (String × Value)) : Value :=
  (Fields.find? m.name fields).getD .null

/-- What is asked of a value: to be of a type, or to be a single item of one. -/
inductive Demand where
  | whole (t : ValueType) (v : Value)
  | item (t : ValueType) (v : Value)

namespace Demand

/-- Whether the value does what is asked. -/
def check (files : FileTree) : Demand → Checked
  | .whole t v => t.validate files v
  | .item t v => t.validateItem files v

/-- Steps lead from what is asked of a value to what is thereby asked of a part
of it, past nothing that is at fault. -/
inductive Leads (files : FileTree) : Demand → List Rejection.Step → Demand → Prop
  | here (d : Demand) : Leads files d [] d
  /-- A value of no collection is its own only item. -/
  | single {t : ValueType} {v : Value} {steps : List Rejection.Step} {d : Demand}
      (shape : t.validateArity v = .ok ()) (alone : t.arity.isCollection = false)
      (there : v ≠ .null) (rest : Leads files (.item t v) steps d) :
      Leads files (.whole t v) steps d
  | item {t : ValueType} {items : List Value} {i : Nat} {w : Value}
      {steps : List Rejection.Step} {d : Demand}
      (shape : t.validateArity (.list items) = .ok ()) (several : t.arity.isCollection = true)
      (place : items[i]? = some w)
      (earlier : ∀ u ∈ items.take i, t.validateItem files u = .ok ())
      (rest : Leads files (.item t w) steps d) :
      Leads files (.whole t (.list items)) (.item i :: steps) d
  | member {t : ValueType} {v : Value} {members : List Member} {fields : List (String × Value)}
      {i : Nat} {m : Member} {steps : List Rejection.Step} {d : Demand}
      (inside : t.kind.inside? v = some (members, fields)) (place : members[i]? = some m)
      (earlier : ∀ n ∈ members.take i, n.type.validate files (n.field fields) = .ok ())
      (rest : Leads files (.whole m.type (m.field fields)) steps d) :
      Leads files (.item t v) (.member m.name :: steps) d

end Demand

/-! ## Checks that look no further -/

/-- A check that refuses a value refuses it as a whole. -/
def Checked.IsLocal (x : Checked) : Prop := ∀ r, x = .error r → r.path = []

namespace Checked.IsLocal

variable {x : Checked} {f : Unit → Checked}

@[simp]
theorem ok : IsLocal (.ok ()) := nofun

@[simp]
theorem here (reason : Rejection.Reason) : IsLocal (.error (.here reason)) := by
  rintro _ ⟨⟩
  rfl

/-- A check that refuses on a condition and goes on otherwise. -/
@[simp]
theorem refuseIf {c : Prop} [Decidable c] {reason : Rejection.Reason} :
    IsLocal (if c then .error (.here reason) else x) ↔ (¬ c → IsLocal x) := by
  split
  · rename_i h
    exact iff_of_true (here reason) fun no => absurd h no
  · rename_i h
    exact ⟨fun local' _ => local', fun local' => local' h⟩

theorem bind (hx : IsLocal x) (hf : IsLocal (f ())) : IsLocal (x >>= f) := by
  intro r h
  rcases Steps.except_bind_eq_error.mp h with first | ⟨_, -, second⟩
  · exact hx r first
  · exact hf r second

end Checked.IsLocal

section Limits

variable {files : FileTree}

@[simp]
theorem isLocal_mismatch {expected : String} {v : Value} : (mismatch expected v).IsLocal :=
  .here _

theorem Arity.isLocal_check (a : Arity) (v : Value) : (a.check v).IsLocal := by
  unfold Arity.check Arity.checkCount
  cases v <;> repeat' split
  all_goals simp

theorem IntLimits.isLocal_accept (l : IntLimits) (i : Int64) : (l.accept i).IsLocal := by
  unfold IntLimits.accept
  cases l.min <;> cases l.max <;> cases l.widthBounds <;> simp

theorem NumberLimits.isLocal_accept (l : NumberLimits) (d : Double) : (l.accept d).IsLocal := by
  unfold NumberLimits.accept
  cases l.min <;> cases l.max <;> simp

theorem StringLimits.isLocal_accept (l : StringLimits) (s : String) : (l.accept s).IsLocal := by
  unfold StringLimits.accept
  cases l.maxLength <;> cases l.expression <;> simp

theorem EnumLimits.isLocal_accept (l : EnumLimits) (s : String) : (l.accept s).IsLocal := by
  unfold EnumLimits.accept
  split <;> simp

theorem FilenameLimits.isLocal_accept (l : FilenameLimits) (p : Path) :
    (l.accept files p).IsLocal := by
  unfold FilenameLimits.accept
  repeat' split
  all_goals simp

theorem isLocal_acceptDirectory (ensureExists : Bool) (p : Path) :
    (acceptDirectory files ensureExists p).IsLocal := by
  unfold acceptDirectory
  simp

theorem Hook.isLocal_accept (hook : Option Hook) (v : Value) : (Hook.accept hook v).IsLocal := by
  unfold Hook.accept
  repeat' split
  all_goals simp

theorem isLocal_checkExtra (members : List Member) (exact : Bool)
    (fields : List (String × Value)) : (checkExtra members exact fields).IsLocal := by
  unfold checkExtra
  repeat' split
  all_goals simp

/-- What alternatives reject a value for goes into the reason. -/
theorem ValueType.isLocal_acceptAny (alternatives : List ValueType)
    (reasons : List (String × List String × Rejection.Reason)) (v : Value) :
    (ValueType.acceptAny files reasons alternatives v).IsLocal := by
  induction alternatives generalizing reasons with
  | nil =>
      rw [acceptAny]
      exact .here _
  | cons t rest ih =>
      rw [acceptAny]
      split
      · exact .ok
      · exact ih _

end Limits

/-! ## Checks of parts -/

section Parts

variable {α : Type} {files : FileTree} {r : Rejection}

/-- Checked one after the other, things are refused for the first of them that is. -/
def Checked.StopsWith (check : α → Checked) (segment : Nat → α → String) (xs : List α)
    (r : Rejection) : Prop :=
  ∃ i x s, xs[i]? = some x ∧ (∀ y ∈ xs.take i, check y = .ok ()) ∧ check x = .error s ∧
    r = s.within (segment i x)

theorem Checked.not_stopsWith_nil {check : α → Checked} {segment : Nat → α → String} :
    ¬ StopsWith check segment [] r := by
  rintro ⟨i, x, s, place, -⟩
  cases place

theorem Checked.stopsWith_cons {check : α → Checked} {segment : Nat → α → String} {x : α}
    {xs : List α} :
    StopsWith check segment (x :: xs) r ↔
      (∃ s, check x = .error s ∧ r = s.within (segment 0 x)) ∨
        check x = .ok () ∧ StopsWith check (fun i => segment (i + 1)) xs r := by
  constructor
  · rintro ⟨i, y, s, place, earlier, fails, rfl⟩
    cases i with
    | zero =>
        cases place
        exact .inl ⟨s, fails, rfl⟩
    | succ i =>
        rw [List.take_succ_cons] at earlier
        obtain ⟨first, earlier⟩ := List.forall_mem_cons.mp earlier
        exact .inr ⟨first, i, y, s, place, earlier, fails, rfl⟩
  · rintro (⟨s, fails, rfl⟩ | ⟨first, i, y, s, place, earlier, fails, rfl⟩)
    · exact ⟨0, x, s, rfl, List.forall_mem_nil _, fails, rfl⟩
    · refine ⟨i + 1, y, s, place, ?_, fails, rfl⟩
      rw [List.take_succ_cons]
      exact List.forall_mem_cons.mpr ⟨first, earlier⟩

theorem checkItems_eq_error {check : Value → Checked} {start : Nat} {items : List Value} :
    checkItems check start items = .error r ↔
      Checked.StopsWith check (fun i _ => Numeral.ofNat (start + i)) items r := by
  induction items generalizing start with
  | nil =>
      rw [checkItems]
      exact iff_of_false (by simp) Checked.not_stopsWith_nil
  | cons w rest ih =>
      have later : (fun (i : Nat) (_ : Value) => Numeral.ofNat (start + (i + 1))) =
          fun i _ => Numeral.ofNat (start + 1 + i) := by
        funext i _
        rw [Nat.add_right_comm, Nat.add_assoc]
      rw [checkItems, Checked.stopsWith_cons, later, ← ih]
      cases check w with
      | ok u => simp
      | error s => simpa using eq_comm

theorem Member.acceptAll_eq_error {members : List Member} {fields : List (String × Value)} :
    Member.acceptAll files members fields = .error r ↔
      Checked.StopsWith (fun m : Member => m.type.validate files (m.field fields))
        (fun _ m => m.name) members r := by
  induction members with
  | nil =>
      rw [acceptAll]
      exact iff_of_false (by simp) Checked.not_stopsWith_nil
  | cons m rest ih =>
      obtain ⟨name, type⟩ := m
      rw [acceptAll, Checked.stopsWith_cons, ← ih]
      have same : (Member.mk name type).type.validate files (Member.field (.mk name type) fields) =
        type.validate files ((Fields.find? name fields).getD .null) := rfl
      rw [same]
      cases type.validate files ((Fields.find? name fields).getD .null) with
      | ok u => simp
      | error s => simpa [Member.name] using eq_comm

end Parts

/-! ## Steps into a value -/

section Steps

variable {files : FileTree} {t : ValueType} {v : Value} {r : Rejection}

variable (files) in
theorem Kind.accept_of_inside? {k : Kind} {members : List Member} {fields : List (String × Value)}
    (inside : k.inside? v = some (members, fields)) :
    ∃ exact, k.accept files v =
      (do Member.acceptAll files members fields; checkExtra members exact fields) := by
  unfold Kind.inside? at inside
  split at inside
  · rename_i members' exact fields'
    cases inside
    exact ⟨exact, by rw [Kind.accept]⟩
  · rename_i members' exact fields'
    cases inside
    exact ⟨exact, by rw [Kind.accept]⟩
  · cases inside

/-- Only members lead further into a value. -/
theorem Kind.isLocal_accept {k : Kind} (outside : k.inside? v = none) :
    (k.accept files v).IsLocal := by
  cases k with
  | int l => cases v <;> simp [Kind.accept, l.isLocal_accept]
  | number l => cases v <;> simp [Kind.accept, l.isLocal_accept]
  | string l => cases v <;> simp [Kind.accept, l.isLocal_accept]
  | enumeration l => cases v <;> simp [Kind.accept, l.isLocal_accept]
  | filename l => cases v <;> simp [Kind.accept, l.isLocal_accept]
  | directory e => cases v <;> simp [Kind.accept, isLocal_acceptDirectory]
  | object members exact =>
      cases v with
      | object fields => cases outside
      | _ => simp [Kind.accept]
  | dict members exact =>
      cases v with
      | map entries => cases outside
      | _ => simp [Kind.accept]
  | anyOf alternatives =>
      rw [Kind.accept]
      exact ValueType.isLocal_acceptAny alternatives [] v
  | _ => cases v <;> simp [Kind.accept]

/-- An item that is refused with a path is refused for one of its members. -/
theorem ValueType.stopsWith_of_validateItem (h : t.validateItem files v = .error r)
    (further : r.path ≠ []) : ∃ members fields, t.kind.inside? v = some (members, fields) ∧
      Checked.StopsWith (fun m : Member => m.type.validate files (m.field fields))
        (fun _ m => m.name) members r := by
  rcases Steps.except_bind_eq_error.mp h with fails | ⟨_, -, fails⟩
  · cases inside : t.kind.inside? v with
    | none => exact absurd (Kind.isLocal_accept inside r fails) further
    | some parts =>
        obtain ⟨members, fields⟩ := parts
        refine ⟨members, fields, rfl, Member.acceptAll_eq_error.mp ?_⟩
        obtain ⟨exact, same⟩ := Kind.accept_of_inside? files inside
        rw [same] at fails
        rcases Steps.except_bind_eq_error.mp fails with fails | ⟨_, -, fails⟩
        · exact fails
        · exact absurd (isLocal_checkExtra members exact fields r fails) further
  · exact absurd (Hook.isLocal_accept t.hook v r fails) further

/-- In the other direction, what a member is refused for its item is refused for. -/
theorem ValueType.validateItem_of_stopsWith {members : List Member}
    {fields : List (String × Value)} (inside : t.kind.inside? v = some (members, fields))
    (h : Checked.StopsWith (fun m : Member => m.type.validate files (m.field fields))
      (fun _ m => m.name) members r) : t.validateItem files v = .error r := by
  obtain ⟨exact, same⟩ := Kind.accept_of_inside? files inside
  have fails : t.kind.accept files v = .error r := by
    rw [same]
    exact Steps.except_bind_eq_error.mpr (.inl (Member.acceptAll_eq_error.mpr h))
  exact Steps.except_bind_eq_error.mpr (.inl fails)

theorem ValueType.validate_single_eq (alone : t.arity.isCollection = false) (there : v ≠ .null)
    (shape : t.validateArity v = .ok ()) : t.validate files v = t.validateItem files v := by
  obtain ⟨kind, a, hook⟩ := t
  have shape : a.check v = .ok () := shape
  have alone : a.isCollection = false := alone
  rw [validate, shape]
  cases v with
  | null => exact absurd rfl there
  | list items =>
      rw [Arity.check, alone] at shape
      cases shape
  | _ => rfl

theorem ValueType.validate_several_eq_error {items : List Value}
    (several : t.arity.isCollection = true) (shape : t.validateArity (.list items) = .ok ()) :
    t.validate files (.list items) = .error r ↔
      Checked.StopsWith (t.validateItem files) (fun i _ => Numeral.ofNat i) items r := by
  have rows : t.validate files (.list items) = checkItems (t.validateItem files) 0 items := by
    obtain ⟨kind, a, hook⟩ := t
    have shape : a.check (.list items) = .ok () := shape
    have several : a.isCollection = true := several
    rw [validate, shape]
    exact if_pos several
  rw [rows, checkItems_eq_error]
  simp only [Nat.zero_add]

theorem ValueType.validate_of_validateArity (shape : t.validateArity v = .error r) :
    t.validate files v = .error r := by
  obtain ⟨kind, a, hook⟩ := t
  have shape : a.check v = .error r := shape
  rw [validate, shape]
  rfl

theorem ValueType.validate_null_of_validateArity (shape : t.validateArity .null = .ok ()) :
    t.validate files .null = .ok () := by
  obtain ⟨kind, a, hook⟩ := t
  have shape : a.check .null = .ok () := shape
  rw [validate, shape]
  rfl

/-- Nothing but a list has the shape of a collection. -/
theorem Arity.exists_list_of_check {a : Arity} (shape : a.check v = .ok ()) (there : v ≠ .null)
    (several : a.isCollection = true) : ∃ items, v = .list items := by
  cases v with
  | null => exact absurd rfl there
  | list items => exact ⟨items, rfl⟩
  | _ => cases (if_pos several).symm.trans shape

end Steps

/-! ## Culprits -/

namespace Demand

variable {files : FileTree}

/-- What a part is refused for the whole is refused for, at the steps to the part. -/
theorem Leads.check_eq_error {d e : Demand} {steps : List Rejection.Step} {r : Rejection}
    (leads : Leads files d steps e) (fails : e.check files = .error r) :
    d.check files = .error ⟨steps.map (·.segment) ++ r.path, r.reason⟩ := by
  induction leads with
  | here d => exact fails
  | single shape alone there _ ih =>
      exact (ValueType.validate_single_eq alone there shape).trans (ih fails)
  | @item t items i w _ _ shape several place earlier _ ih =>
      exact (ValueType.validate_several_eq_error several shape).mpr
        ⟨i, w, _, place, earlier, ih fails, rfl⟩
  | member inside place earlier _ ih =>
      exact ValueType.validateItem_of_stopsWith inside ⟨_, _, _, place, earlier, ih fails, rfl⟩

theorem Leads.trans {d e f : Demand} {steps steps' : List Rejection.Step}
    (first : Leads files d steps e) (second : Leads files e steps' f) :
    Leads files d (steps ++ steps') f := by
  induction first with
  | here d => exact second
  | single shape alone there _ ih => exact .single shape alone there (ih second)
  | item shape several place earlier _ ih => exact .item shape several place earlier (ih second)
  | member inside place earlier _ ih => exact .member inside place earlier (ih second)

theorem exists_step_of_item {t : ValueType} {v : Value} {r : Rejection}
    (fails : t.validateItem files v = .error r) (further : r.path ≠ []) :
    ∃ step e s, Leads files (.item t v) [step] e ∧ e.check files = .error s ∧
      r = s.within step.segment := by
  obtain ⟨members, fields, inside, i, m, s, place, earlier, part, rfl⟩ :=
    ValueType.stopsWith_of_validateItem fails further
  exact ⟨.member m.name, .whole m.type (m.field fields), s,
    .member inside place earlier (.here _), part, rfl⟩

/-- A rejection with a path comes from what the first segment of it names. -/
theorem exists_step {d : Demand} {r : Rejection} (fails : d.check files = .error r)
    (further : r.path ≠ []) :
    ∃ step e s, Leads files d [step] e ∧ e.check files = .error s ∧
      r = s.within step.segment := by
  cases d with
  | item t v => exact exists_step_of_item fails further
  | whole t v =>
      have fails : t.validate files v = .error r := fails
      have shape : t.validateArity v = .ok () := by
        cases shape : t.validateArity v with
        | ok u => rfl
        | error s =>
            cases (ValueType.validate_of_validateArity shape).symm.trans fails
            exact absurd (t.arity.isLocal_check v _ shape) further
      have there : v ≠ .null := by
        rintro rfl
        cases (ValueType.validate_null_of_validateArity shape).symm.trans fails
      cases several : t.arity.isCollection with
      | false =>
          rw [ValueType.validate_single_eq several there shape] at fails
          obtain ⟨step, e, s, leads, part, rfl⟩ := exists_step_of_item fails further
          exact ⟨step, e, s, .single shape several there leads, part, rfl⟩
      | true =>
          obtain ⟨items, rfl⟩ := Arity.exists_list_of_check shape there several
          obtain ⟨i, w, s, place, earlier, part, rfl⟩ :=
            (ValueType.validate_several_eq_error several shape).mp fails
          exact ⟨.item i, .item t w, s, .item shape several place earlier (.here _), part, rfl⟩

/-- Step by step a rejection leads to what is refused as a whole. -/
theorem exists_culprit {d : Demand} {r : Rejection} (fails : d.check files = .error r) :
    ∃ steps e, Leads files d steps e ∧ e.check files = .error (.here r.reason) ∧
      r.path = steps.map (·.segment) := by
  obtain ⟨path, reason⟩ := r
  induction path generalizing d with
  | nil => exact ⟨[], d, .here d, fails, rfl⟩
  | cons segment path ih =>
      obtain ⟨step, e, ⟨path', reason'⟩, leads, fails, same⟩ :=
        exists_step fails (List.cons_ne_nil segment path)
      obtain ⟨⟨rfl, rfl⟩, rfl⟩ := Rejection.mk.inj same |>.imp_left List.cons.inj
      obtain ⟨steps, f, onward, culprit, rest⟩ := ih fails
      exact ⟨step :: steps, f, leads.trans onward, culprit, congrArg (step.segment :: ·) rest⟩

end Demand

/-- A value is rejected exactly if steps lead to a part of it that by itself is
refused as a whole, for the reason of the rejection: past items, members and
arities that are in order.  The path of the rejection names these steps. -/
theorem ValueType.validate_eq_error_iff {files : FileTree} {t : ValueType} {v : Value}
    {r : Rejection} :
    t.validate files v = .error r ↔
      ∃ steps d, Demand.Leads files (.whole t v) steps d ∧
        d.check files = .error (.here r.reason) ∧ r.path = steps.map (·.segment) ∧
        Rejection.pathText r.path = Rejection.Step.wayText steps := by
  constructor
  · intro h
    have fails : (Demand.whole t v).check files = .error r := h
    obtain ⟨steps, d, leads, culprit, path⟩ := Demand.exists_culprit fails
    refine ⟨steps, d, leads, culprit, path, ?_⟩
    rw [path]
    exact Rejection.Step.pathText_eq steps
  · rintro ⟨steps, d, leads, culprit, path, -⟩
    have h := leads.check_eq_error culprit
    rw [Rejection.here, List.append_nil, ← path] at h
    exact h

example :
    let row : ValueType := .mk (.object [.mk "id" (.mk .bool .single none)] false) .oneOrMore none
    let t : ValueType := .mk (.object [.mk "rows" row] false) .single none
    t.validate ⟨[], []⟩ (.object [("rows", .list [.object [("id", .bool true)], .object []])]) =
      .error ⟨["rows", "1", "id"], .required .single⟩ := by
  rfl

end TypeSchema
