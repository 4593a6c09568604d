/-
# Choice — what is written for a value of a choice

A choice writes a single value in the words of the first alternative that
accepts it (`ValueType.writeText_anyOf`).

* An alternative that passes the value over when it is validated passes it over
  when it is written, unless it is a collection: the arities of alternatives
  count for validation only (`firstTextOf_append`).
* Whether there is a text at all does not depend on the alternative: objects
  and maps have none, nor has a date whose year has not four digits
  (`Value.refusal?`, `Kind.textOf_eq_error_iff`).
* A list is never written, even if a collection among the alternatives accepts
  it (`Kind.textOf_list`).
-/
import TypeSchema.Proofs.TextForm.RoundTrip
import TypeSchema.Proofs.ValueType.Acceptance

namespace TypeSchema

open Steps

variable {files : FileTree} {v : Value}

/-! ## Values without a text -/

/-- Why a single value has no text, whatever type accepts it. -/
def Value.refusal? : Value → Option SchemaError
  | .object _ => some (.unsupported .classText .api)
  | .map _ => some (.unsupported .dictionaryText .api)
  | .date d => if d.hasFourDigitYear then none else some (.invalidValue (.here (.yearForm d.year)))
  | .dateTime dt =>
    if dt.date.hasFourDigitYear then none
    else some (.invalidValue (.here (.yearForm dt.date.year)))
  | _ => none

theorem textOf_dated {d : Date} {text : String} {e : SchemaError} :
    (do checkYear d; return text) = .error e ↔
      (if d.hasFourDigitYear then none else some (.invalidValue (.here (.yearForm d.year)))) =
        some e := by
  unfold checkYear
  split
  · exact iff_of_false nofun nofun
  · constructor
    · intro h
      exact congrArg some (Except.error.inj h)
    · intro h
      exact congrArg Except.error (Option.some.inj h)

section Writing

attribute [local simp] Kind.accept mismatch Kind.textOf unwritable Value.refusal?

mutual

/-- An accepted single value has a text, unless there is none for it at all. -/
theorem Kind.textOf_eq_error_iff (plain : v.IsPlain) {e : SchemaError} :
    ∀ k : Kind, k.accept files v = .ok () →
      (k.textOf files v = .error e ↔ v.refusal? = some e) := by
  intro k accept
  match k with
  | .anyOf ts =>
      obtain ⟨t, ht, valid⟩ := Kind.accept_anyOf_eq_ok.mp accept
      rw [Kind.textOf]
      exact ValueType.firstTextOf_eq_error_iff plain ts
        ⟨t, ht, ((ValueType.validate_of_isPlain plain).mp valid).2⟩
  | .date =>
      cases v with
      | date d => rw [Kind.textOf]; exact textOf_dated
      | _ => simp at accept
  | .dateTime =>
      cases v with
      | dateTime dt => rw [Kind.textOf]; exact textOf_dated
      | _ => simp at accept
  | .bool | .int _ | .number _ | .string _ | .enumeration _ | .time | .duration | .guid | .uri
  | .filename _ | .directory _ | .object _ _ | .dict _ _ => cases v <;> simp at accept ⊢

theorem ValueType.firstTextOf_eq_error_iff (plain : v.IsPlain) {e : SchemaError} :
    ∀ ts : List ValueType, (∃ t ∈ ts, t.validateItem files v = .ok ()) →
      (ValueType.firstTextOf files ts v = .error e ↔ v.refusal? = some e) := by
  intro ts accept
  match ts with
  | [] => exact absurd accept (by simp)
  | .mk kind a hook :: rest =>
      rw [ValueType.firstTextOf]
      split
      case h_1 u valid =>
          exact Kind.textOf_eq_error_iff plain kind (ValueType.accept_of_validateItem valid)
      case h_2 r refuse =>
          rw [List.exists_mem_cons_iff, refuse] at accept
          exact ValueType.firstTextOf_eq_error_iff plain rest (accept.resolve_left nofun)

end

mutual

/-- Nothing is written for a list, even where it is accepted. -/
theorem Kind.textOf_list {items : List Value} :
    ∀ k : Kind, k.accept files (.list items) = .ok () →
      ∃ r, k.textOf files (.list items) = .error (.invalidValue r) := by
  intro k accept
  match k with
  | .anyOf ts =>
      rw [Kind.textOf]
      exact ValueType.firstTextOf_list ts
  | .bool | .int _ | .number _ | .string _ | .enumeration _ | .date | .time | .dateTime | .duration
  | .guid | .uri | .filename _ | .directory _ | .object _ _ | .dict _ _ => simp at accept

theorem ValueType.firstTextOf_list {items : List Value} :
    ∀ ts : List ValueType,
      ∃ r, ValueType.firstTextOf files ts (.list items) = .error (.invalidValue r) := by
  intro ts
  match ts with
  | [] =>
      rw [ValueType.firstTextOf]
      exact ⟨_, rfl⟩
  | .mk kind a hook :: rest =>
      rw [ValueType.firstTextOf]
      split
      case h_1 u valid => exact Kind.textOf_list kind (ValueType.accept_of_validateItem valid)
      case h_2 r refuse => exact ValueType.firstTextOf_list rest

end

end Writing

/-! ## The alternative that writes -/

variable {t : ValueType}

theorem ValueType.writeText_of_validateItem (h : t.validateItem files v = .ok ()) :
    t.writeText files v = t.kind.textOf files v := by
  rw [ValueType.writeText, h]

/-- Alternatives that do not accept the value as an item are passed over. -/
theorem ValueType.firstTextOf_append {before after : List ValueType}
    (refuse : ∀ s ∈ before, s.validateItem files v ≠ .ok ())
    (accept : t.validateItem files v = .ok ()) :
    ValueType.firstTextOf files (before ++ t :: after) v = t.kind.textOf files v := by
  induction before with
  | nil =>
      obtain ⟨kind, a, hook⟩ := t
      rw [List.nil_append, ValueType.firstTextOf, accept]
      rfl
  | cons s before ih =>
      obtain ⟨kind, a, hook⟩ := s
      rw [List.cons_append, ValueType.firstTextOf]
      split
      case h_1 u valid => exact absurd valid (refuse _ List.mem_cons_self)
      case h_2 r _ => exact ih fun s hs => refuse s (List.mem_cons_of_mem _ hs)

/-- The first alternative that accepts the value normalizes it, and writes it as
well: unless it is a list, which nothing is written for, or an alternative before
it is a collection that has the value for an item. -/
theorem ValueType.writeText_anyOf {alternatives : List ValueType} {a : Arity} {hook : Option Hook}
    (there : v ≠ .null)
    (accept : (ValueType.mk (.anyOf alternatives) a hook).validateItem files v = .ok ()) :
    ∃ before t after, alternatives = before ++ t :: after ∧
      (∀ s ∈ before, s.validate files v ≠ .ok ()) ∧ t.validate files v = .ok () ∧
      (Kind.anyOf alternatives).normalize files v = t.normalize files v ∧
      (v.items? = none →
        (ValueType.mk (.anyOf alternatives) a hook).normalize files v = t.normalize files v ∧
        ((∀ s ∈ before, s.arity.isCollection = true → s.validateItem files v ≠ .ok ()) →
          (ValueType.mk (.anyOf alternatives) a hook).writeText files v = t.writeText files v) ∧
        ∀ e, (ValueType.mk (.anyOf alternatives) a hook).writeText files v = .error e ↔
          v.refusal? = some e) ∧
      (v.items? ≠ none → ∃ r,
        (ValueType.mk (.anyOf alternatives) a hook).writeText files v =
          .error (.invalidValue r)) := by
  have kind := ValueType.accept_of_validateItem accept
  rw [ValueType.writeText_of_validateItem accept]
  obtain ⟨before, t, after, split, refuse, valid, normal⟩ := Kind.exists_first_of_accept_anyOf kind
  refine ⟨before, t, after, split, refuse, valid, normal, ?_, ?_⟩
  · intro single
    have plain : v.IsPlain := ⟨there, single⟩
    refine ⟨(ValueType.normalize_of_isPlain plain).trans normal, ?_, ?_⟩
    · intro unlisted
      have item : t.validateItem files v = .ok () :=
        ((ValueType.validate_of_isPlain plain).mp valid).2
      have pass : ∀ s ∈ before, s.validateItem files v ≠ .ok () := by
        intro s hs yes
        cases collection : s.arity.isCollection with
        | true => exact unlisted s hs collection yes
        | false => exact refuse s hs ((ValueType.validate_of_isPlain plain).mpr ⟨collection, yes⟩)
      rw [ValueType.writeText_of_validateItem item]
      show (Kind.anyOf alternatives).textOf files v = _
      rw [Kind.textOf, split]
      exact ValueType.firstTextOf_append pass item
    · intro e
      exact Kind.textOf_eq_error_iff plain _ kind
  · intro list
    cases v with
    | list items => exact Kind.textOf_list _ kind
    | _ => exact absurd rfl list

/-! ## Lists and items of lists -/

/-- Integers, one at least. -/
def someInts : ValueType := .mk (.int ⟨none, none, none⟩) .oneOrMore none

/-- Numbers of any size. -/
def anyNumber : ValueType := .mk (.number ⟨none, none⟩) .single none

/-- A list that an alternative accepts has no text.  A single integer is written
as an item of a list of integers, though a number is the first to accept it: it
is no list. -/
theorem ValueType.writeText_anyOf_someInts :
    (ValueType.mk (.anyOf [someInts]) .single none).validateItem .empty (.list [.int 1]) = .ok () ∧
    someInts.validate .empty (.list [.int 1]) = .ok () ∧
    (ValueType.mk (.anyOf [someInts]) .single none).writeText .empty (.list [.int 1]) =
      .error (.invalidValue
        (.here (.mismatch "a value accepted by one of the alternatives" "list"))) ∧
    (ValueType.mk (.anyOf [someInts, anyNumber]) .single none).validateItem .empty
      (.int 9007199254740993) = .ok () ∧
    someInts.validate .empty (.int 9007199254740993) ≠ .ok () ∧
    anyNumber.validate .empty (.int 9007199254740993) = .ok () ∧
    anyNumber.writeText .empty (.int 9007199254740993) = .ok "9007199254740992" ∧
    (ValueType.mk (.anyOf [someInts, anyNumber]) .single none).writeText .empty
      (.int 9007199254740993) = .ok "9007199254740993" := by
  refine ⟨rfl, rfl, rfl, rfl, ?_, rfl, rfl, rfl⟩
  intro h
  cases h

/-- A list of dates, or else a single thing: a word of truth or a number. -/
def datesOrScalar : List ValueType :=
  [.mk .date .oneOrMore none, .mk (.anyOf [.mk .bool .single none, anyNumber]) .optional none]

/-- An instance: seven is no list of dates, so it is written as a number. -/
theorem ValueType.writeText_anyOf_seven :
    Value.int 7 ≠ .null ∧
    (ValueType.mk (.anyOf datesOrScalar) .single none).validateItem .empty (.int 7) = .ok () ∧
    ∃ before t after, datesOrScalar = before ++ t :: after ∧
      (∀ s ∈ before, s.validate .empty (.int 7) ≠ .ok ()) ∧
      t.validate .empty (.int 7) = .ok () ∧
      (ValueType.mk (.anyOf datesOrScalar) .single none).normalize .empty (.int 7) =
        t.normalize .empty (.int 7) ∧
      (ValueType.mk (.anyOf datesOrScalar) .single none).writeText .empty (.int 7) =
        t.writeText .empty (.int 7) ∧
      ∀ e, (ValueType.mk (.anyOf datesOrScalar) .single none).writeText .empty (.int 7) ≠
        .error e := by
  have there : Value.int 7 ≠ .null := nofun
  have accept : (ValueType.mk (.anyOf datesOrScalar) .single none).validateItem .empty
      (.int 7) = .ok () := rfl
  obtain ⟨before, t, after, split, refuse, valid, -, single, -⟩ :=
    ValueType.writeText_anyOf there accept
  obtain ⟨normal, written, refused⟩ := single rfl
  have unlisted : ∀ s ∈ before, s.arity.isCollection = true →
      s.validateItem .empty (.int 7) ≠ .ok () := by
    intro s hs collection
    have mem : s ∈ datesOrScalar := split ▸ List.mem_append_left _ hs
    rcases List.mem_pair.mp mem with rfl | rfl
    · intro h
      cases h
    · cases collection
  refine ⟨there, accept, before, t, after, split, refuse, valid, normal, written unlisted, ?_⟩
  intro e h
  cases (refused e).mp h

end TypeSchema
