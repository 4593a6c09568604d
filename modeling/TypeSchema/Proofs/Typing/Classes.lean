/-
# Classes — members that make a class

Members make a class if they have names, and no two of them one name
(`WellNamed`).  Giving a member its type and joining members keep names apart,
so what can go wrong is a name that is empty, or one that is added without
looking (`classOf_eq_error`).
-/
import Mathlib.Data.List.Nodup
import TypeSchema.Graph.Types
import TypeSchema.Proofs.ValueType.Tagged

namespace TypeSchema

open Declaration (Id)

namespace Member

/-- The names of members, in their order. -/
def names (ms : List Member) : List String := ms.map Member.name

@[simp] theorem names_nil : names [] = [] := rfl

@[simp] theorem names_cons (m : Member) (ms : List Member) : names (m :: ms) = m.name :: names ms :=
  rfl

@[simp] theorem names_append (ms more : List Member) :
    names (ms ++ more) = names ms ++ names more :=
  List.map_append

@[simp] theorem name_mk (name : String) (type : ValueType) : (mk name type).name = name := rfl

/-- All members have names, and no two of them one name. -/
structure WellNamed (ms : List Member) : Prop where
  distinct : (names ms).Nodup
  named : "" ∉ names ms

/-! ## Giving members their types -/

theorem names_put (name : String) (type : ValueType) (ms : List Member) :
    names (put name type ms) = if name ∈ names ms then names ms else names ms ++ [name] := by
  induction ms with
  | nil => rfl
  | cons m ms ih =>
      by_cases hm : m.name = name
      · simp [put, hm]
      · have hm' : ¬ name = m.name := fun h => hm h.symm
        by_cases hms : name ∈ names ms <;> simp [put, hm, hm', hms, ih]

theorem mem_names_put {name n : String} {type : ValueType} {ms : List Member} :
    n ∈ names (put name type ms) ↔ n ∈ names ms ∨ n = name := by
  rw [names_put]
  split
  · rename_i h
    constructor
    · exact .inl
    · rintro (hn | rfl)
      · exact hn
      · exact h
  · simp

theorem nodup_names_put {name : String} {type : ValueType} {ms : List Member}
    (h : (names ms).Nodup) : (names (put name type ms)).Nodup := by
  rw [names_put]
  split
  · exact h
  · rename_i fresh
    rw [← List.concat_eq_append]
    exact h.concat fresh

/-- Joining one member: it is left out where there is one of its name. -/
theorem names_joinNext (ms : List Member) (m : Member) :
    names (if ms.any (·.name = m.name) then ms else ms ++ [m])
      = if m.name ∈ names ms then names ms else names ms ++ [m.name] := by
  have same : ms.any (·.name = m.name) = true ↔ m.name ∈ names ms := by
    simp only [List.any_eq_true, decide_eq_true_eq, names, List.mem_map]
  by_cases h : m.name ∈ names ms
  · rw [if_pos h, if_pos (same.mpr h)]
  · rw [if_neg h, if_neg (mt same.mp h)]
    simp

theorem mem_names_join {n : String} {ms more : List Member} :
    n ∈ names (join ms more) ↔ n ∈ names ms ∨ n ∈ names more := by
  unfold join
  induction more generalizing ms with
  | nil => simp
  | cons m more ih =>
      rw [List.foldl_cons, ih, names_joinNext]
      split
      · rename_i hm
        constructor
        · rintro (hn | hn)
          · exact .inl hn
          · exact .inr (List.mem_cons_of_mem _ hn)
        · rintro (hn | hn)
          · exact .inl hn
          · rcases List.mem_cons.mp hn with rfl | hn
            · exact .inl hm
            · exact .inr hn
      · simp [or_assoc]

theorem nodup_names_join {ms more : List Member} (h : (names ms).Nodup) :
    (names (join ms more)).Nodup := by
  unfold join
  induction more generalizing ms with
  | nil => exact h
  | cons m more ih =>
      rw [List.foldl_cons]
      refine ih ?_
      rw [names_joinNext]
      split
      · exact h
      · rename_i fresh
        rw [← List.concat_eq_append]
        exact h.concat fresh

theorem not_mem_before {l before after : List String} {n : String} (h : l.Nodup)
    (split : l = before ++ n :: after) : n ∉ before := by
  subst split
  intro hn
  exact (List.nodup_append.mp h).2.2 n hn n List.mem_cons_self rfl

/-- If a name is added to different ones and one repeats, it is the one added. -/
theorem repeats_last {own before after : List String} {n last : String} (h : own.Nodup)
    (split : own ++ [last] = before ++ n :: after) (hn : n ∈ before) : n = last ∧ n ∈ own := by
  rcases List.eq_nil_or_concat after with rfl | ⟨rest, w, rfl⟩
  · obtain ⟨rfl, hlast⟩ := List.append_inj' split rfl
    cases hlast
    exact ⟨rfl, hn⟩
  · have split' : own ++ [last] = (before ++ n :: rest) ++ [w] := by simpa using split
    obtain ⟨hown, _⟩ := List.append_inj' split' rfl
    exact absurd hn (not_mem_before h hown)

/-! ## Checking names -/

theorem checkNames_eq_ok {seen : List String} {ms : List Member} :
    checkNames seen ms = .ok () ↔
      (names ms).Nodup ∧ "" ∉ names ms ∧ ∀ n ∈ names ms, n ∉ seen := by
  induction ms generalizing seen with
  | nil => simp [checkNames, names]
  | cons m ms ih =>
      unfold checkNames
      split
      · rename_i hname
        simp [hname]
      · split
        · rename_i hseen
          simp [hseen]
        · rename_i hname hseen
          rw [ih]
          simp only [names_cons, List.nodup_cons, List.mem_cons, not_or]
          constructor
          · rintro ⟨distinct, named, fresh⟩
            refine ⟨⟨fun hm => (fresh _ hm).1 rfl, distinct⟩, ⟨Ne.symm hname, named⟩, ?_⟩
            rintro n (rfl | hn)
            · exact hseen
            · exact (fresh n hn).2
          · rintro ⟨⟨hm, distinct⟩, ⟨_, named⟩, fresh⟩
            refine ⟨distinct, named, fun n hn => ⟨?_, fresh n (.inr hn)⟩⟩
            rintro rfl
            exact hm hn

/-- A check of names fails at an empty one, or at one that comes up again. -/
theorem checkNames_eq_error {seen : List String} {ms : List Member} {e : SchemaError}
    (h : checkNames seen ms = .error e) :
    e = .constraint ["members"] .unnamedMember ∧ "" ∈ names ms ∨
      ∃ n before after, e = .constraint ["members"] (.repeatedMember n) ∧
        names ms = before ++ n :: after ∧ (n ∈ seen ∨ n ∈ before) := by
  induction ms generalizing seen with
  | nil => cases h
  | cons m ms ih =>
      unfold checkNames at h
      split at h
      · rename_i hname
        cases h
        exact .inl ⟨rfl, by simp [hname]⟩
      · split at h
        · rename_i hseen
          cases h
          exact .inr ⟨m.name, [], names ms, rfl, rfl, .inl hseen⟩
        · rcases ih h with ⟨he, hmem⟩ | ⟨n, before, after, he, hsplit, hn⟩
          · exact .inl ⟨he, List.mem_cons_of_mem _ hmem⟩
          · refine .inr ⟨n, m.name :: before, after, he, ?_, ?_⟩
            · show m.name :: names ms = _
              rw [hsplit]
              rfl
            · rcases hn with hn | hn
              · rcases List.mem_cons.mp hn with rfl | hn
                · exact .inr List.mem_cons_self
                · exact .inl hn
              · exact .inr (List.mem_cons_of_mem _ hn)

end Member

/-! ## Classes -/

/-- If the type is a class, its members make one. -/
def ValueType.Formed (t : ValueType) : Prop :=
  ∀ members exact, t.kind = .object members exact → Member.WellNamed members

namespace Graph

open Member (names WellNamed)

/-- Members that have been given to children have the names of these. -/
theorem addMembers_eq_ok {g : Graph} {typeOf : Typing} {children : List Id} :
    ∀ {ms ms' : List Member}, g.addMembers typeOf ms children = .ok ms' →
      (∀ c ∈ children, ∃ t, typeOf c = .ok t) ∧ ((names ms).Nodup → (names ms').Nodup) ∧
        ∀ n, n ∈ names ms' ↔ n ∈ names ms ∨ ∃ c ∈ children, (g.node c).name.getD "" = n := by
  unfold addMembers
  induction children with
  | nil =>
      intro ms ms' h
      cases h
      simp
  | cons c children ih =>
      intro ms ms' h
      rw [List.foldlM_cons] at h
      obtain ⟨ms₁, hfirst, hrest⟩ := Steps.except_bind_eq_ok.mp h
      obtain ⟨t, ht, hput⟩ := Steps.except_bind_eq_ok.mp hfirst
      cases hput
      obtain ⟨typed, distinct, covers⟩ := ih hrest
      refine ⟨?_, fun hms => distinct (Member.nodup_names_put hms), fun n => ?_⟩
      · intro c' hc'
        rcases List.mem_cons.mp hc' with rfl | hc'
        · exact ⟨t, ht⟩
        · exact typed c' hc'
      · rw [covers, Member.mem_names_put]
        simp only [List.mem_cons, exists_eq_or_imp, or_assoc, @eq_comm _ n]

theorem addMembers_eq_error {g : Graph} {typeOf : Typing} {children : List Id} {e : SchemaError} :
    ∀ {ms : List Member}, g.addMembers typeOf ms children = .error e →
      ∃ c ∈ children, typeOf c = .error e := by
  unfold addMembers
  induction children with
  | nil => intro ms h; cases h
  | cons c children ih =>
      intro ms h
      rw [List.foldlM_cons] at h
      rcases Steps.except_bind_eq_error.mp h with hfirst | ⟨ms₁, _, hrest⟩
      · rcases Steps.except_bind_eq_error.mp hfirst with ht | ⟨t, _, hput⟩
        · exact ⟨c, List.mem_cons_self, ht⟩
        · cases hput
      · obtain ⟨c', hc', he⟩ := ih hrest
        exact ⟨c', List.mem_cons_of_mem _ hc', he⟩

theorem classOf_eq_ok {d : Declaration} {ms : List Member} {t : ValueType}
    (h : classOf d ms = .ok t) : WellNamed ms ∧ t.kind = .object ms (isExact d.metadata) := by
  obtain ⟨type, hof, hreturn⟩ := Steps.except_bind_eq_ok.mp h
  cases hreturn
  cases hcheck : Member.checkNames [] ms with
  | error e => simp [ValueType.ofKind, Kind.checkConstraints, hcheck, bind, Except.bind,
      Except.mapError] at hof
  | ok _ =>
      obtain ⟨distinct, named, _⟩ := Member.checkNames_eq_ok.mp hcheck
      simp only [ValueType.ofKind, Kind.checkConstraints, hcheck] at hof
      cases hof
      exact ⟨⟨distinct, named⟩, rfl⟩

/-- No class is made of members of which one has no name, or two have one. -/
theorem classOf_eq_error {d : Declaration} {ms : List Member} {e : SchemaError}
    (h : classOf d ms = .error e) :
    e = .metadataConstraint ["members"] .unnamedMember d.location ∧ "" ∈ names ms ∨
      ∃ n before after, e = .metadataConstraint ["members"] (.repeatedMember n) d.location ∧
        names ms = before ++ n :: after ∧ n ∈ before := by
  rcases Steps.except_bind_eq_error.mp h with hof | ⟨type, _, hreturn⟩
  · cases hcheck : Member.checkNames [] ms with
    | ok _ =>
        simp only [ValueType.ofKind, Kind.checkConstraints, hcheck] at hof
        cases hof
    | error e' =>
        simp only [ValueType.ofKind, Kind.checkConstraints, hcheck] at hof
        cases hof
        rcases Member.checkNames_eq_error hcheck with
          ⟨rfl, hmem⟩ | ⟨n, before, after, rfl, hsplit, hn⟩
        · exact .inl ⟨rfl, hmem⟩
        · exact .inr ⟨n, before, after, rfl, hsplit, hn.resolve_left List.not_mem_nil⟩
  · cases hreturn

/-- Further tags on a class leave its members as they are, so they make a
class again. -/
theorem retagged_ok {base : ValueType} (formed : base.Formed) (tags : Metadata)
    (place : Location) :
    ∃ t, retagged base tags place = .ok t ∧ t.Formed ∧
      t.kind.object?.isSome = base.kind.object?.isSome := by
  unfold retagged
  split
  · exact ⟨base, rfl, formed, rfl⟩
  · cases hk : base.kind.object? with
    | none => exact ⟨base, rfl, formed, by rw [hk]⟩
    | some found =>
        obtain ⟨members, exact⟩ := found
        have wellNamed := formed members exact (Kind.object?_eq_some.mp hk)
        have check : Member.checkNames [] members = .ok () :=
          Member.checkNames_eq_ok.mpr ⟨wellNamed.distinct, wellNamed.named, by simp⟩
        refine ⟨_, by simp only [ValueType.ofKind, Kind.checkConstraints, check]; rfl, ?_, rfl⟩
        intro members' exact' h
        cases h
        exact wellNamed

end Graph

/-! ## Types of fundamental kinds are no classes -/

theorem Kind.object?_tagged {k k' : Kind} {tag : String} {v : Metadata.Value}
    (h : k.tagged tag v = .ok k') : k'.object? = k.object? := by
  cases k with
  | int l =>
      obtain ⟨_, _, hk⟩ := Steps.except_bind_eq_ok.mp h
      cases hk
      rfl
  | string l =>
      obtain ⟨_, _, hk⟩ := Steps.except_bind_eq_ok.mp h
      cases hk
      rfl
  | directory e =>
      simp only [tagged] at h
      split at h <;> cases h <;> rfl
  | _ => cases h; rfl

theorem Kind.object?_taggedBy {base : Fundamental} {k k' : Kind} {item : Metadata.Item}
    (h : k.taggedBy base item = .ok k') : k'.object? = k.object? :=
  object?_tagged (taggedBy_eq_ok h).2.2

theorem Kind.object?_foldlM_taggedBy {base : Fundamental} {items : List Metadata.Item} :
    ∀ {k k' : Kind}, items.foldlM (Kind.taggedBy base) k = .ok k' → k'.object? = k.object? := by
  induction items with
  | nil => intro k k' h; cases h; rfl
  | cons item items ih =>
      intro k k' h
      rw [List.foldlM_cons] at h
      obtain ⟨k₁, hfirst, hrest⟩ := Steps.except_bind_eq_ok.mp h
      exact (ih hrest).trans (object?_taggedBy hfirst)

theorem ValueType.object?_ofMetadata {kind : Fundamental} {m : Metadata} {place : Location}
    {t : ValueType} (h : ofMetadata kind m place = .ok t) : t.kind.object? = none := by
  obtain ⟨k, hk, h⟩ := Steps.except_bind_eq_ok.mp h
  have plain : k.object? = none := by
    rw [Kind.object?_foldlM_taggedBy hk]
    cases kind <;> rfl
  cases hcheck : k.checkConstraints with
  | error e => simp only [ofKind, hcheck] at h; cases h
  | ok _ =>
      simp only [ofKind, hcheck] at h
      cases h
      exact plain

/-- Without tags only an enumeration is refused: it has no values. -/
theorem ValueType.ofMetadata_empty (kind : Fundamental) (place : Location) :
    kind ≠ .enumeration ∧ (∃ t, ofMetadata kind .empty place = .ok t) ∨
      kind = .enumeration ∧ ofMetadata kind .empty place
        = .error (.metadataConstraint ["values"] .noValues place) := by
  cases kind with
  | enumeration => exact .inr ⟨rfl, rfl⟩
  | _ => exact .inl ⟨by simp, _, rfl⟩

end TypeSchema
