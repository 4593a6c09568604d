/-
# Round trips — from types to descriptors and back

The descriptor of a type leaves out what holds anyway, the arity of a single
value and the least length of a string, and it has the source of a pattern only.
Reading it back fills all of this in (`kindOf_shapeOf`), and finds the
constraints in order again, since the type has been made under them.  Only a
check from outside is lost, as it has no written form.
-/
import TypeSchema.Descriptor
import TypeSchema.Proofs.ValueType.Constraints

namespace TypeSchema

/-! ## Sameness of a type with itself -/

theorem Double.same_self {d : Double} (h : d.isNaN = false) : d.same d = true := by
  simp [Double.same, h]

theorem sameBound_self {bound : Option Double} (number : ∀ v, bound = some v → v.isNaN = false) :
    sameBound bound bound = true := by
  cases bound with
  | none => rfl
  | some v => exact Double.same_self (number v rfl)

theorem Member.same_self {ms : List Member} (h : ∀ m ∈ ms, m.type.same m.type = true) :
    Member.same ms ms = true := by
  induction ms with
  | nil => rw [Member.same]
  | cons m ms ih =>
      obtain ⟨hm, hms⟩ := List.forall_mem_cons.mp h
      obtain ⟨n, t⟩ := m
      simp [Member.same, ih hms, show t.same t = true from hm]

theorem ValueType.sameAll_self {ts : List ValueType} (h : ∀ t ∈ ts, t.same t = true) :
    sameAll ts ts = true := by
  induction ts with
  | nil => rw [sameAll]
  | cons t ts ih =>
      obtain ⟨ht, hts⟩ := List.forall_mem_cons.mp h
      simp [sameAll, ih hts, ht]

/-- A kind is the same as itself if its parts are and its bounds are numbers. -/
theorem Kind.same_self {k : Kind} (agrees : k.Agrees) (parts : ∀ t ∈ k.parts, t.same t = true) :
    k.same k = true := by
  cases k with
  | number l =>
      have lower := sameBound_self fun v hv => agrees.number v (.inl hv)
      have upper := sameBound_self fun v hv => agrees.number v (.inr hv)
      simp [Kind.same, lower, upper]
  | object ms exact | dict ms exact =>
      simp [Kind.same, Member.same_self (List.forall_mem_map.mp parts)]
  | anyOf ts =>
      rw [Kind.same]
      exact ValueType.sameAll_self parts
  | _ => simp [Kind.same, StringLimits.same]

theorem ValueType.same_self {t : ValueType} (sound : t.Throughout IsSound) : t.same t = true := by
  induction sound with
  | @intro t here _ ih =>
      obtain ⟨k, a, hook⟩ := t
      simp [same, k.same_self (Kind.checkConstraints_eq_ok.mp here.1) ih]

namespace Descriptor

/-! ## Kinds -/

theorem patternOf_source {pattern : Option Pattern}
    (compiled : ∀ p, pattern = some p → p.IsCompiled) :
    patternOf (pattern.map (·.source)) = .ok pattern := by
  cases pattern with
  | none => rfl
  | some p =>
      have := compiled p rfl
      rw [Pattern.IsCompiled] at this
      simp only [Option.map_some, patternOf, this]

/-- What is left out of a string is what holds without further limits. -/
theorem kindOf_ofLimits {l : StringLimits} (compiled : (Kind.string l).IsCompiled) :
    kindOf (.ofLimits l) = .ok (.string l) := by
  -- The least length that is not written is the one that holds without it.
  have least : (if l.minLength = StringLimits.initial.minLength then none
      else some l.minLength).getD StringLimits.initial.minLength = l.minLength := by
    split
    · rename_i h
      exact h.symm
    · rfl
  rw [Shape.ofLimits, kindOf, patternOf_source compiled, least]
  rfl

theorem membersOf_partsOf {ms : List Member} (h : ∀ m ∈ ms, toType (ofType m.type) = .ok m.type) :
    membersOf (partsOf ms) = .ok ms := by
  induction ms with
  | nil => rfl
  | cons m ms ih =>
      obtain ⟨hm, hms⟩ := List.forall_mem_cons.mp h
      obtain ⟨n, t⟩ := m
      rw [partsOf, membersOf, show toType (ofType t) = .ok t from hm, ih hms]
      rfl

theorem toTypes_ofTypes {ts : List ValueType} (h : ∀ t ∈ ts, toType (ofType t) = .ok t) :
    toTypes (ofTypes ts) = .ok ts := by
  induction ts with
  | nil => rfl
  | cons t ts ih =>
      obtain ⟨ht, hts⟩ := List.forall_mem_cons.mp h
      rw [ofTypes, toTypes, ht, ih hts]
      rfl

/-- The written form of a kind stands for it if those of its parts stand for
them. -/
theorem kindOf_shapeOf {k : Kind} (compiled : k.IsCompiled)
    (parts : ∀ t ∈ k.parts, toType (ofType t) = .ok t) : kindOf (shapeOf k) = .ok k := by
  cases k with
  | string l => exact kindOf_ofLimits compiled
  | object ms exact | dict ms exact =>
      rw [shapeOf, kindOf, membersOf_partsOf (List.forall_mem_map.mp parts)]
      rfl
  | anyOf ts =>
      have types : toTypes (ofTypes ts) = .ok ts := toTypes_ofTypes parts
      rw [shapeOf, kindOf, types]
      rfl
  | _ => rfl

/-! ## Types -/

/-- The arity that a descriptor gives or leaves out is the same in the end. -/
theorem toType_mk {k : Kind} {a : Arity} (agrees : k.checkConstraints = .ok ())
    (hk : kindOf (shapeOf k) = .ok k) : toType (ofType (.mk k a none)) = .ok (.mk k a none) := by
  have made : ValueType.ofKind k = .ok (.mk k .single none) :=
    ValueType.ofKind_eq_ok.mpr ⟨agrees, rfl⟩
  rw [ofType, toType]
  refine Steps.except_bind_eq_ok.mpr ⟨k, hk, Steps.except_bind_eq_ok.mpr ⟨_, made, ?_⟩⟩
  by_cases single : a = .single
  · rw [if_pos (show a.isSingle = true from beq_iff_eq.mpr single), single]
    rfl
  · rw [if_neg (show ¬ a.isSingle = true from mt beq_iff_eq.mp single)]
    rfl

/-- Level by level, from the innermost parts on. -/
theorem toType_ofType_of_throughout {t : ValueType}
    (h : t.Throughout fun s => s.IsSound ∧ s.hook = none) : toType (ofType t) = .ok t := by
  induction h with
  | @intro t here _ ih =>
      obtain ⟨k, a, hook⟩ := t
      obtain ⟨⟨agrees, compiled⟩, rfl⟩ := here
      exact toType_mk agrees (kindOf_shapeOf compiled ih)

/-- A type without checks from outside is what its descriptor stands for, down
to the last member and alternative. -/
theorem toType_ofType {t : ValueType} (made : t.Made) (free : t.Throughout (·.hook = none)) :
    toType (ofType t) = .ok t ∧ t.same t = true := by
  have sound := ValueType.made_iff.mp made
  exact ⟨toType_ofType_of_throughout (sound.and free), ValueType.same_self sound⟩

/-- A class of a name with a pattern and a choice of lists. -/
theorem toType_ofType_class :
    ∃ p, Pattern.ofSource "[a-z]+" = some p ∧
      let name : ValueType := .mk (.string ⟨some p, 1, some 40⟩) .single none
      let ports : ValueType := .mk (.int ⟨some 1, some 65535, some 2⟩) .oneOrMore none
      let target : ValueType := .mk (.anyOf [ports, .mk .uri .single none]) .optional none
      let t : ValueType := .mk (.object [.mk "name" name, .mk "target" target] true) .single none
      t.Made ∧ t.Throughout (·.hook = none) ∧ toType (ofType t) = .ok t ∧ t.same t = true := by
  have compiles : (Pattern.ofSource "[a-z]+").isSome = true := by decide +kernel
  obtain ⟨p, hp⟩ := Option.isSome_iff_exists.mp compiles
  have compiled : p.IsCompiled := Pattern.isCompiled_ofSource hp
  refine ⟨p, hp, ?_⟩
  intro name ports target t
  have whole : t.Throughout fun s => s.IsSound ∧ s.hook = none := by
    refine .intro ⟨⟨rfl, trivial⟩, rfl⟩
      (List.forall_mem_cons.mpr ⟨?_, List.forall_mem_singleton.mpr ?_⟩)
    · refine .flat ⟨⟨rfl, ?_⟩, rfl⟩ rfl
      rintro _ ⟨⟩
      exact compiled
    · refine .intro ⟨⟨rfl, trivial⟩, rfl⟩
        (List.forall_mem_cons.mpr ⟨?_, List.forall_mem_singleton.mpr ?_⟩)
      · exact .flat ⟨⟨rfl, trivial⟩, rfl⟩ rfl
      · exact .flat ⟨⟨rfl, trivial⟩, rfl⟩ rfl
  have made : t.Made := ValueType.made_iff.mpr (whole.mono fun _ h => h.1)
  have free : t.Throughout (·.hook = none) := whole.mono fun _ h => h.2
  exact ⟨made, free, toType_ofType made free⟩

end Descriptor

end TypeSchema
