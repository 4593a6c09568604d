/-
# Script — what a script does to the current declaration

A script runs call by call; parts of it run one after another
(`run_andThen`).  Tags, arities and arguments concern the current declaration
only, so a script that consists of them is a function on declarations that
may refuse (`Completes`), and what it does to a builder is to put the result
in the place of the current declaration.
-/
import TypeSchema.Proofs.Builder

namespace TypeSchema

open Declaration (Id)

theorem Graph.put_node (g : Graph) (id : Id) : g.put id (g.node id) = g := by
  refine ext_node (size_put ..) fun i _ => ?_
  by_cases hi : i = id
  · subst hi
    exact part_put (fun d => d) rfl i
  · exact node_put_ne hi

namespace Declaration

theorem toOption_changeArguments (d : Declaration) (f : Invocation → Invocation) :
    (d.changeArguments f).toOption =
      if d.isCommitted then none
      else d.invocation.map fun call => { d with invocation := some (f call) } := by
  unfold changeArguments change
  cases d.isCommitted with
  | true => rfl
  | false =>
      simp only [Bool.false_eq_true, if_false, bind, Except.bind]
      cases d.invocation <;> rfl

theorem toOption_addMetadata (d : Declaration) (item : Metadata.Item) :
    (d.addMetadata item).toOption =
      if d.isCommitted then none
      else (d.metadata.insert item).toOption.map fun m => { d with metadata := m } := by
  unfold addMetadata change
  cases d.isCommitted with
  | true => rfl
  | false =>
      show (d.metadata.insert item >>= fun m => _).toOption = _
      cases d.metadata.insert item <;> rfl

theorem toOption_giveArity (text : String) (place : Location) (d : Declaration) :
    (d.giveArity text place).toOption =
      (Arity.ofChars text.toList).toOption.bind fun a =>
        if d.production = .root ∨ d.isCommitted then none else some { d with arity := some a } := by
  unfold giveArity Arity.read
  cases Arity.ofChars text.toList with
  | error fault => rfl
  | ok a =>
      show (if d.production = .root then _ else _ : Except SchemaError Declaration).toOption = _
      by_cases hp : d.production = .root
      · simp [hp]; rfl
      · cases hc : d.isCommitted <;> simp [hp, setArity, change, hc] <;> rfl

end Declaration

namespace Script

variable {s t : Script} {b b' : Builder} {c : Builder.Call} {e : SchemaError}

/-! ## Running parts of a script -/

theorem run_andThen (s t : Script) (b : Builder) :
    (s.andThen t).run b = (s.run >>= fun _ => t.run) b := by
  induction s generalizing b with
  | done => rfl
  | fail e => rfl
  | call c next ih =>
      simp only [andThen, run, bind, EStateM.bind]
      cases c.perform b with
      | ok reply b' => exact ih (.ok reply) b'
      | error e b' => exact ih (.error e) b'

theorem andThen_ok (h : s.run b = .ok () b') : (s.andThen t).run b = t.run b' := by
  rw [run_andThen, Steps.bind_ok h]

/-- The script does not come to its end. -/
def Fails (s : Script) (b : Builder) : Prop := ∃ e b', s.run b = .error e b'

theorem not_fails (h : s.run b = .ok () b') : ¬ s.Fails b := by
  rintro ⟨e, b'', run⟩
  rw [h] at run
  cases run

theorem Fails.andThen (h : s.Fails b) : (s.andThen t).Fails b := by
  obtain ⟨e, b', run⟩ := h
  exact ⟨e, b', by rw [run_andThen, Steps.bind_error run]⟩

theorem fails_andThen (h : s.run b = .ok () b') (ht : t.Fails b') : (s.andThen t).Fails b := by
  obtain ⟨e, b'', run⟩ := ht
  exact ⟨e, b'', by rw [andThen_ok h, run]⟩

theorem need_ok {r : Option Id} (h : c.perform b = .ok r b') :
    (need c).run b = .ok () b' := by
  simp only [need, run, h]
  rfl

theorem need_fails (h : c.perform b = .error e b') : (need c).Fails b := by
  refine ⟨e, b', ?_⟩
  simp only [need, run, h]
  rfl

/-- A sound builder stays sound, whatever a script does. -/
theorem sound_run (hb : b.Sound) (h : s.run b = .ok () b') : b'.Sound := by
  obtain ⟨calls, left⟩ := s.exists_calls b
  rw [h] at left
  rw [show b' = _ from left]
  exact Builder.sound_leave calls hb

/-! ## Completing the current declaration -/

/-- What the script does is what `f` does to the current declaration. -/
structure Completes (s : Script) (f : Declaration → Option Declaration) : Prop where
  ok : ∀ {b : Builder} {d : Declaration}, b.current < b.graph.size → f b.currentNode = some d →
    s.run b = .ok () (b.completed d)
  fails : ∀ {b : Builder}, b.current < b.graph.size → f b.currentNode = none → s.Fails b

namespace Completes

variable {f g : Declaration → Option Declaration}

theorem done : Completes .done some where
  ok := by
    rintro b d _ ⟨⟩
    show EStateM.Result.ok () b = _
    rw [Builder.completed, Builder.currentNode, Graph.put_node]
  fails := by rintro b _ ⟨⟩

theorem fail (e : SchemaError) : Completes (.fail e) fun _ => none where
  ok := by rintro b d _ ⟨⟩
  fails := fun _ _ => ⟨e, _, rfl⟩

theorem andThen (hs : Completes s f) (ht : Completes t g) :
    Completes (s.andThen t) fun d => (f d).bind g := by
  have later : ∀ {b : Builder} {d : Declaration}, b.current < b.graph.size →
      (b.completed d).current < (b.completed d).graph.size ∧
        (b.completed d).currentNode = d ∧
        ∀ d', (b.completed d).completed d' = b.completed d' := by
    intro b d hb
    refine ⟨by simpa [Builder.completed] using hb, Graph.node_put_self hb, fun d' => ?_⟩
    simp only [Builder.completed, Graph.put_put]
  constructor
  · intro b d hb h
    obtain ⟨d₁, h₁, h₂⟩ := Option.bind_eq_some_iff.mp h
    obtain ⟨inside, node, again⟩ := later (d := d₁) hb
    rw [andThen_ok (hs.ok hb h₁), ht.ok inside (node.symm ▸ h₂), again]
  · intro b hb h
    cases h₁ : f b.currentNode with
    | none => exact (hs.fails hb h₁).andThen
    | some d₁ =>
        obtain ⟨inside, node, _⟩ := later (d := d₁) hb
        rw [h₁, Option.bind_some] at h
        exact fails_andThen (hs.ok hb h₁) (ht.fails inside (node.symm ▸ h))

theorem sequence {ι : Type} {script : ι → Script} {f : Declaration → ι → Option Declaration}
    (h : ∀ i, Completes (script i) (f · i)) (is : List ι) :
    Completes (.sequence (is.map script)) fun d => is.foldlM f d := by
  induction is with
  | nil => exact done
  | cons i is ih => exact (h i).andThen ih

theorem ofExcept {α : Type} {r : Except SchemaError α} {script : α → Script}
    {f : α → Declaration → Option Declaration} (h : ∀ a, Completes (script a) (f a)) :
    Completes (.ofExcept r script) fun d => r.toOption.bind (f · d) := by
  cases r with
  | ok a => exact h a
  | error e => exact fail e

/-- A call that changes the current declaration, or fails and changes nothing. -/
theorem need {f : Declaration → Except SchemaError Declaration}
    (h : ∀ b : Builder, b.current < b.graph.size →
      c.perform b = (Builder.onCurrent f >>= fun _ => pure none) b) :
    Completes (.need c) fun d => (f d).toOption := by
  constructor
  · intro b d hb hd
    cases hf : f b.currentNode with
    | error e => rw [hf] at hd; cases hd
    | ok d' =>
        rw [hf] at hd
        cases hd
        exact need_ok ((h b hb).trans (Steps.bind_ok (Builder.onCurrent_ok hb hf)))
  · intro b hb hd
    cases hf : f b.currentNode with
    | ok d' => rw [hf] at hd; cases hd
    | error e => exact need_fails ((h b hb).trans (Steps.bind_error (Builder.onCurrent_error hb hf)))

theorem metadata (tag : String) (value : Metadata.Value) (place : Location) :
    Completes (.need (.metadata tag value place)) fun d =>
      (d.giveTag tag value place).toOption :=
  need fun _ _ => Steps.bind_congr (Builder.metadata_run tag value place)

theorem arity (text : String) (place : Location) :
    Completes (.need (.arity text place)) fun d => (d.giveArity text place).toOption :=
  need fun _ hb => Steps.bind_congr (Builder.arity_run hb text place)

theorem stringLiteral (text : String) :
    Completes (.need (.stringLiteral text)) fun d => (d.addPositional (.string text)).toOption :=
  need fun _ _ => rfl

end Completes

end Script

end TypeSchema
