/-
# Orbit — walks in any graph

Following references from a declaration, one may come to an end, come back to
the start, or run into a circle later on.  `behind n id` is the declaration `n`
references behind `id`, if there is one.  A walk that has passed some
declarations is given by rules (`Trail`): it stops at one that has been passed,
at one that refers to no declaration, and nowhere else.

There is room for every walk: it repeats nothing, and only declarations that are
there refer to others (`trail_walkFrom`).  So a walk is what is behind a
declaration up to the first repetition, and whether references come back can be
told from its last declaration (`walk_orbit`).
-/
import TypeSchema.Proofs.Graph.Lifecycle
import TypeSchema.Proofs.Graph.Walk

namespace TypeSchema.Graph

open Declaration (Id Subtype Reference Target)

/-- The declaration `n` references behind `id`. -/
def behind (g : Graph) : Nat → Id → Option Id
  | 0, id => some id
  | n + 1, id => (g.next? id).bind (g.behind n)

/-- The rest of a walk that has come to `id` and passed `seen`. -/
inductive Trail (g : Graph) : List Id → Id → List Id → Prop
  | back {seen : List Id} {id : Id} : id ∈ seen → Trail g seen id []
  | stop {seen : List Id} {id : Id} : id ∉ seen → g.next? id = none → Trail g seen id [id]
  | step {seen rest : List Id} {id target : Id} : id ∉ seen → g.next? id = some target →
      Trail g (id :: seen) target rest → Trail g seen id (id :: rest)

variable {g : Graph} {id : Id}

/-- One reference more leads to what the last declaration refers to. -/
theorem behind_succ (g : Graph) (n : Nat) (id : Id) :
    g.behind (n + 1) id = (g.behind n id).bind g.next? := by
  induction n generalizing id with
  | zero =>
      change (g.next? id).bind some = g.next? id
      exact Option.bind_fun_some _
  | succ n ih =>
      cases hn : g.next? id with
      | none => simp only [behind, hn, Option.bind_none]
      | some target =>
          have further := ih target
          simp only [behind, hn, Option.bind_some] at further ⊢
          exact further

/-! ## Trails -/

namespace Trail

variable {seen l : List Id}

/-- Nothing is passed twice. -/
theorem nodup (h : Trail g seen id l) : l.Nodup ∧ ∀ i ∈ l, i ∉ seen := by
  induction h with
  | back _ => exact ⟨List.nodup_nil, List.forall_mem_nil _⟩
  | stop fresh _ => exact ⟨List.nodup_singleton _, List.forall_mem_singleton.mpr fresh⟩
  | step fresh _ _ ih =>
      obtain ⟨nodup, later⟩ := ih
      refine ⟨List.nodup_cons.mpr ⟨fun hi => later _ hi List.mem_cons_self, nodup⟩, ?_⟩
      exact List.forall_mem_cons.mpr ⟨fresh, fun i hi passed =>
        later i hi (List.mem_cons_of_mem _ passed)⟩

/-- Where nothing has been passed, the start is on the trail. -/
theorem length_pos (h : Trail g [] id l) : 0 < l.length := by
  cases h with
  | back passed => cases passed
  | stop _ _ => exact Nat.one_pos
  | step _ _ _ => exact Nat.succ_pos _

/-- The places of a trail lie behind its start, one reference after another. -/
theorem getElem?_eq (h : Trail g seen id l) {n : Nat} (hn : n < l.length) :
    l[n]? = g.behind n id := by
  induction h generalizing n with
  | back _ => exact absurd hn (Nat.not_lt_zero n)
  | stop _ _ =>
      obtain rfl : n = 0 := Nat.lt_one_iff.mp hn
      rfl
  | step _ refers _ ih =>
      cases n with
      | zero => rfl
      | succ n =>
          rw [List.getElem?_cons_succ, ih (Nat.lt_of_succ_lt_succ hn), behind, refers]
          rfl

/-- A trail ends where there is no reference, or in front of something passed. -/
theorem behind_length (h : Trail g seen id l) :
    g.behind l.length id = none ∨ ∃ x, g.behind l.length id = some x ∧ (x ∈ l ∨ x ∈ seen) := by
  induction h with
  | @back _ id passed => exact .inr ⟨id, rfl, .inr passed⟩
  | stop _ refers =>
      refine .inl ?_
      rw [List.length_singleton, behind, refers]
      rfl
  | step _ refers _ ih =>
      rw [List.length_cons, behind, refers]
      rcases ih with ends | ⟨x, hx, later | passed⟩
      · exact .inl ends
      · exact .inr ⟨x, hx, .inl (List.mem_cons_of_mem _ later)⟩
      · refine .inr ⟨x, hx, ?_⟩
        rcases List.mem_cons.mp passed with rfl | passed
        · exact .inl List.mem_cons_self
        · exact .inr passed

/-- Trails from a declaration of a graph stay in the graph. -/
theorem lt_size (h : Trail g seen id l) (within : g.SelfContained) (hid : id < g.size) :
    ∀ i ∈ l, i < g.size := by
  induction h with
  | back _ => exact List.forall_mem_nil _
  | stop _ _ => exact List.forall_mem_singleton.mpr hid
  | step _ refers _ ih =>
      exact List.forall_mem_cons.mpr ⟨hid, ih (within _ _ (next?_eq_some.mp refers))⟩

end Trail

/-! ## Walks -/

/-- With room for all declarations that have not been passed, a walk is a trail,
and it comes back exactly if there is something behind its end. -/
theorem trail_walkFrom {fuel : Nat} {seen : List Id} (nodup : seen.Nodup)
    (inside : ∀ i ∈ seen, i < g.size) (room : g.size < fuel + seen.length) :
    Trail g seen id (g.walkFrom fuel seen id) ∧
      (g.returnsFrom fuel seen id = true ↔
        (g.behind (g.walkFrom fuel seen id).length id).isSome) := by
  induction fuel generalizing seen id with
  | zero =>
      rw [Nat.zero_add] at room
      exact absurd (length_le_size nodup inside) (Nat.not_le.mpr room)
  | succ fuel ih =>
      by_cases passed : id ∈ seen
      · rw [walkFrom, returnsFrom, if_pos passed, if_pos passed]
        exact ⟨.back passed, iff_of_true rfl rfl⟩
      · rw [walkFrom, returnsFrom, if_neg passed, if_neg passed]
        cases refers : g.next? id with
        | none =>
            refine ⟨.stop passed refers, iff_of_false Bool.false_ne_true ?_⟩
            rw [List.length_singleton, behind, refers]
            exact Bool.false_ne_true
        | some target =>
            have later : ∀ i ∈ id :: seen, i < g.size :=
              List.forall_mem_cons.mpr ⟨lt_size_of_next? refers, inside⟩
            have more : g.size < fuel + (id :: seen).length := by rw [List.length_cons]; omega
            obtain ⟨trail, returns⟩ := @ih target (id :: seen)
              (List.nodup_cons.mpr ⟨passed, nodup⟩) later more
            refine ⟨.step passed refers trail, ?_⟩
            rw [List.length_cons, behind, refers]
            exact returns

theorem trail_walk (g : Graph) (id : Id) :
    Trail g [] id (g.walk id) ∧
      (g.hasCycle id = true ↔ (g.behind (g.walk id).length id).isSome) :=
  trail_walkFrom List.nodup_nil (List.forall_mem_nil _) (by rw [walkBound, List.length_nil]; omega)

/-- The last declaration of a walk, and what is behind it. -/
theorem exists_last_walk (g : Graph) (id : Id) :
    ∃ last, (g.walk id).getLast? = some last ∧
      g.behind (g.walk id).length id = g.next? last := by
  have trail := (trail_walk g id).1
  have some := trail.length_pos
  obtain ⟨last, hlast⟩ := List.getLast?_isSome.mpr (List.length_pos_iff.mp some) |>
    Option.isSome_iff_exists.mp
  refine ⟨last, hlast, ?_⟩
  obtain ⟨n, hn⟩ := Nat.exists_eq_add_one.mpr some
  rw [List.getLast?_eq_getElem?, hn, Nat.add_sub_cancel,
    trail.getElem?_eq (hn ▸ Nat.lt_succ_self n)] at hlast
  rw [hn, behind_succ, hlast]
  rfl

/-- The first element of a list that has a property, or the last one if none has it. -/
def IsFirstOrLast (p : Id → Prop) (l : List Id) (x : Id) : Prop :=
  ∃ before after, l = before ++ x :: after ∧ (∀ y ∈ before, ¬ p y) ∧ (p x ∨ after = [])

theorem firstOnWalk_eq (g : Graph) (id : Id) (p : Declaration → Bool) :
    IsFirstOrLast (fun x => p (g.node x)) (g.walk id) (g.firstOnWalk p id) := by
  obtain ⟨last, hlast, -⟩ := exists_last_walk g id
  cases found : (g.walk id).find? fun i => p (g.node i) with
  | some x =>
      obtain ⟨holds, before, after, split, none⟩ := List.find?_eq_some_iff_append.mp found
      have hx : g.firstOnWalk p id = x := by rw [firstOnWalk, found]; rfl
      rw [hx]
      exact ⟨before, after, split, fun y hy => by simpa using none y hy, .inl holds⟩
  | none =>
      have hx : g.firstOnWalk p id = last := by
        rw [firstOnWalk, found, List.getLastD_eq_getLast?, hlast]
        rfl
      obtain ⟨before, split⟩ := List.getLast?_eq_some_iff.mp hlast
      rw [hx]
      refine ⟨before, [], split, fun y hy => ?_, .inr rfl⟩
      exact List.find?_eq_none.mp found y (split ▸ List.mem_append_left _ hy)

theorem fundamentalType_eq {last : Id} (hlast : (g.walk id).getLast? = some last) :
    g.fundamentalType id = match (g.node last).reference with
      | .fundamental kind => .fundamental kind
      | _ => .declaration last := by
  have h : (g.walk id).getLastD id = last := by rw [List.getLastD_eq_getLast?, hlast]; rfl
  rw [fundamentalType, h]
  simp only [Declaration.target?_eq, Reference.target?]
  cases (g.node last).reference <;> rfl

/-- References come back exactly if the last declaration of the walk has one. -/
theorem hasCycle_iff_refers {last : Id} (hlast : (g.walk id).getLast? = some last) :
    g.hasCycle id = true ↔ ∃ target, g.Refers last target := by
  obtain ⟨last', hlast', behind⟩ := exists_last_walk g id
  obtain rfl : last' = last := Option.some.inj (hlast'.symm.trans hlast)
  rw [(trail_walk g id).2, behind, Option.isSome_iff_exists]
  exact exists_congr fun _ => next?_eq_some

/-- A walk is what is behind a declaration, one reference after another, up to
the first repetition; in a graph that operations lead to it is no longer than
the graph.  References come back exactly if the last declaration of the walk
has one.  What stands behind aliases, and behind augmentations too, is the first
declaration on the walk that is no such thing, or the last one; and the walk
leads to the fundamental kind that the last declaration is over, or else to this
declaration. -/
theorem walk_orbit (g : Graph) (id : Id) :
    (g.walk id).Nodup ∧
      (∀ n < (g.walk id).length, (g.walk id)[n]? = g.behind n id) ∧
      (g.behind (g.walk id).length id = none ∨
        ∃ x ∈ g.walk id, g.behind (g.walk id).length id = some x) ∧
      (Reached g → id < g.size → (g.walk id).length ≤ g.size) ∧
      IsFirstOrLast (fun x => (g.node x).subtype ≠ some .alias) (g.walk id)
        (g.resolveAliases id) ∧
      IsFirstOrLast
        (fun x => (g.node x).subtype ≠ some .alias ∧ (g.node x).subtype ≠ some .augmented)
        (g.walk id) (g.resolveAugmentations id) ∧
      ∃ last, (g.walk id).getLast? = some last ∧
        (g.hasCycle id = true ↔ ∃ target, g.Refers last target) ∧
        (∀ kind, (g.node last).reference = .fundamental kind →
          g.fundamentalType id = .fundamental kind) ∧
        ((∀ kind, (g.node last).reference ≠ .fundamental kind) →
          g.fundamentalType id = .declaration last) := by
  have trail := (trail_walk g id).1
  obtain ⟨last, hlast, -⟩ := exists_last_walk g id
  refine ⟨trail.nodup.1, fun n hn => trail.getElem?_eq hn, ?_, fun reached hid => ?_, ?_, ?_,
    last, hlast, hasCycle_iff_refers hlast, fun kind hr => ?_, fun other => ?_⟩
  · rcases trail.behind_length with ends | ⟨x, hx, again | passed⟩
    · exact .inl ends
    · exact .inr ⟨x, again, hx⟩
    · cases passed
  · exact length_le_size trail.nodup.1 (trail.lt_size reached.selfContained hid)
  · simpa [resolveAliases] using firstOnWalk_eq g id fun d => d.subtype != some .alias
  · simpa [resolveAugmentations] using
      firstOnWalk_eq g id fun d => d.subtype != some .alias && d.subtype != some .augmented
  · rw [fundamentalType_eq hlast, hr]
  · rw [fundamentalType_eq hlast]
    split
    · rename_i kind hr
      exact absurd hr (other kind)
    · rfl

/-- Three declarations, of which the first refers to the second, and this and the
third to each other. -/
def latelyCircular : Graph :=
  let leaves := Operation.addLeaf.leave (Operation.addLeaf.leave (Operation.addLeaf.leave .empty))
  (Operation.link 2 1).leave ((Operation.link 1 2).leave ((Operation.link 0 1).leave leaves))

theorem reached_latelyCircular : Reached latelyCircular := by
  have leaf : ∀ {g}, Reached g → Reached (Operation.addLeaf.leave g) :=
    fun reached => .step reached fun p hp => by cases hp
  have leaves := leaf (leaf (leaf .empty))
  have linked : ∀ {g : Graph} (id target), Reached g → id < g.size → target < g.size →
      Reached ((Operation.link id target).leave g) :=
    fun _ _ reached hid htarget => .step reached ⟨hid, htarget⟩
  have first := linked 0 1 leaves (Nat.zero_lt_succ 2) (Nat.one_lt_succ_succ 1)
  have second := linked 1 2 first (Nat.one_lt_succ_succ 1) (Nat.lt_succ_self 2)
  exact linked 2 1 second (Nat.lt_succ_self 2) (Nat.one_lt_succ_succ 1)

/-- A walk into a circle stops before it comes to the second declaration again. -/
theorem walk_orbit_latelyCircular :
    Reached latelyCircular ∧ 0 < latelyCircular.size ∧
      latelyCircular.walk 0 = [0, 1, 2] ∧ latelyCircular.behind 3 0 = some 1 ∧
      latelyCircular.hasCycle 0 = true ∧
      (latelyCircular.walk 0).length ≤ latelyCircular.size := by
  obtain ⟨-, -, -, bound, -⟩ := walk_orbit latelyCircular 0
  have inside : 0 < latelyCircular.size := Nat.zero_lt_succ 2
  exact ⟨reached_latelyCircular, inside, rfl, rfl, rfl, bound reached_latelyCircular inside⟩

end TypeSchema.Graph
