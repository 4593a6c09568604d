/-
# Steps — running changes one after another

A change of a graph, like a call that builds declarations, is a step that
gives a value and a new state or fails.  What a whole run does is read off
what its steps do: a bind passes on the state of its first half, a loop over
a list keeps whatever each round keeps, and the first round that fails ends
the loop.
-/
import Mathlib.Data.List.Basic
import TypeSchema.Graph

namespace TypeSchema.Steps

variable {ε σ α β ι : Type}

/-- The state behind a step, whether it succeeded or not. -/
def left : EStateM.Result ε σ α → σ
  | .ok _ s => s
  | .error _ s => s

/-- A step that gives a value does so with the state behind it. -/
theorem ok_of_run' {x : EStateM ε σ α} {s : σ} {a : α} (h : x.run' s = some a) :
    x s = .ok a (left (x s)) := by
  unfold EStateM.run' EStateM.run at h
  cases hx : x s with
  | ok b t =>
      rw [hx] at h
      cases h
      rfl
  | error e t =>
      rw [hx] at h
      cases h

/-! ## Binds -/

theorem bind_ok {x : EStateM ε σ α} {f : α → EStateM ε σ β} {s t : σ} {a : α}
    (h : x s = .ok a t) : (x >>= f) s = f a t := by
  simp only [bind, EStateM.bind, h]

theorem bind_error {x : EStateM ε σ α} {f : α → EStateM ε σ β} {s t : σ} {e : ε}
    (h : x s = .error e t) : (x >>= f) s = .error e t := by
  simp only [bind, EStateM.bind, h]

/-- A bind sees of its first half what this does in the state at hand. -/
theorem bind_congr {x y : EStateM ε σ α} {f : α → EStateM ε σ β} {s : σ} (h : x s = y s) :
    (x >>= f) s = (y >>= f) s := by
  simp only [bind, EStateM.bind, h]

/-- A bind that succeeds: both halves do. -/
theorem bind_eq_ok {x : EStateM ε σ α} {f : α → EStateM ε σ β} {s t : σ} {b : β} :
    (x >>= f) s = .ok b t ↔ ∃ a r, x s = .ok a r ∧ f a r = .ok b t := by
  cases h : x s with
  | ok a r =>
      rw [bind_ok h]
      constructor
      · exact fun hf => ⟨a, r, rfl, hf⟩
      · rintro ⟨_, _, ⟨⟩, hf⟩
        exact hf
  | error e r =>
      rw [bind_error h]
      constructor
      · intro hf; cases hf
      · rintro ⟨_, _, hx, _⟩
        cases hx

/-- The same without a state. -/
theorem except_bind_eq_ok {x : Except ε α} {f : α → Except ε β} {b : β} :
    (x >>= f) = .ok b ↔ ∃ a, x = .ok a ∧ f a = .ok b := by
  cases x with
  | ok a =>
      constructor
      · exact fun h => ⟨a, rfl, h⟩
      · rintro ⟨_, ⟨⟩, h⟩
        exact h
  | error e =>
      constructor
      · intro h; cases h
      · rintro ⟨_, ⟨⟩, _⟩

/-- A bind that fails: its first half does, or the second. -/
theorem except_bind_eq_error {x : Except ε α} {f : α → Except ε β} {e : ε} :
    (x >>= f) = .error e ↔ x = .error e ∨ ∃ a, x = .ok a ∧ f a = .error e := by
  cases x with
  | ok a =>
      constructor
      · exact fun h => .inr ⟨a, rfl, h⟩
      · rintro (⟨⟨⟩⟩ | ⟨_, ⟨⟩, h⟩)
        exact h
  | error d =>
      constructor
      · intro h
        cases h
        exact .inl rfl
      · rintro (⟨⟨⟩⟩ | ⟨_, ⟨⟩, _⟩)
        rfl

/-- Whatever is told of errors, results stay. -/
theorem mapError_eq_ok {ε' : Type} {tell : ε → ε'} {x : Except ε α} {a : α} :
    x.mapError tell = .ok a ↔ x = .ok a := by
  cases x with
  | ok b =>
      constructor <;> exact fun h => by cases h; rfl
  | error e =>
      constructor <;> exact fun h => by cases h

/-- A result that passes a test is one. -/
theorem exists_ok_of_any {x : Except ε α} {p : α → Bool} (h : x.toOption.any p = true) :
    ∃ a, x = .ok a ∧ p a = true := by
  cases x with
  | ok a => exact ⟨a, rfl, h⟩
  | error e => cases h

theorem exists_ok_of_decide {x : Except ε α} {P : α → Prop} [DecidablePred P]
    (h : x.toOption.any (fun a => decide (P a)) = true) : ∃ a, x = .ok a ∧ P a := by
  obtain ⟨a, hx, ha⟩ := exists_ok_of_any h
  exact ⟨a, hx, of_decide_eq_true ha⟩

theorem map_eq_ok {f : α → β} {x : Except ε α} {b : β} :
    x.map f = .ok b ↔ ∃ a, x = .ok a ∧ f a = b := by
  cases x with
  | ok a =>
      constructor
      · exact fun h => ⟨a, rfl, by cases h; rfl⟩
      · rintro ⟨_, ⟨⟩, rfl⟩
        rfl
  | error e =>
      constructor
      · exact fun h => by cases h
      · rintro ⟨_, ⟨⟩, _⟩

/-- A bind tells of errors what its halves tell. -/
theorem mapError_bind {ε' : Type} {tell : ε → ε'} {x y : Except ε α} {f f' : α → Except ε β}
    (h : x.mapError tell = y.mapError tell)
    (hf : ∀ a, (f a).mapError tell = (f' a).mapError tell) :
    (x >>= f).mapError tell = (y >>= f').mapError tell := by
  cases x with
  | ok a =>
      cases y with
      | ok b =>
          cases h
          exact hf a
      | error e => cases h
  | error e =>
      cases y with
      | ok b => cases h
      | error e' => exact congrArg Except.error (Except.error.inj h)

/-- A loop tells of errors what its rounds tell. -/
theorem mapError_foldlM {ε' : Type} {tell : ε → ε'} {f f' : α → ι → Except ε α} {is : List ι}
    (h : ∀ i ∈ is, ∀ a, (f a i).mapError tell = (f' a i).mapError tell) (a : α) :
    (is.foldlM f a).mapError tell = (is.foldlM f' a).mapError tell := by
  induction is generalizing a with
  | nil => rfl
  | cons i is ih =>
      rw [List.foldlM_cons, List.foldlM_cons]
      exact mapError_bind (h i List.mem_cons_self a) fun a =>
        ih (fun j hj => h j (List.mem_cons_of_mem _ hj)) a

/-- A loop that comes to its end keeps what each of its rounds keeps. -/
theorem foldlM_keeps {f : α → ι → Except ε α} {P : α → Prop} {is : List ι} {a b : α}
    (round : ∀ i ∈ is, ∀ a b, f a i = .ok b → P a → P b) (h : is.foldlM f a = .ok b) (start : P a) :
    P b := by
  induction is generalizing a with
  | nil =>
      cases h
      exact start
  | cons i is ih =>
      rw [List.foldlM_cons] at h
      obtain ⟨c, first, rest⟩ := except_bind_eq_ok.mp h
      exact ih (fun j hj => round j (List.mem_cons_of_mem _ hj)) rest
        (round i List.mem_cons_self a c first start)

/-- Each round of a loop succeeds, and so does the loop. -/
theorem exists_mapM {g : α → Except ε β} {xs : List α}
    (h : ∀ x ∈ xs, ∃ y, g x = .ok y) : ∃ ys, xs.mapM g = .ok ys := by
  induction xs with
  | nil => exact ⟨[], rfl⟩
  | cons x xs ih =>
      obtain ⟨y, hy⟩ := h x List.mem_cons_self
      obtain ⟨ys, hys⟩ := ih fun x hx => h x (List.mem_cons_of_mem _ hx)
      exact ⟨y :: ys, by rw [List.mapM_cons, hy, hys]; rfl⟩

/-- The values of a loop are those of its rounds, one by one. -/
theorem forall₂_mapM {g : α → Except ε β} {xs : List α} {ys : List β} (h : xs.mapM g = .ok ys) :
    List.Forall₂ (fun x y => g x = .ok y) xs ys := by
  induction xs generalizing ys with
  | nil =>
      cases h
      exact .nil
  | cons x xs ih =>
      rw [List.mapM_cons] at h
      obtain ⟨y, hy, h⟩ := except_bind_eq_ok.mp h
      obtain ⟨ys', hys, h⟩ := except_bind_eq_ok.mp h
      cases h
      exact .cons hy (ih hys)

/-- Each value of a loop is that of one of its rounds. -/
theorem exists_of_mem_mapM {g : α → Except ε β} {xs : List α} {ys : List β}
    (h : xs.mapM g = .ok ys) {y : β} (hy : y ∈ ys) : ∃ x ∈ xs, g x = .ok y := by
  induction xs generalizing ys with
  | nil =>
      cases h
      cases hy
  | cons x xs ih =>
      rw [List.mapM_cons] at h
      obtain ⟨y', hy', h⟩ := except_bind_eq_ok.mp h
      obtain ⟨ys', hys', h⟩ := except_bind_eq_ok.mp h
      cases h
      rcases List.mem_cons.mp hy with rfl | hy
      · exact ⟨x, List.mem_cons_self, hy'⟩
      · obtain ⟨x', hx', hg⟩ := ih hys' hy
        exact ⟨x', List.mem_cons_of_mem _ hx', hg⟩

theorem get_run (s : σ) : (get : EStateM ε σ σ) s = .ok s s := rfl

theorem ofExcept_ok {x : Except ε α} {a : α} (h : x = .ok a) (s : σ) :
    (MonadExcept.ofExcept x : EStateM ε σ α) s = .ok a s := by
  subst h; rfl

theorem ofExcept_error {x : Except ε α} {e : ε} (h : x = .error e) (s : σ) :
    (MonadExcept.ofExcept x : EStateM ε σ α) s = .error e s := by
  subst h; rfl

/-- A check that succeeds leaves the state alone. -/
theorem ofExcept_eq_ok {x : Except ε α} {s t : σ} {a : α} :
    (MonadExcept.ofExcept x : EStateM ε σ α) s = .ok a t ↔ x = .ok a ∧ t = s := by
  cases x with
  | ok b =>
      rw [ofExcept_ok rfl]
      constructor
      · rintro ⟨⟩
        exact ⟨rfl, rfl⟩
      · rintro ⟨⟨⟩, rfl⟩
        rfl
  | error e =>
      rw [ofExcept_error rfl]
      constructor
      · intro h; cases h
      · rintro ⟨⟨⟩, _⟩

/-! ## Loops -/

theorem forM_cons_ok {f : ι → EStateM ε σ Unit} {i : ι} {is : List ι} {s t : σ}
    (h : f i s = .ok () t) : (i :: is).forM f s = is.forM f t := bind_ok h

theorem forM_cons_error {f : ι → EStateM ε σ Unit} {i : ι} {is : List ι} {s t : σ} {e : ε}
    (h : f i s = .error e t) : (i :: is).forM f s = .error e t := bind_error h

/-- A loop keeps what each of its rounds keeps.  The invariant may speak of
the rounds that are over. -/
theorem forM_keeps {f : ι → EStateM ε σ Unit} {P : List ι → σ → Prop} :
    ∀ (todo done : List ι) (s : σ),
      (∀ before i after t, todo = before ++ i :: after → P (done ++ before) t →
        ∃ r, f i t = .ok () r ∧ P (done ++ before ++ [i]) r) →
      P done s → ∃ t, todo.forM f s = .ok () t ∧ P (done ++ todo) t
  | [], done, s, _, h => ⟨s, rfl, by simpa using h⟩
  | i :: todo, done, s, step, h => by
      obtain ⟨r, run, hr⟩ := step [] i todo s rfl (by simpa using h)
      have later : ∀ before j after t, todo = before ++ j :: after →
          P (done ++ [i] ++ before) t →
            ∃ r, f j t = .ok () r ∧ P (done ++ [i] ++ before ++ [j]) r := by
        intro before j after t split ht
        have := step (i :: before) j after t (by simp [split]) (by simpa using ht)
        simpa using this
      obtain ⟨t, rest, ht⟩ := forM_keeps todo (done ++ [i]) r later (by simpa using hr)
      exact ⟨t, (forM_cons_ok run).trans rest, by simpa using ht⟩

/-- A loop over the first `n` numbers whose rounds lead from one known state
to the next. -/
theorem forM_range {f : Nat → EStateM ε σ Unit} (states : Nat → σ) {n : Nat}
    (step : ∀ k < n, f k (states k) = .ok () (states (k + 1))) :
    (List.range n).forM f (states 0) = .ok () (states n) := by
  have kept := forM_keeps (f := f) (P := fun done s => s = states done.length)
    (List.range n) [] (states 0) ?_ rfl
  · obtain ⟨t, run, rfl⟩ := kept
    simpa using run
  · rintro before i after t split rfl
    have hlen : before.length < n := by
      have := congrArg List.length split
      simp at this
      omega
    have hi : i = before.length := by
      have := congrArg (·[before.length]?) split
      simpa [List.getElem?_range hlen] using this.symm
    subst hi
    exact ⟨states (before.length + 1), by simpa using step _ hlen, by simp⟩

/-- The same loop up to the first round that fails. -/
theorem forM_range_error {f : Nat → EStateM ε σ Unit} (states : Nat → σ) {n m : Nat} {e : ε}
    {s : σ} (step : ∀ k < m, f k (states k) = .ok () (states (k + 1))) (hm : m < n)
    (fails : f m (states m) = .error e s) :
    (List.range n).forM f (states 0) = .error e s := by
  obtain ⟨d, rfl⟩ : ∃ d, n = m + (d + 1) := ⟨n - m - 1, by omega⟩
  have hsplit : List.range (m + (d + 1))
      = List.range m ++ m :: (List.range d).map (m + 1 + ·) := by
    rw [List.range_add, List.range_succ_eq_map]
    simp [Function.comp_def, Nat.add_assoc, Nat.add_comm 1]
  have hrun : (List.range m).forM f (states 0) = .ok () (states m) := forM_range states step
  rw [hsplit, List.forM_eq_forM, List.forM_append]
  exact (bind_ok hrun).trans (forM_cons_error fails)

/-- A loop of checks succeeds exactly if every check does. -/
theorem forM_checks {f : ι → Except ε Unit} {is : List ι} :
    is.forM f = .ok () ↔ ∀ i ∈ is, f i = .ok () := by
  induction is with
  | nil => simp [pure, Except.pure]
  | cons i is ih =>
      cases h : f i with
      | ok _ =>
          have : (i :: is).forM f = is.forM f := by
            simp [h, bind, Except.bind]
          rw [this, ih]
          simp [h]
      | error e =>
          have : (i :: is).forM f = .error e := by
            simp [h, bind, Except.bind]
          rw [this]
          simp [h]

/-- A loop of checks that fails does so at one of them. -/
theorem forM_checks_error {f : ι → Except ε Unit} {is : List ι} {e : ε} (h : is.forM f = .error e) :
    ∃ i ∈ is, f i = .error e := by
  induction is with
  | nil => cases h
  | cons i is ih =>
      rcases except_bind_eq_error.mp h with first | ⟨_, _, rest⟩
      · exact ⟨i, List.mem_cons_self, first⟩
      · obtain ⟨j, hj, hf⟩ := ih rest
        exact ⟨j, List.mem_cons_of_mem _ hj, hf⟩

end TypeSchema.Steps
