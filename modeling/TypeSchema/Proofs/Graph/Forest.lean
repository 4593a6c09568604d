/-
# Forest — declarations as they stand inside each other

A source is a forest: declarations beside each other, each with others
inside.  Building it gives the declarations numbers in the order of the text,
so where each one ends up, and what its parent and its children are called,
follow from the number at which the forest starts (`Forest.find`,
`Forest.tops`).  `Grown` says that one graph is another one with a forest
planted at a declaration, and that is all that building a source does.

Numbers occur in a forest only as parents and children, so a forest that
starts elsewhere is the same one under a change of numbers (`find_shift`).
-/
import TypeSchema.Proofs.Graph.Built
import TypeSchema.Proofs.Placement

namespace TypeSchema

open Declaration (Id Reference)

/-- Declarations inside and beside each other.  Those of a forest know neither their parents nor
their children yet. -/
inductive Forest where
  | none
  | tree (d : Declaration) (inside : Forest)
  | beside (f g : Forest)

/-- The declaration with its place among others. -/
def Declaration.planted (d : Declaration) (parent : Option Id) (children : List Id) :
    Declaration :=
  { d with parent := parent, children := children }

/-- The declaration after a change of numbers. -/
def Declaration.renumbered (σ : Id → Id) (d : Declaration) : Declaration :=
  d.planted (d.parent.map σ) (d.children.map σ)

namespace Forest

/-- How many declarations there are. -/
def size : Forest → Nat
  | none => 0
  | tree _ inside => inside.size + 1
  | beside f g => f.size + g.size

/-- The numbers of the outermost declarations of a forest that starts at `n`. -/
def tops (n : Nat) : Forest → List Id
  | none => []
  | tree _ _ => [n]
  | beside f g => f.tops n ++ g.tops (n + f.size)

/-- The declaration of a number in a forest that starts at `n` and stands inside `parent`. -/
def find (n : Nat) (parent : Option Id) : Forest → Nat → Option Declaration
  | none, _ => Option.none
  | tree d inside, i =>
    if i = n then some (d.planted parent (inside.tops (n + 1)))
    else inside.find (n + 1) (some n) i
  | beside f g, i =>
    if i < n + f.size then f.find n parent i else g.find (n + f.size) parent i

/-- The forest as if its declarations had been made by calls. -/
def unplaced : Forest → Forest
  | none => none
  | tree d inside => tree d.unplaced inside.unplaced
  | beside f g => beside f.unplaced g.unplaced

/-! ## What is found where -/

section Find

variable {n i c : Nat} {q : Option Id} {d : Declaration}

theorem mem_tops {f : Forest} (h : c ∈ f.tops n) : n ≤ c ∧ c < n + f.size := by
  induction f generalizing n with
  | none => cases h
  | tree d inside _ =>
      rw [List.mem_singleton.mp h]
      exact ⟨Nat.le_refl n, Nat.lt_add_of_pos_right (Nat.succ_pos _)⟩
  | beside f g ihf ihg =>
      rcases List.mem_append.mp h with h | h
      · have := ihf h
        exact ⟨this.1, Nat.lt_of_lt_of_le this.2 (by simp [size])⟩
      · have := ihg h
        exact ⟨by omega, by rw [size]; omega⟩

theorem find_isSome {f : Forest} : (f.find n q i).isSome ↔ n ≤ i ∧ i < n + f.size := by
  induction f generalizing n q with
  | none =>
      simp only [find, size, Option.isSome_none, Bool.false_eq_true, false_iff]
      omega
  | tree d inside ih =>
      rw [find, size]
      split
      · simp only [Option.isSome_some, true_iff]
        omega
      · rw [ih]
        omega
  | beside f g ihf ihg =>
      rw [find, size]
      split
      · rw [ihf]
        omega
      · rw [ihg]
        omega

theorem bounds_of_find {f : Forest} (h : f.find n q i = some d) : n ≤ i ∧ i < n + f.size :=
  find_isSome.mp (by rw [h]; rfl)

theorem size_unplaced (f : Forest) : f.unplaced.size = f.size := by
  induction f with
  | none => rfl
  | tree d inside ih => rw [unplaced, size, size, ih]
  | beside f g ihf ihg => rw [unplaced, size, size, ihf, ihg]

theorem tops_unplaced (f : Forest) : f.unplaced.tops n = f.tops n := by
  induction f generalizing n with
  | none => rfl
  | tree d inside _ => rfl
  | beside f g ihf ihg => rw [unplaced, tops, tops, ihf, ihg, size_unplaced]

theorem find_unplaced (f : Forest) :
    f.unplaced.find n q i = (f.find n q i).map Declaration.unplaced := by
  induction f generalizing n q with
  | none => rfl
  | tree d inside ih =>
      rw [unplaced, find, find, ih, tops_unplaced]
      split <;> rfl
  | beside f g ihf ihg =>
      rw [unplaced, find, find, ihf, ihg, size_unplaced]
      split <;> rfl

/-! ## The same forest at another number -/

variable {σ : Id → Id} {m : Nat}

/-- `σ` takes the numbers of a forest at `n` to those of the forest at `m`. -/
def Shifts (σ : Id → Id) (n m : Nat) (f : Forest) : Prop := ∀ k < f.size, σ (n + k) = m + k

theorem Shifts.inside {d : Declaration} {inside : Forest} (h : Shifts σ n m (tree d inside)) :
    Shifts σ (n + 1) (m + 1) inside := by
  intro k hk
  have := h (k + 1) (Nat.succ_lt_succ hk)
  rwa [Nat.add_right_comm n 1 k, Nat.add_right_comm m 1 k]

theorem Shifts.left {f g : Forest} (h : Shifts σ n m (beside f g)) : Shifts σ n m f :=
  fun k hk => h k (Nat.lt_of_lt_of_le hk (Nat.le_add_right _ _))

theorem Shifts.right {f g : Forest} (h : Shifts σ n m (beside f g)) :
    Shifts σ (n + f.size) (m + f.size) g := by
  intro k hk
  have := h (f.size + k) (Nat.add_lt_add_left hk _)
  rw [Nat.add_assoc, this, Nat.add_assoc]

theorem tops_shift {f : Forest} (h : Shifts σ n m f) : f.tops m = (f.tops n).map σ := by
  induction f generalizing n m with
  | none => rfl
  | tree d inside _ =>
      have := h 0 (Nat.succ_pos _)
      simpa [tops] using this.symm
  | beside f g ihf ihg => rw [tops, tops, List.map_append, ihf h.left, ihg h.right]

theorem find_shift {f : Forest} (h : Shifts σ n m f) {k : Nat} (hk : k < f.size) :
    f.find m (q.map σ) (m + k)
      = (f.find n q (n + k)).map (Declaration.renumbered σ) := by
  induction f generalizing n m q k with
  | none => cases hk
  | tree d inside ih =>
      cases k with
      | zero =>
          rw [find, find, if_pos (Nat.add_zero m), if_pos (Nat.add_zero n), tops_shift h.inside]
          rfl
      | succ k =>
          have first : σ n = m := h 0 (Nat.succ_pos _)
          have := ih (q := some n) h.inside (Nat.lt_of_succ_lt_succ hk)
          rw [find, find, if_neg (by omega), if_neg (by omega),
            show m + (k + 1) = m + 1 + k by omega, show n + (k + 1) = n + 1 + k by omega, ← this,
            Option.map_some, first]
  | beside f g ihf ihg =>
      rw [find, find]
      by_cases hf : k < f.size
      · rw [if_pos (by omega), if_pos (by omega)]
        exact ihf h.left hf
      · obtain ⟨j, rfl⟩ : ∃ j, k = f.size + j := ⟨k - f.size, by omega⟩
        rw [if_neg (by omega), if_neg (by omega), ← Nat.add_assoc, ← Nat.add_assoc]
        exact ihg h.right (by rw [size] at hk; omega)

end Find

end Forest

/-! ## Planting a forest -/

namespace Graph

variable {g h k : Graph} {p : Option Id} {f : Forest}

/-- `h` is `g` with a forest at its end that stands inside `p`. -/
structure Grown (g : Graph) (p : Option Id) (f : Forest) (h : Graph) : Prop where
  size : h.size = g.size + f.size
  older : ∀ i < g.size, h.node i =
    { g.node i with
      children := (g.node i).children ++ if p = some i then f.tops g.size else [] }
  newer : ∀ i, g.size ≤ i → h.node i = (f.find g.size p i).getD default

theorem Grown.none (g : Graph) (p : Option Id) : Grown g p .none g where
  size := rfl
  older := fun i _ => by simp [Forest.tops]
  newer := fun i hi => node_of_size_le hi

theorem Grown.beside {f' : Forest} (hp : ∀ q, p = some q → q < g.size) (first : Grown g p f h)
    (second : Grown h p f' k) : Grown g p (.beside f f') k where
  size := by rw [second.size, first.size, Forest.size, Nat.add_assoc]
  older := fun i hi => by
    rw [second.older i (by rw [first.size]; omega), first.older i hi, first.size, Forest.tops]
    split <;> simp
  newer := fun i hi => by
    rw [Forest.find]
    by_cases hf : i < g.size + f.size
    · have outside : p ≠ some i := fun h => absurd (hp i h) (Nat.not_lt.mpr hi)
      rw [if_pos hf, second.older i (first.size ▸ hf), first.newer i hi, if_neg outside,
        List.append_nil]
    · rw [if_neg hf, second.newer i (by rw [first.size]; omega), first.size]

/-- A forest inside a declaration that has just been added leaves it as it is, apart from the
children. -/
theorem Grown.node_self {d : Declaration} (childless : d.children = [])
    (grown : Grown (g.adopt d) (some g.size) f h) :
    h.node g.size = d.planted d.parent (f.tops (g.size + 1)) := by
  have hlt : g.size < (g.adopt d).size := (size_adopt g d).symm ▸ Nat.lt_succ_self _
  rw [grown.older g.size hlt, node_adopt_self, childless, if_pos rfl, size_adopt]
  rfl

/-- A tree is planted by adding its declaration, planting what is inside, and completing the
declaration. -/
theorem Grown.tree {d : Declaration} (hd : Newborn g d)
    (grown : Grown (g.adopt d) (some g.size) f h) (d' : Declaration) :
    Grown g d.parent (.tree d' f)
      (h.put g.size (d'.planted d.parent (f.tops (g.size + 1)))) where
  size := by rw [size_put, grown.size, size_adopt, Forest.size]; omega
  older := fun i hi => by
    have hne : i ≠ g.size := Nat.ne_of_lt hi
    have inside : ¬ some g.size = some i := fun h => hne (Option.some.inj h).symm
    rw [node_put_ne hne, grown.older i (by rw [size_adopt]; omega), node_adopt_ne hd hne,
      if_neg inside, List.append_nil]
    rfl
  newer := fun i hi => by
    rw [Forest.find]
    by_cases hi' : i = g.size
    · subst hi'
      have hlt : g.size < h.size := by rw [grown.size, size_adopt]; omega
      rw [if_pos rfl, Option.getD_some]
      exact node_put_self hlt
    · rw [if_neg hi', node_put_ne hi', grown.newer i (by rw [size_adopt]; omega), size_adopt]

end Graph

end TypeSchema
