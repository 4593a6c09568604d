/-
# Reordering — the same forest in another order

Declarations beside each other can be put in another order (`Reordered`).
Everything that follows from the order alone is then a change of numbers:
there is a permutation `σ` such that each declaration is found under its new
number, with its parent and children renumbered, and only the numbers of the
forest itself change (`Reordered.exists_renumbers`).  The permutation comes
from exchanging two neighbouring blocks of numbers.

A reordering inside roots (`Resown`) leaves the roots where they are; all it
does to them is to put their children in another order (`Resown.exists_mirrors`).
-/
import Mathlib.Logic.Equiv.Basic
import Mathlib.Data.List.Perm.Basic
import TypeSchema.Proofs.Graph.Forest

namespace TypeSchema

open Declaration (Id)

/-! ## Changes of numbers -/

namespace Declaration

theorem renumbered_renumbered (σ τ : Id → Id) (d : Declaration) :
    (d.renumbered σ).renumbered τ = d.renumbered (τ ∘ σ) := by
  simp only [renumbered, planted, Option.map_map, List.map_map]

/-- `d'` is `d` after a change of numbers; if it is a root, its children may be in another
order. -/
structure Counterpart (σ : Id → Id) (d d' : Declaration) : Prop where
  rest : d' = (d.renumbered σ).planted (d.parent.map σ) d'.children
  perm : d'.children.Perm (d.children.map σ)
  children : d.production ≠ .root → d'.children = d.children.map σ

theorem Counterpart.of_renumbered (σ : Id → Id) (d : Declaration) :
    Counterpart σ d (d.renumbered σ) :=
  ⟨rfl, .refl _, fun _ => rfl⟩

theorem Counterpart.trans {σ τ : Id → Id} {d d' d'' : Declaration} (h : Counterpart σ d d')
    (h' : Counterpart τ d' d'') : Counterpart (τ ∘ σ) d d'' where
  rest := by
    obtain ⟨rest, _, _⟩ := h
    obtain ⟨rest', _, _⟩ := h'
    rw [rest', rest]
    simp only [renumbered, planted, Option.map_map]
  perm := by
    have := h'.perm.trans (h.perm.map τ)
    rwa [List.map_map] at this
  children := fun hp => by
    have same : d'.production = d.production := by rw [h.rest]; rfl
    rw [h'.children (same ▸ hp), h.children hp, List.map_map]

end Declaration

namespace Forest

/-! ## Exchanging blocks -/

/-- The permutation that exchanges the `a` numbers from `n` on with the `b` numbers behind
them. -/
def exchange (n a b : Nat) : Equiv.Perm Nat where
  toFun i := if i < n then i else if i < n + a then i + b else if i < n + a + b then i - a else i
  invFun i := if i < n then i else if i < n + b then i + a else if i < n + a + b then i - b else i
  left_inv := by
    intro i
    simp only
    split_ifs <;> omega
  right_inv := by
    intro i
    simp only
    split_ifs <;> omega

theorem exchange_outside {n a b i : Nat} (h : i < n ∨ n + a + b ≤ i) : exchange n a b i = i := by
  show (if i < n then i else _) = i
  split_ifs <;> omega

theorem exchange_left {n a b k : Nat} (h : k < a) : exchange n a b (n + k) = n + b + k := by
  show (if n + k < n then _ else if n + k < n + a then n + k + b else _) = n + b + k
  split_ifs <;> omega

theorem exchange_right {n a b k : Nat} (h : k < b) : exchange n a b (n + a + k) = n + k := by
  show (if n + a + k < n then _ else if n + a + k < n + a then _ else
    if n + a + k < n + a + b then n + a + k - a else _) = n + k
  split_ifs <;> omega

/-! ## Reordering -/

/-- The same declarations beside each other in another order. -/
inductive Reordered : Forest → Forest → Prop
  | refl (f : Forest) : Reordered f f
  | swap (f g rest : Forest) :
      Reordered (.beside f (.beside g rest)) (.beside g (.beside f rest))
  | beside {g g' : Forest} (f : Forest) : Reordered g g' → Reordered (.beside f g) (.beside f g')
  | trans {f g h : Forest} : Reordered f g → Reordered g h → Reordered f h

/-- The numbers of a forest change to those of another one by `σ`. -/
structure Renumbers (σ : Equiv.Perm Nat) (n : Nat) (f f' : Forest) : Prop where
  outside : ∀ i : Nat, i < n ∨ n + f.size ≤ i → σ i = i
  tops : (f'.tops n).Perm ((f.tops n).map σ)
  find : ∀ (p : Option Id), (∀ q, p = some q → q < n) → ∀ i : Nat, n ≤ i → i < n + f.size →
    f'.find n p (σ i) = (f.find n p i).map (Declaration.renumbered σ)

section Renumbers

variable {σ τ : Equiv.Perm Nat} {n : Nat} {f f' g : Forest} {p : Option Id}

theorem Reordered.size (h : Reordered f f') : f'.size = f.size := by
  induction h with
  | refl f => rfl
  | swap f g rest => simp only [Forest.size]; omega
  | beside f _ ih => simp only [Forest.size, ih]
  | trans _ _ ih ih' => exact ih'.trans ih

theorem map_outside (outside : ∀ i : Nat, i < n ∨ n + f.size ≤ i → σ i = i)
    (hp : ∀ q, p = some q → q < n) : p.map σ = p := by
  cases p with
  | none => rfl
  | some q => exact congrArg some (outside q (.inl (hp q rfl)))

/-- What a permutation leaves alone outside of a block it does not take out of the block. -/
theorem mem_block {m : Nat} (outside : ∀ i : Nat, i < n ∨ m ≤ i → σ i = i) {i : Nat}
    (h : n ≤ i ∧ i < m) : n ≤ σ i ∧ σ i < m := by
  by_contra hc
  have fixed : σ (σ i) = σ i := outside (σ i) (by omega)
  have : σ i = i := σ.injective fixed
  omega

theorem shifts_fixed (fixed : ∀ i : Nat, n ≤ i → i < n + f.size → σ i = i) :
    Shifts σ n n f :=
  fun k hk => fixed (n + k) (by omega) (by omega)

/-- A forest that `σ` leaves alone stays as it is. -/
theorem find_fixed (hp : p.map σ = p) (fixed : ∀ i : Nat, n ≤ i → i < n + f.size → σ i = i)
    {i : Nat} (hn : n ≤ i) (hi : i < n + f.size) :
    f.find n p (σ i) = (f.find n p i).map (Declaration.renumbered σ) := by
  have shift := find_shift (q := p) (shifts_fixed fixed) (k := i - n) (by omega)
  rw [hp, show n + (i - n) = i by omega] at shift
  exact (congrArg (f.find n p) (fixed i hn hi)).trans shift

theorem Renumbers.refl (n : Nat) (f : Forest) : Renumbers (.refl Nat) n f f where
  outside := fun _ _ => rfl
  tops := by rw [Equiv.coe_refl, List.map_id]
  find := fun p _ i hn hi =>
    find_fixed (σ := .refl Nat) (by cases p <;> rfl) (fun _ _ _ => rfl) hn hi

theorem Renumbers.trans (hsize : f'.size = f.size) (h : Renumbers σ n f f')
    (h' : Renumbers τ n f' g) : Renumbers (σ.trans τ) n f g where
  outside := fun i hi => by
    rw [Equiv.trans_apply, h.outside i hi, h'.outside i (hsize ▸ hi)]
  tops := by
    have := h'.tops.trans (h.tops.map τ)
    rwa [List.map_map] at this
  find := fun p hp i hn hi => by
    obtain ⟨hn', hi'⟩ := mem_block h.outside ⟨hn, hi⟩
    rw [Equiv.trans_apply, h'.find p hp (σ i) hn' (hsize ▸ hi'), h.find p hp i hn hi,
      Option.map_map]
    exact congrArg (Option.map · _) (funext fun d => d.renumbered_renumbered σ τ)

theorem Renumbers.beside (f : Forest) {g g' : Forest} (h : Renumbers σ (n + f.size) g g') :
    Renumbers σ n (.beside f g) (.beside f g') where
  outside := fun i hi => h.outside i (by rw [Forest.size] at hi; omega)
  tops := by
    have before : f.tops n = (f.tops n).map σ :=
      tops_shift (shifts_fixed fun i _ hi => h.outside i (.inl hi))
    rw [Forest.tops, Forest.tops, List.map_append, ← before]
    exact h.tops.append_left _
  find := fun p hp i hn hi => by
    have hp' : p.map σ = p := map_outside h.outside fun q hq => by
      have := hp q hq
      exact Nat.lt_add_right _ this
    rw [Forest.find, Forest.find]
    by_cases hf : i < n + f.size
    · have fixed : σ i = i := h.outside i (.inl hf)
      rw [if_pos hf, fixed, if_pos hf, ← find_fixed hp' (fun j _ hj => h.outside j (.inl hj)) hn hf,
        fixed]
    · rw [Forest.size] at hi
      obtain ⟨hn', _⟩ := mem_block h.outside ⟨Nat.not_lt.mp hf, by omega⟩
      rw [if_neg hf, if_neg (Nat.not_lt.mpr hn')]
      exact h.find p (fun q hq => Nat.lt_add_right _ (hp q hq)) i (Nat.not_lt.mp hf) (by omega)

theorem Renumbers.swap (n : Nat) (f g rest : Forest) :
    Renumbers (exchange n f.size g.size) n (.beside f (.beside g rest))
      (.beside g (.beside f rest)) := by
  have left : Shifts (exchange n f.size g.size) n (n + g.size) f := fun k hk => exchange_left hk
  have right : Shifts (exchange n f.size g.size) (n + f.size) n g := fun k hk => exchange_right hk
  have behind : Shifts (exchange n f.size g.size) (n + f.size + g.size) (n + g.size + f.size)
      rest := by
    intro k _
    rw [exchange_outside (.inr (Nat.le_add_right _ _)), Nat.add_right_comm n f.size]
  constructor
  · intro i hi
    simp only [Forest.size] at hi
    exact exchange_outside (by omega)
  · simp only [Forest.tops, List.map_append]
    rw [tops_shift left, tops_shift right, tops_shift behind, ← List.append_assoc,
      ← List.append_assoc]
    exact List.perm_append_comm.append_right _
  · intro p hp i hn hi
    have hp' : p.map (exchange n f.size g.size) = p := by
      cases p with
      | none => rfl
      | some q => exact congrArg some (exchange_outside (.inl (hp q rfl)))
    simp only [Forest.size] at hi
    -- the block of `f`, the block of `g`, and what comes behind them
    by_cases hf : i < n + f.size
    · obtain ⟨k, rfl⟩ : ∃ k, i = n + k := ⟨i - n, by omega⟩
      have hk : k < f.size := by omega
      have found := find_shift (q := p) left hk
      rw [hp'] at found
      simp only [Forest.find]
      rw [exchange_left hk, if_neg (by omega), if_pos (by omega), if_pos hf, found]
    · by_cases hg : i < n + f.size + g.size
      · obtain ⟨k, rfl⟩ : ∃ k, i = n + f.size + k := ⟨i - (n + f.size), by omega⟩
        have hk : k < g.size := by omega
        have found := find_shift (q := p) right hk
        rw [hp'] at found
        simp only [Forest.find]
        rw [exchange_right hk, if_pos (by omega), if_neg hf, if_pos hg, found]
      · obtain ⟨k, rfl⟩ : ∃ k, i = n + f.size + g.size + k := ⟨i - (n + f.size + g.size), by omega⟩
        have hk : k < rest.size := by omega
        have found := find_shift (q := p) behind hk
        rw [hp'] at found
        simp only [Forest.find]
        rw [behind k hk, if_neg (by omega), if_neg (by omega), if_neg hf, if_neg hg, found]

/-- A reordering is a change of the numbers of the forest. -/
theorem Reordered.exists_renumbers (h : Reordered f f') (n : Nat) : ∃ σ, Renumbers σ n f f' := by
  induction h generalizing n with
  | refl f => exact ⟨_, .refl n f⟩
  | swap f g rest => exact ⟨_, .swap n f g rest⟩
  | beside f _ ih =>
      obtain ⟨σ, hσ⟩ := ih (n + f.size)
      exact ⟨σ, hσ.beside f⟩
  | trans h _ ih ih' =>
      obtain ⟨σ, hσ⟩ := ih n
      obtain ⟨τ, hτ⟩ := ih' n
      exact ⟨σ.trans τ, hσ.trans h.size hτ⟩

end Renumbers

/-! ## Reordering inside roots -/

/-- The same roots beside each other; inside each of them, the same declarations in another
order. -/
inductive Resown : Forest → Forest → Prop
  | none : Resown .none .none
  | tree {f f' : Forest} (d : Declaration) : d.production = .root → Reordered f f' →
      Resown (.tree d f) (.tree d f')
  | beside {f f' g g' : Forest} : Resown f f' → Resown g g' →
      Resown (.beside f g) (.beside f' g')

/-- The roots stay where they are; every declaration has its counterpart. -/
structure Mirrors (σ : Equiv.Perm Nat) (n : Nat) (f f' : Forest) : Prop where
  size : f'.size = f.size
  outside : ∀ i : Nat, i < n ∨ n + f.size ≤ i → σ i = i
  tops : f'.tops n = f.tops n
  fixed : ∀ i ∈ f.tops n, σ i = i
  find : ∀ (i : Nat) (d : Declaration), f.find n Option.none i = some d →
    ∃ d', f'.find n Option.none (σ i) = some d' ∧ d.Counterpart σ d'

section Mirrors

variable {σ τ : Equiv.Perm Nat} {n : Nat} {f f' g g' : Forest}

theorem Mirrors.refl (n : Nat) (f : Forest) : Mirrors (.refl Nat) n f f where
  size := rfl
  outside := fun _ _ => rfl
  tops := rfl
  fixed := fun _ _ => rfl
  find := fun i d hd => by
    have := (Renumbers.refl n f).find Option.none (by simp) i (bounds_of_find hd).1
      (bounds_of_find hd).2
    exact ⟨_, this.trans (by rw [hd]; rfl), .of_renumbered _ d⟩

theorem Mirrors.trans (h : Mirrors σ n f f') (h' : Mirrors τ n f' g) :
    Mirrors (σ.trans τ) n f g where
  size := h'.size.trans h.size
  outside := fun i hi => by
    rw [Equiv.trans_apply, h.outside i hi, h'.outside i (h.size ▸ hi)]
  tops := h'.tops.trans h.tops
  fixed := fun i hi => by
    rw [Equiv.trans_apply, h.fixed i hi, h'.fixed i (h.tops ▸ hi)]
  find := fun i d hd => by
    obtain ⟨d', hd', counterpart⟩ := h.find i d hd
    obtain ⟨d'', hd'', counterpart'⟩ := h'.find (σ i) d' hd'
    exact ⟨d'', hd'', counterpart.trans counterpart'⟩

theorem Mirrors.left (h : Mirrors σ n f f') (g : Forest) :
    Mirrors σ n (.beside f g) (.beside f' g) := by
  have behind : ∀ i : Nat, n + f.size ≤ i → σ i = i := fun i hi => h.outside i (.inr hi)
  constructor
  · rw [Forest.size, Forest.size, h.size]
  · intro i hi
    rw [Forest.size] at hi
    exact h.outside i (by omega)
  · rw [Forest.tops, Forest.tops, h.tops, h.size]
  · intro i hi
    rcases List.mem_append.mp hi with hi | hi
    · exact h.fixed i hi
    · exact behind i (mem_tops hi).1
  · intro i d hd
    rw [Forest.find] at hd
    by_cases hf : i < n + f.size
    · rw [if_pos hf] at hd
      obtain ⟨d', hd', counterpart⟩ := h.find i d hd
      have := (bounds_of_find hd').2
      rw [h.size] at this
      exact ⟨d', by rw [Forest.find, h.size, if_pos this, hd'], counterpart⟩
    · rw [if_neg hf] at hd
      have hi := Nat.not_lt.mp hf
      have found := find_fixed (σ := σ) (p := Option.none) rfl
        (fun j hj _ => behind j hj) hi (bounds_of_find hd).2
      rw [behind i hi] at found ⊢
      refine ⟨_, ?_, .of_renumbered _ d⟩
      rw [Forest.find, h.size, if_neg hf]
      exact found.trans (by rw [hd]; rfl)

theorem Mirrors.right (h : Mirrors σ (n + f.size) g g') : Mirrors σ n (.beside f g) (.beside f g') := by
  have before : ∀ i : Nat, i < n + f.size → σ i = i := fun i hi => h.outside i (.inl hi)
  constructor
  · rw [Forest.size, Forest.size, h.size]
  · intro i hi
    rw [Forest.size] at hi
    exact h.outside i (by omega)
  · rw [Forest.tops, Forest.tops, h.tops]
  · intro i hi
    rcases List.mem_append.mp hi with hi | hi
    · exact before i (mem_tops hi).2
    · exact h.fixed i hi
  · intro i d hd
    rw [Forest.find] at hd
    by_cases hf : i < n + f.size
    · rw [if_pos hf] at hd
      have found := find_fixed (σ := σ) (p := Option.none) rfl
        (fun j _ hj => before j hj) (bounds_of_find hd).1 hf
      rw [before i hf] at found ⊢
      refine ⟨_, ?_, .of_renumbered _ d⟩
      rw [Forest.find, if_pos hf]
      exact found.trans (by rw [hd]; rfl)
    · rw [if_neg hf] at hd
      obtain ⟨d', hd', counterpart⟩ := h.find i d hd
      have := (bounds_of_find hd').1
      exact ⟨d', by rw [Forest.find, if_neg (Nat.not_lt.mpr this), hd'], counterpart⟩

theorem Renumbers.mirrors {d : Declaration} (hsize : f'.size = f.size) (root : d.production = .root)
    (h : Renumbers σ (n + 1) f f') : Mirrors σ n (.tree d f) (.tree d f') := by
  have first : σ n = n := h.outside n (.inl (Nat.lt_succ_self n))
  constructor
  · rw [Forest.size, Forest.size, hsize]
  · intro i hi
    rw [Forest.size] at hi
    exact h.outside i (by omega)
  · rfl
  · intro i hi
    rwa [List.mem_singleton.mp hi]
  · intro i e he
    rw [Forest.find] at he
    by_cases hi : i = n
    · subst hi
      rw [if_pos rfl] at he
      cases he
      refine ⟨_, by rw [Forest.find, if_pos first], rfl, h.tops, fun hp => absurd root hp⟩
    · rw [if_neg hi] at he
      obtain ⟨hn, hm⟩ := bounds_of_find he
      have hn' : ¬ σ i = n := fun hc => hi (σ.injective (hc.trans first.symm))
      refine ⟨_, ?_, .of_renumbered _ e⟩
      rw [Forest.find, if_neg hn', h.find (some n) (fun q hq => ?_) i hn hm, he]
      · rfl
      · cases hq
        exact Nat.lt_succ_self n

theorem Resown.exists_mirrors (h : Resown f f') (n : Nat) : ∃ σ, Mirrors σ n f f' := by
  induction h generalizing n with
  | none => exact ⟨_, .refl n .none⟩
  | tree d root reordered =>
      obtain ⟨σ, hσ⟩ := reordered.exists_renumbers (n + 1)
      exact ⟨σ, hσ.mirrors reordered.size root⟩
  | @beside f f' g g' _ _ ih ih' =>
      obtain ⟨σ, hσ⟩ := ih n
      obtain ⟨τ, hτ⟩ := ih' (n + f.size)
      exact ⟨σ.trans τ, (hσ.left g).trans (hσ.size ▸ hτ).right⟩

theorem Resown.size (h : Resown f f') : f'.size = f.size := by
  obtain ⟨σ, hσ⟩ := h.exists_mirrors 0
  exact hσ.size

end Mirrors

end Forest

end TypeSchema
