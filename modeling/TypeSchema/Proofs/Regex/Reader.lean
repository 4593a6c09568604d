/-
# Reader — reading a source that a closing follows

A source is read with the closing of a group behind it.  What a reader makes of
the source does not depend on that, as long as it stays within the source: it
gives the same, and leaves the same with the closing behind it.  There are two
more ways in which it can go (`Follows`).  Where a comment is open, the closing
is part of the comment.  And where reading fails at the end of the source, it
may go on into the closing; but then it has taken the parenthesis.

`Agrees` says so of a reader, and goes through sequences of readers.  Readers
that go in circles have more fuel where more text is left, so it is said of two
readers, the one for the source and the one for the source with the closing.
-/
import Mathlib.Data.List.Infix
import Mathlib.Data.List.TakeWhile
import TypeSchema.Regex.Reading

namespace TypeSchema.Regex

/-- What stands behind a source in its pattern. -/
def closing : List Char := [')', '$']

/-- The reading with the closing behind what is left. -/
def Reading.followed (r : Reading) : Reading := { r with rest := r.rest ++ closing }

namespace Reader

variable {α β : Type} {m m' : Reader α} {f f' : α → Reader β} {r r₁ : Reading}

theorem bind_of_some {a : α} (h : m r = some (a, r₁)) : (m >>= f) r = f a r₁ := by
  show (m r).bind _ = _
  rw [h]
  rfl

theorem bind_of_none (h : m r = none) : (m >>= f) r = none := by
  show (m r).bind _ = _
  rw [h]
  rfl

theorem bind_eq_some {b : β} {r₂ : Reading} :
    (m >>= f) r = some (b, r₂) ↔ ∃ a r₁, m r = some (a, r₁) ∧ f a r₁ = some (b, r₂) := by
  constructor
  · intro h
    obtain ⟨⟨a, r₁⟩, hm, hf⟩ := Option.bind_eq_some_iff.mp h
    exact ⟨a, r₁, hm, hf⟩
  · rintro ⟨a, r₁, hm, hf⟩
    exact Option.bind_eq_some_iff.mpr ⟨(a, r₁), hm, hf⟩

theorem get_bind {f : Reading → Reader β} : (get >>= f) r = f r r := rfl

theorem here_bind {f : Char → Reader β} {c : Char} {cs : List Char} {v : Bool} {ns : List String} :
    (Reader.here >>= f) ⟨c :: cs, v, ns⟩ = f c ⟨c :: cs, v, ns⟩ := rfl

theorem demand_bind {p : Bool} {f : Unit → Reader β} :
    (demand p >>= f) r = if p = true then f () r else none := by
  cases p <;> rfl

theorem demand_bind_eq_some {p : Bool} {f : Unit → Reader β} {b : β} :
    (demand p >>= f) r = some (b, r₁) ↔ p = true ∧ f () r = some (b, r₁) := by
  cases p with
  | false => exact iff_of_false nofun (fun h => nomatch h.1)
  | true => exact (and_iff_right rfl).symm

/-! ## Readers go forward -/

/-- Nothing is put before what was there: what is left is an end of it. -/
def Shrinks (m : Reader α) : Prop := ∀ ⦃r a r₁⦄, m r = some (a, r₁) → r₁.rest <:+ r.rest

namespace Shrinks

theorem pure (a : α) : Shrinks (pure a : Reader α) := by
  rintro r _ _ ⟨⟩
  exact List.suffix_refl _

theorem failure : Shrinks (failure : Reader α) := by
  rintro r _ _ ⟨⟩

theorem bind (h : Shrinks m) (hf : ∀ a, Shrinks (f a)) : Shrinks (m >>= f) := by
  intro r b r₂ hb
  obtain ⟨a, r₁, hm, hf'⟩ := bind_eq_some.mp hb
  exact (hf a hf').trans (h hm)

theorem ite {c : Prop} [Decidable c] (h : Shrinks m) (h' : Shrinks m') :
    Shrinks (if c then m else m') := by
  split
  · exact h
  · exact h'

end Shrinks

mutual

theorem dropBlanks_suffix : ∀ cs, dropBlanks cs <:+ cs
  | [] => List.suffix_refl _
  | c :: cs => by
      rw [dropBlanks]
      split
      · exact (dropBlanks_suffix cs).trans (List.suffix_cons c cs)
      · split
        · exact (dropComment_suffix cs).trans (List.suffix_cons c cs)
        · exact List.suffix_refl _

theorem dropComment_suffix : ∀ cs, dropBlanks.dropComment cs <:+ cs
  | [] => List.suffix_refl _
  | c :: cs => by
      rw [dropBlanks.dropComment]
      split
      · exact (dropBlanks_suffix cs).trans (List.suffix_cons c cs)
      · exact (dropComment_suffix cs).trans (List.suffix_cons c cs)

end

theorem shrinks_space : Shrinks space := by
  rintro r _ _ ⟨⟩
  dsimp only
  split
  · exact dropBlanks_suffix r.rest
  · exact List.suffix_refl _

theorem shrinks_peek : Shrinks peek := by
  rintro r _ _ ⟨⟩
  exact List.suffix_refl _

theorem shrinks_peekSpace : Shrinks peekSpace := by
  rintro r _ _ ⟨⟩
  exact List.suffix_refl _

theorem shrinks_bump : Shrinks bump := by
  rintro r _ _ ⟨⟩
  exact List.drop_suffix _ _

theorem shrinks_bumpSpace : Shrinks bumpSpace := shrinks_bump.bind fun _ => shrinks_space

theorem shrinks_get : Shrinks (get : Reader Reading) := by
  rintro r _ _ ⟨⟩
  exact List.suffix_refl _

theorem shrinks_modify {g : Reading → Reading} (h : ∀ r, (g r).rest <:+ r.rest) :
    Shrinks (modify g : Reader Unit) := by
  rintro r _ _ ⟨⟩
  exact h r

theorem shrinks_here : Shrinks here := by
  refine shrinks_peek.bind fun c => ?_
  split
  · exact .pure _
  · exact .failure

theorem shrinks_demand (b : Bool) : Shrinks (demand b) := .ite (.pure _) .failure

/-- Something is taken. -/
def Takes (m : Reader α) : Prop :=
  ∀ ⦃r a r₁⦄, m r = some (a, r₁) → r₁.rest.length < r.rest.length

theorem Takes.bind (h : Takes m) (hf : ∀ a, Shrinks (f a)) : Takes (m >>= f) := by
  intro r b r₂ hb
  obtain ⟨a, r₁, hm, hf'⟩ := bind_eq_some.mp hb
  exact (hf a hf').length_le.trans_lt (h hm)

theorem takes_next : Takes next := by
  rintro ⟨_ | ⟨c, cs⟩, v, ns⟩ _ _ ⟨⟩
  exact Nat.lt_succ_self _

/-! ## Readers agree -/

/-- How reading goes on a source, and how on the source with the closing behind
it: in the same way; in the same way with the closing in an open comment, where
there can be one; or it fails on the source, and what is left otherwise is `late`. -/
def Follows (late : α → Reading → Prop) (commented : Prop) (o o' : Option (α × Reading)) : Prop :=
  (∃ a r, o = some (a, r) ∧ o' = some (a, r.followed)) ∨
  (commented ∧ ∃ a r, r.rest = [] ∧ o = some (a, r) ∧ o' = some (a, r)) ∨
  (o = none ∧ ∀ a r, o' = some (a, r) → late a r)

theorem Follows.imp {late : α → Reading → Prop} {p q : Prop} {o o' : Option (α × Reading)}
    (h : Follows late p o o') (hpq : p → q) : Follows late q o o' :=
  h.imp_right (Or.imp_left (And.imp_left hpq))

theorem Follows.late_of_none {late : α → Reading → Prop} {commented : Prop}
    {o : Option (α × Reading)} (h : Follows late commented none o) {a : α}
    (ho : o = some (a, r)) : late a r := by
  rcases h with ⟨_, _, h₀, -⟩ | ⟨-, _, _, -, h₀, -⟩ | ⟨-, beyond⟩
  · cases h₀
  · cases h₀
  · exact beyond a r ho

/-- What is left is an end of `s`. -/
def Within (s : List Char) (_ : α) (r : Reading) : Prop := r.rest <:+ s

/-- The parenthesis of the closing has been taken. -/
abbrev Past : α → Reading → Prop := Within ['$']

/-- The closing has been come to. -/
abbrev Reached : α → Reading → Prop := Within closing

theorem Past.reached {a : α} (h : Past a r) : Reached a r := h.trans (List.suffix_cons ')' _)

/-- What takes something of the closing takes the parenthesis. -/
theorem Takes.past (takes : Takes m) (shrinks : Shrinks m) {a : α} (hr : r.rest <:+ closing)
    (hm : m r = some (a, r₁)) : Past a r₁ := by
  have short := (takes hm).trans_le hr.length_le
  rcases List.suffix_cons_iff.mp ((shrinks hm).trans hr) with whole | past
  · rw [whole] at short
    exact absurd short (lt_irrefl _)
  · exact past

/-- On what is shorter than `n` the second reader does with the closing behind
it what the first one does. -/
structure Agrees (late : α → Reading → Prop) (n : Nat) (m m' : Reader α) : Prop where
  follows : ∀ r, r.rest.length < n → Follows late ('#' ∈ r.rest) (m r) (m' r.followed)
  ends : 0 < n → ∀ r, r.rest = [] → m' r = m r
  shrinks : Shrinks m ∧ Shrinks m'

variable {late : α → Reading → Prop} {late' : β → Reading → Prop} {n : Nat} {c : Char}

namespace Agrees

/-- There is nothing shorter than nothing. -/
theorem zero (h : Shrinks m) (h' : Shrinks m') : Agrees late 0 m m' :=
  ⟨nofun, nofun, h, h'⟩

theorem pure (a : α) : Agrees late n (pure a) (pure a) :=
  ⟨fun r _ => .inl ⟨a, r, rfl, rfl⟩, fun _ _ _ => rfl, .pure a, .pure a⟩

theorem failure : Agrees late n failure failure :=
  ⟨fun _ _ => .inr (.inr ⟨rfl, nofun⟩), fun _ _ _ => rfl, .failure, .failure⟩

/-- One reader after another.  The second one agrees on what the first one
leaves, and what is too late for the first one is too late for both. -/
theorem bind_of_short {k : α → Nat} (h : Agrees late n m m')
    (short : ∀ r a r₁, r.rest.length < n → m r = some (a, r₁) → r₁.rest.length < k a)
    (hf : ∀ a, Agrees late' (k a) (f a) (f' a))
    (beyond : ∀ a r₁, late a r₁ → ∀ b r₂, f' a r₁ = some (b, r₂) → late' b r₂) :
    Agrees late' n (m >>= f) (m' >>= f') := by
  refine ⟨fun r hr => ?_, fun hn r hr => ?_, h.shrinks.1.bind fun a => (hf a).shrinks.1,
    h.shrinks.2.bind fun a => (hf a).shrinks.2⟩
  · rcases h.follows r hr with ⟨a, r₁, hm, hm'⟩ | ⟨hash, a, r₁, hend, hm, hm'⟩ | ⟨hm, hbeyond⟩
    · rw [bind_of_some hm, bind_of_some hm']
      exact ((hf a).follows r₁ (short r a r₁ hr hm)).imp fun hash => (h.shrinks.1 hm).subset hash
    · rw [bind_of_some hm, bind_of_some hm',
        (hf a).ends (Nat.zero_lt_of_lt (short r a r₁ hr hm)) r₁ hend]
      cases hb : f a r₁ with
      | none => exact .inr (.inr ⟨rfl, nofun⟩)
      | some p =>
          obtain ⟨b, r₂⟩ := p
          have hend₂ : r₂.rest = [] :=
            List.suffix_nil.mp (hend ▸ (hf a).shrinks.1 hb)
          exact .inr (.inl ⟨hash, b, r₂, hend₂, rfl, rfl⟩)
    · rw [bind_of_none hm]
      refine .inr (.inr ⟨rfl, fun b r₂ hb => ?_⟩)
      obtain ⟨a, r₁, hm', hf'⟩ := bind_eq_some.mp hb
      exact beyond a r₁ (hbeyond a r₁ hm') b r₂ hf'
  · show (m' r).bind _ = (m r).bind _
    rw [h.ends hn r hr]
    cases hm : m r with
    | none => rfl
    | some p =>
        have hn₁ := short r p.1 p.2 ((congrArg List.length hr).trans_lt hn) hm
        exact (hf p.1).ends (Nat.zero_lt_of_lt hn₁) p.2
          (List.suffix_nil.mp (hr ▸ h.shrinks.1 hm))

theorem bind_of_late (h : Agrees late n m m') (hf : ∀ a, Agrees late' n (f a) (f' a))
    (beyond : ∀ a r₁, late a r₁ → ∀ b r₂, f' a r₁ = some (b, r₂) → late' b r₂) :
    Agrees late' n (m >>= f) (m' >>= f') :=
  h.bind_of_short (fun _ _ _ hr hm => (h.shrinks.1 hm).length_le.trans_lt hr) hf beyond

theorem bind {s : List Char} (h : Agrees (Within s) n m m')
    (hf : ∀ a, Agrees (Within s) n (f a) (f' a)) :
    Agrees (Within s) n (m >>= f) (m' >>= f') :=
  h.bind_of_late hf fun a _ hr _ _ hb => ((hf a).shrinks.2 hb).trans hr

/-- Where the first reader takes something, less is left for the second one. -/
theorem bind_of_takes (h : Agrees late n m m') (takes : Takes m)
    (hf : ∀ a, Agrees late' (n - 1) (f a) (f' a))
    (beyond : ∀ a r₁, late a r₁ → ∀ b r₂, f' a r₁ = some (b, r₂) → late' b r₂) :
    Agrees late' n (m >>= f) (m' >>= f') :=
  h.bind_of_short (fun _ _ _ hr hm => by have := takes hm; omega) hf beyond

theorem of_le {k : Nat} (h : Agrees late n m m') (hk : k ≤ n) : Agrees late k m m' :=
  ⟨fun r hr => h.follows r (hr.trans_le hk), fun hk' r hr => h.ends (hk'.trans_le hk) r hr,
    h.shrinks⟩

theorem mono {late' : α → Reading → Prop} (h : Agrees late n m m')
    (weaken : ∀ a r, late a r → late' a r) : Agrees late' n m m' := by
  refine ⟨fun r hr => ?_, h.ends, h.shrinks⟩
  rcases h.follows r hr with same | eaten | ⟨hm, beyond⟩
  · exact .inl same
  · exact .inr (.inl eaten)
  · exact .inr (.inr ⟨hm, fun a r₁ hm' => weaken a r₁ (beyond a r₁ hm')⟩)

theorem ite {c : Prop} [Decidable c] {m₁ m₁' : Reader α} (h : c → Agrees late n m m')
    (h₁ : ¬ c → Agrees late n m₁ m₁') :
    Agrees late n (if c then m else m₁) (if c then m' else m₁') := by
  split
  · exact h ‹_›
  · exact h₁ ‹_›

end Agrees

/-- The reader where the character `c` comes next. -/
def only (c : Char) (m : Reader α) : Reader α :=
  fun r => if r.rest.head? = some c then m r else none

theorem only_cons {cs : List Char} {v : Bool} {ns : List String} :
    only c m ⟨c :: cs, v, ns⟩ = m ⟨c :: cs, v, ns⟩ := if_pos rfl

theorem only_eq_some {a : α} :
    only c m r = some (a, r₁) ↔ r.rest.head? = some c ∧ m r = some (a, r₁) := by
  unfold only
  split
  · rename_i h
    exact (and_iff_right h).symm
  · rename_i h
    exact iff_of_false nofun fun h' => h h'.1

theorem only_congr (h : ∀ cs v ns, m ⟨c :: cs, v, ns⟩ = m' ⟨c :: cs, v, ns⟩) :
    only c m = only c m' := by
  funext ⟨cs, v, ns⟩
  cases cs with
  | nil => rfl
  | cons d cs =>
      by_cases hd : d = c
      · subst hd
        exact only_cons.trans ((h cs v ns).trans only_cons.symm)
      · have other : ¬ (d :: cs).head? = some c := fun h => hd (Option.some.inj h)
        exact (if_neg other).trans (if_neg other).symm

theorem only_bind : only c (m >>= f) = only c m >>= f := by
  funext r
  by_cases h : r.rest.head? = some c
  · exact (if_pos h).trans (congrArg (Option.bind · _) (if_pos h).symm)
  · exact (if_neg h).trans (bind_of_none (if_neg h)).symm

theorem Shrinks.only (h : Shrinks m) : Shrinks (only c m) :=
  fun _ _ _ hm => h (only_eq_some.mp hm).2

theorem Takes.only (h : Takes m) : Takes (only c m) := fun _ _ _ hm => h (only_eq_some.mp hm).2

/-- The character `c` is left to come next. -/
def Leaves (c : Char) (m : Reader α) : Prop :=
  ∀ ⦃r a r₁⦄, m r = some (a, r₁) → r₁.rest.head? = some c

theorem Leaves.of_bind (hf : ∀ a, Leaves c (f a)) : Leaves c (m >>= f) := by
  intro r b r₂ h
  obtain ⟨a, r₁, -, h⟩ := bind_eq_some.mp h
  exact hf a h

theorem Leaves.ite {p : Prop} [Decidable p] (h : Leaves c m) (h' : Leaves c m') :
    Leaves c (if p then m else m') := by
  split
  · exact h
  · exact h'

theorem Leaves.bind_eq (h : Leaves c m) : m >>= f = m >>= fun a => only c (f a) := by
  funext r
  cases hm : m r with
  | none => exact (bind_of_none hm).trans (bind_of_none hm).symm
  | some p =>
      rw [bind_of_some hm, bind_of_some hm]
      exact (if_pos (h hm)).symm

/-- The readers agree where the character `c` comes next. -/
def AgreesAt (c : Char) (late : α → Reading → Prop) (n : Nat) (m m' : Reader α) : Prop :=
  Agrees late n (only c m) (only c m')

namespace AgreesAt

theorem mk (follows : ∀ cs v ns, cs.length + 1 < n →
      Follows late ('#' ∈ c :: cs) (m ⟨c :: cs, v, ns⟩) (m' ⟨c :: (cs ++ closing), v, ns⟩))
    (beyond : 0 < n → c = ')' → ∀ v ns a r₁, m' ⟨closing, v, ns⟩ = some (a, r₁) → late a r₁)
    (shrinks : Shrinks m) (shrinks' : Shrinks m') : AgreesAt c late n m m' := by
  refine ⟨?_, ?_, ?_, ?_⟩
  · rintro ⟨_ | ⟨d, cs⟩, v, ns⟩ hr
    · refine .inr (.inr ⟨rfl, fun a r₁ h => ?_⟩)
      obtain ⟨hc, h⟩ := only_eq_some.mp h
      exact beyond hr (Option.some.inj hc).symm v ns a r₁ h
    · by_cases hd : d = c
      · subst hd
        exact (only_cons (m := m)).symm ▸ (only_cons (m := m')).symm ▸ follows cs v ns hr
      · have other : ∀ {cs : List Char} {m : Reader α}, only c m ⟨d :: cs, v, ns⟩ = none :=
          if_neg fun h => hd (Option.some.inj h)
        exact .inr (.inr ⟨other, fun a r₁ h => nomatch other.symm.trans h⟩)
  · rintro - ⟨cs, v, ns⟩ rfl
    rfl
  · exact shrinks.only
  · exact shrinks'.only

theorem follows_cons (h : AgreesAt c late n m m') {cs : List Char} {v : Bool} {ns : List String}
    (hn : cs.length + 1 < n) :
    Follows late ('#' ∈ c :: cs) (m ⟨c :: cs, v, ns⟩)
      (m' ⟨c :: (cs ++ closing), v, ns⟩) := by
  have follows : Follows late ('#' ∈ c :: cs) (only c m ⟨c :: cs, v, ns⟩)
      (only c m' ⟨c :: (cs ++ closing), v, ns⟩) := h.follows ⟨c :: cs, v, ns⟩ hn
  rwa [only_cons, only_cons] at follows

theorem failure : AgreesAt c late n failure failure :=
  mk (fun _ _ _ _ => .inr (.inr ⟨rfl, nofun⟩)) nofun .failure .failure

/-- A reader that fails at the end agrees wherever it stands. -/
theorem of (h : Agrees late n m m') (stops : ∀ v ns, m ⟨[], v, ns⟩ = none) :
    AgreesAt c late n m m' := by
  refine mk (fun cs v ns hn => h.follows ⟨c :: cs, v, ns⟩ hn) ?_ h.shrinks.1 h.shrinks.2
  rintro hn - v ns a r₁ hm'
  have late := h.follows ⟨[], v, ns⟩ hn
  rw [stops] at late
  exact late.late_of_none hm'

theorem of_ne (h : Agrees late n m m') (hc : c ≠ ')') : AgreesAt c late n m m' :=
  mk (fun cs v ns hn => h.follows ⟨c :: cs, v, ns⟩ hn) (fun _ h => absurd h hc) h.shrinks.1
    h.shrinks.2

/-- What is left has come to the closing in any case. -/
theorem of_reached (h : Agrees Reached n m m') : AgreesAt c Reached n m m' :=
  mk (fun cs v ns hn => h.follows ⟨c :: cs, v, ns⟩ hn) (fun _ _ _ _ _ _ hm' => h.shrinks.2 hm')
    h.shrinks.1 h.shrinks.2

theorem mono {late' : α → Reading → Prop} (h : AgreesAt c late n m m')
    (weaken : ∀ a r, late a r → late' a r) : AgreesAt c late' n m m' :=
  Agrees.mono h weaken

theorem ite {p : Prop} [Decidable p] {m₁ m₁' : Reader α} (h : p → AgreesAt c late n m m')
    (h₁ : ¬ p → AgreesAt c late n m₁ m₁') :
    AgreesAt c late n (if p then m else m₁) (if p then m' else m₁') := by
  split
  · exact h ‹_›
  · exact h₁ ‹_›

theorem bind_of_late (h : AgreesAt c late n m m') (hf : ∀ a, Agrees late' n (f a) (f' a))
    (beyond : ∀ a r₁, late a r₁ → ∀ b r₂, f' a r₁ = some (b, r₂) → late' b r₂) :
    AgreesAt c late' n (m >>= f) (m' >>= f') := by
  unfold AgreesAt
  rw [only_bind, only_bind]
  exact Agrees.bind_of_late h hf beyond

/-- The first reader leaves the character that the second one starts with. -/
theorem bind_of_leaves {d : Char} (h : AgreesAt c Past n m m') (leaves : Leaves d m)
    (leaves' : Leaves d m') (hf : ∀ a, AgreesAt d Past n (f a) (f' a)) :
    AgreesAt c Past n (m >>= f) (m' >>= f') := by
  rw [leaves.bind_eq, leaves'.bind_eq]
  exact h.bind_of_late hf fun a _ hr _ _ hb => ((hf a).shrinks.2 hb).trans hr

/-- Of the closing, the parenthesis is gone first. -/
theorem bump_of_late {f f' : Unit → Reader β} (past : ∀ b r, Past b r → late' b r)
    (h : Agrees late' (n - 1) (f ()) (f' ())) :
    AgreesAt c late' n (Reader.bump >>= f) (Reader.bump >>= f') := by
  refine mk (fun cs v ns hn =>
      (h.follows ⟨cs, v, ns⟩ (Nat.lt_sub_of_add_lt hn)).imp (List.mem_cons_of_mem c)) ?_
    (shrinks_bump.bind fun _ => h.shrinks.1) (shrinks_bump.bind fun _ => h.shrinks.2)
  exact fun _ _ v ns b r₁ hb => past b r₁ (h.shrinks.2 hb)

theorem bump {f f' : Unit → Reader β} (h : Agrees Past (n - 1) (f ()) (f' ())) :
    AgreesAt c Past n (Reader.bump >>= f) (Reader.bump >>= f') :=
  bump_of_late (fun _ _ h => h) h

theorem here {f f' : Char → Reader β} (h : AgreesAt c late' n (f c) (f' c)) :
    AgreesAt c late' n (Reader.here >>= f) (Reader.here >>= f') := by
  have known : ∀ f : Char → Reader β, only c (Reader.here >>= f) = only c (f c) :=
    fun _ => only_congr fun _ _ _ => rfl
  unfold AgreesAt
  rw [known, known]
  exact h

end AgreesAt

/-! ## Single readers -/

mutual

/-- Behind blanks and comments the closing is left, unless a comment is open. -/
theorem dropBlanks_closing : ∀ cs,
    dropBlanks (cs ++ closing) = dropBlanks cs ++ closing ∨
      '#' ∈ cs ∧ dropBlanks cs = [] ∧ dropBlanks (cs ++ closing) = []
  | [] => .inl rfl
  | c :: cs => by
      rw [List.cons_append, dropBlanks, dropBlanks]
      split
      · exact (dropBlanks_closing cs).imp_right (And.imp_left (List.mem_cons_of_mem c))
      · split
        · rename_i hash
          exact (dropComment_closing cs).imp_right (And.intro (hash ▸ List.mem_cons_self))
        · exact .inl rfl

theorem dropComment_closing : ∀ cs,
    dropBlanks.dropComment (cs ++ closing) = dropBlanks.dropComment cs ++ closing ∨
      dropBlanks.dropComment cs = [] ∧ dropBlanks.dropComment (cs ++ closing) = []
  | [] => .inr ⟨rfl, rfl⟩
  | c :: cs => by
      rw [List.cons_append, dropBlanks.dropComment, dropBlanks.dropComment]
      split
      · exact (dropBlanks_closing cs).imp_right And.right
      · exact dropComment_closing cs

end

/-- Passing over blanks never fails. -/
theorem agrees_space : Agrees (fun _ _ => False) n space space := by
  refine ⟨fun r _ => ?_, fun _ _ _ => rfl, shrinks_space, shrinks_space⟩
  obtain ⟨cs, v, ns⟩ := r
  cases v with
  | false => exact .inl ⟨(), _, rfl, rfl⟩
  | true =>
      rcases dropBlanks_closing cs with h | ⟨hash, h, h'⟩
      · refine .inl ⟨(), _, rfl, ?_⟩
        exact congrArg (fun cs => some ((), (⟨cs, true, ns⟩ : Reading))) h
      · refine .inr (.inl ⟨hash, (), ⟨[], true, ns⟩, rfl, ?_, ?_⟩)
        · exact congrArg (fun cs => some ((), (⟨cs, true, ns⟩ : Reading))) h
        · exact congrArg (fun cs => some ((), (⟨cs, true, ns⟩ : Reading))) h'

theorem Agrees.space {f f' : Unit → Reader β} (h : Agrees late' n (f ()) (f' ())) :
    Agrees late' n (Reader.space >>= f) (Reader.space >>= f') :=
  agrees_space.bind_of_late (fun _ => h) nofun

theorem AgreesAt.bumpSpace_of_late {f f' : Unit → Reader β}
    (past : ∀ b r, Past b r → late' b r) (h : Agrees late' (n - 1) (f ()) (f' ())) :
    AgreesAt c late' n (Reader.bumpSpace >>= f) (Reader.bumpSpace >>= f') := by
  have apart : ∀ f : Unit → Reader β,
      (Reader.bumpSpace >>= f) = (Reader.bump >>= fun _ => Reader.space >>= f) := fun _ => rfl
  rw [apart, apart]
  exact .bump_of_late past h.space

theorem AgreesAt.bumpSpace {f f' : Unit → Reader β} (h : Agrees Past (n - 1) (f ()) (f' ())) :
    AgreesAt c Past n (Reader.bumpSpace >>= f) (Reader.bumpSpace >>= f') :=
  .bumpSpace_of_late (fun _ _ h => h) h

theorem Agrees.here {f f' : Char → Reader β} (hf : ∀ c, AgreesAt c late' n (f c) (f' c)) :
    Agrees late' n (Reader.here >>= f) (Reader.here >>= f') := by
  refine ⟨?_, ?_, ?_, ?_⟩
  · rintro ⟨_ | ⟨c, cs⟩, v, ns⟩ hr
    · have late : Follows late' _ none _ := (hf ')').follows ⟨[], v, ns⟩ hr
      exact .inr (.inr ⟨rfl, fun b r₁ h => late.late_of_none h⟩)
    · exact (hf c).follows_cons hr
  · rintro - ⟨cs, v, ns⟩ rfl
    rfl
  · rintro ⟨_ | ⟨c, cs⟩, v, ns⟩ b r₁ h
    · cases h
    · exact (hf c).shrinks.1 (only_cons.trans h)
  · rintro ⟨_ | ⟨c, cs⟩, v, ns⟩ b r₁ h
    · cases h
    · exact (hf c).shrinks.2 (only_cons.trans h)

/-- Where reading stops at a closing parenthesis as it does at the end. -/
theorem Agrees.peek {f f' : Option Char → Reader β} {b : β} (ends : f none = Pure.pure b)
    (ends' : f' none = Pure.pure b) (closes : f (some ')') = Pure.pure b)
    (closes' : f' (some ')') = Pure.pure b)
    (hf : ∀ c, c ≠ ')' → AgreesAt c late' n (f (some c)) (f' (some c))) :
    Agrees late' n (Reader.peek >>= f) (Reader.peek >>= f') := by
  have shrinks : ∀ {f : Option Char → Reader β}, f none = Pure.pure b →
      f (some ')') = Pure.pure b → (∀ c, c ≠ ')' → Shrinks (only c (f (some c)))) →
      Shrinks (Reader.peek >>= f) := by
    rintro f ends closes hf ⟨_ | ⟨c, cs⟩, v, ns⟩ b₁ r₁ h
    · exact Shrinks.pure b ((congrFun ends _).symm.trans h)
    · by_cases hc : c = ')'
      · subst hc
        exact Shrinks.pure b ((congrFun closes _).symm.trans h)
      · exact hf c hc (only_cons.trans h)
  refine ⟨?_, ?_, shrinks ends closes fun c hc => (hf c hc).shrinks.1,
    shrinks ends' closes' fun c hc => (hf c hc).shrinks.2⟩
  · rintro ⟨_ | ⟨c, cs⟩, v, ns⟩ hr
    · exact .inl ⟨b, _, congrFun ends _, congrFun closes' _⟩
    · by_cases hc : c = ')'
      · subst hc
        exact .inl ⟨b, _, congrFun closes _, congrFun closes' _⟩
      · exact (hf c hc).follows_cons hr
  · rintro - ⟨cs, v, ns⟩ rfl
    exact (congrFun ends' _).trans (congrFun ends _).symm

theorem Agrees.get {f : Reading → Reader β}
    (hf : ∀ r, Agrees late' (r.rest.length + 1) (f r) (f r.followed)) :
    Agrees late' n (MonadState.get >>= f) (MonadState.get >>= f) :=
  ⟨fun r _ => (hf r).follows r (Nat.lt_succ_self _), fun _ _ _ => rfl,
    fun r _ _ h => (hf r).shrinks.1 h, fun r _ _ h => (hf r).shrinks.1 h⟩

theorem Agrees.demand {p : Bool} {f f' : Unit → Reader β}
    (h : p = true → Agrees late' n (f ()) (f' ())) :
    Agrees late' n (Reader.demand p >>= f) (Reader.demand p >>= f') := by
  cases p with
  | false => exact .failure
  | true => exact h rfl

theorem AgreesAt.demand {p : Bool} {f f' : Unit → Reader β}
    (h : p = true → AgreesAt c late' n (f ()) (f' ())) :
    AgreesAt c late' n (Reader.demand p >>= f) (Reader.demand p >>= f') := by
  cases p with
  | false => exact .failure
  | true => exact h rfl

theorem agrees_modify {g : Reading → Reading} (shrinks : ∀ r, (g r).rest <:+ r.rest)
    (followed : ∀ r, g r.followed = (g r).followed) :
    Agrees (fun _ _ => False) n (modify g : Reader Unit) (modify g) :=
  ⟨fun r _ => .inl ⟨(), g r, rfl, congrArg (fun r => some ((), r)) (followed r)⟩,
    fun _ _ _ => rfl, shrinks_modify shrinks, shrinks_modify shrinks⟩

theorem AgreesAt.modify {g : Reading → Reading} {f f' : Unit → Reader β}
    (keeps : ∀ r, (g r).rest = r.rest) (followed : ∀ r, g r.followed = (g r).followed)
    (h : AgreesAt c late' n (f ()) (f' ())) :
    AgreesAt c late' n (MonadState.modifyGet (fun r => ((), g r)) >>= f)
      (MonadState.modifyGet (fun r => ((), g r)) >>= f') := by
  have apart : ∀ f : Unit → Reader β, only c (MonadState.modifyGet (fun r => ((), g r)) >>= f) =
      (MonadState.modifyGet (fun r => ((), g r)) >>= fun _ => only c (f ())) := by
    intro f
    funext r
    show (if r.rest.head? = some c then f () (g r) else none) = _
    rw [← keeps r]
    rfl
  unfold AgreesAt
  rw [apart, apart]
  exact (agrees_modify (fun r => (keeps r).symm ▸ List.suffix_refl _) followed).bind_of_late
    (fun _ => h) nofun

theorem next_bind {f : Char → Reader β} :
    (next >>= f) = (Reader.here >>= fun c => bump >>= fun _ => f c) := by
  funext ⟨cs, v, ns⟩
  cases cs <;> rfl

/-- Looking ahead decides in the same way, if the closing decides like the end. -/
theorem Agrees.peekSpace {f : Option Char → Reader β} (hf : ∀ a, Agrees late' n (f a) (f a))
    (alike : ∀ c ∈ closing, f (some c) = f none) :
    Agrees late' n (Reader.peekSpace >>= f) (Reader.peekSpace >>= f) := by
  have seen : ∀ r : Reading, ∃ a a', Reader.peekSpace r = some (a, r) ∧
      Reader.peekSpace r.followed = some (a', r.followed) ∧ f a' = f a := by
    have head : ∀ cs : List Char, f (cs ++ closing).head? = f cs.head? := by
      rintro (_ | ⟨c, cs⟩)
      · exact alike ')' (by decide)
      · rfl
    rintro ⟨_ | ⟨c, cs⟩, v, ns⟩
    · refine ⟨none, some '$', ?_, ?_, alike '$' (by decide)⟩ <;> cases v <;> rfl
    · cases v with
      | false => exact ⟨_, _, rfl, rfl, head cs⟩
      | true =>
          refine ⟨_, _, rfl, rfl, ?_⟩
          show f (dropBlanks (cs ++ closing)).head? = f (dropBlanks cs).head?
          rcases dropBlanks_closing cs with h | ⟨-, h, h'⟩
          · rw [h]
            exact head _
          · rw [h, h']
  refine ⟨fun r hr => ?_, fun _ _ _ => rfl, ?_, ?_⟩
  · obtain ⟨a, a', h, h', same⟩ := seen r
    rw [bind_of_some h, bind_of_some h', same]
    exact (hf a).follows r hr
  · exact shrinks_peekSpace.bind fun a => (hf a).shrinks.1
  · exact shrinks_peekSpace.bind fun a => (hf a).shrinks.2

theorem AgreesAt.peekSpace {f : Option Char → Reader β}
    (hf : ∀ a, AgreesAt c late' n (f a) (f a)) (alike : ∀ d ∈ closing, f (some d) = f none) :
    AgreesAt c late' n (Reader.peekSpace >>= f) (Reader.peekSpace >>= f) := by
  have apart : only c (Reader.peekSpace >>= f) = Reader.peekSpace >>= fun a => only c (f a) := rfl
  unfold AgreesAt
  rw [apart]
  exact .peekSpace hf fun d hd => congrArg (only c) (alike d hd)

/-- Of where reading stands, only whether blanks are passed over counts. -/
theorem AgreesAt.get {f f' : Reading → Reader β}
    (hf : ∀ r r', r'.verbose = r.verbose → AgreesAt c late' n (f r) (f' r')) :
    AgreesAt c late' n (MonadState.get >>= f) (MonadState.get >>= f') := by
  refine ⟨fun r hr => (hf r r.followed rfl).follows r hr, fun _ r hr => ?_,
    fun r _ _ h => (hf r r rfl).shrinks.1 h, fun r _ _ h => (hf r r rfl).shrinks.2 h⟩
  obtain ⟨_, v, ns⟩ := r
  cases hr
  rfl

theorem agrees_charOf (k : Nat) : Agrees Past n (charOf k) (charOf k) :=
  .ite (fun _ => .pure _) fun _ => .failure

/-! ## Readers that take a character first -/

/-- Behind its first character the reader agrees with itself. -/
def Begins (late : α → Reading → Prop) (m : Reader α) : Prop :=
  ∃ tail : Reader α, m = (bump >>= fun _ => tail) ∧ ∀ n, Agrees late n tail tail

namespace Begins

theorem bump {f : Unit → Reader β} (h : ∀ n, Agrees late' n (f ()) (f ())) :
    Begins late' (Reader.bump >>= f) := ⟨f (), rfl, h⟩

theorem bumpSpace {f : Unit → Reader β} (h : ∀ n, Agrees late' n (f ()) (f ())) :
    Begins late' (Reader.bumpSpace >>= f) := ⟨Reader.space >>= f, rfl, fun n => (h n).space⟩

theorem bind_of_late (h : Begins late m) (hf : ∀ n a, Agrees late' n (f a) (f a))
    (beyond : ∀ a r₁, late a r₁ → ∀ b r₂, f a r₁ = some (b, r₂) → late' b r₂) :
    Begins late' (m >>= f) := by
  obtain ⟨tail, rfl, h⟩ := h
  exact ⟨tail >>= f, rfl, fun n => (h n).bind_of_late (hf n) beyond⟩

theorem seq_of_late (h : Begins late m) (hf : ∀ a, Agrees Past n (f a) (f' a))
    (beyond : ∀ a r₁, late a r₁ → ∀ b r₂, f' a r₁ = some (b, r₂) → Past b r₂) :
    AgreesAt c Past (n + 1) (m >>= f) (m >>= f') := by
  obtain ⟨tail, rfl, h⟩ := h
  show AgreesAt c Past (n + 1) (Reader.bump >>= fun _ => tail >>= f)
    (Reader.bump >>= fun _ => tail >>= f')
  exact .bump ((h n).bind_of_late hf beyond)

theorem seq (h : Begins Past m) (hf : ∀ a, Agrees Past n (f a) (f' a)) :
    AgreesAt c Past (n + 1) (m >>= f) (m >>= f') :=
  h.seq_of_late hf fun a _ hr _ _ hb => ((hf a).shrinks.2 hb).trans hr

theorem shrinks (h : Begins late m) : Shrinks m := by
  obtain ⟨tail, rfl, h⟩ := h
  exact shrinks_bump.bind fun _ => (h 0).shrinks.1

theorem agreesAt (h : Begins late m) (past : ∀ a r, Past a r → late a r) :
    AgreesAt c late n m m := by
  obtain ⟨tail, rfl, h⟩ := h
  exact .bump_of_late past (h _)

theorem takes (h : Begins late m) : Takes (only c m) := by
  obtain ⟨tail, rfl, h⟩ := h
  rintro ⟨_ | ⟨d, cs⟩, v, ns⟩ b r₂ hb
  · cases (only_eq_some.mp hb).1
  · exact Nat.lt_succ_of_le ((h 0).shrinks.1 (only_eq_some.mp hb).2).length_le

end Begins

theorem Takes.here {f : Char → Reader β} (hf : ∀ c, Takes (Reader.only c (f c))) :
    Takes (Reader.here >>= f) := by
  rintro ⟨_ | ⟨c, cs⟩, v, ns⟩ b r₂ h
  · cases h
  · exact hf c (only_cons.trans h)

/-- Fuel for two readers of what is shorter than `n`. -/
inductive Enough : Nat → Nat → Nat → Prop
  | zero {fuel fuel' : Nat} : Enough 0 fuel fuel'
  | succ {n fuel fuel' : Nat} : Enough n fuel fuel' → Enough (n + 1) (fuel + 1) (fuel' + 1)

namespace Enough

theorem of_le {n fuel fuel' : Nat} (h : n ≤ fuel) (h' : n ≤ fuel') : Enough n fuel fuel' := by
  induction n generalizing fuel fuel' with
  | zero => exact .zero
  | succ n ih =>
      obtain ⟨k, rfl⟩ := Nat.exists_eq_add_of_lt h
      obtain ⟨k', rfl⟩ := Nat.exists_eq_add_of_lt h'
      exact (ih (Nat.le_add_right n k) (Nat.le_add_right n k')).succ

theorem le {n fuel fuel' : Nat} (h : Enough n fuel fuel') : n ≤ fuel ∧ n ≤ fuel' := by
  induction h with
  | zero => exact ⟨Nat.zero_le _, Nat.zero_le _⟩
  | succ _ ih => exact ⟨Nat.succ_le_succ ih.1, Nat.succ_le_succ ih.2⟩

theorem pred {n fuel fuel' : Nat} (h : Enough n fuel fuel') : Enough (n - 1) fuel fuel' :=
  of_le ((Nat.pred_le n).trans h.le.1) ((Nat.pred_le n).trans h.le.2)

theorem length : Enough (r.rest.length + 1) (r.rest.length + 1) (r.followed.rest.length + 1) :=
  of_le le_rfl (Nat.succ_le_succ (by simp [Reading.followed]))

end Enough

end Reader

end TypeSchema.Regex
