/-
# Branches — counts, groups and branches that a closing follows

The branches of a source are read with the closing behind it as they are read
without (`agrees_branches`), but for an open comment at the end, and for failing
at the end, where the parenthesis of the closing is taken.
-/
import TypeSchema.Proofs.Regex.Brackets

namespace TypeSchema.Regex

namespace Reader

variable {r : Reading} {n : Nat}

/-! ## Counts -/

theorem shrinks_digits (fuel : Nat) : Shrinks (decimal.digits fuel) := by
  induction fuel with
  | zero => exact .pure _
  | succ fuel ih =>
      refine shrinks_peek.bind fun c => ?_
      split
      · exact .ite (shrinks_bumpSpace.bind fun _ => ih.bind fun _ => .pure _) (.pure _)
      · exact .pure _

theorem agrees_digits {fuel fuel' n : Nat} (enough : Enough n fuel fuel') :
    Agrees Past n (decimal.digits fuel) (decimal.digits fuel') := by
  induction enough with
  | zero => exact .zero (shrinks_digits _) (shrinks_digits _)
  | succ _ ih =>
      exact .peek rfl rfl rfl rfl fun c hc => .ite
        (fun _ => .bumpSpace (ih.bind fun _ => .pure _)) fun _ => .of_ne (.pure _) hc

theorem agrees_trimLeft : Agrees (fun _ _ => False) n
    (modify fun r => { r with rest := Text.trimLeft r.rest } : Reader Unit)
    (modify fun r => { r with rest := Text.trimLeft r.rest }) := by
  refine agrees_modify (fun r => List.dropWhile_suffix _) fun r => ?_
  have trim : Text.trimLeft (r.rest ++ closing) = Text.trimLeft r.rest ++ closing := by
    unfold Text.trimLeft
    rw [List.dropWhile_append]
    split
    · rename_i h
      rw [List.isEmpty_iff.mp h]
      rfl
    · rfl
  exact congrArg (fun cs => (⟨cs, r.verbose, r.names⟩ : Reading)) trim

theorem agrees_decimal {fuel fuel' n : Nat} (enough : Enough n fuel fuel') :
    Agrees Past n (decimal fuel) (decimal fuel') := by
  refine agrees_trimLeft.bind_of_late (fun _ => (agrees_digits enough).bind fun ds => ?_) nofun
  refine agrees_trimLeft.bind_of_late (fun _ => .space ?_) nofun
  split
  · exact .pure _
  · exact .pure _
  · exact .failure

theorem agrees_demandSome (k : Option Nat) :
    Agrees Past n (braces.demandSome k) (braces.demandSome k) := by
  cases k with
  | none => exact .failure
  | some k => exact .pure k

theorem begins_braces : Begins Past braces := by
  have ends : ∀ (n : Nat) (count : Count),
      let m : Reader Count := do
        demand ((← here) = '\x7d')
        demand (count.max.all (count.min ≤ ·))
        return count
      Agrees Past n m m := fun n count =>
    .here fun c => .demand fun hc => .of_ne (.demand fun _ => .pure _)
      (by rw [of_decide_eq_true hc]; decide)
  refine .bumpSpace fun n => .get fun r => (agrees_decimal .length).bind fun low =>
    .here fun c => .ite (fun _ => ?_) fun _ => ?_
  · refine .bumpSpace ((agrees_demandSome low).bind fun min => .here fun c' => .ite (fun hc => ?_)
      fun _ => ?_)
    · exact .of_ne ((Agrees.pure _).bind (ends _)) (by rw [hc]; decide)
    · refine .of ((agrees_decimal Enough.length.pred).bind fun high => ?_) ?_
      · exact (agrees_demandSome high).bind fun max => (Agrees.pure _).bind (ends _)
      · rintro (_ | _) ns <;> rfl
  · refine .of ((agrees_demandSome low).bind fun k => (Agrees.pure _).bind (ends _)) ?_
    intro v ns
    cases low <;> rfl

theorem leaves_braces : Leaves '\x7d' braces := by
  have ends : ∀ count : Count, Leaves '\x7d' (do
      demand ((← here) = '\x7d')
      demand (count.max.all (count.min ≤ ·))
      return count) := by
    rintro count ⟨_ | ⟨c, cs⟩, v, ns⟩ k r₁ h
    · cases h
    · rw [here_bind] at h
      obtain ⟨hc, h⟩ := demand_bind_eq_some.mp h
      obtain ⟨-, h⟩ := demand_bind_eq_some.mp h
      cases h
      exact congrArg some (of_decide_eq_true hc)
  refine .of_bind fun _ => .of_bind fun r => .of_bind fun low => .of_bind fun c => .ite ?_ ?_
  · exact .of_bind fun _ => .of_bind fun min => .of_bind fun c => .ite (.of_bind ends)
      (.of_bind fun high => .of_bind fun max => .of_bind ends)
  · exact .of_bind fun k => .of_bind ends

theorem agrees_applyCount (count : Count) (parts : List Expression) :
    Agrees Past n (applyCount count parts) (applyCount count parts) := by
  cases parts with
  | nil => exact .failure
  | cons e before =>
      refine .demand fun _ => .peek rfl rfl rfl rfl fun c hc => .ite (fun _ => .bump (.pure _))
        fun _ => .of_ne (.pure _) hc

/-! ## Groups -/

theorem shrinks_flagItems (fuel : Nat) (off : Bool) (done : List (Flag × Bool)) :
    Shrinks (flagItems fuel off done) := by
  induction fuel generalizing off done with
  | zero => exact .failure
  | succ fuel ih =>
      refine shrinks_here.bind fun c => .ite (.pure _) (.ite ?_ ?_)
      · exact (shrinks_demand _).bind fun _ => shrinks_bump.bind fun _ => shrinks_here.bind fun _ =>
          (shrinks_demand _).bind fun _ => ih _ _
      · split
        · exact .failure
        · exact (shrinks_demand _).bind fun _ => shrinks_bump.bind fun _ => ih _ _

theorem agrees_flagItems {fuel fuel' n : Nat} (enough : Enough n fuel fuel') (off : Bool)
    (done : List (Flag × Bool)) :
    Agrees Reached n (flagItems fuel off done) (flagItems fuel' off done) := by
  induction enough generalizing off done with
  | zero => exact .zero (shrinks_flagItems _ _ _) (shrinks_flagItems _ _ _)
  | succ _ ih =>
      refine .here fun c => .ite (fun _ => .of_reached (.pure _)) fun _ => .ite (fun _ => ?_)
        fun _ => ?_
      · exact .demand fun _ => .bump_of_late (fun _ _ => Past.reached) (.here fun after =>
          .demand fun _ => .of_reached (ih _ _))
      · split
        · exact .failure
        · exact .demand fun _ => .bump_of_late (fun _ _ => Past.reached) (ih _ _)

/-- The characters may be the name of a group where others have the names. -/
def isGroupName (names : List String) : List Char → Bool
  | [] => false
  | c :: cs => isNameChar true c && cs.all (isNameChar false) &&
      !names.contains (String.ofList (c :: cs))

theorem groupName_of_span {name rest : List Char}
    (h : r.rest.span (· ≠ '>') = (name, '>' :: rest)) : groupName r =
      if isGroupName r.names name then
        some (String.ofList name, ⟨rest, r.verbose, String.ofList name :: r.names⟩)
      else none := by
  unfold groupName
  rw [get_bind]
  dsimp only
  rw [h]
  cases name with
  | nil => rfl
  | cons c cs =>
      show (demand (isNameChar true c && cs.all (isNameChar false)) >>= _) _ = _
      rw [demand_bind, isGroupName]
      cases isNameChar true c && cs.all (isNameChar false) with
      | false => rfl
      | true =>
          rw [if_pos rfl]
          show (demand (!r.names.contains (String.ofList (c :: cs))) >>= _) _ = _
          rw [demand_bind]
          cases r.names.contains (String.ofList (c :: cs)) <;> rfl

theorem groupName_of_open (h : r.rest.span (· ≠ '>') = (r.rest, [])) : groupName r = none := by
  unfold groupName
  rw [get_bind]
  dsimp only
  rw [h]
  cases r.rest <;> rfl

theorem shrinks_groupName : Shrinks groupName := by
  intro r name r₁ h
  rcases span_append (d := '>') (by decide) r.rest with ⟨name, rest, cut, -⟩ | ⟨cut, -⟩
  · rw [groupName_of_span cut] at h
    split at h
    · cases h
      exact (List.suffix_cons '>' rest).trans (span_suffix cut)
    · cases h
  · cases (groupName_of_open cut).symm.trans h

theorem agrees_groupName : Agrees (fun _ _ => False) n groupName groupName := by
  refine ⟨fun r _ => ?_, fun _ _ _ => rfl, shrinks_groupName, shrinks_groupName⟩
  rcases span_append (d := '>') (by decide) r.rest with ⟨name, rest, h, h'⟩ | ⟨h, h'⟩
  · rw [groupName_of_span h, groupName_of_span (r := r.followed) h']
    show Follows _ _ _ (if isGroupName r.names name then _ else none)
    split
    · exact .inl ⟨_, _, rfl, rfl⟩
    · exact .inr (.inr ⟨rfl, nofun⟩)
  · rw [groupName_of_open h, groupName_of_open (r := r.followed) h']
    exact .inr (.inr ⟨rfl, nofun⟩)

theorem isPrefixOf_append : ∀ {cs rest : List Char}, ')' ∉ cs →
    cs.isPrefixOf (rest ++ closing) = cs.isPrefixOf rest
  | [], _, _ => by simp
  | c :: cs, [], h => by
      have other : c ≠ ')' := fun same => h (same ▸ List.mem_cons_self)
      simp [closing, List.isPrefixOf, other]
  | c :: cs, d :: rest, h => by
      have ih : cs.isPrefixOf (rest ++ closing) = cs.isPrefixOf rest :=
        isPrefixOf_append fun h' => h (List.mem_cons_of_mem c h')
      simp only [List.cons_append, List.isPrefixOf, ih]

theorem agrees_takeIf {cs : List Char} (h : ')' ∉ cs) :
    Agrees (fun _ _ => False) n (takeIf cs) (takeIf cs) := by
  have value : ∀ r : Reading, takeIf cs r = if cs.isPrefixOf r.rest then
      some (true, ⟨r.rest.drop cs.length, r.verbose, r.names⟩) else some (false, r) := by
    intro r
    unfold takeIf
    rw [get_bind]
    split <;> rfl
  have shrinks : Shrinks (takeIf cs) := by
    intro r b r₁ hb
    rw [value] at hb
    split at hb
    · cases hb
      exact List.drop_suffix _ _
    · cases hb
      exact List.suffix_refl _
  refine ⟨fun r _ => ?_, fun _ _ _ => rfl, shrinks, shrinks⟩
  rw [value, value, show cs.isPrefixOf r.followed.rest = _ from isPrefixOf_append h]
  split
  · rename_i taken
    have before := List.isPrefixOf_iff_prefix.mp taken
    refine .inl ⟨true, _, rfl, ?_⟩
    have rest : r.followed.rest.drop cs.length = r.rest.drop cs.length ++ closing :=
      List.drop_append_of_le_length before.length_le
    rw [rest]
    rfl
  · exact .inl ⟨false, r, rfl, rfl⟩

theorem begins_opening : Begins Past opening := by
  refine .bump fun n => .space (.get fun r => ?_)
  have ahead : ∀ cs : List Char, ')' ∉ cs → cs.isPrefixOf r.followed.rest = cs.isPrefixOf r.rest :=
    fun _ => isPrefixOf_append
  rw [ahead "?=".toList (by decide), ahead "?!".toList (by decide), ahead "?<=".toList (by decide),
    ahead "?<!".toList (by decide)]
  have named : Agrees (fun _ _ => False) (r.rest.length + 1)
      (takeIf "?P<".toList <||> takeIf "?<".toList)
      (takeIf "?P<".toList <||> takeIf "?<".toList) :=
    (agrees_takeIf (by decide)).bind_of_late (fun
      | true => .pure true
      | false => agrees_takeIf (by decide)) nofun
  refine .demand fun _ => named.bind_of_late (fun isNamed => .ite (fun _ => ?_) fun _ => ?_) nofun
  · exact agrees_groupName.bind_of_late (fun _ => .pure _) nofun
  · refine (agrees_takeIf (by decide)).bind_of_late (fun flagged => .ite (fun _ => ?_)
      fun _ => .pure _) nofun
    have ends : ∀ changes : List (Flag × Bool),
        let m : Reader Opening := do
          if (← next) = ')' then
            demand (!changes.isEmpty)
            return .flags changes
          else return .group (.flags changes)
        Agrees Past (r.rest.length + 1) m m := by
      intro changes
      dsimp only
      rw [next_bind]
      exact .here fun c => .bump (.ite (fun _ => .demand fun _ => .pure _) fun _ => .pure _)
    refine (agrees_flagItems .length false []).bind_of_late ends fun changes r₁ hr o r₂ h => ?_
    exact (takes_next.bind fun c => .ite ((shrinks_demand _).bind fun _ => .pure _)
      (.pure _)).past (ends changes).shrinks.1 hr h

theorem agrees_primitive : Agrees (fun e r => Past e r ∨ Stuck r) n primitive primitive := by
  refine .here fun c => ?_
  split
  · refine (begins_escape.agreesAt fun _ _ => .inl).bind_of_late (fun p => ?_) ?_
    · split <;> exact .pure _
    · rintro p r₁ hp e r₂ h
      have stays : r₂ = r₁ := by split at h <;> cases h <;> rfl
      subst stays
      exact hp.imp_right And.right
  all_goals exact .bump_of_late (fun _ _ => .inl) (.pure _)

theorem takes_primitive : Takes primitive := by
  have letter : ∀ {c : Char} {e : Expression}, Takes (only c (do bump; pure e)) := fun {_ e} =>
    Begins.takes (⟨pure e, rfl, fun _ => .pure e⟩ : Begins Past _)
  refine .here fun c => ?_
  split
  · rw [only_bind]
    exact begins_escape.takes.bind fun p => by split <;> exact .pure _
  all_goals exact letter

theorem braces_of_stuck (h : Stuck r) : braces r = none := by
  obtain ⟨cs, ⟨_, v₁, ns₁⟩, hr, hspace, rfl⟩ := h
  obtain ⟨_, v, ns⟩ := r
  cases hr
  have bumped : bumpSpace ⟨'\x7b' :: cs, v, ns⟩ = some ((), ⟨closing, v₁, ns₁⟩) := hspace
  refine (bind_of_some bumped).trans ?_
  cases v₁ <;> rfl

/-- No count begins at a brace that is stuck. -/
theorem branches_of_stuck (h : Stuck r) (fuel : Nat) (parts : List Expression) :
    branches fuel parts r = none := by
  cases fuel with
  | zero => rfl
  | succ fuel =>
      refine (bind_of_some (space_of_stuck h)).trans ?_
      have fails := braces_of_stuck h
      obtain ⟨cs, r₁, hr, -⟩ := h
      obtain ⟨_, v, ns⟩ := r
      cases hr
      show (demand (!parts.isEmpty) >>= fun _ => braces >>= _) _ = none
      rw [demand_bind]
      split
      · exact bind_of_none fails
      · rfl

theorem agrees_changed (changes : List (Flag × Bool)) : Agrees (fun _ _ => False) n
    (modify fun r => { r with verbose := settingOf changes .verbose r.verbose } : Reader Unit)
    (modify fun r => { r with verbose := settingOf changes .verbose r.verbose }) :=
  agrees_modify (fun _ => List.suffix_refl _) fun _ => rfl

theorem shrinks_branches (fuel : Nat) (parts : List Expression) :
    Shrinks (branches fuel parts) := by
  induction fuel generalizing parts with
  | zero => exact .failure
  | succ fuel ih =>
      refine shrinks_space.bind fun _ => shrinks_peek.bind fun c => ?_
      split
      · exact .pure _
      · exact .pure _
      · exact shrinks_bump.bind fun _ => (ih _).bind fun _ => .pure _
      · refine shrinks_get.bind fun r => begins_opening.shrinks.bind fun o => ?_
        have set : ∀ g : Reading → Bool,
            Shrinks (modify fun r => { r with verbose := g r } : Reader Unit) :=
          fun _ => shrinks_modify fun _ => List.suffix_refl _
        split
        · exact (set _).bind fun _ => ih _
        · exact (set _).bind fun _ => (ih _).bind fun _ => shrinks_here.bind fun _ =>
            (shrinks_demand _).bind fun _ => (set _).bind fun _ => shrinks_bump.bind fun _ => ih _
      · exact begins_bracket.shrinks.bind fun _ => ih _
      iterate 3
        exact shrinks_bump.bind fun _ =>
          (agrees_applyCount (n := 0) _ _).shrinks.1.bind fun _ => ih _
      · exact (shrinks_demand _).bind fun _ => begins_braces.shrinks.bind fun _ =>
          shrinks_bumpSpace.bind fun _ =>
            (agrees_applyCount (n := 0) _ _).shrinks.1.bind fun _ => ih _
      · exact (agrees_primitive (n := 0)).shrinks.1.bind fun _ => ih _

/-- The branches of a source are the same with the closing behind it. -/
theorem agrees_branches {fuel fuel' n : Nat} (enough : Enough n fuel fuel')
    (parts : List Expression) :
    Agrees Past n (branches fuel parts) (branches fuel' parts) := by
  -- every part takes a character before the next one is read, so that less fuel is enough there
  induction enough generalizing parts with
  | zero => exact .zero (shrinks_branches _ _) (shrinks_branches _ _)
  | @succ n fuel fuel' _ ih =>
      have counted : ∀ {c : Char} (count : Count), AgreesAt c Past (n + 1)
          (do bump; branches fuel (← applyCount count parts))
          (do bump; branches fuel' (← applyCount count parts)) := fun count =>
        .bump ((agrees_applyCount _ _).bind fun _ => ih _)
      refine .space (.peek rfl rfl rfl rfl fun c hc => ?_)
      split
      · cases ‹some c = none›
      · exact absurd (Option.some.inj ‹_›) hc
      · exact .bump ((ih _).bind fun _ => .pure _)
      · refine .get fun r r' same => ?_
        rw [same]
        refine begins_opening.seq fun o => ?_
        split
        · exact (agrees_changed _).bind_of_late (fun _ => ih _) nofun
        · refine (agrees_changed _).bind_of_late (fun _ => (ih _).bind fun body => .here fun c =>
            .demand fun _ => ?_) nofun
          exact .modify (fun _ => rfl) (fun _ => rfl) (.bump ((ih _).of_le (Nat.sub_le n 1)))
      · exact begins_bracket.seq fun _ => ih _
      · exact counted .optional
      · exact counted .many
      · exact counted .more
      · exact .demand fun _ => (begins_braces.agreesAt fun _ _ h => h).bind_of_leaves leaves_braces
          leaves_braces fun count => .bumpSpace ((agrees_applyCount _ _).bind fun _ => ih _)
      · refine .of (agrees_primitive.bind_of_takes takes_primitive (fun _ => ih _) ?_)
          fun _ _ => rfl
        rintro e r₁ (past | stuck) e' r₂ h
        · exact (shrinks_branches _ _ h).trans past
        · cases (branches_of_stuck stuck _ _).symm.trans h

end Reader

end TypeSchema.Regex
