/-
# Pattern — which texts a pattern matches, and which sources make one

A pattern is its source between anchors, and is read from the text of both.  So
the parenthesis that is put behind the source need not be the one that ends the
group: a source may end the group itself (`EndsGroup`), and it may end in an open
comment, to which the parenthesis then belongs (`EndsInComment`).

`Pattern.ofSource_outcome` says what follows.  An expression makes a pattern
exactly if it does not end in a comment, and is not too large with the anchors;
the pattern matches the texts that the expression matches as a whole.  A source
that is no expression makes a pattern only if it ends the group.
-/
import TypeSchema.Proofs.Regex.Branches
import TypeSchema.Proofs.Regex.Captures
import TypeSchema.Proofs.TextForm.Basic
import TypeSchema.Proofs.ValueType.Acceptance

namespace TypeSchema

namespace Regex

/-- The branches that a text starts with, and where they end. -/
def readBranches (cs : List Char) : Option (Expression × Reading) :=
  Reader.branches (cs.length + 2) [] ⟨cs, false, []⟩

namespace Reader

variable {α β : Type} {m : Reader α} {f : α → Reader β} {r r₁ : Reading}

/-- What is left is nothing, or starts with a closing parenthesis. -/
def Stops (m : Reader α) : Prop :=
  ∀ ⦃r a r₁⦄, m r = some (a, r₁) → r₁.rest = [] ∨ ∃ cs, r₁.rest = ')' :: cs

theorem Stops.of_bind (hf : ∀ a, Stops (f a)) : Stops (m >>= f) := by
  intro r b r₂ h
  obtain ⟨a, r₁, -, h⟩ := bind_eq_some.mp h
  exact hf a h

theorem Stops.bind_pure (h : Stops m) {g : α → β} : Stops (m >>= fun a => pure (g a)) := by
  intro r b r₂ hb
  obtain ⟨a, r₁, hm, hb⟩ := bind_eq_some.mp hb
  cases hb
  exact h hm

theorem Stops.peek {f : Option Char → Reader β} {b : β} (ends : f none = pure b)
    (closes : f (some ')') = pure b) (hf : ∀ c, c ≠ ')' → Stops (f (some c))) :
    Stops (Reader.peek >>= f) := by
  rintro ⟨_ | ⟨c, cs⟩, v, ns⟩ b' r₁ h
  · cases (congrFun ends _).symm.trans h
    exact .inl rfl
  · by_cases hc : c = ')'
    · subst hc
      cases (congrFun closes _).symm.trans h
      exact .inr ⟨cs, rfl⟩
    · exact hf c hc h

theorem stops_branches (fuel : Nat) (parts : List Expression) : Stops (branches fuel parts) := by
  induction fuel generalizing parts with
  | zero => exact nofun
  | succ fuel ih =>
      refine .of_bind fun _ => .peek rfl rfl fun c hc => ?_
      split
      · cases ‹some c = none›
      · exact absurd (Option.some.inj ‹_›) hc
      · exact .of_bind fun _ => (ih _).bind_pure
      · refine .of_bind fun r => .of_bind fun o => ?_
        split
        · exact .of_bind fun _ => ih _
        · exact .of_bind fun _ => .of_bind fun _ => .of_bind fun _ => .of_bind fun _ =>
            .of_bind fun _ => .of_bind fun _ => ih _
      · exact .of_bind fun _ => ih _
      iterate 3 exact .of_bind fun _ => .of_bind fun _ => ih _
      · exact .of_bind fun _ => .of_bind fun _ => .of_bind fun _ => .of_bind fun _ => ih _
      · exact .of_bind fun _ => ih _

end Reader

theorem Expression.ofChars_eq_some {cs : List Char} {e : Expression} :
    Expression.ofChars cs = some e ↔
      ∃ r, readBranches cs = some (e, r) ∧ r.rest = [] ∧ e.nesting .none ≤ maxNesting := by
  show (readBranches cs).bind _ = some e ↔ _
  constructor
  · intro h
    obtain ⟨⟨e', r⟩, hread, h⟩ := Option.bind_eq_some_iff.mp h
    dsimp only at h
    split at h
    · cases h
      exact ⟨r, hread, ‹_ ∧ _›⟩
    · cases h
  · rintro ⟨r, hread, hr⟩
    exact Option.bind_eq_some_iff.mpr ⟨(e, r), hread, if_pos hr⟩

theorem ofChars_eq_some {cs : List Char} {r : Regex} {ignoreCase : Bool} :
    ofChars ignoreCase cs = some r ↔
      ∃ e, Expression.ofChars cs = some e ∧ ofExpression ignoreCase e = some r :=
  Option.bind_eq_some_iff

theorem ofExpression_eq_some {e : Expression} {r : Regex} {ignoreCase : Bool} :
    ofExpression ignoreCase e = some r ↔
      ∃ f, e.meaning (Flags.initial ignoreCase) = some (r, f) ∧ r.bytes ≤ maxBytes := by
  simp only [ofExpression, Option.bind_eq_bind, Option.bind_eq_some_iff]
  constructor
  · rintro ⟨⟨r', f⟩, hm, h⟩
    split at h
    · cases h
      exact ⟨f, hm, ‹_›⟩
    · cases h
  · rintro ⟨f, hm, hb⟩
    exact ⟨(r, f), hm, if_pos hb⟩

end Regex

namespace Pattern

open Regex

variable {source : String} {e : Expression} {r : Regex} {p : Pattern}

/-- What the group between the anchors holds, and where it ends. -/
def body (source : String) : Option (Expression × Reading) :=
  Reader.branches (source.toList.length + 6) [] ⟨source.toList ++ closing, false, []⟩

/-- The source has a closing parenthesis that no opening one belongs to. -/
def EndsGroup (source : String) : Prop :=
  (readBranches source.toList).any fun (_, rd) => rd.rest.head? = some ')'

/-- The source can be read to its end, and what stands behind it is not left either:
it belongs to a comment. -/
def EndsInComment (source : String) : Prop :=
  (readBranches source.toList).any (fun (_, rd) => rd.rest.isEmpty) ∧
    (body source).any fun (_, rd) => rd.rest.isEmpty

instance : Decidable (EndsInComment source) := inferInstanceAs (Decidable (_ ∧ _))

theorem anchoredText_eq : anchoredText source =
    '^' :: '(' :: '?' :: ':' :: (source.toList ++ closing) := by
  simp [anchoredText, closing]

/-- The source is read as what a group holds, and the end of the group behind it. -/
theorem readBranches_anchoredText : readBranches (anchoredText source) = (do
    let body ← Reader.branches (source.toList.length + 6) []
    Reader.demand ((← Reader.here) = ')')
    modify fun r => { r with verbose := false }
    Reader.bump
    Reader.branches (source.toList.length + 6) [.group (.flags []) body, .anchor .caret] :
      Reader Expression) ⟨source.toList ++ closing, false, []⟩ := by
  have fuel : (anchoredText source).length + 2 = source.toList.length + 8 := by
    simp [anchoredText_eq, closing]
  unfold readBranches
  rw [fuel, anchoredText_eq]
  rfl

theorem readBranches_of_closing {rd : Reading} (h : body source = some (e, rd.followed))
    (hr : rd.rest = []) :
    readBranches (anchoredText source) = some (anchored e, ⟨[], false, rd.names⟩) := by
  obtain ⟨_, v, ns⟩ := rd
  cases hr
  rw [readBranches_anchoredText]
  exact (Reader.bind_of_some h).trans rfl

theorem readBranches_of_open (h : ∀ e rd, body source = some (e, rd) → rd.rest = []) :
    readBranches (anchoredText source) = none := by
  rw [readBranches_anchoredText]
  cases hb : body source with
  | none => exact Reader.bind_of_none hb
  | some q =>
      obtain ⟨e, _, v, ns⟩ := q
      cases h e _ hb
      exact (Reader.bind_of_some hb).trans rfl

theorem ofSource_eq_some : ofSource source = some p ↔
    ∃ e r, Expression.ofChars (anchoredText source) = some e ∧
      Regex.ofExpression false e = some r ∧ p = ⟨source, r⟩ := by
  simp only [ofSource, Option.map_eq_some_iff, Regex.ofChars_eq_some]
  constructor
  · rintro ⟨r, ⟨e, he, hr⟩, rfl⟩
    exact ⟨e, r, he, hr, rfl⟩
  · rintro ⟨e, r, he, hr, rfl⟩
    exact ⟨r, ⟨e, he, hr⟩, rfl⟩

theorem nesting_le_anchored : e.nesting .none ≤ (anchored e).nesting .none := by
  simp only [anchored, Expression.nesting]
  omega

theorem bytes_le_anchored : r.bytes ≤ r.anchored.bytes := by
  have : r.anchored.bytes = stateBytes + (r.bytes + stateBytes) := rfl
  omega

theorem ofSource_of_closing {rd : Reading} (h : body source = some (e, rd.followed))
    (hr : rd.rest = []) :
    ofSource source = some p ↔ (anchored e).nesting .none ≤ maxNesting ∧ ∃ r f,
      e.meaning (Flags.initial false) = some (r, f) ∧ r.anchored.bytes ≤ maxBytes ∧
      p = ⟨source, r.anchored⟩ := by
  have reading := readBranches_of_closing h hr
  simp only [ofSource_eq_some, Expression.ofChars_eq_some, ofExpression_eq_some]
  constructor
  · rintro ⟨e', r', ⟨rd', hread, -, hn⟩, ⟨f, hm, hb⟩, rfl⟩
    cases reading.symm.trans hread
    rw [TextForm.meaning_anchored] at hm
    obtain ⟨⟨r, f⟩, hm', hr'⟩ := Option.map_eq_some_iff.mp hm
    cases hr'
    exact ⟨hn, r, f, hm', hb, rfl⟩
  · rintro ⟨hn, r, f, hm, hb, rfl⟩
    refine ⟨anchored e, r.anchored, ⟨_, reading, rfl, hn⟩, ⟨Flags.initial false, ?_, hb⟩, rfl⟩
    rw [TextForm.meaning_anchored, hm]
    rfl

theorem ofSource_of_open (h : ∀ e rd, body source = some (e, rd) → rd.rest = []) :
    ofSource source = none := by
  cases hp : ofSource source with
  | none => rfl
  | some p =>
      obtain ⟨e, r, he, -⟩ := ofSource_eq_some.mp hp
      obtain ⟨rd, hread, -⟩ := Expression.ofChars_eq_some.mp he
      cases (readBranches_of_open h).symm.trans hread

/-- How a source is read by itself, and how between the anchors: the group ends
behind it; the source ends the group itself; it ends in an open comment; or it
cannot be read, and the group has no end. -/
inductive Outcome (source : String) : Prop
  | closing {e : Expression} {rd : Reading} (alone : readBranches source.toList = some (e, rd))
      (group : body source = some (e, rd.followed)) (rest : rd.rest = [])
  | ended {e : Expression} {rd : Reading} {cs : List Char}
      (alone : readBranches source.toList = some (e, rd))
      (group : body source = some (e, rd.followed)) (rest : rd.rest = ')' :: cs)
  | comment {e : Expression} {rd : Reading} (alone : readBranches source.toList = some (e, rd))
      (group : body source = some (e, rd)) (rest : rd.rest = []) (hash : '#' ∈ source.toList)
  | unread (alone : readBranches source.toList = none)
      (group : ∀ e rd, body source = some (e, rd) → rd.rest = [])

theorem outcome (source : String) : Outcome source := by
  have enough : Reader.Enough (source.toList.length + 1) (source.toList.length + 2)
      (source.toList.length + 6) := .of_le (by omega) (by omega)
  rcases (Reader.agrees_branches enough []).follows ⟨source.toList, false, []⟩
    (Nat.lt_succ_self _) with
    ⟨e, rd, alone, group⟩ | ⟨hash, e, rd, rest, alone, group⟩ | ⟨alone, past⟩
  · rcases Reader.stops_branches _ _ alone with rest | ⟨cs, rest⟩
    · exact .closing alone group rest
    · exact .ended alone group rest
  · exact .comment alone group rest hash
  · refine .unread alone fun e rd group => ?_
    rcases Reader.stops_branches _ _ group with rest | ⟨cs, rest⟩
    · exact rest
    · have short : ')' :: cs <:+ ['$'] := rest ▸ past e rd group
      rcases List.suffix_cons_iff.mp short with same | short
      · cases same
      · cases List.suffix_nil.mp short

theorem not_endsInComment_of_closing {rd : Reading} (group : body source = some (e, rd.followed)) :
    ¬ EndsInComment source := by
  rintro ⟨-, h⟩
  obtain ⟨rest, v, ns⟩ := rd
  rw [group] at h
  cases rest <;> cases h

theorem endsInComment_of_comment {rd : Reading}
    (alone : readBranches source.toList = some (e, rd)) (group : body source = some (e, rd))
    (rest : rd.rest = []) : EndsInComment source := by
  rw [EndsInComment, alone, group]
  exact ⟨List.isEmpty_iff.mpr rest, List.isEmpty_iff.mpr rest⟩

/-- Only the sign of a comment begins one. -/
theorem mem_of_endsInComment (h : EndsInComment source) : '#' ∈ source.toList := by
  cases outcome source with
  | closing alone group rest => exact absurd h (not_endsInComment_of_closing group)
  | ended alone group rest => exact absurd h (not_endsInComment_of_closing group)
  | comment alone group rest hash => exact hash
  | unread alone group =>
      rw [EndsInComment, alone] at h
      cases h.1

/-- What ends a group is a parenthesis of the source. -/
theorem mem_of_endsGroup (h : EndsGroup source) : ')' ∈ source.toList := by
  cases read : readBranches source.toList with
  | none =>
      rw [EndsGroup, read] at h
      cases h
  | some q =>
      obtain ⟨e, rd⟩ := q
      rw [EndsGroup, read] at h
      have next : rd.rest.head? = some ')' := of_decide_eq_true h
      exact (Reader.shrinks_branches _ _ read).subset (List.mem_of_head? next)

theorem ofSource_of_comment {rd : Reading} (group : body source = some (e, rd))
    (rest : rd.rest = []) : ofSource source = none := by
  refine ofSource_of_open fun e' rd' h => ?_
  cases group.symm.trans h
  exact rest

/-- The pattern of an expression, if there is one. -/
theorem ofSource_eq_some_iff (he : Expression.ofChars source.toList = some e)
    (hr : Regex.ofExpression false e = some r) :
    ofSource source = some p ↔ ¬ EndsInComment source ∧
      (anchored e).nesting .none ≤ maxNesting ∧ r.anchored.bytes ≤ maxBytes ∧
      p = ⟨source, r.anchored⟩ := by
  obtain ⟨rd, alone, rest, -⟩ := Expression.ofChars_eq_some.mp he
  obtain ⟨f, hm, -⟩ := ofExpression_eq_some.mp hr
  cases outcome source with
  | closing alone' group rest =>
      cases alone.symm.trans alone'
      simp [ofSource_of_closing group rest, hm, not_endsInComment_of_closing group]
  | ended alone' group rest' =>
      cases alone.symm.trans alone'
      cases rest.symm.trans rest'
  | comment alone' group rest hash =>
      rw [ofSource_of_comment group rest]
      exact iff_of_false nofun fun h => h.1 (endsInComment_of_comment alone' group rest)
  | unread alone' group => cases alone.symm.trans alone'

/-- What makes a pattern and is no expression ends the group itself. -/
theorem endsGroup_of_ofSource (hnone : Regex.ofChars false source.toList = none)
    (hp : ofSource source = some p) : EndsGroup source := by
  cases outcome source with
  | closing alone group rest =>
      obtain ⟨hn, r, f, hm, hb, -⟩ := (ofSource_of_closing group rest).mp hp
      have he := Expression.ofChars_eq_some.mpr ⟨_, alone, rest, nesting_le_anchored.trans hn⟩
      have hr := ofExpression_eq_some.mpr ⟨f, hm, bytes_le_anchored.trans hb⟩
      cases hnone.symm.trans (Regex.ofChars_eq_some.mpr ⟨_, he, hr⟩)
  | ended alone group rest =>
      rw [EndsGroup, alone]
      exact decide_eq_true (congrArg List.head? rest)
  | comment alone group rest hash => cases (ofSource_of_comment group rest).symm.trans hp
  | unread alone group => cases (ofSource_of_open group).symm.trans hp

/-- Without a comment and a closing parenthesis, a source makes a pattern only if it
is an expression, and then if neither limit is passed with the anchors. -/
theorem ofSource_eq_some_iff_of_plain (hash : '#' ∉ source.toList)
    (closes : ')' ∉ source.toList) :
    ofSource source = some p ↔ ∃ e r, Expression.ofChars source.toList = some e ∧
      Regex.ofExpression false e = some r ∧ (anchored e).nesting .none ≤ maxNesting ∧
      r.anchored.bytes ≤ maxBytes ∧ p = ⟨source, r.anchored⟩ := by
  constructor
  · intro hp
    cases hread : Regex.ofChars false source.toList with
    | none => exact absurd (mem_of_endsGroup (endsGroup_of_ofSource hread hp)) closes
    | some r =>
        obtain ⟨e, he, hr⟩ := Regex.ofChars_eq_some.mp hread
        exact ⟨e, r, he, hr, ((ofSource_eq_some_iff he hr).mp hp).2⟩
  · rintro ⟨e, r, he, hr, limits⟩
    exact (ofSource_eq_some_iff he hr).mpr ⟨fun h => hash (mem_of_endsInComment h), limits⟩

end Pattern

end TypeSchema
