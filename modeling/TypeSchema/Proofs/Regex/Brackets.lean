/-
# Brackets — characters, classes and sets that a closing follows

Each reader of what stands between brackets or behind a backslash agrees with
itself about the closing (`Agrees`).  Two of them go on into it.  A boundary that
is named between braces reads up to it and goes back (`Stuck`); what then wants a
count or an item fails.  And a set that is not closed takes the closing for
items, but nothing of it ends a set (`setBody_of_reached`).
-/
import TypeSchema.Proofs.Regex.Reader

namespace TypeSchema.Regex

namespace Reader

variable {α β : Type} {r r₁ : Reading} {n : Nat} {c : Char}

/-! ## Characters and classes behind a backslash -/

theorem agrees_hexDigits (k d n : Nat) : Agrees Past n (hexDigits k d) (hexDigits k d) := by
  induction k generalizing d n with
  | zero => exact .pure d
  | succ k ih =>
      refine .here fun c => ?_
      split
      · exact .failure
      · exact .bumpSpace (ih _ _)

theorem shrinks_hexBraced (fuel : Nat) (d : Option Nat) : Shrinks (hexBraced fuel d) := by
  induction fuel generalizing d with
  | zero => exact .failure
  | succ fuel ih =>
      refine shrinks_here.bind fun c => .ite (shrinks_bumpSpace.bind fun _ => ?_) ?_
      · split
        · exact .pure _
        · exact .failure
      · split
        · exact .failure
        · exact shrinks_bumpSpace.bind fun _ => ih _

theorem agrees_hexBraced {fuel fuel' n : Nat} (enough : Enough n fuel fuel') (d : Option Nat) :
    Agrees Past n (hexBraced fuel d) (hexBraced fuel' d) := by
  induction enough generalizing d with
  | zero => exact .zero (shrinks_hexBraced _ _) (shrinks_hexBraced _ _)
  | @succ n fuel fuel' _ ih =>
      refine .here fun c => .ite (fun _ => .bumpSpace ?_) fun _ => ?_
      · split
        · exact .pure _
        · exact .failure
      · split
        · exact .failure
        · exact .bumpSpace (ih _)

theorem agrees_hexChar : Agrees Past n hexChar hexChar := by
  refine .here fun letter => .bumpSpace (.here fun c => .ite (fun _ => ?_) fun _ => ?_)
  · refine .bumpSpace (.get fun r => ?_)
    exact (agrees_hexBraced .length none).bind fun d => (agrees_charOf d).bind fun _ => .pure _
  · refine .of ((agrees_hexDigits _ 0 _).bind fun d => (agrees_charOf d).bind fun _ => .pure _) ?_
    intro v ns
    by_cases hx : letter = 'x'
    · simp only [hx, if_true]
      rfl
    · by_cases hu : letter = 'u'
      · simp only [hu, if_true]
        rfl
      · simp only [hx, hu, if_false]
        rfl

theorem shrinks_upToBrace (fuel : Nat) : Shrinks (upToBrace fuel) := by
  induction fuel with
  | zero => exact .failure
  | succ fuel ih =>
      exact shrinks_here.bind fun c => .ite (shrinks_bump.bind fun _ => .pure _)
        (shrinks_bumpSpace.bind fun _ => ih.bind fun _ => .pure _)

theorem agrees_upToBrace {fuel fuel' n : Nat} (enough : Enough n fuel fuel') :
    Agrees Past n (upToBrace fuel) (upToBrace fuel') := by
  induction enough with
  | zero => exact .zero (shrinks_upToBrace _) (shrinks_upToBrace _)
  | succ _ ih =>
      exact .here fun c => .ite (fun _ => .bump (.pure _))
        fun _ => .bumpSpace (ih.bind fun _ => .pure _)

theorem agrees_unicodeClass : Agrees Past n unicodeClass unicodeClass := by
  refine .here fun letter => .bumpSpace (.here fun c =>
    .ite (fun _ => ?_) fun _ => .ite (fun _ => .failure) fun _ => ?_)
  · refine .bumpSpace (.get fun r => (agrees_upToBrace .length).bind fun name => ?_)
    split
    · exact .pure _
    · split <;> exact .pure _
  · exact .bumpSpace (.pure _)

theorem shrinks_letters (fuel : Nat) : Shrinks (specialBoundary.letters fuel) := by
  induction fuel with
  | zero => exact .failure
  | succ fuel ih =>
      refine shrinks_peek.bind fun c => ?_
      split
      · exact .ite (shrinks_bumpSpace.bind fun _ => ih.bind fun _ => .pure _) (.pure _)
      · exact .pure _

theorem agrees_letters {fuel fuel' n : Nat} (enough : Enough n fuel fuel') :
    Agrees Past n (specialBoundary.letters fuel) (specialBoundary.letters fuel') := by
  induction enough with
  | zero => exact .zero (shrinks_letters _) (shrinks_letters _)
  | succ _ ih =>
      exact .peek rfl rfl rfl rfl fun c hc => .ite
        (fun _ => .bumpSpace (ih.bind fun _ => .pure _))
        fun _ => .of_ne (.pure _) hc

/-- What is left starts with a brace and has nothing but the closing behind it,
blanks and comments apart. -/
def Stuck (r : Reading) : Prop :=
  ∃ cs r₁, r.rest = '\x7b' :: cs ∧ space { r with rest := cs } = some ((), r₁) ∧ r₁.rest = closing

/-- The name of a boundary, up to the brace behind it. -/
def boundaryName : Reader (Option Anchor) := do
  let name ← specialBoundary.letters ((← get).rest.length + 1)
  demand ((← here) = '\x7d')
  bump
  match String.ofList name with
  | "start" => return some .wordStart
  | "end" => return some .wordEnd
  | "start-half" => return some .wordStartHalf
  | "end-half" => return some .wordEndHalf
  | _ => failure

/-- The name of a boundary, or back to the start if `c` does not begin one. -/
def boundaryOr (start : Reading) (c : Char) : Reader (Option Anchor) := do
  if !specialBoundary.isNameChar c then
    set start
    return none
  else boundaryName

theorem specialBoundary_cons {cs : List Char} {v : Bool} {ns : List String} :
    specialBoundary ⟨c :: cs, v, ns⟩ =
      (space >>= fun _ => here >>= boundaryOr ⟨c :: cs, v, ns⟩) ⟨cs, v, ns⟩ := rfl

theorem agrees_boundaryName : Agrees Past n boundaryName boundaryName := by
  refine .get fun r => (agrees_letters .length).bind fun name =>
    .here fun c => .demand fun _ => .bump ?_
  split <;> first | exact .pure _ | exact .failure

theorem shrinks_specialBoundary : Shrinks specialBoundary := by
  intro r a r₂ h
  obtain ⟨start, r', hget, h⟩ := bind_eq_some.mp h
  cases hget
  obtain ⟨_, r₁, hspace, h⟩ := bind_eq_some.mp h
  obtain ⟨c, r₁', hc, h⟩ := bind_eq_some.mp h
  split at h
  · cases h
    exact List.suffix_refl _
  · have name : r₂.rest <:+ r₁'.rest := (agrees_boundaryName (n := 0)).shrinks.1 h
    exact name.trans ((shrinks_here hc).trans (shrinks_bumpSpace hspace))

/-- Where no name of a boundary follows the brace, reading goes back to it. -/
theorem agrees_specialBoundary : AgreesAt '\x7b'
    (fun a r => Past a r ∨ a = none ∧ Stuck r) n specialBoundary specialBoundary := by
  refine .mk (fun cs v ns _ => ?_) (fun _ h => absurd h (by decide)) shrinks_specialBoundary
    shrinks_specialBoundary
  rw [specialBoundary_cons, specialBoundary_cons]
  rcases agrees_space.follows ⟨cs, v, ns⟩ (Nat.lt_succ_self _) with
    ⟨_, ⟨_ | ⟨c, cs₁⟩, v₁, ns₁⟩, h, h'⟩ | ⟨-, _, ⟨_, v₁, ns₁⟩, rfl, h, h'⟩ | ⟨h, -⟩
  · -- nothing follows the brace, and the closing does not begin a name
    rw [bind_of_some h]
    refine .inr (.inr ⟨rfl, fun a r₂ ha => .inr ?_⟩)
    have back : some (none, (⟨'\x7b' :: (cs ++ closing), v, ns⟩ : Reading)) = some (a, r₂) :=
      (bind_of_some h').symm.trans ha
    cases back
    exact ⟨rfl, cs ++ closing, _, rfl, h', rfl⟩
  · rw [bind_of_some h]
    refine Eq.subst (bind_of_some h').symm ?_
    show Follows _ _ (boundaryOr ⟨'\x7b' :: cs, v, ns⟩ c ⟨c :: cs₁, v₁, ns₁⟩)
      (boundaryOr ⟨'\x7b' :: (cs ++ closing), v, ns⟩ c ⟨c :: (cs₁ ++ closing), v₁, ns₁⟩)
    unfold boundaryOr
    by_cases named : (!specialBoundary.isNameChar c) = true
    · rw [if_pos named, if_pos named]
      exact .inl ⟨none, _, rfl, rfl⟩
    · rw [if_neg named, if_neg named]
      exact ((agrees_boundaryName.mono fun _ _ => .inl).follows ⟨c :: cs₁, v₁, ns₁⟩
        (Nat.lt_succ_self _)).imp fun hash =>
          List.mem_cons_of_mem _ ((shrinks_space h).subset hash)
  · rw [bind_of_some h]
    exact .inr (.inr ⟨rfl, fun a r₂ ha => nomatch (bind_of_some h').symm.trans ha⟩)
  · cases h

/-- The closing has been come to behind a boundary, or it is past. -/
def PastBoundary (p : Primitive) (r : Reading) : Prop :=
  Past p r ∨ p = .anchor .wordBoundary ∧ Stuck r

theorem begins_escape : Begins PastBoundary escape := by
  refine .bump fun n => .here fun c => ?_
  have letter : ∀ {p : Primitive}, AgreesAt c PastBoundary n (do bump; pure p) (do bump; pure p) :=
    .bump_of_late (fun _ _ => .inl) (.pure _)
  split
  iterate 3 exact (AgreesAt.of agrees_hexChar fun _ _ => rfl).mono fun _ _ => .inl
  iterate 2 exact (AgreesAt.of agrees_unicodeClass fun _ _ => rfl).mono fun _ _ => .inl
  iterate 6 exact letter
  refine .bump_of_late (fun _ _ => .inl) (.ite (fun _ => .pure _) fun _ => ?_)
  split
  iterate 8 exact .pure _
  · refine .peek rfl rfl rfl rfl fun c hc => .ite (fun hb => ?_) fun _ => .of_ne (.pure _) hc
    obtain rfl := Option.some.inj hb
    refine agrees_specialBoundary.bind_of_late (fun a => ?_) ?_
    · split <;> exact .pure _
    · rintro a r₁ (past | ⟨rfl, stuck⟩) p r₂ h
      · cases a <;> cases h <;> exact .inl past
      · cases h
        exact .inr ⟨rfl, stuck⟩
  iterate 3 exact .pure _
  exact .failure

/-! ## Brackets -/

theorem span_suffix {p : Char → Bool} {cs taken rest : List Char}
    (h : cs.span p = (taken, rest)) : rest <:+ cs := by
  rw [List.span_eq_takeWhile_dropWhile] at h
  cases h
  exact List.dropWhile_suffix _

/-- What stands before `d`, and what from it on; a closing without `d` is part of the latter only
where there is a `d`. -/
theorem span_append {d : Char} (hd : d ∉ closing) (cs : List Char) :
    (∃ name rest, cs.span (· ≠ d) = (name, d :: rest) ∧
      (cs ++ closing).span (· ≠ d) = (name, d :: rest ++ closing)) ∨
    cs.span (· ≠ d) = (cs, []) ∧ (cs ++ closing).span (· ≠ d) = (cs ++ closing, []) := by
  simp only [List.span_eq_takeWhile_dropWhile]
  by_cases h : d ∈ cs
  · obtain ⟨name, rest, rfl, free⟩ := List.eq_append_cons_of_mem h
    have all : ∀ c ∈ name, decide (c ≠ d) = true :=
      fun c hc => decide_eq_true fun same => free (same ▸ hc)
    refine .inl ⟨name, rest, ?_, ?_⟩
    · rw [List.takeWhile_append_of_pos all, List.dropWhile_append_of_pos all]
      simp
    · rw [List.append_assoc, List.takeWhile_append_of_pos all, List.dropWhile_append_of_pos all]
      simp
  · have whole : ∀ cs : List Char, d ∉ cs →
        (cs.takeWhile (· ≠ d), cs.dropWhile (· ≠ d)) = (cs, []) := by
      intro cs h
      have all : ∀ c ∈ cs, decide (c ≠ d) = true :=
        fun c hc => decide_eq_true fun same => h (same ▸ hc)
      rw [List.takeWhile_eq_self_iff.mpr all, List.dropWhile_eq_nil_iff.mpr all]
    exact .inr ⟨whole cs h, whole _ fun h' => (List.mem_append.mp h').elim h hd⟩

/-- The class whose name comes next, behind the sign that it is negated. -/
def asciiNamed (negated : Bool) (cs : List Char) : Option (ClassItem × List Char) :=
  let (name, rest) := cs.span (· ≠ ':')
  match rest with
  | ':' :: ']' :: rest =>
    (AsciiClass.all.find? (·.name.toList = name)).map fun kind => (.ascii kind negated, rest)
  | _ => none

theorem asciiClass?_plain {cs : List Char} (h : cs.head? ≠ some '^') :
    asciiClass? ('[' :: ':' :: cs) = asciiNamed false cs := by
  unfold asciiClass?
  split
  · rename_i heq
    cases heq
    split
    rename_i heq
    split at heq
    · exact absurd rfl h
    · cases heq
      rfl
  · rename_i other
    exact absurd rfl (other cs)

theorem asciiClass?_of_forall_ne {cs : List Char} (h : ∀ rest, cs ≠ '[' :: ':' :: rest) :
    asciiClass? cs = none := by
  unfold asciiClass?
  split
  · exact absurd rfl (h _)
  · rfl

theorem asciiNamed_append (negated : Bool) (cs : List Char) :
    asciiNamed negated (cs ++ closing) =
      (asciiNamed negated cs).map fun (item, rest) => (item, rest ++ closing) := by
  unfold asciiNamed
  rcases span_append (d := ':') (by decide) cs with ⟨name, rest, h, h'⟩ | ⟨h, h'⟩
  · rw [h, h']
    rcases rest with _ | ⟨c, rest⟩
    · rfl
    · by_cases hc : c = ']'
      · subst hc
        show Option.map _ _ = Option.map _ (Option.map _ _)
        rw [Option.map_map]
        rfl
      · simp [hc]
  · rw [h, h']
    rfl

theorem asciiNamed_suffix {negated : Bool} {cs rest : List Char} {item : ClassItem}
    (h : asciiNamed negated cs = some (item, rest)) : rest <:+ cs := by
  unfold asciiNamed at h
  split at h
  rename_i name last cut
  split at h
  · obtain ⟨kind, -, h⟩ := Option.map_eq_some_iff.mp h
    cases h
    exact (List.suffix_append [':', ']'] rest).trans (span_suffix cut)
  · cases h

theorem asciiClass?_append (cs : List Char) : asciiClass? (cs ++ closing) =
    (asciiClass? cs).map fun (item, rest) => (item, rest ++ closing) := by
  by_cases h : ∃ rest, cs = '[' :: ':' :: rest
  · obtain ⟨rest, rfl⟩ := h
    by_cases caret : rest.head? = some '^'
    · obtain ⟨rest, rfl⟩ := List.head?_eq_some_iff.mp caret
      exact asciiNamed_append true rest
    · have caret' : (rest ++ closing).head? ≠ some '^' := by
        cases rest with
        | nil => decide
        | cons c rest => exact caret
      rw [List.cons_append, List.cons_append, asciiClass?_plain caret, asciiClass?_plain caret',
        asciiNamed_append]
  · have other : ∀ rest, cs ≠ '[' :: ':' :: rest := fun rest same => h ⟨rest, same⟩
    rw [asciiClass?_of_forall_ne other, asciiClass?_of_forall_ne]
    · rfl
    · rintro rest same
      rcases cs with _ | ⟨a, _ | ⟨b, cs⟩⟩
      · cases same
      · cases same
      · cases same
        exact h ⟨cs, rfl⟩

theorem asciiClass?_suffix {cs rest : List Char} {item : ClassItem}
    (h : asciiClass? cs = some (item, rest)) : rest <:+ cs.tail := by
  by_cases bracketed : ∃ rest, cs = '[' :: ':' :: rest
  · obtain ⟨inner, rfl⟩ := bracketed
    by_cases caret : inner.head? = some '^'
    · obtain ⟨inner, rfl⟩ := List.head?_eq_some_iff.mp caret
      exact (asciiNamed_suffix h).trans (List.suffix_append [':', '^'] inner)
    · rw [asciiClass?_plain caret] at h
      exact (asciiNamed_suffix h).trans (List.suffix_cons ':' inner)
  · rw [asciiClass?_of_forall_ne fun rest same => bracketed ⟨rest, same⟩] at h
    cases h

/-- Go on with what `p` takes of the text, or with `m` if it takes nothing. -/
def taking (p : List Char → Option (α × List Char)) (f : α → Reader β) (m : Reader β) :
    Reader β :=
  fun r => match p r.rest with
    | some (a, rest) => f a { r with rest := rest }
    | none => m r

section taking

variable {p : List Char → Option (α × List Char)} {f f' : α → Reader β} {m m' : Reader β}

theorem taking_of_some {a : α} {rest : List Char} (h : p r.rest = some (a, rest)) :
    taking p f m r = f a { r with rest := rest } := by
  unfold taking
  rw [h]

theorem taking_of_none (h : p r.rest = none) : taking p f m r = m r := by
  unfold taking
  rw [h]

/-- What `p` takes has a first character, and the closing is left behind it. -/
structure Cuts (p : List Char → Option (α × List Char)) : Prop where
  suffix : ∀ {cs a rest}, p cs = some (a, rest) → ∃ c cs', cs = c :: cs' ∧ rest <:+ cs'
  append : ∀ cs, p (cs ++ closing) = (p cs).map fun (a, rest) => (a, rest ++ closing)

theorem Shrinks.taking (cuts : Cuts p) (hf : ∀ a, Shrinks (f a)) (hm : Shrinks m) :
    Shrinks (taking p f m) := by
  intro r b r₁ hb
  cases hp : p r.rest with
  | none => exact hm ((taking_of_none hp).symm.trans hb)
  | some q =>
      obtain ⟨d, cs, hr, hrest⟩ := cuts.suffix hp
      rw [taking_of_some hp] at hb
      exact (hf q.1 hb).trans (hr ▸ hrest.trans (List.suffix_cons d cs))

theorem only_taking : only c (taking p f m) = only c (taking p f (only c m)) := by
  refine only_congr fun cs v ns => ?_
  cases hp : p (c :: cs) with
  | none => rw [taking_of_none hp, taking_of_none hp, only_cons]
  | some q => rw [taking_of_some hp, taking_of_some hp]

theorem AgreesAt.taking {late : β → Reading → Prop} (cuts : Cuts p)
    (hf : ∀ a, Agrees late (n - 1) (f a) (f' a)) (h : AgreesAt c late n m m') :
    AgreesAt c late n (taking p f m) (taking p f' m') := by
  unfold AgreesAt
  rw [only_taking, only_taking (m := m')]
  refine AgreesAt.mk (fun cs v ns hn => ?_) (fun hn hc v ns b r₁ hb => ?_)
    (.taking cuts (fun a => (hf a).shrinks.1) h.shrinks.1)
    (.taking cuts (fun a => (hf a).shrinks.2) h.shrinks.2)
  · have append := cuts.append (c :: cs)
    cases hp : p (c :: cs) with
    | none =>
        rw [taking_of_none hp, taking_of_none (append.trans (by rw [hp]; rfl))]
        exact h.follows ⟨c :: cs, v, ns⟩ hn
    | some q =>
        obtain ⟨a, rest⟩ := q
        obtain ⟨d, cs, hcs, hrest⟩ := cuts.suffix hp
        cases hcs
        rw [taking_of_some hp, taking_of_some (append.trans (by rw [hp]; rfl))]
        exact ((hf a).follows ⟨rest, v, ns⟩
          (hrest.length_le.trans_lt (Nat.lt_sub_of_add_lt hn))).imp
            fun hash => List.mem_cons_of_mem c (hrest.subset hash)
  · -- there is nothing to take in front of the closing
    have nothing : p [] = none := by
      cases hp : p [] with
      | none => rfl
      | some q => cases (cuts.suffix hp).choose_spec.choose_spec.1
    rw [taking_of_none ((cuts.append []).trans (by rw [nothing]; rfl))] at hb
    have late : Follows late _ none _ := h.follows ⟨[], v, ns⟩ hn
    exact late.late_of_none hb

end taking

theorem cuts_asciiClass? : Cuts asciiClass? where
  suffix := by
    intro cs item rest h
    cases cs with
    | nil => cases h
    | cons c cs => exact ⟨c, cs, rfl, asciiClass?_suffix h⟩
  append := asciiClass?_append

/-- The operator that comes next, and what follows it. -/
def operator? (cs : List Char) : Option (SetOperator × List Char) :=
  (setOperator? cs).map (·, cs.drop 2)

theorem operator?_singleton (a : Char) : operator? [a] = none := by
  simp [operator?, setOperator?]

theorem operator?_cons_cons (a b : Char) (cs : List Char) :
    operator? (a :: b :: cs) = (setOperator? [a, b]).map (·, cs) := by
  have ends : setOperator? (a :: b :: cs) = setOperator? [a, b] := by
    unfold setOperator?
    split
    iterate 3 rename_i same; cases same; rfl
    simp_all
  exact congrArg (Option.map (·, cs)) ends

theorem cuts_operator? : Cuts operator? where
  suffix := by
    rintro (_ | ⟨a, _ | ⟨b, cs⟩⟩) op rest h
    · cases h
    · cases (operator?_singleton a).symm.trans h
    · rw [operator?_cons_cons] at h
      obtain ⟨op', -, h⟩ := Option.map_eq_some_iff.mp h
      cases h
      exact ⟨a, b :: cs, rfl, List.suffix_cons b cs⟩
  append := by
    rintro (_ | ⟨a, _ | ⟨b, cs⟩⟩)
    · rfl
    · rw [operator?_singleton]
      show operator? (a :: ')' :: ['$']) = none
      rw [operator?_cons_cons]
      simp [setOperator?]
    · show operator? (a :: b :: (cs ++ closing)) = _
      rw [operator?_cons_cons, operator?_cons_cons, Option.map_map]
      rfl

theorem setBody_succ (fuel : Nat) (pending : Option (ClassSet × SetOperator))
    (items : List ClassItem) : setBody (fuel + 1) pending items = (do
      space
      let c ← here
      if c = ']' then
        bump
        return closeSet pending items
      else if c = '[' then
        taking asciiClass? (fun item => setBody fuel pending (items ++ [item])) do
          let (negated, first) ← openSet
          let body ← setBody fuel none first
          setBody fuel pending (items ++ [.nested negated body])
      else
        taking operator? (fun op => setBody fuel (some (closeSet pending items, op)) []) do
          let item ← setRange
          setBody fuel pending (items ++ [item])) := by
  rw [setBody]
  refine congrArg (space >>= ·) (funext fun _ => funext fun r => ?_)
  obtain ⟨_ | ⟨c, cs⟩, v, ns⟩ := r
  · rfl
  · rw [get_bind, here_bind, here_bind]
    split
    · rfl
    · split
      · cases h : asciiClass? (c :: cs) with
        | none =>
            rw [taking_of_none h]
        | some q =>
            rw [taking_of_some h]
            rfl
      · cases h : setOperator? (c :: cs) with
        | none =>
            rw [taking_of_none (congrArg (Option.map _) h)]
        | some op =>
            rw [taking_of_some (congrArg (Option.map _) h)]
            rfl

theorem agrees_setPrimitive : Agrees PastBoundary n setPrimitive setPrimitive := by
  refine .here fun c => .ite (fun hc => ?_) fun _ => ?_
  · subst hc
    exact begins_escape.agreesAt fun _ _ => .inl
  · rw [next_bind]
    exact .here (.bump_of_late (fun _ _ => .inl) (.pure _))

theorem takes_setPrimitive : Takes setPrimitive := by
  refine .here fun c => ?_
  by_cases hc : c = '\\'
  · rw [if_pos hc]
    exact begins_escape.takes
  · rw [if_neg hc]
    exact (takes_next.bind fun _ => .pure _).only

theorem agrees_toItem (p : Primitive) : Agrees Reached n (toItem p) (toItem p) := by
  unfold toItem
  split <;> first | exact .pure _ | exact .failure

/-- The item that starts with `first`: a range where a hyphen and another end follow. -/
def rangeFrom (first : Primitive) : Reader ClassItem := do
  space
  let c ← here
  let after ← peekSpace
  if c ≠ '-' ∨ after = some ']' ∨ after = some '-' then toItem first
  else
    bumpSpace
    let _ ← here
    match first, ← setPrimitive with
    | .char lo s, .char hi s' =>
      demand (lo ≤ hi)
      return .range lo hi (s = .byte ∨ s' = .byte)
    | _, _ => failure

theorem setRange_eq : setRange = setPrimitive >>= rangeFrom := rfl

theorem agrees_rangeFrom (first : Primitive) :
    Agrees Reached n (rangeFrom first) (rangeFrom first) := by
  refine .space (.here fun c => .peekSpace (fun after =>
    .ite (fun _ => .of_reached (agrees_toItem first)) fun _ => ?_) ?_)
  · refine .bumpSpace_of_late (fun _ _ => Past.reached) (.here fun _ => .of_reached ?_)
    refine agrees_setPrimitive.bind_of_late (fun second => ?_) ?_
    · split
      · exact .demand fun _ => .pure _
      · exact .failure
    · rintro second r₁ (past | ⟨rfl, -⟩) item r₂ h
      · split at h
        · exact ((shrinks_demand _).bind fun _ => .pure _) h |>.trans past.reached
        · cases h
      · cases first <;> cases h
  · intro d hd
    simp only [closing, List.mem_cons, List.not_mem_nil, or_false] at hd
    rcases hd with rfl | rfl <;> simp

/-- Nothing is passed over before the brace. -/
theorem space_of_stuck (h : Stuck r) : space r = some ((), r) := by
  obtain ⟨cs, r₁, hr, -⟩ := h
  obtain ⟨_, v, ns⟩ := r
  cases hr
  cases v <;> rfl

/-- A boundary is not an item, and the brace that is stuck behind it is not a hyphen. -/
theorem rangeFrom_of_stuck (h : Stuck r) (a : Anchor) : rangeFrom (.anchor a) r = none := by
  refine (bind_of_some (space_of_stuck h)).trans ?_
  obtain ⟨cs, r₁, hr, -⟩ := h
  obtain ⟨_, v, ns⟩ := r
  cases hr
  rfl

theorem agrees_setRange : Agrees Reached n setRange setRange := by
  rw [setRange_eq]
  refine agrees_setPrimitive.bind_of_late agrees_rangeFrom ?_
  rintro first r₁ (past | ⟨rfl, stuck⟩) item r₂ h
  · exact ((agrees_rangeFrom (n := 0) first).shrinks.1 h).trans past.reached
  · cases (rangeFrom_of_stuck stuck _).symm.trans h

theorem takes_setRange : Takes setRange :=
  setRange_eq ▸ takes_setPrimitive.bind fun first => (agrees_rangeFrom (n := 0) first).shrinks.1

theorem shrinks_leadingHyphens (fuel : Nat) : Shrinks (leadingHyphens fuel) := by
  induction fuel with
  | zero => exact .failure
  | succ fuel ih =>
      exact shrinks_here.bind fun c => .ite (shrinks_bumpSpace.bind fun _ => ih.bind fun _ =>
        .pure _) (.pure _)

theorem agrees_leadingHyphens {fuel fuel' n : Nat} (enough : Enough n fuel fuel') :
    Agrees Reached n (leadingHyphens fuel) (leadingHyphens fuel') := by
  induction enough with
  | zero => exact .zero (shrinks_leadingHyphens _) (shrinks_leadingHyphens _)
  | succ _ ih =>
      exact .here fun c => .ite
        (fun _ => .bumpSpace_of_late (fun _ _ => Past.reached) (ih.bind fun _ => .pure _))
        fun _ => .of_reached (.pure _)

theorem begins_openSet : Begins Reached openSet := by
  have hyphens : ∀ (n : Nat) (negated : Bool),
      let m : Reader (Bool × List ClassItem) := do
        let hyphens ← leadingHyphens ((← get).rest.length + 1)
        if hyphens.isEmpty && (← here) = ']' then
          bumpSpace
          return (negated, [.char ']' .plain])
        else return (negated, hyphens)
      Agrees Reached n m m := fun n negated =>
    .get fun r => (agrees_leadingHyphens .length).bind fun hyphens => .here fun c =>
      .ite (fun _ => .bumpSpace_of_late (fun _ _ => Past.reached) (.pure _))
        fun _ => .of_reached (.pure _)
  refine .bumpSpace fun n => .here fun c => .ite (fun _ => ?_) fun _ => .of_reached (hyphens n _)
  exact .bumpSpace_of_late (fun _ _ => Past.reached) (hyphens _ _)

/-- Nothing of the closing ends a set. -/
theorem setBody_of_reached {fuel : Nat} {pending : Option (ClassSet × SetOperator)}
    {items : List ClassItem} (hr : r.rest <:+ closing) : setBody fuel pending items r = none := by
  have ends : ∀ {fuel items v ns}, setBody fuel pending items ⟨[], v, ns⟩ = none := by
    rintro (_ | fuel) items (_ | _) ns <;> rfl
  have dollar : ∀ {fuel items v ns}, setBody fuel pending items ⟨['$'], v, ns⟩ = none := by
    rintro (_ | fuel) items (_ | _) ns <;> rfl
  obtain ⟨cs, v, ns⟩ := r
  rcases List.suffix_cons_iff.mp hr with rfl | hr
  · rcases fuel with _ | fuel
    · rfl
    · have item : setBody (fuel + 1) pending items ⟨closing, v, ns⟩ =
          setBody fuel pending (items ++ [.char ')' .plain]) ⟨['$'], v, ns⟩ := by
        cases v <;> rfl
      exact item.trans dollar
  · rcases List.suffix_cons_iff.mp hr with rfl | hr
    · exact dollar
    · cases List.suffix_nil.mp hr
      exact ends

theorem shrinks_setBody (fuel : Nat) (pending : Option (ClassSet × SetOperator))
    (items : List ClassItem) : Shrinks (setBody fuel pending items) := by
  induction fuel generalizing pending items with
  | zero => exact .failure
  | succ fuel ih =>
      rw [setBody_succ]
      refine shrinks_space.bind fun _ => shrinks_here.bind fun c =>
        .ite (shrinks_bump.bind fun _ => .pure _) (.ite ?_ ?_)
      · exact .taking cuts_asciiClass? (fun _ => ih _ _)
          (begins_openSet.shrinks.bind fun _ => (ih _ _).bind fun _ => ih _ _)
      · exact .taking cuts_operator? (fun _ => ih _ _)
          ((agrees_setRange (n := 0)).shrinks.1.bind fun _ => ih _ _)

theorem agrees_setBody {fuel fuel' n : Nat} (enough : Enough n fuel fuel')
    (pending : Option (ClassSet × SetOperator)) (items : List ClassItem) :
    Agrees Past n (setBody fuel pending items) (setBody fuel' pending items) := by
  induction enough generalizing pending items with
  | zero => exact .zero (shrinks_setBody _ _ _) (shrinks_setBody _ _ _)
  | succ _ ih =>
      rw [setBody_succ, setBody_succ]
      refine .space (.here fun c => .ite (fun _ => .bump (.pure _)) fun _ => .ite (fun _ => ?_)
        fun _ => ?_)
      · refine .taking cuts_asciiClass? (fun _ => ih _ _) ?_
        refine begins_openSet.seq_of_late (fun _ => (ih _ _).bind fun _ => ih _ _) ?_
        rintro ⟨negated, first⟩ r₁ hr b r₂ h
        cases (bind_of_none (setBody_of_reached hr)).symm.trans h
      · refine .taking cuts_operator? (fun _ => ih _ _) (.of ?_ fun _ _ => rfl)
        refine agrees_setRange.bind_of_takes takes_setRange (fun _ => ih _ _) ?_
        rintro item r₁ hr b r₂ h
        cases (setBody_of_reached hr).symm.trans h

theorem begins_bracket : Begins Past bracket := by
  refine begins_openSet.bind_of_late (fun n opened => .get fun r => ?_) ?_
  · exact (agrees_setBody .length _ _).bind fun _ => .pure _
  · rintro ⟨negated, first⟩ r₁ hr e r₂ h
    obtain ⟨r', _, hget, h⟩ := bind_eq_some.mp h
    cases hget
    obtain ⟨body, _, h, -⟩ := bind_eq_some.mp h
    cases (setBody_of_reached hr).symm.trans h

end Reader

end TypeSchema.Regex
