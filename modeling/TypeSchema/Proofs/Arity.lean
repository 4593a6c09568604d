/-
# Arity — shorthand texts

The shorthand of an arity is one of three marks, or bounds in braces
(`text_cases`).  There are no blanks in it that reading would cut off, and the
bounds are numerals of 32 bits, so the arity is what it reads as
(`ofChars_text`).

Texts that spell bounds are given by rules (`Spells`): a mark, or bounds in
braces, with blanks in between and around, signs and zeros in front of numerals,
and bounds written out that a mark stands for.  What is read is what is spelled
(`ofChars_eq_ok_iff`), and no spelling is shorter than the shorthand
(`Spells.length_text_le`).
-/
import TypeSchema.Proofs.Steps
import TypeSchema.Proofs.Text.Cutting
import TypeSchema.Proofs.Text.Numeral

namespace TypeSchema.Arity

open Text (isBlank trim Padded trim_of_not_blank span_append)

/-- Braces, commas and digits. -/
def IsShorthandChar (c : Char) : Prop := c = '{' ∨ c = ',' ∨ c = '}' ∨ c.isDigit

theorem IsShorthandChar.not_blank {c : Char} (h : IsShorthandChar c) : isBlank c = false := by
  rcases h with rfl | rfl | rfl | h
  · decide
  · decide
  · decide
  · have range : 48 ≤ c.toNat ∧ c.toNat ≤ 57 := by
      simpa [Char.isDigit, UInt32.le_iff_toNat_le] using h
    simp [isBlank]
    omega

theorem isShorthandChar_of_mem_digits {n : Nat} :
    ∀ c ∈ Numeral.digits n, IsShorthandChar c :=
  fun _ hc => .inr (.inr (.inr (Numeral.isDigit_of_mem_digits hc)))

/-! ## Bounds -/

theorem readBound_digits (n : UInt32) : readBound (Numeral.digits n.toNat) = .ok n := by
  have fits : n.toNat ≤ Numeral.max32 := Nat.le_of_lt_succ n.toNat_lt
  rw [readBound, trim_of_not_blank fun c hc => (isShorthandChar_of_mem_digits c hc).not_blank,
    Numeral.readNat_digits fits]
  simp

/-- What is written between the braces for two bounds. -/
def inner (min : UInt32) (max : Option UInt32) : List Char :=
  match max with
  | none => Numeral.digits min.toNat ++ [',']
  | some max =>
    if min = max then Numeral.digits min.toNat
    else Numeral.digits min.toNat ++ ',' :: Numeral.digits max.toNat

theorem span_digits (n : Nat) (rest : List Char) (h : ∀ c ∈ rest.head?, c = ',') :
    (Numeral.digits n ++ rest).span (· ≠ ',') = (Numeral.digits n, rest) := by
  refine span_append (fun c hc => decide_eq_true ?_) fun c hc =>
    decide_eq_false (not_not.mpr (h c hc))
  rintro rfl
  exact absurd (Numeral.isDigit_of_mem_digits hc) (by decide)

theorem readBounds_inner (min : UInt32) (max : Option UInt32) :
    readBounds (inner min max) = .ok (min, max) := by
  unfold readBounds
  cases max with
  | none =>
      simp only [inner, span_digits _ [','] (by simp), readBound_digits]
      rfl
  | some max =>
      by_cases same : min = max
      · have alone := span_digits min.toNat [] nofun
        rw [List.append_nil] at alone
        simp only [inner, if_pos same, alone, readBound_digits]
        rw [same]
        rfl
      · have visible : trim (Numeral.digits max.toNat) = Numeral.digits max.toNat :=
          trim_of_not_blank fun c hc => (isShorthandChar_of_mem_digits c hc).not_blank
        simp only [inner, if_neg same, span_digits _ (',' :: _) (by simp), readBound_digits,
          visible, Numeral.digits_ne_nil, if_false]
        rfl

theorem isShorthandChar_of_mem_inner {min : UInt32} {max : Option UInt32} :
    ∀ c ∈ inner min max, IsShorthandChar c := by
  have comma : ∀ cs : List Char, (∀ c ∈ cs, IsShorthandChar c) →
      ∀ c ∈ ',' :: cs, IsShorthandChar c :=
    fun cs h => List.forall_mem_cons.mpr ⟨.inr (.inl rfl), h⟩
  unfold inner
  split
  · exact List.forall_mem_append.mpr
      ⟨isShorthandChar_of_mem_digits, comma _ (List.forall_mem_nil _)⟩
  · split
    · exact isShorthandChar_of_mem_digits
    · exact List.forall_mem_append.mpr
        ⟨isShorthandChar_of_mem_digits, comma _ isShorthandChar_of_mem_digits⟩

/-! ## Texts -/

/-- The bounds of an arity are in order and leave room. -/
theorem ofBounds_self (a : Arity) : ofBounds a.min a.max = .ok a := by
  obtain ⟨min, max, ordered⟩ := a
  unfold ofBounds
  cases max with
  | none => rfl
  | some max =>
      obtain ⟨hle, hpos⟩ := ordered max rfl
      have zero : max ≠ 0 := by
        rintro rfl
        exact absurd hpos (by decide)
      simp only [dif_neg zero, dif_neg (UInt32.not_lt.mpr hle)]

theorem unbraced_eq_some_iff {cs inner : List Char} :
    unbraced cs = some inner ↔ cs = '{' :: (inner ++ ['}']) := by
  constructor
  · intro h
    unfold unbraced at h
    split at h
    · rename_i rest
      split at h
      · rename_i reversed back
        cases h
        rw [← List.reverse_cons, ← back, List.reverse_reverse]
      · cases h
    · cases h
  · rintro rfl
    simp [unbraced]

/-- What stands in braces is read as bounds, with blanks around or without. -/
theorem ofChars_of_braced {bounds cs : List Char}
    (h : Padded ('{' :: (bounds ++ ['}'])) cs) :
    ofChars cs = readBounds bounds >>= fun (min, max) => ofBounds min max := by
  have last : ∀ c ∈ ('{' :: (bounds ++ ['}'])).getLast?, isBlank c = false := by
    intro c hc
    rw [← List.cons_append, List.getLast?_concat] at hc
    cases hc
    rfl
  have first : ∀ c ∈ ('{' :: (bounds ++ ['}'])).head?, isBlank c = false := by
    intro c hc
    cases hc
    rfl
  unfold ofChars
  rw [h.trim_eq (List.cons_ne_nil _ _) first last]
  split
  case h_4 => rw [unbraced_eq_some_iff.mpr rfl]
  all_goals
    rename_i same
    exact absurd (List.cons.inj same).1 (by decide)

/-- Bounds that no mark stands for are written in braces. -/
theorem toList_boundsText (min : UInt32) (max : Option UInt32) (apart : max ≠ some min) :
    (boundsText min max).toList = '{' :: (inner min max ++ ['}']) := by
  cases max with
  | none => simp [boundsText, inner, Numeral.toList_ofNat]
  | some max =>
      have other : min ≠ max := fun same => apart (by rw [same])
      simp [boundsText, inner, Numeral.toList_ofNat, other]

/-- Three arities have marks, and the others are written in braces. -/
theorem text_cases (a : Arity) :
    a = optional ∧ a.text.toList = ['?'] ∨ a = zeroOrMore ∧ a.text.toList = ['*'] ∨
      a = oneOrMore ∧ a.text.toList = ['+'] ∨
      a.text.toList = '{' :: (inner a.min a.max ++ ['}']) := by
  obtain ⟨min, max, ordered⟩ := a
  unfold text
  split
  case h_4 hmax _ =>
    simp only at hmax ⊢
    subst hmax
    refine .inr (.inr (.inr ?_))
    split
    · rename_i same
      simp [same, inner, Numeral.toList_ofNat]
    · rename_i other
      exact toList_boundsText min _ fun same => other (Option.some.inj same).symm
  case h_5 hmax _ _ =>
    simp only at hmax ⊢
    subst hmax
    exact .inr (.inr (.inr (toList_boundsText min none nofun)))
  all_goals
    rename_i hmin hmax
    simp only at hmin hmax
    subst hmin hmax
  · exact .inl ⟨rfl, rfl⟩
  · exact .inr (.inl ⟨rfl, rfl⟩)
  · exact .inr (.inr (.inl ⟨rfl, rfl⟩))

/-- Every arity is what its shorthand text is read as. -/
theorem ofChars_text (a : Arity) : ofChars a.text.toList = .ok a := by
  rcases text_cases a with ⟨rfl, _⟩ | ⟨rfl, _⟩ | ⟨rfl, _⟩ | braced
  · rfl
  · rfl
  · rfl
  · rw [braced, ofChars_of_braced (Text.padded_self _), readBounds_inner]
    exact ofBounds_self a

/-! ## Ends of texts -/

/-- A shorthand text consists of marks, braces, commas and digits. -/
theorem of_mem_text {a : Arity} {c : Char} (h : c ∈ a.text.toList) :
    c = '?' ∨ c = '*' ∨ c = '+' ∨ IsShorthandChar c := by
  rcases text_cases a with ⟨_, mark⟩ | ⟨_, mark⟩ | ⟨_, mark⟩ | braced
  · exact .inl (List.mem_singleton.mp (mark ▸ h))
  · exact .inr (.inl (List.mem_singleton.mp (mark ▸ h)))
  · exact .inr (.inr (.inl (List.mem_singleton.mp (mark ▸ h))))
  · rw [braced] at h
    refine .inr (.inr (.inr ?_))
    rcases List.mem_cons.mp h with rfl | h
    · exact .inl rfl
    · rcases List.mem_append.mp h with h | h
      · exact isShorthandChar_of_mem_inner c h
      · exact .inr (.inr (.inl (List.mem_singleton.mp h)))

theorem not_isBlank_of_mem_text {a : Arity} {c : Char} (h : c ∈ a.text.toList) :
    isBlank c = false := by
  rcases of_mem_text h with rfl | rfl | rfl | h
  · rfl
  · rfl
  · rfl
  · exact h.not_blank

theorem unbraced_concat {cs : List Char} {c : Char} (h : c ≠ '}') :
    unbraced (cs ++ [c]) = none := by
  unfold unbraced
  split
  · rename_i rest same
    cases cs with
    | nil =>
        cases same
        rfl
    | cons d ds =>
        obtain rfl : ds ++ [c] = rest := (List.cons.inj same).2
        simp [h]
  · rfl

/-- What ends neither in a mark nor in a closing brace is no shorthand. -/
theorem ofChars_concat {cs : List Char} {c : Char} (visible : isBlank c = false)
    (other : c ∉ ['?', '*', '+', '}']) : ofChars (cs ++ [c]) = .error .shape := by
  have front : Text.trimLeft (cs ++ [c]) = cs.dropWhile isBlank ++ [c] := by
    rw [Text.trimLeft, List.dropWhile_append]
    split
    · rename_i none
      rw [List.isEmpty_iff.mp none, List.dropWhile_cons_of_neg (by simp [visible])]
      rfl
    · rfl
  have cut : trim (cs ++ [c]) = cs.dropWhile isBlank ++ [c] := by
    rw [trim, front, Text.trimRight, List.reverse_append, List.reverse_singleton,
      List.singleton_append, List.dropWhile_cons_of_neg (by simp [visible]), List.reverse_cons,
      List.reverse_reverse]
  have mark : ∀ d ∈ ['?', '*', '+', '}'], cs.dropWhile isBlank ++ [c] ≠ [d] := by
    intro d hd same
    obtain rfl : c = d := by simpa using congrArg List.getLast? same
    exact other hd
  have unbraced : unbraced (cs.dropWhile isBlank ++ [c]) = none :=
    unbraced_concat fun same => other (by simp [same])
  rw [ofChars, cut]
  split
  · rename_i same
    exact absurd same (mark _ (by simp))
  · rename_i same
    exact absurd same (mark _ (by simp))
  · rename_i same
    exact absurd same (mark _ (by simp))
  · rw [unbraced]

/-! ## Spellings of bounds -/

/-- The bounds are in order and leave room for an item. -/
def InOrder (min : UInt32) (max : Option UInt32) : Prop := ∀ m, max = some m → min ≤ m ∧ 1 ≤ m

/-- Bounds make the arity that has them. -/
theorem ofBounds_eq_ok_iff {min : UInt32} {max : Option UInt32} {a : Arity} :
    ofBounds min max = .ok a ↔ a.min = min ∧ a.max = max := by
  constructor
  · intro h
    unfold ofBounds at h
    split at h
    · cases h
      exact ⟨rfl, rfl⟩
    · split at h
      · cases h
      · split at h
        · cases h
        · cases h
          exact ⟨rfl, rfl⟩
  · rintro ⟨rfl, rfl⟩
    exact ofBounds_self a

/-- The text of one bound: digits, perhaps with a plus sign, and blanks around. -/
inductive IsBound (n : UInt32) (cs : List Char) : Prop
  | mk {core ds : List Char} : Numeral.IsWorth n.toNat ds → core = ds ∨ core = '+' :: ds →
      Padded core cs → IsBound n cs

/-- The text of two bounds, of which both may be given by one, and the greater
one may be left out. -/
inductive AreBounds : UInt32 → Option UInt32 → List Char → Prop
  | exactly {n : UInt32} {cs : List Char} : IsBound n cs → AreBounds n (some n) cs
  | atLeast {n : UInt32} {low high : List Char} : IsBound n low →
      (∀ c ∈ high, isBlank c = true) → AreBounds n none (low ++ ',' :: high)
  | between {n m : UInt32} {low high : List Char} : IsBound n low → IsBound m high →
      AreBounds n (some m) (low ++ ',' :: high)

/-- The text spells bounds, which need not be in order. -/
inductive Spells : UInt32 → Option UInt32 → List Char → Prop
  | optional {cs : List Char} : Padded ['?'] cs → Spells 0 (some 1) cs
  | zeroOrMore {cs : List Char} : Padded ['*'] cs → Spells 0 none cs
  | oneOrMore {cs : List Char} : Padded ['+'] cs → Spells 1 none cs
  | braced {min : UInt32} {max : Option UInt32} {bounds cs : List Char} :
      AreBounds min max bounds → Padded ('{' :: (bounds ++ ['}'])) cs → Spells min max cs

section Bounds

variable {n min : UInt32} {max : Option UInt32} {cs : List Char}

theorem IsBound.length_digits_le (h : IsBound n cs) :
    (Numeral.digits n.toNat).length ≤ cs.length := by
  obtain ⟨worth, core, padded⟩ := h
  rcases core with rfl | rfl
  · exact worth.length_digits_le.trans padded.length_le
  · exact (worth.length_digits_le.trans (Nat.le_succ _)).trans padded.length_le

/-- Digits and a sign are no blanks and no commas. -/
theorem core_cases {n : Nat} {core ds : List Char} (worth : Numeral.IsWorth n ds)
    (h : core = ds ∨ core = '+' :: ds) :
    core ≠ [] ∧ ∀ c ∈ core, isBlank c = false ∧ c ≠ ',' := by
  have digits : ∀ c ∈ ds, isBlank c = false ∧ c ≠ ',' := by
    intro c hc
    have digit := worth.digits c hc
    refine ⟨IsShorthandChar.not_blank (.inr (.inr (.inr digit))), ?_⟩
    rintro rfl
    cases digit
  rcases h with rfl | rfl
  · exact ⟨worth.some, digits⟩
  · exact ⟨List.cons_ne_nil _ _, List.forall_mem_cons.mpr ⟨⟨rfl, by decide⟩, digits⟩⟩

theorem IsBound.not_comma (h : IsBound n cs) : ',' ∉ cs := by
  obtain ⟨worth, core, padded⟩ := h
  intro hc
  rcases padded.mem_cases hc with hc | blank
  · exact ((core_cases worth core).2 _ hc).2 rfl
  · cases blank

/-- A bound is read from its texts. -/
theorem readBound_eq_ok_iff : readBound cs = .ok n ↔ IsBound n cs := by
  constructor
  · intro h
    unfold readBound at h
    split at h
    · rename_i m read
      obtain ⟨fits, ds, worth, core⟩ := Numeral.readNat_eq_ok_iff.mp read
      cases h
      have : m.toUInt32.toNat = m := UInt32.toNat_ofNat_of_lt' (Nat.lt_succ_of_le fits)
      exact .mk (this.symm ▸ worth) core (Text.padded_trim cs)
    · cases h
  · rintro ⟨worth, core, padded⟩
    obtain ⟨some, visible⟩ := core_cases worth core
    have fits : n.toNat ≤ Numeral.max32 := Nat.le_of_lt_succ n.toNat_lt
    have cut := padded.trim_eq some (fun c hc => (visible c (List.mem_of_mem_head? hc)).1)
      fun c hc => (visible c (List.mem_of_mem_getLast? hc)).1
    rw [readBound, cut, Numeral.readNat_eq_ok_iff.mpr ⟨fits, _, worth, core⟩]
    simp

theorem IsBound.trim_ne_nil (h : IsBound n cs) : trim cs ≠ [] := by
  obtain ⟨worth, core, padded⟩ := h
  obtain ⟨some, visible⟩ := core_cases worth core
  rw [padded.trim_eq some (fun c hc => (visible c (List.mem_of_mem_head? hc)).1)
    fun c hc => (visible c (List.mem_of_mem_getLast? hc)).1]
  exact some

/-- Where there is no comma, there is one bound. -/
theorem readBounds_of_not_mem (h : ',' ∉ cs) :
    readBounds cs = readBound cs >>= fun n => .ok (n, some n) := by
  have alone : cs.span (· ≠ ',') = (cs, []) := by
    have alone : (cs ++ []).span (· ≠ ',') = (cs, []) :=
      span_append (fun c hc => decide_eq_true (ne_of_mem_of_not_mem hc h)) nofun
    rwa [List.append_nil] at alone
  simp only [readBounds, alone]
  rfl

/-- The first comma parts two bounds. -/
theorem readBounds_append_cons {low high : List Char} (h : ',' ∉ low) :
    readBounds (low ++ ',' :: high) = readBound low >>= fun n =>
      if trim high = [] then .ok (n, none) else readBound high >>= fun m => .ok (n, some m) := by
  have parted : (low ++ ',' :: high).span (· ≠ ',') = (low, ',' :: high) :=
    span_append (fun c hc => decide_eq_true (ne_of_mem_of_not_mem hc h)) fun c hc =>
      decide_eq_false (not_not.mpr (Option.some.inj hc).symm)
  simp only [readBounds, parted]
  rfl

/-- Two bounds are read from their texts. -/
theorem readBounds_eq_ok_iff : readBounds cs = .ok (min, max) ↔ AreBounds min max cs := by
  constructor
  · intro h
    by_cases comma : ',' ∈ cs
    · obtain ⟨low, high, rfl, first⟩ := List.eq_append_cons_of_mem comma
      rw [readBounds_append_cons first] at h
      obtain ⟨n, hlow, h⟩ := Steps.except_bind_eq_ok.mp h
      split at h
      · rename_i blank
        cases h
        exact .atLeast (readBound_eq_ok_iff.mp hlow) (Text.trim_eq_nil_iff.mp blank)
      · obtain ⟨m, hhigh, h⟩ := Steps.except_bind_eq_ok.mp h
        cases h
        exact .between (readBound_eq_ok_iff.mp hlow) (readBound_eq_ok_iff.mp hhigh)
    · rw [readBounds_of_not_mem comma] at h
      obtain ⟨n, hread, h⟩ := Steps.except_bind_eq_ok.mp h
      cases h
      exact .exactly (readBound_eq_ok_iff.mp hread)
  · intro h
    cases h with
    | exactly bound =>
        rw [readBounds_of_not_mem bound.not_comma, readBound_eq_ok_iff.mpr bound]
        rfl
    | atLeast low blank =>
        rw [readBounds_append_cons low.not_comma, readBound_eq_ok_iff.mpr low]
        exact if_pos (Text.trim_eq_nil_iff.mpr blank)
    | between low high =>
        rw [readBounds_append_cons low.not_comma, readBound_eq_ok_iff.mpr low,
          readBound_eq_ok_iff.mpr high]
        exact if_neg high.trim_ne_nil

/-- No text of two bounds is shorter than what is written for them. -/
theorem AreBounds.length_inner_le (h : AreBounds min max cs) :
    (inner min max).length ≤ cs.length := by
  cases h with
  | exactly bound =>
      rw [inner, if_pos rfl]
      exact bound.length_digits_le
  | atLeast low _ =>
      have := low.length_digits_le
      simp only [inner, List.length_append, List.length_cons, List.length_nil]
      omega
  | between low high =>
      have hlow := low.length_digits_le
      have hhigh := high.length_digits_le
      rw [inner]
      split
      · rw [List.length_append]
        omega
      · simp only [List.length_append, List.length_cons]
        omega

end Bounds

/-! ## Spellings of arities -/

section Spellings

variable {a : Arity} {cs : List Char}

/-- A spelling of bounds is read as the arity they make, if they make one. -/
theorem Spells.ofChars_eq {min : UInt32} {max : Option UInt32} (h : Spells min max cs) :
    ofChars cs = ofBounds min max := by
  have mark : ∀ {c : Char}, isBlank c = false → Padded [c] cs → trim cs = [c] :=
    fun visible padded => padded.trim_eq (List.cons_ne_nil _ _)
      (fun d hd => Option.some.inj hd ▸ visible) fun d hd => Option.some.inj hd ▸ visible
  cases h with
  | optional padded =>
      rw [ofChars, mark rfl padded]
      rfl
  | zeroOrMore padded =>
      rw [ofChars, mark rfl padded]
      rfl
  | oneOrMore padded =>
      rw [ofChars, mark rfl padded]
      rfl
  | braced bounds padded =>
      rw [ofChars_of_braced padded, readBounds_eq_ok_iff.mpr bounds]
      rfl

/-- An arity is read from the spellings of its bounds, and from no other text. -/
theorem ofChars_eq_ok_iff : ofChars cs = .ok a ↔ Spells a.min a.max cs := by
  constructor
  · intro h
    have padded := Text.padded_trim cs
    unfold ofChars at h
    split at h
    · rename_i mark
      cases h
      exact .optional (mark ▸ padded)
    · rename_i mark
      cases h
      exact .zeroOrMore (mark ▸ padded)
    · rename_i mark
      cases h
      exact .oneOrMore (mark ▸ padded)
    · split at h
      · cases h
      · rename_i bounds braces
        obtain ⟨⟨min, max⟩, read, h⟩ := Steps.except_bind_eq_ok.mp h
        obtain ⟨rfl, rfl⟩ := ofBounds_eq_ok_iff.mp h
        exact .braced (readBounds_eq_ok_iff.mp read) (unbraced_eq_some_iff.mp braces ▸ padded)
  · intro h
    rw [h.ofChars_eq]
    exact ofBounds_self a

/-- No spelling of the bounds of an arity is shorter than its shorthand. -/
theorem Spells.length_text_le (h : Spells a.min a.max cs) : a.text.length ≤ cs.length := by
  generalize hmin : a.min = min, hmax : a.max = max at h
  have made : ofBounds min max = .ok a := ofBounds_eq_ok_iff.mpr ⟨hmin, hmax⟩
  rw [← String.length_toList]
  cases h with
  | optional padded =>
      cases made
      exact padded.length_le
  | zeroOrMore padded =>
      cases made
      exact padded.length_le
  | oneOrMore padded =>
      cases made
      exact padded.length_le
  | braced bounds padded =>
      have hinner := bounds.length_inner_le
      have hcs := padded.length_le
      simp only [List.length_cons, List.length_append, List.length_nil] at hcs
      have mark : ∀ {c : Char}, a.text.toList = [c] → a.text.toList.length ≤ cs.length := by
        intro c mark
        rw [mark, List.length_singleton]
        omega
      rcases text_cases a with ⟨_, h⟩ | ⟨_, h⟩ | ⟨_, h⟩ | braced
      · exact mark h
      · exact mark h
      · exact mark h
      · rw [braced, hmin, hmax]
        simp only [List.length_cons, List.length_append, List.length_nil]
        omega

/-- A shorthand has as many bytes as characters. -/
theorem utf8ByteSize_text (a : Arity) : a.text.utf8ByteSize = a.text.length := by
  refine Text.utf8ByteSize_eq_length fun c hc => ?_
  rcases of_mem_text hc with rfl | rfl | rfl | rfl | rfl | rfl | digit
  · rfl
  · rfl
  · rfl
  · rfl
  · rfl
  · rfl
  · rw [Char.utf8Size_eq_one_iff, UInt32.le_iff_toNat_le]
    have range : 48 ≤ c.toNat ∧ c.toNat ≤ 57 := by
      simpa [Char.isDigit, UInt32.le_iff_toNat_le] using digit
    exact range.2.trans (by decide)

/-- Bounds make an arity exactly if they are in order. -/
theorem checked_eq_ok_iff {min : UInt32} {max : Option UInt32} :
    checked min max = .ok a ↔ a.min = min ∧ a.max = max := by
  rw [checked, Steps.mapError_eq_ok, ofBounds_eq_ok_iff]

theorem exists_bounds_iff {min : UInt32} {max : Option UInt32} :
    (∃ a : Arity, a.min = min ∧ a.max = max) ↔ InOrder min max := by
  constructor
  · rintro ⟨a, rfl, rfl⟩
    exact a.ordered
  · intro ordered
    exact ⟨⟨min, max, ordered⟩, rfl, rfl⟩

theorem read_eq_ok_iff {t : String} {place : Location} :
    read t place = .ok a ↔ Spells a.min a.max t.toList := by
  rw [read, Steps.mapError_eq_ok, ofChars_eq_ok_iff]

theorem read_text (a : Arity) (place : Location) : read a.text place = .ok a := by
  rw [read, Steps.mapError_eq_ok]
  exact ofChars_text a

/-- An arity is made of any bounds that are in order, and is read from its
shorthand.  What is read spells bounds that are in order, and the shorthand of
these has no more characters and no more bytes.  So what has been read and
written once stays as it is. -/
theorem read_shorthand (place : Location) :
    (∀ min max, (∃ a, checked min max = .ok a) ↔ InOrder min max) ∧
      (∀ min max a, checked min max = .ok a →
        a.min = min ∧ a.max = max ∧ read a.text place = .ok a) ∧
      (∀ t min max, (∃ a, read t place = .ok a ∧ a.min = min ∧ a.max = max) ↔
        Spells min max t.toList ∧ InOrder min max) ∧
      (∀ t a, read t place = .ok a →
        a.text.length ≤ t.length ∧ a.text.utf8ByteSize ≤ t.utf8ByteSize) ∧
      ∀ t, ((read t place).map text >>= fun s => (read s place).map text) =
        (read t place).map text := by
  refine ⟨fun min max => ?_, fun min max a made => ?_, fun t min max => ⟨?_, ?_⟩,
    fun t a read => ?_, fun t => ?_⟩
  · simp only [checked_eq_ok_iff, exists_bounds_iff]
  · obtain ⟨hmin, hmax⟩ := checked_eq_ok_iff.mp made
    exact ⟨hmin, hmax, read_text a place⟩
  · rintro ⟨a, read, rfl, rfl⟩
    exact ⟨read_eq_ok_iff.mp read, a.ordered⟩
  · rintro ⟨spells, ordered⟩
    exact ⟨⟨min, max, ordered⟩, read_eq_ok_iff.mpr spells, rfl, rfl⟩
  · have shorter := (read_eq_ok_iff.mp read).length_text_le
    rw [String.length_toList] at shorter
    exact ⟨shorter, by
      rw [utf8ByteSize_text]
      exact shorter.trans (Text.length_le_utf8ByteSize t)⟩
  · cases h : read t place with
    | error e => rfl
    | ok a =>
        change (read a.text place).map text = .ok a.text
        rw [read_text]
        rfl

/-- With blanks, a sign, a zero in front and the greater bound repeated, the text
is four times as long as it has to be. -/
theorem read_shorthand_padded :
    ∃ a, read " { +02 , 2 }" .api = .ok a ∧ a.text = "\x7b2\x7d" ∧
      a.text.length ≤ " { +02 , 2 }".length := by
  refine ⟨⟨2, some 2, by simp⟩, by rfl, by rfl, ?_⟩
  exact ((read_shorthand .api).2.2.2.1 _ _ (by rfl)).1

end Spellings

end TypeSchema.Arity
