/-
# Guids — the text of a guid stands for it

The text is 32 hexadecimal digits in five groups (`toList_text`).  There is
nothing to unwrap in front of them, no character that does not belong, and
every group has its length, so they are read as the number they write
(`ofChars_text`).
-/
import Mathlib.Order.Lattice.Nat
import TypeSchema.Guid

namespace TypeSchema.Guid

/-! ## Hexadecimal digits -/

/-- A small hexadecimal digit. -/
def IsHex (c : Char) : Prop := ('0' ≤ c ∧ c ≤ '9') ∨ ('a' ≤ c ∧ c ≤ 'f')

instance (c : Char) : Decidable (IsHex c) := inferInstanceAs (Decidable (_ ∨ _))

theorem isHex_hexDigit {n : Nat} (hn : n < 16) : IsHex (hexDigit n) := by
  have all : ∀ n < 16, IsHex (hexDigit n) := by decide
  exact all n hn

theorem hexValue?_hexDigit {n : Nat} (hn : n < 16) : hexValue? (hexDigit n) = some n := by
  have all : ∀ n < 16, hexValue? (hexDigit n) = some n := by decide
  exact all n hn

theorem IsHex.hexValue? {c : Char} (h : IsHex c) : (hexValue? c).isSome := by
  unfold Guid.hexValue?
  rcases h with h | h
  · simp [h]
  · split
    · rfl
    · simp

theorem IsHex.ne {c d : Char} (h : IsHex c) (hd : ¬ IsHex d) : c ≠ d := fun hc => hd (hc ▸ h)

theorem length_hexDigits {k n : Nat} : (hexDigits k n).length = k := by
  induction k generalizing n with
  | zero => rfl
  | succ k ih => simp [hexDigits, ih]

theorem isHex_of_mem_hexDigits {k n : Nat} {c : Char} (h : c ∈ hexDigits k n) : IsHex c := by
  induction k generalizing n with
  | zero => cases h
  | succ k ih =>
      rcases List.mem_append.mp h with h | h
      · exact ih h
      · rw [List.mem_singleton.mp h]
        exact isHex_hexDigit (Nat.mod_lt _ (by decide))

theorem hexNumber_hexDigits {k n : Nat} : hexNumber (hexDigits k n) = n % 16 ^ k := by
  induction k generalizing n with
  | zero => simp [hexDigits, hexNumber, Nat.mod_one]
  | succ k ih =>
      have hread : hexNumber (hexDigits (k + 1) n) =
          16 * hexNumber (hexDigits k (n / 16)) + n % 16 := by
        simp [hexDigits, hexNumber, hexValue?_hexDigit (Nat.mod_lt n (by decide))]
      rw [hread, ih, Nat.pow_succ, Nat.mul_comm (16 ^ k) 16, Nat.mod_mul]
      omega

/-! ## Groups -/

theorem groups_of_not_mem {ds : List Char} (h : '-' ∉ ds) : groups ds = [ds] := by
  induction ds with
  | nil => rfl
  | cons d ds ih =>
      obtain ⟨hd, hds⟩ := not_or.mp (mt List.mem_cons.mpr h)
      simp [groups, ih hds, Ne.symm hd]

theorem groups_append {ds rest : List Char} (h : '-' ∉ ds) :
    groups (ds ++ '-' :: rest) = ds :: groups rest := by
  induction ds with
  | nil => simp [groups]
  | cons d ds ih =>
      obtain ⟨hd, hds⟩ := not_or.mp (mt List.mem_cons.mpr h)
      simp [groups, ih hds, Ne.symm hd]

theorem firstBad_eq_none {place : Nat} {cs : List Char} (h : ∀ c ∈ cs, c = '-' ∨ IsHex c) :
    firstBad place cs = none := by
  induction cs generalizing place with
  | nil => rfl
  | cons c cs ih =>
      have hc : c = '-' ∨ (hexValue? c).isSome :=
        (h c List.mem_cons_self).imp_right IsHex.hexValue?
      rw [firstBad, if_pos hc]
      exact ih fun d hd => h d (List.mem_cons_of_mem _ hd)

/-- There is neither a prefix nor a brace in front of a hexadecimal digit. -/
theorem unwrap_of_isHex {c : Char} {cs : List Char} (h : IsHex c) :
    unwrap (c :: cs) = (c :: cs, 0, true) := by
  have hu : c ≠ 'u' := h.ne (by decide)
  have hbrace : c ≠ '\x7b' := h.ne (by decide)
  unfold unwrap
  rw [if_neg (by simp [Ne.symm hu])]
  split
  · rename_i heq _
    exact absurd (List.cons.inj heq).1 hbrace
  · rfl

/-! ## The text -/

/-- The text is five groups of digits, and the digits are those of the
number. -/
theorem toList_text (g : Guid) : ∃ a b c d e : List Char,
    g.text.toList = a ++ '-' :: (b ++ '-' :: (c ++ '-' :: (d ++ '-' :: e))) ∧
    a.length = 8 ∧ b.length = 4 ∧ c.length = 4 ∧ d.length = 4 ∧ e.length = 12 ∧
    a ++ (b ++ (c ++ (d ++ e))) = hexDigits 32 g.bits.toNat := by
  have hlength : (hexDigits 32 g.bits.toNat).length = 32 := length_hexDigits
  refine ⟨_, _, _, _, _, String.toList_ofList.trans (by simp only [List.append_assoc]; rfl),
    ?_, ?_, ?_, ?_, ?_, ?_⟩
  · simp [hlength]
  · simp [hlength]
  · simp [hlength]
  · simp [hlength]
  · simp [hlength]
  · generalize hexDigits 32 g.bits.toNat = ds
    rw [show ds.drop 20 = (ds.drop 16).drop 4 by simp, List.take_append_drop,
      show ds.drop 16 = (ds.drop 12).drop 4 by simp, List.take_append_drop,
      show ds.drop 12 = (ds.drop 8).drop 4 by simp, List.take_append_drop,
      List.take_append_drop]

theorem ofChars_text (g : Guid) : ofChars g.text.toList = .ok g := by
  obtain ⟨a, b, c, d, e, htext, ha, hb, hc, hd, he, hdigits⟩ := toList_text g
  have hex : ∀ x ∈ a ++ (b ++ (c ++ (d ++ e))), IsHex x :=
    fun x hx => isHex_of_mem_hexDigits (hdigits ▸ hx)
  simp only [List.mem_append] at hex
  have noHyphen : ∀ ds : List Char, (∀ x ∈ ds, IsHex x) → '-' ∉ ds :=
    fun ds hds hmem => absurd (hds _ hmem) (by decide)
  have hgroups : groups g.text.toList = [a, b, c, d, e] := by
    rw [htext, groups_append (noHyphen a fun x hx => hex x (by simp [hx])),
      groups_append (noHyphen b fun x hx => hex x (by simp [hx])),
      groups_append (noHyphen c fun x hx => hex x (by simp [hx])),
      groups_append (noHyphen d fun x hx => hex x (by simp [hx])),
      groups_of_not_mem (noHyphen e fun x hx => hex x (by simp [hx]))]
  have hbad : firstBad (0 + 1) g.text.toList = none := by
    refine firstBad_eq_none fun x hx => ?_
    rw [htext] at hx
    simp only [List.mem_append, List.mem_cons] at hx
    rcases hx with hx | rfl | hx | rfl | hx | rfl | hx | rfl | hx
    all_goals first | exact .inl rfl | exact .inr (hex x (by simp [hx]))
  have hunwrap : unwrap g.text.toList = (g.text.toList, 0, true) := by
    rw [htext]
    cases a with
    | nil => cases ha
    | cons x a => exact unwrap_of_isHex (hex x (by simp))
  have hvalue : ofDigits (a ++ (b ++ (c ++ (d ++ e)))) = g := by
    rw [ofDigits, hdigits, hexNumber_hexDigits, Nat.mod_eq_of_lt (by simpa using g.bits.isLt)]
    simp
  unfold ofChars
  simp only [hunwrap, hbad, hgroups]
  simp [groupLengths, firstWrongLength, ha, hb, hc, hd, he, hvalue]

end TypeSchema.Guid
