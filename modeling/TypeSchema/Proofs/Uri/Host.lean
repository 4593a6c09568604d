/-
# Host — hosts are visible, and so is whatever is encoded

A character that is neither a control character nor beyond ASCII is visible or a
space (`isVisible_or_space`).  Encoding leaves no others, and no spaces either
where they are unsafe (`isVisible_of_mem_encode`).  A host is put together from
bytes or words, or it is a name that holds nothing of what a host cannot hold,
spaces among it (`isVisible_of_namedHost`, `isVisible_of_opaqueHost`).
-/
import TypeSchema.Proofs.Steps
import TypeSchema.Proofs.Text.Numeral
import TypeSchema.Uri.Host

namespace TypeSchema.Uri

open Steps

/-! ## Visible characters -/

/-- A character of ASCII that is no control character and no space. -/
def IsVisible (c : Char) : Prop := 0x21 ≤ c.toNat ∧ c.toNat ≤ 0x7E

instance (c : Char) : Decidable (IsVisible c) := inferInstanceAs (Decidable (_ ∧ _))

variable {c : Char} {cs : List Char}

theorem isAlpha_iff : c.isAlpha ↔
    (0x41 ≤ c.toNat ∧ c.toNat ≤ 0x5A) ∨ (0x61 ≤ c.toNat ∧ c.toNat ≤ 0x7A) := by
  have upper : c.isUpper ↔ 0x41 ≤ c.toNat ∧ c.toNat ≤ 0x5A := decide_eq_true_iff
  have lower : c.isLower ↔ 0x61 ≤ c.toNat ∧ c.toNat ≤ 0x7A :=
    Bool.and_eq_true_iff.trans (and_congr decide_eq_true_iff decide_eq_true_iff)
  exact Bool.or_eq_true_iff.trans (or_congr upper lower)

theorem isVisible_of_isAlphanum (h : c.isAlphanum) : IsVisible c := by
  unfold IsVisible
  rcases Bool.or_eq_true_iff.mp h with letter | digit
  · have := isAlpha_iff.mp letter
    omega
  · simp only [Char.isDigit, Bool.and_eq_true, decide_eq_true_eq, UInt32.le_iff_toNat_le] at digit
    change 0x30 ≤ c.toNat ∧ c.toNat ≤ 0x39 at digit
    omega

/-- The only character that is no control character and not visible is a space. -/
theorem isVisible_or_space (h : isControl c = false) : IsVisible c ∨ c = ' ' := by
  simp only [isControl, Bool.or_eq_false_iff, decide_eq_false_iff_not, Nat.not_lt] at h
  obtain ⟨low, high⟩ := h
  rcases Nat.eq_or_lt_of_le low with space | visible
  · exact .inr (Char.toNat_inj.mp space.symm)
  · exact .inl ⟨visible, high⟩

/-- What letters and digits of ASCII keep in small letters. -/
theorem toLower_of_isAlphanum {p : Char → Bool}
    (keep : ∀ n < 0x80, p (Char.ofNat n) → p (Char.ofNat n).toLower) (hc : c.isAlphanum)
    (h : p c) : p c.toLower := by
  have ascii : c.toNat ≤ 0x7E := (isVisible_of_isAlphanum hc).2
  have lower := keep c.toNat (by omega)
  rw [Char.ofNat_toNat] at lower
  exact lower h

theorem isVisible_of_mem_digits {n : Nat} (h : c ∈ Numeral.digits n) : IsVisible c := by
  refine isVisible_of_isAlphanum ?_
  rw [Char.isAlphanum, Numeral.isDigit_of_mem_digits h, Bool.or_true]

theorem isVisible_of_mem_toDigits {n : Nat} : ∀ c ∈ Nat.toDigits 16 n, IsVisible c := by
  have digit : ∀ d < 16, IsVisible (Nat.digitChar d) := by decide
  induction n using Nat.strongRecOn with
  | ind n ih =>
      rw [Nat.toDigits_eq_if (by decide)]
      split
      case isTrue small =>
          rw [List.forall_mem_singleton]
          exact digit n small
      case isFalse large =>
          rw [List.forall_mem_append, List.forall_mem_singleton]
          exact ⟨ih (n / 16) (Nat.div_lt_self (by omega) (by decide)),
            digit (n % 16) (Nat.mod_lt n (by decide))⟩

/-! ## Encoded characters -/

theorem isVisible_of_mem_encodeBytes {a : Char} (h : c ∈ encodeBytes a) : IsVisible c := by
  have digit : ∀ d < 16, IsVisible (hexDigit d) := by decide
  obtain ⟨b, -, h⟩ := List.mem_flatMap.mp h
  have hb : b.toNat < 256 := b.toNat_lt
  simp only [List.mem_cons, List.not_mem_nil, or_false] at h
  rcases h with rfl | rfl | rfl
  · decide
  · exact digit _ (by omega)
  · exact digit _ (by omega)

/-- Every character has bytes. -/
theorem toUTF8_ne_nil (a : Char) : (String.ofList [a]).toUTF8.toList ≠ [] := by
  have size : 0 < (String.ofList [a]).toUTF8.size := by
    simp [List.utf8Encode, Char.utf8Size_pos]
  have grows : ∀ (bs : ByteArray) i r, r ≠ [] → ByteArray.toList.loop bs i r ≠ [] := by
    intro bs i r hr
    fun_induction ByteArray.toList.loop bs i r with
    | case1 i r hi ih => exact ih (List.cons_ne_nil _ _)
    | case2 i r hi => exact fun h => hr (List.reverse_eq_nil_iff.mp h)
  rw [ByteArray.toList, ByteArray.toList.loop, if_pos size]
  exact grows _ _ _ (List.cons_ne_nil _ _)

/-- Encoding brings no slash to the front. -/
theorem head?_encode_ne {unsafeChars : List Char} (h : cs.head? ≠ some '/') :
    (encode unsafeChars cs).head? ≠ some '/' := by
  cases cs with
  | nil => nofun
  | cons a as =>
      rw [encode, List.flatMap_cons]
      split
      case isTrue =>
          obtain ⟨b, bs, hb⟩ := List.exists_cons_of_ne_nil (toUTF8_ne_nil a)
          rw [encodeBytes, hb]
          nofun
      case isFalse => exact h

/-- All that encoding leaves invisible is a space that counts as safe. -/
theorem mem_encode {unsafeChars : List Char} (h : c ∈ encode unsafeChars cs) :
    IsVisible c ∨ c = ' ' ∧ ' ' ∈ cs ∧ ' ' ∉ unsafeChars := by
  obtain ⟨a, ha, h⟩ := List.mem_flatMap.mp h
  split at h
  case isTrue => exact .inl (isVisible_of_mem_encodeBytes h)
  case isFalse safe =>
      obtain rfl := List.mem_singleton.mp h
      simp only [Bool.or_eq_true, not_or, Bool.not_eq_true, List.contains_iff_mem] at safe
      refine (isVisible_or_space safe.1).imp_right ?_
      rintro rfl
      exact ⟨rfl, ha, safe.2⟩

/-- Where spaces are unsafe, or there are none, everything is visible. -/
theorem isVisible_of_mem_encode {unsafeChars : List Char} (spaces : ' ' ∈ unsafeChars ∨ ' ' ∉ cs) :
    ∀ c ∈ encode unsafeChars cs, IsVisible c := by
  intro c h
  refine (mem_encode h).resolve_right ?_
  rintro ⟨-, there, safe⟩
  rcases spaces with h | h
  · exact safe h
  · exact h there

/-! ## Hosts -/

theorem isVisible_wordsText {words : List Nat} : ∀ c ∈ wordsText words, IsVisible c := by
  induction words with
  | nil => exact List.forall_mem_nil _
  | cons w rest ih =>
      cases rest with
      | nil => exact isVisible_of_mem_toDigits
      | cons w' rest =>
          rw [wordsText, List.forall_mem_append, List.forall_mem_cons]
          · exact ⟨isVisible_of_mem_toDigits, by decide, ih⟩
          · nofun

theorem isVisible_address6Text {words : List Nat} : ∀ c ∈ address6Text words, IsVisible c := by
  have colon : IsVisible ':' := by decide
  simp only [address6Text, List.cons_append, List.forall_mem_cons, List.forall_mem_append]
  refine ⟨by decide, ?_, by decide, List.forall_mem_nil _⟩
  split
  case h_1 =>
      simp only [List.forall_mem_append, List.forall_mem_cons]
      exact ⟨⟨isVisible_wordsText, colon, colon, List.forall_mem_nil _⟩, isVisible_wordsText⟩
  case h_2 => exact isVisible_wordsText

theorem isVisible_address4Text {n : Nat} : ∀ c ∈ address4Text n, IsVisible c := by
  have dot : IsVisible '.' := by decide
  simp only [address4Text, List.forall_mem_append, List.forall_mem_cons]
  exact ⟨⟨⟨fun c => isVisible_of_mem_digits, dot, fun c => isVisible_of_mem_digits⟩, dot,
    fun c => isVisible_of_mem_digits⟩, dot, fun c => isVisible_of_mem_digits⟩

theorem isVisible_of_bracketedHost {host : List Char} (h : bracketedHost cs = .ok host) :
    ∀ c ∈ host, IsVisible c := by
  unfold bracketedHost at h
  split at h
  case h_1 =>
      split at h
      case h_1 =>
          cases h
          exact isVisible_address6Text
      case h_2 => cases h
  case h_2 => cases h

theorem isVisible_of_not_isForbidden (allowed : isForbidden c = false)
    (uncontrolled : isControl c = false) : IsVisible c := by
  refine (isVisible_or_space uncontrolled).resolve_right ?_
  rintro rfl
  cases allowed

theorem isVisible_of_opaqueHost {host : List Char} (h : opaqueHost cs = .ok host) :
    ∀ c ∈ host, IsVisible c := by
  unfold opaqueHost at h
  split at h
  case isTrue => exact isVisible_of_bracketedHost h
  case isFalse =>
      split at h
      case isTrue => cases h
      case isFalse allowed =>
          cases h
          refine isVisible_of_mem_encode (.inr fun space => allowed ?_)
          exact List.any_eq_true.mpr ⟨' ', space, rfl⟩

theorem isVisible_of_asciiName {name : List Char} (h : asciiName cs = .ok name) :
    ∀ c ∈ name, IsVisible c := by
  unfold asciiName at h
  dsimp only at h
  split at h
  case isTrue => cases h
  case isFalse allowed =>
      split at h
      case isTrue => cases h
      case isFalse =>
          cases h
          intro c hc
          have plain : ¬ (isForbidden c || c = '%' || isControl c) = true := fun h =>
            allowed (List.any_eq_true.mpr ⟨c, hc, h⟩)
          simp only [Bool.or_eq_true, not_or, Bool.not_eq_true] at plain
          exact isVisible_of_not_isForbidden plain.1.1 plain.2

theorem isVisible_of_namedHost {host : List Char} (h : namedHost cs = .ok host) :
    ∀ c ∈ host, IsVisible c := by
  unfold namedHost at h
  split at h
  case isTrue => exact isVisible_of_bracketedHost h
  case isFalse =>
      split at h
      case h_1 => cases h
      case h_2 =>
          obtain ⟨name, hname, h⟩ := except_bind_eq_ok.mp h
          split at h
          · cases h
          · split at h
            · split at h
              · cases h
                exact isVisible_address4Text
              · cases h
            · cases h
              exact isVisible_of_asciiName hname

end TypeSchema.Uri
