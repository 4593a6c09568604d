/-
# Cutting — stretches of characters and blanks at the ends

A stretch of characters of one sort ends where the first of another sort comes.
What is cut off a text is blank (`padded_trim`), and blanks are cut off up to
what is none (`Padded.trim_eq`).  A text has at least as many bytes as
characters.
-/
import Mathlib.Data.List.TakeDrop
import Mathlib.Data.List.TakeWhile
import TypeSchema.Text.Blank

namespace TypeSchema.Text

/-- A stretch is cut off as a whole if what follows does not continue it. -/
theorem span_append {p : Char → Bool} {cs rest : List Char} (stretch : ∀ c ∈ cs, p c = true)
    (stop : ∀ c ∈ rest.head?, p c = false) : (cs ++ rest).span p = (cs, rest) := by
  have none : rest.takeWhile p = [] ∧ rest.dropWhile p = rest := by
    cases rest with
    | nil => exact ⟨rfl, rfl⟩
    | cons c rest => simp [stop c rfl]
  rw [List.span_eq_takeWhile_dropWhile, List.takeWhile_append_of_pos stretch,
    List.dropWhile_append_of_pos stretch, none.1, none.2, List.append_nil]

/-- What is cut off is a stretch, and what follows does not continue it. -/
theorem of_span_eq {p : Char → Bool} {cs ds rest : List Char} (h : cs.span p = (ds, rest)) :
    cs = ds ++ rest ∧ (∀ c ∈ ds, p c = true) ∧ ∀ c ∈ rest.head?, p c = false := by
  rw [List.span_eq_takeWhile_dropWhile, Prod.mk.injEq] at h
  obtain ⟨rfl, rfl⟩ := h
  refine ⟨List.takeWhile_append_dropWhile.symm, fun c hc => List.mem_takeWhile_imp hc, ?_⟩
  intro c hc
  have stop := List.head?_dropWhile_not p cs
  rw [Option.mem_def.mp hc] at stop
  simpa using stop

/-! ## Blanks at the ends -/

/-- A text with blanks around it, or without. -/
inductive Padded (core : List Char) : List Char → Prop
  | mk {before after : List Char} : (∀ c ∈ before, isBlank c = true) →
      (∀ c ∈ after, isBlank c = true) → Padded core (before ++ (core ++ after))

theorem padded_self (cs : List Char) : Padded cs cs := by
  have alone : Padded cs ([] ++ (cs ++ [])) :=
    .mk (List.forall_mem_nil _) (List.forall_mem_nil _)
  rwa [List.nil_append, List.append_nil] at alone

theorem isBlank_of_mem_takeWhile {cs : List Char} : ∀ c ∈ cs.takeWhile isBlank, isBlank c = true :=
  fun _ hc => List.mem_takeWhile_imp hc

/-- What is cut off is blank. -/
theorem padded_trim (cs : List Char) : Padded (trim cs) cs := by
  have front : cs.takeWhile isBlank ++ trimLeft cs = cs := List.takeWhile_append_dropWhile
  have back : trim cs ++ ((trimLeft cs).reverse.takeWhile isBlank).reverse = trimLeft cs := by
    rw [trim, trimRight, ← List.reverse_append, List.takeWhile_append_dropWhile,
      List.reverse_reverse]
  have around : Padded (trim cs) (cs.takeWhile isBlank ++
      (trim cs ++ ((trimLeft cs).reverse.takeWhile isBlank).reverse)) :=
    .mk isBlank_of_mem_takeWhile fun c hc => isBlank_of_mem_takeWhile c (List.mem_reverse.mp hc)
  rwa [back, front] at around

theorem trim_eq_nil_iff {cs : List Char} : trim cs = [] ↔ ∀ c ∈ cs, isBlank c = true := by
  constructor
  · intro h c hc
    cases h ▸ padded_trim cs with
    | mk before after =>
        rcases List.mem_append.mp hc with hc | hc
        · exact before c hc
        · exact after c hc
  · intro h
    rw [trim, trimLeft, List.dropWhile_eq_nil_iff.mpr h]
    rfl

theorem trimLeft_append {before rest : List Char} (blank : ∀ c ∈ before, isBlank c = true)
    (first : ∀ c ∈ rest.head?, isBlank c = false) : trimLeft (before ++ rest) = rest := by
  rw [trimLeft, List.dropWhile_append_of_pos blank]
  cases rest with
  | nil => rfl
  | cons c rest => rw [List.dropWhile_cons_of_neg (by simp [first c rfl])]

namespace Padded

variable {core cs : List Char}

theorem length_le (h : Padded core cs) : core.length ≤ cs.length := by
  cases h
  simp only [List.length_append]
  omega

theorem mem_cases (h : Padded core cs) {c : Char} (hc : c ∈ cs) :
    c ∈ core ∨ isBlank c = true := by
  cases h with
  | mk before after =>
      rcases List.mem_append.mp hc with hc | hc
      · exact .inr (before c hc)
      · exact (List.mem_append.mp hc).imp_right (after c)

/-- Blanks are cut off up to what is none. -/
theorem trim_eq (h : Padded core cs) (some : core ≠ [])
    (first : ∀ c ∈ core.head?, isBlank c = false) (last : ∀ c ∈ core.getLast?, isBlank c = false) :
    trim cs = core := by
  cases h with
  | @mk before after blankBefore blankAfter =>
      have start : ∀ c ∈ (core ++ after).head?, isBlank c = false := by
        obtain ⟨d, core, rfl⟩ := List.exists_cons_of_ne_nil some
        exact first
      have ending : ∀ c ∈ core.reverse.head?, isBlank c = false := by
        rwa [List.head?_reverse]
      have back := trimLeft_append (fun c hc => blankAfter c (List.mem_reverse.mp hc)) ending
      rw [trimLeft] at back
      rw [trim, trimLeft_append blankBefore start, trimRight, List.reverse_append, back,
        List.reverse_reverse]

end Padded

theorem trim_of_not_blank {cs : List Char} (h : ∀ c ∈ cs, isBlank c = false) : trim cs = cs := by
  by_cases some : cs = []
  · rw [some]
    rfl
  · exact (padded_self cs).trim_eq some (fun c hc => h c (List.mem_of_mem_head? hc))
      fun c hc => h c (List.mem_of_mem_getLast? hc)

/-! ## Bytes -/

theorem length_le_utf8ByteSize (s : String) : s.length ≤ s.utf8ByteSize := by
  induction s using String.push_induction with
  | empty => exact Nat.zero_le _
  | push s c ih =>
      have := c.utf8Size_pos
      rw [String.length_push, String.utf8ByteSize_push]
      omega

theorem utf8ByteSize_eq_length {s : String} (ascii : ∀ c ∈ s.toList, c.utf8Size = 1) :
    s.utf8ByteSize = s.length := by
  induction s using String.push_induction with
  | empty => rfl
  | push s c ih =>
      rw [String.toList_push] at ascii
      obtain ⟨hs, hc⟩ := List.forall_mem_append.mp ascii
      rw [String.length_push, String.utf8ByteSize_push, ih hs, List.forall_mem_singleton.mp hc]

end TypeSchema.Text
