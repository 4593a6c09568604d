/-
# Path — normalized paths stay as they are

Normalizing takes the components of a path one by one onto a stack.  What is
on the stack is `Reduced` at any time: names on top, and below them either
the root or nothing but `..`.  Taking the components of a reduced stack onto
a new one rebuilds it, and the text that is made of them splits into the same
components again.  So a path that has been normalized, or resolved against
the directory of another one, is its own normal form.
-/
import Mathlib.Data.List.Basic
import TypeSchema.Path

namespace TypeSchema

/-! ## Pieces of texts -/

namespace Text

variable {mark : Char} {cs : List Char}

theorem pieces_ne_nil (mark : Char) (cs : List Char) : pieces mark cs ≠ [] := by
  cases cs with
  | nil => exact List.cons_ne_nil _ _
  | cons c cs =>
      rw [pieces]
      split
      · exact List.cons_ne_nil _ _
      · split <;> exact List.cons_ne_nil _ _

theorem pieces_cons_of_ne {c : Char} (hc : c ≠ mark) (cs : List Char) :
    ∃ p ps, pieces mark cs = p :: ps ∧ pieces mark (c :: cs) = (c :: p) :: ps := by
  obtain ⟨p, ps, h⟩ := List.exists_cons_of_ne_nil (pieces_ne_nil mark cs)
  exact ⟨p, ps, h, by rw [pieces, if_neg hc, h]⟩

/-- No mark stands inside a piece. -/
theorem not_mem_of_mem_pieces {piece : List Char} (h : piece ∈ pieces mark cs) : mark ∉ piece := by
  induction cs generalizing piece with
  | nil =>
      rw [List.mem_singleton.mp h]
      exact List.not_mem_nil
  | cons c cs ih =>
      by_cases hc : c = mark
      · rw [pieces, if_pos hc] at h
        rcases List.mem_cons.mp h with rfl | h
        · exact List.not_mem_nil
        · exact ih h
      · obtain ⟨p, ps, hcs, hpieces⟩ := pieces_cons_of_ne hc cs
        rw [hcs] at ih
        rw [hpieces] at h
        rcases List.mem_cons.mp h with rfl | h
        · rintro (_ | ⟨_, hp⟩)
          · exact hc rfl
          · exact ih List.mem_cons_self hp
        · exact ih (List.mem_cons_of_mem _ h)

theorem pieces_of_not_mem (h : mark ∉ cs) : pieces mark cs = [cs] := by
  induction cs with
  | nil => rfl
  | cons c cs ih =>
      obtain ⟨hc, hcs⟩ := not_or.mp (mt List.mem_cons.mpr h)
      rw [pieces, if_neg (Ne.symm hc), ih hcs]

/-- A mark parts the pieces before it from those behind it. -/
theorem pieces_append_mark (mark : Char) (cs rest : List Char) :
    pieces mark (cs ++ mark :: rest) = pieces mark cs ++ pieces mark rest := by
  induction cs with
  | nil => exact if_pos rfl
  | cons c cs ih =>
      by_cases hc : c = mark
      · rw [List.cons_append, pieces, if_pos hc, ih, pieces, if_pos hc, List.cons_append]
      · obtain ⟨p, ps, h, h'⟩ := pieces_cons_of_ne hc cs
        rw [List.cons_append, pieces, if_neg hc, ih, h, h']
        rfl

theorem pieces_append_cons (h : mark ∉ cs) (rest : List Char) :
    pieces mark (cs ++ mark :: rest) = cs :: pieces mark rest := by
  rw [pieces_append_mark, pieces_of_not_mem h]
  rfl

/-- Putting marks between pieces and splitting at the marks gives the pieces back. -/
theorem pieces_intercalate {ps : List (List Char)} (some : ps ≠ []) (h : ∀ p ∈ ps, mark ∉ p) :
    pieces mark ([mark].intercalate ps) = ps := by
  induction ps with
  | nil => exact absurd rfl some
  | cons p ps ih =>
      obtain ⟨hp, hps⟩ := List.forall_mem_cons.mp h
      cases ps with
      | nil => simpa [List.intercalate] using pieces_of_not_mem hp
      | cons q ps =>
          have split : [mark].intercalate (p :: q :: ps)
              = p ++ mark :: [mark].intercalate (q :: ps) := by
            simp [List.intercalate]
          rw [split, pieces_append_cons hp, ih (List.cons_ne_nil _ _) hps]

/-- With marks between them the pieces are the text again. -/
theorem intercalate_pieces (mark : Char) (cs : List Char) :
    [mark].intercalate (pieces mark cs) = cs := by
  induction cs with
  | nil => rfl
  | cons c cs ih =>
      by_cases hc : c = mark
      · obtain ⟨p, ps, h⟩ := List.exists_cons_of_ne_nil (pieces_ne_nil mark cs)
        rw [h] at ih
        rw [pieces, if_pos hc, h, hc]
        simpa [List.intercalate] using ih
      · obtain ⟨p, ps, h, h'⟩ := pieces_cons_of_ne hc cs
        rw [h] at ih
        rw [h']
        cases ps with
        | nil => simpa [List.intercalate] using ih
        | cons q ps => simpa [List.intercalate] using ih

end Text

namespace Path

/-! ## Components in texts -/

/-- The component is what its own text stands for between slashes. -/
structure Component.IsWritten (c : Component) : Prop where
  unparted : '/' ∉ c.text.toList
  read : component? c.text.toList = some c

namespace Component

theorem not_isWritten_root : ¬ root.IsWritten := fun h => by cases h.read

theorem isWritten_parent : parent.IsWritten := ⟨by decide, rfl⟩

end Component

theorem text_of_component? {cs : List Char} {c : Component} (h : component? cs = some c) :
    c.text.toList = cs := by
  unfold component? at h
  split at h
  · cases h
  · cases h
  · cases h
    rfl
  · cases h
    exact String.toList_ofList

theorem isWritten_of_mem_pieces {cs : List Char} {c : Component}
    (h : c ∈ (pieces cs).filterMap component?) : c.IsWritten := by
  obtain ⟨piece, hpiece, read⟩ := List.mem_filterMap.mp h
  have text := text_of_component? read
  exact ⟨text ▸ Text.not_mem_of_mem_pieces hpiece, text ▸ read⟩

theorem filterMap_component? {cs : List Component} (written : ∀ c ∈ cs, c.IsWritten) :
    (cs.map (·.text.toList)).filterMap component? = cs := by
  induction cs with
  | nil => rfl
  | cons c cs ih =>
      obtain ⟨hc, hcs⟩ := List.forall_mem_cons.mp written
      rw [List.map_cons, List.filterMap_cons, hc.read, ih hcs]

/-- Components that can be taken onto a stack that is not empty. -/
def AreSteps (cs : List Component) : Prop := ∀ c ∈ cs, c = .current ∨ c.IsWritten

/-- Components as paths have them: at most the first one is the root. -/
def AreProper (cs : List Component) : Prop :=
  AreSteps cs ∨ ∃ rest, cs = .root :: rest ∧ AreSteps rest

theorem areSteps_filterMap {ps : List (List Char)} {cs : List Char} (h : ps ⊆ pieces cs) :
    AreSteps (ps.filterMap component?) := by
  intro c hc
  obtain ⟨piece, hpiece, read⟩ := List.mem_filterMap.mp hc
  exact .inr (isWritten_of_mem_pieces (List.mem_filterMap.mpr ⟨piece, h hpiece, read⟩))

/-- The dot that a path starts with. -/
def leadingDot (p : Path) : List Component :=
  match pieces p.text.toList with
  | ['.'] :: _ => [.current]
  | _ => []

/-- The components of a path: what its stretches stand for, behind the root or a
leading dot. -/
theorem components_eq (p : Path) : p.components =
    (if p.isAbsolute then [.root] else p.leadingDot) ++
      (pieces p.text.toList).filterMap component? := by
  unfold components leadingDot isAbsolute
  cases text : p.text.toList with
  | nil =>
      have empty : p.text.isEmpty = true := by
        simpa using String.toList_eq_nil_iff.mp text
      simp [pieces, Text.pieces, component?, empty]
  | cons c cs =>
      have some : p.text.isEmpty = false := by
        rw [String.isEmpty_eq_false_iff]
        intro empty
        rw [empty] at text
        cases text
      by_cases hc : c = '/'
      · rw [hc, pieces, Text.pieces, if_pos rfl, List.filterMap_cons]
        simp [some, component?]
      · -- the first stretch is not empty
        obtain ⟨q, ps, _, hpieces⟩ := Text.pieces_cons_of_ne hc cs
        rw [pieces, hpieces]
        split
        · rename_i same
          cases same
        · rename_i same
          cases same
          simp [component?]
        · simp [hc]

/-- The components of a path; the root is among them if the path is absolute only. -/
theorem components_cases (p : Path) :
    AreSteps p.components ∨
      p.isAbsolute = true ∧ ∃ rest, p.components = .root :: rest ∧ AreSteps rest := by
  have stretches : AreSteps ((pieces p.text.toList).filterMap component?) :=
    areSteps_filterMap fun _ h => h
  rw [components_eq]
  cases absolute : p.isAbsolute with
  | true => exact .inr ⟨rfl, _, rfl, stretches⟩
  | false =>
      refine .inl fun c hc => ?_
      rcases List.mem_append.mp hc with hc | hc
      · rw [if_neg Bool.false_ne_true, leadingDot] at hc
        split at hc
        · exact .inl (List.mem_singleton.mp hc)
        · cases hc
      · exact stretches c hc

theorem areProper_components (p : Path) : AreProper p.components :=
  (components_cases p).imp_right And.right

theorem areSteps_components {p : Path} (relative : p.isAbsolute = false) :
    AreSteps p.components := by
  rcases components_cases p with steps | ⟨absolute, _⟩
  · exact steps
  · rw [absolute] at relative
    cases relative

theorem directory_prefix (p : Path) : ∃ rest, p.components = p.directory ++ rest := by
  unfold directory
  split
  · exact ⟨p.components, rfl⟩
  · exact ⟨p.components, rfl⟩
  · rename_i c rest _ h
    exact ⟨[c], by rw [← List.reverse_cons, ← h, List.reverse_reverse]⟩

theorem areProper_append {cs rest steps : List Component} (proper : AreProper (cs ++ rest))
    (hsteps : AreSteps steps) : AreProper (cs ++ steps) := by
  have both : ∀ {cs}, AreSteps (cs ++ rest) → AreSteps (cs ++ steps) := by
    intro cs h c hc
    rcases List.mem_append.mp hc with hc | hc
    · exact h c (List.mem_append_left _ hc)
    · exact hsteps c hc
  rcases proper with h | ⟨tail, h, htail⟩
  · exact .inl (both h)
  · cases cs with
    | nil => exact .inl hsteps
    | cons c cs =>
        cases h
        exact .inr ⟨cs ++ steps, rfl, both htail⟩

/-! ## Reduced stacks -/

/-- Names, the last one first, on top of the root, or of nothing but `..`. -/
inductive Reduced : List Component → Prop
  | nil : Reduced []
  | root : Reduced [.root]
  | up {done : List Component} : Reduced done → (∀ c ∈ done, c = .parent) →
      Reduced (.parent :: done)
  | into {name : String} {done : List Component} : (Component.normal name).IsWritten →
      Reduced done → Reduced (.normal name :: done)

namespace Reduced

variable {done cs : List Component} {c : Component}

theorem step (reduced : Reduced done) (hc : c = .current ∨ c.IsWritten) :
    Reduced (Path.step done c) := by
  cases c with
  | root => exact absurd (hc.resolve_left Component.noConfusion) Component.not_isWritten_root
  | current => exact reduced
  | normal name => exact .into (hc.resolve_left Component.noConfusion) reduced
  | parent =>
      cases reduced with
      | nil => exact .up .nil fun _ h => absurd h List.not_mem_nil
      | root => exact .root
      | into _ rest => exact rest
      | up rest parents =>
          refine .up (.up rest parents) fun c hc => ?_
          rcases List.mem_cons.mp hc with rfl | hc
          · rfl
          · exact parents c hc

theorem foldl (reduced : Reduced done) (steps : AreSteps cs) :
    Reduced (cs.foldl Path.step done) := by
  induction cs generalizing done with
  | nil => exact reduced
  | cons c cs ih =>
      obtain ⟨hc, hcs⟩ := List.forall_mem_cons.mp steps
      exact ih (reduced.step hc) hcs

/-- Normalizing ends with a reduced stack. -/
theorem of_proper (proper : AreProper cs) : Reduced (cs.foldl Path.step []) := by
  rcases proper with steps | ⟨rest, rfl, steps⟩
  · exact Reduced.nil.foldl steps
  · exact Reduced.root.foldl steps

/-- Its components, taken one by one, build it again. -/
theorem foldl_reverse (reduced : Reduced done) : done.reverse.foldl Path.step [] = done := by
  induction reduced with
  | nil => rfl
  | root => rfl
  | @up done _ parents ih =>
      rw [List.reverse_cons, List.foldl_append, ih]
      cases done with
      | nil => rfl
      | cons c done =>
          cases parents c List.mem_cons_self
          rfl
  | into _ _ ih =>
      rw [List.reverse_cons, List.foldl_append, ih]
      rfl

theorem written (reduced : Reduced done) :
    (∀ c ∈ done.reverse, c.IsWritten) ∨
      ∃ rest, done.reverse = .root :: rest ∧ ∀ c ∈ rest, c.IsWritten := by
  have more : ∀ {c : Component} {cs}, c.IsWritten → (∀ c ∈ cs, c.IsWritten) →
      ∀ c' ∈ cs ++ [c], c'.IsWritten := by
    intro c cs hc hcs c' hc'
    rcases List.mem_append.mp hc' with h | h
    · exact hcs c' h
    · exact List.mem_singleton.mp h ▸ hc
  induction reduced with
  | nil => exact .inl fun _ h => absurd h List.not_mem_nil
  | root => exact .inr ⟨[], rfl, fun _ h => absurd h List.not_mem_nil⟩
  | @up done _ parents _ =>
      refine .inl fun c hc => ?_
      rcases List.mem_cons.mp (List.mem_reverse.mp hc) with rfl | hc
      · exact Component.isWritten_parent
      · exact parents c hc ▸ Component.isWritten_parent
  | into hname _ ih =>
      rw [List.reverse_cons]
      rcases ih with all | ⟨rest, h, hrest⟩
      · exact .inl (more hname all)
      · exact .inr ⟨rest ++ [_], by rw [h]; rfl, more hname hrest⟩

end Reduced

/-! ## Texts of reduced paths -/

theorem pieces_texts {cs : List Component} (some : cs ≠ []) (written : ∀ c ∈ cs, c.IsWritten) :
    pieces ("/".intercalate (cs.map Component.text)).toList = cs.map (·.text.toList) := by
  rw [String.toList_intercalate, List.map_map]
  refine Text.pieces_intercalate (fun h => some (List.map_eq_nil_iff.mp h)) fun piece hpiece => ?_
  obtain ⟨c, hc, rfl⟩ := List.mem_map.mp hpiece
  exact (written c hc).unparted

/-- A path whose first stretch stands for something has no root. -/
theorem components_of_read {p : Path} {piece : List Char} {rest : List (List Char)} {c : Component}
    (h : pieces p.text.toList = piece :: rest) (read : component? piece = some c) :
    p.components = (piece :: rest).filterMap component? := by
  unfold components
  rw [h]
  split
  · rename_i same
    cases same
    cases read
  · rename_i same
    cases same
    cases read
  · rfl

theorem components_ofComponents_written {cs : List Component} (written : ∀ c ∈ cs, c.IsWritten) :
    (ofComponents cs).components = cs := by
  cases cs with
  | nil => rfl
  | cons c cs =>
      have hc := written c List.mem_cons_self
      have text : ofComponents (c :: cs) = ⟨"/".intercalate ((c :: cs).map Component.text)⟩ := by
        cases c with
        | root => exact absurd hc Component.not_isWritten_root
        | current => rfl
        | parent => rfl
        | normal name => rfl
      have pieces := pieces_texts (List.cons_ne_nil c cs) written
      rw [text]
      exact (components_of_read pieces hc.read).trans (filterMap_component? written)

theorem components_ofComponents_root {cs : List Component} (written : ∀ c ∈ cs, c.IsWritten) :
    (ofComponents (.root :: cs)).components = .root :: cs := by
  have text : (ofComponents (.root :: cs)).text.toList
      = '/' :: ("/".intercalate (cs.map Component.text)).toList := String.toList_append
  have some : (ofComponents (.root :: cs)).text.isEmpty = false := by
    rw [String.isEmpty_eq_false_iff]
    intro empty
    rw [empty] at text
    cases text
  have split : pieces (ofComponents (.root :: cs)).text.toList
      = [] :: pieces ("/".intercalate (cs.map Component.text)).toList := by
    rw [text, pieces, pieces, Text.pieces, if_pos rfl]
  unfold components
  rw [split]
  simp only [some, Bool.false_eq_true, if_false]
  congr 1
  cases cs with
  | nil => rfl
  | cons c cs =>
      rw [pieces_texts (List.cons_ne_nil c cs) written]
      exact filterMap_component? written

/-- The text of a reduced path splits into its components. -/
theorem Reduced.components_ofComponents {done : List Component} (reduced : Reduced done) :
    (ofComponents done.reverse).components = done.reverse := by
  rcases reduced.written with written | ⟨rest, h, written⟩
  · exact components_ofComponents_written written
  · rw [h]
    exact components_ofComponents_root written

/-- Normalizing a reduced path leaves it alone. -/
theorem Reduced.normalize_ofComponents {done : List Component} (reduced : Reduced done) :
    (ofComponents done.reverse).normalize = ofComponents done.reverse := by
  rw [normalize, reduced.components_ofComponents, normalizeComponents, reduced.foldl_reverse]

theorem normalize_normalizeComponents {cs : List Component} (proper : AreProper cs) :
    (ofComponents (normalizeComponents cs)).normalize = ofComponents (normalizeComponents cs) := by
  rw [normalizeComponents]
  exact (Reduced.of_proper proper).normalize_ofComponents

/-- Normalizing once is enough. -/
theorem normalize_normalize (p : Path) : p.normalize.normalize = p.normalize :=
  normalize_normalizeComponents (areProper_components p)

/-- What a document includes is named by its normal form. -/
theorem normalize_including (document : Path) (name : String) :
    (document.including name).normalize = document.including name := by
  have resolved : document.including name =
      if (Path.mk name).isAbsolute then (Path.mk name).normalize
      else ofComponents (normalizeComponents (document.directory ++ (Path.mk name).components)) :=
    rfl
  rw [resolved]
  cases absolute : (Path.mk name).isAbsolute with
  | true =>
      rw [if_pos rfl]
      exact normalize_normalize ⟨name⟩
  | false =>
      obtain ⟨rest, split⟩ := directory_prefix document
      have proper : AreProper (document.directory ++ (Path.mk name).components) :=
        areProper_append (split ▸ areProper_components document) (areSteps_components absolute)
      rw [if_neg Bool.false_ne_true]
      exact normalize_normalizeComponents proper

end Path

end TypeSchema
