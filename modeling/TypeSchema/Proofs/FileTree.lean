/-
# FileTree — canonical paths lead to the same place

The canonical path of what a path leads to is the names on the way there from
the root.  Following a path, one is `Reached` at any time: every place on the
way from the root is a directory, and has a name that a path can spell.  So
the canonical path can be followed too (`find?_normalize`), provided that the
working directory itself is there (`IsConnected`).
-/
import TypeSchema.FileTree
import TypeSchema.Proofs.Path

namespace TypeSchema

/-- The pieces of a text have its characters, the marks apart. -/
theorem Text.mem_iff_mem_pieces {mark c : Char} (other : c ≠ mark) {cs : List Char} :
    c ∈ cs ↔ ∃ piece ∈ pieces mark cs, c ∈ piece := by
  induction cs with
  | nil => simp [pieces]
  | cons d cs ih =>
      by_cases hd : d = mark
      · rw [pieces, if_pos hd, List.mem_cons, ih, hd, or_iff_right other]
        simp
      · obtain ⟨p, ps, hcs, hpieces⟩ := pieces_cons_of_ne hd cs
        rw [hcs] at ih
        rw [hpieces, List.mem_cons, ih]
        simp [or_assoc]

namespace FileTree

open Path (Component)

/-! ## Names -/

/-- A name that a path can spell, and that can stand in a directory. -/
structure IsName (name : String) : Prop where
  written : (Component.normal name).IsWritten
  solid : '\x00' ∉ name.toList

instance {name : String} : Decidable (IsName name) :=
  decidable_of_iff (('/' ∉ name.toList ∧ Path.component? name.toList = some (.normal name)) ∧
    '\x00' ∉ name.toList)
    ⟨fun ⟨⟨unparted, read⟩, solid⟩ => ⟨⟨unparted, read⟩, solid⟩,
      fun ⟨⟨unparted, read⟩, solid⟩ => ⟨⟨unparted, read⟩, solid⟩⟩

/-- The names in a path that has no null character are names. -/
theorem isName_of_mem_components {p : Path} (solid : '\x00' ∉ p.text.toList) {name : String}
    (h : .normal name ∈ p.components) : IsName name := by
  have spelled : ∃ piece ∈ Path.pieces p.text.toList,
      Path.component? piece = some (.normal name) := by
    have later : ∀ {pieces piece rest}, pieces = piece :: rest →
        Component.normal name ∈ rest.filterMap Path.component? →
        ∃ piece ∈ pieces, Path.component? piece = some (.normal name) := by
      rintro _ _ _ rfl h
      obtain ⟨piece, hpiece, read⟩ := List.mem_filterMap.mp h
      exact ⟨piece, List.mem_cons_of_mem _ hpiece, read⟩
    unfold Path.components at h
    split at h
    · rename_i rest split
      split at h
      · cases h
      · exact later split ((List.mem_cons.mp h).resolve_left Component.noConfusion)
    · rename_i rest split
      exact later split ((List.mem_cons.mp h).resolve_left Component.noConfusion)
    · exact List.mem_filterMap.mp h
  obtain ⟨piece, hpiece, read⟩ := spelled
  refine ⟨Path.isWritten_of_mem_pieces (List.mem_filterMap.mpr ⟨piece, hpiece, read⟩), ?_⟩
  intro null
  rw [show name = (Component.normal name).text from rfl, Path.text_of_component? read] at null
  exact solid ((Text.mem_iff_mem_pieces (by decide)).mpr ⟨piece, hpiece, null⟩)

/-! ## Ways -/

/-- Only from a directory a component leads on. -/
theorem isDirectoryAt_of_walk {t : FileTree} {place place' : List String} {c : Component}
    {cs : List Component} (h : t.walk place (c :: cs) = some place') :
    t.isDirectoryAt place = true := by
  by_contra no
  cases c <;> rw [walk, if_neg no] at h <;> cases h

/-- The way from the root to the place has names, and leads through directories. -/
structure Reached (t : FileTree) (place : List String) : Prop where
  names : ∀ name ∈ place, IsName name
  through : ∀ above name below, place = above ++ name :: below → t.isDirectoryAt above = true

namespace Reached

variable {t : FileTree} {place : List String}

theorem root : t.Reached [] := by
  refine ⟨List.forall_mem_nil _, ?_⟩
  intro above name below h
  exact absurd h.symm (List.append_ne_nil_of_right_ne_nil _ (List.cons_ne_nil _ _))

theorem above {below : List String} (h : t.Reached (place ++ below)) : t.Reached place := by
  refine ⟨fun name hname => h.names name (List.mem_append_left _ hname), ?_⟩
  rintro above name rest rfl
  exact h.through above name (rest ++ below) (by rw [List.append_assoc, List.cons_append])

theorem parent (h : t.Reached place) : t.Reached place.dropLast := by
  rcases List.eq_nil_or_concat place with rfl | ⟨above, name, rfl⟩
  · exact h
  · rw [List.concat_eq_append] at h ⊢
    rw [List.dropLast_concat]
    exact h.above

theorem into {name : String} (h : t.Reached place) (here : t.isDirectoryAt place = true)
    (hname : IsName name) : t.Reached (place ++ [name]) := by
  refine ⟨List.forall_mem_append.mpr ⟨h.names, List.forall_mem_singleton.mpr hname⟩, ?_⟩
  intro above other below split
  rcases List.append_eq_append_iff.mp split with ⟨more, rfl, hmore⟩ | ⟨more, rfl, hmore⟩
  · cases more with
    | nil =>
        rw [List.append_nil]
        exact here
    | cons _ more =>
        rw [List.cons_append] at hmore
        cases more <;> cases hmore
  · cases more with
    | nil =>
        rw [List.append_nil] at here
        exact here
    | cons _ more =>
        cases hmore
        exact h.through above _ more rfl

/-- Following components stays on ways. -/
theorem walk {cs : List Component} {place' : List String} (h : t.Reached place)
    (names : ∀ name, .normal name ∈ cs → IsName name) (hw : t.walk place cs = some place') :
    t.Reached place' := by
  induction cs generalizing place with
  | nil =>
      cases hw
      exact h
  | cons c cs ih =>
      have names' : ∀ name, Component.normal name ∈ cs → IsName name :=
        fun name hname => names name (List.mem_cons_of_mem _ hname)
      have here := isDirectoryAt_of_walk hw
      cases c with
      | root =>
          rw [FileTree.walk, if_pos here] at hw
          exact ih .root names' hw
      | current =>
          rw [FileTree.walk, if_pos here] at hw
          exact ih h names' hw
      | parent =>
          rw [FileTree.walk, if_pos here] at hw
          exact ih h.parent names' hw
      | normal name =>
          rw [FileTree.walk, if_pos here] at hw
          exact ih (h.into here (names name List.mem_cons_self)) names' hw

/-- A way can be followed by its names. -/
theorem walk_names {names : List String} (h : t.Reached (place ++ names)) :
    t.walk place (names.map .normal) = some (place ++ names) := by
  induction names generalizing place with
  | nil => rw [List.map_nil, FileTree.walk, List.append_nil]
  | cons name names ih =>
      have split : place ++ name :: names = (place ++ [name]) ++ names := by
        rw [List.append_assoc, List.singleton_append]
      rw [List.map_cons, FileTree.walk, if_pos (h.through place name names rfl), split]
      rw [split] at h
      exact ih h

end Reached

/-! ## Canonical paths -/

section Canonical

variable {t : FileTree} {place : List String} {p : Path} {e : Entry}

/-- The working directory is there, and every directory on the way to it. -/
structure IsConnected (t : FileTree) : Prop where
  reached : t.Reached t.workingDirectory
  here : t.isDirectoryAt t.workingDirectory = true

theorem IsConnected.root (connected : t.IsConnected) : t.isDirectoryAt [] = true := by
  cases h : t.workingDirectory with
  | nil => exact h ▸ connected.here
  | cons name below => exact connected.reached.through [] name below h

theorem locate_eq_some : t.locate p = some place ↔
    p.text.isEmpty = false ∧ '\x00' ∉ p.text.toList ∧
      t.walk t.workingDirectory p.components = some place ∧ (t.at? place).isSome ∧
      (endsInDirectory p = true → t.isDirectoryAt place = true) := by
  unfold locate
  by_cases unspelled : (p.text.isEmpty || p.text.toList.contains '\x00') = true
  · rw [if_pos unspelled]
    refine iff_of_false (by rintro ⟨⟩) ?_
    rintro ⟨some, solid, -⟩
    simp [some, solid] at unspelled
  · rw [if_neg unspelled]
    have spelled : p.text.isEmpty = false ∧ '\x00' ∉ p.text.toList := by
      simpa using unspelled
    rw [← and_assoc, and_iff_right spelled]
    constructor
    · intro h
      obtain ⟨place', hwalk, h⟩ := Option.bind_eq_some_iff.mp h
      obtain ⟨e, there, h⟩ := Option.bind_eq_some_iff.mp h
      by_cases wrong : (endsInDirectory p && !t.isDirectoryAt place') = true
      · rw [if_pos wrong] at h
        cases h
      · rw [if_neg wrong] at h
        cases h
        refine ⟨hwalk, by rw [there]; rfl, fun ends => ?_⟩
        simpa [ends] using wrong
    · rintro ⟨hwalk, there, ends⟩
      obtain ⟨e, there⟩ := Option.isSome_iff_exists.mp there
      refine Option.bind_eq_some_iff.mpr ⟨place, hwalk, Option.bind_eq_some_iff.mpr ⟨e, there, ?_⟩⟩
      rw [if_neg (by simpa using ends)]
      rfl

theorem text_placePath (place : List String) :
    (placePath place).text = "/" ++ "/".intercalate place := by
  rw [placePath, Path.ofComponents, List.map_map]
  exact congrArg (fun names => "/" ++ "/".intercalate names) (List.map_id _)

theorem pieces_placePath (below : place ≠ []) (names : ∀ name ∈ place, IsName name) :
    Path.pieces (placePath place).text.toList = [] :: place.map String.toList := by
  have split : Path.pieces ("/".intercalate place).toList = place.map String.toList := by
    have written : ∀ c ∈ place.map Component.normal, c.IsWritten :=
      List.forall_mem_map.mpr fun name hname => (names name hname).written
    have h := Path.pieces_texts (mt List.map_eq_nil_iff.mp below) written
    rw [List.map_map, List.map_map] at h
    exact (congrArg (fun texts => Path.pieces ("/".intercalate texts).toList)
      (List.map_id place)).symm.trans h
  rw [text_placePath, String.toList_append, ← split]
  rfl

/-- The canonical path of a place ends with its name, unless it is the root. -/
theorem endsInDirectory_placePath (names : ∀ name ∈ place, IsName name)
    (h : endsInDirectory (placePath place) = true) : place = [] := by
  rcases List.eq_nil_or_concat place with rfl | ⟨above, name, rfl⟩
  · rfl
  · rw [List.concat_eq_append] at names h
    have read := (names name (by simp)).written.read
    unfold endsInDirectory at h
    rw [pieces_placePath (by simp) names, List.map_append, List.reverse_cons, List.reverse_append,
      List.map_singleton, List.reverse_singleton, List.singleton_append, List.cons_append] at h
    split at h
    case h_4 => cases h
    all_goals
      rename_i same
      rw [Component.text, (List.cons.inj same).1] at read
      cases read

theorem solid_placePath (names : ∀ name ∈ place, IsName name) :
    '\x00' ∉ (placePath place).text.toList := by
  by_cases root : place = []
  · subst root
    decide
  · have other : '\x00' ≠ '/' := by decide
    rw [Text.mem_iff_mem_pieces other, ← Path.pieces, pieces_placePath root names]
    rintro ⟨piece, hpiece, null⟩
    rcases List.mem_cons.mp hpiece with rfl | hpiece
    · cases null
    · obtain ⟨name, hname, rfl⟩ := List.mem_map.mp hpiece
      exact (names name hname).solid null

/-- The canonical path of a place that is there leads to it. -/
theorem Reached.locate_placePath (connected : t.IsConnected) (h : t.Reached place)
    (there : (t.at? place).isSome) : t.locate (placePath place) = some place := by
  have components : (placePath place).components = .root :: place.map .normal :=
    Path.components_ofComponents_root (List.forall_mem_map.mpr fun name hname =>
      (h.names name hname).written)
  refine locate_eq_some.mpr ⟨?_, ?_, ?_, there, fun ends => ?_⟩
  · simp [text_placePath]
  · exact solid_placePath h.names
  · rw [components, FileTree.walk, if_pos connected.here]
    exact h.walk_names
  · rw [endsInDirectory_placePath h.names ends]
    exact connected.root

/-- What a path leads to, its canonical path leads to. -/
theorem IsConnected.find?_normalize (connected : t.IsConnected) (h : t.find? p = some e) :
    t.find? (t.normalize p) = some e := by
  obtain ⟨place, hplace, he⟩ := Option.bind_eq_some_iff.mp h
  obtain ⟨-, solid, hwalk, there, -⟩ := locate_eq_some.mp hplace
  have reached : t.Reached place :=
    connected.reached.walk (fun _ => isName_of_mem_components solid) hwalk
  rw [normalize, hplace, find?, reached.locate_placePath connected there]
  exact he

end Canonical

end FileTree

end TypeSchema
