/-
# Search — how discovery goes on and where it ends

Discovery reads one source after another until none is left to be read
(`Discovery.Ends`).  Nothing in this bounds how often it goes on; what does
is that no path is read twice.  Among sources given as texts every path that
is read is one of theirs, all of them are normalized, and they are all
different (`Proper`).  So when as many have been read as there are texts, the
next one is missing, and running with this limit comes to the very end that
the search has (`ends_run`).

`Ends.keeps` turns what a single visit keeps into what holds at the end.
-/
import Mathlib.Data.List.Nodup
import Mathlib.Data.List.Perm.Subperm
import TypeSchema.Proofs.Document.Discovery
import TypeSchema.Proofs.Fields
import TypeSchema.Proofs.Path

namespace TypeSchema

open TypeSchema.Graph (Built)

/-! ## Reading texts -/

namespace Sources

variable {texts : List (Path × String)} {path : Path}

/-- One of the texts has the path. -/
def Present (texts : List (Path × String)) (path : Path) : Prop :=
  ∃ entry ∈ texts, entry.1.normalize = path

instance (texts : List (Path × String)) (path : Path) : Decidable (Present texts path) :=
  inferInstanceAs (Decidable (∃ _ ∈ _, _))

/-- Texts are read by their paths, and nothing else is found. -/
theorem read_ofTexts (texts : List (Path × String)) (normal : path.normalize = path) :
    (∃ text, (ofTexts texts).read path = .ok text) ∧ Present texts path ∨
      (ofTexts texts).read path = .error (.fileNotFound path) ∧ ¬ Present texts path := by
  have found : (Fields.find? path.text
      (Fields.ofList (texts.map fun e => (e.1.normalize.text, e.2)))).isSome ↔ _ :=
    Fields.find?_ofList_isSome_iff
  rw [List.map_map, List.mem_map] at found
  have present : (∃ e ∈ texts, e.1.normalize.text = path.text) ↔ Present texts path :=
    exists_congr fun e => and_congr_right fun _ => ⟨congrArg Path.mk, congrArg Path.text⟩
  have same := found.trans present
  simp only [ofTexts, normal]
  cases h : Fields.find? path.text
      (Fields.ofList (texts.map fun e => (e.1.normalize.text, e.2))) with
  | some text =>
      rw [h] at same
      exact .inl ⟨⟨text, rfl⟩, same.mp rfl⟩
  | none =>
      rw [h] at same
      exact .inr ⟨rfl, mt same.mpr Bool.false_ne_true⟩

theorem present_of_read (normal : path.normalize = path) {text : String}
    (read : (ofTexts texts).read path = .ok text) : Present texts path := by
  rcases read_ofTexts texts normal with ⟨_, present⟩ | ⟨missing, _⟩
  · exact present
  · rw [missing] at read
    cases read

/-- Different paths have different texts. -/
theorem length_le_of_present {paths : List Path} (nodup : paths.Nodup)
    (present : ∀ p ∈ paths, Present texts p) : paths.length ≤ texts.length := by
  have inside : paths ⊆ texts.map (·.1.normalize) := fun p hp =>
    List.mem_map.mpr (present p hp)
  have := (List.Nodup.subperm nodup inside).length_le
  rwa [List.length_map] at this

end Sources

/-! ## What a script leaves alone -/

/-- A script does not change which source is being built. -/
theorem Script.source_run {s : Script} {b b' : Builder} (hb : b.Sound)
    (run : s.run b = .ok () b') : b'.root = b.root ∧ b'.isExternal = b.isExternal := by
  obtain ⟨calls, left⟩ := s.exists_calls b
  rw [run] at left
  have same : ∀ {c c' : Builder}, c.Sound → c.Moved c' →
      (c.root = b.root ∧ c.isExternal = b.isExternal) →
        c'.root = b.root ∧ c'.isExternal = b.isExternal := by
    intro c c' _ moved h
    cases moved <;> exact h
  rw [show b' = _ from left]
  exact (Builder.leave_induction (P := fun c => c.root = b.root ∧ c.isExternal = b.isExternal)
    same calls hb ⟨rfl, rfl⟩).2

namespace Discovery

variable {sources : Sources} {frontEnd : FrontEnd} {features : Features} {d d' : Discovery}
  {path main : Path} {texts : List (Path × String)}

/-! ## Single visits -/

/-- What a source asks for when a search comes upon it: the paths it includes,
or nothing if it cannot be built. -/
def requested (frontEnd : FrontEnd) (features : Features) (d : Discovery) (path : Path)
    (text : String) : Option (List String) :=
  match (frontEnd path.text text).run (d.entered features path) with
  | .ok () b => b.finish.toOption.map (·.map (·.path))
  | .error _ _ => none

/-- What has been found behind a visit. -/
def founded (d : Discovery) (path : Path) : Discovery :=
  { d with found := d.found ++ [⟨path, d.graph.size, !d.found.isEmpty⟩] }

/-- A visit that succeeds: the source was read and built, and stands behind
the ones before it; the paths it asks for are known from now on. -/
theorem visit_ok (built : Built d.graph)
    (visited : visit sources frontEnd features d path = .ok d') :
    ∃ text paths, sources.read path = .ok text ∧
      requested frontEnd features d path text = some paths ∧
      d'.found = (d.founded path).found ∧
      d'.known = ((paths.map path.including).foldl enqueue (d.founded path)).known := by
  obtain ⟨text, read, visited⟩ := Steps.except_bind_eq_ok.mp visited
  obtain ⟨henter, sound⟩ := enter_eq features built path
  rw [henter] at visited
  cases run : (frontEnd path.text text).run (d.entered features path) with
  | error e b =>
      simp only [bind, Except.bind, run] at visited
      cases visited
  | ok u b =>
      simp only [bind, Except.bind, run] at visited
      obtain ⟨includes, finished, left⟩ := Steps.except_bind_eq_ok.mp visited
      cases left
      obtain ⟨root, isExternal⟩ := Script.source_run sound run
      have found : d.found ++ [⟨path, b.root, b.isExternal⟩] = (d.founded path).found := by
        rw [root, isExternal]
        rfl
      refine ⟨text, includes.map (·.path), read, ?_, ?_, ?_⟩
      · simp only [requested, run, finished, Except.toOption, Option.map_some]
      · rw [found_enqueue]
        exact found
      · rw [known, known, found_enqueue, found_enqueue, List.map_map, ← found]
        exact congrArg _ (queue_enqueue _ found rfl)

/-- All that a visit does to the graph are calls to the builder of the source. -/
theorem exists_calls_of_visit (built : Built d.graph)
    (visited : visit sources frontEnd features d path = .ok d') :
    ∃ calls : List Builder.Call,
      d'.graph = (calls.foldl Builder.Call.leave (d.entered features path)).graph := by
  obtain ⟨text, _, visited⟩ := Steps.except_bind_eq_ok.mp visited
  obtain ⟨henter, _⟩ := enter_eq features built path
  rw [henter] at visited
  obtain ⟨calls, left⟩ := (frontEnd path.text text).exists_calls (d.entered features path)
  cases run : (frontEnd path.text text).run (d.entered features path) with
  | error e b =>
      simp only [bind, Except.bind, run] at visited
      cases visited
  | ok u b =>
      simp only [bind, Except.bind, run] at visited
      obtain ⟨includes, _, after⟩ := Steps.except_bind_eq_ok.mp visited
      cases after
      rw [run] at left
      refine ⟨calls, ?_⟩
      rw [graph_enqueue, ← left]
      rfl

/-- A visit that fails: the source cannot be read, or cannot be built. -/
theorem visit_error (built : Built d.graph) {e : SchemaError}
    (failed : visit sources frontEnd features d path = .error e) :
    sources.read path = .error e ∨
      ∃ text, sources.read path = .ok text ∧ requested frontEnd features d path text = none := by
  rcases Steps.except_bind_eq_error.mp failed with read | ⟨text, read, failed⟩
  · exact .inl read
  · refine .inr ⟨text, read, ?_⟩
    obtain ⟨henter, _⟩ := enter_eq features built path
    rw [henter] at failed
    cases run : (frontEnd path.text text).run (d.entered features path) with
    | error e b => simp only [requested, run]
    | ok u b =>
        simp only [bind, Except.bind, run] at failed
        rcases Steps.except_bind_eq_error.mp failed with unfinished | ⟨_, _, left⟩
        · simp only [requested, run, unfinished, Except.toOption, Option.map_none]
        · cases left

/-! ## Where a search ends -/

/-- The search goes on until nothing is left to be read, or a visit fails. -/
inductive Ends (sources : Sources) (frontEnd : FrontEnd) (features : Features) :
    Discovery → Except SchemaError Discovery → Prop
  | done {d : Discovery} : d.queue = [] → Ends sources frontEnd features d (.ok d)
  | failed {d : Discovery} {path : Path} {rest : List Path} {e : SchemaError} :
      d.queue = path :: rest →
      visit sources frontEnd features { d with queue := rest } path = .error e →
      Ends sources frontEnd features d (.error e)
  | next {d d' : Discovery} {path : Path} {rest : List Path} {r : Except SchemaError Discovery} :
      d.queue = path :: rest →
      visit sources frontEnd features { d with queue := rest } path = .ok d' →
      Ends sources frontEnd features d' r → Ends sources frontEnd features d r

/-- What a bounded search finds is where the unbounded one ends. -/
theorem ends_of_run {limit : Nat} (found : run sources frontEnd features limit d = .ok d') :
    Ends sources frontEnd features d (.ok d') := by
  induction limit generalizing d with
  | zero =>
      unfold run at found
      split at found
      · rename_i empty
        cases found
        exact .done empty
      · cases found
  | succ limit ih =>
      unfold run at found
      split at found
      · rename_i empty
        cases found
        exact .done empty
      · rename_i path rest more
        obtain ⟨d₁, visited, later⟩ := Steps.except_bind_eq_ok.mp found
        exact .next more visited (ih later)

/-- A search ends in one way. -/
theorem Ends.unique {r r' : Except SchemaError Discovery}
    (ends : Ends sources frontEnd features d r) (ends' : Ends sources frontEnd features d r') :
    r' = r := by
  induction ends with
  | done empty =>
      cases ends' with
      | done _ => rfl
      | failed more _ => cases empty.symm.trans more
      | next more _ _ => cases empty.symm.trans more
  | failed more fails =>
      cases ends' with
      | done empty => cases empty.symm.trans more
      | failed more' fails' =>
          cases more.symm.trans more'
          exact fails'.symm.trans fails
      | next more' visited _ =>
          cases more.symm.trans more'
          cases fails.symm.trans visited
  | next more visited _ ih =>
      cases ends' with
      | done empty => cases empty.symm.trans more
      | failed more' fails =>
          cases more.symm.trans more'
          cases fails.symm.trans visited
      | next more' visited' later =>
          cases more.symm.trans more'
          cases visited.symm.trans visited'
          exact ih later

/-- What visits keep holds when the search has ended, and if it has failed,
then before the visit that failed. -/
theorem Ends.keeps {P : Discovery → Prop} {r : Except SchemaError Discovery}
    (step : ∀ {d d' path rest}, P d → d.queue = path :: rest →
      visit sources frontEnd features { d with queue := rest } path = .ok d' → P d')
    (ends : Ends sources frontEnd features d r) (start : P d) :
    (∀ d', r = .ok d' → P d' ∧ d'.queue = []) ∧
      ∀ e, r = .error e → ∃ d' path rest, P d' ∧ d'.queue = path :: rest ∧
        visit sources frontEnd features { d' with queue := rest } path = .error e := by
  induction ends with
  | @done d empty =>
      refine ⟨?_, fun e h => by cases h⟩
      rintro d' ⟨⟩
      exact ⟨start, empty⟩
  | @failed d path rest e more fails =>
      refine ⟨fun d' h => by (cases h), ?_⟩
      rintro e' ⟨⟩
      exact ⟨d, path, rest, start, more, fails⟩
  | next more visited _ ih => exact ih (step start more visited)

/-! ## What every search keeps -/

/-- Paths are known once each and in their normal forms, what has been found
was there to be read, and all of it but the first source is included. -/
structure Proper (sources : Sources) (main : Path) (d : Discovery) : Prop where
  built : Built d.graph
  nodup : d.known.Nodup
  normal : ∀ p ∈ d.known, p.normalize = p
  readable : ∀ s ∈ d.found, ∃ text, sources.read s.path = .ok text
  first : d.found = [] ∧ d.queue = [main.normalize] ∨
    ∃ root rest, d.found = ⟨main.normalize, root, false⟩ :: rest ∧ ∀ s ∈ rest, s.isExternal = true

theorem proper_start (sources : Sources) (main : Path) : Proper sources main (.start main) where
  built := .empty
  nodup := List.nodup_singleton _
  normal := by
    intro p hp
    rw [List.mem_singleton.mp hp]
    exact Path.normalize_normalize main
  readable := fun s hs => absurd hs List.not_mem_nil
  first := .inl ⟨rfl, rfl⟩

theorem enqueue_keeps {P : List Path → Prop} {paths : List Path}
    (add : ∀ {known path}, path ∈ paths → path ∉ known → P known → P (known ++ [path]))
    (hd : P d.known) : P (paths.foldl enqueue d).known := by
  induction paths generalizing d with
  | nil => exact hd
  | cons path paths ih =>
      rw [List.foldl_cons]
      refine ih (fun hp => add (List.mem_cons_of_mem _ hp)) ?_
      unfold enqueue
      split
      · exact hd
      · rename_i fresh
        have added := add List.mem_cons_self fresh hd
        rwa [known, List.append_assoc] at added

theorem known_of_empty (empty : d.queue = []) : d.known = d.found.map (·.path) := by
  rw [known, empty, List.append_nil]

theorem mem_known_of_queue {rest : List Path} (more : d.queue = path :: rest) : path ∈ d.known := by
  rw [known, more]
  exact List.mem_append_right _ List.mem_cons_self

/-- Taking a path off the queue and finding it changes nothing about what is known. -/
theorem known_founded {rest : List Path} (more : d.queue = path :: rest) :
    (founded { d with queue := rest } path).known = d.known := by
  simp [founded, known, more]

theorem Proper.visit {rest : List Path} (proper : Proper sources main d)
    (more : d.queue = path :: rest)
    (visited : Discovery.visit sources frontEnd features { d with queue := rest } path = .ok d') :
    Proper sources main d' := by
  obtain ⟨text, paths, read, _, found, known⟩ := visit_ok (d := { d with queue := rest })
    proper.built visited
  have before := known_founded more
  have found : d'.found = d.found ++ [⟨path, d.graph.size, !d.found.isEmpty⟩] := found
  refine ⟨built_visit (d := { d with queue := rest }) proper.built visited, ?_, ?_, ?_, ?_⟩
  · rw [known]
    refine enqueue_keeps (fun _ fresh nodup => ?_) (before ▸ proper.nodup)
    rw [← List.concat_eq_append]
    exact nodup.concat fresh
  · rw [known]
    refine enqueue_keeps (P := fun known => ∀ p ∈ known, p.normalize = p)
      (fun hpath _ normal p hp => ?_) (before ▸ proper.normal)
    rcases List.mem_append.mp hp with hp | hp
    · exact normal p hp
    · obtain ⟨name, _, rfl⟩ := List.mem_map.mp hpath
      rw [List.mem_singleton.mp hp]
      exact Path.normalize_including path name
  · intro s hs
    rw [found] at hs
    rcases List.mem_append.mp hs with hs | hs
    · exact proper.readable s hs
    · rw [List.mem_singleton.mp hs]
      exact ⟨text, read⟩
  · right
    rcases proper.first with ⟨none, only⟩ | ⟨root, others, some, external⟩
    · rw [more] at only
      cases only
      exact ⟨d.graph.size, [], by rw [found, none]; rfl, fun s hs => absurd hs List.not_mem_nil⟩
    · refine ⟨root, others ++ [⟨path, d.graph.size, true⟩], by rw [found, some]; rfl, ?_⟩
      intro s hs
      rcases List.mem_append.mp hs with hs | hs
      · exact external s hs
      · rw [List.mem_singleton.mp hs]

/-! ## Searches through texts end -/

/-- When as many sources have been found as there are texts, the next path has
no text. -/
theorem Proper.missing {rest : List Path} (proper : Proper (.ofTexts texts) main d)
    (more : d.queue = path :: rest) (all : texts.length ≤ d.found.length) :
    (Sources.ofTexts texts).read path = .error (.fileNotFound path) := by
  have known : d.known = d.found.map (·.path) ++ path :: rest := by rw [known, more]
  have normal : ∀ p ∈ d.found.map (·.path) ++ path :: rest, p.normalize = p :=
    known ▸ proper.normal
  have next := normal path (List.mem_append_right _ List.mem_cons_self)
  rcases Sources.read_ofTexts texts next with ⟨_, present⟩ | ⟨missing, _⟩
  · have nodup : (d.found.map (·.path) ++ [path]).Nodup :=
      List.Nodup.sublist (List.Sublist.append_left (by simp) _) (known ▸ proper.nodup)
    have length := Sources.length_le_of_present nodup fun p hp => by
      rcases List.mem_append.mp hp with hp | hp
      · obtain ⟨s, hs, rfl⟩ := List.mem_map.mp hp
        obtain ⟨text, read⟩ := proper.readable s hs
        exact Sources.present_of_read (normal s.path (List.mem_append_left _ hp)) read
      · rwa [List.mem_singleton.mp hp]
    rw [List.length_append, List.length_map, List.length_singleton] at length
    exact absurd length (Nat.not_le_of_lt (Nat.lt_succ_of_le all))
  · exact missing

/-- With room for every text the bounded search ends as the unbounded one does. -/
theorem Proper.ends_run {limit : Nat} (proper : Proper (.ofTexts texts) main d)
    (room : texts.length ≤ d.found.length + limit) :
    Ends (.ofTexts texts) frontEnd features d (run (.ofTexts texts) frontEnd features limit d) := by
  induction limit generalizing d with
  | zero =>
      unfold run
      cases more : d.queue with
      | nil => exact .done more
      | cons path rest =>
          refine .failed more (Steps.except_bind_eq_error.mpr (.inl ?_))
          exact proper.missing more room
  | succ limit ih =>
      unfold run
      cases more : d.queue with
      | nil => exact .done more
      | cons path rest =>
          simp only
          cases visited : Discovery.visit (.ofTexts texts) frontEnd features
              { d with queue := rest } path with
          | error e => exact .failed more visited
          | ok d' =>
              refine .next more visited (ih (proper.visit more visited) ?_)
              obtain ⟨_, _, _, _, found, _⟩ := visit_ok (d := { d with queue := rest })
                proper.built visited
              have : d'.found.length = d.found.length + 1 := by
                rw [found, founded, List.length_append]
                rfl
              omega

end Discovery

end TypeSchema
