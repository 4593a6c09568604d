/-
# Discovery — the forest that a set of sources comes to

Visiting a source plants one tree at the end of the graph: the root of the
source, with what its entries declare inside.  How the search goes on depends
on what the sources include, never on the graph.  So if the entries of
sources are put in another order (`Sources.Reordered`), the same sources are
found in the same order, and the graph shows the same roots with the same
declarations inside, in another order (`Related`).
-/
import TypeSchema.Proofs.Graph.Reordering
import TypeSchema.Proofs.JsonSource.Forest

namespace TypeSchema

open Declaration (Id)

/-! ## Sources in another order -/

namespace JsonSource

/-- Two texts that include the same and declare the same, wherever in the text that stands; the
entries at the top may be in another order. -/
def SameEntries (text text' : String) : Prop :=
  ∃ includes declarations includes' declarations' : List Json.Raw,
    readSource text.toList = some (includes, declarations) ∧
    readSource text'.toList = some (includes', declarations') ∧
    includes'.map Json.Raw.unplaced = includes.map Json.Raw.unplaced ∧
    (declarations'.map Json.Raw.unplaced).Perm (declarations.map Json.Raw.unplaced)

theorem SameEntries.symm {text text' : String} (h : SameEntries text text') :
    SameEntries text' text := by
  obtain ⟨includes, declarations, includes', declarations', read, read', same, perm⟩ := h
  exact ⟨includes', declarations', includes, declarations, read', read, same.symm, perm.symm⟩

instance (text text' : String) : Decidable (SameEntries text text') :=
  match h : readSource text.toList, h' : readSource text'.toList with
  | some parts, some parts' =>
    decidable_of_iff (parts'.1.map Json.Raw.unplaced = parts.1.map Json.Raw.unplaced ∧
        (parts'.2.map Json.Raw.unplaced).Perm (parts.2.map Json.Raw.unplaced)) (by
      constructor
      · rintro ⟨same, perm⟩
        exact ⟨_, _, _, _, h, h', same, perm⟩
      · rintro ⟨_, _, _, _, read, read', same, perm⟩
        cases h.symm.trans read
        cases h'.symm.trans read'
        exact ⟨same, perm⟩)
  | none, _ => isFalse (by
      rintro ⟨_, _, _, _, read, _⟩
      cases h.symm.trans read)
  | _, none => isFalse (by
      rintro ⟨_, _, _, _, _, read', _⟩
      cases h'.symm.trans read')

/-- What was read from a text has the same entries as the text itself. -/
theorem SameEntries.refl {text : String} {parts : List Json.Raw × List Json.Raw}
    (read : readSource text.toList = some parts) : SameEntries text text :=
  ⟨parts.1, parts.2, parts.1, parts.2, read, read, rfl, .refl _⟩

end JsonSource

/-- The same sources, of which each may have the entries at its top in another order. -/
structure Sources.Reordered (s s' : Sources) : Prop where
  limit : s'.limit = s.limit
  read : ∀ path, s'.read path = s.read path ∨
    ∃ text text', s.read path = .ok text ∧ s'.read path = .ok text' ∧
      JsonSource.SameEntries text text'

theorem Sources.Reordered.symm {s s' : Sources} (h : s.Reordered s') : s'.Reordered s where
  limit := h.limit.symm
  read := fun path => by
    rcases h.read path with same | ⟨text, text', read, read', same⟩
    · exact .inl same.symm
    · exact .inr ⟨text', text, read', read, same.symm⟩

namespace JsonSource

/-! ## Entries in another order -/

theorem Entry.all_eq (items : List Json.Raw) : Entry.all items = items.map Entry.ofRaw := by
  induction items with
  | nil => rfl
  | cons v items ih => rw [Entry.all, ih, List.map_cons]

section Order

variable {features : Features} {isExternal : Bool} {place : Nat → Location}

/-- Entries in another order come to the same declarations in another order. -/
theorem Entry.forest?_perm {es es' : List Entry} (h : es.Perm es') {f : Forest}
    (hf : Entry.forest? features isExternal place es = some f) :
    ∃ f', Entry.forest? features isExternal place es' = some f' ∧ f.Reordered f' := by
  induction h generalizing f with
  | nil => exact ⟨f, hf, .refl f⟩
  | cons e _ ih =>
      rw [Entry.forest?] at hf
      obtain ⟨t, ht, hf⟩ := Option.bind_eq_some_iff.mp hf
      obtain ⟨rest, hrest, rfl⟩ := Option.map_eq_some_iff.mp hf
      obtain ⟨rest', hrest', reordered⟩ := ih hrest
      exact ⟨.beside t rest', by rw [Entry.forest?, ht, hrest']; rfl, reordered.beside t⟩
  | swap e₁ e₂ es =>
      rw [Entry.forest?, Entry.forest?] at hf
      obtain ⟨t₂, ht₂, hf₂⟩ := Option.bind_eq_some_iff.mp hf
      obtain ⟨_, hlater, rfl⟩ := Option.map_eq_some_iff.mp hf₂
      obtain ⟨t₁, ht₁, hf₁⟩ := Option.bind_eq_some_iff.mp hlater
      obtain ⟨rest, hrest, rfl⟩ := Option.map_eq_some_iff.mp hf₁
      exact ⟨_, by rw [Entry.forest?, Entry.forest?, ht₁, ht₂, hrest]; rfl, .swap t₂ t₁ rest⟩
  | trans _ _ ih ih' =>
      obtain ⟨f', hf', reordered⟩ := ih hf
      obtain ⟨f'', hf'', reordered'⟩ := ih' hf'
      exact ⟨f'', hf'', reordered.trans reordered'⟩

theorem Entry.forest?_all_unplaced (place : Nat → Location) (items : List Json.Raw) :
    (Entry.forest? features isExternal place (Entry.all items)).map Forest.unplaced
      = Entry.forest? features isExternal (fun _ => .api)
        (Entry.all (items.map Json.Raw.unplaced)) := by
  rw [Entry.forest?_unplaced, ← Entry.all_unplaced, Json.Raw.unplacedItems_eq]

/-- The same for values in a text, wherever they stand in it. -/
theorem Entry.forest?_reordered {items items' : List Json.Raw} {place' : Nat → Location}
    (perm : (items'.map Json.Raw.unplaced).Perm (items.map Json.Raw.unplaced)) {f : Forest}
    (hf : Entry.forest? features isExternal place (Entry.all items) = some f) :
    ∃ f', Entry.forest? features isExternal place' (Entry.all items') = some f' ∧
      f.unplaced.Reordered f'.unplaced := by
  have unplaced := (congrArg (Option.map Forest.unplaced) hf).symm.trans
    (Entry.forest?_all_unplaced place items)
  rw [Option.map_some, Entry.all_eq] at unplaced
  obtain ⟨g, hg, reordered⟩ := Entry.forest?_perm (perm.symm.map Entry.ofRaw) unplaced.symm
  rw [← Entry.all_eq, ← Entry.forest?_all_unplaced place'] at hg
  obtain ⟨f', hf', rfl⟩ := Option.map_eq_some_iff.mp hg
  exact ⟨f', hf', reordered⟩

end Order

/-! ## Reading one source -/

/-- The paths that a source includes. -/
def includedPaths (includes : List Json.Raw) : Option (List String) :=
  includes.mapM Json.Raw.string?

theorem includedPaths_unplaced (includes : List Json.Raw) :
    includedPaths (includes.map Json.Raw.unplaced) = includedPaths includes := by
  unfold includedPaths
  rw [List.mapM_map]
  exact congrArg (includes.mapM ·) (funext Json.Raw.string?_unplaced)

section Read

variable (place : Nat → Location)

/-- Taking note of includes changes nothing else. -/
theorem includes_run {includes : List Json.Raw} {paths : List String}
    (h : includedPaths includes = some paths) (b : Builder) :
    ∃ found : List Builder.Include, found.map (·.path) = paths ∧
      (Script.sequence (includes.map (includeScript place))).run b
        = .ok () { b with includes := b.includes ++ found } := by
  induction includes generalizing b paths with
  | nil =>
      cases h
      exact ⟨[], rfl, by rw [List.append_nil]; rfl⟩
  | cons v includes ih =>
      rw [includedPaths, List.mapM_cons] at h
      obtain ⟨path, hpath, hlater⟩ := Option.bind_eq_some_iff.mp h
      obtain ⟨rest, hrest, hpaths⟩ := Option.bind_eq_some_iff.mp hlater
      cases hpaths
      have first : (includeScript place v).run b
          = .ok () { b with includes := b.includes ++ [⟨path, place v.start⟩] } := by
        simp only [includeScript, hpath]
        exact Script.need_ok rfl
      obtain ⟨found, same, run⟩ := ih hrest
        { b with includes := b.includes ++ [⟨path, place v.start⟩] }
      refine ⟨⟨path, place v.start⟩ :: found, by rw [List.map_cons, same], ?_⟩
      refine (Script.andThen_ok first).trans (run.trans ?_)
      simp

theorem includes_fail {includes : List Json.Raw} (h : includedPaths includes = none)
    (b : Builder) : (Script.sequence (includes.map (includeScript place))).Fails b := by
  induction includes generalizing b with
  | nil => cases h
  | cons v includes ih =>
      rw [includedPaths, List.mapM_cons] at h
      cases hpath : v.string? with
      | none =>
          refine Script.Fails.andThen ⟨.invalidJson, b, ?_⟩
          simp only [includeScript, hpath]
          rfl
      | some path =>
          have first : (includeScript place v).run b
              = .ok () { b with includes := b.includes ++ [⟨path, place v.start⟩] } := by
            simp only [includeScript, hpath]
            exact Script.need_ok rfl
          refine Script.fails_andThen first (ih ?_ _)
          rw [hpath] at h
          cases hrest : includes.mapM Json.Raw.string? with
          | none => exact hrest
          | some rest => rw [hrest] at h; cases h

/-- What a text comes to: the paths it includes, and its declarations. -/
def Content (features : Features) (isExternal : Bool) (source text : String)
    (paths : List String) (f : Forest) : Prop :=
  ∃ includes declarations, readSource text.toList = some (includes, declarations) ∧
    includedPaths includes = some paths ∧
    Entry.forest? features isExternal (Location.after source text.toList)
      (Entry.all declarations) = some f

/-- The same entries come to the same content, in another order. -/
theorem Content.of_sameEntries {features : Features} {isExternal : Bool}
    {source text text' : String} {paths : List String} {f : Forest}
    (content : Content features isExternal source text paths f) (same : SameEntries text text') :
    ∃ f', Content features isExternal source text' paths f' ∧ f.unplaced.Reordered f'.unplaced := by
  obtain ⟨includes, declarations, hread, hpaths, hforest⟩ := content
  obtain ⟨_, _, includes', declarations', read, read', hincludes, perm⟩ := same
  cases hread.symm.trans read
  obtain ⟨f', hf', reordered⟩ := Entry.forest?_reordered perm hforest
  refine ⟨f', ⟨includes', declarations', read', ?_, hf'⟩, reordered⟩
  rw [← includedPaths_unplaced, hincludes, includedPaths_unplaced, hpaths]

/-- Running the reader of a source plants what the source declares where the builder stands, and
adds to the includes. -/
theorem frontEnd_grows {b : Builder} (hb : b.Sound) {source text : String} {paths : List String}
    {f : Forest} (content : Content b.features b.isExternal source text paths f) :
    ∃ b', (frontEnd source text).run b = .ok () b' ∧
      Graph.Grown b.graph (some b.scope) f b'.graph ∧ b'.root = b.root ∧
      b'.opened = b.opened ∧ b'.isExternal = b.isExternal ∧
      b'.includes.map (·.path) = b.includes.map (·.path) ++ paths := by
  obtain ⟨includes, declarations, hread, hpaths, hforest⟩ := content
  obtain ⟨found, same, run⟩ := includes_run (Location.after source text.toList) hpaths b
  have sound := Script.sound_run hb run
  obtain ⟨b', run', after⟩ := (Entry.plants_scripts _ (Entry.all declarations) sound).ok hforest
  refine ⟨b', ?_, after.grown, after.root, after.opened, after.isExternal, ?_⟩
  · simp only [frontEnd, hread]
    exact (Script.andThen_ok run).trans run'
  · rw [after.includes, List.map_append, same]

/-- The same on a builder without includes. -/
theorem frontEnd_run {b : Builder} (hb : b.Sound) (fresh : b.includes = []) {source text : String}
    {paths : List String} {f : Forest}
    (content : Content b.features b.isExternal source text paths f) :
    ∃ b', (frontEnd source text).run b = .ok () b' ∧
      Graph.Grown b.graph (some b.scope) f b'.graph ∧ b'.root = b.root ∧
      b'.opened = b.opened ∧ b'.isExternal = b.isExternal ∧
      b'.includes.map (·.path) = paths := by
  have grows := frontEnd_grows hb content
  rwa [fresh] at grows

/-- If the reader comes to the end of a text, the text has content. -/
theorem exists_content {b b' : Builder} (hb : b.Sound) {source text : String}
    (run : (frontEnd source text).run b = .ok () b') :
    ∃ paths f, Content b.features b.isExternal source text paths f := by
  cases hread : readSource text.toList with
  | none =>
      simp only [frontEnd, hread] at run
      cases run
  | some parts =>
      simp only [frontEnd, hread] at run
      cases hpaths : includedPaths parts.1 with
      | none => exact absurd (includes_fail _ hpaths b).andThen (Script.not_fails run)
      | some paths =>
          obtain ⟨found, _, first⟩ := includes_run
            (Location.after source text.toList) hpaths b
          have planted := Entry.plants_scripts (Location.after source text.toList)
            (Entry.all parts.2) (Script.sound_run hb first)
          cases hf : Entry.forest? b.features b.isExternal (Location.after source text.toList)
              (Entry.all parts.2) with
          | none =>
              exact absurd (Script.fails_andThen first (planted.fails hf)) (Script.not_fails run)
          | some f => exact ⟨paths, f, parts.1, parts.2, hread, hpaths, hf⟩

end Read

end JsonSource

/-! ## Visiting sources -/

namespace Discovery

open JsonSource (Content)

variable {sources sources' : Sources} {features : Features} {d d' e e' : Discovery} {path : Path}

/-- The root that stands for a source. -/
def rootOf (path : Path) (isExternal : Bool) : Declaration :=
  .fresh .standard .root none ⟨path.text, 0, 0⟩ isExternal

/-- What is to be read once a source has been read that includes the given paths. -/
def afterwards (d : Discovery) (path : Path) (paths : List String) : List Path :=
  ((paths.map path.including).foldl enqueue
    { d with found := d.found ++ [⟨path, d.graph.size, !d.found.isEmpty⟩] }).queue

theorem found_enqueue (paths : List Path) (d : Discovery) :
    (paths.foldl enqueue d).found = d.found := by
  induction paths generalizing d with
  | nil => rfl
  | cons path paths ih =>
      rw [List.foldl_cons, ih]
      unfold enqueue
      split <;> rfl

/-- The queue does not depend on the graph. -/
theorem queue_enqueue (paths : List Path) (found : d'.found = d.found) (queue : d'.queue = d.queue) :
    (paths.foldl enqueue d').queue = (paths.foldl enqueue d).queue := by
  induction paths generalizing d d' with
  | nil => exact queue
  | cons path paths ih =>
      have known : d'.known = d.known := by rw [known, found, queue, known]
      rw [List.foldl_cons, List.foldl_cons]
      refine ih ?_ ?_
      · unfold enqueue
        rw [known]
        split <;> exact found
      · unfold enqueue
        rw [known]
        split
        · exact queue
        · show d'.queue ++ [path] = d.queue ++ [path]
          rw [queue]

/-- The builder of a source before anything has been read. -/
def entered (d : Discovery) (features : Features) (path : Path) : Builder :=
  .start (d.graph.adopt (rootOf path (!d.found.isEmpty))) features d.graph.size (!d.found.isEmpty)

theorem enter_eq (features : Features) (built : Graph.Built d.graph) (path : Path) :
    d.enter features path = .ok (d.entered features path) ∧ (d.entered features path).Sound := by
  have newborn := Graph.newborn_root d.graph ⟨path.text, 0, 0⟩ (!d.found.isEmpty)
  have added := Graph.add_ok built.raw newborn
  refine ⟨?_, Graph.sound_start built.raw built.tree added features⟩
  simp only [enter, added]
  rfl

/-- Visiting a source that has content plants its tree at the end of the graph. -/
theorem exists_visit (built : Graph.Built d.graph) {text : String} {paths : List String}
    {f : Forest} (read : sources.read path = .ok text)
    (content : Content features (!d.found.isEmpty) path.text text paths f) :
    ∃ d', visit sources JsonSource.frontEnd features d path = .ok d' ∧
      Graph.Grown d.graph none (.tree (rootOf path (!d.found.isEmpty)) f) d'.graph ∧
      d'.found = d.found ++ [⟨path, d.graph.size, !d.found.isEmpty⟩] ∧
      d'.queue = d.afterwards path paths := by
  obtain ⟨henter, sound⟩ := enter_eq features built path
  obtain ⟨b, run, grown, root, opened, isExternal, rfl⟩ :=
    JsonSource.frontEnd_run sound rfl content
  have finished : b.finish = .ok b.includes := by
    rw [Builder.finish, show b.opened = [] from opened]
  have visited : visit sources JsonSource.frontEnd features d path = d.leave path b := by
    simp only [visit, read, henter, bind, Except.bind, run]
  refine ⟨_, visited.trans (by simp only [leave, finished, bind, Except.bind]; rfl), ?_, ?_, ?_⟩
  · rw [graph_enqueue]
    have newborn : Graph.Newborn d.graph (rootOf path (!d.found.isEmpty)) :=
      Graph.newborn_root d.graph ⟨path.text, 0, 0⟩ (!d.found.isEmpty)
    have planted := Graph.Grown.tree newborn grown (rootOf path (!d.found.isEmpty))
    have node := Graph.Grown.node_self (d := rootOf path (!d.found.isEmpty)) rfl grown
    rwa [← node, Graph.put_node] at planted
  · rw [found_enqueue]
    show d.found ++ [⟨path, b.root, b.isExternal⟩] = _
    rw [root, isExternal]
    rfl
  · rw [afterwards, List.map_map]
    refine queue_enqueue _ ?_ rfl
    show d.found ++ [⟨path, b.root, b.isExternal⟩] = _
    rw [root, isExternal]
    rfl

theorem exists_content (built : Graph.Built d.graph)
    (h : visit sources JsonSource.frontEnd features d path = .ok d') :
    ∃ text paths f, sources.read path = .ok text ∧
      Content features (!d.found.isEmpty) path.text text paths f := by
  obtain ⟨text, read, h⟩ := Steps.except_bind_eq_ok.mp h
  obtain ⟨henter, sound⟩ := enter_eq features built path
  rw [henter] at h
  cases run : (JsonSource.frontEnd path.text text).run (d.entered features path) with
  | error e b => simp only [bind, Except.bind, run] at h; cases h
  | ok u b =>
      obtain ⟨paths, f, content⟩ := JsonSource.exists_content sound run
      exact ⟨text, paths, f, read, content⟩

/-! ## Two searches through the same sources -/

/-- The graph is a forest, which starts at its first declaration. -/
abbrev Shows (g : Graph) (f : Forest) : Prop := Graph.Grown .empty none f g

/-- Searches that have found the same, apart from the order of what sources declare. -/
structure Related (d d' : Discovery) : Prop where
  built : Graph.Built d.graph
  built' : Graph.Built d'.graph
  found : d'.found = d.found
  queue : d'.queue = d.queue
  forests : ∃ f f', Shows d.graph f ∧ Shows d'.graph f' ∧ f.unplaced.Resown f'.unplaced ∧
    d.found.map (·.root) = f.tops 0

theorem Related.start (main : Path) : Related (.start main) (.start main) where
  built := .empty
  built' := .empty
  found := rfl
  queue := rfl
  forests := ⟨.none, .none, .none _ _, .none _ _, .none, rfl⟩

theorem Related.size (h : Related d d') : d'.graph.size = d.graph.size := by
  obtain ⟨f, f', shows, shows', resown, _⟩ := h.forests
  have same : f'.size = f.size := by
    rw [← f'.size_unplaced, resown.size, f.size_unplaced]
  rw [shows'.size, same, shows.size]

theorem Related.dequeue (h : Related d d') (rest : List Path) :
    Related { d with queue := rest } { d' with queue := rest } where
  built := h.built
  built' := h.built'
  found := h.found
  queue := rfl
  forests := h.forests

/-- One source after another, the searches find the same. -/
theorem Related.visit (same : sources.Reordered sources') (h : Related d d')
    (run : Discovery.visit sources JsonSource.frontEnd features d path = .ok e) :
    ∃ e', Discovery.visit sources' JsonSource.frontEnd features d' path = .ok e' ∧
      Related e e' := by
  obtain ⟨text, paths, f, read, content⟩ := exists_content h.built run
  obtain ⟨text', read', entries⟩ : ∃ text', sources'.read path = .ok text' ∧
      JsonSource.SameEntries text text' := by
    rcases same.read path with eq | ⟨t, t', ht, ht', entries⟩
    · obtain ⟨includes, declarations, parts, _⟩ := content
      exact ⟨text, eq.trans read, .refl parts⟩
    · cases read.symm.trans ht
      exact ⟨t', ht', entries⟩
  obtain ⟨f', content', reordered⟩ := JsonSource.Content.of_sameEntries content entries
  obtain ⟨e₁, run₁, grown, found, queue⟩ := exists_visit h.built read content
  cases run.symm.trans run₁
  obtain ⟨e', run', grown', found', queue'⟩ :=
    exists_visit h.built' read' (d := d') (h.found ▸ content')
  refine ⟨e', run', built_visit h.built run, built_visit h.built' run', ?_, ?_, ?_⟩
  · rw [found', found, h.found, h.size]
  · rw [queue', queue, afterwards, afterwards]
    exact queue_enqueue _ (by simp only [h.found, h.size]) h.queue
  · obtain ⟨s, s', shows, shows', resown, roots⟩ := h.forests
    rw [h.found] at grown'
    refine ⟨_, _, shows.beside (by simp) grown, shows'.beside (by simp) grown',
      .beside resown (.tree _ rfl reordered), ?_⟩
    rw [found, List.map_append, roots, Forest.tops, Forest.tops, shows.size]
    rfl

/-- The searches end alike. -/
theorem Related.run (same : sources.Reordered sources') (h : Related d d') {limit : Nat}
    (run : Discovery.run sources JsonSource.frontEnd features limit d = .ok e) :
    ∃ e', Discovery.run sources' JsonSource.frontEnd features limit d' = .ok e' ∧
      Related e e' := by
  induction limit generalizing d d' with
  | zero =>
      unfold Discovery.run at run ⊢
      rw [h.queue]
      cases hq : d.queue with
      | nil =>
          rw [hq] at run
          cases run
          exact ⟨d', rfl, h⟩
      | cons path rest =>
          rw [hq] at run
          cases run
  | succ limit ih =>
      unfold Discovery.run at run ⊢
      rw [h.queue]
      cases hq : d.queue with
      | nil =>
          rw [hq] at run
          cases run
          exact ⟨d', rfl, h⟩
      | cons path rest =>
          rw [hq] at run
          obtain ⟨d₁, visited, later⟩ := Steps.except_bind_eq_ok.mp run
          obtain ⟨d₁', visited', related⟩ := (h.dequeue rest).visit same visited
          obtain ⟨e', later', ended⟩ := ih related later
          exact ⟨e', Steps.except_bind_eq_ok.mpr ⟨d₁', visited', later'⟩, ended⟩

end Discovery

end TypeSchema
