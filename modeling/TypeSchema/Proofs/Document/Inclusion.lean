/-
# Inclusion — which sources discovery finds, and in which order

What a source asks for may depend on the search that comes upon it, because a
reader sees what its calls give.  Of readers that go by name and text alone
(`GoesByText`, as the one of JSON does) discovery finds the closure of the
main source under what sources ask for.

At any time the paths that are known are the main one and then those that the
sources found so far ask for, each where it is asked for first
(`Ordered.known_eq`).  At the end nothing else is known than what has been
found, so this describes the sources of a document by themselves; and paths
to which fewer includes lead come first (`nearer_of_order`).
-/
import Mathlib.Data.List.Induction
import Mathlib.Logic.Relation
import TypeSchema.Proofs.Document.Search
import TypeSchema.Proofs.Document.Settled

namespace TypeSchema

open TypeSchema.Graph (Built)

namespace Discovery

/-! ## Breadth first -/

section Order

variable {asks : Path → List Path} {main : Path}

/-- Includes lead from the main source to a path in a number of steps. -/
inductive Away (asks : Path → List Path) (main : Path) : Nat → Path → Prop
  | start : Away asks main 0 main
  | step {n : Nat} {p q : Path} : Away asks main n p → q ∈ asks p → Away asks main (n + 1) q

/-- No more includes lead to `p` than to `q`. -/
def Nearer (asks : Path → List Path) (main p q : Path) : Prop :=
  ∀ n, Away asks main n q → ∃ m ≤ n, Away asks main m p

theorem eraseDups_concat (xs : List Path) (p : Path) :
    (xs ++ [p]).eraseDups = if p ∈ xs then xs.eraseDups else xs.eraseDups ++ [p] := by
  rw [List.eraseDups_append]
  by_cases hp : p ∈ xs
  · simp [List.removeAll, hp]
  · simp [List.removeAll, hp, List.eraseDups_cons]

theorem nodup_eraseDups (xs : List Path) : xs.eraseDups.Nodup := by
  induction xs using List.reverseRecOn with
  | nil => exact List.nodup_nil
  | append_singleton xs p ih =>
      rw [eraseDups_concat]
      split
      · exact ih
      · rename_i fresh
        rw [← List.concat_eq_append]
        exact ih.concat (mt List.mem_eraseDups.mp fresh)

/-- In a list without repetition, what stands before an element of a first
part is in this part. -/
theorem mem_of_before {before after ys zs : List Path} {p q : Path}
    (nodup : (before ++ q :: after).Nodup) (split : before ++ q :: after = ys ++ zs)
    (hq : q ∈ ys) (hp : p ∈ before) : p ∈ ys := by
  rcases List.append_eq_append_iff.mp split with ⟨_, rfl, _⟩ | ⟨_, rfl, _⟩
  · exact List.mem_append_left _ hp
  · have disjoint := (List.nodup_append.mp nodup).2.2
    exact absurd rfl (disjoint q (List.mem_append_left _ hq) q List.mem_cons_self)

variable {paths : List Path} (order : paths = (main :: paths.flatMap asks).eraseDups)
include order

theorem mem_of_order {p : Path} : p ∈ paths ↔ p = main ∨ ∃ q ∈ paths, p ∈ asks q := by
  conv_lhs => rw [order]
  rw [List.mem_eraseDups, List.mem_cons, List.mem_flatMap]

theorem mem_of_away {n : Nat} {p : Path} (away : Away asks main n p) : p ∈ paths := by
  induction away with
  | start => exact (mem_of_order order).mpr (.inl rfl)
  | @step _ p q _ hq ih => exact (mem_of_order order).mpr (.inr ⟨p, ih, hq⟩)

/-- Where paths stand in the order in which they are asked for, no path has a
farther one before it. -/
theorem away_of_before {n : Nat} {q : Path} (away : Away asks main n q) :
    ∀ {before after p}, paths = before ++ q :: after → p ∈ before →
      ∃ m ≤ n, Away asks main m p := by
  have nodup : paths.Nodup := order ▸ nodup_eraseDups _
  induction away with
  | start =>
      intro before after p split hp
      have first := order
      rw [List.eraseDups_cons, split] at first
      cases before with
      | nil => cases hp
      | cons b before =>
          cases List.head_eq_of_cons_eq first
          rw [split] at nodup
          exact absurd (List.mem_append_right _ List.mem_cons_self) (List.nodup_cons.mp nodup).1
  | @step n q' q away hq ih =>
      intro before after p split hp
      -- what is asked for up to `q'`, among which is `q`, and what is asked for later
      obtain ⟨earlier, later, at'⟩ := List.append_of_mem (mem_of_away order away)
      have asked : paths = (main :: (earlier.flatMap asks ++ asks q')).eraseDups ++
          ((later.flatMap asks).removeAll
            (main :: (earlier.flatMap asks ++ asks q'))).eraseDups := by
        rw [← List.eraseDups_append]
        conv_lhs => rw [order, at']
        simp
      rw [split] at asked nodup
      have early := mem_of_before nodup asked
        (List.mem_eraseDups.mpr (List.mem_cons_of_mem _ (List.mem_append_right _ hq))) hp
      rcases List.mem_cons.mp (List.mem_eraseDups.mp early) with rfl | early
      · exact ⟨0, Nat.zero_le _, .start⟩
      · rcases List.mem_append.mp early with early | early
        · obtain ⟨p', hp', asks'⟩ := List.mem_flatMap.mp early
          obtain ⟨m, hm, away'⟩ := ih at' hp'
          exact ⟨m + 1, Nat.succ_le_succ hm, .step away' asks'⟩
        · exact ⟨n + 1, Nat.le_refl _, .step away early⟩

theorem nearer_of_order : paths.Pairwise (Nearer asks main) := by
  refine List.pairwise_iff_getElem.mpr fun i j hi hj hij n away => ?_
  have split : paths = paths.take j ++ paths[j] :: paths.drop (j + 1) := by
    rw [List.getElem_cons_drop, List.take_append_drop]
  exact away_of_before order away split (List.mem_take_iff_getElem.mpr ⟨i, by omega, rfl⟩)

end Order

/-! ## Readers that go by the text -/

/-- Name and text of a source decide whether it can be built and what it
includes, whatever search comes upon it. -/
def GoesByText (frontEnd : FrontEnd) (features : Features) : Prop :=
  ∀ (d d' : Discovery) (path : Path) (text : String), Built d.graph → Built d'.graph →
    requested frontEnd features d path text = requested frontEnd features d' path text

/-- The paths that a source asks for, relative to its directory. -/
def asks (sources : Sources) (frontEnd : FrontEnd) (features : Features) (path : Path) :
    List Path :=
  match sources.read path with
  | .ok text =>
    ((requested frontEnd features (.start path) path text).getD []).map path.including
  | .error _ => []

/-- Includes lead from the main source to a path. -/
def Reaches (asks : Path → List Path) : Path → Path → Prop :=
  Relation.ReflTransGen fun p q => q ∈ asks p

variable {sources : Sources} {frontEnd : FrontEnd} {features : Features} {d d' : Discovery}
  {path main : Path} {texts : List (Path × String)}

theorem asks_eq (goes : GoesByText frontEnd features) (built : Built d.graph) {text : String}
    {paths : List String} (read : sources.read path = .ok text)
    (request : requested frontEnd features d path text = some paths) :
    asks sources frontEnd features path = paths.map path.including := by
  rw [asks, read]
  simp only
  rw [goes (.start path) d path text .empty built, request]
  rfl

/-! ## What the search keeps -/

/-- What is known are the paths that have been asked for, in this order, and
includes lead to all of them. -/
structure Ordered (sources : Sources) (frontEnd : FrontEnd) (features : Features) (main : Path)
    (d : Discovery) : Prop extends Proper sources main d where
  known_eq : d.known = (main.normalize ::
    (d.found.map (·.path)).flatMap (asks sources frontEnd features)).eraseDups
  reached : ∀ p ∈ d.known, Reaches (asks sources frontEnd features) main.normalize p

theorem ordered_start (sources : Sources) (frontEnd : FrontEnd) (features : Features)
    (main : Path) : Ordered sources frontEnd features main (.start main) where
  toProper := proper_start sources main
  known_eq := rfl
  reached := fun p hp => by
    rw [List.mem_singleton.mp hp]
    exact .refl

theorem known_enqueue {asked paths : List Path} (h : d.known = asked.eraseDups) :
    (paths.foldl enqueue d).known = (asked ++ paths).eraseDups := by
  induction paths generalizing d asked with
  | nil => rw [List.append_nil]; exact h
  | cons path paths ih =>
      rw [List.foldl_cons, List.append_cons]
      have member : path ∈ d.known ↔ path ∈ asked := by rw [h, List.mem_eraseDups]
      refine ih ?_
      rw [eraseDups_concat, enqueue]
      by_cases seen : path ∈ d.known
      · rw [if_pos seen, if_pos (member.mp seen)]
        exact h
      · rw [if_neg seen, if_neg (mt member.mpr seen), ← h, known, known, List.append_assoc]

theorem Ordered.visit {rest : List Path} (goes : GoesByText frontEnd features)
    (ordered : Ordered sources frontEnd features main d) (more : d.queue = path :: rest)
    (visited : Discovery.visit sources frontEnd features { d with queue := rest } path = .ok d') :
    Ordered sources frontEnd features main d' := by
  obtain ⟨text, paths, read, request, found, known⟩ := visit_ok (d := { d with queue := rest })
    ordered.built visited
  have asked := asks_eq goes (d := { d with queue := rest }) ordered.built read request
  have before := known_founded more
  refine ⟨ordered.toProper.visit more visited, ?_, ?_⟩
  · rw [known, known_enqueue (before.trans ordered.known_eq), found, founded, List.map_append,
      List.flatMap_append, ← asked]
    simp
  · rw [known]
    refine enqueue_keeps (P := fun known => ∀ p ∈ known, Reaches _ main.normalize p)
      (fun hq _ reached p hp => ?_) (before ▸ ordered.reached)
    rcases List.mem_append.mp hp with hp | hp
    · exact reached p hp
    · rw [List.mem_singleton.mp hp]
      exact (ordered.reached path (mem_known_of_queue more)).tail (asked ▸ hq)

/-- Where nothing is left to be read, the sources are in the order in which
they are asked for. -/
theorem Ordered.order (ordered : Ordered sources frontEnd features main d)
    (empty : d.queue = []) :
    d.found.map (·.path) = (main.normalize ::
      (d.found.map (·.path)).flatMap (asks sources frontEnd features)).eraseDups := by
  rw [← ordered.known_eq, known_of_empty empty]

/-- Then everything has been found to which includes lead. -/
theorem Ordered.mem_iff (ordered : Ordered sources frontEnd features main d)
    (empty : d.queue = []) {p : Path} :
    p ∈ d.found.map (·.path) ↔ Reaches (asks sources frontEnd features) main.normalize p := by
  have member := fun {p} => mem_of_order (p := p) (ordered.order empty)
  constructor
  · intro hp
    exact ordered.reached p (known_of_empty empty ▸ hp)
  · intro reaches
    induction reaches with
    | refl => exact member.mpr (.inl rfl)
    | tail _ asked ih => exact member.mpr (.inr ⟨_, ih, asked⟩)

/-- Where all texts that are reached can be built, a visit fails for want of one. -/
theorem Ordered.missing {rest : List Path} {e : SchemaError} (goes : GoesByText frontEnd features)
    (ordered : Ordered (.ofTexts texts) frontEnd features main d)
    (parses : ∀ p text, Reaches (asks (.ofTexts texts) frontEnd features) main.normalize p →
      (Sources.ofTexts texts).read p = .ok text →
      (requested frontEnd features (.start p) p text).isSome)
    (more : d.queue = path :: rest)
    (failed : Discovery.visit (.ofTexts texts) frontEnd features { d with queue := rest } path
      = .error e) :
    Reaches (asks (.ofTexts texts) frontEnd features) main.normalize path ∧
      ¬ Sources.Present texts path ∧ e = .fileNotFound path := by
  have here := mem_known_of_queue more
  have reached := ordered.reached path here
  have reasons := visit_error (d := { d with queue := rest }) ordered.built failed
  refine ⟨reached, ?_⟩
  rcases Sources.read_ofTexts texts (ordered.normal path here) with
    ⟨⟨text, read⟩, _⟩ | ⟨missing, absent⟩
  · have parsed := parses path text reached read
    rw [goes (.start path) { d with queue := rest } path text .empty ordered.built] at parsed
    rcases reasons with unread | ⟨text', read', refused⟩
    · cases read.symm.trans unread
    · cases read.symm.trans read'
      rw [refused] at parsed
      cases parsed
  · rcases reasons with unread | ⟨text, read, _⟩
    · cases missing.symm.trans unread
      exact ⟨absent, rfl⟩
    · cases missing.symm.trans read

/-- Where nothing is left to be read, every path that is reached has a text. -/
theorem Ordered.present (ordered : Ordered (.ofTexts texts) frontEnd features main d)
    (empty : d.queue = [])
    (reached : Reaches (asks (.ofTexts texts) frontEnd features) main.normalize path) :
    Sources.Present texts path := by
  obtain ⟨s, hs, rfl⟩ := List.mem_map.mp ((ordered.mem_iff empty).mpr reached)
  obtain ⟨text, read⟩ := ordered.readable s hs
  have known : s.path ∈ d.known := known_of_empty empty ▸ List.mem_map_of_mem hs
  exact Sources.present_of_read (ordered.normal s.path known) read

end Discovery

/-! ## The reader of JSON -/

namespace JsonSource

/-- What an included source comes to, the main one comes to. -/
theorem Content.included {features : Features} {e e' : Bool} {source text : String}
    {paths : List String} {f : Forest} (content : Content features e source text paths f) :
    ∃ f', Content features e' source text paths f' := by
  obtain ⟨includes, declarations, hread, hpaths, hforest⟩ := content
  have same := Entry.isSome_forest? features e e' (Location.after source text.toList)
    (Entry.all declarations)
  rw [hforest] at same
  obtain ⟨f', hf'⟩ := Option.isSome_iff_exists.mp same.symm
  exact ⟨f', includes, declarations, hread, hpaths, hf'⟩

theorem requested_iff {features : Features} {d : Discovery} (built : Built d.graph) {path : Path}
    {text : String} {paths : List String} :
    Discovery.requested frontEnd features d path text = some paths ↔
      ∃ f, Content features (!d.found.isEmpty) path.text text paths f := by
  obtain ⟨_, sound⟩ := Discovery.enter_eq features built path
  have found : ∀ {paths f}, Content features (!d.found.isEmpty) path.text text paths f →
      Discovery.requested frontEnd features d path text = some paths := by
    intro paths f content
    obtain ⟨b, run, _, _, opened, _, rfl⟩ := frontEnd_run sound rfl content
    have finished : b.finish = .ok b.includes := by
      rw [Builder.finish, show b.opened = [] from opened]
    simp only [Discovery.requested, run, finished, Except.toOption, Option.map_some]
  constructor
  · intro request
    cases run : (frontEnd path.text text).run (d.entered features path) with
    | error e b =>
        simp only [Discovery.requested, run] at request
        cases request
    | ok u b =>
        obtain ⟨paths', f, content⟩ := exists_content sound run
        cases (found content).symm.trans request
        exact ⟨f, content⟩
  · rintro ⟨f, content⟩
    exact found content

theorem goesByText (features : Features) : Discovery.GoesByText frontEnd features := by
  intro d d' path text built built'
  refine Option.ext fun paths => ?_
  rw [requested_iff built, requested_iff built']
  exact ⟨fun ⟨_, content⟩ => content.included, fun ⟨_, content⟩ => content.included⟩

end JsonSource

/-! ## Documents of texts -/

namespace Document

open Discovery (Ends GoesByText Nearer Reaches asks requested)

/-- A search through texts ends.  If it succeeds, it has found the paths to
which includes lead from the main one, in the order in which they are asked
for, and the document has these sources.  If all texts that are reached can be
read, it only fails for want of a path that is reached. -/
theorem resolve_sources (texts : List (Path × String)) (frontEnd : FrontEnd) (features : Features)
    (main : Path) :
    let sources := Sources.ofTexts texts
    let outcome := Discovery.run sources frontEnd features sources.limit (.start main)
    let asks := asks sources frontEnd features
    let reached := Reaches asks main.normalize
    (∀ r, Ends sources frontEnd features (.start main) r ↔ r = outcome) ∧
      (GoesByText frontEnd features →
        (∀ d, outcome = .ok d →
          (∃ root rest, d.found = ⟨main.normalize, root, false⟩ :: rest ∧
            ∀ s ∈ rest, s.isExternal = true) ∧
          (∀ s ∈ d.found, s.path.normalize = s.path) ∧
          (d.found.map (·.path)).Nodup ∧
          (∀ p, p ∈ d.found.map (·.path) ↔ reached p) ∧
          d.found.map (·.path)
            = (main.normalize :: (d.found.map (·.path)).flatMap asks).eraseDups ∧
          (d.found.map (·.path)).Pairwise (Nearer asks main.normalize) ∧
          ∀ strict doc, resolve sources frontEnd ⟨strict, features⟩ main = .ok doc →
            doc.sources = d.found) ∧
        ((∀ p text, reached p → sources.read p = .ok text →
            (requested frontEnd features (.start p) p text).isSome) →
          ((∃ e, outcome = .error e) ↔ ∃ p, reached p ∧ ¬ Sources.Present texts p) ∧
          ∀ e, outcome = .error e →
            ∃ p, reached p ∧ ¬ Sources.Present texts p ∧ e = .fileNotFound p)) := by
  intro sources outcome asks reached
  have ends : Ends sources frontEnd features (.start main) outcome :=
    (Discovery.proper_start sources main).ends_run (Nat.le_add_left _ _)
  refine ⟨fun r => ⟨ends.unique, fun h => h ▸ ends⟩, fun goes => ?_⟩
  obtain ⟨succeeds, fails⟩ := ends.keeps (fun ordered more visited =>
    Discovery.Ordered.visit goes ordered more visited)
    (Discovery.ordered_start sources frontEnd features main)
  refine ⟨fun d hd => ?_, fun parses => ?_⟩
  · obtain ⟨ordered, empty⟩ := succeeds d hd
    have known := Discovery.known_of_empty empty
    have order := ordered.order empty
    refine ⟨?_, fun s hs => ordered.normal s.path (known ▸ List.mem_map_of_mem hs),
      known ▸ ordered.nodup, fun p => ordered.mem_iff empty, order,
      Discovery.nearer_of_order order, fun strict doc resolved => ?_⟩
    · rcases ordered.first with ⟨_, only⟩ | first
      · rw [empty] at only
        cases only
      · exact first
    · obtain ⟨d', found, settled⟩ := Steps.except_bind_eq_ok.mp resolved
      cases hd.symm.trans found
      exact (ofGraph_eq_ok settled).2
  · have lost : ∀ e, outcome = .error e →
        ∃ p, reached p ∧ ¬ Sources.Present texts p ∧ e = .fileNotFound p := by
      intro e he
      obtain ⟨d, path, rest, ordered, more, failed⟩ := fails e he
      exact ⟨path, ordered.missing goes parses more failed⟩
    refine ⟨⟨?_, ?_⟩, lost⟩
    · rintro ⟨e, he⟩
      obtain ⟨p, hp, absent, _⟩ := lost e he
      exact ⟨p, hp, absent⟩
    · rintro ⟨p, hp, absent⟩
      cases found : outcome with
      | error e => exact ⟨e, rfl⟩
      | ok d =>
          obtain ⟨ordered, empty⟩ := succeeds d found
          exact absurd (ordered.present empty hp) absent

/-- Three sources that include each other under several spellings, and one
that includes a source that is not there. -/
theorem resolve_sources_cycle :
    let texts : List (Path × String) :=
      [(⟨"dir/main.json"⟩, "\x7b\"include\": [\"a.json\", \"sub/../b.json\", \"./a.json\"]\x7d"),
        (⟨"./dir//a.json"⟩, "\x7b\"include\": [\"../dir/main.json\"]\x7d"),
        (⟨"dir/b.json"⟩, "\x7b\"include\": [\"gone/../a.json\"]\x7d")]
    let alone : List (Path × String) :=
      [(⟨"main.json"⟩, "\x7b\"include\": [\"gone.json\"]\x7d")]
    GoesByText JsonSource.frontEnd .all ∧
      (∃ d, Discovery.run (.ofTexts texts) JsonSource.frontEnd .all 3
          (.start ⟨"./dir/sub/../main.json"⟩) = .ok d ∧
        d.found.map (·.path) = [⟨"dir/main.json"⟩, ⟨"dir/a.json"⟩, ⟨"dir/b.json"⟩] ∧
        Reaches (asks (.ofTexts texts) JsonSource.frontEnd .all) ⟨"dir/main.json"⟩
          ⟨"dir/b.json"⟩) ∧
      Discovery.run (.ofTexts alone) JsonSource.frontEnd .all 1 (.start ⟨"main.json"⟩)
        = .error (.fileNotFound ⟨"gone.json"⟩) := by
  intro texts alone
  have goes := JsonSource.goesByText .all
  refine ⟨goes, ?_, ?_⟩
  · have run : (Discovery.run (.ofTexts texts) JsonSource.frontEnd .all 3
        (.start ⟨"./dir/sub/../main.json"⟩)).toOption.any (fun d =>
          decide (d.found.map (·.path)
            = [⟨"dir/main.json"⟩, ⟨"dir/a.json"⟩, ⟨"dir/b.json"⟩])) = true := by decide +kernel
    obtain ⟨d, found, paths⟩ := Steps.exists_ok_of_decide run
    obtain ⟨_, _, _, reached, _⟩ := ((resolve_sources texts JsonSource.frontEnd .all
      ⟨"./dir/sub/../main.json"⟩).2 goes).1 d found
    have main : (Path.mk "./dir/sub/../main.json").normalize = ⟨"dir/main.json"⟩ := by
      decide +kernel
    have last := (reached ⟨"dir/b.json"⟩).mp (by rw [paths]; decide)
    exact ⟨d, found, paths, main ▸ last⟩
  · have main : (Path.mk "main.json").normalize = ⟨"main.json"⟩ := by decide +kernel
    have asked : asks (.ofTexts alone) JsonSource.frontEnd .all ⟨"main.json"⟩ = [⟨"gone.json"⟩] ∧
        asks (.ofTexts alone) JsonSource.frontEnd .all ⟨"gone.json"⟩ = [] := by decide +kernel
    have reached : ∀ p, Reaches (asks (.ofTexts alone) JsonSource.frontEnd .all)
        (Path.mk "main.json").normalize p → p = ⟨"main.json"⟩ ∨ p = ⟨"gone.json"⟩ := by
      intro p reaches
      induction reaches with
      | refl => exact .inl main
      | tail _ step ih =>
          rcases ih with rfl | rfl
          · rw [asked.1] at step
            exact .inr (List.mem_singleton.mp step)
          · rw [asked.2] at step
            cases step
    have parsed : ((Sources.ofTexts alone).read ⟨"main.json"⟩).toOption.all (fun text =>
          (requested JsonSource.frontEnd .all (.start ⟨"main.json"⟩) ⟨"main.json"⟩ text).isSome) ∧
        ((Sources.ofTexts alone).read ⟨"gone.json"⟩).toOption.isNone := by decide +kernel
    obtain ⟨fails, lost⟩ :=
      ((resolve_sources alone JsonSource.frontEnd .all ⟨"main.json"⟩).2 goes).2 (by
        intro p text hp read
        rcases reached p hp with rfl | rfl
        · rw [read] at parsed
          exact parsed.1
        · rw [read] at parsed
          cases parsed.2)
    have step : Reaches (asks (.ofTexts alone) JsonSource.frontEnd .all)
        (Path.mk "main.json").normalize ⟨"gone.json"⟩ :=
      Relation.ReflTransGen.refl.tail (by rw [main, asked.1]; exact List.mem_singleton_self _)
    obtain ⟨e, failed⟩ := fails.mpr ⟨_, step, by decide +kernel⟩
    obtain ⟨p, hp, absent, rfl⟩ := lost e failed
    rcases reached p hp with rfl | rfl
    · exact absurd (by decide +kernel) absent
    · exact failed

end Document

end TypeSchema
