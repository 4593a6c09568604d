/-
# Places — where the spellings of a path lead

Going by its text alone a path leads from any directory to another one: a
name leads down, `..` up again, and the root back to the root (`walk`).  Two
spellings lead to the same place if they do so from everywhere.

Normalizing does not change where a path leads (`walk_normalize`).  A
normalized path has a simple shape, and what can be seen of where it leads
gives this shape away: how many directories stay of those one starts in, and
which names come behind them (`shape_injective`).  So two spellings have one
normal form exactly if they lead to the same place (`normalize_eq_iff`).

What is left is to say where other paths lead.  To join paths is to walk along
one after the other (`walk_join`), and an include is walked from the directory
of its document (`walk_including`).
-/
import TypeSchema.Proofs.Document.Search
import TypeSchema.Proofs.Document.Settled

namespace TypeSchema

namespace Path

/-! ## Walking -/

/-- The directory to which a component leads from another one.  Directories are
given by their names from the root. -/
def Component.lead : Component → List String → List String
  | .root, _ => []
  | .current, directory => directory
  | .parent, directory => directory.dropLast
  | .normal name, directory => directory ++ [name]

/-- The directory to which components lead one after the other. -/
def lead (start : List String) (cs : List Component) : List String :=
  cs.foldl (fun directory c => c.lead directory) start

/-- The directory to which a path leads. -/
def walk (p : Path) (start : List String) : List String := lead start p.components

/-- The paths lead to the same place, wherever one starts. -/
def SamePlace (p q : Path) : Prop := ∀ start, p.walk start = q.walk start

theorem lead_append (start : List String) (cs ds : List Component) :
    lead start (cs ++ ds) = lead (lead start cs) ds := List.foldl_append

theorem lead_concat (start : List String) (cs : List Component) (c : Component) :
    lead start (cs ++ [c]) = c.lead (lead start cs) := lead_append start cs [c]

variable {p q : Path}

/-! ## Normalizing leads to the same place -/

/-- Taking a component on leads where the component leads. -/
theorem lead_step (start : List String) (done : List Component) (c : Component) :
    lead start (step done c).reverse = c.lead (lead start done.reverse) := by
  have push : ∀ c, lead start (c :: done).reverse = c.lead (lead start done.reverse) := by
    intro c
    rw [List.reverse_cons, lead_concat]
  cases c with
  | root => exact push .root
  | current => rfl
  | normal name => exact push (.normal name)
  | parent =>
      cases done with
      | nil => exact push .parent
      | cons last done =>
          cases last with
          | parent => exact push .parent
          | current => exact push .parent
          | root =>
              -- above the root there is nothing
              show lead start (.root :: done).reverse = _
              rw [List.reverse_cons, lead_concat]
              rfl
          | normal name =>
              show lead start done.reverse = _
              rw [List.reverse_cons, lead_concat]
              exact List.dropLast_concat.symm

theorem lead_normalizeComponents (start : List String) (cs : List Component) :
    lead start (normalizeComponents cs) = lead start cs := by
  have rest : ∀ (cs done : List Component),
      lead start (cs.foldl step done).reverse = lead (lead start done.reverse) cs := by
    intro cs
    induction cs with
    | nil => exact fun _ => rfl
    | cons c cs ih =>
        intro done
        rw [List.foldl_cons, ih, lead_step]
        rfl
  exact rest cs []

theorem components_normalize (p : Path) :
    p.normalize.components = normalizeComponents p.components :=
  (Reduced.of_proper (areProper_components p)).components_ofComponents

theorem walk_normalize (p : Path) (start : List String) : p.normalize.walk start = p.walk start := by
  rw [walk, components_normalize, lead_normalizeComponents]
  rfl

/-! ## The shape of normalized paths -/

/-- Names behind the root, or behind a number of `..`. -/
def shape (absolute : Bool) (up : Nat) (names : List String) : List Component :=
  (if absolute then [.root] else List.replicate up .parent) ++ names.map .normal

theorem Reduced.exists_shape {done : List Component} (reduced : Reduced done) :
    ∃ up names, done.reverse = shape (decide (.root ∈ done)) up names := by
  induction reduced with
  | nil => exact ⟨0, [], rfl⟩
  | root => exact ⟨0, [], rfl⟩
  | @up done _ parents _ =>
      have relative : .root ∉ .parent :: done := fun h => by
        rcases List.mem_cons.mp h with h | h
        · cases h
        · cases parents _ h
      have same : .parent :: done = List.replicate (done.length + 1) .parent :=
        List.eq_replicate_iff.mpr ⟨rfl, List.forall_mem_cons.mpr ⟨rfl, parents⟩⟩
      refine ⟨done.length + 1, [], ?_⟩
      rw [decide_eq_false relative, same, List.reverse_replicate]
      exact (List.append_nil _).symm
  | @into name done _ _ ih =>
      obtain ⟨up, names, h⟩ := ih
      refine ⟨up, names ++ [name], ?_⟩
      have root : decide (Component.root ∈ .normal name :: done) = decide (Component.root ∈ done) := by
        simp
      rw [root, List.reverse_cons, h, shape, shape, List.map_append, List.append_assoc]
      rfl

theorem root_mem_step {done : List Component} {c : Component} :
    .root ∈ step done c ↔ .root ∈ done ∨ c = .root := by
  cases c with
  | root => simp [step]
  | current => simp [step]
  | normal name => simp [step]
  | parent =>
      cases done with
      | nil => simp [step]
      | cons last done => cases last <;> simp [step]

theorem root_mem_normalizeComponents {cs : List Component} :
    .root ∈ normalizeComponents cs ↔ .root ∈ cs := by
  have rest : ∀ (cs done : List Component),
      .root ∈ cs.foldl step done ↔ .root ∈ done ∨ .root ∈ cs := by
    intro cs
    induction cs with
    | nil => simp
    | cons c cs ih =>
        intro done
        rw [List.foldl_cons, ih, root_mem_step, List.mem_cons, or_assoc, eq_comm]
  rw [normalizeComponents, List.mem_reverse, rest]
  simp

theorem root_mem_components : .root ∈ p.components ↔ p.isAbsolute = true := by
  have stretches : .root ∉ (pieces p.text.toList).filterMap component? := fun h =>
    Component.not_isWritten_root (isWritten_of_mem_pieces h)
  have dot : .root ∉ p.leadingDot := by
    unfold leadingDot
    split <;> simp
  rw [components_eq, List.mem_append, or_iff_left stretches]
  cases p.isAbsolute <;> simp [dot]

theorem isAbsolute_normalize (p : Path) : p.normalize.isAbsolute = p.isAbsolute := by
  rw [Bool.eq_iff_iff, ← root_mem_components, components_normalize, root_mem_normalizeComponents,
    root_mem_components]

/-- A normalized path has names only, behind the root or a number of `..`. -/
theorem exists_shape (p : Path) :
    ∃ up names, p.normalize.components = shape p.isAbsolute up names := by
  obtain ⟨up, names, h⟩ := (Reduced.of_proper (areProper_components p)).exists_shape
  refine ⟨up, names, ?_⟩
  have root : decide (.root ∈ p.components.foldl step []) = p.isAbsolute := by
    rw [Bool.eq_iff_iff, decide_eq_true_eq, ← List.mem_reverse, ← root_mem_components]
    exact root_mem_normalizeComponents
  rw [components_normalize, normalizeComponents, h, root]

/-! ## Shapes are given away -/

/-- How many of `n` names that one starts with are left. -/
def kept (absolute : Bool) (up n : Nat) : Nat := if absolute then 0 else n - up

theorem lead_parents (up : Nat) (start : List String) :
    lead start (List.replicate up .parent) = start.take (start.length - up) := by
  induction up generalizing start with
  | zero => exact List.take_length.symm
  | succ up ih =>
      rw [List.replicate_succ]
      show lead start.dropLast (List.replicate up .parent) = _
      rw [ih, List.length_dropLast, List.dropLast_eq_take, List.take_take]
      congr 1
      omega

theorem lead_names (names start : List String) :
    lead start (names.map .normal) = start ++ names := by
  induction names generalizing start with
  | nil => exact (List.append_nil start).symm
  | cons name names ih =>
      show lead (start ++ [name]) (names.map .normal) = _
      rw [ih, List.append_assoc]
      rfl

theorem lead_shape (absolute : Bool) (up : Nat) (names start : List String) :
    lead start (shape absolute up names) = start.take (kept absolute up start.length) ++ names := by
  rw [shape, lead_append, lead_names]
  cases absolute with
  | true => rfl
  | false => exact congrArg (· ++ names) (lead_parents up start)

/-- More names are not left than can be told from those that come behind them. -/
theorem le_of_replicate_append {k k' : Nat} {names names' : List String}
    (h : ∀ x, List.replicate k x ++ names = List.replicate k' x ++ names') : k' ≤ k := by
  by_contra less
  obtain ⟨m, rfl⟩ := Nat.exists_eq_add_of_lt (Nat.not_le.mp less)
  have first : ∀ x, names = x :: (List.replicate m x ++ names') := by
    intro x
    have same := h x
    rw [Nat.add_assoc, List.replicate_add, List.append_assoc, List.append_cancel_left_eq] at same
    exact same
  have := (first "a").symm.trans (first "b")
  exact absurd (List.cons.inj this).1 (by decide)

/-- Shapes that lead to the same places are one. -/
theorem shape_injective {absolute absolute' : Bool} {up up' : Nat} {names names' : List String}
    (h : ∀ start, lead start (shape absolute up names) = lead start (shape absolute' up' names')) :
    shape absolute up names = shape absolute' up' names' := by
  have seen : ∀ n x, List.replicate (kept absolute up n) x ++ names
      = List.replicate (kept absolute' up' n) x ++ names' := by
    intro n x
    have le : ∀ absolute up, kept absolute up n ≤ n := by
      intro absolute up
      unfold kept
      split <;> omega
    have same := h (List.replicate n x)
    rwa [lead_shape, lead_shape, List.length_replicate, List.take_replicate, List.take_replicate,
      Nat.min_eq_left (le _ _), Nat.min_eq_left (le _ _)] at same
  have left : ∀ n, kept absolute up n = kept absolute' up' n := fun n =>
    Nat.le_antisymm (le_of_replicate_append fun x => (seen n x).symm)
      (le_of_replicate_append (seen n))
  have names_eq : names = names' := by
    have := seen 0 ""
    rwa [left 0, List.append_cancel_left_eq] at this
  -- some of enough names are left if and only if there is no root
  have many := left (up + up' + 1)
  rw [names_eq]
  cases absolute with
  | true =>
      cases absolute' with
      | true => rfl
      | false =>
          have : 0 = up + up' + 1 - up' := many
          omega
  | false =>
      cases absolute' with
      | true =>
          have : up + up' + 1 - up = 0 := many
          omega
      | false =>
          have : up + up' + 1 - up = up + up' + 1 - up' := many
          rw [show up = up' by omega]

/-- Two spellings have one normal form exactly if they lead to the same place. -/
theorem normalize_eq_iff : p.normalize = q.normalize ↔ p.SamePlace q := by
  constructor
  · intro same start
    rw [← walk_normalize p, same, walk_normalize]
  · intro same
    obtain ⟨up, names, hp⟩ := exists_shape p
    obtain ⟨up', names', hq⟩ := exists_shape q
    rw [normalize, normalize, ← components_normalize, ← components_normalize, hp, hq]
    refine congrArg ofComponents (shape_injective fun start => ?_)
    rw [← hp, ← hq]
    exact (walk_normalize p start).trans ((same start).trans (walk_normalize q start).symm)

/-! ## Joined paths -/

/-- A path is walked along its stretches, from the root if it starts there. -/
theorem walk_eq (p : Path) (start : List String) : p.walk start =
    lead (if p.isAbsolute then [] else start) ((pieces p.text.toList).filterMap component?) := by
  rw [walk, components_eq, lead_append]
  congr 1
  cases p.isAbsolute with
  | true => rfl
  | false =>
      show lead start p.leadingDot = start
      unfold leadingDot
      split <;> rfl

theorem walk_of_isAbsolute (absolute : p.isAbsolute = true) (start start' : List String) :
    p.walk start = p.walk start' := by
  rw [walk_eq, walk_eq, absolute]
  rfl

/-- Behind a slash the stretches of the second text follow. -/
theorem walk_of_text {a b p : Path} (cs : List Char) (relative : b.isAbsolute = false)
    (same : p.isAbsolute = a.isAbsolute)
    (stretches : (pieces a.text.toList).filterMap component? = (pieces cs).filterMap component?)
    (text : p.text.toList = cs ++ '/' :: b.text.toList) (start : List String) :
    p.walk start = b.walk (a.walk start) := by
  rw [walk_eq b, relative, walk_eq a, walk_eq p, same, text, stretches, pieces,
    Text.pieces_append_mark, List.filterMap_append, lead_append]
  rfl

theorem exists_of_endsWith {text : String} (h : text.endsWith "/" = true) :
    ∃ cs, text.toList = cs ++ ['/'] := by
  rw [String.endsWith_eq_endsWith_toSlice, String.Slice.endsWith_string_iff] at h
  obtain ⟨cs, hcs⟩ := h
  exact ⟨cs, by simpa using hcs.symm⟩

/-- To join paths is to walk along one after the other. -/
theorem walk_join (a b : Path) (start : List String) :
    (a.join b).walk start = b.walk (a.walk start) := by
  unfold join
  cases absolute : b.isAbsolute with
  | true =>
      rw [if_pos rfl]
      exact walk_of_isAbsolute absolute _ _
  | false =>
      rw [if_neg Bool.false_ne_true]
      by_cases empty : a.text = ""
      · have nowhere : a.walk start = start := by
          rw [walk_eq, isAbsolute, empty]
          rfl
        rw [nowhere, empty, if_pos (by simp), String.empty_append]
      · obtain ⟨c, cs, text⟩ := List.exists_cons_of_ne_nil (mt String.toList_eq_nil_iff.mp empty)
        have begun : ∀ s : String, (Path.mk (a.text ++ s)).isAbsolute = a.isAbsolute := by
          intro s
          simp [isAbsolute, String.toList_append, text]
        have some : a.text.isEmpty = false := String.isEmpty_eq_false_iff.mpr empty
        cases ended : a.text.endsWith "/" with
        | true =>
            -- behind the last slash of the first path there is an empty stretch
            obtain ⟨cs, hcs⟩ := exists_of_endsWith ended
            rw [if_pos (by simp)]
            refine walk_of_text cs absolute (begun b.text) ?_ ?_ start
            · rw [hcs, pieces, Text.pieces_append_mark, List.filterMap_append]
              exact List.append_nil _
            · rw [String.toList_append, hcs, List.append_assoc]
              rfl
        | false =>
            rw [some, if_neg (by simp)]
            refine walk_of_text a.text.toList absolute ?_ rfl ?_ start
            · rw [String.append_assoc]
              exact begun ("/" ++ b.text)
            · rw [String.toList_append, String.toList_append, List.append_assoc]
              rfl

/-- Normalizing respects joining. -/
theorem normalize_join (a b : Path) :
    (a.join b).normalize = (a.normalize.join b.normalize).normalize := by
  refine normalize_eq_iff.mpr fun start => ?_
  rw [walk_join, walk_join, walk_normalize, walk_normalize]

/-! ## Included paths -/

/-- What a document includes is walked from the directory of the document. -/
theorem walk_including (document : Path) (name : String) (start : List String) :
    (document.including name).walk start = (Path.mk name).walk (lead start document.directory) := by
  unfold including
  cases absolute : (Path.mk name).isAbsolute with
  | true =>
      rw [if_pos absolute, walk_normalize]
      exact walk_of_isAbsolute absolute _ _
  | false =>
      obtain ⟨rest, split⟩ := directory_prefix document
      have proper : AreProper (document.directory ++ (Path.mk name).components) :=
        areProper_append (split ▸ areProper_components document) (areSteps_components absolute)
      rw [if_neg (by rw [absolute]; exact Bool.false_ne_true), walk, normalizeComponents,
        (Reduced.of_proper proper).components_ofComponents]
      exact (lead_normalizeComponents start _).trans (lead_append start _ _)

theorem including_eq_iff {document document' : Path} {name name' : String} :
    document.including name = document'.including name' ↔
      ∀ start, (Path.mk name).walk (lead start document.directory)
        = (Path.mk name').walk (lead start document'.directory) := by
  rw [← normalize_including document, ← normalize_including document', normalize_eq_iff]
  exact forall_congr' fun start => by rw [walk_including, walk_including]

end Path

/-! ## Keys -/

/-- A path is read as the text that was given last for the place it leads to. -/
theorem Sources.read_ofTexts_iff {texts : List (Path × String)} {p : Path} {text : String} :
    (Sources.ofTexts texts).read p = .ok text ↔
      ∃ before q after, texts = before ++ (q, text) :: after ∧ q.SamePlace p ∧
        ∀ e ∈ after, ¬ e.1.SamePlace p := by
  have key : ∀ {q : Path}, q.normalize.text = p.normalize.text ↔ q.SamePlace p := by
    intro q
    rw [← Path.normalize_eq_iff]
    exact ⟨congrArg Path.mk, congrArg Path.text⟩
  have found : (Sources.ofTexts texts).read p = .ok text ↔ Fields.find? p.normalize.text
      (Fields.ofList (texts.map fun e => (e.1.normalize.text, e.2))) = some text := by
    simp only [ofTexts]
    split
    · rename_i same
      rw [same, Except.ok.injEq, Option.some.injEq]
    · rename_i none
      rw [none]
      simp
  rw [found, Fields.find?_ofList_eq_some_iff]
  constructor
  · rintro ⟨before, after, split, last⟩
    obtain ⟨before, rest, rfl, rfl, hrest⟩ := List.map_eq_append_iff.mp split
    obtain ⟨⟨q, t⟩, after, rfl, he, rfl⟩ := List.map_eq_cons_iff.mp hrest
    obtain ⟨same, rfl⟩ := Prod.mk.inj he
    refine ⟨before, q, after, rfl, key.mp same, fun e he place => last ?_⟩
    rw [List.map_map]
    exact List.mem_map.mpr ⟨e, he, key.mpr place⟩
  · rintro ⟨before, q, after, rfl, place, last⟩
    refine ⟨before.map fun e => (e.1.normalize.text, e.2),
      after.map fun e => (e.1.normalize.text, e.2), ?_, fun h => ?_⟩
    · rw [List.map_append, List.map_cons, key.mpr place]
    · rw [List.map_map] at h
      obtain ⟨e, he, same⟩ := List.mem_map.mp h
      exact last e he (key.mp same)

/-- A path that leads to where a known one leads is not read again. -/
theorem Discovery.enqueue_including_iff {d : Discovery} (normal : ∀ p ∈ d.known, p.normalize = p)
    {document : Path} {name : String} :
    d.enqueue (document.including name) = d ↔
      ∃ p ∈ d.known, p.SamePlace (document.including name) := by
  have known : (document.including name) ∈ d.known ↔
      ∃ p ∈ d.known, p.SamePlace (document.including name) := by
    constructor
    · exact fun h => ⟨_, h, fun _ => rfl⟩
    · rintro ⟨p, hp, place⟩
      have same := Path.normalize_eq_iff.mpr place
      rw [normal p hp, Path.normalize_including] at same
      exact same ▸ hp
  rw [← known]
  unfold enqueue
  split
  · rename_i h
    exact iff_of_true rfl h
  · rename_i h
    refine iff_of_false (fun same => ?_) h
    have := congrArg (·.queue.length) same
    simp at this

namespace Document

open TypeSchema.Path

variable {sources : Sources} {frontEnd : FrontEnd} {options : Options} {main : Path}
  {doc : Document}

/-- No two sources of a document lead to the same place. -/
theorem pairwise_sources (resolved : resolve sources frontEnd options main = .ok doc) :
    doc.sources.Pairwise fun s t => ¬ s.path.SamePlace t.path := by
  obtain ⟨d, found, settled⟩ := Steps.except_bind_eq_ok.mp resolved
  obtain ⟨succeeds, _⟩ := (Discovery.ends_of_run found).keeps
    (fun proper more visited => Discovery.Proper.visit proper more visited)
    (Discovery.proper_start sources main)
  obtain ⟨proper, empty⟩ := succeeds d rfl
  have known := Discovery.known_of_empty empty
  have nodup := proper.nodup
  rw [known] at nodup
  rw [(ofGraph_eq_ok settled).2]
  refine (List.pairwise_map.mp nodup).imp_of_mem fun {s t} hs ht different place => different ?_
  have normal : ∀ s ∈ d.found, s.path.normalize = s.path := fun s hs =>
    proper.normal s.path (known ▸ List.mem_map_of_mem hs)
  rw [← normal s hs, ← normal t ht]
  exact normalize_eq_iff.mpr place

/-- Normal forms have names only, behind the root or a number of `..`; they are
absolute where paths are, normal themselves, and respect joining.  They are the
same exactly for spellings that lead to the same place.

So are the keys that are made of them: those of included paths, of which one is
read only, and those of texts, of which the last counts.  No two sources of a
document lead to the same place. -/
theorem normalize_complete :
    (∀ p : Path,
      (∃ up names, p.normalize.components = shape p.isAbsolute up names) ∧
      p.normalize = ofComponents p.normalize.components ∧
      p.normalize.isAbsolute = p.isAbsolute ∧ p.normalize.normalize = p.normalize) ∧
    (∀ a b : Path, (a.join b).normalize = (a.normalize.join b.normalize).normalize) ∧
    (∀ p q : Path, p.normalize = q.normalize ↔ p.SamePlace q) ∧
    (∀ (document document' : Path) (name name' : String),
      document.including name = document'.including name' ↔
        ∀ start, (Path.mk name).walk (lead start document.directory)
          = (Path.mk name').walk (lead start document'.directory)) ∧
    (∀ (d : Discovery) (document : Path) (name : String), (∀ p ∈ d.known, p.normalize = p) →
      (d.enqueue (document.including name) = d ↔
        ∃ p ∈ d.known, p.SamePlace (document.including name))) ∧
    (∀ (texts : List (Path × String)) (p : Path) (text : String),
      (Sources.ofTexts texts).read p = .ok text ↔
        ∃ before q after, texts = before ++ (q, text) :: after ∧ q.SamePlace p ∧
          ∀ e ∈ after, ¬ e.1.SamePlace p) ∧
    ∀ (sources : Sources) (frontEnd : FrontEnd) (options : Options) (main : Path) (doc : Document),
      resolve sources frontEnd options main = .ok doc →
        doc.sources.Pairwise fun s t => ¬ s.path.SamePlace t.path := by
  refine ⟨fun p => ⟨exists_shape p, ?_, isAbsolute_normalize p, normalize_normalize p⟩,
    normalize_join, fun p q => normalize_eq_iff, fun document document' name name' =>
      including_eq_iff, fun d document name normal => Discovery.enqueue_including_iff normal,
    fun texts p text => Sources.read_ofTexts_iff, fun sources frontEnd options main doc resolved =>
      pairwise_sources resolved⟩
  rw [components_normalize]
  rfl

/-- Two sources that include each other under several spellings. -/
theorem normalize_complete_spellings :
    let texts : List (Path × String) :=
      [(⟨"dir/main.json"⟩, "\x7b\"include\": [\"a.json\", \"sub/../a.json\"]\x7d"),
        (⟨"./dir//a.json"⟩, "\x7b\"include\": [\"../dir/main.json\"]\x7d")]
    let search := Discovery.start ⟨"dir/a.json"⟩
    search.enqueue ((Path.mk "dir/main.json").including "sub/../a.json") = search ∧
      ∃ doc, resolve (.ofTexts texts) JsonSource.frontEnd .lenient ⟨"dir/main.json"⟩ = .ok doc ∧
        doc.sources.length = 2 ∧
        doc.sources.Pairwise fun s t => ¬ s.path.SamePlace t.path := by
  intro texts search
  obtain ⟨_, _, same, _, once, _, apart⟩ := normalize_complete
  refine ⟨?_, ?_⟩
  · refine (once search _ _ ?_).mpr ⟨⟨"dir/a.json"⟩, ?_, (same _ _).mp ?_⟩
    · decide +kernel
    · decide +kernel
    · decide +kernel
  · have run : (resolve (.ofTexts texts) JsonSource.frontEnd .lenient
        ⟨"dir/main.json"⟩).toOption.any (fun doc => decide (doc.sources.length = 2)) = true := by
      decide +kernel
    obtain ⟨doc, resolved, two⟩ := Steps.exists_ok_of_decide run
    exact ⟨doc, resolved, two, apart _ _ _ _ doc resolved⟩

end Document

end TypeSchema
