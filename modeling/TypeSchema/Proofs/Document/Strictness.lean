/-
# Strictness — what it changes that references have to name something

Strict and lenient resolution read the same sources and build the same graph.
They part at the first reference that names nothing: lenient resolution
leaves a placeholder there, and everything else as it would have been.  So a
strict document is a lenient one without placeholders, and the placeholder
with the least number is what strict resolution fails at.
-/
import TypeSchema.Proofs.Document.Settled

namespace TypeSchema

open Declaration (Id Reference)

namespace Graph

variable {g : Graph} {included : List Id}

/-- Placeholders stand where references name nothing. -/
theorem settledReference_eq_placeholder (raw : g.Raw) {id : Id} {text : String} :
    g.settledReference included id = .placeholder text ↔ g.Dangles included id text := by
  rcases (raw id).reference_cases with hr | ⟨text', hr⟩
  · simp [settledReference, Dangles, hr]
  · cases hl : g.lookup included id text' with
    | none =>
        simp only [settledReference, Dangles, hr, hl, Reference.placeholder.injEq,
          Reference.unresolved.injEq]
        constructor
        · rintro rfl
          exact ⟨rfl, hl⟩
        · exact fun h => h.1
    | some target =>
        have found : ∀ text, ¬ g.Dangles included id text := by
          rintro text ⟨htext, hnone⟩
          rw [hr] at htext
          cases htext
          rw [hl] at hnone
          cases hnone
        cases target <;> simp [settledReference, hr, hl, found]

end Graph

namespace Document

open TypeSchema.Graph

/-- The declaration `id` holds the placeholder `text`. -/
def Holds (doc : Document) (id : Id) (text : String) : Prop :=
  id < doc.graph.size ∧ (doc.graph.node id).reference = .placeholder text

section Settle

variable {g : Graph} {sources : List Source} {doc : Document}

/-- A lenient document holds a placeholder wherever a reference named nothing
when it was built. -/
theorem holds_iff_dangles (built : Built g) (lenient : ofGraph g sources false = .ok doc) {id : Id}
    {text : String} :
    doc.Holds id text ↔ id < g.size ∧ g.Dangles (includedRoots sources) id text := by
  obtain ⟨_, links, _⟩ := settle_ok built (ofGraph_eq_ok lenient).1
  have hsize : doc.graph.size = g.size :=
    links.size.symm.trans (sameFrame_lookedUp g _).size
  unfold Holds
  rw [hsize]
  refine and_congr_right fun hid => ?_
  rw [← links.reference, reference_lookedUp built.raw hid]
  exact settledReference_eq_placeholder built.raw

/-- Where every reference names something, strictness makes no difference. -/
theorem ofGraph_strict_eq (built : Built g)
    (named : ∀ n < g.size, ∀ text, ¬ g.Dangles (includedRoots sources) n text) :
    ofGraph g sources true = ofGraph g sources false := by
  have same : resolveReferences (includedRoots sources) true g
      = resolveReferences (includedRoots sources) false g := by
    rw [resolveReferences_eq built.raw built.tree (.inr named),
      resolveReferences_eq built.raw built.tree (.inl rfl)]
  have : settle sources true g = settle sources false g := Steps.bind_congr same
  simp only [ofGraph, this]

/-- Otherwise strict resolution fails at the first reference that names
nothing. -/
theorem ofGraph_strict_dangling (built : Built g) {m : Nat} {text : String} (hm : m < g.size)
    (first : ∀ k < m, ∀ text, ¬ g.Dangles (includedRoots sources) k text)
    (h : g.Dangles (includedRoots sources) m text) :
    ofGraph g sources true = .error (.unresolvedReference text (g.node m).location) := by
  have fails : settle sources true g = .error (.unresolvedReference text (g.node m).location)
      (g.lookedUpTo (includedRoots sources) m) :=
    Steps.bind_error (resolveReferences_dangling built.raw built.tree hm first h)
  simp only [ofGraph, fails]

theorem ofGraph_strict_ok_iff (built : Built g) :
    ofGraph g sources true = .ok doc ↔
      ofGraph g sources false = .ok doc ∧ ∀ id text, ¬ doc.Holds id text := by
  constructor
  · intro strict
    have named := (settle_ok built (ofGraph_eq_ok strict).1).2.2 rfl
    have lenient := (ofGraph_strict_eq built named).symm.trans strict
    refine ⟨lenient, fun id text holds => ?_⟩
    obtain ⟨hid, dangles⟩ := (holds_iff_dangles built lenient).mp holds
    exact named id hid text dangles
  · rintro ⟨lenient, none⟩
    have named : ∀ n < g.size, ∀ text, ¬ g.Dangles (includedRoots sources) n text := by
      intro n hn text dangles
      exact none n text ((holds_iff_dangles built lenient).mpr ⟨hn, dangles⟩)
    exact (ofGraph_strict_eq built named).trans lenient

/-- A lenient document with a placeholder has a first one, which strict
resolution reports. -/
theorem ofGraph_strict_of_holds (built : Built g) (lenient : ofGraph g sources false = .ok doc)
    {id : Id} {text : String} (holds : doc.Holds id text) :
    ∃ first reference, doc.Holds first reference ∧ (∀ k < first, ∀ text, ¬ doc.Holds k text) ∧
      ofGraph g sources true
        = .error (.unresolvedReference reference (doc.graph.node first).location) := by
  have dangles := (holds_iff_dangles built lenient).mp holds
  obtain ⟨m, hm, reference, hdangles, first⟩ :=
    exists_first_dangling ⟨id, dangles.1, text, dangles.2⟩
  refine ⟨m, reference, (holds_iff_dangles built lenient).mpr ⟨hm, hdangles⟩, ?_, ?_⟩
  · intro k hk text hold
    exact first k hk text ((holds_iff_dangles built lenient).mp hold).2
  · obtain ⟨_, links, _⟩ := settle_ok built (ofGraph_eq_ok lenient).1
    rw [← links.frame.location, (sameFrame_lookedUp g _).location]
    exact ofGraph_strict_dangling built hm first hdangles

/-- Strictness only ever refuses more. -/
theorem ofGraph_strict_of_error (built : Built g) {e : SchemaError}
    (lenient : ofGraph g sources false = .error e) : ∃ e', ofGraph g sources true = .error e' := by
  cases strict : ofGraph g sources true with
  | error e' => exact ⟨e', rfl⟩
  | ok doc =>
      have := ((ofGraph_strict_ok_iff built).mp strict).1
      rw [lenient] at this
      cases this

end Settle

/-- Strict resolution gives the lenient document if that holds no
placeholder, fails at the first placeholder if it holds one, and fails if
lenient resolution does. -/
theorem resolve_strict (sources : Sources) (frontEnd : FrontEnd) (features : Features)
    (main : Path) :
    let strict := resolve sources frontEnd ⟨true, features⟩ main
    let lenient := resolve sources frontEnd ⟨false, features⟩ main
    (∀ doc, strict = .ok doc ↔ lenient = .ok doc ∧ ∀ id text, ¬ doc.Holds id text) ∧
      (∀ doc, lenient = .ok doc → ∀ id text, doc.Holds id text →
        ∃ first reference, doc.Holds first reference ∧
          (∀ k < first, ∀ text, ¬ doc.Holds k text) ∧
          strict = .error (.unresolvedReference reference (doc.graph.node first).location)) ∧
      ∀ e, lenient = .error e → ∃ e', strict = .error e' := by
  cases found : Discovery.run sources frontEnd features sources.limit (Discovery.start main) with
  | error e =>
      have fails : ∀ strict, resolve sources frontEnd ⟨strict, features⟩ main = .error e :=
        fun _ => Steps.except_bind_eq_error.mpr (.inl found)
      simp [fails]
  | ok d =>
      have built : Built d.graph := Discovery.built_run .empty found
      have eq : ∀ strict, resolve sources frontEnd ⟨strict, features⟩ main
          = ofGraph d.graph d.found strict := by
        intro strict
        unfold resolve
        rw [found]
        rfl
      simp only [eq]
      exact ⟨fun _ => ofGraph_strict_ok_iff built,
        fun _ lenient _ _ => ofGraph_strict_of_holds built lenient,
        fun _ => ofGraph_strict_of_error built⟩

/-- Two names of which the second names nothing: a lenient document, and the
error of a strict one. -/
theorem resolve_strict_missing :
    let sources : Sources := ⟨fun _ => .ok "", 1⟩
    let frontEnd : FrontEnd := fun _ _ =>
      .sequence [.need (.declaration "a" .standard "string" .api),
        .need (.declaration "b" .standard "missing" .api)]
    ∃ doc, resolve sources frontEnd ⟨false, .all⟩ ⟨"main"⟩ = .ok doc ∧ doc.Holds 2 "missing" ∧
      ∃ first reference, doc.Holds first reference ∧
        resolve sources frontEnd ⟨true, .all⟩ ⟨"main"⟩
          = .error (.unresolvedReference reference (doc.graph.node first).location) := by
  intro sources frontEnd
  have run : (resolve sources frontEnd ⟨false, .all⟩ ⟨"main"⟩).toOption.any (fun doc =>
      decide (2 < doc.graph.size ∧ (doc.graph.node 2).reference = .placeholder "missing")) = true :=
    by decide +kernel
  obtain ⟨doc, lenient, hid, held⟩ := Steps.exists_ok_of_decide run
  have holds : doc.Holds 2 "missing" := ⟨hid, held⟩
  obtain ⟨first, reference, hfirst, _, fails⟩ :=
    (resolve_strict sources frontEnd .all ⟨"main"⟩).2.1 doc lenient 2 "missing" holds
  exact ⟨doc, lenient, holds, first, reference, hfirst, fails⟩

end Document

end TypeSchema
