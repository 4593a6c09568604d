/-
# Path — every path but the empty one is read from its text

A path is written with slashes for backslashes.  Its form takes any characters,
line ends included, but at least one (`isMatch_path`), and the path that is read
is the text as it stands.  So a path that need not lead anywhere is read back,
up to the direction of its slashes, exactly if it is not empty
(`ValueType.readText_writeText_path`); the empty path has a text without a form.
-/
import TypeSchema.Proofs.TextForm.RoundTrip
import TypeSchema.Proofs.ValueType.Acceptance

namespace TypeSchema

open Regex TextForm

/-! ## Slashes -/

theorem Path.toList_slashedText {p : Path} :
    p.slashedText.toList = p.text.toList.map fun c => if c = '\\' then '/' else c :=
  String.toList_ofList

theorem Path.slashedText_eq_empty_iff {p : Path} : p.slashedText = "" ↔ p.text = "" := by
  rw [← String.toList_eq_nil_iff, toList_slashedText, List.map_eq_nil_iff,
    String.toList_eq_nil_iff]

/-! ## Forms of paths -/

/-- A path of the kind need not lead anywhere. -/
def Kind.isLoosePath : Kind → Bool
  | .filename l => !l.ensureExists
  | .directory ensureExists => !ensureExists
  | _ => false

namespace TextForm

variable {form : TextForm} {text : String} {century : Int}

theorem isMatch_path (hform : ofExpression (anything .more) false .path = .ok form) :
    form.isMatch text ↔ text ≠ "" := by
  rw [isMatch_iff (by rfl) hform]
  constructor
  · rintro ⟨c, hc⟩ rfl
    obtain ⟨hmin, -⟩ := (reads_anything rfl).mp hc
    cases hmin
  · intro there
    have least : 1 ≤ text.toList.length :=
      List.length_pos_iff.mpr fun h => there (String.toList_eq_nil_iff.mp h)
    exact ⟨[], (reads_anything rfl).mpr ⟨least, rfl⟩⟩

theorem readsAs_path (hform : ofExpression (anything .more) false .path = .ok form)
    (there : text ≠ "") : ReadsAs century [form] text (.path ⟨text⟩) := by
  refine .head ((isMatch_path hform).mpr there) fun c _ => ?_
  rw [ofExpression_reader hform]
  rfl

end TextForm

section Kinds

variable {files : FileTree} {kind : Kind} {p : Path}

theorem Kind.exists_textForms_path (loose : kind.isLoosePath) :
    ∃ form, ofExpression (anything .more) false .path = .ok form ∧
      kind.textForms = .ok [form] := by
  obtain ⟨form, hform⟩ : ∃ form, ofExpression (anything .more) false .path = .ok form := ⟨_, rfl⟩
  cases kind with
  | filename l | directory e => exact ⟨form, hform, by rw [Kind.textForms, hform]; rfl⟩
  | _ => cases loose

theorem Kind.accept_path (loose : kind.isLoosePath) : kind.accept files (.path p) = .ok () := by
  cases kind with
  | filename l =>
      rw [Kind.accept]
      exact if_pos loose
  | directory e =>
      cases e with
      | false => rfl
      | true => cases loose
  | _ => cases loose

theorem Kind.textOf_path (loose : kind.isLoosePath) :
    kind.textOf files (.path p) = .ok p.slashedText := by
  cases kind with
  | filename l | directory e => rw [Kind.textOf]
  | _ => cases loose

end Kinds

/-- A path that need not lead anywhere is written with slashes.  If it is not
empty, there is a form for the text, and the path with this text is read; the
empty text is refused. -/
theorem ValueType.readText_writeText_path {kind : Kind} (loose : kind.isLoosePath)
    (files : FileTree) (century : Int) (arity : Arity) (p : Path) :
    ∃ forms, (mk kind arity none).textForms = .ok forms ∧
      (mk kind arity none).writeText files (.path p) = .ok p.slashedText ∧
      ((∃ form ∈ forms, form.isMatch p.slashedText) ↔ p.text ≠ "") ∧
      ((mk kind arity none).readText files century p.slashedText =
        .ok (.path ⟨p.slashedText⟩) ↔ p.text ≠ "") ∧
      (p.text = "" → (mk kind arity none).readText files century p.slashedText =
        .error (.refused (.stringFormat kind.keyword "" .noAlternative .api))) := by
  obtain ⟨form, hform, hforms⟩ := kind.exists_textForms_path loose
  have hforms : (mk kind arity none).textForms = .ok [form] := hforms
  have haccept : ∀ p, (mk kind arity none).validateItem files (.path p) = .ok () := by
    intro p
    rw [validateItem_eq_ok]
    exact ⟨kind.accept_path loose, rfl⟩
  have hempty : p.text = "" → ∀ g ∈ [form], ¬ g.isMatch p.slashedText := by
    intro empty
    rw [List.forall_mem_singleton, isMatch_path hform, not_not, Path.slashedText_eq_empty_iff]
    exact empty
  obtain ⟨formed, read⟩ :
      ((∃ g ∈ [form], g.isMatch p.slashedText) ↔ p.text ≠ "") ∧
      ((mk kind arity none).readText files century p.slashedText =
        .ok (.path ⟨p.slashedText⟩) ↔ p.text ≠ "") := by
    refine readText_eq_ok_iff_of_form hforms (fun there => ?_) fun empty => ?_
    · have written : p.slashedText ≠ "" := fun h => there (Path.slashedText_eq_empty_iff.mp h)
      exact ⟨_, readsAs_path hform written, haccept _, iff_of_true rfl there⟩
    · exact ⟨empty, hempty (not_not.mp empty)⟩
  refine ⟨[form], hforms, writeText_eq_ok.mpr ⟨haccept p, kind.textOf_path loose⟩, formed, read, ?_⟩
  intro empty
  rw [readText_of_not_isMatch hforms (hempty empty), Path.slashedText_eq_empty_iff.mpr empty]
  rfl

/-- File names that need not lead anywhere. -/
def anyFilename : ValueType := .mk (.filename ⟨false, false⟩) .single none

/-- An instance: the empty path has a text without a form, and a path with a
backslash comes back with a slash. -/
theorem ValueType.readText_writeText_path_empty :
    anyFilename.kind.isLoosePath ∧
    anyFilename.writeText .empty (.path ⟨""⟩) = .ok "" ∧
    (∃ forms, anyFilename.textForms = .ok forms ∧ ∀ form ∈ forms, ¬ form.isMatch "") ∧
    anyFilename.readText .empty 2000 "" =
      .error (.refused (.stringFormat "filename" "" .noAlternative .api)) ∧
    anyFilename.writeText .empty (.path ⟨"a\\b"⟩) = .ok "a/b" ∧
    anyFilename.readText .empty 2000 "a/b" = .ok (.path ⟨"a/b"⟩) := by
  have loose : anyFilename.kind.isLoosePath := rfl
  obtain ⟨forms, hforms, written, formed, -, refused⟩ :=
    readText_writeText_path loose .empty 2000 .single ⟨""⟩
  obtain ⟨-, -, written', -, read', -⟩ :=
    readText_writeText_path loose .empty 2000 .single ⟨"a\\b"⟩
  refine ⟨loose, written, ⟨forms, hforms, ?_⟩, refused rfl, written', read'.mpr nofun⟩
  intro form hmem hmatch
  exact formed.mp ⟨form, hmem, hmatch⟩ rfl

end TypeSchema
