/-
# Uri — a uri without spaces is read from its text, if there is something in it

A text has the form of uris exactly if it is a scheme, a colon, and something
without blanks (`reads_uri`).  What is written for a uri starts with a scheme
and a colon.  Behind it everything can be seen, except for spaces in a path that
neither follows an authority nor starts with a slash
(`IsNormal.isVisible_or_space`).  So the text of a uri has the form exactly if
there are no such spaces, and something stands behind the colon
(`ValueType.readText_writeText_uri`).
-/
import TypeSchema.Proofs.TextForm.RoundTrip
import TypeSchema.Proofs.Uri.Characters
import TypeSchema.Proofs.ValueType.Acceptance
import TypeSchema.Text.Blank

namespace TypeSchema

open Regex Expression TextForm Uri
open Text (isBlank)
open Unicode (Ranges)

namespace TextForm

/-! ## The form -/

section Reading

variable {f : Flags} {cs : List Char} {c : Captures} {d : Char}

theorem has_whiteSpace_iff : Unicode.whiteSpace.has d.toNat ↔ isBlank d := by
  simp [Ranges.has, Unicode.whiteSpace, isBlank]
  omega

theorem readOne_unblank (hf : f.unicode) :
    (Expression.shorthand .space true).Reads f cs c ↔
      ReadOne (Ranges.complement Unicode.whiteSpace) cs c := by
  simp only [Reads, shorthandSet, Shorthand.ranges, hf, if_true]

/-- Where case counts, a list of characters and ranges reads what is in one of
them. -/
theorem readOne_items {items : List ClassItem} {rs : Ranges} (hcase : f.ignoreCase = false)
    (hrs : ClassItem.allRanges f items = some rs) :
    (Expression.bracket false (.items items)).Reads f cs c ↔ ReadOne rs cs c := by
  have ranges : ClassSet.ranges f (.items items) = some rs := hrs
  have kept : foldAndNegate f false rs = rs := by simp [foldAndNegate, hcase]
  constructor
  · rintro ⟨rs', hrs', h⟩
    obtain rfl := Option.some.inj (hrs'.symm.trans ranges)
    rwa [kept] at h
  · intro h
    exact ⟨rs, ranges, by rwa [kept]⟩

/-- A letter of a scheme. -/
def schemeLetter : Expression := .bracket false (.items [.range 'A' 'Z' false, .range 'a' 'z' false])

/-- A letter, a digit or a mark of a scheme. -/
def schemeMark : Expression :=
  .bracket false
    (.items [.range 'A' 'Z' false, .range 'a' 'z' false, .range '0' '9' false,
      .char '+' .plain, .char '.' .plain, .char '-' .escaped])

theorem uri_eq : TextForm.uri = inTurn [schemeLetter, times schemeMark .many, plain ':',
    times (.shorthand .space true) .more] := rfl

theorem has_letters_iff : Ranges.has [('A'.toNat, 'Z'.toNat), ('a'.toNat, 'z'.toNat)] d.toNat ↔
    d.isAlpha := by
  simp [Ranges.has_iff, isAlpha_iff]

theorem has_marks_iff :
    Ranges.has [('A'.toNat, 'Z'.toNat), ('a'.toNat, 'z'.toNat), ('0'.toNat, '9'.toNat),
      ('+'.toNat, '+'.toNat), ('.'.toNat, '.'.toNat), ('-'.toNat, '-'.toNat)] d.toNat ↔
    d.isAlphanum ∨ d = '+' ∨ d = '-' ∨ d = '.' := by
  have same : ∀ a : Char, d = a ↔ a.toNat ≤ d.toNat ∧ d.toNat ≤ a.toNat := by
    intro a
    rw [← Char.toNat_inj]
    omega
  have alphanum : d.isAlphanum ↔ d.isAlpha ∨ d.isDigit := by
    rw [Char.isAlphanum, Bool.or_eq_true]
  rw [alphanum, ← has_letters_iff, isDigit_iff]
  have zero : '0'.toNat = 0x30 := rfl
  have nine : '9'.toNat = 0x39 := rfl
  have none : Ranges.has [] d.toNat = false := rfl
  simp only [Ranges.has_cons, same, none, Bool.false_eq_true, or_false]
  omega

theorem readOne_schemeLetter (hf : f.unicode) (hcase : f.ignoreCase = false) :
    schemeLetter.Reads f cs c ↔
      ReadOne [('A'.toNat, 'Z'.toNat), ('a'.toNat, 'z'.toNat)] cs c :=
  readOne_items hcase (by simp [ClassItem.allRanges, ClassItem.ranges, hf])

theorem readOne_schemeMark (hf : f.unicode) (hcase : f.ignoreCase = false) :
    schemeMark.Reads f cs c ↔
      ReadOne [('A'.toNat, 'Z'.toNat), ('a'.toNat, 'z'.toNat), ('0'.toNat, '9'.toNat),
        ('+'.toNat, '+'.toNat), ('.'.toNat, '.'.toNat), ('-'.toNat, '-'.toNat)] cs c :=
  readOne_items hcase (by simp [ClassItem.allRanges, ClassItem.ranges, hf])

theorem has_unblank_iff :
    (Ranges.complement Unicode.whiteSpace).has d.toNat ↔ ¬ isBlank d := by
  rw [Ranges.has_complement (Ranges.toNat_le_maxCode d), has_whiteSpace_iff]

/-- A text has the form of uris if it is a scheme, a colon, and something
without blanks. -/
theorem reads_uri (hf : f.unicode) (hcase : f.ignoreCase = false) :
    TextForm.uri.Reads f cs c ↔ c = [] ∧ ∃ scheme body, cs = scheme ++ ':' :: body ∧
      IsScheme scheme ∧ body ≠ [] ∧ ∀ d ∈ body, ¬ isBlank d := by
  have marks := fun cs c => @readOne_schemeMark f cs c hf hcase
  have unblanks := fun cs c => @readOne_unblank f cs c hf
  rw [uri_eq]
  constructor
  · intro h
    obtain ⟨_, _, _, _, hfirst, behindFirst, rfl, rfl⟩ := reads_inTurn_cons.mp h
    obtain ⟨ms, _, _, _, hmarks, behindMarks, rfl, rfl⟩ := reads_inTurn_cons.mp behindFirst
    obtain ⟨_, body, _, _, hcolon, hbody, rfl, rfl⟩ := reads_inTurn_cons.mp behindMarks
    obtain ⟨d, hd, rfl, rfl⟩ := (readOne_schemeLetter hf hcase).mp hfirst
    obtain ⟨hms, rfl, -⟩ := (reads_times marks).mp hmarks
    obtain ⟨rfl, rfl⟩ := (reads_plain_iff hf (by decide)).mp hcolon
    obtain ⟨hall, rfl, hmin, -⟩ := (reads_times unblanks).mp hbody
    refine ⟨rfl, d :: ms, body, rfl, ⟨d, ms, rfl, has_letters_iff.mp hd, ?_⟩, ?_, ?_⟩
    · exact fun d hd => has_marks_iff.mp (hms d hd)
    · exact List.length_pos_iff.mp hmin
    · exact fun d hd => has_unblank_iff.mp (hall d hd)
  · rintro ⟨rfl, _, body, rfl, ⟨d, ms, rfl, hd, hms⟩, there, hbody⟩
    have first : schemeLetter.Reads f [d] [] :=
      (readOne_schemeLetter hf hcase).mpr ⟨d, has_letters_iff.mpr hd, rfl, rfl⟩
    have front : (times schemeMark .many).Reads f ms [] :=
      (reads_times marks).mpr ⟨fun d hd => has_marks_iff.mpr (hms d hd), rfl, Nat.zero_le _, nofun⟩
    have back : (times (.shorthand .space true) .more).Reads f body [] :=
      (reads_times unblanks).mpr ⟨fun d hd => has_unblank_iff.mpr (hbody d hd), rfl,
        List.length_pos_iff.mpr there, nofun⟩
    exact reads_inTurn_char first (reads_inTurn_front front (reads_inTurn_char reads_plain back))

end Reading

section Forms

variable {form : TextForm} {century : Int} {u : Uri}

theorem not_isBlank_of_isVisible {d : Char} (h : IsVisible d) : ¬ isBlank d := by
  obtain ⟨low, high⟩ := h
  simp only [isBlank, Bool.or_eq_true, Bool.and_eq_true, decide_eq_true_eq, beq_iff_eq]
  omega

theorem ne_colon_of_mem_scheme {scheme : List Char} (h : IsScheme scheme) :
    ∀ d ∈ scheme, d ≠ ':' := by
  obtain ⟨d, ms, rfl, hd, hms⟩ := h
  rw [List.forall_mem_cons]
  refine ⟨?_, fun m hm => ?_⟩
  · rintro rfl
    cases hd
  · rintro rfl
    exact absurd (hms ':' hm) (by decide)

/-- The text of a uri has the form unless nothing stands behind the colon, or a
space does. -/
theorem isMatch_uri (hform : ofExpression TextForm.uri false .uri = .ok form) (h : u.IsNormal) :
    form.isMatch u.text ↔ u.body ≠ [] ∧ ' ' ∉ u.body := by
  have text : u.text.toList = u.scheme ++ ':' :: u.body := by
    rw [Uri.text, String.toList_ofList, toChars_eq]
  rw [isMatch_iff (by rfl) hform, text]
  constructor
  · rintro ⟨c, hc⟩
    obtain ⟨-, scheme, body, split, hscheme, there, unblank⟩ := (reads_uri rfl rfl).mp hc
    obtain ⟨-, -, rfl⟩ := cut_eq (P := (· ≠ ':')) (ne_colon_of_mem_scheme h.scheme)
      (ne_colon_of_mem_scheme hscheme) (fun h => h rfl) (fun h => h rfl) split
    exact ⟨there, fun space => unblank ' ' space rfl⟩
  · rintro ⟨there, unspaced⟩
    refine ⟨[], (reads_uri rfl rfl).mpr ⟨rfl, u.scheme, u.body, rfl, h.scheme, there, ?_⟩⟩
    intro d hd
    rcases h.isVisible_or_space hd with visible | ⟨rfl, -⟩
    · exact not_isBlank_of_isVisible visible
    · exact absurd hd unspaced

theorem readsAs_uri_iff (hform : ofExpression TextForm.uri false .uri = .ok form) :
    ReadsAs century [form] u.text (.uri u) ↔
      form.isMatch u.text ∧ Uri.ofChars u.toChars = .ok u := by
  have hreader := ofExpression_reader hform
  have read : ∀ c, Reader.uri.read century c u.text = .ok (.uri u) ↔
      Uri.ofChars u.toChars = .ok u := by
    intro c
    rw [Reader.read, Uri.text, String.toList_ofList]
    cases Uri.ofChars u.toChars with
    | ok u' => simp
    | error e => simp
  constructor
  · intro h
    obtain ⟨g, c, hfirst, hread⟩ := h
    obtain ⟨hmem, hc⟩ := mem_of_firstMatch hfirst
    obtain rfl := List.mem_singleton.mp hmem
    rw [hreader, read] at hread
    exact ⟨captures?_isSome.mp (by rw [hc]; rfl), hread⟩
  · rintro ⟨hmatch, hread⟩
    refine .head hmatch fun c _ => ?_
    rw [hreader, read]
    exact hread

end Forms

end TextForm

theorem Kind.exists_textForms_uri : ∃ form,
    TextForm.ofExpression TextForm.uri false .uri = .ok form ∧
      Kind.uri.textForms = .ok [form] := by
  obtain ⟨form, hform⟩ :=
    exists_ofExpression (e := TextForm.uri) (by rfl) (by decide +kernel) false .uri
  exact ⟨form, hform, by rw [Kind.textForms, hform]; rfl⟩

/-- The text of a uri that was read has a form unless nothing stands behind the
colon of the scheme, or a space does.  It is read as the uri if it has the form,
and the text is one of the uri.  Spaces are in the path only, and only where
this neither follows an authority nor starts with a slash. -/
theorem ValueType.readText_writeText_uri {cs : List Char} {u : Uri}
    (made : Uri.ofChars cs = .ok u) (files : FileTree) (century : Int) (arity : Arity) :
    ∃ forms, (mk .uri arity none).textForms = .ok forms ∧
      (mk .uri arity none).writeText files (.uri u) = .ok u.text ∧
      ((∃ form ∈ forms, form.isMatch u.text) ↔ u.body ≠ [] ∧ ' ' ∉ u.body) ∧
      ((mk .uri arity none).readText files century u.text = .ok (.uri u) ↔
        (u.body ≠ [] ∧ ' ' ∉ u.body) ∧ Uri.ofChars u.toChars = .ok u) ∧
      (¬ (u.body ≠ [] ∧ ' ' ∉ u.body) → (mk .uri arity none).readText files century u.text =
        .error (.refused (.stringFormat "uri" u.text .noAlternative .api))) ∧
      (' ' ∈ u.body → ' ' ∈ u.path ∧ u.authority = none ∧ u.path.head? ≠ some '/') := by
  have normal := isNormal_of_ofChars made
  obtain ⟨form, hform, hforms⟩ := Kind.exists_textForms_uri
  have hforms : (mk .uri arity none).textForms = .ok [form] := hforms
  have haccept : (mk .uri arity none).validateItem files (.uri u) = .ok () := rfl
  have formed := isMatch_uri hform normal
  refine ⟨[form], hforms, writeText_eq_ok.mpr ⟨haccept, rfl⟩, ?_, ?_, ?_, ?_⟩
  · simp only [List.mem_singleton, exists_eq_left]
    exact formed
  · rw [readText_eq_ok_iff hforms, readsAs_uri_iff hform, formed]
    exact and_iff_left haccept
  · intro not
    refine readText_of_not_isMatch hforms (List.forall_mem_singleton.mpr ?_)
    rwa [formed]
  · intro space
    rcases normal.isVisible_or_space space with visible | ⟨-, alone⟩
    · exact absurd visible (by decide)
    · exact alone

/-- Uris that stand alone. -/
def anyUri : ValueType := .mk .uri .single none

/-- An instance: one space in a path without slashes, nothing at all behind the
colon, and a uri that is read from its text. -/
theorem ValueType.readText_writeText_uri_space :
    Uri.ofChars "data:a b".toList = .ok ⟨"data".toList, none, "a b".toList, none, none⟩ ∧
    anyUri.writeText .empty (.uri ⟨"data".toList, none, "a b".toList, none, none⟩) =
      .ok "data:a b" ∧
    (∃ forms, anyUri.textForms = .ok forms ∧ ∀ form ∈ forms, ¬ form.isMatch "data:a b") ∧
    anyUri.readText .empty 2000 "data:a b" =
      .error (.refused (.stringFormat "uri" "data:a b" .noAlternative .api)) ∧
    Uri.ofChars "a:".toList = .ok ⟨['a'], none, [], none, none⟩ ∧
    anyUri.writeText .empty (.uri ⟨['a'], none, [], none, none⟩) = .ok "a:" ∧
    anyUri.readText .empty 2000 "a:" =
      .error (.refused (.stringFormat "uri" "a:" .noAlternative .api)) ∧
    Uri.ofChars "a:b".toList = .ok ⟨['a'], none, ['b'], none, none⟩ ∧
    anyUri.readText .empty 2000 "a:b" = .ok (.uri ⟨['a'], none, ['b'], none, none⟩) := by
  have space : Uri.ofChars "data:a b".toList =
      .ok ⟨"data".toList, none, "a b".toList, none, none⟩ := rfl
  have empty : Uri.ofChars "a:".toList = .ok ⟨['a'], none, [], none, none⟩ := rfl
  have letter : Uri.ofChars "a:b".toList = .ok ⟨['a'], none, ['b'], none, none⟩ := rfl
  obtain ⟨forms, hforms, written, formed, -, refused, -⟩ :=
    readText_writeText_uri space .empty 2000 .single
  obtain ⟨-, -, written', -, -, refused', -⟩ := readText_writeText_uri empty .empty 2000 .single
  obtain ⟨-, -, -, -, read, -, -⟩ := readText_writeText_uri letter .empty 2000 .single
  have blank : ¬ (Uri.body ⟨"data".toList, none, "a b".toList, none, none⟩ ≠ [] ∧
      ' ' ∉ Uri.body ⟨"data".toList, none, "a b".toList, none, none⟩) := by decide
  refine ⟨space, written, ⟨forms, hforms, ?_⟩, refused blank, empty, written', ?_, letter, ?_⟩
  · intro form hmem hmatch
    exact blank (formed.mp ⟨form, hmem, hmatch⟩)
  · exact refused' (by decide)
  · exact read.mpr ⟨by decide, letter⟩

end TypeSchema
