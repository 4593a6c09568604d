/-
# Enumerations — spellings by folding, values by small forms

A text has a form of an enumeration exactly if it folds to the same as one of
the spellings of this form (`forall₂_ofEnumLimits`): first the values, then the
names to show.  Which of the spellings it is, is looked up by small forms.

The two agree unless there are strays.  Of a text that has a form, a value is
read exactly if some spelling has the same small form, and then it is the one
at the place of the text itself, or else of the first such spelling.  Otherwise
the text is refused, although it has a form (`ValueType.readText_enumeration`).
-/
import TypeSchema.Proofs.Text.Folding
import TypeSchema.Proofs.TextForm.RoundTrip
import TypeSchema.Proofs.ValueType.Constraints

namespace TypeSchema

open Regex Expression TextForm Steps
open Text (SameFolding HasStray)

namespace EnumLimits

/-- The lists of spellings, in the sequence in which they are tried. -/
def spellings (l : EnumLimits) : List (List String) := l.values :: l.friendly.toList

/-- The first list with a spelling that folds to the same as the text. -/
def spellingsOf? (l : EnumLimits) (text : String) : Option (List String) :=
  l.spellings.find? fun accepted => accepted.any (SameFolding text ·)

theorem Agree.length {l : EnumLimits} (h : l.Agree) {accepted : List String}
    (hmem : accepted ∈ l.spellings) : accepted.length = l.values.length := by
  rcases List.mem_cons.mp hmem with rfl | hmem
  · rfl
  · exact h.friendly accepted (Option.mem_toList.mp hmem)

end EnumLimits

namespace TextForm

/-! ## What choices read -/

section Choices

variable {cs : List Char} {c : Captures} {s : String}

theorem has_charSet_ignoreCase {a d : Char} :
    (charSet (Flags.initial true) a).has d.toNat ↔ foldCode d.toNat = foldCode a.toNat :=
  has_foldCase_singleton

/-- A text that is taken as it stands reads what folds to the same. -/
theorem reads_verbatim_iff : (verbatim s).Reads (Flags.initial true) cs c ↔
    cs.map (foldCode ·.toNat) = s.toList.map (foldCode ·.toNat) ∧ c = [] := by
  unfold verbatim
  induction s.toList generalizing cs c with
  | nil =>
      simp only [List.map_nil, List.map_eq_nil_iff]
      rfl
  | cons a as ih =>
      have one : ∀ xs c, (if isMeta a then escaped a else plain a).Reads (Flags.initial true) xs c ↔
          ∃ d, foldCode d.toNat = foldCode a.toNat ∧ xs = [d] ∧ c = [] := by
        intro xs c
        have hset : (if isMeta a then escaped a else plain a).Reads (Flags.initial true) xs c ↔
            ReadOne (charSet (Flags.initial true) a) xs c := by
          split
          · rfl
          · rfl
        rw [hset]
        exact exists_congr fun d => and_congr_left fun _ => has_charSet_ignoreCase
      rw [List.map_cons, reads_inTurn_cons]
      simp only [one, ih]
      constructor
      · rintro ⟨_, _, _, _, ⟨d, hd, rfl, rfl⟩, ⟨hys, rfl⟩, rfl, rfl⟩
        simp [hd, hys]
      · rintro ⟨hcs, rfl⟩
        obtain ⟨d, ds, rfl, hd, hds⟩ := List.map_eq_cons_iff.mp hcs
        exact ⟨[d], ds, [], [], ⟨d, hd, rfl, rfl⟩, ⟨hds, rfl⟩, rfl, rfl⟩

theorem isMatch_choice {accepted : List String} {reader : Reader} {form : TextForm}
    (hne : accepted ≠ []) (h : ofExpression (choice accepted) true reader = .ok form)
    (text : String) : form.isMatch text ↔ ∃ a ∈ accepted, SameFolding text a := by
  have hreads : ∀ c, (choice accepted).Reads (Flags.initial true) text.toList c ↔
      ∃ e ∈ accepted.map verbatim, e.Reads (Flags.initial true) text.toList c :=
    fun c => reads_oneOf (by simpa using hne)
  rw [isMatch_iff isLocal_choice h]
  simp only [hreads]
  constructor
  · rintro ⟨c, e, he, hc⟩
    obtain ⟨a, ha, rfl⟩ := List.mem_map.mp he
    exact ⟨a, ha, (reads_verbatim_iff.mp hc).1⟩
  · rintro ⟨a, ha, hfold⟩
    exact ⟨[], _, List.mem_map_of_mem ha, reads_verbatim_iff.mpr ⟨hfold, rfl⟩⟩

/-- Each list of spellings has its form. -/
theorem forall₂_ofEnumLimits {l : EnumLimits} {forms : List TextForm} (h : l.Agree)
    (hforms : ofEnumLimits l = .ok forms) : List.Forall₂ (fun accepted form =>
      form.reader = .enumeration accepted l.values ∧
        ∀ text, form.isMatch text ↔ ∃ a ∈ accepted, SameFolding text a) l.spellings forms := by
  have each : ∀ {accepted form}, accepted ∈ l.spellings → ofExpression (choice accepted) true
      (.enumeration accepted l.values) = .ok form →
      form.reader = .enumeration accepted l.values ∧
        ∀ text, form.isMatch text ↔ ∃ a ∈ accepted, SameFolding text a := by
    intro accepted form hmem hform
    have hne : accepted ≠ [] := by
      have := List.length_pos_iff.mpr h.there
      exact List.ne_nil_of_length_pos (by rw [h.length hmem]; exact this)
    exact ⟨ofExpression_reader hform, isMatch_choice hne hform⟩
  unfold ofEnumLimits at hforms
  obtain ⟨first, hfirst, hforms⟩ := except_bind_eq_ok.mp hforms
  have hvalues := each List.mem_cons_self hfirst
  unfold EnumLimits.spellings at each ⊢
  split at hforms
  · rename_i hnone
    cases hforms
    rw [hnone]
    exact .cons hvalues .nil
  · rename_i names hnames
    obtain ⟨second, hsecond, hforms⟩ := except_bind_eq_ok.mp hforms
    cases hforms
    rw [hnames] at each ⊢
    exact .cons hvalues (.cons (each (by simp) hsecond) .nil)

end Choices

/-! ## Places -/

section Places

variable {accepted values : List String} {text : String} {i : Nat}

/-- The place of a text among spellings: where it stands itself, and if it
stands nowhere, the first place of one with the same small form. -/
def IsPlace (accepted : List String) (text : String) (i : Nat) : Prop :=
  (accepted[i]? = some text ∧ ∀ j < i, accepted[j]? ≠ some text) ∨
    (text ∉ accepted ∧ (∃ a, accepted[i]? = some a ∧ Text.lower a = Text.lower text) ∧
      ∀ j < i, ∀ a, accepted[j]? = some a → Text.lower a ≠ Text.lower text)

theorem findIdx?_eq_some_iff {p : String → Bool} : accepted.findIdx? p = some i ↔
    (∃ a, accepted[i]? = some a ∧ p a) ∧ ∀ j < i, ∀ a, accepted[j]? = some a → ¬ p a := by
  rw [List.findIdx?_eq_some_iff_getElem]
  constructor
  · rintro ⟨hlt, hp, hbefore⟩
    refine ⟨⟨_, List.getElem?_eq_getElem hlt, hp⟩, fun j hj a ha => ?_⟩
    obtain ⟨hj', rfl⟩ := List.getElem?_eq_some_iff.mp ha
    exact hbefore j hj
  · rintro ⟨⟨a, ha, hp⟩, hbefore⟩
    obtain ⟨hlt, rfl⟩ := List.getElem?_eq_some_iff.mp ha
    exact ⟨hlt, hp, fun j hj => hbefore j hj _ (List.getElem?_eq_getElem (hj.trans hlt))⟩

theorem placeOf_eq_some_iff : placeOf accepted text = some i ↔ IsPlace accepted text i := by
  have itself : accepted.findIdx? (· = text) = some i ↔
      accepted[i]? = some text ∧ ∀ j < i, accepted[j]? ≠ some text := by
    rw [findIdx?_eq_some_iff]
    simp only [decide_eq_true_eq, exists_eq_right]
    refine and_congr_right fun _ => forall₂_congr fun j _ => ?_
    exact ⟨fun h ht => h text ht rfl, fun h a ha hat => h (hat ▸ ha)⟩
  unfold placeOf IsPlace
  rw [Option.or_eq_some_iff, itself, List.findIdx?_eq_none_iff, findIdx?_eq_some_iff]
  simp only [decide_eq_true_eq, decide_eq_false_iff_not, ne_eq]
  refine or_congr_right (and_congr_left fun _ => ?_)
  exact ⟨fun h hmem => h text hmem rfl, fun h a ha hat => h (hat ▸ ha)⟩

theorem placeOf_eq_none_iff :
    placeOf accepted text = none ↔ ∀ a ∈ accepted, Text.lower a ≠ Text.lower text := by
  simp only [placeOf, Option.or_eq_none_iff, List.findIdx?_eq_none_iff, decide_eq_false_iff_not]
  exact ⟨fun h => h.2, fun h => ⟨fun a ha hat => h a ha (by rw [hat]), h⟩⟩

theorem lt_length_of_placeOf (h : placeOf accepted text = some i) : i < accepted.length := by
  rcases placeOf_eq_some_iff.mp h with ⟨hi, -⟩ | ⟨-, ⟨_, hi, -⟩, -⟩
  · exact (List.getElem?_eq_some_iff.mp hi).1
  · exact (List.getElem?_eq_some_iff.mp hi).1

end Places

end TextForm

/-! ## Values -/

namespace ValueType

variable (files : FileTree) (century : Int) {l : EnumLimits} {t : ValueType}
  {forms : List TextForm} {text : String} {accepted : List String} {i : Nat}

section Reading

variable (agree : l.Agree) (hforms : ofEnumLimits l = .ok forms)
include agree hforms

/-- The first form that a text has is that of the first list with a spelling
that folds to the same. -/
theorem firstMatch_enumeration (text : String) :
    (firstMatch text forms).map (fun (form, caps) => (form.reader, caps)) =
      (l.spellingsOf? text).map fun accepted => (.enumeration accepted l.values, []) := by
  refine firstMatch_of_forall₂ ((forall₂_ofEnumLimits agree hforms).imp ?_)
  rintro accepted form ⟨hreader, hmatch⟩
  refine ⟨hreader, ?_, fun c hc => ?_⟩
  · rw [hmatch, List.any_eq_true]
    simp only [decide_eq_true_eq]
  · rw [TextForm.captures?, hreader, if_neg (by simp [Reader.hasParts])] at hc
    split at hc
    · exact (Option.some.inj hc).symm
    · cases hc

theorem exists_firstMatch_enumeration (h : l.spellingsOf? text = some accepted) :
    ∃ form, form.reader = .enumeration accepted l.values ∧
      firstMatch text forms = some (form, []) :=
  exists_firstMatch_eq_some (by rw [firstMatch_enumeration agree hforms, h, Option.map_some])

/-- At a place there is a value, and it is accepted. -/
theorem readText_of_place (h : l.spellingsOf? text = some accepted)
    (hplace : placeOf accepted text = some i) : ∃ s, l.values[i]? = some s ∧
      (mk (.enumeration l) .single none).readText files century text = .ok (.string s) := by
  obtain ⟨form, hreader, hfirst⟩ := exists_firstMatch_enumeration agree hforms h
  have hlt : i < l.values.length := by
    rw [← agree.length (List.mem_of_find?_eq_some h)]
    exact lt_length_of_placeOf hplace
  have hvalue : l.values[i]? = some l.values[i] := List.getElem?_eq_getElem hlt
  have hread : form.reader.read century [] text = .ok (.string l.values[i]) := by
    rw [hreader, Reader.read, hplace, Option.bind_some, hvalue]
  have haccept : (mk (.enumeration l) .single none).validateItem files (.string l.values[i]) =
      .ok () := by
    have hin : l.accept l.values[i] = .ok () := if_pos (List.getElem_mem hlt)
    rw [validateItem, kind, hook, item_eq, Kind.accept, hin]
  exact ⟨_, hvalue, readText_eq_ok hforms ⟨form, [], hfirst, hread⟩ haccept⟩

/-- Where there is none, the text is refused. -/
theorem readText_of_no_place (h : l.spellingsOf? text = some accepted)
    (hplace : placeOf accepted text = none) :
    (mk (.enumeration l) .single none).readText files century text =
      .error (.refused (.stringFormat "enum" text (.notOneOf text) .api)) := by
  obtain ⟨form, hreader, hfirst⟩ := exists_firstMatch_enumeration agree hforms h
  have hread : form.reader.read century [] text = .error (.refused (.notOneOf text)) := by
    rw [hreader, Reader.read, hplace]
    rfl
  have hforms : (mk (.enumeration l) .single none).textForms = .ok forms := hforms
  simp only [readText, hforms, orRefused, Except.mapError, bind, Except.bind, hfirst, hread]
  rfl

/-- So a value is read exactly if a spelling has the same small form. -/
theorem exists_readText_iff (h : l.spellingsOf? text = some accepted) :
    (∃ v, (mk (.enumeration l) .single none).readText files century text = .ok v) ↔
      ∃ a ∈ accepted, Text.lower a = Text.lower text := by
  cases hplace : placeOf accepted text with
  | none =>
      rw [readText_of_no_place files century agree hforms h hplace]
      simpa using placeOf_eq_none_iff.mp hplace
  | some i =>
      obtain ⟨s, -, hread⟩ := readText_of_place files century agree hforms h hplace
      refine iff_of_true ⟨_, hread⟩ ?_
      by_contra hno
      push Not at hno
      rw [placeOf_eq_none_iff.mpr hno] at hplace
      cases hplace

end Reading

/-- The forms of an enumeration match what folds to the same as one of their
spellings, and the first of them decides.  A value is read exactly if one of
its spellings has the same small form as the text, and it is the one at the
place of the text; else the text is refused.  That never happens if neither the
text nor a spelling that it folds to the same as has strays. -/
theorem readText_enumeration (made : ofKind (.enumeration l) = .ok t)
    (hforms : t.textForms = .ok forms) :
    List.Forall₂ (fun accepted form => ∀ text, form.isMatch text ↔
      ∃ a ∈ accepted, SameFolding text a) l.spellings forms ∧
    (∀ text, l.spellingsOf? text = none → t.readText files century text =
      .error (.refused (.stringFormat "enum" text .noAlternative .api))) ∧
    ∀ text accepted, l.spellingsOf? text = some accepted →
      (∀ v, t.readText files century text = .ok v ↔ ∃ i s, IsPlace accepted text i ∧
        l.values[i]? = some s ∧ v = .string s) ∧
      ((∃ v, t.readText files century text = .ok v) ↔
        ∃ a ∈ accepted, Text.lower a = Text.lower text) ∧
      ((∀ a ∈ accepted, Text.lower a ≠ Text.lower text) → t.readText files century text =
        .error (.refused (.stringFormat "enum" text (.notOneOf text) .api))) ∧
      (¬ HasStray text → (∃ a ∈ accepted, SameFolding text a ∧ ¬ HasStray a) →
        ∃ v, t.readText files century text = .ok v) := by
  obtain ⟨agree, rfl⟩ := ofKind_eq_ok.mp made
  have agree : l.Agree := EnumLimits.check_eq_ok.mp agree
  have hlimits : ofEnumLimits l = .ok forms := hforms
  refine ⟨(forall₂_ofEnumLimits agree hlimits).imp fun _ _ h => h.2, fun text hnone => ?_,
    fun text accepted hsome => ?_⟩
  · have hfirst : firstMatch text forms = none := by
      simpa [hnone] using firstMatch_enumeration agree hlimits text
    simp only [readText, hforms, orRefused, Except.mapError, bind, Except.bind, hfirst]
    rfl
  · have refused := readText_of_no_place files century agree hlimits hsome
    have found := exists_readText_iff files century agree hlimits hsome
    refine ⟨fun v => ?_, found, fun hno => refused (placeOf_eq_none_iff.mpr hno), ?_⟩
    · cases hplace : placeOf accepted text with
      | none =>
          rw [refused hplace]
          simp [← placeOf_eq_some_iff, hplace]
      | some i =>
          obtain ⟨s, hs, hread⟩ := readText_of_place files century agree hlimits hsome hplace
          simp [← placeOf_eq_some_iff, hplace, hread, hs, eq_comm]
    · rintro hs ⟨a, ha, hfold, hstray⟩
      exact found.mpr ⟨a, ha, (Text.lower_eq_of_sameFolding hfold hs hstray).symm⟩

/-- An instance: the long s has the form of the letter s, but it is its own
small form. -/
theorem readText_enumeration_longS :
    let t := mk (.enumeration ⟨["s"], none⟩) .single none
    ofKind t.kind = .ok t ∧
    ∃ forms, t.textForms = .ok forms ∧ (∃ form ∈ forms, form.isMatch "ſ") ∧
      t.readText .empty 2000 "ſ" =
        .error (.refused (.stringFormat "enum" "ſ" (.notOneOf "ſ") .api)) ∧
      t.readText .empty 2000 "S" = .ok (.string "s") := by
  intro t
  have made : ofKind (.enumeration ⟨["s"], none⟩) = .ok t := rfl
  obtain ⟨form, hform⟩ := exists_ofExpression (e := choice ["s"]) (by rfl) (by decide +kernel) true
    (.enumeration ["s"] ["s"])
  have hforms : t.textForms = .ok [form] := by
    show ofEnumLimits ⟨["s"], none⟩ = .ok [form]
    simp only [ofEnumLimits, hform]
    rfl
  obtain ⟨hmatch, -, hread⟩ := readText_enumeration .empty 2000 made hforms
  obtain ⟨-, -, hrefused, -⟩ := hread "ſ" ["s"] (by decide +kernel)
  obtain ⟨hvalue, -, -, -⟩ := hread "S" ["s"] (by decide +kernel)
  obtain ⟨hmatch, -⟩ := List.forall₂_cons.mp hmatch
  refine ⟨made, [form], hforms, ⟨form, List.mem_cons_self, ?_⟩, hrefused (by decide +kernel),
    (hvalue _).mpr ⟨0, "s", ?_, rfl, rfl⟩⟩
  · exact (hmatch "ſ").mpr ⟨"s", List.mem_cons_self, by decide +kernel⟩
  · exact .inr ⟨by decide, ⟨"s", rfl, by decide +kernel⟩, by simp⟩

end ValueType

end TypeSchema
