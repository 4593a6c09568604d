/-
# Header — where an arity stands in the notation

A type is written with a header in angle brackets, and the members of a class
follow its header.  An arity other than one is put in front of the last closing
bracket of the first line.  That is the bracket of the header, unless the header
goes on behind the first line: the texts of an enumeration and the pattern of a
string are written as they stand, line feeds included.  Then the arity gets
between these texts or is left out (`ValueType.dsl_of_several`).

Without an arity no header ends in a way in which shorthand texts end, so where
the arity is in its place it can be read off (`Dsl.readArity`).
-/
import TypeSchema.Dsl
import TypeSchema.Proofs.Arity
import TypeSchema.Proofs.Double.Text
import TypeSchema.Proofs.Path
import TypeSchema.Proofs.Uri.Host

namespace TypeSchema

/-! ## Headers -/

open Dsl

/-- The tags in the header of a kind. -/
def Kind.dslTags : Kind → String
  | .int l => intTags l
  | .number l => numberTags l
  | .string l => stringTags l
  | .enumeration l => enumTags l
  | .filename l => switch "ensure_exists" l.ensureExists ++ switch "match_any" l.matchAny
  | .directory e => switch "ensure_exists" e
  | .object _ exact => switch "require_exact_match" exact
  | .dict _ exact => switch "require_exact_match" exact
  | _ => ""

/-- What stands between the brackets of the header of a kind. -/
def Kind.dslHead : Kind → List Char
  | .anyOf alternatives =>
    '(' :: [' ', '|', ' '].intercalate (ValueType.dslHeads alternatives) ++ [')']
  | k => k.keyword.toList ++ k.dslTags.toList

/-- The members of a class or dictionary. -/
def Kind.members : Kind → List Member
  | .object members _ => members
  | .dict members _ => members
  | _ => []

/-- What follows the header of a kind. -/
def Kind.dslBody (k : Kind) : List Char :=
  if k.members = [] then [] else ':' :: Member.dslLines k.members

/-- The texts in the header of a kind that are given with the kind. -/
def Kind.headTexts : Kind → List String
  | .string l => (l.expression.map (·.source)).toList
  | .enumeration l => l.values ++ l.friendly.getD []
  | _ => []

namespace Dsl

theorem toList_header (keyword tags : String) :
    (header keyword tags).toList = '<' :: (keyword.toList ++ tags.toList) ++ ['>'] := by
  simp [header]

theorem toList_withMembers (keyword : String) (exact : Bool) (members : List Char) :
    (withMembers keyword exact members).toList =
      '<' :: (keyword.toList ++ (switch "require_exact_match" exact).toList) ++
        '>' :: (if members = [] then [] else ':' :: members) := by
  cases members with
  | nil => simp [withMembers, toList_header]
  | cons c cs => simp [withMembers, toList_header]

end Dsl

theorem Member.dslLines_eq_nil {members : List Member} :
    Member.dslLines members = [] ↔ members = [] := by
  cases members with
  | nil => exact iff_of_true (by rw [dslLines]) rfl
  | cons m rest =>
      obtain ⟨name, type⟩ := m
      rw [dslLines]
      exact iff_of_false (List.cons_ne_nil _ _) (List.cons_ne_nil _ _)

/-- The notation of a kind is its header and what follows it. -/
theorem Kind.toList_dsl (k : Kind) : k.dsl.toList = '<' :: k.dslHead ++ '>' :: k.dslBody := by
  cases k with
  | object members exact | dict members exact =>
      rw [dsl, toList_withMembers]
      by_cases none : members = [] <;>
        simp [dslHead, dslBody, dslTags, keyword, Kind.members, Member.dslLines_eq_nil, none]
  | anyOf alternatives =>
      simp [dsl, dslHead, dslBody, Kind.members, String.toList_intercalate, List.map_map,
        Function.comp_def]
  | _ =>
      simp [dsl, toList_header, dslHead, dslBody, dslTags, keyword, Fundamental.keyword,
        Kind.members]

/-! ## Line feeds -/

theorem lineFeed_not_mem_of_word {cs : List Char}
    (h : ∀ c ∈ cs, c.isAlphanum ∨ c = '-' ∨ c = '.') : '\n' ∉ cs := by
  intro hc
  exact absurd (h _ hc) (by decide)

theorem Numeral.of_mem_ofInt {i : Int} {c : Char} (h : c ∈ (Numeral.ofInt i).toList) :
    c.isAlphanum ∨ c = '-' ∨ c = '.' := by
  have digit : c ∈ Numeral.digits i.natAbs → c.isAlphanum ∨ c = '-' ∨ c = '.' := fun hc =>
    .inl (by rw [Char.isAlphanum, Numeral.isDigit_of_mem_digits hc, Bool.or_true])
  rw [Numeral.toList_ofInt] at h
  split at h
  · rcases List.mem_cons.mp h with rfl | h
    · exact .inr (.inl rfl)
    · exact digit h
  · exact digit h

theorem Numeral.of_mem_ofNat {n : Nat} {c : Char} (h : c ∈ (Numeral.ofNat n).toList) :
    c.isAlphanum ∨ c = '-' ∨ c = '.' := by
  rw [Numeral.toList_ofNat] at h
  exact .inl (by rw [Char.isAlphanum, Numeral.isDigit_of_mem_digits h, Bool.or_true])

namespace Dsl

@[simp]
theorem lineFeed_not_mem_ofInt {i : Int} : '\n' ∉ (Numeral.ofInt i).toList :=
  lineFeed_not_mem_of_word fun _ => Numeral.of_mem_ofInt

@[simp]
theorem lineFeed_not_mem_ofNat {n : Nat} : '\n' ∉ (Numeral.ofNat n).toList :=
  lineFeed_not_mem_of_word fun _ => Numeral.of_mem_ofNat

@[simp]
theorem lineFeed_not_mem_double {d : Double} : '\n' ∉ d.text.toList :=
  lineFeed_not_mem_of_word fun _ => Double.of_mem_text

/-- Escaping adds nothing but backslashes. -/
@[simp]
theorem lineFeed_mem_quoted {s : String} : '\n' ∈ (quoted s).toList ↔ '\n' ∈ s.toList := by
  have escaped : ∀ c : Char,
      '\n' ∈ (if c = '\\' ∨ c = '"' then ['\\', c] else [c]) ↔ c = '\n' := by
    intro c
    split <;> simp [eq_comm]
  simp [quoted, List.mem_flatMap, escaped]

theorem mem_intercalate {c : Char} {separator : List Char} (other : c ∉ separator)
    (ls : List (List Char)) : c ∈ separator.intercalate ls ↔ ∃ l ∈ ls, c ∈ l := by
  induction ls with
  | nil => simp
  | cons l ls ih =>
      cases ls with
      | nil => simp
      | cons l' ls => simp [List.intercalate_cons_cons, ih, other]

@[simp]
theorem lineFeed_mem_quotedList {items : List String} :
    '\n' ∈ (quotedList items).toList ↔ ∃ s ∈ items, '\n' ∈ s.toList := by
  simp [quotedList, mem_intercalate]

theorem lineFeed_mem_tag {name value : String} (plain : '\n' ∉ name.toList) :
    '\n' ∈ (tag name value).toList ↔ '\n' ∈ value.toList := by
  simp [tag, plain]

theorem lineFeed_mem_bound {α : Type} {name : String} {v : Option α} {text : α → String}
    (plain : '\n' ∉ name.toList) :
    '\n' ∈ (bound name v text).toList ↔ ∃ a, v = some a ∧ '\n' ∈ (text a).toList := by
  cases v with
  | none => simp [bound]
  | some a => simp [bound, lineFeed_mem_tag plain]

theorem lineFeed_not_mem_switch {name : String} {on : Bool} (plain : '\n' ∉ name.toList) :
    '\n' ∉ (switch name on).toList := by
  cases on <;> simp [switch, lineFeed_mem_tag plain]

end Dsl

/-- The keywords of kinds. -/
def Kind.keywords : List String := Fundamental.all.map (·.keyword) ++ ["class", "dict", "any_of"]

theorem Kind.keyword_mem (k : Kind) : k.keyword ∈ keywords := by
  cases k <;> simp [keywords, keyword, Fundamental.all]

theorem Kind.lineFeed_not_mem_keyword (k : Kind) : '\n' ∉ k.keyword.toList := by
  have plain : ∀ word ∈ keywords, '\n' ∉ word.toList := by decide
  exact plain _ k.keyword_mem

/-! ## Lines of the notation -/

namespace Dsl

/-- The first stretch and those that follow are all stretches between line feeds. -/
theorem pieces_eq (cs : List Char) :
    (pieces cs).1 :: (pieces cs).2 = Text.pieces '\n' cs := by
  induction cs with
  | nil => rfl
  | cons c cs ih =>
      rw [Text.pieces, ← ih, pieces]
      by_cases mark : c = '\n' <;> simp [mark]

theorem mem_of_mem_withoutReturn {c : Char} {line : List Char} (h : c ∈ withoutReturn line) :
    c ∈ line := by
  unfold withoutReturn at h
  split at h
  · rename_i before same
    have : c ∈ line.reverse := by
      rw [same]
      exact List.mem_cons_of_mem _ (List.mem_reverse.mp h)
    exact List.mem_reverse.mp this
  · exact h

theorem lineFeed_not_mem_linesOf {rest : List (List Char)} {line : List Char}
    (hline : '\n' ∉ line) (hrest : ∀ p ∈ rest, '\n' ∉ p) :
    ∀ l ∈ linesOf line rest, '\n' ∉ l := by
  induction rest generalizing line with
  | nil =>
      rw [linesOf]
      split
      · exact List.forall_mem_nil _
      · exact List.forall_mem_singleton.mpr hline
  | cons next rest ih =>
      obtain ⟨hnext, hrest⟩ := List.forall_mem_cons.mp hrest
      exact List.forall_mem_cons.mpr
        ⟨fun h => hline (mem_of_mem_withoutReturn h), ih hnext hrest⟩

theorem lineFeed_not_mem_lines {cs : List Char} : ∀ l ∈ lines cs, '\n' ∉ l := by
  have plain : ∀ p ∈ (pieces cs).1 :: (pieces cs).2, '\n' ∉ p := by
    rw [pieces_eq]
    exact fun p => Text.not_mem_of_mem_pieces
  obtain ⟨first, rest⟩ := List.forall_mem_cons.mp plain
  exact lineFeed_not_mem_linesOf first rest

/-- What stands between the brackets of a first line is part of this line. -/
theorem lineFeed_not_mem_headOf {rendered : String} : '\n' ∉ headOf rendered := by
  unfold headOf
  split
  · exact List.not_mem_nil
  · rename_i first rest same
    have plain : '\n' ∉ first :=
      lineFeed_not_mem_lines first (by rw [same]; exact List.mem_cons_self)
    have trimmed : ∀ {c : Char} {cs : List Char}, '\n' ∈ trimEnd c cs → '\n' ∈ cs := by
      intro c cs h
      exact List.mem_reverse.mp ((List.dropWhile_sublist _).subset (List.mem_reverse.mp h))
    exact fun h => plain (trimmed ((List.dropWhile_sublist _).subset (trimmed h)))

theorem lineFeed_not_mem_dslHeads {alternatives : List ValueType} :
    ∀ l ∈ ValueType.dslHeads alternatives, '\n' ∉ l := by
  induction alternatives with
  | nil =>
      rw [ValueType.dslHeads]
      exact List.forall_mem_nil _
  | cons t rest ih =>
      rw [ValueType.dslHeads]
      exact List.forall_mem_cons.mpr ⟨lineFeed_not_mem_headOf, ih⟩

end Dsl

/-- A header goes on behind its first line exactly if one of the texts given with
the kind does. -/
theorem Kind.lineFeed_mem_dslHead {k : Kind} :
    '\n' ∈ k.dslHead ↔ ∃ s ∈ k.headTexts, '\n' ∈ s.toList := by
  have keyword := k.lineFeed_not_mem_keyword
  cases k with
  | anyOf alternatives =>
      have plain : '\n' ∉ [' ', '|', ' '].intercalate (ValueType.dslHeads alternatives) := by
        rw [mem_intercalate (by decide)]
        rintro ⟨l, hl, h⟩
        exact lineFeed_not_mem_dslHeads l hl h
      simp [dslHead, headTexts, plain]
  | int l =>
      simp [dslHead, dslTags, headTexts, keyword, intTags, lineFeed_mem_bound]
  | number l =>
      simp [dslHead, dslTags, headTexts, keyword, numberTags, lineFeed_mem_bound]
  | string l =>
      have length : '\n' ∉ (if l.minLength = StringLimits.initial.minLength then ""
          else tag "min_length" (Numeral.ofNat l.minLength.toNat)).toList := by
        split <;> simp [lineFeed_mem_tag]
      simp [dslHead, dslTags, headTexts, keyword, stringTags, lineFeed_mem_bound, length]
  | enumeration l =>
      have tags : '\n' ∈ (enumTags l).toList ↔
          (∃ s ∈ l.values, '\n' ∈ s.toList) ∨ ∃ s ∈ l.friendly.getD [], '\n' ∈ s.toList := by
        cases h : l.friendly <;> simp [enumTags, lineFeed_mem_tag, bound, h]
      simp [dslHead, dslTags, headTexts, keyword, tags, or_and_right, exists_or]
  | _ => simp [dslHead, dslTags, headTexts, keyword, lineFeed_not_mem_switch]

/-! ## Putting an arity into a header -/

namespace Dsl

variable {a : Arity} {line before after rest : List Char}

/-- Lines end before a line feed or with the text. -/
def Ends (rest : List Char) : Prop := ∀ c ∈ rest.head?, c = '\n'

theorem span_line (plain : '\n' ∉ line) (ends : Ends rest) :
    (line ++ rest).takeWhile (· ≠ '\n') = line ∧ (line ++ rest).dropWhile (· ≠ '\n') = rest := by
  have cut : (line ++ rest).span (· ≠ '\n') = (line, rest) := Text.span_append
    (fun c hc => decide_eq_true fun same => plain (same ▸ hc))
    (fun c hc => decide_eq_false (not_not.mpr (ends c hc)))
  rw [List.span_eq_takeWhile_dropWhile] at cut
  exact Prod.mk.inj cut

/-- The last closing bracket of a line is the first one from its end. -/
theorem span_reverse (plain : '>' ∉ after) :
    (before ++ '>' :: after).reverse.span (· ≠ '>') = (after.reverse, '>' :: before.reverse) := by
  rw [List.reverse_append, List.reverse_cons, List.append_assoc]
  exact Text.span_append
    (fun c hc => decide_eq_true fun same => plain (same ▸ List.mem_reverse.mp hc)) (by simp)

/-- The arity is put in front of the last closing bracket of the first line. -/
theorem withArity_bracket (plain : '\n' ∉ before ++ '>' :: after) (last : '>' ∉ after)
    (ends : Ends rest) :
    withArity a (before ++ '>' :: after ++ rest) =
      before ++ ' ' :: a.text.toList ++ '>' :: after ++ rest := by
  obtain ⟨first, others⟩ := span_line plain ends
  rw [withArity, first, others]
  simp only [span_reverse last, List.reverse_reverse]

/-- A first line without brackets takes no arity. -/
theorem withArity_plain (plain : '\n' ∉ line) (none : '>' ∉ line) (ends : Ends rest) :
    withArity a (line ++ rest) = line ++ rest := by
  obtain ⟨first, others⟩ := span_line plain ends
  have all : line.reverse.span (· ≠ '>') = (line.reverse, []) := by
    have cut : (line.reverse ++ []).span (· ≠ '>') = (line.reverse, []) := Text.span_append
      (fun c hc => decide_eq_true fun same => none (same ▸ List.mem_reverse.mp hc)) (by simp)
    rwa [List.append_nil] at cut
  rw [withArity, first, others]
  simp only [all]

/-! ## Reading an arity off a header -/

/-- The arity of a notation: what the last word in front of the last closing
bracket of the first line is the shorthand of, or one. -/
def readArity (cs : List Char) : Arity :=
  let front := ((cs.takeWhile (· ≠ '\n')).reverse.dropWhile (· ≠ '>')).drop 1
  match Arity.ofChars (front.takeWhile (· ≠ ' ')).reverse with
  | .ok a => a
  | .error _ => .single

theorem readArity_bracket (plain : '\n' ∉ before ++ '>' :: after) (last : '>' ∉ after)
    (ends : Ends rest) :
    readArity (before ++ '>' :: after ++ rest) =
      match Arity.ofChars (before.reverse.takeWhile (· ≠ ' ')).reverse with
      | .ok a => a
      | .error _ => .single := by
  obtain ⟨first, -⟩ := span_line plain ends
  have cut : (before ++ '>' :: after).reverse.span (· ≠ '>') =
      (after.reverse, '>' :: before.reverse) := span_reverse last
  rw [List.span_eq_takeWhile_dropWhile] at cut
  rw [readArity, first, (Prod.mk.inj cut).2]
  rfl

/-- A text that ends in another way than shorthand texts do. -/
def EndsApart (cs : List Char) : Prop :=
  ∃ c ∈ cs.getLast?, Text.isBlank c = false ∧ c ∉ ['?', '*', '+', '}']

namespace EndsApart

variable {cs ds : List Char}

theorem concat {c : Char} (visible : Text.isBlank c = false) (other : c ∉ ['?', '*', '+', '}']) :
    EndsApart (cs ++ [c]) :=
  ⟨c, List.getLast?_concat, visible, other⟩

theorem append_left (cs : List Char) (h : EndsApart ds) : EndsApart (cs ++ ds) := by
  obtain ⟨c, last, ends⟩ := h
  exact ⟨c, by rw [List.getLast?_append, last]; rfl, ends⟩

/-- Nothing, or another such text, may follow. -/
theorem append (h : EndsApart cs) (more : ds = [] ∨ EndsApart ds) : EndsApart (cs ++ ds) := by
  rcases more with rfl | more
  · rwa [List.append_nil]
  · exact more.append_left cs

theorem of_word (some : cs ≠ []) (h : ∀ c ∈ cs, c.isAlphanum ∨ c = '-' ∨ c = '.') :
    EndsApart cs := by
  have ascii : ∀ n < 0x80, (Char.ofNat n).isAlphanum → Text.isBlank (Char.ofNat n) = false ∧
      Char.ofNat n ∉ ['?', '*', '+', '}'] := by decide
  have last := List.getLast?_eq_some_getLast some
  refine ⟨_, last, ?_⟩
  rcases h _ (List.getLast_mem some) with letter | same | same
  · have plain := ascii (cs.getLast some).toNat
      (Nat.lt_of_le_of_lt (Uri.isVisible_of_isAlphanum letter).2 (by decide))
    rw [Char.ofNat_toNat] at plain
    exact plain letter
  · rw [same]
    decide
  · rw [same]
    decide

theorem ofInt (i : Int) : EndsApart (Numeral.ofInt i).toList := by
  refine of_word ?_ fun _ => Numeral.of_mem_ofInt
  rw [Numeral.toList_ofInt]
  split
  · exact List.cons_ne_nil _ _
  · exact Numeral.digits_ne_nil

theorem ofNat (n : Nat) : EndsApart (Numeral.ofNat n).toList :=
  of_word (Numeral.toList_ofNat ▸ Numeral.digits_ne_nil) fun _ => Numeral.of_mem_ofNat

theorem double (d : Double) : EndsApart d.text.toList :=
  of_word Double.text_ne_nil fun _ => Double.of_mem_text

theorem quoted (s : String) : EndsApart (Dsl.quoted s).toList := by
  rw [Dsl.quoted, String.toList_ofList]
  exact concat rfl (by decide)

theorem quotedList (items : List String) : EndsApart (Dsl.quotedList items).toList := by
  rw [Dsl.quotedList, String.toList_append]
  exact concat rfl (by decide)

theorem tag {name value : String} (h : EndsApart value.toList) :
    EndsApart (Dsl.tag name value).toList := by
  rw [Dsl.tag, String.toList_append]
  exact h.append_left _

theorem bound {α : Type} {name : String} {v : Option α} {text : α → String}
    (h : ∀ a, EndsApart (text a).toList) :
    (Dsl.bound name v text).toList = [] ∨ EndsApart (Dsl.bound name v text).toList := by
  cases v with
  | none => exact .inl rfl
  | some a => exact .inr (tag (h a))

theorem switch {name : String} {on : Bool} :
    (Dsl.switch name on).toList = [] ∨ EndsApart (Dsl.switch name on).toList := by
  cases on with
  | false => exact .inl rfl
  | true => exact .inr (tag ⟨'e', rfl, rfl, by decide⟩)

end EndsApart

/-- What is nothing or ends apart is so behind something of that kind. -/
theorem endsApart_append {cs ds : List Char} (hc : cs = [] ∨ EndsApart cs)
    (hd : ds = [] ∨ EndsApart ds) : cs ++ ds = [] ∨ EndsApart (cs ++ ds) := by
  rcases hc with rfl | hc
  · rwa [List.nil_append]
  · exact .inr (hc.append hd)

end Dsl

open EndsApart in
theorem Kind.endsApart_dslTags (k : Kind) :
    k.dslTags.toList = [] ∨ EndsApart k.dslTags.toList := by
  cases k with
  | int l =>
      simp only [dslTags, intTags, String.toList_append]
      exact endsApart_append (endsApart_append (bound fun _ => ofInt _) (bound fun _ => ofInt _))
        (bound fun _ => ofNat _)
  | number l =>
      simp only [dslTags, numberTags, String.toList_append]
      exact endsApart_append (bound double) (bound double)
  | string l =>
      simp only [dslTags, stringTags, String.toList_append]
      refine endsApart_append (endsApart_append (bound fun _ => quoted _) ?_)
        (bound fun _ => ofNat _)
      split
      · exact .inl rfl
      · exact .inr (tag (ofNat _))
  | enumeration l =>
      simp only [dslTags, enumTags, String.toList_append]
      exact endsApart_append (.inr (tag (quotedList _))) (bound quotedList)
  | filename l =>
      simp only [dslTags, String.toList_append]
      exact endsApart_append switch switch
  | directory e => exact switch
  | object members exact => exact switch
  | dict members exact => exact switch
  | _ => exact .inl rfl

/-- No header ends in a shorthand text. -/
theorem Kind.endsApart_dslHead (k : Kind) : EndsApart k.dslHead := by
  have keyword : EndsApart k.keyword.toList := by
    have words : ∀ word ∈ keywords, word.toList.getLast?.any (fun c =>
        Text.isBlank c = false ∧ c ∉ ['?', '*', '+', '}']) = true := by decide
    obtain ⟨c, last, ends⟩ := (Option.any_eq_true ..).mp (words _ k.keyword_mem)
    exact ⟨c, last, of_decide_eq_true ends⟩
  unfold dslHead
  split
  · exact .concat rfl (by decide)
  · exact keyword.append k.endsApart_dslTags

/-! ## The arity of a notation -/

/-- The mark behind the header of a class or dictionary with members. -/
def Kind.dslMark (k : Kind) : List Char := if k.members = [] then [] else [':']

theorem Kind.dslBody_eq (k : Kind) : k.dslBody = k.dslMark ++ Member.dslLines k.members := by
  unfold dslBody dslMark
  split
  · rename_i none
    rw [none, Member.dslLines]
    rfl
  · rfl

theorem Member.ends_dslLines (members : List Member) : Ends (Member.dslLines members) := by
  cases members with
  | nil =>
      rw [dslLines]
      exact nofun
  | cons m rest =>
      obtain ⟨name, type⟩ := m
      rw [dslLines]
      rintro c ⟨⟩
      rfl

section Arity

variable {k : Kind} {a : Arity}

theorem Kind.plain_mark : '\n' ∉ k.dslMark ∧ '>' ∉ k.dslMark := by
  unfold dslMark
  split <;> decide

/-- A header on one line takes the arity in front of its own bracket. -/
theorem Kind.withArity_dsl (plain : '\n' ∉ k.dslHead) :
    withArity a k.dsl.toList =
      '<' :: k.dslHead ++ ' ' :: a.text.toList ++ '>' :: k.dslBody := by
  have line : '\n' ∉ '<' :: k.dslHead ++ '>' :: k.dslMark := by
    simp [plain, plain_mark.1]
  have put := withArity_bracket (a := a) line plain_mark.2 (Member.ends_dslLines k.members)
  rw [k.toList_dsl, k.dslBody_eq]
  simpa using put

/-- Otherwise it is put between the texts of the header, if there is a bracket on
the first line, and left out if there is none. -/
theorem Kind.withArity_dsl_of_lineFeed {line rest : List Char}
    (head : k.dslHead = line ++ '\n' :: rest) (plain : '\n' ∉ line) :
    ('>' ∉ line ∧ withArity a k.dsl.toList = k.dsl.toList) ∨
      ∃ before after, line = before ++ '>' :: after ∧ withArity a k.dsl.toList =
        '<' :: before ++ ' ' :: a.text.toList ++ '>' :: after ++ '\n' :: rest ++
          '>' :: k.dslBody := by
  have ends : Ends ('\n' :: rest ++ '>' :: k.dslBody) := by
    rintro c ⟨⟩
    rfl
  have first : '\n' ∉ '<' :: line := by simp [plain]
  have split : k.dsl.toList = '<' :: line ++ ('\n' :: rest ++ '>' :: k.dslBody) := by
    rw [k.toList_dsl, head]
    simp
  by_cases bracket : '>' ∈ line
  · right
    obtain ⟨after, before, reversed, last⟩ :=
      List.eq_append_cons_of_mem (List.mem_reverse.mpr bracket)
    obtain rfl : line = before.reverse ++ '>' :: after.reverse := by
      rw [← List.reverse_reverse line, reversed]
      simp
    refine ⟨before.reverse, after.reverse, rfl, ?_⟩
    rw [split]
    have put : withArity a ('<' :: before.reverse ++ '>' :: after.reverse ++ _) = _ :=
      withArity_bracket first (mt List.mem_reverse.mp last) ends
    simpa using put
  · left
    refine ⟨bracket, ?_⟩
    rw [split]
    exact withArity_plain first (by simp [bracket]) ends

/-- A shorthand text is the last word of a header that it is put into. -/
theorem readArity_withArity (plain : '\n' ∉ k.dslHead) :
    readArity ('<' :: k.dslHead ++ ' ' :: a.text.toList ++ '>' :: k.dslBody) = a := by
  have visible : ∀ c ∈ a.text.toList, c ≠ ' ' ∧ c ≠ '\n' := by
    intro c hc
    constructor
    · rintro rfl
      cases Arity.not_isBlank_of_mem_text hc
    · rintro rfl
      cases Arity.not_isBlank_of_mem_text hc
  have line : '\n' ∉ ('<' :: k.dslHead ++ ' ' :: a.text.toList) ++ '>' :: k.dslMark := by
    have shorthand : '\n' ∉ a.text.toList := fun h => (visible _ h).2 rfl
    simp [plain, shorthand, Kind.plain_mark.1]
  have word : ('<' :: k.dslHead ++ ' ' :: a.text.toList).reverse.takeWhile (· ≠ ' ') =
      a.text.toList.reverse := by
    have cut : (a.text.toList.reverse ++ ' ' :: ('<' :: k.dslHead).reverse).span (· ≠ ' ') =
        (a.text.toList.reverse, ' ' :: ('<' :: k.dslHead).reverse) := Text.span_append
      (fun c hc => decide_eq_true (visible c (List.mem_reverse.mp hc)).1) (by simp)
    rw [List.span_eq_takeWhile_dropWhile] at cut
    rw [List.reverse_append, List.reverse_cons, List.append_assoc]
    exact (Prod.mk.inj cut).1
  have read := readArity_bracket line Kind.plain_mark.2 (Member.ends_dslLines k.members)
  rw [word, List.reverse_reverse, Arity.ofChars_text] at read
  rw [k.dslBody_eq]
  simpa using read

/-- Without one the last word is no shorthand text. -/
theorem readArity_dsl (plain : '\n' ∉ k.dslHead) : readArity k.dsl.toList = .single := by
  have line : '\n' ∉ '<' :: k.dslHead ++ '>' :: k.dslMark := by
    simp [plain, Kind.plain_mark.1]
  obtain ⟨c, last, visible, other⟩ := k.endsApart_dslHead
  obtain ⟨cs, head⟩ := List.getLast?_eq_some_iff.mp last
  have space : c ≠ ' ' := by
    rintro rfl
    cases visible
  obtain ⟨word, lastWord⟩ : ∃ word, ('<' :: k.dslHead).reverse.takeWhile (· ≠ ' ') = c :: word := by
    rw [head, ← List.cons_append, List.reverse_append, List.reverse_singleton,
      List.singleton_append, List.takeWhile_cons_of_pos (by simpa using space)]
    exact ⟨_, rfl⟩
  have read := readArity_bracket line Kind.plain_mark.2 (Member.ends_dslLines k.members)
  rw [lastWord, List.reverse_cons, Arity.ofChars_concat visible other] at read
  rw [k.toList_dsl, k.dslBody_eq]
  simpa using read

end Arity

/-- Where a header goes on behind its first line, the arity is in no case in
front of the bracket of the header. -/
theorem Kind.withArity_dsl_ne {k : Kind} {a : Arity} (h : '\n' ∈ k.dslHead) :
    withArity a k.dsl.toList ≠
      '<' :: k.dslHead ++ ' ' :: a.text.toList ++ '>' :: k.dslBody := by
  obtain ⟨line, rest, head, plain⟩ := List.eq_append_cons_of_mem h
  rcases withArity_dsl_of_lineFeed (a := a) head plain with ⟨-, out⟩ | ⟨before, after, rfl, put⟩
  · rw [out, k.toList_dsl]
    intro same
    have length := congrArg List.length same
    simp at length
    omega
  · rw [put, head]
    simp

theorem Kind.plain_dslHead_iff {k : Kind} :
    (∀ s ∈ k.headTexts, '\n' ∉ s.toList) ↔ '\n' ∉ k.dslHead := by
  rw [lineFeed_mem_dslHead]
  exact ⟨fun h ⟨s, hs, hc⟩ => h s hs hc, fun h s hs hc => h ⟨s, hs, hc⟩⟩

theorem ValueType.dsl_single (t : ValueType) : (t.withArity .single).dsl = t.kind.dsl := by
  rw [withArity, dsl, collected, if_pos (by decide)]

theorem ValueType.toList_dsl_of_several {t : ValueType} (several : t.arity.isSingle = false) :
    t.dsl.toList = Dsl.withArity t.arity t.kind.dsl.toList := by
  obtain ⟨k, a, hook⟩ := t
  have several : ¬ a.isSingle = true := Bool.eq_false_iff.mp several
  rw [dsl, collected, if_neg several, String.toList_ofList]
  rfl

/-- An arity other than one stands behind a blank in front of the bracket of the
header exactly if the texts in the header have no line feeds, and then it can be
read off, as one item can where no arity is said.  Otherwise it is put in front
of an earlier bracket, among the texts, or left out. -/
theorem ValueType.dsl_of_several {t : ValueType} (several : t.arity.isSingle = false) :
    (t.withArity .single).dsl.toList = '<' :: t.kind.dslHead ++ '>' :: t.kind.dslBody ∧
    (t.dsl.toList =
        '<' :: t.kind.dslHead ++ ' ' :: t.arity.text.toList ++ '>' :: t.kind.dslBody ↔
      ∀ s ∈ t.kind.headTexts, '\n' ∉ s.toList) ∧
    ((∀ s ∈ t.kind.headTexts, '\n' ∉ s.toList) →
      Dsl.readArity t.dsl.toList = t.arity ∧
        Dsl.readArity (t.withArity .single).dsl.toList = .single) ∧
    ∀ line rest, t.kind.dslHead = line ++ '\n' :: rest → '\n' ∉ line →
      ('>' ∉ line ∧ t.dsl = (t.withArity .single).dsl) ∨
        ∃ before after, line = before ++ '>' :: after ∧ t.dsl.toList =
          '<' :: before ++ ' ' :: t.arity.text.toList ++ '>' :: after ++ '\n' :: rest ++
            '>' :: t.kind.dslBody := by
  rw [Kind.plain_dslHead_iff, t.dsl_single, toList_dsl_of_several several]
  refine ⟨t.kind.toList_dsl, ⟨fun same => ?_, Kind.withArity_dsl⟩, fun plain => ?_, ?_⟩
  · exact fun lineFeed => Kind.withArity_dsl_ne lineFeed same
  · rw [Kind.withArity_dsl plain]
    exact ⟨readArity_withArity plain, readArity_dsl plain⟩
  · intro line rest head plain
    rcases Kind.withArity_dsl_of_lineFeed head plain with ⟨bare, out⟩ | put
    · refine .inl ⟨bare, ?_⟩
      rw [← String.toList_inj, toList_dsl_of_several several, out]
    · exact .inr put

/-- An enumeration of two lines, once with brackets on the first of them. -/
theorem ValueType.dsl_of_several_lineFeed :
    let lost : ValueType := .mk (.enumeration ⟨["a\nb"], none⟩) .zeroOrMore none
    let misplaced : ValueType := .mk (.enumeration ⟨["<a>\nb"], none⟩) .zeroOrMore none
    lost.arity.isSingle = false ∧ misplaced.arity.isSingle = false ∧
      lost.dsl = (lost.withArity .single).dsl ∧
      misplaced.dsl = "<enum values=[\"<a *>\nb\"]>" ∧
      lost.dsl.toList ≠
        '<' :: lost.kind.dslHead ++ ' ' :: lost.arity.text.toList ++ '>' :: lost.kind.dslBody := by
  intro lost misplaced
  have several : lost.arity.isSingle = false := by decide
  refine ⟨several, by decide, ?_, by decide, fun same => ?_⟩
  · decide
  · have plain := (dsl_of_several several).2.1.mp same "a\nb" (by simp [lost, kind, Kind.headTexts])
    exact absurd plain (by decide)

end TypeSchema
