/-
# Layout — lines of the notation

The members of a class are written on lines of their own: the lines that a
member's type is written on, the name put into the first of them, each behind
four spaces.  So a class inside of a class is indented once for each class
around it.  What comes out is a line for every member there is at any depth, in
the order in which a walk through the classes meets them (`Kind.outline`), with
the spaces that its depth asks for (`ValueType.pieces_dsl`).

The induction is on the types inside of types.  It needs that no text in the
notation has a line feed; then a header is a line, and taking a notation to
lines and putting these together again loses nothing.
-/
import TypeSchema.Proofs.Dsl.Header
import TypeSchema.Proofs.ValueType.Construction

namespace TypeSchema

open Dsl

/-! ## Members at every depth -/

mutual

/-- The members inside of a kind, at the depth that is given, and the members
inside of these one deeper, each behind the member that it is inside of. -/
def Kind.outline (depth : Nat) : Kind → List (Nat × Member)
  | .object members _ => Member.outline depth members
  | .dict members _ => Member.outline depth members
  | _ => []

/-- Members, each followed by those inside of it. -/
def Member.outline (depth : Nat) : List Member → List (Nat × Member)
  | [] => []
  | .mk name (.mk kind arity hook) :: rest =>
    (depth, .mk name (.mk kind arity hook)) ::
      (kind.outline (depth + 1) ++ Member.outline depth rest)

end

theorem Member.outline_cons (depth : Nat) (m : Member) (rest : List Member) :
    Member.outline depth (m :: rest) =
      (depth, m) :: (m.type.kind.outline (depth + 1) ++ Member.outline depth rest) := by
  obtain ⟨name, ⟨kind, arity, hook⟩⟩ := m
  rw [outline]
  rfl

theorem Kind.outline_eq (depth : Nat) (k : Kind) :
    k.outline depth = Member.outline depth k.members := by
  cases k <;> simp [Kind.outline, members, Member.outline]

mutual

theorem Kind.outline_succ (depth : Nat) : ∀ k : Kind,
    k.outline (depth + 1) = (k.outline depth).map (Prod.map (· + 1) id)
  | .object members _ | .dict members _ => by
      rw [Kind.outline, Kind.outline]
      exact Member.outline_succ depth members
  | .bool | .int _ | .number _ | .string _ | .enumeration _ | .date | .time | .dateTime
  | .duration | .guid | .uri | .filename _ | .directory _ | .anyOf _ => by
      simp [Kind.outline]

/-- One step down all members are one deeper. -/
theorem Member.outline_succ (depth : Nat) : ∀ members : List Member,
    Member.outline (depth + 1) members =
      (Member.outline depth members).map (Prod.map (· + 1) id)
  | [] => by simp [Member.outline]
  | .mk name (.mk kind arity hook) :: rest => by
      rw [Member.outline, Member.outline, kind.outline_succ (depth + 1),
        Member.outline_succ depth rest]
      simp

end

/-! ## Lines of members -/

/-- The inside of the brackets of a type: the header of its kind, with the arity
behind it unless that is one. -/
def ValueType.dslHead (t : ValueType) : List Char :=
  t.kind.dslHead ++ if t.arity.isSingle then [] else ' ' :: t.arity.text.toList

/-- What closes a header: a bracket, and a colon if there are members. -/
def Kind.dslClosing (k : Kind) : List Char := if k.members = [] then ['>'] else ['>', ':']

/-- The line of a type. -/
def ValueType.dslLine (t : ValueType) : List Char := '<' :: t.dslHead ++ t.kind.dslClosing

/-- The line of a member at a depth: four spaces for each step down, and its name
behind the opening bracket. -/
def Member.dslLine (depth : Nat) (m : Member) : List Char :=
  List.replicate (4 * depth) ' ' ++ '<' :: m.name.toList ++ ' ' :: m.type.dslHead ++
    m.type.kind.dslClosing

/-- The lines of the members inside of a type. -/
def ValueType.memberLines (t : ValueType) : List (List Char) :=
  (t.kind.outline 1).map fun p => p.2.dslLine p.1

/-- The texts given with a kind: those in its header and the names of members. -/
def Kind.dslTexts (k : Kind) : List String := k.headTexts ++ k.members.map (·.name)

theorem Kind.type_mem_parts (k : Kind) {m : Member} (h : m ∈ k.members) : m.type ∈ k.parts := by
  cases k with
  | object members exact | dict members exact => exact List.mem_map_of_mem h
  | _ => cases h

theorem Member.dslLine_succ (depth : Nat) (m : Member) :
    m.dslLine (depth + 1) = indent ++ m.dslLine depth := by
  rw [dslLine, dslLine, Nat.mul_succ, Nat.add_comm, List.replicate_add]
  simp [indent, List.replicate]

namespace Dsl

/-- A line with a closing bracket, or a colon, at its end. -/
def IsClosed (line : List Char) : Prop :=
  '\n' ∉ line ∧ ∃ c ∈ line.getLast?, c = '>' ∨ c = ':'

theorem IsClosed.append {before line : List Char} (plain : '\n' ∉ before) (h : IsClosed line) :
    IsClosed (before ++ line) := by
  obtain ⟨noFeed, c, last, closes⟩ := h
  exact ⟨by simp [plain, noFeed], c, by rw [List.getLast?_append, last]; rfl, closes⟩

theorem IsClosed.ne_nil {line : List Char} (h : IsClosed line) : line ≠ [] := by
  rintro rfl
  obtain ⟨-, c, last, -⟩ := h
  cases last

theorem IsClosed.withoutReturn_eq {line : List Char} (h : IsClosed line) :
    withoutReturn line = line := by
  obtain ⟨-, c, last, closes⟩ := h
  obtain ⟨before, rfl⟩ := List.getLast?_eq_some_iff.mp last
  rw [withoutReturn, List.reverse_append, List.reverse_singleton, List.singleton_append]
  rcases closes with rfl | rfl <;> rfl

theorem linesOf_eq {line : List Char} {rest : List (List Char)}
    (closed : ∀ l ∈ line :: rest, IsClosed l) : linesOf line rest = line :: rest := by
  induction rest generalizing line with
  | nil => rw [linesOf, if_neg (closed line List.mem_cons_self).ne_nil]
  | cons next rest ih =>
      obtain ⟨here, later⟩ := List.forall_mem_cons.mp closed
      rw [linesOf, here.withoutReturn_eq, ih later]

/-- Closed lines are the lines of the text that they make up. -/
theorem lines_intercalate {ls : List (List Char)} (some : ls ≠ []) (closed : ∀ l ∈ ls, IsClosed l) :
    lines (['\n'].intercalate ls) = ls := by
  have split := pieces_eq (['\n'].intercalate ls)
  rw [Text.pieces_intercalate some fun l hl => (closed l hl).1] at split
  rw [lines, linesOf_eq (by rwa [split]), split]

theorem intercalate_cons (line : List Char) (rest : List (List Char)) :
    ['\n'].intercalate (line :: rest) = line ++ rest.flatMap ('\n' :: ·) := by
  induction rest generalizing line with
  | nil => simp
  | cons next rest ih => simp [List.intercalate_cons_cons, ih]

end Dsl

/-! ## Headers as lines -/

/-- A header starts with a letter or a parenthesis. -/
theorem Kind.exists_dslHead (k : Kind) : ∃ c cs, k.dslHead = c :: cs ∧ c ≠ '<' := by
  have words : ∀ word ∈ keywords, word.toList.head?.any (· ≠ '<') = true := by decide
  obtain ⟨c, first, other⟩ := (Option.any_eq_true ..).mp (words _ k.keyword_mem)
  have other : c ≠ '<' := of_decide_eq_true other
  obtain ⟨cs, word⟩ := List.head?_eq_some_iff.mp first
  unfold dslHead
  split
  · exact ⟨'(', _, rfl, by decide⟩
  · exact ⟨c, cs ++ k.dslTags.toList, by rw [word, List.cons_append], other⟩

theorem Kind.isClosed_dslClosing (k : Kind) : IsClosed k.dslClosing := by
  unfold dslClosing
  split
  · exact ⟨by decide, '>', rfl, .inl rfl⟩
  · exact ⟨by decide, ':', rfl, .inr rfl⟩

section Header

variable {t : ValueType}

theorem ValueType.dropWhile_dslLine :
    t.dslLine.dropWhile (· = '<') = t.dslHead ++ t.kind.dslClosing := by
  obtain ⟨c, cs, head, other⟩ := t.kind.exists_dslHead
  simp [dslLine, dslHead, head, other]

theorem ValueType.lineFeed_not_mem_dslHead (plain : ∀ s ∈ t.kind.headTexts, '\n' ∉ s.toList) :
    '\n' ∉ t.dslHead := by
  have head := Kind.plain_dslHead_iff.mp plain
  have shorthand : '\n' ∉ t.arity.text.toList := fun h => by
    cases Arity.not_isBlank_of_mem_text h
  unfold dslHead
  split <;> simp [head, shorthand]

theorem ValueType.isClosed_dslLine (plain : ∀ s ∈ t.kind.headTexts, '\n' ∉ s.toList) :
    IsClosed t.dslLine :=
  t.kind.isClosed_dslClosing.append (by simp [lineFeed_not_mem_dslHead plain])

theorem Member.isClosed_dslLine {m : Member} (depth : Nat) (name : '\n' ∉ m.name.toList)
    (plain : ∀ s ∈ m.type.kind.headTexts, '\n' ∉ s.toList) : IsClosed (m.dslLine depth) := by
  refine m.type.kind.isClosed_dslClosing.append ?_
  simp [ValueType.lineFeed_not_mem_dslHead plain, name]

/-- The notation of a type is its line and the lines of its members. -/
theorem ValueType.toList_dsl (plain : ∀ s ∈ t.kind.headTexts, '\n' ∉ s.toList) :
    t.dsl.toList = t.dslLine ++ Member.dslLines t.kind.members := by
  have body : '>' :: t.kind.dslBody = t.kind.dslClosing ++ Member.dslLines t.kind.members := by
    unfold Kind.dslBody Kind.dslClosing
    split
    · rename_i none
      rw [none, Member.dslLines]
      rfl
    · rfl
  have bare : t.kind.dsl.toList = '<' :: t.kind.dslHead ++
      (t.kind.dslClosing ++ Member.dslLines t.kind.members) := by
    rw [t.kind.toList_dsl, body]
  rw [dslLine, dslHead]
  cases single : t.arity.isSingle with
  | true =>
      have same : t.dsl = t.kind.dsl := by
        obtain ⟨k, a, hook⟩ := t
        rw [dsl, collected]
        exact if_pos single
      rw [same, bare]
      simp
  | false =>
      rw [toList_dsl_of_several single, Kind.withArity_dsl (Kind.plain_dslHead_iff.mp plain), body]
      simp

end Header

/-! ## The lines of a notation -/

/-- The notation of a type is its line and those of its members, all of them closed. -/
structure ValueType.LaidOut (t : ValueType) : Prop where
  text : t.dsl.toList = ['\n'].intercalate (t.dslLine :: t.memberLines)
  closed : ∀ line ∈ t.dslLine :: t.memberLines, IsClosed line

/-- The lines of a member are those of its type one step down, its name put into
the first of them. -/
theorem Member.memberLines_eq {m : Member} (laid : m.type.LaidOut) :
    Dsl.memberLines m.name m.type.dsl =
      m.dslLine 1 ++ m.type.memberLines.flatMap fun line => '\n' :: indent ++ line := by
  rw [Dsl.memberLines, laid.text, lines_intercalate (List.cons_ne_nil _ _) laid.closed]
  simp only
  rw [ValueType.dropWhile_dslLine, Member.dslLine_succ]
  simp [Member.dslLine]

theorem Member.dslLines_cons (m : Member) (rest : List Member) :
    Member.dslLines (m :: rest) =
      '\n' :: Dsl.memberLines m.name m.type.dsl ++ Member.dslLines rest := by
  obtain ⟨name, type⟩ := m
  rw [dslLines]
  rfl

theorem ValueType.indent_memberLines (t : ValueType) :
    t.memberLines.map (indent ++ ·) = (t.kind.outline 2).map fun p => p.2.dslLine p.1 := by
  rw [memberLines, t.kind.outline_succ 1, List.map_map, List.map_map]
  refine List.map_congr_left fun p _ => ?_
  exact (p.2.dslLine_succ p.1).symm

/-- If the types of members are laid out as lines, so are the members. -/
theorem Member.dslLines_eq {members : List Member} (laid : ∀ m ∈ members, m.type.LaidOut) :
    Member.dslLines members =
      ((Member.outline 1 members).map fun p => p.2.dslLine p.1).flatMap ('\n' :: ·) := by
  induction members with
  | nil =>
      rw [dslLines, outline]
      rfl
  | cons m rest ih =>
      obtain ⟨here, later⟩ := List.forall_mem_cons.mp laid
      -- what is at depth one in the type of a member is at depth two beside it
      have deeper : m.type.memberLines.flatMap (fun line => '\n' :: indent ++ line) =
          ((m.type.kind.outline 2).map fun p => p.2.dslLine p.1).flatMap ('\n' :: ·) := by
        rw [← m.type.indent_memberLines, List.flatMap_map]
        rfl
      rw [dslLines_cons, memberLines_eq here, deeper, ih later, outline_cons]
      simp

theorem Member.isClosed_outline {members : List Member}
    (names : ∀ m ∈ members, '\n' ∉ m.name.toList)
    (heads : ∀ m ∈ members, ∀ s ∈ m.type.kind.headTexts, '\n' ∉ s.toList)
    (inside : ∀ m ∈ members, ∀ l ∈ m.type.memberLines, IsClosed l) :
    ∀ p ∈ Member.outline 1 members, IsClosed (p.2.dslLine p.1) := by
  induction members with
  | nil =>
      rw [outline]
      exact List.forall_mem_nil _
  | cons m rest ih =>
      obtain ⟨name, names⟩ := List.forall_mem_cons.mp names
      obtain ⟨head, heads⟩ := List.forall_mem_cons.mp heads
      obtain ⟨within, inside⟩ := List.forall_mem_cons.mp inside
      rw [outline_cons]
      refine List.forall_mem_cons.mpr ⟨isClosed_dslLine 1 name head, ?_⟩
      refine List.forall_mem_append.mpr ⟨fun p hp => ?_, ih names heads inside⟩
      have shifted : p.2.dslLine p.1 ∈ m.type.memberLines.map (indent ++ ·) := by
        rw [m.type.indent_memberLines]
        exact List.mem_map_of_mem hp
      obtain ⟨line, hline, same⟩ := List.mem_map.mp shifted
      rw [← same]
      exact (within line hline).append (by decide)

/-- Without line feeds in its texts a type is laid out as lines. -/
theorem ValueType.laidOut {t : ValueType}
    (flat : t.Throughout fun s => ∀ text ∈ s.kind.dslTexts, '\n' ∉ text.toList) :
    t.LaidOut := by
  induction flat with
  | @intro t here inside ih =>
      obtain ⟨head, names⟩ := List.forall_mem_append.mp here
      have laid : ∀ m ∈ t.kind.members, m.type.LaidOut :=
        fun m hm => ih m.type (t.kind.type_mem_parts hm)
      have closed : ∀ p ∈ Member.outline 1 t.kind.members, IsClosed (p.2.dslLine p.1) := by
        refine Member.isClosed_outline (fun m hm => names _ (List.mem_map_of_mem hm)) ?_
          fun m hm => (List.forall_mem_cons.mp (laid m hm).closed).2
        intro m hm
        exact (List.forall_mem_append.mp (inside _ (t.kind.type_mem_parts hm)).here).1
      constructor
      · rw [toList_dsl head, Member.dslLines_eq laid, intercalate_cons, memberLines,
          Kind.outline_eq]
      · refine List.forall_mem_cons.mpr ⟨isClosed_dslLine head, ?_⟩
        rw [memberLines, Kind.outline_eq]
        exact List.forall_mem_map.mpr closed

/-- Between line feeds the notation has the line of the type and then a line for
each member at every depth. -/
theorem ValueType.pieces_dsl {t : ValueType}
    (flat : t.Throughout fun s => ∀ text ∈ s.kind.dslTexts, '\n' ∉ text.toList) :
    Text.pieces '\n' t.dsl.toList =
      t.dslLine :: (t.kind.outline 1).map fun p => p.2.dslLine p.1 := by
  have laid := laidOut flat
  rw [laid.text]
  exact Text.pieces_intercalate (List.cons_ne_nil _ _) fun line h => (laid.closed line h).1

/-- A class inside of a class, and a choice whose members are not gone into. -/
theorem ValueType.pieces_dsl_nested :
    let street : Member := .mk "street" (.mk (.string .initial) .optional none)
    let address : ValueType := .mk (.object [street] true) .single none
    let place : ValueType := .mk (.anyOf [address, .mk .uri .single none]) .zeroOrMore none
    let t : ValueType := .mk (.dict [.mk "home" address, .mk "places" place] false) .oneOrMore none
    (t.Throughout fun s => ∀ text ∈ s.kind.dslTexts, '\n' ∉ text.toList) ∧
      Text.pieces '\n' t.dsl.toList =
        ["<dict +>:", "    <home class require_exact_match=true>:", "        <street string ?>",
          "    <places (class require_exact_match=true | uri) *>"].map String.toList := by
  intro street address place t
  have inner : address.Throughout fun s => ∀ text ∈ s.kind.dslTexts, '\n' ∉ text.toList :=
    .intro (by decide) (List.forall_mem_singleton.mpr (.flat (by decide) rfl))
  have choice : place.Throughout fun s => ∀ text ∈ s.kind.dslTexts, '\n' ∉ text.toList :=
    .intro (by decide) (List.forall_mem_cons.mpr
      ⟨inner, List.forall_mem_singleton.mpr (.flat (by decide) rfl)⟩)
  have flat : t.Throughout fun s => ∀ text ∈ s.kind.dslTexts, '\n' ∉ text.toList :=
    .intro (by decide) (List.forall_mem_cons.mpr ⟨inner, List.forall_mem_singleton.mpr choice⟩)
  exact ⟨flat, (pieces_dsl flat).trans (by decide)⟩

end TypeSchema
