/-
# Locations — where the entries of a source start in its text

The values of a text stand in it one after the other, and the parts of a value
behind its first character and before the next value (`Json.InOrder`).  Each
step of reading keeps this, so the values of a text have it as they are read
(`Json.Raw.inOrder_ofChars`); and where a value says that it starts, a part of
the text starts from which it is read by itself (`Json.Raw.StandsIn`).

The entries of a source are parts of it.  So its rows start one behind the
other, those of members behind that of their object (`Rows.ordered`).  Lines
and columns keep this order (`Location.before_after`), as long as no text is so
long that they are cut off, and with them the declarations that the rows come to
(`frontEnd_locations`).
-/
import TypeSchema.Proofs.Fields
import TypeSchema.Proofs.Json.Slices
import TypeSchema.Proofs.JsonSource.Rows

namespace TypeSchema

open Declaration (Id)
open TypeSchema.Graph (Built)

namespace Json

/-! ## Where values stand -/

/-- The items of an array, or the values of the fields of an object. -/
def Raw.parts : Raw → List Raw
  | .array _ items => items
  | .object _ fields => fields.map (·.2)
  | _ => []

/-- The value stands in the text behind as many characters as it says: a part of the text starts
there that is the value if it is read by itself. -/
def Raw.StandsIn (text : List Char) (v : Raw) : Prop :=
  ∃ before value after w, text = before ++ value ++ after ∧ v.start = before.length ∧
    Raw.ofChars value = some w ∧ w.start = 0 ∧ w.unplaced = v.unplaced

/-- Values stand between two places one after another, the parts of each one behind its own first
character and before the next value, and each is as `P` says. -/
inductive InOrder (P : Raw → Prop) : Nat → List Raw → Nat → Prop
  | nil {lo hi : Nat} : lo ≤ hi → InOrder P lo [] hi
  | cons {lo stop hi : Nat} {v : Raw} {vs : List Raw} : lo ≤ v.start → P v →
      InOrder P (v.start + 1) v.parts stop → InOrder P stop vs hi → InOrder P lo (v :: vs) hi

namespace InOrder

variable {P : Raw → Prop} {lo hi : Nat} {vs : List Raw}

theorem le (h : InOrder P lo vs hi) : lo ≤ hi := by
  induction h with
  | nil h => exact h
  | cons h _ _ _ ih ih' => omega

theorem mono (h : InOrder P lo vs hi) {lo' hi' : Nat} (hlo : lo' ≤ lo) (hhi : hi ≤ hi') :
    InOrder P lo' vs hi' := by
  induction h generalizing lo' with
  | nil h => exact .nil (by omega)
  | cons first hP inside _ _ ih => exact .cons (by omega) hP inside (ih (Nat.le_refl _) hhi)

theorem append {vs' : List Raw} {mid mid' : Nat} (h : InOrder P lo vs mid) (between : mid ≤ mid')
    (h' : InOrder P mid' vs' hi) : InOrder P lo (vs ++ vs') hi := by
  induction h with
  | nil h => exact h'.mono (by omega) (Nat.le_refl _)
  | cons first hP inside _ _ ih => exact .cons first hP inside (ih between)

/-- The parts of one of the values stand in order where it does. -/
theorem parts_of_mem (h : InOrder P lo vs hi) {v : Raw} (hv : v ∈ vs) :
    InOrder P lo v.parts hi := by
  induction h with
  | nil => cases hv
  | cons first _ inside later _ ih =>
      rcases List.mem_cons.mp hv with rfl | hv
      · exact inside.mono (by omega) later.le
      · have := inside.le
        exact (ih hv).mono (by omega) (Nat.le_refl _)

end InOrder

theorem ValueRead.start {fuel : Nat} {k k' : Cursor} {v : Raw} (h : ValueRead fuel k v k') :
    v.start = k.offset := by
  cases h <;> rfl

/-- The cursor is in the text. -/
def Cursor.IsIn (text : List Char) (k : Cursor) : Prop := ∃ before, Takes ⟨text, 0⟩ before k

theorem Cursor.IsIn.takes {text taken : List Char} {k k' : Cursor} (h : k.IsIn text)
    (takes : k.Takes taken k') : k'.IsIn text := by
  obtain ⟨before, h⟩ := h
  exact ⟨_, h.trans takes⟩

theorem Cursor.IsIn.offset_le {text : List Char} {k : Cursor} (h : k.IsIn text) :
    k.offset ≤ text.length := by
  obtain ⟨before, h⟩ := h
  have whole : text = before ++ k.rest := h.rest
  have offset : k.offset = 0 + before.length := h.offset
  rw [offset, whole, List.length_append]
  omega

theorem Cursor.Takes.le {taken : List Char} {k k' : Cursor} (h : k.Takes taken k') :
    k.offset ≤ k'.offset := by
  rw [h.offset]
  exact Nat.le_add_right _ _

/-- A value that is read from the text is read again from its own characters alone. -/
theorem ValueRead.standsIn {fuel : Nat} {text : List Char} {k k' : Cursor} {v : Raw}
    (h : ValueRead fuel k.skip v k') (hk : k.skip.IsIn text) : v.StandsIn text := by
  obtain ⟨before, inside⟩ := hk
  obtain ⟨_, items, fields⟩ := slices fuel
  obtain ⟨value, slice⟩ := h.slice items fields
  obtain ⟨w, again, same⟩ := slice.again (2 * value.length + 2) 0 [] (by omega) nofun
  have first : (Cursor.mk (value ++ []) 0).skip = ⟨value ++ [], 0⟩ :=
    @Cursor.skip_append [] _ 0 nofun (slice.stop [])
  have read : ReadsValue (2 * value.length + 2) ⟨value ++ [], 0⟩ w ⟨[], 0 + value.length⟩ :=
    readsValue_succ_iff.mpr (first.symm ▸ again)
  rw [ReadsValue, List.append_nil] at read
  refine ⟨before, value, k'.rest, w, ?_, ?_, ?_, again.start, same⟩
  · rw [List.append_assoc, ← slice.takes.rest]
    exact inside.rest
  · rw [h.start, inside.offset]
    exact Nat.zero_add _
  · rw [Raw.ofChars, read]
    rfl

/-- What is read stands in order between the cursors. -/
def Ordered {α : Type} (text : List Char) (values : α → List Raw)
    (read : Cursor → α → Cursor → Prop) : Prop :=
  ∀ k a k', k.IsIn text → read k a k' →
    InOrder (Raw.StandsIn text) k.offset (values a) k'.offset ∧ ∃ taken, k.Takes taken k'

section InText

variable {text : List Char}

theorem SeriesRead.ordered {α : Type} {one : Cursor → α → Cursor → Prop}
    {more : Cursor → List α → Cursor → Prop} {close : Char} {value : α → Raw}
    (ones : Ordered text (fun a => [value a]) one) (mores : Ordered text (List.map value) more) :
    Ordered text (List.map value) (SeriesRead one more close) := by
  intro k as k' hk h
  cases h with
  | last first closed =>
      obtain ⟨order, _, takes⟩ := ones _ _ _ hk first
      obtain ⟨spaces, takes', -⟩ := Cursor.exists_mark closed
      exact ⟨order.mono (Nat.le_refl _) takes'.le, _, takes.trans takes'⟩
  | next first comma later =>
      obtain ⟨order, _, takes⟩ := ones _ _ _ hk first
      obtain ⟨spaces, takes', -⟩ := Cursor.exists_mark comma
      obtain ⟨order', _, takes''⟩ := mores _ _ _ ((hk.takes takes).takes takes') later
      exact ⟨order.append takes'.le order', _, takes.trans (takes'.trans takes'')⟩

theorem Enclosed.ordered {α : Type} {series : Cursor → List α → Cursor → Prop} {close : Char}
    {value : α → Raw} (h : Ordered text (List.map value) series) :
    Ordered text (List.map value) (Enclosed series close) := by
  intro k as k' hk inside
  obtain ⟨spaces, takes, -⟩ := k.exists_spaces
  cases inside with
  | empty closed =>
      obtain ⟨spaces, takes', -⟩ := Cursor.exists_mark closed
      exact ⟨.nil takes'.le, _, takes'⟩
  | full _ inner =>
      obtain ⟨order, _, takes'⟩ := h _ _ _ (hk.takes takes) inner
      exact ⟨order.mono takes.le (Nat.le_refl _), _, takes.trans takes'⟩

theorem ReadsField.ordered {fuel : Nat} (values : Ordered text ([·]) (ReadsValue fuel)) :
    Ordered text ([·.2]) (ReadsField fuel) := by
  rintro k _ k' hk ⟨quoted, body, colon, value⟩
  obtain ⟨spaces, takes, -⟩ := Cursor.exists_mark quoted
  obtain ⟨spaces', takes', -⟩ := Cursor.exists_mark colon
  have before := takes.trans ((takes_stringBody body _).trans takes')
  obtain ⟨order, _, takes''⟩ := values _ _ _ (hk.takes before) value
  exact ⟨order.mono before.le (Nat.le_refl _), _, before.trans takes''⟩

/-- The parts of a value stand behind its first character: a bracket is there if it has any. -/
theorem ValueRead.ordered {fuel : Nat} (items : Ordered text (List.map id) (ReadsItems fuel))
    (fields : Ordered text (List.map (·.2)) (ReadsFields fuel)) {k k' : Cursor} {v : Raw}
    (hk : k.IsIn text) (h : ValueRead fuel k v k') :
    InOrder (Raw.StandsIn text) (v.start + 1) v.parts k'.offset := by
  have beyond : v.start + 1 ≤ k'.offset := by
    obtain ⟨_, items, fields⟩ := slices fuel
    obtain ⟨taken, slice⟩ := h.slice items fields
    have := List.length_pos_iff.mpr slice.there
    rw [h.start, slice.takes.offset]
    omega
  cases h with
  | null => exact .nil beyond
  | true => exact .nil beyond
  | false => exact .nil beyond
  | string => exact .nil beyond
  | number => exact .nil beyond
  | array inside =>
      have order := (Enclosed.ordered items _ _ _ (hk.takes (Cursor.takes_cons ..)) inside).1
      rwa [List.map_id] at order
  | object inside =>
      exact (Enclosed.ordered fields _ _ _ (hk.takes (Cursor.takes_cons ..)) inside).1

/-- Whatever is read stands in order in the text.  The induction is on the fuel, as for `slices`. -/
theorem ordered (text : List Char) (fuel : Nat) : Ordered text ([·]) (ReadsValue fuel) ∧
    Ordered text (List.map id) (ReadsItems fuel) ∧
    Ordered text (List.map (·.2)) (ReadsFields fuel) := by
  induction fuel with
  | zero => exact ⟨nofun, nofun, nofun⟩
  | succ fuel ih =>
      obtain ⟨values, items, fields⟩ := ih
      refine ⟨fun k v k' hk h => ?_, fun k vs k' hk h => ?_, fun k fs k' hk h => ?_⟩
      · obtain ⟨spaces, takes, -⟩ := k.exists_spaces
        have read := readsValue_succ_iff.mp h
        have inside := hk.takes takes
        obtain ⟨taken, slice⟩ := (slices (fuel + 1)).1 _ _ _ h
        refine ⟨.cons ?_ (read.standsIn inside) (read.ordered items fields inside)
          (.nil (Nat.le_refl _)), taken, slice.takes⟩
        rw [read.start]
        exact takes.le
      · exact SeriesRead.ordered values items _ _ _ hk (readsItems_succ_iff.mp h)
      · exact SeriesRead.ordered (ReadsField.ordered values) fields _ _ _ hk
          (readsFields_succ_iff.mp h)

end InText

/-- The values of a text stand in it in their order. -/
theorem Raw.inOrder_ofChars {text : List Char} {v : Raw} (h : Raw.ofChars text = some v) :
    InOrder (Raw.StandsIn text) 0 [v] text.length := by
  rw [Raw.ofChars] at h
  split at h
  · rename_i after read
    have start : (Cursor.mk text 0).IsIn text := ⟨[], rfl, rfl⟩
    obtain ⟨order, taken, takes⟩ := (ordered text _).1 _ _ _ start read
    split at h
    · cases h
      exact order.mono (Nat.le_refl _) (start.takes takes).offset_le
    · cases h
  · cases h

/-- The names of the fields are unescaped, their values stay. -/
theorem Raw.values_unescapeNames {fields : List (List Char × Raw)} {named : List (String × Raw)}
    (h : unescapeNames fields = some named) : named.map (·.2) = fields.map (·.2) := by
  induction fields generalizing named with
  | nil =>
      cases h
      rfl
  | cons field fields ih =>
      obtain ⟨name, -, h⟩ := Option.bind_eq_some_iff.mp h
      obtain ⟨rest, hrest, h⟩ := Option.bind_eq_some_iff.mp h
      cases h
      rw [List.map_cons, List.map_cons, ih hrest]

/-- The values of a record are parts of what is read as one. -/
theorem Raw.mem_parts_of_record {v w : Raw} {names : List String} {fields : List (String × Raw)}
    {name : String} (h : v.record names = some fields) (hw : (name, w) ∈ fields) : w ∈ v.parts := by
  cases v with
  | object start written =>
      obtain ⟨named, unescaped, allowed⟩ := Option.bind_eq_some_iff.mp h
      simp only at allowed
      split at allowed
      case isFalse => cases allowed
      cases allowed
      rw [Raw.parts, ← values_unescapeNames unescaped]
      exact List.mem_map_of_mem hw
  | array start items =>
      obtain ⟨-, rfl⟩ := Option.ite_none_right_eq_some.mp h |>.imp_right Option.some.inj
      exact (List.of_mem_zip hw).2
  | null | bool | number | string => cases h

/-- Where the parts of a record are in order, so are the items of any of its fields. -/
theorem InOrder.items {P : Raw → Prop} {lo hi : Nat} {v : Raw} (order : InOrder P lo v.parts hi)
    {names : List String} {fields : List (String × Raw)} {name : String} {members : List Raw}
    (record : v.record names = some fields)
    (many : Raw.many Raw.items? fields name = some members) : InOrder P lo members hi := by
  unfold Raw.many at many
  split at many
  · cases many
    exact .nil order.le
  · rename_i w found
    have parts : w.parts = members := by
      cases w <;> cases many
      rfl
    exact parts ▸ order.parts_of_mem (Raw.mem_parts_of_record record (Fields.mem_of_find? found))

end Json

/-! ## Lines and columns -/

namespace Location

/-- The line comes before the other line, or it is the same and the column comes before. -/
def Before (l l' : Location) : Prop :=
  l.line < l'.line ∨ l.line = l'.line ∧ l.column < l'.column

/-- Line and column are those of the character behind `before`, both counted from one: so many
lines have ended, and so many characters stand in the one that has not. -/
def IsBehind (l : Location) (before : List Char) : Prop :=
  ∃ (ended : List (List Char)) (current : List Char),
    before = ended.flatMap (· ++ ['\n']) ++ current ∧ (∀ line ∈ ended, '\n' ∉ line) ∧
      '\n' ∉ current ∧ l.line = ended.length + 1 ∧ l.column = current.length + 1

theorem Before.ne {l l' : Location} (h : l.Before l') : l ≠ l' := by
  rintro rfl
  rcases h with h | ⟨-, h⟩ <;> exact Nat.lt_irrefl _ h

theorem counted_eq {n : Nat} (h : n < UInt32.size) : counted n = n :=
  Nat.min_eq_left (Nat.le_sub_one_of_lt h)

/-- A text is cut into the lines that end in it and what follows them. -/
theorem exists_lines (before : List Char) : ∃ (ended : List (List Char)) (current : List Char),
    before = ended.flatMap (· ++ ['\n']) ++ current ∧ (∀ line ∈ ended, '\n' ∉ line) ∧
      '\n' ∉ current ∧ before.count '\n' = ended.length ∧
      (before.reverse.takeWhile (· ≠ '\n')).length = current.length := by
  induction before using List.reverseRecOn with
  | nil => exact ⟨[], [], rfl, nofun, nofun, rfl, rfl⟩
  | append_singleton before c ih =>
      obtain ⟨ended, current, rfl, whole, going, count, length⟩ := ih
      by_cases hc : c = '\n'
      · subst hc
        refine ⟨ended ++ [current], [], by simp, ?_, nofun, ?_, by simp⟩
        · rintro line hline
          rcases List.mem_append.mp hline with hline | hline
          · exact whole line hline
          · exact List.mem_singleton.mp hline ▸ going
        · rw [List.count_append, count, List.length_append]
          rfl
      · refine ⟨ended, current ++ [c], by simp, whole, ?_, ?_, ?_⟩
        · rw [List.mem_append, List.mem_singleton, not_or]
          exact ⟨going, Ne.symm hc⟩
        · rw [List.count_append, count, List.count_singleton, if_neg (by simpa using hc),
            Nat.add_zero]
        · rw [List.reverse_append, List.reverse_singleton, List.singleton_append,
            List.takeWhile_cons_of_pos (by simpa using hc), List.length_cons, length,
            List.length_append, List.length_singleton]

section Text

variable {source : String} {text : List Char} {m n : Nat}

/-- Nothing is cut off a line or a column of a text that is not too long. -/
theorem after_eq (short : text.length < UInt32.size) (h : n < text.length) :
    after source text n = ⟨source, (text.take n).count '\n' + 1,
      ((text.take n).reverse.takeWhile (· ≠ '\n')).length + 1⟩ := by
  have lines : (text.take n).count '\n' ≤ n := List.count_le_length.trans (List.length_take_le n text)
  have characters := ((text.take n).reverse.takeWhile_sublist (· ≠ '\n')).length_le
  rw [List.length_reverse] at characters
  have := characters.trans (List.length_take_le n text)
  rw [after, counted_eq (by omega), counted_eq (by omega)]

theorem isBehind_after (short : text.length < UInt32.size) (h : n < text.length) :
    (after source text n).IsBehind (text.take n) := by
  obtain ⟨ended, current, same, whole, going, count, length⟩ := exists_lines (text.take n)
  rw [after_eq short h]
  exact ⟨ended, current, same, whole, going, congrArg (· + 1) count, congrArg (· + 1) length⟩

/-- Further on in a text is a later line, or a later column in the same line. -/
theorem before_after (short : text.length < UInt32.size) (hmn : m < n) (hn : n < text.length) :
    (after source text m).Before (after source text n) := by
  obtain ⟨more, there, take⟩ : ∃ more, more ≠ [] ∧ text.take n = text.take m ++ more := by
    refine ⟨(text.drop m).take (n - m), ?_, ?_⟩
    · rw [← List.length_pos_iff, List.length_take, List.length_drop]
      omega
    · rw [← List.take_add, Nat.add_sub_cancel' hmn.le]
  rw [after_eq short (hmn.trans hn), after_eq short hn, take]
  -- either a line ends between the two places, or both are in the same line
  by_cases broken : '\n' ∈ more
  · refine .inl (Nat.succ_lt_succ ?_)
    rw [List.count_append]
    exact Nat.lt_add_of_pos_right (List.count_pos_iff.mpr broken)
  · have unbroken : ∀ c ∈ more.reverse, decide (c ≠ '\n') = true := by
      intro c hc
      rw [decide_eq_true_eq]
      rintro rfl
      exact broken (List.mem_reverse.mp hc)
    refine .inr ⟨?_, Nat.succ_lt_succ ?_⟩
    · rw [List.count_append, List.count_eq_zero.mpr broken, Nat.add_zero]
    · rw [List.reverse_append, List.takeWhile_append_of_pos unbroken, List.length_append,
        List.length_reverse]
      exact Nat.lt_add_of_pos_left (List.length_pos_iff.mpr there)

end Text

end Location

namespace JsonSource

/-! ## Rows in a text -/

/-- The entry of a row stands in the text behind `before`: what is read from a part of the text
that starts there is a value with this header, and nothing comes before it in that part. -/
def Row.StandsBehind (text before : List Char) (row : Row) : Prop :=
  ∃ value after w, text = before ++ value ++ after ∧ Json.Raw.ofChars value = some w ∧
    w.start = 0 ∧ Header.ofRaw w = some row.header

theorem Row.standsBehind_of_standsIn {text : List Char} {v : Json.Raw} {h : Header} {p : Id}
    (stands : v.StandsIn text) (header : Header.ofRaw v = some h) :
    Row.StandsBehind text (text.take v.start) ⟨p, v.start, h⟩ := by
  obtain ⟨before, value, after, w, rfl, start, read, first, same⟩ := stands
  refine ⟨value, after, w, ?_, read, first, ?_⟩
  · rw [start, List.append_assoc before, List.take_left, List.append_assoc]
  · rw [← Header.ofRaw_unplaced, same, Header.ofRaw_unplaced, header]

theorem Row.Describes.location {place : Nat → Location} {row : Row} {d : Declaration}
    (h : row.Describes place d) : d.location = place row.start := by
  obtain ⟨_, header⟩ := h.header
  exact header.location

/-- Each row starts behind the one before, and where it starts its entry stands. -/
theorem Rows.ordered {p : Id} {n : Nat} {values : List Json.Raw} {rows : List Row}
    (listed : Rows p n values rows) {text : List Char} {lo hi : Nat}
    (order : Json.InOrder (Json.Raw.StandsIn text) lo values hi) :
    rows.Pairwise (·.start < ·.start) ∧ ∀ row ∈ rows, lo ≤ row.start ∧ row.start < hi ∧
      row.StandsBehind text (text.take row.start) := by
  induction listed generalizing lo hi with
  | nil => exact ⟨.nil, nofun⟩
  | @cons p n v values members h inside later written _ _ ih ih' =>
      cases order with
      | @cons _ stop _ _ _ first stands inner behind =>
          obtain ⟨fields, record, many⟩ := written.members
          have members_order := inner.items record many
          obtain ⟨increasing, each⟩ := ih members_order
          obtain ⟨increasing', each'⟩ := ih' behind
          have ends := inner.le
          have ends' := behind.le
          constructor
          · refine .cons ?_ (List.pairwise_append.mpr ⟨increasing, increasing', ?_⟩)
            · intro row hrow
              rcases List.mem_append.mp hrow with hrow | hrow
              · exact (each row hrow).1
              · exact Nat.lt_of_lt_of_le ends (each' row hrow).1
            · intro row hrow row' hrow'
              exact Nat.lt_of_lt_of_le (each row hrow).2.1 (each' row' hrow').1
          · intro row hrow
            rcases List.mem_cons.mp hrow with rfl | hrow
            · exact ⟨first, Nat.lt_of_lt_of_le ends ends',
                Row.standsBehind_of_standsIn stands written.header⟩
            · rcases List.mem_append.mp hrow with hrow | hrow
              · obtain ⟨after, before, place⟩ := each row hrow
                exact ⟨by omega, by omega, place⟩
              · obtain ⟨after, before, place⟩ := each' row hrow
                exact ⟨by omega, by omega, place⟩

/-- The declarations of a source stand in its text in order. -/
theorem inOrder_readSource {text : List Char} {includes declarations : List Json.Raw}
    (read : readSource text = some (includes, declarations)) :
    Json.InOrder (Json.Raw.StandsIn text) 0 declarations text.length := by
  obtain ⟨v, hv, read⟩ := Option.bind_eq_some_iff.mp read
  obtain ⟨fields, record, read⟩ := Option.bind_eq_some_iff.mp read
  obtain ⟨_, -, read⟩ := Option.bind_eq_some_iff.mp read
  obtain ⟨_, many, read⟩ := Option.bind_eq_some_iff.mp read
  cases read
  exact ((Json.Raw.inOrder_ofChars hv).parts_of_mem List.mem_cons_self).items record many

/-! ## Locations -/

/-- The location is that of the place in the text where the entry of the row starts. -/
structure Row.StartsAt (source : String) (text : List Char) (row : Row) (l : Location) : Prop where
  stands : row.StandsBehind text (text.take row.start)
  source : l.source = source
  behind : l.IsBehind (text.take row.start)

/-- Reading a source of fewer than 2³² characters makes one declaration for each entry of it, the
members of an entry behind it and before the next one.  The location of each is the line and the
column at which its entry starts in the text.  So a declaration that is made later has a later
location, and what stands inside another one has a later location than that. -/
theorem frontEnd_locations {g₀ g : Graph} {root : Id} {location : Location} {isExternal : Bool}
    {features : Features} {calls : List Builder.Call} {source text : String} {b b' : Builder}
    (built : Built g₀)
    (fresh : Graph.add (.fresh .standard .root none location isExternal) g₀ = .ok root g)
    (called : calls.foldl Builder.Call.leave (.start g features root isExternal) = b)
    (short : text.length < 2 ^ 32) (run : (frontEnd source text).run b = .ok () b') :
    (∃ includes declarations rows,
      readSource text.toList = some (includes, declarations) ∧
      Rows b.scope b.graph.size declarations rows ∧
      b'.graph.size = b.graph.size + rows.length ∧
      ∀ k (row : Row), rows[k]? = some row →
        row.Describes (Location.after source text.toList) (b'.graph.node (b.graph.size + k)) ∧
        row.StartsAt source text.toList (b'.graph.node (b.graph.size + k)).location) ∧
    (∀ i j, b.graph.size ≤ i → i < j → j < b'.graph.size →
      (b'.graph.node i).location.Before (b'.graph.node j).location) ∧
    (∀ i j, b.graph.size ≤ i → b.graph.size ≤ j → i < b'.graph.size → j < b'.graph.size → i ≠ j →
      (b'.graph.node i).location ≠ (b'.graph.node j).location) ∧
    ∀ i p, b.graph.size ≤ p → (b'.graph.node i).parent = some p →
      (b'.graph.node p).location.Before (b'.graph.node i).location := by
  have sound : b.Sound := called ▸
    Builder.sound_leave calls (Graph.sound_start built.raw built.tree fresh features)
  have nested : b'.graph.Nested := by
    obtain ⟨more, left⟩ := (frontEnd source text).exists_calls b
    rw [run, ← called, ← List.foldl_append] at left
    have left : b' = _ := left
    exact left ▸ (Built.document location isExternal features (calls ++ more) built fresh).nested
  obtain ⟨paths, f, content⟩ := exists_content sound run
  obtain ⟨_, run', grown, -⟩ := frontEnd_grows sound content
  cases run.symm.trans run'
  obtain ⟨includes, declarations, read, -, forest⟩ := content
  obtain ⟨rows, listed, size, describes⟩ := exists_rows forest grown
  obtain ⟨increasing, each⟩ := listed.ordered (inOrder_readSource read)
  have short : text.toList.length < UInt32.size := by rwa [String.length_toList]
  have place : ∀ k (hk : k < rows.length), (b'.graph.node (b.graph.size + k)).location
      = Location.after source text.toList rows[k].start :=
    fun k hk => (describes k _ (List.getElem?_eq_getElem hk)).location
  -- numbers and rows go together, and so do rows, characters and locations
  have later : ∀ i j, b.graph.size ≤ i → i < j → j < b'.graph.size →
      (b'.graph.node i).location.Before (b'.graph.node j).location := by
    intro i j hi hij hj
    obtain ⟨k, rfl⟩ := Nat.exists_eq_add_of_le hi
    obtain ⟨l, rfl⟩ := Nat.exists_eq_add_of_le (hi.trans hij.le)
    have hkl : k < l := by omega
    have hl : l < rows.length := by omega
    rw [place k (hkl.trans hl), place l hl]
    exact Location.before_after short (List.pairwise_iff_getElem.mp increasing k l _ hl hkl)
      (each _ (List.getElem_mem hl)).2.1
  refine ⟨⟨includes, declarations, rows, read, listed, size, ?_⟩, later, ?_, ?_⟩
  · intro k row hrow
    obtain ⟨hk, rfl⟩ := List.getElem?_eq_some_iff.mp hrow
    obtain ⟨-, inside, stands⟩ := each _ (List.getElem_mem hk)
    refine ⟨describes k _ hrow, ?_⟩
    rw [place k hk]
    exact ⟨stands, rfl, Location.isBehind_after short inside⟩
  · intro i j hi hj hi' hj' hij
    rcases Nat.lt_or_gt_of_ne hij with hij | hij
    · exact (later i j hi hij hj').ne
    · exact (later j i hj hij hi').ne.symm
  · intro i p hp parent
    exact later p i hp (nested.older parent) (Graph.lt_of_parent parent)

/-- The members of an object that is declared inside of one that was open: lines and columns
count characters, of which some take more than a byte. -/
theorem frontEnd_locations_nested :
    let text := "\x7b\"declarations\":[\n"
      ++ " \x7b\"object\":\"Größe\",\"metadata\":\x7b\"t\":\"→\\n\"\x7d,\"members\":[\n"
      ++ "  \x7b\"name\":\"ä\",\"type\":\"int\"\x7d, \x7b\"name\":\"b\",\"type\":\"int\"\x7d]\x7d]\x7d"
    let b₀ : Builder := .start ⟨#[.fresh .standard .root none .api false]⟩ .all 0 false
    let calls : List Builder.Call := [.beginObject "outer" .standard none .api]
    ∃ b, (frontEnd "main.json" text).run (calls.foldl Builder.Call.leave b₀) = .ok () b ∧
      (b.graph.node 2).location = ⟨"main.json", 2, 2⟩ ∧
      (b.graph.node 3).location = ⟨"main.json", 3, 3⟩ ∧
      (b.graph.node 4).location = ⟨"main.json", 3, 30⟩ ∧
      (b.graph.node 2).location.Before (b.graph.node 4).location := by
  intro text b₀ calls
  have run := Steps.ok_of_run' (show EStateM.run' (frontEnd "main.json" text).run
    (calls.foldl Builder.Call.leave b₀) = some () by decide +kernel)
  have made : let g := (Steps.left ((frontEnd "main.json" text).run
        (calls.foldl Builder.Call.leave b₀))).graph
      (g.node 2).location = ⟨"main.json", 2, 2⟩ ∧
        (g.node 3).location = ⟨"main.json", 3, 3⟩ ∧
        (g.node 4).location = ⟨"main.json", 3, 30⟩ ∧ (g.node 4).parent = some 2 := by
    decide +kernel
  have size : (calls.foldl Builder.Call.leave b₀).graph.size ≤ 2 := by decide +kernel
  obtain ⟨object, first, second, inside⟩ := made
  obtain ⟨-, -, -, nested⟩ := frontEnd_locations .empty rfl rfl (by decide +kernel) run
  exact ⟨_, run, object, first, second, nested 4 2 size inside⟩

end JsonSource

end TypeSchema
