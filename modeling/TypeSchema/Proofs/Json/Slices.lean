/-
# Slices — a value is read again from its own characters

Reading goes on from one cursor to the next.  What it does at a cursor is said
as a relation, one rule for each kind of value and one for each way in which a
list goes on or ends (`ValueRead`, `SeriesRead`), and that is all it does
(`readsValue_succ_iff` and its like).

Between two cursors stand the characters that were read (`Cursor.Takes`).  From
these alone the same is read, wherever they stand and whatever follows, as long
as that starts like what followed before or nothing follows (`Slice`, `slices`).
Only where things stand is different, so values are compared without their
starts.  A number needs the condition: digits behind it would belong to it.
-/
import TypeSchema.Proofs.JsonSource.Placement
import TypeSchema.Proofs.Json.Numbers

namespace TypeSchema.Json

/-! ## Strings -/

/-- A string body ends at a quote, and what follows that is not looked at. -/
theorem stringBody_eq_some {cs body rest : List Char} (h : stringBody cs = some (body, rest)) :
    cs = body ++ '"' :: rest ∧
      ∀ other, stringBody (body ++ '"' :: other) = some (body, other) := by
  fun_induction stringBody cs generalizing body rest with
  | case1 => cases h
  | case2 rest =>
      cases h
      exact ⟨rfl, fun _ => by simp [stringBody]⟩
  | case3 a b c d cs digits ih =>
      obtain ⟨⟨body, rest⟩, read, ⟨⟩⟩ := Option.map_eq_some_iff.mp h
      obtain ⟨rfl, again⟩ := ih read
      exact ⟨rfl, fun other => by simp [stringBody, digits, again]⟩
  | case4 => cases h
  | case5 e cs _ escapes ih =>
      obtain ⟨⟨body, rest⟩, read, ⟨⟩⟩ := Option.map_eq_some_iff.mp h
      obtain ⟨rfl, again⟩ := ih read
      have unicode : e ≠ 'u' := by
        rintro rfl
        simp at escapes
      refine ⟨rfl, fun other => ?_⟩
      rw [List.cons_append, List.cons_append, stringBody, if_pos escapes, again]
      · rfl
      · exact fun _ _ _ _ _ h _ => unicode h
  | case6 => cases h
  | case7 => cases h
  | case8 c cs quote hex escape plain ih =>
      obtain ⟨⟨body, rest⟩, read, ⟨⟩⟩ := Option.map_eq_some_iff.mp h
      obtain ⟨rfl, again⟩ := ih read
      refine ⟨rfl, fun other => ?_⟩
      rw [List.cons_append, stringBody, if_neg plain, again]
      · rfl
      · exact quote
      · exact fun _ _ _ _ _ h _ => plain (.inl h)
      · exact fun _ _ h _ => plain (.inl h)

/-! ## Cursors -/

namespace Cursor

/-- The characters `taken` stand between two cursors. -/
structure Takes (k : Cursor) (taken : List Char) (k' : Cursor) : Prop where
  rest : k.rest = taken ++ k'.rest
  offset : k'.offset = k.offset + taken.length

theorem Takes.trans {k k' k'' : Cursor} {cs ds : List Char} (first : k.Takes cs k')
    (second : k'.Takes ds k'') : k.Takes (cs ++ ds) k'' where
  rest := by rw [first.rest, second.rest, List.append_assoc]
  offset := by
    rw [second.offset, first.offset, List.length_append, Nat.add_assoc]

theorem takes_cons (c : Char) (rest : List Char) (n : Nat) :
    Takes ⟨c :: rest, n⟩ [c] ⟨rest, n + 1⟩ := ⟨rfl, rfl⟩

/-- Nothing but spaces is skipped, and all of those that come next. -/
theorem exists_spaces (k : Cursor) : ∃ spaces, k.Takes spaces k.skip ∧
    (∀ c ∈ spaces, isSpace c = true) ∧ ∀ c ∈ k.skip.rest.head?, isSpace c = false := by
  obtain ⟨split, spaces, stop⟩ := Text.of_span_eq (k.rest.span_eq_takeWhile_dropWhile isSpace)
  exact ⟨_, ⟨split, rfl⟩, spaces, stop⟩

/-- Spaces are skipped wherever they stand, if no other one follows. -/
theorem skip_append {spaces rest : List Char} (n : Nat) (h : ∀ c ∈ spaces, isSpace c = true)
    (stop : ∀ c ∈ rest.head?, isSpace c = false) :
    (Cursor.mk (spaces ++ rest) n).skip = ⟨rest, n + spaces.length⟩ := by
  have cut := Text.span_append h stop
  rw [List.span_eq_takeWhile_dropWhile, Prod.mk.injEq] at cut
  rw [skip, cut.1, cut.2]

end Cursor

/-! ## One step of reading -/

theorem Cursor.drop_one {k : Cursor} {c : Char} {rest : List Char} (h : k.rest = c :: rest) :
    k.drop 1 = ⟨rest, k.offset + 1⟩ := by
  rw [drop, h]
  rfl

/-- How values or fields are read one after the other, up to the bracket that closes them. -/
inductive SeriesRead {α : Type} (one : Cursor → α → Cursor → Prop)
    (more : Cursor → List α → Cursor → Prop) (close : Char) : Cursor → List α → Cursor → Prop
  | last {k after : Cursor} {a : α} {rest : List Char} : one k a after →
      after.skip.rest = close :: rest →
      SeriesRead one more close k [a] ⟨rest, after.skip.offset + 1⟩
  | next {k after k' : Cursor} {a : α} {as : List α} {rest : List Char} : one k a after →
      after.skip.rest = ',' :: rest → more ⟨rest, after.skip.offset + 1⟩ as k' →
      SeriesRead one more close k (a :: as) k'

/-- The value that comes next. -/
def ReadsValue (fuel : Nat) (k : Cursor) (v : Raw) (k' : Cursor) : Prop :=
  rawValue fuel k = some (v, k')

/-- The items up to the end of an array. -/
def ReadsItems (fuel : Nat) (k : Cursor) (vs : List Raw) (k' : Cursor) : Prop :=
  rawItems fuel k = some (vs, k')

/-- The fields up to the end of an object. -/
def ReadsFields (fuel : Nat) (k : Cursor) (fs : List (List Char × Raw)) (k' : Cursor) : Prop :=
  rawFields fuel k = some (fs, k')

/-- The field that comes next: a name in quotes, a colon and a value. -/
inductive ReadsField (fuel : Nat) : Cursor → List Char × Raw → Cursor → Prop
  | mk {k k' : Cursor} {cs name rest behind : List Char} {v : Raw} : k.skip.rest = '"' :: cs →
      stringBody cs = some (name, rest) →
      (Cursor.mk rest (k.skip.offset + name.length + 2)).skip.rest = ':' :: behind →
      ReadsValue fuel
        ⟨behind, (Cursor.mk rest (k.skip.offset + name.length + 2)).skip.offset + 1⟩ v k' →
      ReadsField fuel k (name, v) k'

/-- What stands between brackets, of which the first one has been read: nothing, or something that
does not start like the second one. -/
inductive Enclosed {α : Type} (series : Cursor → List α → Cursor → Prop) (close : Char) :
    Cursor → List α → Cursor → Prop
  | empty {k : Cursor} {rest : List Char} : k.skip.rest = close :: rest →
      Enclosed series close k [] ⟨rest, k.skip.offset + 1⟩
  | full {k k' : Cursor} {as : List α} : (∀ rest, k.skip.rest ≠ close :: rest) →
      series k.skip as k' → Enclosed series close k as k'

/-- How a value is read where no space comes next; what is inside of it is read with `fuel`. -/
inductive ValueRead (fuel : Nat) : Cursor → Raw → Cursor → Prop
  | null {n : Nat} {rest : List Char} :
      ValueRead fuel ⟨'n' :: 'u' :: 'l' :: 'l' :: rest, n⟩ (.null n) ⟨rest, n + 4⟩
  | true {n : Nat} {rest : List Char} :
      ValueRead fuel ⟨'t' :: 'r' :: 'u' :: 'e' :: rest, n⟩ (.bool n true) ⟨rest, n + 4⟩
  | false {n : Nat} {rest : List Char} :
      ValueRead fuel ⟨'f' :: 'a' :: 'l' :: 's' :: 'e' :: rest, n⟩ (.bool n false) ⟨rest, n + 5⟩
  | string {n : Nat} {cs body rest : List Char} : stringBody cs = some (body, rest) →
      ValueRead fuel ⟨'"' :: cs, n⟩ (.string n body) ⟨rest, n + body.length + 2⟩
  | array {n : Nat} {cs : List Char} {items : List Raw} {k : Cursor} :
      Enclosed (ReadsItems fuel) ']' ⟨cs, n + 1⟩ items k →
      ValueRead fuel ⟨'[' :: cs, n⟩ (.array n items) k
  | object {n : Nat} {cs : List Char} {fields : List (List Char × Raw)} {k : Cursor} :
      Enclosed (ReadsFields fuel) '}' ⟨cs, n + 1⟩ fields k →
      ValueRead fuel ⟨'{' :: cs, n⟩ (.object n fields) k
  | number {n : Nat} {cs ds rest : List Char} : numberChars cs = some (ds, rest) →
      ValueRead fuel ⟨cs, n⟩ (.number n ds) ⟨rest, n + ds.length⟩

/-- Reading a value is reading by these rules behind the spaces that come next. -/
theorem readsValue_succ_iff {fuel : Nat} {k k' : Cursor} {v : Raw} :
    ReadsValue (fuel + 1) k v k' ↔ ValueRead fuel k.skip v k' := by
  rw [ReadsValue, rawValue]
  generalize k.skip = j
  constructor
  · intro h
    obtain ⟨cs, n⟩ := j
    simp only at h
    split at h
    · cases h; exact .null
    · cases h; exact .true
    · cases h; exact .false
    · obtain ⟨⟨body, rest⟩, hbody, ⟨⟩⟩ := Option.map_eq_some_iff.mp h
      exact .string hbody
    · split at h
      · rename_i closed
        rw [Cursor.drop_one closed] at h
        cases h
        exact .array (.empty closed)
      · rename_i opened
        obtain ⟨⟨items, after⟩, hitems, ⟨⟩⟩ := Option.map_eq_some_iff.mp h
        exact .array (.full opened hitems)
    · split at h
      · rename_i closed
        rw [Cursor.drop_one closed] at h
        cases h
        exact .object (.empty closed)
      · rename_i opened
        obtain ⟨⟨fields, after⟩, hfields, ⟨⟩⟩ := Option.map_eq_some_iff.mp h
        exact .object (.full opened hfields)
    · obtain ⟨⟨ds, rest⟩, hds, ⟨⟩⟩ := Option.map_eq_some_iff.mp h
      exact .number hds
  · intro h
    cases h with
    | null => rfl
    | true => rfl
    | false => rfl
    | string hbody => simp only [hbody, Option.map_some]
    | @array n cs items _ inside =>
        have inner : (Cursor.mk ('[' :: cs) n).drop 1 = ⟨cs, n + 1⟩ := rfl
        cases inside with
        | empty closed => simp only [inner, closed, Cursor.drop_one closed]
        | full opened hitems =>
            rw [ReadsItems] at hitems
            simp only [inner, hitems, Option.map_some]
    | @object n cs fields _ inside =>
        have inner : (Cursor.mk ('{' :: cs) n).drop 1 = ⟨cs, n + 1⟩ := rfl
        cases inside with
        | empty closed => simp only [inner, closed, Cursor.drop_one closed]
        | full opened hfields =>
            rw [ReadsFields] at hfields
            simp only [inner, hfields, Option.map_some]
    | @number n cs ds rest hds =>
        -- a number is tried last, and nothing else starts like one
        obtain ⟨c, more, rfl, head⟩ := exists_head_of_numberChars hds
        simp only
        split
        case h_7 =>
          rw [hds]
          rfl
        all_goals
          rename_i same
          cases (List.cons.inj same).1
          exact absurd head (by decide)

theorem readsItems_succ_iff {fuel : Nat} {k k' : Cursor} {vs : List Raw} :
    ReadsItems (fuel + 1) k vs k' ↔
      SeriesRead (ReadsValue fuel) (ReadsItems fuel) ']' k vs k' := by
  constructor
  · intro h
    rw [ReadsItems, rawItems] at h
    split at h
    · cases h
    · rename_i v after first
      simp only at h
      split at h
      · rename_i comma
        obtain ⟨⟨vs, k'⟩, later, ⟨⟩⟩ := Option.map_eq_some_iff.mp h
        rw [Cursor.drop_one comma] at later
        exact .next first comma later
      · rename_i closed
        rw [Cursor.drop_one closed] at h
        cases h
        exact .last first closed
      · cases h
  · intro h
    rw [ReadsItems, rawItems]
    cases h with
    | last first closed =>
        rw [ReadsValue] at first
        simp only [first, closed, Cursor.drop_one closed]
    | next first comma later =>
        rw [ReadsValue] at first
        rw [ReadsItems] at later
        simp only [first, comma, Cursor.drop_one comma, later, Option.map_some]

theorem readsFields_succ_iff {fuel : Nat} {k k' : Cursor} {fs : List (List Char × Raw)} :
    ReadsFields (fuel + 1) k fs k' ↔
      SeriesRead (ReadsField fuel) (ReadsFields fuel) '}' k fs k' := by
  constructor
  · intro h
    rw [ReadsFields, rawFields] at h
    simp only at h
    split at h
    · rename_i quoted
      split at h
      · cases h
      · rename_i name rest body
        split at h
        · rename_i colon
          rw [Cursor.drop_one colon] at h
          split at h
          · cases h
          · rename_i v after value
            have first := ReadsField.mk quoted body colon value
            split at h
            · rename_i comma
              obtain ⟨⟨fs, k'⟩, later, ⟨⟩⟩ := Option.map_eq_some_iff.mp h
              rw [Cursor.drop_one comma] at later
              exact .next first comma later
            · rename_i closed
              rw [Cursor.drop_one closed] at h
              cases h
              exact .last first closed
            · cases h
        · cases h
    · cases h
  · intro h
    rw [ReadsFields, rawFields]
    cases h with
    | last first closed =>
        cases first with
        | mk quoted body colon value =>
            rw [ReadsValue] at value
            simp only [quoted, body, colon, Cursor.drop_one colon, value, closed,
              Cursor.drop_one closed]
    | next first comma later =>
        cases first with
        | mk quoted body colon value =>
            rw [ReadsValue] at value
            rw [ReadsFields] at later
            simp only [quoted, body, colon, Cursor.drop_one colon, value, comma,
              Cursor.drop_one comma, later, Option.map_some]

/-! ## Slices -/

/-- The characters `taken` between two cursors are what `a` is read from, and wherever they stand
something like `a` is read from them: with enough fuel, and whatever follows where reading stops.
Reading takes two steps for a character at most. -/
structure Slice {α β : Type} (read : Nat → Cursor → α → Cursor → Prop) (plain : α → β)
    (taken : List Char) (k : Cursor) (a : α) (k' : Cursor) : Prop where
  takes : k.Takes taken k'
  there : taken ≠ []
  again : ∀ fuel n other, 2 * taken.length ≤ fuel → StopsLike other k'.rest →
    ∃ a', read fuel ⟨taken ++ other, n⟩ a' ⟨other, n + taken.length⟩ ∧ plain a' = plain a

/-- All that is read is read from slices. -/
def Slices {α β : Type} (read : Nat → Cursor → α → Cursor → Prop) (plain : α → β) (fuel : Nat) :
    Prop :=
  ∀ k a k', read fuel k a k' → ∃ taken, Slice read plain taken k a k'

theorem stopsLike_cons {c : Char} {other rest : List Char} :
    StopsLike (c :: other) (c :: rest) := fun _ hc => hc

/-- Behind something that has been read a mark is found again past the same spaces. -/
theorem Cursor.exists_mark {k : Cursor} {c : Char} {rest : List Char}
    (h : k.skip.rest = c :: rest) :
    ∃ spaces, k.Takes (spaces ++ [c]) ⟨rest, k.skip.offset + 1⟩ ∧
      ∀ other n, (Cursor.mk (spaces ++ c :: other) n).skip = ⟨c :: other, n + spaces.length⟩ := by
  obtain ⟨spaces, takes, blank, stop⟩ := k.exists_spaces
  rw [h] at stop
  refine ⟨spaces, takes.trans ⟨h, rfl⟩, fun other n => skip_append n blank ?_⟩
  rintro _ ⟨⟩
  exact stop c rfl

section Slice

variable {α β : Type} {read : Nat → Cursor → α → Cursor → Prop} {plain : α → β} {a : α}
  {taken : List Char} {k k' : Cursor}

/-- A slice that no space comes in front of starts with none. -/
theorem Slice.stop (slice : Slice read plain taken k.skip a k') (other : List Char) :
    ∀ c ∈ (taken ++ other).head?, Cursor.isSpace c = false := by
  obtain ⟨_, -, -, stop⟩ := k.exists_spaces
  obtain ⟨c, cs, rfl⟩ := List.exists_cons_of_ne_nil slice.there
  rw [slice.takes.rest] at stop
  rintro _ ⟨⟩
  exact stop c rfl

/-- Behind spaces a slice is found again past the same spaces. -/
theorem Slice.exists_spaces (slice : Slice read plain taken k.skip a k') :
    ∃ spaces, k.Takes (spaces ++ taken) k' ∧ ∀ other n,
      (Cursor.mk (spaces ++ (taken ++ other)) n).skip = ⟨taken ++ other, n + spaces.length⟩ := by
  obtain ⟨spaces, takes, blank, -⟩ := k.exists_spaces
  exact ⟨spaces, takes.trans slice.takes, fun other n =>
    Cursor.skip_append n blank (slice.stop other)⟩

/-- A slice starts as it did. -/
theorem Slice.ne_cons (slice : Slice read plain taken k a k') {c : Char}
    (h : ∀ rest, k.rest ≠ c :: rest) (other rest : List Char) : taken ++ other ≠ c :: rest := by
  obtain ⟨d, cs, rfl⟩ := List.exists_cons_of_ne_nil slice.there
  rintro ⟨⟩
  exact h _ slice.takes.rest

/-- In front of a mark a slice is found again, and the mark behind it past the same spaces. -/
theorem Slice.before_mark (slice : Slice read plain taken k a k') {c : Char} {rest : List Char}
    (h : k'.skip.rest = c :: rest) :
    ∃ spaces, k.Takes (taken ++ (spaces ++ [c])) ⟨rest, k'.skip.offset + 1⟩ ∧
      ∀ fuel n other, 2 * taken.length ≤ fuel →
        ∃ a' behind, read fuel ⟨taken ++ (spaces ++ c :: other), n⟩ a' behind ∧
          plain a' = plain a ∧
          behind.skip = ⟨c :: other, n + taken.length + spaces.length⟩ := by
  obtain ⟨spaces, takes, skipped⟩ := Cursor.exists_mark h
  refine ⟨spaces, slice.takes.trans takes, fun fuel n other enough => ?_⟩
  have stop : StopsLike (spaces ++ c :: other) k'.rest := by
    rw [takes.rest, List.append_assoc]
    exact stopsLike_cons.append spaces
  obtain ⟨a', again, same⟩ := slice.again fuel n _ enough stop
  exact ⟨a', _, again, same, skipped other _⟩

end Slice

/-- A list is a slice if what it holds is.  It takes one step more than what it holds, and the mark
behind its first member pays for that. -/
theorem SeriesRead.slice {α β : Type} {one : Nat → Cursor → α → Cursor → Prop}
    {more : Nat → Cursor → List α → Cursor → Prop} {close : Char} {plain : α → β} {fuel : Nat}
    (ones : Slices one plain fuel) (mores : Slices more (List.map plain) fuel)
    (build : ∀ {f k as k'}, SeriesRead (one f) (more f) close k as k' → more (f + 1) k as k')
    {k k' : Cursor} {as : List α} (h : SeriesRead (one fuel) (more fuel) close k as k') :
    ∃ taken, Slice more (List.map plain) taken k as k' := by
  cases h with
  | last first closed =>
      obtain ⟨cs, slice⟩ := ones _ _ _ first
      obtain ⟨spaces, takes, marked⟩ := slice.before_mark closed
      refine ⟨cs ++ (spaces ++ [close]), takes, by simp, fun fuel n other enough _ => ?_⟩
      simp only [List.length_append, List.length_singleton] at enough
      obtain ⟨fuel, rfl⟩ : ∃ f, fuel = f + 1 := ⟨fuel - 1, by omega⟩
      obtain ⟨a', _, again, same, skip⟩ := marked fuel n other (by omega)
      have series : SeriesRead (one fuel) (more fuel) close _ [a'] _ :=
        .last again (congrArg Cursor.rest skip)
      rw [skip] at series
      refine ⟨[a'], ?_, congrArg (· :: []) same⟩
      have text : cs ++ (spaces ++ [close]) ++ other = cs ++ (spaces ++ close :: other) := by simp
      have length : n + (cs ++ (spaces ++ [close])).length
          = n + cs.length + spaces.length + 1 := by simp; omega
      rw [text, length]
      exact build series
  | next first comma later =>
      obtain ⟨cs, slice⟩ := ones _ _ _ first
      obtain ⟨spaces, takes, marked⟩ := slice.before_mark comma
      obtain ⟨ds, behind⟩ := mores _ _ _ later
      refine ⟨cs ++ (spaces ++ [',']) ++ ds, takes.trans behind.takes, by simp,
        fun fuel n other enough like => ?_⟩
      simp only [List.length_append, List.length_singleton] at enough
      obtain ⟨fuel, rfl⟩ : ∃ f, fuel = f + 1 := ⟨fuel - 1, by omega⟩
      obtain ⟨a', _, again, same, skip⟩ := marked fuel n (ds ++ other) (by omega)
      obtain ⟨as', again', same'⟩ :=
        behind.again fuel (n + cs.length + spaces.length + 1) other (by omega) like
      have series : SeriesRead (one fuel) (more fuel) close _ (a' :: as') _ :=
        .next again (congrArg Cursor.rest skip) (by rw [skip]; exact again')
      refine ⟨a' :: as', ?_, by rw [List.map_cons, List.map_cons, same, same']⟩
      have text : cs ++ (spaces ++ [',']) ++ ds ++ other
          = cs ++ (spaces ++ ',' :: (ds ++ other)) := by simp
      have length : n + (cs ++ (spaces ++ [',']) ++ ds).length
          = n + cs.length + spaces.length + 1 + ds.length := by simp; omega
      rw [text, length]
      exact build series

theorem takes_stringBody {cs body rest : List Char} (h : stringBody cs = some (body, rest))
    (n : Nat) :
    Cursor.Takes ⟨cs, n + 1⟩ (body ++ ['"']) ⟨rest, n + body.length + 2⟩ := by
  refine ⟨by simp [(stringBody_eq_some h).1], ?_⟩
  show n + body.length + 2 = n + 1 + (body ++ ['"']).length
  rw [List.length_append, List.length_singleton]
  omega

theorem slice_readsField {fuel : Nat} (values : Slices ReadsValue Raw.unplaced fuel) :
    Slices ReadsField unplacedField fuel := by
  rintro k _ k' ⟨quoted, body, colon, value⟩
  rename_i cs name rest behind v
  obtain ⟨spaces, takes, skipped⟩ := Cursor.exists_mark quoted
  obtain ⟨-, again⟩ := stringBody_eq_some body
  obtain ⟨spaces', takes', skipped'⟩ := Cursor.exists_mark colon
  obtain ⟨ds, slice⟩ := values _ _ _ value
  refine ⟨(spaces ++ ['"']) ++ ((name ++ ['"']) ++ ((spaces' ++ [':']) ++ ds)),
    takes.trans ((takes_stringBody body _).trans (takes'.trans slice.takes)), by simp, ?_⟩
  intro fuel n other enough like
  simp only [List.length_append, List.length_singleton] at enough
  have quoted' := skipped (name ++ '"' :: (spaces' ++ ':' :: (ds ++ other))) n
  have colon' := skipped' (ds ++ other) (n + spaces.length + name.length + 2)
  obtain ⟨v', again', same⟩ := slice.again fuel
    (n + spaces.length + name.length + 2 + spaces'.length + 1) other (by omega) like
  refine ⟨(name, v'), ?_, congrArg (name, ·) same⟩
  have text : (spaces ++ ['"']) ++ ((name ++ ['"']) ++ ((spaces' ++ [':']) ++ ds)) ++ other
      = spaces ++ '"' :: (name ++ '"' :: (spaces' ++ ':' :: (ds ++ other))) := by simp
  have length : n + ((spaces ++ ['"']) ++ ((name ++ ['"']) ++ ((spaces' ++ [':']) ++ ds))).length
      = n + spaces.length + name.length + 2 + spaces'.length + 1 + ds.length := by simp; omega
  rw [text, length]
  refine @ReadsField.mk fuel _ _ _ _ _ (ds ++ other) _ (congrArg Cursor.rest quoted') (again _)
    ?_ ?_
  · rw [quoted']
    exact congrArg Cursor.rest colon'
  · rw [quoted', colon']
    exact again'

theorem slice_enclosed {α β : Type} {series : Nat → Cursor → List α → Cursor → Prop}
    {close : Char} {plain : α → β} {fuel : Nat} (h : Slices series (List.map plain) fuel) :
    Slices (fun fuel => Enclosed (series fuel) close) (List.map plain) fuel := by
  rintro k as k' inside
  cases inside with
  | empty closed =>
      obtain ⟨spaces, takes, skipped⟩ := Cursor.exists_mark closed
      refine ⟨spaces ++ [close], takes, by simp, fun fuel n other _ _ => ⟨[], ?_, rfl⟩⟩
      have skip := skipped other n
      have read : Enclosed (series fuel) close _ [] _ := .empty (congrArg Cursor.rest skip)
      rw [skip] at read
      rw [List.append_assoc, List.length_append]
      exact read
  | full opened inner =>
      obtain ⟨ds, slice⟩ := h _ _ _ inner
      obtain ⟨spaces, takes, skipped⟩ := slice.exists_spaces
      refine ⟨spaces ++ ds, takes, by simp [slice.there], fun fuel n other enough like => ?_⟩
      rw [List.length_append] at enough
      have skip := skipped other n
      obtain ⟨as', again, same⟩ := slice.again fuel (n + spaces.length) other (by omega) like
      refine ⟨as', ?_, same⟩
      rw [List.append_assoc, List.length_append, ← Nat.add_assoc]
      exact .full (by rw [skip]; exact slice.ne_cons opened other) (by rw [skip]; exact again)

/-- The bracket in front belongs to the slice, too. -/
theorem Slice.behind_mark {α β γ δ : Type} {read : Nat → Cursor → α → Cursor → Prop}
    {read' : Nat → Cursor → γ → Cursor → Prop} {plain : α → β} {plain' : γ → δ}
    {cs taken : List Char} {a : α} {b : γ} {n : Nat} {k' : Cursor}
    (slice : Slice read plain taken ⟨cs, n + 1⟩ a k') (c : Char)
    (build : ∀ {fuel m ds a' k}, read fuel ⟨ds, m + 1⟩ a' k → plain a' = plain a →
      ∃ b', read' (fuel + 1) ⟨c :: ds, m⟩ b' k ∧ plain' b' = plain' b) :
    Slice read' plain' (c :: taken) ⟨c :: cs, n⟩ b k' := by
  refine ⟨(Cursor.takes_cons c cs n).trans slice.takes, List.cons_ne_nil _ _,
    fun fuel m other enough like => ?_⟩
  rw [List.length_cons] at enough
  obtain ⟨fuel, rfl⟩ : ∃ f, fuel = f + 1 := ⟨fuel - 1, by omega⟩
  obtain ⟨a', again, same⟩ := slice.again fuel (m + 1) other (by omega) like
  rw [List.cons_append, List.length_cons, Nat.add_comm taken.length, ← Nat.add_assoc]
  exact build again same

theorem ValueRead.slice {fuel : Nat} (items : Slices ReadsItems (List.map Raw.unplaced) fuel)
    (fields : Slices ReadsFields (List.map unplacedField) fuel) {k k' : Cursor} {v : Raw}
    (h : ValueRead fuel k v k') :
    ∃ taken, Slice (fun fuel => ValueRead (fuel - 1)) Raw.unplaced taken k v k' := by
  cases h with
  | null => exact ⟨['n', 'u', 'l', 'l'], ⟨rfl, rfl⟩, nofun, fun _ n _ _ _ => ⟨_, .null, rfl⟩⟩
  | true => exact ⟨['t', 'r', 'u', 'e'], ⟨rfl, rfl⟩, nofun, fun _ n _ _ _ => ⟨_, .true, rfl⟩⟩
  | false =>
      exact ⟨['f', 'a', 'l', 's', 'e'], ⟨rfl, rfl⟩, nofun, fun _ n _ _ _ => ⟨_, .false, rfl⟩⟩
  | @string n cs body rest h =>
      obtain ⟨rfl, again⟩ := stringBody_eq_some h
      have text : ∀ other, '"' :: (body ++ ['"']) ++ other = '"' :: (body ++ '"' :: other) := by
        simp
      have length : ∀ m, m + ('"' :: (body ++ ['"'])).length = m + body.length + 2 := by
        simp
        omega
      refine ⟨'"' :: (body ++ ['"']), ⟨(text rest).symm, (length n).symm⟩, nofun, ?_⟩
      intro fuel m other _ _
      rw [text, length]
      exact ⟨_, .string (again other), rfl⟩
  | array inside =>
      obtain ⟨ds, slice⟩ := slice_enclosed items _ _ _ inside
      refine ⟨'[' :: ds, slice.behind_mark '[' fun read same => ⟨_, .array read, ?_⟩⟩
      rw [Raw.unplaced, Raw.unplacedItems_eq, same, Raw.unplaced, Raw.unplacedItems_eq]
  | object inside =>
      obtain ⟨ds, slice⟩ := slice_enclosed fields _ _ _ inside
      refine ⟨'{' :: ds, slice.behind_mark '{' fun read same => ⟨_, .object read, ?_⟩⟩
      rw [Raw.unplaced, Raw.unplacedFields_eq, same, Raw.unplaced, Raw.unplacedFields_eq]
  | @number n cs ds rest h =>
      obtain ⟨rfl, again⟩ := cuts_numberChars _ _ _ h
      have there : ds ≠ [] := by
        rintro rfl
        obtain ⟨c, more, none, -⟩ := exists_head_of_numberChars (again [] nofun)
        cases none
      exact ⟨ds, ⟨rfl, rfl⟩, there, fun _ n other _ like => ⟨_, .number (again other like), rfl⟩⟩

/-- Whatever is read is read from a slice of the text: by induction on the fuel, as a value needs
the lists in it and a list its first member and the rest of it with one step less. -/
theorem slices (fuel : Nat) : Slices ReadsValue Raw.unplaced fuel ∧
    Slices ReadsItems (List.map Raw.unplaced) fuel ∧
    Slices ReadsFields (List.map unplacedField) fuel := by
  induction fuel with
  | zero => exact ⟨nofun, nofun, nofun⟩
  | succ fuel ih =>
      obtain ⟨values, items, fields⟩ := ih
      refine ⟨fun k v k' h => ?_, fun k vs k' h => ?_, fun k fs k' h => ?_⟩
      · -- the spaces in front of a value belong to its slice
        obtain ⟨ds, slice⟩ := (readsValue_succ_iff.mp h).slice items fields
        obtain ⟨spaces, takes, skipped⟩ := slice.exists_spaces
        refine ⟨spaces ++ ds, takes, by simp [slice.there], fun fuel n other enough like => ?_⟩
        rw [List.length_append] at enough
        have := List.length_pos_iff.mpr slice.there
        obtain ⟨fuel, rfl⟩ : ∃ f, fuel = f + 1 := ⟨fuel - 1, by omega⟩
        obtain ⟨v', again, same⟩ :=
          slice.again (fuel + 1) (n + spaces.length) other (by omega) like
        refine ⟨v', readsValue_succ_iff.mpr ?_, same⟩
        rw [List.append_assoc, skipped, List.length_append, ← Nat.add_assoc]
        exact again
      · exact (readsItems_succ_iff.mp h).slice values items readsItems_succ_iff.mpr
      · exact (readsFields_succ_iff.mp h).slice (slice_readsField values) fields
          readsFields_succ_iff.mpr

end TypeSchema.Json
