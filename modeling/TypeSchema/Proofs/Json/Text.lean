/-
# Text — JSON values and their texts

The text of a value is read as this value, if its numbers are and it does not
nest too deeply (`ofChars_compact`).  A text says where it ends: behind it there
is nothing, or what separates or closes values, and none of these can continue
it.  So each value is taken for itself wherever it stands (`IsTaken`), from the
innermost ones on.  Reading has enough fuel as it takes two steps for a character
at most.

A string is written one character after the other, and read back the same way:
the quote behind it is the first one that no backslash precedes
(`stringBody_escaped`), and each escape stands for the character it was written
for (`unescapeString_escaped`).
-/
import TypeSchema.Proofs.Json.Numbers

namespace TypeSchema.Json

/-! ## Strings -/

section strings

attribute [local simp] stringBody unescape

/-- The characters of a string between its quotes. -/
def escaped (s : String) : List Char := s.toList.flatMap escapeChar

theorem toList_quoted (s : String) : (quoted s).toList = '"' :: (escaped s ++ ['"']) := by
  rw [quoted, String.toList_ofList]
  rfl

/-- A control character has two hexadecimal digits. -/
theorem hex4?_control {c : Char} (h : c.toNat < 0x20) :
    hex4? '0' '0' (hexDigit (c.toNat / 16)) (hexDigit (c.toNat % 16)) = some c.toNat := by
  have table : ∀ n < 0x20, hex4? '0' '0' (hexDigit (n / 16)) (hexDigit (n % 16)) = some n := by
    decide
  exact table c.toNat h

/-- Behind the escape of a character the string goes on. -/
theorem stringBody_escapeChar {c : Char} {rest body after : List Char}
    (h : stringBody rest = some (body, after)) :
    stringBody (escapeChar c ++ rest) = some (escapeChar c ++ body, after) := by
  unfold escapeChar
  split
  case h_8 =>
    rename_i quote backslash _ _ _ _ _
    split
    · rename_i control
      simp [hex4?_control control, h]
    · rename_i visible
      rw [List.singleton_append, stringBody]
      · simp [h, visible, show c ≠ '\\' from backslash]
      · exact quote
      · exact fun _ _ _ _ _ hc _ => backslash hc
      · exact fun _ _ hc _ => backslash hc
  all_goals simp [h]

/-- An escape stands for its character. -/
theorem unescape_escapeChar {c : Char} {rest cs : List Char} (h : unescape rest = some cs) :
    unescape (escapeChar c ++ rest) = some (c :: cs) := by
  unfold escapeChar
  split
  case h_8 =>
    rename_i quote backslash _ _ _ _ _
    split
    · rename_i control
      have low : ¬ (0xDC00 ≤ c.toNat ∧ c.toNat ≤ 0xDFFF) := by omega
      have high : ¬ (0xD800 ≤ c.toNat ∧ c.toNat ≤ 0xDBFF) := by omega
      simp [hex4?_control control, low, high, h, Char.ofNat_toNat]
    · rw [List.singleton_append, unescape]
      · simp [h]
      · exact fun _ _ _ _ _ hc _ => backslash hc
      · exact fun _ _ hc _ => backslash hc
  all_goals simp [h]

theorem stringBody_escaped (s : String) (rest : List Char) :
    stringBody (escaped s ++ '"' :: rest) = some (escaped s, rest) := by
  unfold escaped
  induction s.toList with
  | nil => rw [List.flatMap_nil, List.nil_append, stringBody]
  | cons c cs ih =>
      rw [List.flatMap_cons, List.append_assoc]
      exact stringBody_escapeChar ih

/-- A string is what its escaped characters stand for. -/
theorem unescapeString_escaped (s : String) : unescapeString (escaped s) = some s := by
  have chars : unescape (escaped s) = some s.toList := by
    unfold escaped
    induction s.toList with
    | nil => rw [List.flatMap_nil, unescape]
    | cons c cs ih =>
        rw [List.flatMap_cons]
        exact unescape_escapeChar ih
  rw [unescapeString, chars, Option.map_some, String.ofList_toList]

end strings

/-! ## Values inside of values -/

mutual

/-- How many arrays and objects enclose each other in a value. -/
def depth : Json → Nat
  | .array items => depthItems items + 1
  | .object fields => depthFields fields + 1
  | _ => 0

/-- The greatest depth of an item. -/
def depthItems : List Json → Nat
  | [] => 0
  | j :: rest => max j.depth (depthItems rest)

/-- The greatest depth of a field. -/
def depthFields : List (String × Json) → Nat
  | [] => 0
  | (_, j) :: rest => max j.depth (depthFields rest)

end

/-- The items or fields of a value. -/
def parts : Json → List Json
  | .array items => items
  | .object fields => fields.map (·.2)
  | _ => []

/-- Something holds of a value and of every value inside of it. -/
inductive Throughout (p : Json → Prop) : Json → Prop
  | intro {j : Json} (here : p j) (inside : ∀ i ∈ j.parts, Throughout p i) : Throughout p j

theorem Throughout.flat {p : Json → Prop} {j : Json} (here : p j) (none : j.parts = []) :
    j.Throughout p :=
  .intro here (none ▸ List.forall_mem_nil _)

theorem Throughout.here {p : Json → Prop} {j : Json} (h : j.Throughout p) : p j := by
  cases h with
  | intro here _ => exact here

/-! ## Texts and their starts -/

attribute [local simp] compact compactItems compactFields

theorem toList_compact_array (items : List Json) :
    (compact (.array items)).toList = '[' :: ((compactItems items).toList ++ [']']) := by
  simp

theorem toList_compact_object (fields : List (String × Json)) :
    (compact (.object fields)).toList = '{' :: ((compactFields fields).toList ++ ['}']) := by
  simp

theorem toList_compactItems_cons (j : Json) (rest : List Json) :
    (compactItems (j :: rest)).toList = (compact j).toList ++
      (if rest = [] then [] else ',' :: (compactItems rest).toList) := by
  cases rest <;> simp

theorem toList_compactFields_cons (n : String) (j : Json) (rest : List (String × Json)) :
    (compactFields ((n, j) :: rest)).toList = '"' :: (escaped n ++ '"' :: ':' ::
      ((compact j).toList ++ (if rest = [] then [] else ',' :: (compactFields rest).toList))) := by
  cases rest <;> simp [toList_quoted]

/-- There is a character that neither is a space nor closes an array. -/
def Starts (cs : List Char) : Prop :=
  ∃ c more, cs = c :: more ∧ Cursor.isSpace c = false ∧ c ≠ ']'

/-- A number starts with a sign or a digit, and with nothing else. -/
theorem IsNumberText.exists_head {cs : List Char} (h : IsNumberText cs) :
    ∃ c more, cs = c :: more ∧ Cursor.isSpace c = false ∧
      ∀ x, ¬ (x = '-' ∨ x.isDigit) → c ≠ x := by
  obtain ⟨sign, whole, fraction, exponent, rfl, signed, hwhole, -, -⟩ := h
  obtain ⟨d, ds, rfl, digit, -⟩ := hwhole.exists_digit
  have head : ∃ c more, sign ++ d :: ds ++ fraction ++ exponent = c :: more ∧
      (c = '-' ∨ c.isDigit) := by
    rcases signed with rfl | rfl
    · exact ⟨d, _, rfl, .inr digit⟩
    · exact ⟨'-', _, rfl, .inl rfl⟩
  obtain ⟨c, more, hc, head⟩ := head
  have other : ∀ x, ¬ (x = '-' ∨ x.isDigit) → c ≠ x := by
    rintro x hx rfl
    exact hx head
  refine ⟨c, more, hc, ?_, other⟩
  simp [Cursor.isSpace, other ' ' (by decide), other '\n' (by decide), other '\t' (by decide),
    other '\r' (by decide)]

/-- The number is written as one, and read back. -/
def Number.IsReadBack (n : Number) : Prop :=
  IsNumberText n.text.toList ∧ readNumber n.text.toList = some n

/-- The value is no number, or one that is read back. -/
def HasReadBack (j : Json) : Prop := ∀ n, j = .number n → n.IsReadBack

theorem starts_compact {j : Json} (h : j.HasReadBack) : Starts (compact j).toList := by
  cases j with
  | null => exact ⟨_, _, rfl, by decide, by decide⟩
  | bool b => cases b <;> exact ⟨_, _, rfl, by decide, by decide⟩
  | number n =>
      obtain ⟨c, more, hc, space, other⟩ := (h n rfl).1.exists_head
      exact ⟨c, more, hc, space, other ']' (by decide)⟩
  | string s => exact ⟨'"', _, toList_quoted s, by decide, by decide⟩
  | array items => exact ⟨'[', _, toList_compact_array items, by decide, by decide⟩
  | object fields => exact ⟨'{', _, toList_compact_object fields, by decide, by decide⟩

theorem starts_compactItems {items : List Json} (there : items ≠ [])
    (h : ∀ j ∈ items, j.HasReadBack) : Starts (compactItems items).toList := by
  obtain ⟨j, rest, rfl⟩ := List.exists_cons_of_ne_nil there
  obtain ⟨c, more, hc, space, opens⟩ := starts_compact (h j List.mem_cons_self)
  rw [toList_compactItems_cons, hc]
  exact ⟨c, _, rfl, space, opens⟩

/-! ## Values are taken for themselves -/

attribute [local simp] rawValue Raw.read Raw.readItems Raw.readFields

/-- No space comes next. -/
theorem skip_cons {c : Char} {more : List Char} {offset : Nat} (h : Cursor.isSpace c = false) :
    (Cursor.mk (c :: more) offset).skip = ⟨c :: more, offset⟩ := by
  simp [Cursor.skip, h]

theorem rawValue_number {cs rest : List Char} {fuel offset : Nat} (h : IsNumberText cs)
    (ends : Ends rest) : rawValue (fuel + 1) ⟨cs ++ rest, offset⟩ =
      some (.number offset cs, ⟨rest, offset + cs.length⟩) := by
  have taken := numberChars_append h ends
  obtain ⟨c, more, rfl, space, other⟩ := h.exists_head
  rw [List.cons_append] at taken ⊢
  rw [rawValue]
  simp only [skip_cons space]
  -- The other cases are values that start with a letter, a quote or a bracket.
  split
  case h_7 =>
    rw [taken]
    rfl
  all_goals
    rename_i same
    exact absurd (List.cons.inj same).1 (other _ (by decide))

/-- The text of the value is read as it, whatever follows that does not
continue it. -/
def IsTaken (j : Json) : Prop :=
  ∀ fuel rest offset, Ends rest → 2 * (compact j).toList.length ≤ fuel →
    ∃ raw place, rawValue fuel ⟨(compact j).toList ++ rest, offset⟩ = some (raw, ⟨rest, place⟩) ∧
      ∀ depth, j.depth ≤ depth → raw.read depth = some j

theorem rawItems_compactItems {items : List Json} (there : items ≠ [])
    (each : ∀ j ∈ items, j.IsTaken) : ∀ fuel rest offset,
      2 * (compactItems items).toList.length + 1 ≤ fuel →
      ∃ raws place, rawItems fuel ⟨(compactItems items).toList ++ ']' :: rest, offset⟩ =
        some (raws, ⟨rest, place⟩) ∧
          ∀ depth, depthItems items ≤ depth → Raw.readItems depth raws = some items := by
  induction items with
  | nil => exact absurd rfl there
  | cons j items ih =>
      obtain ⟨taken, each⟩ := List.forall_mem_cons.mp each
      intro fuel rest offset enough
      obtain ⟨fuel, rfl⟩ : ∃ n, fuel = n + 1 := ⟨fuel - 1, by omega⟩
      rw [toList_compactItems_cons] at enough ⊢
      rw [List.length_append] at enough
      rw [List.append_assoc, rawItems]
      -- Behind an item there is a comma or the bracket, and the item ends before either.
      by_cases last : items = []
      · subst last
        obtain ⟨raw, place, hraw, meaning⟩ :=
          taken fuel (']' :: rest) offset (by simp [Ends]) (by omega)
        simp only [if_true, List.nil_append, hraw, skip_cons (c := ']') rfl]
        refine ⟨[raw], _, rfl, fun depth hdepth => ?_⟩
        rw [depthItems, depthItems, Nat.max_zero] at hdepth
        simp [meaning depth hdepth]
      · simp only [if_neg last, List.length_cons] at enough
        obtain ⟨raw, place, hraw, meaning⟩ :=
          taken fuel (',' :: ((compactItems items).toList ++ ']' :: rest)) offset (by simp [Ends])
            (by omega)
        obtain ⟨raws, place', hraws, meanings⟩ := ih last each fuel rest (place + 1) (by omega)
        simp only [if_neg last, List.cons_append, hraw, skip_cons (c := ',') rfl, Cursor.drop,
          List.drop_one, List.tail_cons, hraws]
        refine ⟨raw :: raws, place', rfl, fun depth hdepth => ?_⟩
        rw [depthItems, Nat.max_le] at hdepth
        simp [meaning depth hdepth.1, meanings depth hdepth.2]

theorem rawFields_compactFields {fields : List (String × Json)} (there : fields ≠ [])
    (each : ∀ j ∈ fields.map (·.2), j.IsTaken) : ∀ fuel rest offset,
      2 * (compactFields fields).toList.length + 1 ≤ fuel →
      ∃ raws place, rawFields fuel ⟨(compactFields fields).toList ++ '}' :: rest, offset⟩ =
        some (raws, ⟨rest, place⟩) ∧
          ∀ depth, depthFields fields ≤ depth → Raw.readFields depth raws = some fields := by
  induction fields with
  | nil => exact absurd rfl there
  | cons f fields ih =>
      obtain ⟨n, j⟩ := f
      obtain ⟨taken, each⟩ : j.IsTaken ∧ ∀ j ∈ fields.map (·.2), j.IsTaken :=
        List.forall_mem_cons.mp each
      intro fuel rest offset enough
      obtain ⟨fuel, rfl⟩ : ∃ n, fuel = n + 1 := ⟨fuel - 1, by omega⟩
      rw [toList_compactFields_cons] at enough ⊢
      simp only [List.length_cons, List.length_append] at enough
      rw [rawFields]
      simp only [List.cons_append, List.append_assoc, skip_cons (c := '"') rfl,
        stringBody_escaped, skip_cons (c := ':') rfl, Cursor.drop, List.drop_one, List.tail_cons]
      by_cases last : fields = []
      · subst last
        obtain ⟨raw, place, hraw, meaning⟩ :=
          taken fuel ('}' :: rest) (offset + (escaped n).length + 2 + 1) (by simp [Ends]) (by omega)
        simp only [if_true, List.nil_append, hraw, skip_cons (c := '}') rfl]
        refine ⟨[(escaped n, raw)], _, rfl, fun depth hdepth => ?_⟩
        rw [depthFields, depthFields, Nat.max_zero] at hdepth
        simp [unescapeString_escaped, meaning depth hdepth]
      · simp only [if_neg last, List.length_cons] at enough
        obtain ⟨raw, place, hraw, meaning⟩ :=
          taken fuel (',' :: ((compactFields fields).toList ++ '}' :: rest))
            (offset + (escaped n).length + 2 + 1) (by simp [Ends]) (by omega)
        obtain ⟨raws, place', hraws, meanings⟩ := ih last each fuel rest (place + 1) (by omega)
        simp only [if_neg last, List.cons_append, hraw, skip_cons (c := ',') rfl, List.tail_cons,
          hraws]
        refine ⟨(escaped n, raw) :: raws, place', rfl, fun depth hdepth => ?_⟩
        rw [depthFields, Nat.max_le] at hdepth
        simp [unescapeString_escaped, meaning depth hdepth.1,
          meanings depth hdepth.2]

theorem exists_fuel {j : Json} (h : j.HasReadBack) {fuel : Nat}
    (enough : 2 * (compact j).toList.length ≤ fuel) : ∃ n, fuel = n + 1 := by
  obtain ⟨c, more, hc, -⟩ := starts_compact h
  rw [hc, List.length_cons] at enough
  exact ⟨fuel - 1, by omega⟩

theorem isTaken_null : Json.null.IsTaken := by
  intro fuel rest offset _ enough
  obtain ⟨fuel, rfl⟩ := exists_fuel (fun _ h => by cases h) enough
  exact ⟨.null offset, _, rfl, fun depth _ => by simp⟩

theorem isTaken_bool (b : Bool) : (Json.bool b).IsTaken := by
  intro fuel rest offset _ enough
  obtain ⟨fuel, rfl⟩ := exists_fuel (fun _ h => by cases h) enough
  refine ⟨.bool offset b, offset + (if b then 4 else 5), ?_, fun depth _ => by simp⟩
  cases b <;> rfl

theorem isTaken_number {n : Number} (back : (Json.number n).HasReadBack) :
    (Json.number n).IsTaken := by
  intro fuel rest offset ends enough
  obtain ⟨fuel, rfl⟩ := exists_fuel back enough
  obtain ⟨written, read⟩ := back n rfl
  refine ⟨.number offset n.text.toList, _, rawValue_number written ends, fun depth _ => ?_⟩
  rw [Raw.read, read]
  rfl

theorem isTaken_string (s : String) : (Json.string s).IsTaken := by
  intro fuel rest offset _ enough
  obtain ⟨fuel, rfl⟩ := exists_fuel (fun _ h => by cases h) enough
  refine ⟨.string offset (escaped s), offset + (escaped s).length + 2, ?_, fun depth _ => ?_⟩
  · rw [compact, toList_quoted, rawValue]
    simp only [List.cons_append, List.append_assoc, skip_cons (c := '"') rfl,
      List.nil_append, stringBody_escaped, Option.map_some]
  · rw [Raw.read, unescapeString_escaped]
    rfl

/-- Around items that are read there is one level more. -/
theorem read_array {raws : List Raw} {items : List Json} {offset : Nat}
    (h : ∀ depth, depthItems items ≤ depth → Raw.readItems depth raws = some items) :
    ∀ depth, (Json.array items).depth ≤ depth →
      (Raw.array offset raws).read depth = some (.array items) := by
  intro depth hdepth
  rw [Json.depth] at hdepth
  obtain ⟨depth, rfl⟩ : ∃ n, depth = n + 1 := ⟨depth - 1, by omega⟩
  rw [Raw.read, h depth (by omega)]
  rfl

theorem read_object {raws : List (List Char × Raw)} {fields : List (String × Json)} {offset : Nat}
    (h : ∀ depth, depthFields fields ≤ depth → Raw.readFields depth raws = some fields) :
    ∀ depth, (Json.object fields).depth ≤ depth →
      (Raw.object offset raws).read depth = some (.object fields) := by
  intro depth hdepth
  rw [Json.depth] at hdepth
  obtain ⟨depth, rfl⟩ : ∃ n, depth = n + 1 := ⟨depth - 1, by omega⟩
  rw [Raw.read, h depth (by omega)]
  rfl

theorem isTaken_array {items : List Json} (each : ∀ j ∈ items, j.HasReadBack ∧ j.IsTaken) :
    (Json.array items).IsTaken := by
  intro fuel rest offset _ enough
  obtain ⟨fuel, rfl⟩ := exists_fuel (fun _ h => by cases h) enough
  rw [toList_compact_array, List.length_cons, List.length_append] at enough
  rw [toList_compact_array]
  simp only [List.cons_append, List.append_assoc, List.nil_append]
  by_cases none : items = []
  · subst none
    refine ⟨.array offset [], offset + 2, ?_, read_array fun depth _ => by simp⟩
    simp [skip_cons, Cursor.isSpace, Cursor.drop]
  · obtain ⟨raws, place, hraws, meanings⟩ :=
      rawItems_compactItems none (fun j hj => (each j hj).2) fuel rest (offset + 1) (by omega)
    obtain ⟨c, more, hc, space, opens⟩ := starts_compactItems none fun j hj => (each j hj).1
    refine ⟨.array offset raws, place, ?_, read_array meanings⟩
    rw [hc] at hraws ⊢
    rw [rawValue]
    simp only [List.cons_append, skip_cons (c := '[') rfl, Cursor.drop, List.drop_one,
      List.tail_cons, skip_cons space] at hraws ⊢
    -- Nothing that an item starts with is taken for the end of an empty array.
    split
    · rename_i same
      exact absurd (List.cons.inj same).1 opens
    · rw [hraws]
      rfl

theorem isTaken_object {fields : List (String × Json)}
    (each : ∀ j ∈ fields.map (·.2), j.IsTaken) : (Json.object fields).IsTaken := by
  intro fuel rest offset _ enough
  obtain ⟨fuel, rfl⟩ := exists_fuel (fun _ h => by cases h) enough
  rw [toList_compact_object, List.length_cons, List.length_append] at enough
  rw [toList_compact_object]
  simp only [List.cons_append, List.append_assoc, List.nil_append]
  by_cases none : fields = []
  · subst none
    refine ⟨.object offset [], offset + 2, ?_, read_object fun depth _ => by simp⟩
    simp [skip_cons, Cursor.isSpace, Cursor.drop]
  · obtain ⟨raws, place, hraws, meanings⟩ :=
      rawFields_compactFields none each fuel rest (offset + 1) (by omega)
    obtain ⟨⟨n, j⟩, fields, rfl⟩ := List.exists_cons_of_ne_nil none
    refine ⟨.object offset raws, place, ?_, read_object meanings⟩
    rw [toList_compactFields_cons] at hraws ⊢
    rw [rawValue]
    simp only [List.cons_append, skip_cons (c := '{') rfl, Cursor.drop, List.drop_one,
      List.tail_cons, skip_cons (c := '"') rfl] at hraws ⊢
    rw [hraws]
    rfl

/-- A value is taken for itself if its numbers are read back. -/
theorem isTaken {j : Json} (numbers : j.Throughout HasReadBack) : j.IsTaken := by
  induction numbers with
  | @intro j here inside ih =>
      cases j with
      | null => exact isTaken_null
      | bool b => exact isTaken_bool b
      | number n => exact isTaken_number here
      | string s => exact isTaken_string s
      | array items => exact isTaken_array fun i hi => ⟨(inside i hi).here, ih i hi⟩
      | object fields => exact isTaken_object ih

/-- The text of a value is read as the value. -/
theorem ofChars_compact {j : Json} (numbers : j.Throughout HasReadBack) (h : j.depth ≤ maxDepth) :
    ofChars (compact j).toList = some j := by
  obtain ⟨raw, place, hraw, meaning⟩ := isTaken numbers (2 * (compact j).toList.length + 2) [] 0
    nofun (by omega)
  rw [List.append_nil] at hraw
  have taken : Raw.ofChars (compact j).toList = some raw := by
    rw [Raw.ofChars, hraw]
    rfl
  rw [ofChars, taken]
  exact meaning maxDepth h

/-- The text of a number alone is read as its value. -/
theorem ofChars_of_isNumberText {cs : List Char} (h : IsNumberText cs) :
    ofChars cs = (readNumber cs).map .number := by
  have value : rawValue (2 * cs.length + 2) ⟨cs ++ [], 0⟩ =
      some (.number 0 cs, ⟨[], 0 + cs.length⟩) := rawValue_number h nofun
  rw [List.append_nil] at value
  have taken : Raw.ofChars cs = some (.number 0 cs) := by
    rw [Raw.ofChars, value]
    rfl
  rw [ofChars, taken, Option.bind_eq_bind, Option.bind_some, Raw.read]

/-! ## Numbers that are read back -/

/-- A whole number that 64 bits hold is read back. -/
theorem hasReadBack_ofInt {i : Int} (hlo : -(Numeral.max63 + 1 : Int) ≤ i)
    (hhi : i ≤ Numeral.max64) : (Json.ofInt i).HasReadBack := by
  rintro _ ⟨⟩
  exact ⟨isNumberText_ofInt i, readNumber_ofInt hlo hhi⟩

theorem hasReadBack_ofNat {n : Nat} (h : n ≤ Numeral.max64) : (Json.ofNat n).HasReadBack := by
  refine hasReadBack_ofInt ?_ (Int.ofNat_le.mpr h)
  simp only [Numeral.max63]
  omega

theorem ofDouble_of_isFinite {d : Double} (finite : d.isFinite = true) :
    Json.ofDouble d = .number (.float d) := if_pos finite

/-- The text of a finite double alone is read as its digits are. -/
theorem ofChars_ofDouble {d : Double} (finite : d.isFinite = true) :
    ofChars (compact (.ofDouble d)).toList =
      (readNumber (numberLayout.text d).toList).map .number := by
  have text : (Number.float d).text = numberLayout.text d := if_pos finite
  rw [ofDouble_of_isFinite finite, compact, text]
  exact ofChars_of_isNumberText (isNumberText_numberLayout finite)

/-- Of a finite double it is enough that its text alone is read as it. -/
theorem hasReadBack_ofDouble {d : Double} (finite : d.isFinite = true)
    (back : ofChars (compact (.ofDouble d)).toList = some (.ofDouble d)) :
    (Json.ofDouble d).HasReadBack := by
  have text : (Number.float d).text = numberLayout.text d := if_pos finite
  rw [ofChars_ofDouble finite, ofDouble_of_isFinite finite, Option.map_eq_some_iff] at back
  obtain ⟨n, read, same⟩ := back
  cases same
  rw [ofDouble_of_isFinite finite]
  rintro _ ⟨⟩
  rw [Number.IsReadBack, text]
  exact ⟨isNumberText_numberLayout finite, read⟩

end TypeSchema.Json
