/-!
# JSON text

The shape of a JSON text before its strings and numbers are given a meaning: each value knows at
which character it starts, strings keep their escapes, and numbers are the characters they were
written with.  Nesting is not limited here.
-/

namespace TypeSchema.Json

/-- A JSON value as it stands in a text; `start` counts the characters before it. -/
inductive Raw where
  | null (start : Nat)
  | bool (start : Nat) (b : Bool)
  | number (start : Nat) (cs : List Char)
  /-- What stands between the quotes. -/
  | string (start : Nat) (body : List Char)
  | array (start : Nat) (items : List Raw)
  | object (start : Nat) (fields : List (List Char × Raw))
deriving Inhabited

/-- The number of characters before the value. -/
def Raw.start : Raw → Nat
  | .null s => s
  | .bool s _ => s
  | .number s _ => s
  | .string s _ => s
  | .array s _ => s
  | .object s _ => s

/-- What is left of a text, and how many characters came before. -/
structure Cursor where
  rest : List Char
  offset : Nat

namespace Cursor

/-- A character that may stand between tokens. -/
def isSpace (c : Char) : Bool := c == ' ' || c == '\n' || c == '\t' || c == '\r'

/-- The cursor behind the spaces that come next. -/
def skip (k : Cursor) : Cursor :=
  let spaces := k.rest.takeWhile isSpace
  ⟨k.rest.dropWhile isSpace, k.offset + spaces.length⟩

/-- The cursor behind `n` characters. -/
def drop (k : Cursor) (n : Nat) : Cursor := ⟨k.rest.drop n, k.offset + n⟩

end Cursor

/-- An ASCII digit. -/
def isDigit (c : Char) : Bool := '0' ≤ c && c ≤ '9'

/-- The value of a hexadecimal digit. -/
def hexDigit? (c : Char) : Option Nat :=
  if '0' ≤ c ∧ c ≤ '9' then some (c.toNat - '0'.toNat)
  else if 'a' ≤ c ∧ c ≤ 'f' then some (c.toNat - 'a'.toNat + 10)
  else if 'A' ≤ c ∧ c ≤ 'F' then some (c.toNat - 'A'.toNat + 10)
  else none

/-- The value of four hexadecimal digits. -/
def hex4? (a b c d : Char) : Option Nat := do
  let a ← hexDigit? a
  let b ← hexDigit? b
  let c ← hexDigit? c
  let d ← hexDigit? d
  return ((a * 16 + b) * 16 + c) * 16 + d

/-- The characters up to the closing quote, and what follows it.  Control characters and unknown
escapes are refused. -/
def stringBody : List Char → Option (List Char × List Char)
  | [] => none
  | '"' :: rest => some ([], rest)
  | '\\' :: 'u' :: a :: b :: c :: d :: rest =>
    if (hex4? a b c d).isSome then
      (stringBody rest).map fun (body, rest) => ('\\' :: 'u' :: a :: b :: c :: d :: body, rest)
    else none
  | '\\' :: e :: rest =>
    if e ∈ ['"', '\\', '/', 'b', 'f', 'n', 'r', 't'] then
      (stringBody rest).map fun (body, rest) => ('\\' :: e :: body, rest)
    else none
  | c :: rest =>
    if c = '\\' ∨ c.toNat < 0x20 then none
    else (stringBody rest).map fun (body, rest) => (c :: body, rest)

/-- The whole part of a number: a lone zero, or digits that do not start with one. -/
def wholePart (cs : List Char) : Option (List Char × List Char) :=
  match cs with
  | '0' :: rest =>
    match rest with
    | c :: _ => if isDigit c then none else some (['0'], rest)
    | [] => some (['0'], [])
  | _ =>
    let (ds, rest) := cs.span isDigit
    if ds = [] then none else some (ds, rest)

/-- A point with digits after it, if a point comes next. -/
def fractionPart (cs : List Char) : Option (List Char × List Char) :=
  match cs with
  | '.' :: rest =>
    let (ds, rest) := rest.span isDigit
    if ds = [] then none else some ('.' :: ds, rest)
  | _ => some ([], cs)

/-- A power of ten, if its mark comes next. -/
def exponentPart (cs : List Char) : Option (List Char × List Char) :=
  match cs with
  | e :: rest =>
    if e = 'e' ∨ e = 'E' then
      let (sign, rest) := match rest with
        | '+' :: r => (['+'], r)
        | '-' :: r => (['-'], r)
        | r => ([], r)
      let (ds, rest) := rest.span isDigit
      if ds = [] then none else some (e :: sign ++ ds, rest)
    else some ([], cs)
  | [] => some ([], [])

/-- The characters of a number, and what follows it. -/
def numberChars (cs : List Char) : Option (List Char × List Char) := do
  let (sign, rest) := match cs with
    | '-' :: r => (['-'], r)
    | r => ([], r)
  let (whole, rest) ← wholePart rest
  let (fraction, rest) ← fractionPart rest
  let (exponent, rest) ← exponentPart rest
  return (sign ++ whole ++ fraction ++ exponent, rest)

mutual

/-- Read the value that comes next.  Every value takes a character, so the length of the text
bounds the depth of the recursion. -/
def rawValue : Nat → Cursor → Option (Raw × Cursor)
  | 0, _ => none
  | fuel + 1, k =>
    let k := k.skip
    match k.rest with
    | 'n' :: 'u' :: 'l' :: 'l' :: _ => some (.null k.offset, k.drop 4)
    | 't' :: 'r' :: 'u' :: 'e' :: _ => some (.bool k.offset true, k.drop 4)
    | 'f' :: 'a' :: 'l' :: 's' :: 'e' :: _ => some (.bool k.offset false, k.drop 5)
    | '"' :: rest =>
      (stringBody rest).map fun (body, rest) =>
        (.string k.offset body, ⟨rest, k.offset + body.length + 2⟩)
    | '[' :: _ =>
      let inner := (k.drop 1).skip
      match inner.rest with
      | ']' :: _ => some (.array k.offset [], inner.drop 1)
      | _ => (rawItems fuel inner).map fun (items, after) => (.array k.offset items, after)
    | '{' :: _ =>
      let inner := (k.drop 1).skip
      match inner.rest with
      | '}' :: _ => some (.object k.offset [], inner.drop 1)
      | _ => (rawFields fuel inner).map fun (fields, after) => (.object k.offset fields, after)
    | _ =>
      (numberChars k.rest).map fun (cs, rest) =>
        (.number k.offset cs, ⟨rest, k.offset + cs.length⟩)

/-- Read the items of an array, up to its closing bracket; there is at least one. -/
def rawItems : Nat → Cursor → Option (List Raw × Cursor)
  | 0, _ => none
  | fuel + 1, k =>
    match rawValue fuel k with
    | none => none
    | some (v, after) =>
      let after := after.skip
      match after.rest with
      | ',' :: _ => (rawItems fuel (after.drop 1)).map fun (vs, after) => (v :: vs, after)
      | ']' :: _ => some ([v], after.drop 1)
      | _ => none

/-- Read the fields of an object, up to its closing brace; there is at least one. -/
def rawFields : Nat → Cursor → Option (List (List Char × Raw) × Cursor)
  | 0, _ => none
  | fuel + 1, k =>
    let k := k.skip
    match k.rest with
    | '"' :: rest =>
      match stringBody rest with
      | none => none
      | some (name, rest) =>
        let colon := (Cursor.mk rest (k.offset + name.length + 2)).skip
        match colon.rest with
        | ':' :: _ =>
          match rawValue fuel (colon.drop 1) with
          | none => none
          | some (v, after) =>
            let after := after.skip
            match after.rest with
            | ',' :: _ =>
              (rawFields fuel (after.drop 1)).map fun (fs, after) => ((name, v) :: fs, after)
            | '}' :: _ => some ([(name, v)], after.drop 1)
            | _ => none
        | _ => none
    | _ => none

end

/-- The one value that a text holds. -/
def Raw.ofChars (cs : List Char) : Option Raw :=
  match rawValue (2 * cs.length + 2) ⟨cs, 0⟩ with
  | some (v, after) => if after.skip.rest = [] then some v else none
  | none => none

end TypeSchema.Json
