import TypeSchema.Text.Numeral

/-!
# Guids

Numbers of 128 bits, written as 32 hexadecimal digits in groups of 8, 4, 4, 4 and 12.  Reading also
admits the digits alone, and the groups within braces or behind the prefix of a resource name.
-/

namespace TypeSchema

/-- A number of 128 bits. -/
structure Guid where
  bits : BitVec 128
deriving DecidableEq, Repr

namespace Guid

/-- Why a text is no guid. -/
inductive Fault where
  /-- A character that does not belong, and its place, counted in bytes from one. -/
  | badChar (c : Char) (place : Nat)
  | simpleLength (length : Nat)
  | groupCount (count : Nat)
  | groupLength (group expected found : Nat)
deriving DecidableEq, Repr

/-- The wording of a fault. -/
def Fault.message : Fault → String
  | .badChar c place =>
    "invalid character: expected an optional prefix of \x60urn:uuid:\x60 followed by " ++
    "[0-9a-fA-F-], found \x60" ++ String.ofList [c] ++ "\x60 at " ++ Numeral.ofNat place
  | .simpleLength n =>
    "invalid length: expected length 32 for simple format, found " ++ Numeral.ofNat n
  | .groupCount n => "invalid group count: expected 5, found " ++ Numeral.ofNat n
  | .groupLength group expected found =>
    "invalid group length in group " ++ Numeral.ofNat group ++ ": expected " ++
    Numeral.ofNat expected ++ ", found " ++ Numeral.ofNat found

/-- The value of a hexadecimal digit. -/
def hexValue? (c : Char) : Option Nat :=
  if '0' ≤ c ∧ c ≤ '9' then some (c.toNat - '0'.toNat)
  else if 'a' ≤ c ∧ c ≤ 'f' then some (c.toNat - 'a'.toNat + 10)
  else if 'A' ≤ c ∧ c ≤ 'F' then some (c.toNat - 'A'.toNat + 10)
  else none

/-- The number that hexadecimal digits write. -/
def hexNumber (cs : List Char) : Nat :=
  cs.foldl (fun n c => 16 * n + (hexValue? c).getD 0) 0

/-- The guid of 32 hexadecimal digits. -/
def ofDigits (cs : List Char) : Guid := ⟨BitVec.ofNat 128 (hexNumber cs)⟩

/-- The stretches between hyphens. -/
def groups : List Char → List (List Char)
  | [] => [[]]
  | c :: cs =>
    if c = '-' then [] :: groups cs
    else match groups cs with
      | [] => [[c]]
      | g :: gs => (c :: g) :: gs

/-- The lengths of the five groups. -/
def groupLengths : List Nat := [8, 4, 4, 4, 12]

/-- A text without its braces or prefix, how many bytes were taken from its start, and whether
nothing was taken. -/
def unwrap (cs : List Char) : List Char × Nat × Bool :=
  if "urn:uuid:".toList.isPrefixOf cs then (cs.drop 9, 9, false)
  else match cs, cs.reverse with
    | '{' :: _ :: _, '}' :: _ => ((cs.drop 1).dropLast, 1, false)
    | _, _ => (cs, 0, true)

/-- The first character that is neither a hexadecimal digit nor a hyphen, and its place. -/
def firstBad (place : Nat) : List Char → Option (Char × Nat)
  | [] => none
  | c :: cs =>
    if c = '-' ∨ (hexValue? c).isSome then firstBad (place + 1) cs else some (c, place)

/-- The first group whose length is wrong. -/
def firstWrongLength (i : Nat) : List Nat → List (List Char) → Option (Nat × Nat × Nat)
  | n :: ns, g :: gs =>
    if g.length = n then firstWrongLength (i + 1) ns gs else some (i, n, g.length)
  | _, _ => none

/-- The guid a text stands for. -/
def ofChars (cs : List Char) : Except Fault Guid :=
  let (body, offset, simple) := unwrap cs
  match firstBad (offset + 1) body with
  | some (c, place) => .error (.badChar c place)
  | none =>
    let gs := groups body
    match gs with
    | [ds] =>
      if !simple then .error (.groupCount 1)
      else if ds.length = 32 then .ok (ofDigits ds)
      else .error (.simpleLength ds.length)
    | gs =>
      if gs.length ≠ 5 then .error (.groupCount gs.length)
      else match firstWrongLength 0 groupLengths gs with
        | some (i, n, k) => .error (.groupLength i n k)
        | none => .ok (ofDigits gs.flatten)

/-- The hexadecimal digit of a number below sixteen. -/
def hexDigit (n : Nat) : Char :=
  if n < 10 then Char.ofNat ('0'.toNat + n) else Char.ofNat ('a'.toNat + n - 10)

/-- The last `k` hexadecimal digits of a number. -/
def hexDigits : Nat → Nat → List Char
  | 0, _ => []
  | k + 1, n => hexDigits k (n / 16) ++ [hexDigit (n % 16)]

/-- The digits of a guid in their groups. -/
def text (g : Guid) : String :=
  let ds := hexDigits 32 g.bits.toNat
  String.ofList
    (ds.take 8 ++ '-' :: (ds.drop 8).take 4 ++ '-' :: (ds.drop 12).take 4 ++
      '-' :: (ds.drop 16).take 4 ++ '-' :: ds.drop 20)

end Guid

end TypeSchema
