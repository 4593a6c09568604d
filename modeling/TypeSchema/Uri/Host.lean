import TypeSchema.Text.Numeral

/-!
# Hosts

The host of a uri: a name, four bytes or eight words.  Under the well-known schemes a name is
decoded and put in small letters, and a name that ends in a number has to be an address; under other
schemes it is kept as it stands.
-/

namespace TypeSchema.Uri

/-- Why a text is no uri. -/
inductive Fault where
  | noScheme
  | emptyHost
  | port
  | domain
  | domainCharacter
  | address4
  | address6
deriving DecidableEq, Repr

/-- The wording of a fault. -/
def Fault.message : Fault → String
  | .noScheme => "relative URL without a base"
  | .emptyHost => "empty host"
  | .port => "invalid port number"
  | .domain => "invalid international domain name"
  | .domainCharacter => "invalid domain character"
  | .address4 => "invalid IPv4 address"
  | .address6 => "invalid IPv6 address"

/-! ## Percent encoding -/

/-- The capital hexadecimal digit of a number below sixteen. -/
def hexDigit (n : Nat) : Char :=
  if n < 10 then Char.ofNat ('0'.toNat + n) else Char.ofNat ('A'.toNat + n - 10)

/-- The value of a hexadecimal digit. -/
def hexValue? (c : Char) : Option Nat :=
  if '0' ≤ c ∧ c ≤ '9' then some (c.toNat - '0'.toNat)
  else if 'a' ≤ c ∧ c ≤ 'f' then some (c.toNat - 'a'.toNat + 10)
  else if 'A' ≤ c ∧ c ≤ 'F' then some (c.toNat - 'A'.toNat + 10)
  else none

/-- The bytes of a character, each as a percent sign and two digits. -/
def encodeBytes (c : Char) : List Char :=
  (String.ofList [c]).toUTF8.toList.flatMap fun b =>
    ['%', hexDigit (b.toNat / 16), hexDigit (b.toNat % 16)]

/-- A control character, or one beyond ASCII. -/
def isControl (c : Char) : Bool := c.toNat < 0x20 || 0x7E < c.toNat

/-- The characters with those that are unsafe or controls encoded. -/
def encode (unsafeChars : List Char) (cs : List Char) : List Char :=
  cs.flatMap fun c => if isControl c || unsafeChars.contains c then encodeBytes c else [c]

/-- The bytes that a text stands for once its percent signs are decoded. -/
def decodeBytes : List Char → List UInt8
  | [] => []
  | '%' :: a :: b :: rest =>
    match hexValue? a, hexValue? b with
    | some x, some y => (16 * x + y).toUInt8 :: decodeBytes rest
    | _, _ => '%'.toNat.toUInt8 :: decodeBytes (a :: b :: rest)
  | c :: rest => (String.ofList [c]).toUTF8.toList ++ decodeBytes rest

/-- The text that a text stands for once its percent signs are decoded. -/
def decode (cs : List Char) : Option (List Char) :=
  (String.fromUTF8? ⟨(decodeBytes cs).toArray⟩).map String.toList

/-! ## Addresses of four bytes -/

/-- The stretches of a text between dots. -/
def labels : List Char → List (List Char)
  | [] => [[]]
  | c :: cs =>
    if c = '.' then [] :: labels cs
    else match labels cs with
      | [] => [[c]]
      | l :: ls => (c :: l) :: ls

/-- The number of digits to a base, if they are all such digits. -/
def basedNumber (base : Nat) (cs : List Char) : Option Nat :=
  cs.foldl (fun n c => n.bind fun n =>
    (hexValue? c).bind fun d => if d < base then some (n * base + d) else none) (some 0)

/-- A number of an address: decimal, octal behind a zero or hexadecimal behind `0x`. -/
def addressNumber (cs : List Char) : Option Nat :=
  match cs with
  | [] => none
  | '0' :: 'x' :: ds => basedNumber 16 ds
  | '0' :: 'X' :: ds => basedNumber 16 ds
  | '0' :: d :: ds => basedNumber 8 (d :: ds)
  | ds => basedNumber 10 ds

/-- The labels without an empty one at the end. -/
def withoutLastDot (ls : List (List Char)) : List (List Char) :=
  match ls.reverse with
  | [] :: rest => rest.reverse
  | _ => ls

/-- The last label is a number, so that the name has to be an address. -/
def endsInNumber (name : List Char) : Bool :=
  let ls := labels name
  if ls = [[]] then false
  else match (withoutLastDot ls).getLast? with
    | some l => (l ≠ [] && l.all fun c => '0' ≤ c && c ≤ '9') || (addressNumber l).isSome
    | none => false

/-- The value of an address: all numbers but the last stand for one byte each. -/
def address4 (name : List Char) : Option Nat := do
  let ls := withoutLastDot (labels name)
  if 4 < ls.length then none
  let ns ← ls.mapM addressNumber
  match ns.reverse with
  | [] => none
  | last :: before =>
    if Nat.pow 256 (4 - before.length) ≤ last ∨ before.any (255 < ·) then none
    else
      let high := before.reverse.foldl (fun n b => n * 256 + b) 0
      some (high * Nat.pow 256 (4 - before.length) + last)

/-- The four bytes of an address with dots between them. -/
def address4Text (n : Nat) : List Char :=
  Numeral.digits (n / 0x1000000 % 256) ++ '.' :: Numeral.digits (n / 0x10000 % 256) ++
  '.' :: Numeral.digits (n / 0x100 % 256) ++ '.' :: Numeral.digits (n % 256)

/-! ## Addresses of eight words -/

/-- A byte in decimal digits, without leading zeros, and what follows it. -/
def decimalByte (cs : List Char) : Option (Nat × List Char) :=
  let (ds, rest) := cs.span fun c => '0' ≤ c && c ≤ '9'
  match ds with
  | [] => none
  | '0' :: _ :: _ => none
  | ds => (basedNumber 10 ds).bind fun n => if n < 256 then some (n, rest) else none

/-- The two words that four bytes with dots between them stand for, up to the end. -/
def trailingBytes (cs : List Char) : Option (List Nat) := do
  let (a, rest) ← decimalByte cs
  let rest ← dot rest
  let (b, rest) ← decimalByte rest
  let rest ← dot rest
  let (c, rest) ← decimalByte rest
  let rest ← dot rest
  let (d, rest) ← decimalByte rest
  if rest = [] then some [a * 256 + b, c * 256 + d] else none
where
  /-- What follows a dot. -/
  dot : List Char → Option (List Char)
    | '.' :: rest => some rest
    | _ => none

/-- The words up to the end of an address, after those in `words`; `gap` is the number of words
before the double colon. -/
def wordsFrom : Nat → List Nat → Option Nat → List Char → Option (List Nat × Option Nat)
  | 0, _, _, _ => none
  | _ + 1, words, gap, [] => some (words, gap)
  | fuel + 1, words, gap, cs =>
    if words.length = 8 then none
    else match cs with
      | ':' :: rest =>
        if gap.isSome then none
        else wordsFrom fuel (words ++ [0]) (some (words.length + 1)) rest
      | cs =>
        let ds := (cs.take 4).takeWhile fun c => (hexValue? c).isSome
        let rest := cs.drop ds.length
        let word := (basedNumber 16 ds).getD 0
        match rest with
        | [] => some (words ++ [word], gap)
        | '.' :: _ =>
          if ds = [] ∨ 6 < words.length then none
          else (trailingBytes cs).map fun ws => (words ++ ws, gap)
        | ':' :: rest => if rest = [] then none else wordsFrom fuel (words ++ [word]) gap rest
        | _ => none

/-- The eight words of an address; a double colon stands for as many zeros as are missing. -/
def address6 (cs : List Char) : Option (List Nat) := do
  let (words, gap) ← match cs with
    | ':' :: ':' :: rest => wordsFrom (cs.length + 1) [0] (some 1) rest
    | ':' :: _ => none
    | _ :: _ :: _ => wordsFrom (cs.length + 1) [] none cs
    | _ => none
  match gap with
  | some k => some (words.take k ++ List.replicate (8 - words.length) 0 ++ words.drop k)
  | none => if words.length = 8 then some words else none

/-- The length of the row of zeros at the start. -/
def zeroRow (words : List Nat) : Nat := (words.takeWhile (· = 0)).length

/-- The first of the longest rows of zeros, if one has at least two: its place and its length. -/
def longestZeros (words : List Nat) : Option (Nat × Nat) :=
  (List.range words.length).foldl (fun best i =>
    let n := zeroRow (words.drop i)
    if 2 ≤ n ∧ best.all (·.2 < n) then some (i, n) else best) none

/-- Words with colons between them. -/
def wordsText : List Nat → List Char
  | [] => []
  | [w] => Nat.toDigits 16 w
  | w :: ws => Nat.toDigits 16 w ++ ':' :: wordsText ws

/-- The text of an address between brackets, with the longest row of zeros left out. -/
def address6Text (words : List Nat) : List Char :=
  let body := match longestZeros words with
    | some (i, n) => wordsText (words.take i) ++ [':', ':'] ++ wordsText (words.drop (i + n))
    | none => wordsText words
  '[' :: body ++ [']']

/-! ## Hosts -/

/-- The eight words between brackets, as text. -/
def bracketedHost (cs : List Char) : Except Fault (List Char) :=
  match cs.reverse with
  | ']' :: inner =>
    match address6 (inner.reverse.drop 1) with
    | some words => .ok (address6Text words)
    | none => .error .address6
  | _ => .error .address6

/-- A character that the host of a uri of any scheme cannot hold. -/
def isForbidden (c : Char) : Bool :=
  c ∈ ['\x00', '\t', '\n', '\r', ' ', '#', '/', ':', '<', '>', '?', '@', '[', '\\', ']', '^', '|']

/-- A host that is kept as it stands. -/
def opaqueHost (cs : List Char) : Except Fault (List Char) :=
  if cs.head? = some '[' then bracketedHost cs
  else if cs.any isForbidden then .error .domainCharacter
  else .ok (encode [] cs)

/-- A name of ASCII characters in small letters. -/
def asciiName (cs : List Char) : Except Fault (List Char) :=
  let small := cs.map Char.toLower
  if small.any fun c => isForbidden c || c = '%' || isControl c then .error .domain
  else if (labels small).any (· = "xn--".toList) then .error .domain
  else .ok small

/-- A host under one of the well-known schemes. -/
def namedHost (cs : List Char) : Except Fault (List Char) :=
  if cs.head? = some '[' then bracketedHost cs
  else
    match decode cs with
    | none => .error .domain
    | some name => do
      let name ← asciiName name
      if name = [] then .error .emptyHost
      else if endsInNumber name then
        match address4 name with
        | some n => .ok (address4Text n)
        | none => .error .address4
      else .ok name

end TypeSchema.Uri
