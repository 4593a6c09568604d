import TypeSchema.Unicode.CaseMap
import TypeSchema.Unicode.Property

/-!
# Small letters

A text in small letters.  One capital letter becomes two characters, and a capital sigma at the end
of a word has a form of its own.
-/

namespace TypeSchema.Text

open Unicode

/-- The character is a letter with case. -/
def isCased (c : Char) : Bool := Property.cased.has c.toNat

/-- The character is passed over when a neighbouring letter is looked for. -/
def isCaseIgnorable (c : Char) : Bool := Property.caseIgnorable.has c.toNat

/-- The nearest character that is not passed over is a letter with case. -/
def meetsCased (cs : List Char) : Bool :=
  match cs.dropWhile isCaseIgnorable with
  | c :: _ => isCased c
  | [] => false

/-- The small form of a character, between what comes before it, nearest first, and after it. -/
def lowerChar (before : List Char) (c : Char) (after : List Char) : List Char :=
  if c.toNat < 0x80 then [c.toLower]
  else if c = 'Σ' then
    if meetsCased before && !meetsCased after then ['ς'] else ['σ']
  else if c = 'İ' then ['i', '\u0307']
  else [Char.ofNat (mapCode lowerRows c.toNat)]

/-- The small forms of characters that follow `before`. -/
def lowerFrom (before : List Char) : List Char → List Char
  | [] => []
  | c :: cs => lowerChar before c cs ++ lowerFrom (c :: before) cs

/-- The text in small letters. -/
def lower (s : String) : String :=
  String.ofList (lowerFrom [] s.toList)

end TypeSchema.Text
