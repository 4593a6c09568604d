import TypeSchema.Unicode.Category
import TypeSchema.Unicode.Property

/-!
# Quoted text

A text between double quotes, with what would not show on a page written as an escape.
-/

namespace TypeSchema.Text

open Unicode

/-- The code points that show on a page: letters, marks, numbers, punctuation and symbols. -/
def visibleCodes : Ranges :=
  Ranges.normalize (open Category in
    uppercaseLetter ++ lowercaseLetter ++ titlecaseLetter ++ modifierLetter ++ otherLetter ++
    nonspacingMark ++ spacingMark ++ enclosingMark ++ decimalNumber ++ letterNumber ++
    otherNumber ++ connectorPunctuation ++ dashPunctuation ++ openPunctuation ++
    closePunctuation ++ initialPunctuation ++ finalPunctuation ++ otherPunctuation ++
    mathSymbol ++ currencySymbol ++ modifierSymbol ++ otherSymbol)

/-- A character that can stand as it is: it shows, or is the space, and does not lean on the
character before it. -/
def standsAlone (c : Char) : Bool :=
  if c.toNat < 0x80 then 0x20 ≤ c.toNat && c.toNat < 0x7F
  else visibleCodes.has c.toNat && !Property.graphemeExtend.has c.toNat

/-- The escape of a character by its code point. -/
def codeEscape (c : Char) : List Char :=
  '\\' :: 'u' :: '\x7b' :: Nat.toDigits 16 c.toNat ++ ['\x7d']

/-- A character as it stands between quotes. -/
def quoteChar (c : Char) : List Char :=
  match c with
  | '\x00' => ['\\', '0']
  | '\t' => ['\\', 't']
  | '\r' => ['\\', 'r']
  | '\n' => ['\\', 'n']
  | '\\' => ['\\', '\\']
  | '"' => ['\\', '"']
  | c => if standsAlone c then [c] else codeEscape c

/-- A text between quotes. -/
def quoted (s : String) : String :=
  String.ofList ('"' :: s.toList.flatMap quoteChar ++ ['"'])

end TypeSchema.Text
