import TypeSchema.Unicode.Age
import TypeSchema.Unicode.Category
import TypeSchema.Unicode.Property
import TypeSchema.Unicode.ScriptExtensions

/-!
# Names of character sets

Sets of code points under the names by which patterns call for them: binary properties, general
categories and scripts.  Names match loosely: case, spaces, hyphens, underscores and a leading `is`
do not count.
-/

namespace TypeSchema.Unicode

/-- The code points with the `White_Space` property. -/
def whiteSpace : Ranges := [
  (0x9, 0xd), (0x20, 0x20), (0x85, 0x85), (0xa0, 0xa0), (0x1680, 0x1680), (0x2000, 0x200a),
  (0x2028, 0x2029), (0x202f, 0x202f), (0x205f, 0x205f), (0x3000, 0x3000)]

/-- The code points that join the characters beside them. -/
def joinControl : Ranges := [(0x200c, 0x200d)]

/-- Decimal digits. -/
def digits : Ranges := Category.decimalNumber

/-- Characters of words: what functions as a letter, marks, digits, connectors and joiners. -/
def wordCharacters : Ranges :=
  Ranges.normalize (open Category in
    Property.alphabetic ++ nonspacingMark ++ spacingMark ++ enclosingMark ++ decimalNumber ++
    connectorPunctuation ++ joinControl)

/-- Binary properties under their loose names. -/
def propertyNames : List (String × Ranges) := open Property in [
  ("alphabetic", alphabetic), ("alpha", alphabetic),
  ("lowercase", lowercase), ("lower", lowercase),
  ("uppercase", uppercase), ("upper", uppercase),
  ("whitespace", whiteSpace), ("wspace", whiteSpace), ("space", whiteSpace),
  ("graphemeextend", graphemeExtend), ("grext", graphemeExtend),
  ("emoji", emoji), ("emojipresentation", emojiPresentation), ("epres", emojiPresentation),
  ("extendedpictographic", extendedPictographic), ("extpict", extendedPictographic),
  ("cased", cased), ("caseignorable", caseIgnorable), ("ci", caseIgnorable),
  ("asciihexdigit", asciiHexDigit), ("ahex", asciiHexDigit),
  ("hexdigit", hexDigit), ("hex", hexDigit), ("dash", dash),
  ("diacritic", diacritic), ("dia", diacritic),
  ("ideographic", ideographic), ("ideo", ideographic), ("math", math),
  ("quotationmark", quotationMark), ("qmark", quotationMark),
  ("idstart", idStart), ("ids", idStart), ("idcontinue", idContinue), ("idc", idContinue),
  ("xidstart", xidStart), ("xids", xidStart), ("xidcontinue", xidContinue),
  ("xidc", xidContinue), ("joincontrol", joinControl), ("joinc", joinControl),
  ("noncharactercodepoint", noncharacter), ("nchar", noncharacter),
  ("defaultignorablecodepoint", defaultIgnorable), ("di", defaultIgnorable),
  ("softdotted", softDotted), ("sd", softDotted),
  ("terminalpunctuation", terminalPunctuation), ("term", terminalPunctuation),
  ("sentenceterminal", sentenceTerminal), ("sterm", sentenceTerminal),
  ("extender", extender), ("ext", extender)]

/-- Letters with case. -/
def casedLetters : Ranges := open Category in
  Ranges.normalize (uppercaseLetter ++ lowercaseLetter ++ titlecaseLetter)

/-- Letters. -/
def letters : Ranges := open Category in
  Ranges.normalize (casedLetters ++ modifierLetter ++ otherLetter)

/-- Marks. -/
def marks : Ranges := open Category in
  Ranges.normalize (nonspacingMark ++ spacingMark ++ enclosingMark)

/-- Numbers. -/
def numbers : Ranges := open Category in
  Ranges.normalize (decimalNumber ++ letterNumber ++ otherNumber)

/-- Punctuation. -/
def punctuation : Ranges := open Category in
  Ranges.normalize (connectorPunctuation ++ dashPunctuation ++ openPunctuation ++
    closePunctuation ++ initialPunctuation ++ finalPunctuation ++ otherPunctuation)

/-- Symbols. -/
def symbols : Ranges := open Category in
  Ranges.normalize (mathSymbol ++ currencySymbol ++ modifierSymbol ++ otherSymbol)

/-- Separators. -/
def separators : Ranges := open Category in
  Ranges.normalize (spaceSeparator ++ lineSeparator ++ paragraphSeparator)

/-- Code points of surrogates, which are no characters. -/
def surrogates : Ranges := [(0xd800, 0xdfff)]

/-- Code points that are not assigned. -/
def unassigned : Ranges := open Category in
  Ranges.complement (letters ++ marks ++ numbers ++ punctuation ++ symbols ++ separators ++
    control ++ format ++ privateUse ++ surrogates)

/-- Whatever is not a letter, mark, number, punctuation, symbol or separator. -/
def others : Ranges := open Category in
  Ranges.normalize (control ++ format ++ privateUse ++ unassigned)

/-- General categories under their loose names. -/
def categoryNames : List (String × Ranges) := open Category in [
  ("any", [(0, maxCode)]), ("ascii", [(0, 0x7f)]), ("assigned", Ranges.complement unassigned),
  ("l", letters), ("letter", letters), ("lc", casedLetters), ("casedletter", casedLetters),
  ("lu", uppercaseLetter), ("uppercaseletter", uppercaseLetter),
  ("ll", lowercaseLetter), ("lowercaseletter", lowercaseLetter),
  ("lt", titlecaseLetter), ("titlecaseletter", titlecaseLetter),
  ("lm", modifierLetter), ("modifierletter", modifierLetter),
  ("lo", otherLetter), ("otherletter", otherLetter),
  ("m", marks), ("mark", marks), ("combiningmark", marks),
  ("mn", nonspacingMark), ("nonspacingmark", nonspacingMark),
  ("mc", spacingMark), ("spacingmark", spacingMark),
  ("me", enclosingMark), ("enclosingmark", enclosingMark),
  ("n", numbers), ("number", numbers),
  ("nd", decimalNumber), ("decimalnumber", decimalNumber), ("digit", decimalNumber),
  ("nl", letterNumber), ("letternumber", letterNumber),
  ("no", otherNumber), ("othernumber", otherNumber),
  ("p", punctuation), ("punctuation", punctuation), ("punct", punctuation),
  ("pc", connectorPunctuation), ("connectorpunctuation", connectorPunctuation),
  ("pd", dashPunctuation), ("dashpunctuation", dashPunctuation),
  ("ps", openPunctuation), ("openpunctuation", openPunctuation),
  ("pe", closePunctuation), ("closepunctuation", closePunctuation),
  ("pi", initialPunctuation), ("initialpunctuation", initialPunctuation),
  ("pf", finalPunctuation), ("finalpunctuation", finalPunctuation),
  ("po", otherPunctuation), ("otherpunctuation", otherPunctuation),
  ("s", symbols), ("symbol", symbols),
  ("sm", mathSymbol), ("mathsymbol", mathSymbol),
  ("sc", currencySymbol), ("currencysymbol", currencySymbol),
  ("sk", modifierSymbol), ("modifiersymbol", modifierSymbol),
  ("so", otherSymbol), ("othersymbol", otherSymbol),
  ("z", separators), ("separator", separators),
  ("zs", spaceSeparator), ("spaceseparator", spaceSeparator),
  ("zl", lineSeparator), ("lineseparator", lineSeparator),
  ("zp", paragraphSeparator), ("paragraphseparator", paragraphSeparator),
  ("c", others), ("other", others), ("cc", control), ("control", control), ("cntrl", control),
  ("cf", format), ("format", format), ("cn", unassigned), ("unassigned", unassigned),
  ("co", privateUse), ("privateuse", privateUse)]

/-- A name with all that does not count taken away. -/
def looseName (cs : List Char) : String :=
  let small := cs.map Char.toLower
  let (named, body) := match small with
    | 'i' :: 's' :: rest => (true, rest)
    | all => (false, all)
  let kept := body.filter fun c => c ≠ ' ' && c ≠ '_' && c ≠ '-' && c.toNat < 0x80
  if named && kept = ['c'] then "isc" else String.ofList kept

/-- The set under a loose name. -/
def named? (name : String) (table : List (String × Ranges)) : Option Ranges :=
  (table.find? (·.1 = name)).map (·.2)

/-- The set that a lone name calls for: a property, a general category or a script. -/
def lookup (name : List Char) : Option Ranges :=
  let n := looseName name
  named? n propertyNames <|> named? n categoryNames <|> named? n Script.byName

/-- The set that the name of a property and the name of one of its values call for. -/
def lookupValue (property value : List Char) : Option Ranges :=
  let v := looseName value
  match looseName property with
  | "generalcategory" => named? v categoryNames
  | "gc" => named? v categoryNames
  | "script" => named? v Script.byName
  | "sc" => named? v Script.byName
  | "scriptextensions" => (named? v Script.byName).map Script.extended
  | "scx" => (named? v Script.byName).map Script.extended
  | "age" => Age.upTo? v
  | _ => none

end TypeSchema.Unicode
