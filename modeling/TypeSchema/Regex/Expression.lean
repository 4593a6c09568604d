import TypeSchema.Text.Numeral

/-!
# Regular expressions as written

The parts of a regular expression in the order in which they are written, and their text.  Nothing
is looked up or decided here: flags stand where they were set, and classes keep their items.
-/

namespace TypeSchema.Regex

/-- How a character is written. -/
inductive Spelling where
  | plain
  | escaped
  /-- By two hexadecimal digits, which may also stand for a byte. -/
  | byte
deriving DecidableEq, Repr

/-- The classes that a backslash and one letter name. -/
inductive Shorthand where
  | digit
  | space
  | word
deriving DecidableEq, Repr

/-- The classes of ASCII characters that go by a name between colons. -/
inductive AsciiClass where
  | alnum | alpha | ascii | blank | cntrl | digit | graph | lower | print | punct | space | upper
  | word | xdigit
deriving DecidableEq, Repr

/-- A class of the Unicode character database, as it is called for. -/
inductive UnicodeName where
  | alone (name : List Char)
  | value (property value : List Char)
deriving DecidableEq, Repr

/-- How two sets within brackets are put together. -/
inductive SetOperator where
  | intersection
  | difference
  | symmetricDifference
deriving DecidableEq, Repr

mutual

/-- One item between brackets. -/
inductive ClassItem where
  | char (c : Char) (spelling : Spelling)
  | range (lo hi : Char) (byte : Bool)
  | shorthand (kind : Shorthand) (negated : Bool)
  | ascii (kind : AsciiClass) (negated : Bool)
  | unicode (name : UnicodeName) (negated : Bool)
  | nested (negated : Bool) (body : ClassSet)

/-- What stands between brackets. -/
inductive ClassSet where
  | items (list : List ClassItem)
  | operation (op : SetOperator) (lhs rhs : ClassSet)

end

/-- Conditions on a place in the text. -/
inductive Anchor where
  | caret
  | dollar
  | textStart
  | textEnd
  | wordBoundary
  | notWordBoundary
  | wordStart
  | wordEnd
  | wordStartHalf
  | wordEndHalf
deriving DecidableEq, Repr

/-- The switches of a pattern. -/
inductive Flag where
  | ignoreCase
  | multiLine
  | dotAll
  | swapGreed
  | unicode
  | crlf
  | verbose
deriving DecidableEq, Repr

/-- How often something is repeated. -/
inductive Count where
  | optional
  | many
  | more
  | exactly (n : Nat)
  | atLeast (n : Nat)
  | between (low high : Nat)
deriving DecidableEq, Repr

/-- The least number of repetitions. -/
def Count.min : Count → Nat
  | .optional => 0
  | .many => 0
  | .more => 1
  | .exactly n => n
  | .atLeast n => n
  | .between low _ => low

/-- The greatest number of repetitions, if there is one. -/
def Count.max : Count → Option Nat
  | .optional => some 1
  | .many => none
  | .more => none
  | .exactly n => some n
  | .atLeast _ => none
  | .between _ high => some high

/-- What an opening parenthesis starts. -/
inductive GroupKind where
  | numbered
  | named (name : String)
  /-- A group that only sets flags for what it holds. -/
  | flags (changes : List (Flag × Bool))
deriving DecidableEq, Repr

/-- A regular expression as written. -/
inductive Expression where
  | empty
  | literal (c : Char) (spelling : Spelling)
  | dot
  | anchor (a : Anchor)
  | shorthand (kind : Shorthand) (negated : Bool)
  | unicode (name : UnicodeName) (negated : Bool)
  | bracket (negated : Bool) (body : ClassSet)
  | setFlags (changes : List (Flag × Bool))
  | group (kind : GroupKind) (body : Expression)
  | repeated (body : Expression) (count : Count) (lazy : Bool)
  | sequence (first rest : Expression)
  | either (first second : Expression)

/-! ## Text -/

/-- A character that has a meaning of its own and loses it behind a backslash. -/
def isMeta (c : Char) : Bool :=
  c ∈ ['\\', '.', '+', '*', '?', '(', ')', '|', '[', ']', '\x7b', '\x7d', '^', '$', '#', '&', '-',
    '~']

/-- A character in its spelling. -/
def Spelling.text (s : Spelling) (c : Char) : List Char :=
  match s with
  | .plain => [c]
  | .escaped => ['\\', c]
  | .byte =>
    let ds := Nat.toDigits 16 c.toNat
    '\\' :: 'x' :: List.replicate (2 - ds.length) '0' ++ ds

/-- The letter of a shorthand class; a capital one for all that is outside. -/
def Shorthand.letter (kind : Shorthand) (negated : Bool) : Char :=
  match kind, negated with
  | .digit, false => 'd'
  | .digit, true => 'D'
  | .space, false => 's'
  | .space, true => 'S'
  | .word, false => 'w'
  | .word, true => 'W'

/-- The name of a class of ASCII characters. -/
def AsciiClass.name : AsciiClass → String
  | .alnum => "alnum"
  | .alpha => "alpha"
  | .ascii => "ascii"
  | .blank => "blank"
  | .cntrl => "cntrl"
  | .digit => "digit"
  | .graph => "graph"
  | .lower => "lower"
  | .print => "print"
  | .punct => "punct"
  | .space => "space"
  | .upper => "upper"
  | .word => "word"
  | .xdigit => "xdigit"

/-- All classes of ASCII characters. -/
def AsciiClass.all : List AsciiClass :=
  [.alnum, .alpha, .ascii, .blank, .cntrl, .digit, .graph, .lower, .print, .punct, .space, .upper,
    .word, .xdigit]

/-- The text that calls for a class of the character database. -/
def UnicodeName.text (name : UnicodeName) (negated : Bool) : List Char :=
  let inner := match name with
    | .alone n => n
    | .value p v => p ++ '=' :: v
  '\\' :: (if negated then 'P' else 'p') :: '\x7b' :: inner ++ ['\x7d']

/-- The sign of a set operator. -/
def SetOperator.text : SetOperator → List Char
  | .intersection => ['&', '&']
  | .difference => ['-', '-']
  | .symmetricDifference => ['~', '~']

mutual

/-- The text of an item between brackets. -/
def ClassItem.text : ClassItem → List Char
  | .char c s => s.text c
  | .range lo hi _ => lo :: '-' :: [hi]
  | .shorthand kind negated => ['\\', kind.letter negated]
  | .ascii kind negated =>
    "[:".toList ++ (if negated then ['^'] else []) ++ kind.name.toList ++ ":]".toList
  | .unicode name negated => name.text negated
  | .nested negated body => '[' :: (if negated then ['^'] else []) ++ body.text ++ [']']

/-- The text of what stands between brackets. -/
def ClassSet.text : ClassSet → List Char
  | .items list => ClassItem.texts list
  | .operation op lhs rhs => lhs.text ++ op.text ++ rhs.text

/-- The text of items one after the other. -/
def ClassItem.texts : List ClassItem → List Char
  | [] => []
  | i :: rest => i.text ++ ClassItem.texts rest

end

/-- The text of an anchor. -/
def Anchor.text : Anchor → String
  | .caret => "^"
  | .dollar => "$"
  | .textStart => "\\A"
  | .textEnd => "\\z"
  | .wordBoundary => "\\b"
  | .notWordBoundary => "\\B"
  | .wordStart => "\\b\x7bstart\x7d"
  | .wordEnd => "\\b\x7bend\x7d"
  | .wordStartHalf => "\\b\x7bstart-half\x7d"
  | .wordEndHalf => "\\b\x7bend-half\x7d"

/-- The letter of a flag. -/
def Flag.letter : Flag → Char
  | .ignoreCase => 'i'
  | .multiLine => 'm'
  | .dotAll => 's'
  | .swapGreed => 'U'
  | .unicode => 'u'
  | .crlf => 'R'
  | .verbose => 'x'

/-- The flag of a letter. -/
def Flag.ofLetter? : Char → Option Flag
  | 'i' => some .ignoreCase
  | 'm' => some .multiLine
  | 's' => some .dotAll
  | 'U' => some .swapGreed
  | 'u' => some .unicode
  | 'R' => some .crlf
  | 'x' => some .verbose
  | _ => none

/-- The text of changes to flags: those that are set, then those that are cleared. -/
def flagsText (changes : List (Flag × Bool)) : List Char :=
  let on := (changes.filter (·.2)).map (·.1.letter)
  let off := (changes.filter (!·.2)).map (·.1.letter)
  on ++ (if off = [] then [] else '-' :: off)

/-- The text of a count. -/
def Count.text : Count → List Char
  | .optional => ['?']
  | .many => ['*']
  | .more => ['+']
  | .exactly n => '\x7b' :: Numeral.digits n ++ ['\x7d']
  | .atLeast n => '\x7b' :: Numeral.digits n ++ [',', '\x7d']
  | .between low high =>
    '\x7b' :: Numeral.digits low ++ ',' :: Numeral.digits high ++ ['\x7d']

/-- The text of an expression. -/
def Expression.text : Expression → List Char
  | .empty => []
  | .literal c s => s.text c
  | .dot => ['.']
  | .anchor a => a.text.toList
  | .shorthand kind negated => ['\\', kind.letter negated]
  | .unicode name negated => name.text negated
  | .bracket negated body => '[' :: (if negated then ['^'] else []) ++ body.text ++ [']']
  | .setFlags changes => '(' :: '?' :: flagsText changes ++ [')']
  | .group .numbered body => '(' :: body.text ++ [')']
  | .group (.named name) body => "(?P<".toList ++ name.toList ++ '>' :: body.text ++ [')']
  | .group (.flags changes) body => "(?".toList ++ flagsText changes ++ ':' :: body.text ++ [')']
  | .repeated body count lazy => body.text ++ count.text ++ (if lazy then ['?'] else [])
  | .sequence first rest => first.text ++ rest.text
  | .either first second => first.text ++ '|' :: second.text

end TypeSchema.Regex
