import TypeSchema.Regex.Expression
import TypeSchema.Text.Blank
import TypeSchema.Unicode.Names

/-!
# Reading regular expressions

From a text to the expression it writes.  A reader holds what is left of the text, whether blanks
and comments are passed over there, and the names of groups so far.  Expressions nest, so reading
is by recursion on a bound that the length of the text gives.
-/

namespace TypeSchema.Regex

/-- Where reading stands. -/
structure Reading where
  rest : List Char
  verbose : Bool
  names : List String

/-- A step of reading; it fails on a text that writes no expression. -/
abbrev Reader := StateT Reading Option

namespace Reader

/-- The blanks and comments that come first are gone. -/
def dropBlanks : List Char → List Char
  | [] => []
  | c :: cs =>
    if Text.isBlank c then dropBlanks cs
    else if c = '#' then dropComment cs
    else c :: cs
where
  /-- The rest of a comment is gone, and what may be passed over after it. -/
  dropComment : List Char → List Char
    | [] => []
    | c :: cs => if c = '\n' then dropBlanks cs else dropComment cs

/-- Pass over blanks and comments where they do not count. -/
def space : Reader Unit :=
  modify fun r => if r.verbose then { r with rest := dropBlanks r.rest } else r

/-- The next character, which stays. -/
def peek : Reader (Option Char) := return (← get).rest.head?

/-- The character that comes next, once blanks that do not count are passed over. -/
def peekSpace : Reader (Option Char) := do
  let r ← get
  let after := r.rest.drop 1
  return (if r.verbose then dropBlanks after else after).head?

/-- Take one character. -/
def bump : Reader Unit := modify fun r => { r with rest := r.rest.drop 1 }

/-- Take one character and what may be passed over after it. -/
def bumpSpace : Reader Unit := do bump; space

/-- The next character, which is gone then. -/
def next : Reader Char := do
  match (← get).rest with
  | c :: cs => modify fun r => { r with rest := cs }; return c
  | [] => failure

/-- The next character, where there is one; it stays. -/
def here : Reader Char := do
  match ← peek with
  | some c => return c
  | none => failure

/-- Take `cs` if it comes next. -/
def takeIf (cs : List Char) : Reader Bool := do
  let r ← get
  if cs.isPrefixOf r.rest then
    set { r with rest := r.rest.drop cs.length }
    return true
  else return false

/-- Fail unless the condition holds. -/
def demand (b : Bool) : Reader Unit := if b then pure () else failure

/-! ## Characters and classes behind a backslash -/

/-- What a backslash may start. -/
inductive Primitive where
  | char (c : Char) (spelling : Spelling)
  | shorthand (kind : Shorthand) (negated : Bool)
  | unicode (name : UnicodeName) (negated : Bool)
  | anchor (a : Anchor)
  | dot

/-- The value of a hexadecimal digit. -/
def hexValue? (c : Char) : Option Nat :=
  if '0' ≤ c ∧ c ≤ '9' then some (c.toNat - '0'.toNat)
  else if 'a' ≤ c ∧ c ≤ 'f' then some (c.toNat - 'a'.toNat + 10)
  else if 'A' ≤ c ∧ c ≤ 'F' then some (c.toNat - 'A'.toNat + 10)
  else none

/-- The character of a code point, if it is one. -/
def charOf (n : Nat) : Reader Char :=
  if n < 0xD800 ∨ (0xDFFF < n ∧ n ≤ Unicode.maxCode) then return Char.ofNat n else failure

/-- Exactly `k` hexadecimal digits, continuing the number `n`. -/
def hexDigits : Nat → Nat → Reader Nat
  | 0, n => return n
  | k + 1, n => do
    match hexValue? (← here) with
    | none => failure
    | some d => bumpSpace; hexDigits k (16 * n + d)

/-- Hexadecimal digits up to a closing brace; `fuel` bounds their number. -/
def hexBraced : Nat → Option Nat → Reader Nat
  | 0, _ => failure
  | fuel + 1, n => do
    let c ← here
    if c = '\x7d' then
      bumpSpace
      match n with
      | some n => return n
      | none => failure
    else
      match hexValue? c with
      | none => failure
      | some d => bumpSpace; hexBraced fuel (some (16 * n.getD 0 + d))

/-- A character by its code point; the letter says how many digits there are. -/
def hexChar : Reader Primitive := do
  let letter ← here
  bumpSpace
  if (← here) = '\x7b' then
    bumpSpace
    let n ← hexBraced ((← get).rest.length + 1) none
    return .char (← charOf n) .escaped
  else
    let k := if letter = 'x' then 2 else if letter = 'u' then 4 else 8
    let n ← hexDigits k 0
    return .char (← charOf n) (if letter = 'x' then .byte else .escaped)

/-- The characters up to a closing brace; `fuel` bounds their number. -/
def upToBrace : Nat → Reader (List Char)
  | 0 => failure
  | fuel + 1 => do
    let c ← here
    if c = '\x7d' then
      bump
      return []
    else
      bumpSpace
      return c :: (← upToBrace fuel)

/-- Cut a text at the first place where `sep` stands. -/
def cutAt (sep : List Char) : List Char → Option (List Char × List Char)
  | [] => none
  | c :: cs =>
    if sep.isPrefixOf (c :: cs) then some ([], (c :: cs).drop sep.length)
    else (cutAt sep cs).map fun (a, b) => (c :: a, b)

/-- A class of the character database, after its backslash. -/
def unicodeClass : Reader Primitive := do
  let negated := (← here) = 'P'
  bumpSpace
  let c ← here
  if c = '\x7b' then
    bumpSpace
    let name ← upToBrace ((← get).rest.length + 1)
    match cutAt ['!', '='] name with
    | some (p, v) => return .unicode (.value p v) (!negated)
    | none =>
      match cutAt [':'] name <|> cutAt ['='] name with
      | some (p, v) => return .unicode (.value p v) negated
      | none => return .unicode (.alone name) negated
  else if c = '\\' then failure
  else
    bumpSpace
    return .unicode (.alone [c]) negated

/-- The condition between the braces that may follow `\b`; where no letter follows the brace, the
brace is left for a count. -/
def specialBoundary : Reader (Option Anchor) := do
  let start ← get
  bumpSpace
  let c ← here
  if !isNameChar c then
    set start
    return none
  let name ← letters ((← get).rest.length + 1)
  demand ((← here) = '\x7d')
  bump
  match String.ofList name with
  | "start" => return some .wordStart
  | "end" => return some .wordEnd
  | "start-half" => return some .wordStartHalf
  | "end-half" => return some .wordEndHalf
  | _ => failure
where
  /-- A character of the names of boundaries. -/
  isNameChar (c : Char) : Bool := c.isAlpha || c = '-'
  /-- The characters of a name. -/
  letters : Nat → Reader (List Char)
    | 0 => failure
    | fuel + 1 => do
      match ← peek with
      | some c =>
        if isNameChar c then
          bumpSpace
          return c :: (← letters fuel)
        else return []
      | none => return []

/-- A character that may stand behind a backslash without need. -/
def isEscapable (c : Char) : Bool :=
  isMeta c || (c.toNat < 0x80 && !c.isAlphanum && c != '<' && c != '>')

/-- What a backslash starts; it comes next. -/
def escape : Reader Primitive := do
  bump
  let c ← here
  match c with
  | 'x' => hexChar
  | 'u' => hexChar
  | 'U' => hexChar
  | 'p' => unicodeClass
  | 'P' => unicodeClass
  | 'd' => bump; return .shorthand .digit false
  | 'D' => bump; return .shorthand .digit true
  | 's' => bump; return .shorthand .space false
  | 'S' => bump; return .shorthand .space true
  | 'w' => bump; return .shorthand .word false
  | 'W' => bump; return .shorthand .word true
  | _ =>
    bump
    if isEscapable c then return .char c .escaped
    match c with
    | 'a' => return .char '\x07' .escaped
    | 'f' => return .char '\x0c' .escaped
    | 't' => return .char '\t' .escaped
    | 'n' => return .char '\n' .escaped
    | 'r' => return .char '\r' .escaped
    | 'v' => return .char '\x0b' .escaped
    | 'A' => return .anchor .textStart
    | 'z' => return .anchor .textEnd
    | 'b' =>
      if (← peek) = some '\x7b' then
        match ← specialBoundary with
        | some a => return .anchor a
        | none => return .anchor .wordBoundary
      else return .anchor .wordBoundary
    | 'B' => return .anchor .notWordBoundary
    | '<' => return .anchor .wordStart
    | '>' => return .anchor .wordEnd
    | _ => failure

/-! ## Brackets -/

/-- A class of ASCII characters between `[:` and `:]`, if one comes next. -/
def asciiClass? (cs : List Char) : Option (ClassItem × List Char) :=
  match cs with
  | '[' :: ':' :: rest =>
    let (negated, rest) := match rest with
      | '^' :: r => (true, r)
      | r => (false, r)
    let (name, rest) := rest.span (· ≠ ':')
    match rest with
    | ':' :: ']' :: rest =>
      (AsciiClass.all.find? (·.name.toList = name)).map fun kind => (.ascii kind negated, rest)
    | _ => none
  | _ => none

/-- One end of a range, or an item of its own. -/
def setPrimitive : Reader Primitive := do
  if (← here) = '\\' then escape
  else return .char (← next) .plain

/-- A primitive as an item between brackets. -/
def toItem : Primitive → Reader ClassItem
  | .char c s => return .char c s
  | .shorthand k n => return .shorthand k n
  | .unicode m n => return .unicode m n
  | _ => failure

/-- A single item, or a range where a hyphen and another end follow. -/
def setRange : Reader ClassItem := do
  let first ← setPrimitive
  space
  let c ← here
  let after ← peekSpace
  if c ≠ '-' ∨ after = some ']' ∨ after = some '-' then toItem first
  else
    bumpSpace
    let _ ← here
    match first, ← setPrimitive with
    | .char lo s, .char hi s' =>
      demand (lo ≤ hi)
      return .range lo hi (s = .byte ∨ s' = .byte)
    | _, _ => failure

/-- Hyphens at the start of a set stand for themselves; `fuel` bounds their number. -/
def leadingHyphens : Nat → Reader (List ClassItem)
  | 0 => failure
  | fuel + 1 => do
    if (← here) = '-' then
      bumpSpace
      return .char '-' .plain :: (← leadingHyphens fuel)
    else return []

/-- The start of a set, behind its opening bracket: whether it is negated, and the items that stand
for themselves only there. -/
def openSet : Reader (Bool × List ClassItem) := do
  bumpSpace
  let negated ← do
    if (← here) = '^' then
      bumpSpace
      pure true
    else pure false
  let hyphens ← leadingHyphens ((← get).rest.length + 1)
  if hyphens.isEmpty && (← here) = ']' then
    bumpSpace
    return (negated, [.char ']' .plain])
  else return (negated, hyphens)

/-- The items so far as a set, or as the second operand of an operation that was begun. -/
def closeSet (pending : Option (ClassSet × SetOperator)) (items : List ClassItem) : ClassSet :=
  match pending with
  | none => .items items
  | some (lhs, op) => .operation op lhs (.items items)

/-- The operator between two sets, if one comes next. -/
def setOperator? (cs : List Char) : Option SetOperator :=
  match cs with
  | '&' :: '&' :: _ => some .intersection
  | '-' :: '-' :: _ => some .difference
  | '~' :: '~' :: _ => some .symmetricDifference
  | _ => none

/-- The items of a set up to its closing bracket, after those in `items`. -/
def setBody : Nat → Option (ClassSet × SetOperator) → List ClassItem → Reader ClassSet
  | 0, _, _ => failure
  | fuel + 1, pending, items => do
    space
    let r ← get
    let c ← here
    if c = ']' then
      bump
      return closeSet pending items
    else if c = '[' then
      match asciiClass? r.rest with
      | some (item, rest) =>
        set { r with rest := rest }
        setBody fuel pending (items ++ [item])
      | none =>
        let (negated, first) ← openSet
        let body ← setBody fuel none first
        setBody fuel pending (items ++ [.nested negated body])
    else
      match setOperator? r.rest with
      | some op =>
        set { r with rest := r.rest.drop 2 }
        setBody fuel (some (closeSet pending items, op)) []
      | none =>
        let item ← setRange
        setBody fuel pending (items ++ [item])

/-- A set between brackets; the opening one comes next. -/
def bracket : Reader Expression := do
  let (negated, first) ← openSet
  let body ← setBody ((← get).rest.length + 1) none first
  return .bracket negated body

/-! ## Counts -/

/-- Decimal digits, with blanks around them; `fuel` bounds their number. -/
def decimal (fuel : Nat) : Reader (Option Nat) := do
  modify fun r => { r with rest := Text.trimLeft r.rest }
  let ds ← digits fuel
  modify fun r => { r with rest := Text.trimLeft r.rest }
  space
  match Numeral.readNat Numeral.max32 ds with
  | .ok n => return some n
  | .error .empty => return none
  | .error _ => failure
where
  /-- The digits alone. -/
  digits : Nat → Reader (List Char)
    | 0 => return []
    | fuel + 1 => do
      match ← peek with
      | some c =>
        if '0' ≤ c && c ≤ '9' then
          bumpSpace
          return c :: (← digits fuel)
        else return []
      | none => return []

/-- A count between braces; the opening one comes next. -/
def braces : Reader Count := do
  bumpSpace
  let fuel := (← get).rest.length + 1
  let low ← decimal fuel
  let c ← here
  let count ← do
    if c = ',' then
      bumpSpace
      let min ← demandSome low
      if (← here) = '\x7d' then pure (.atLeast min)
      else
        let max ← demandSome (← decimal fuel)
        pure (.between min max)
    else
      pure (.exactly (← demandSome low))
  demand ((← here) = '\x7d')
  demand (count.max.all (count.min ≤ ·))
  return count
where
  /-- The number, which has to be there. -/
  demandSome (n : Option Nat) : Reader Nat :=
    match n with
    | some n => pure n
    | none => failure

/-- What may stand before a count. -/
def repeatable : Expression → Bool
  | .setFlags _ => false
  | .empty => false
  | _ => true

/-- Apply a count to the last of the items read so far, the latest of which comes first. -/
def applyCount (count : Count) : List Expression → Reader (List Expression)
  | [] => failure
  | e :: before => do
    demand (repeatable e)
    if (← peek) = some '?' then
      bump
      return .repeated e count true :: before
    else return .repeated e count false :: before

/-! ## Groups -/

/-- The letters of flags up to the colon or parenthesis that ends them. -/
def flagItems : Nat → Bool → List (Flag × Bool) → Reader (List (Flag × Bool))
  | 0, _, _ => failure
  | fuel + 1, off, done => do
    let c ← here
    if c = ':' ∨ c = ')' then return done
    else if c = '-' then
      demand (!off)
      bump
      let after ← here
      demand (after ≠ ':' && after ≠ ')')
      flagItems fuel true done
    else
      match Flag.ofLetter? c with
      | none => failure
      | some flag =>
        demand (!done.any (·.1 = flag))
        bump
        flagItems fuel off (done ++ [(flag, !off)])

/-- A character that the name of a group may hold. -/
def isNameChar (first : Bool) (c : Char) : Bool :=
  let alphabetic := Unicode.Property.alphabetic.has c.toNat
  if first then c = '_' || alphabetic
  else c = '_' || c = '.' || c = '[' || c = ']' || alphabetic || Unicode.numbers.has c.toNat

/-- The name of a group, up to the bracket that ends it, and new among the names so far. -/
def groupName : Reader String := do
  let r ← get
  let (name, rest) := r.rest.span (· ≠ '>')
  match name, rest with
  | c :: cs, '>' :: rest =>
    demand (isNameChar true c && cs.all (isNameChar false))
    let name := String.ofList name
    demand (!r.names.contains name)
    set { r with rest := rest, names := name :: r.names }
    return name
  | _, _ => failure

/-- The setting that changes make to a flag, or `old` where they do not touch it. -/
def settingOf (changes : List (Flag × Bool)) (flag : Flag) (old : Bool) : Bool :=
  match changes.find? (·.1 = flag) with
  | some (_, b) => b
  | none => old

/-- What an opening parenthesis starts: a group, or a change of flags that ends at once. -/
inductive Opening where
  | group (kind : GroupKind)
  | flags (changes : List (Flag × Bool))

/-- The start of a group; its opening parenthesis comes next.  Groups that look ahead or behind are
refused. -/
def opening : Reader Opening := do
  bump
  space
  let r ← get
  demand (!("?=".toList.isPrefixOf r.rest || "?!".toList.isPrefixOf r.rest ||
    "?<=".toList.isPrefixOf r.rest || "?<!".toList.isPrefixOf r.rest))
  if (← takeIf "?P<".toList <||> takeIf "?<".toList) then
    return .group (.named (← groupName))
  else if ← takeIf "?".toList then
    let changes ← flagItems (r.rest.length + 1) false []
    if (← next) = ')' then
      demand (!changes.isEmpty)
      return .flags changes
    else return .group (.flags changes)
  else return .group .numbered

/-- A part that is neither a group, a set nor a count. -/
def primitive : Reader Expression := do
  let c ← here
  match c with
  | '\\' =>
    match ← escape with
    | .char c s => return .literal c s
    | .shorthand k n => return .shorthand k n
    | .unicode m n => return .unicode m n
    | .anchor a => return .anchor a
    | .dot => return .dot
  | '.' => bump; return .dot
  | '^' => bump; return .anchor .caret
  | '$' => bump; return .anchor .dollar
  | c => bump; return .literal c .plain

/-- Parts read so far, the latest first, as one expression. -/
def inSequence : List Expression → Expression
  | [] => .empty
  | last :: before => before.foldl (fun rest e => .sequence e rest) last

/-- Read the branches of a group up to its closing parenthesis or the end of the text; `parts` are
the parts of the branch so far, the latest first. -/
def branches : Nat → List Expression → Reader Expression
  | 0, _ => failure
  | fuel + 1, parts => do
    space
    match ← peek with
    | none => return inSequence parts
    | some ')' => return inSequence parts
    | some '|' =>
      bump
      let second ← branches fuel []
      return .either (inSequence parts) second
    | some '(' =>
      let outer := (← get).verbose
      match ← opening with
      | .flags changes =>
        modify fun r => { r with verbose := settingOf changes .verbose r.verbose }
        branches fuel (.setFlags changes :: parts)
      | .group kind =>
        let changes := match kind with
          | .flags changes => changes
          | _ => []
        modify fun r => { r with verbose := settingOf changes .verbose r.verbose }
        let body ← branches fuel []
        demand ((← here) = ')')
        modify fun r => { r with verbose := outer }
        bump
        branches fuel (.group kind body :: parts)
    | some '[' => branches fuel ((← bracket) :: parts)
    | some '?' => bump; branches fuel (← applyCount .optional parts)
    | some '*' => bump; branches fuel (← applyCount .many parts)
    | some '+' => bump; branches fuel (← applyCount .more parts)
    | some '\x7b' =>
      demand (!parts.isEmpty)
      let count ← braces
      bumpSpace
      branches fuel (← applyCount count parts)
    | some _ => branches fuel ((← primitive) :: parts)

end Reader

/-! ## Nesting -/

/-- How deeply expressions may nest. -/
def maxNesting : Nat := 250

mutual

/-- How deeply an item between brackets nests. -/
def ClassItem.nesting : ClassItem → Nat
  | .nested _ body => body.nesting + 1
  | _ => 0

/-- How deeply a set nests; several items side by side are a level of their own. -/
def ClassSet.nesting : ClassSet → Nat
  | .items list => ClassItem.nestings list + (if list.length < 2 then 0 else 1)
  | .operation _ lhs rhs => max lhs.nesting rhs.nesting + 1

/-- The deepest nesting among items. -/
def ClassItem.nestings : List ClassItem → Nat
  | [] => 0
  | i :: rest => max i.nesting (ClassItem.nestings rest)

end

/-- What an expression goes on without a new level: a sequence, a row of branches, or nothing. -/
inductive Spine where
  | none
  | sequence
  | either
deriving DecidableEq

/-- How deeply an expression nests, as the next part of `spine`. -/
def Expression.nesting (spine : Spine) : Expression → Nat
  | .bracket _ body => body.nesting + 1
  | .group _ body => body.nesting .none + 1
  | .repeated body _ _ => body.nesting .none + 1
  | .sequence first rest =>
    max (first.nesting .none) (rest.nesting .sequence) + (if spine = .sequence then 0 else 1)
  | .either first second =>
    max (first.nesting .none) (second.nesting .either) + (if spine = .either then 0 else 1)
  | _ => 0

/-- The expression that a text writes. -/
def Expression.ofChars (cs : List Char) : Option Expression := do
  let (e, after) ← (Reader.branches (cs.length + 2) []).run ⟨cs, false, []⟩
  if after.rest = [] ∧ e.nesting .none ≤ maxNesting then some e else none

end TypeSchema.Regex
