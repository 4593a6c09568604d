import TypeSchema.Regex.Basic
import TypeSchema.Regex.Expression

/-!
# The meaning of regular expressions as written

Flags are carried along in the order of the text, and are forgotten at the end of the group that
set them.  Classes become sets of characters.  An expression has no meaning where a class has an
unknown name, and where it would match part of a character.
-/

namespace TypeSchema.Regex

open Unicode

/-- The switches that hold at a place of a pattern. -/
structure Flags where
  ignoreCase : Bool
  multiLine : Bool
  dotAll : Bool
  swapGreed : Bool
  unicode : Bool
  crlf : Bool
deriving DecidableEq, Repr

/-- The switches at the start of a pattern. -/
def Flags.initial (ignoreCase : Bool) : Flags := ⟨ignoreCase, false, false, false, true, false⟩

/-- The switches after one change. -/
def Flags.change (f : Flags) : Flag × Bool → Flags
  | (.ignoreCase, b) => { f with ignoreCase := b }
  | (.multiLine, b) => { f with multiLine := b }
  | (.dotAll, b) => { f with dotAll := b }
  | (.swapGreed, b) => { f with swapGreed := b }
  | (.unicode, b) => { f with unicode := b }
  | (.crlf, b) => { f with crlf := b }
  | (.verbose, _) => f

/-- The switches after changes, one by one. -/
def Flags.changes (f : Flags) (cs : List (Flag × Bool)) : Flags := cs.foldl Flags.change f

/-! ## Case -/

/-- The characters that case folding changes, each with what it becomes. -/
def foldPairs : List (Nat × Nat) := codePairs foldRows

/-- The set with all characters that differ from one of its own by case only. -/
def foldCase (rs : Ranges) : Ranges :=
  let images := (foldPairs.filter fun (c, f) => rs.has c || rs.has f).map (·.2)
  Ranges.normalize
    (rs ++ (foldPairs.filter fun (_, f) => images.contains f).flatMap fun (c, f) =>
      [(c, c), (f, f)])

/-- The set with the small and the capital form of each of its ASCII letters. -/
def foldCaseAscii (rs : Ranges) : Ranges :=
  let shift (lo hi : Nat) (up : Bool) : Ranges :=
    (Ranges.inter rs [(lo, hi)]).map fun (a, b) =>
      if up then (a + 0x20, b + 0x20) else (a - 0x20, b - 0x20)
  Ranges.normalize (rs ++ shift 0x41 0x5A true ++ shift 0x61 0x7A false)

/-! ## Classes -/

/-- The characters of a class that goes by a name between colons. -/
def AsciiClass.ranges : AsciiClass → Ranges
  | .alnum => [(0x30, 0x39), (0x41, 0x5a), (0x61, 0x7a)]
  | .alpha => [(0x41, 0x5a), (0x61, 0x7a)]
  | .ascii => [(0, 0x7f)]
  | .blank => [(0x9, 0x9), (0x20, 0x20)]
  | .cntrl => [(0, 0x1f), (0x7f, 0x7f)]
  | .digit => [(0x30, 0x39)]
  | .graph => [(0x21, 0x7e)]
  | .lower => [(0x61, 0x7a)]
  | .print => [(0x20, 0x7e)]
  | .punct => [(0x21, 0x2f), (0x3a, 0x40), (0x5b, 0x60), (0x7b, 0x7e)]
  | .space => [(0x9, 0xd), (0x20, 0x20)]
  | .upper => [(0x41, 0x5a)]
  | .word => [(0x30, 0x39), (0x41, 0x5a), (0x5f, 0x5f), (0x61, 0x7a)]
  | .xdigit => [(0x30, 0x39), (0x41, 0x46), (0x61, 0x66)]

/-- The characters of a shorthand class. -/
def Shorthand.ranges (kind : Shorthand) (unicode : Bool) : Ranges :=
  match kind, unicode with
  | .digit, true => digits
  | .space, true => whiteSpace
  | .word, true => wordCharacters
  | .digit, false => AsciiClass.digit.ranges
  | .space, false => AsciiClass.space.ranges
  | .word, false => AsciiClass.word.ranges

/-- A set, with its case folded if that is switched on, and then turned over if it is negated. -/
def foldAndNegate (f : Flags) (negated : Bool) (rs : Ranges) : Ranges :=
  let folded :=
    if f.ignoreCase then (if f.unicode then foldCase rs else foldCaseAscii rs) else rs
  if negated then Ranges.complement folded else folded

/-- The set, unless it goes beyond ASCII where single bytes are matched. -/
def wholeCharacters (f : Flags) (rs : Ranges) : Option Ranges :=
  if f.unicode || rs.all (fun (_, hi) => hi < 0x80) then some rs else none

/-- The characters of a shorthand class or its complement. -/
def shorthandSet (f : Flags) (kind : Shorthand) (negated : Bool) : Ranges :=
  let rs := kind.ranges f.unicode
  if negated then Ranges.complement rs else rs

/-- The characters of a class of the character database. -/
def unicodeSet (f : Flags) (name : UnicodeName) (negated : Bool) : Option Ranges :=
  if f.unicode then
    (match name with
      | .alone n => lookup n
      | .value p v => lookupValue p v).map (foldAndNegate f negated)
  else none

/-- Two sets put together by an operator. -/
def SetOperator.apply : SetOperator → Ranges → Ranges → Ranges
  | .intersection, a, b => Ranges.inter a b
  | .difference, a, b => Ranges.diff a b
  | .symmetricDifference, a, b => Ranges.symDiff a b

mutual

/-- The characters of an item between brackets.  Where single bytes are matched, a character
beyond ASCII can only be given as a byte. -/
def ClassItem.ranges (f : Flags) : ClassItem → Option Ranges
  | .char c s =>
    if f.unicode || c.toNat < 0x80 || s = .byte then some [(c.toNat, c.toNat)] else none
  | .range lo hi byte =>
    if f.unicode || hi.toNat < 0x80 || byte then some [(lo.toNat, hi.toNat)] else none
  | .shorthand kind negated => some (shorthandSet f kind negated)
  | .ascii kind negated => some (foldAndNegate f negated kind.ranges)
  | .unicode name negated => unicodeSet f name negated
  | .nested negated body => (body.ranges f).map (foldAndNegate f negated)

/-- The characters of a set. -/
def ClassSet.ranges (f : Flags) : ClassSet → Option Ranges
  | .items list => ClassItem.allRanges f list
  | .operation op lhs rhs =>
    match lhs.ranges f, rhs.ranges f with
    | some a, some b => some (op.apply (foldAndNegate f false a) (foldAndNegate f false b))
    | _, _ => none

/-- The characters of any of the items. -/
def ClassItem.allRanges (f : Flags) : List ClassItem → Option Ranges
  | [] => some []
  | i :: rest =>
    match i.ranges f, ClassItem.allRanges f rest with
    | some a, some b => some (a ++ b)
    | _, _ => none

end

/-! ## Expressions -/

/-- One character, or those that differ from it by case only if case is ignored. -/
def charSet (f : Flags) (c : Char) : Ranges :=
  let single : Ranges := [(c.toNat, c.toNat)]
  if f.ignoreCase then
    if f.unicode then foldCase single
    else if c.toNat < 0x80 then foldCaseAscii single
    else single
  else single

/-- The characters that a dot stands for. -/
def dotSet (f : Flags) : Ranges :=
  if f.dotAll then [(0, maxCode)]
  else if f.crlf then Ranges.complement [(0xa, 0xa), (0xd, 0xd)]
  else Ranges.complement [(0xa, 0xa)]

/-- The condition of an anchor. -/
def Anchor.condition (f : Flags) : Anchor → Condition
  | .caret =>
    if f.multiLine then (if f.crlf then .lineStartCrlf else .lineStart) else .textStart
  | .dollar =>
    if f.multiLine then (if f.crlf then .lineEndCrlf else .lineEnd) else .textEnd
  | .textStart => .textStart
  | .textEnd => .textEnd
  | .wordBoundary => .wordBoundary (!f.unicode)
  | .notWordBoundary => .notWordBoundary (!f.unicode)
  | .wordStart => .wordStart (!f.unicode)
  | .wordEnd => .wordEnd (!f.unicode)
  | .wordStartHalf => .wordStartHalf (!f.unicode)
  | .wordEndHalf => .wordEndHalf (!f.unicode)

/-- The meaning of an expression under the flags `f`, with the flags that hold after it. -/
def Expression.meaning (f : Flags) : Expression → Option (Regex × Flags)
  | .empty => some (.empty, f)
  | .literal c s =>
    if !f.unicode && s = .byte && 0x80 ≤ c.toNat then none
    else some (.chars (charSet f c), f)
  | .dot => if f.unicode then some (.chars (dotSet f), f) else none
  | .anchor a => some (.condition (a.condition f), f)
  | .shorthand kind negated =>
    (wholeCharacters f (shorthandSet f kind negated)).map fun rs => (.chars rs, f)
  | .unicode name negated => (unicodeSet f name negated).map fun rs => (.chars rs, f)
  | .bracket negated body => do
    let rs ← body.ranges f
    let rs ← wholeCharacters f (foldAndNegate f negated rs)
    return (.chars rs, f)
  | .setFlags changes => some (.empty, f.changes changes)
  | .group .numbered body => (body.meaning f).map fun (r, _) => (r, f)
  | .group (.named name) body => (body.meaning f).map fun (r, _) => (.capture name r, f)
  | .group (.flags changes) body => (body.meaning (f.changes changes)).map fun (r, _) => (r, f)
  | .repeated body count lazy =>
    (body.meaning f).map fun (r, f') => (.rep r count.min count.max (lazy != f'.swapGreed), f')
  | .sequence first rest => do
    let (a, f) ← first.meaning f
    let (b, f) ← rest.meaning f
    return (.seq a b, f)
  | .either first second => do
    let (a, f) ← first.meaning f
    let (b, f) ← second.meaning f
    return (.alt a b, f)

end TypeSchema.Regex
