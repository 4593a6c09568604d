import TypeSchema.Double.Reading
import TypeSchema.Text.Case
import TypeSchema.TextForm.Basic
import TypeSchema.ValueType.Validation

/-!
# Reading texts

The value that a text stands for.  The first form that the text has decides: if its value cannot be
read or is not of the type, no further form is tried.  Years of two digits belong to the current
century.

A fraction of a second is cut to nine bytes, and a run that would have to cut within a character
for that breaks off.
-/

namespace TypeSchema

/-- How reading a text fails. -/
inductive TextForm.Failure (ε : Type) where
  /-- With something to report. -/
  | refused (e : ε)
  /-- The run breaks off. -/
  | brokenOff
deriving DecidableEq, Repr

namespace TextForm

/-- What fails with something to report, and never breaks off. -/
def orRefused {ε α : Type} (x : Except ε α) : Except (Failure ε) α := x.mapError .refused

open Regex (Captures)

/-- The numeral that a part of the text holds, zero if the part is left out. -/
def natPart (limit : Nat) (caps : Captures) (name : String) : Except TextFault Nat :=
  match caps.get? name with
  | none => .ok 0
  | some ds => (Numeral.readNat limit ds).mapError (.part name (String.ofList ds))

/-- The numeral with a sign that a part of the text holds, zero if the part is left out. -/
def intPart (limit : Nat) (caps : Captures) (name : String) : Except TextFault Int :=
  match caps.get? name with
  | none => .ok 0
  | some ds => (Numeral.readInt limit ds).mapError (.part name (String.ofList ds))

/-- The number of bytes that characters take. -/
def byteLength (cs : List Char) : Nat := cs.foldr (fun c n => c.utf8Size + n) 0

/-- The first `n` bytes of characters, all of them if they take no more; `none` if a character
would be cut in two. -/
def cutBytes (n : Nat) : List Char → Option (List Char)
  | [] => some []
  | c :: cs =>
    if n = 0 then some []
    else if c.utf8Size ≤ n then (cutBytes (n - c.utf8Size) cs).map (c :: ·)
    else none

/-- The digits of a fraction with zeros up to nine bytes. -/
def padFraction (cs : List Char) : List Char :=
  cs ++ List.replicate (9 - byteLength cs) '0'

/-- The nanoseconds of a fraction of a second. -/
def nanosPart (caps : Captures) : Except (Failure TextFault) Nat :=
  match caps.get? "fraction" with
  | none => .ok 0
  | some ds =>
    match cutBytes 9 ds with
    | none => .error .brokenOff
    | some ds => orRefused ((Numeral.readNat Numeral.max32 (padFraction ds)).mapError .fraction)

/-- The first year of the century that a year as written belongs to. -/
def centuryOf (century : Int) (caps : Captures) : Int :=
  match caps.get? "year" with
  | some ds => if byteLength ds = 2 then century else 0
  | none => 0

/-- The date that the parts of a text name. -/
def readDate (century : Int) (caps : Captures) : Except TextFault Date := do
  let year ← intPart Numeral.max31 caps "year"
  let year := year + centuryOf century caps
  let month ← natPart Numeral.max32 caps "month"
  let day ← natPart Numeral.max32 caps "day"
  match Date.ofParts? year month day with
  | some d => return d
  | none => throw (.notADate year month day)

/-- The time that the parts of a text name. -/
def readTime (caps : Captures) : Except (Failure TextFault) Time := do
  let hour ← orRefused (natPart Numeral.max32 caps "hour")
  let minute ← orRefused (natPart Numeral.max32 caps "minute")
  let second ← orRefused (natPart Numeral.max32 caps "second")
  let nano ← nanosPart caps
  match Time.ofParts? hour minute second nano with
  | some t => return t
  | none => throw (.refused (.notATime hour minute second))

/-- The duration that the parts of a text name. -/
def readDuration (caps : Captures) : Except (Failure TextFault) Duration := do
  let days ← orRefused (intPart Numeral.max63 caps "days")
  let hours ← orRefused (intPart Numeral.max63 caps "hours")
  let minutes ← orRefused (intPart Numeral.max63 caps "minutes")
  let seconds ← orRefused (intPart Numeral.max63 caps "seconds")
  let nanos ← nanosPart caps
  let total := days * 86400 + (hours * 3600 + minutes * 60 + seconds)
  let magnitude := total * nanosPerSecond + nanos
  match Duration.ofNanos? (if (caps.get? "sign").isSome then -magnitude else magnitude) with
  | some d => return d
  | none => throw (.refused .durationRange)

/-- The place of the accepted text that a text is: the same one if there is one, and else the first
that differs by case only. -/
def placeOf (accepted : List String) (text : String) : Option Nat :=
  (accepted.findIdx? (· = text)).or (accepted.findIdx? (Text.lower · = Text.lower text))

/-- A guid without the braces around it. -/
def unbraced (cs : List Char) : List Char :=
  (((cs.dropWhile (· = '\x7b')).reverse).dropWhile (· = '\x7d')).reverse

/-- The value of a text that has the form, from what the groups of the match hold. -/
def Reader.read (century : Int) (r : Reader) (caps : Captures) (text : String) :
    Except (Failure TextFault) Value :=
  match r with
  | .bool b => .ok (.bool b)
  | .int => match Numeral.readInt Numeral.max63 text.toList with
    | .ok i => .ok (.int (Int64.ofInt i))
    | .error f => .error (.refused (.int f))
  | .number => match Double.ofChars text.toList with
    | .ok d => .ok (.float d)
    | .error f => .error (.refused (.number f))
  | .string => .ok (.string text)
  | .enumeration accepted values =>
    match (placeOf accepted text).bind (values[·]?) with
    | some v => .ok (.string v)
    | none => .error (.refused (.notOneOf text))
  | .date => orRefused ((readDate century caps).map .date)
  | .time => (readTime caps).map .time
  | .dateTime => do return .dateTime ⟨← orRefused (readDate century caps), ← readTime caps⟩
  | .duration => (readDuration caps).map .duration
  | .guid => match Guid.ofChars (unbraced text.toList) with
    | .ok g => .ok (.guid g)
    | .error f => .error (.refused (.guid f))
  | .uri => match Uri.ofChars text.toList with
    | .ok u => .ok (.uri u)
    | .error f => .error (.refused (.uri f))
  | .path => .ok (.path ⟨text⟩)

/-- What the value is read from besides the text itself: nothing, unless the form has parts. -/
def Reader.hasParts : Reader → Bool
  | .date => true
  | .time => true
  | .dateTime => true
  | .duration => true
  | _ => false

/-- What the parts of a text hold if it has the form. -/
def captures? (f : TextForm) (text : String) : Option Captures :=
  if f.reader.hasParts then f.regex.captures? text
  else if f.isMatch text then some []
  else none

/-- The first form that a text has, with what its parts hold. -/
def firstMatch (text : String) : List TextForm → Option (TextForm × Captures)
  | [] => none
  | f :: rest =>
    match f.captures? text with
    | some caps => some (f, caps)
    | none => firstMatch text rest

end TextForm

/-- The value of a type that a text stands for. -/
def ValueType.readText (files : FileTree) (century : Int) (t : ValueType) (text : String) :
    Except (TextForm.Failure SchemaError) Value := do
  let forms ← TextForm.orRefused t.textForms
  let reject (f : TextFault) : TextForm.Failure SchemaError :=
    .refused (.stringFormat t.kind.keyword text f .api)
  match TextForm.firstMatch text forms with
  | none => throw (reject .noAlternative)
  | some (form, caps) =>
    match form.reader.read century caps text with
    | .error (.refused f) => throw (reject f)
    | .error .brokenOff => throw .brokenOff
    | .ok v =>
      match t.validateItem files v with
      | .ok _ => return v
      | .error r => throw (reject (.rejected r.reason))

end TypeSchema
