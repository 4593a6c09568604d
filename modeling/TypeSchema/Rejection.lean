import TypeSchema.Arity
import TypeSchema.Double.Shortest
import TypeSchema.Path

/-!
# Rejections

Why a value is not of a type, and where in the value the culprit is.
-/

namespace TypeSchema

/-- What was looked for at a path. -/
inductive Rejection.Place where
  | path
  | file
  | directory
deriving DecidableEq, Repr

/-- Why a value is rejected. -/
inductive Rejection.Reason where
  | required (arity : Arity)
  | notCollection (arity : Arity) (found : String)
  | notSingle (arity : Arity)
  | tooFew (bound : Nat) (found : Nat)
  | tooMany (bound : Nat) (found : Nat)
  | mismatch (expected found : String)
  | intBelow (v min : Int64)
  | intAbove (v max : Int64)
  | tooWide (v : Int64) (bytes : Nat)
  | notFinite (v : Double)
  | numberBelow (v min : Double)
  | numberAbove (v max : Double)
  | tooShort (length min : Nat)
  | tooLong (length max : Nat)
  | noMatch (s source : String)
  | notOneOf (s : String) (values : List String)
  | notThere (p : Path) (place : Rejection.Place)
  | notMember (name : String)
  /-- For each alternative its kind, and where and why it rejects the value. -/
  | noAlternative (reasons : List (String × List String × Rejection.Reason))
  | yearForm (year : Int)
  /-- A reason given from outside. -/
  | other (message : String)

/-- A value is not of a type; the segments lead from the value to the culprit. -/
structure Rejection where
  path : List String
  reason : Rejection.Reason

namespace Rejection

/-- The word for what was looked for. -/
def Place.word : Place → String
  | .path => "path"
  | .file => "file"
  | .directory => "directory"

/-- A path of segments, each behind a slash. -/
def pathText (segments : List String) : String :=
  String.join (segments.map ("/" ++ ·))

/-- A reason behind the path it belongs to. -/
def located (segments : List String) (message : String) : String :=
  if segments.isEmpty then message else pathText segments ++ ": " ++ message

/-- A text between double quotes, as it stands. -/
def inQuotes (s : String) : String := "\"" ++ s ++ "\""

mutual

/-- The wording of a reason. -/
def Reason.message : Reason → String
  | .required a => "a value is required (arity " ++ a.text ++ ")"
  | .notCollection a found =>
    "expected a collection (arity " ++ a.text ++ "), got " ++ found
  | .notSingle a => "expected a single value (arity " ++ a.text ++ "), got a list"
  | .tooFew bound found =>
    "expected at least " ++ Numeral.ofNat bound ++ " item(s), got " ++ Numeral.ofNat found
  | .tooMany bound found =>
    "expected at most " ++ Numeral.ofNat bound ++ " item(s), got " ++ Numeral.ofNat found
  | .mismatch expected found => "expected " ++ expected ++ ", got " ++ found
  | .intBelow v min => Numeral.ofInt v.toInt ++ " is less than " ++ Numeral.ofInt min.toInt
  | .intAbove v max => Numeral.ofInt v.toInt ++ " is greater than " ++ Numeral.ofInt max.toInt
  | .tooWide v bytes =>
    Numeral.ofInt v.toInt ++ " does not fit in " ++ Numeral.ofNat bytes ++ " byte(s)"
  | .notFinite v => v.text ++ " is not a finite number"
  | .numberBelow v min => v.text ++ " is less than " ++ min.text
  | .numberAbove v max => v.text ++ " is greater than " ++ max.text
  | .tooShort length min =>
    Numeral.ofNat length ++ " character(s) found; at least " ++ Numeral.ofNat min ++ " expected"
  | .tooLong length max =>
    Numeral.ofNat length ++ " character(s) found; at most " ++ Numeral.ofNat max ++ " expected"
  | .noMatch s source => inQuotes s ++ " does not match " ++ inQuotes source
  | .notOneOf s values => inQuotes s ++ " is not one of " ++ ", ".intercalate values
  | .notThere p place => inQuotes p.text ++ " is not a valid " ++ place.word
  | .notMember name => inQuotes name ++ " is not a member"
  | .noAlternative reasons =>
    "no alternative accepted the value (" ++ alternativesMessage reasons ++ ")"
  | .yearForm year => "year " ++ Numeral.ofInt year ++ " has no four-digit text form"
  | .other message => message

/-- The wording of the reasons of alternatives, with semicolons between them. -/
def alternativesMessage : List (String × List String × Reason) → String
  | [] => ""
  | [(kind, segments, r)] => kind ++ ": " ++ located segments r.message
  | (kind, segments, r) :: rest =>
    kind ++ ": " ++ located segments r.message ++ "; " ++ alternativesMessage rest

end

/-- A rejection of the value as a whole. -/
def here (r : Reason) : Rejection := ⟨[], r⟩

/-- The rejection as seen from what encloses the value. -/
def within (segment : String) (r : Rejection) : Rejection := ⟨segment :: r.path, r.reason⟩

/-- The text of a rejection. -/
def text (r : Rejection) : String := located r.path r.reason.message

end Rejection

end TypeSchema
