import TypeSchema.Fields
import TypeSchema.FileTree
import TypeSchema.ValueType.Constraints

/-!
# Validation

Whether a value is of a type.  The arity is checked first, then every item against the kind and the
check from outside.  The first thing that is wrong is reported, with the way to it from the value.
-/

namespace TypeSchema

/-- A check of a value. -/
abbrev Checked := Except Rejection Unit

/-- Reject a value of the wrong type. -/
def mismatch (expected : String) (v : Value) : Checked :=
  .error (.here (.mismatch expected v.typeName))

/-- The number of items is within the arity. -/
def Arity.checkCount (a : Arity) (n : Nat) : Checked :=
  if a.accepts n then .ok ()
  else if n < a.min.toNat then .error (.here (.tooFew a.min.toNat n))
  else .error (.here (.tooMany ((a.max.map UInt32.toNat).getD Numeral.max32) n))

/-- A value has the shape that an arity asks for: nothing only where no item is required, a list
exactly where there may be several items. -/
def Arity.check (a : Arity) (v : Value) : Checked :=
  match v with
  | .null => if a.min = 0 then .ok () else .error (.here (.required a))
  | .list items => if a.isCollection then a.checkCount items.length else .error (.here (.notSingle a))
  | v => if a.isCollection then .error (.here (.notCollection a v.typeName)) else .ok ()

/-- The integer is within bounds and width. -/
def IntLimits.accept (l : IntLimits) (v : Int64) : Checked := do
  match l.min with
  | some min => if v < min then throw (.here (.intBelow v min))
  | none => pure ()
  match l.max with
  | some max => if max < v then throw (.here (.intAbove v max))
  | none => pure ()
  match l.widthBounds with
  | some (lo, hi) =>
    if v < lo ∨ hi < v then throw (.here (.tooWide v ((l.bytes.map UInt8.toNat).getD 0)))
  | none => pure ()

/-- The number is finite and within bounds. -/
def NumberLimits.accept (l : NumberLimits) (v : Double) : Checked := do
  if !v.isFinite then throw (.here (.notFinite v))
  match l.min with
  | some min => if v.lt min then throw (.here (.numberBelow v min))
  | none => pure ()
  match l.max with
  | some max => if max.lt v then throw (.here (.numberAbove v max))
  | none => pure ()

/-- The string has the right length and matches the pattern. -/
def StringLimits.accept (l : StringLimits) (s : String) : Checked := do
  let length := s.length
  if length < l.minLength.toNat then throw (.here (.tooShort length l.minLength.toNat))
  match l.maxLength with
  | some max => if max.toNat < length then throw (.here (.tooLong length max.toNat))
  | none => pure ()
  match l.expression with
  | some p => if !p.isFullMatch s then throw (.here (.noMatch s p.source))
  | none => pure ()

/-- The string is one of the values. -/
def EnumLimits.accept (l : EnumLimits) (s : String) : Checked :=
  if s ∈ l.values then .ok () else .error (.here (.notOneOf s l.values))

/-- The path leads to what is asked for. -/
def FilenameLimits.accept (files : FileTree) (l : FilenameLimits) (p : Path) : Checked :=
  if !l.ensureExists then .ok ()
  else if l.matchAny then
    if files.hasPath p then .ok () else .error (.here (.notThere p .path))
  else if files.isFile p then .ok ()
  else .error (.here (.notThere p .file))

/-- The path leads to a directory, if that is asked for. -/
def acceptDirectory (files : FileTree) (ensureExists : Bool) (p : Path) : Checked :=
  if ensureExists && !files.isDirectory p then .error (.here (.notThere p .directory)) else .ok ()

/-- The check from outside accepts the value. -/
def Hook.accept (hook : Option Hook) (v : Value) : Checked :=
  match hook with
  | none => .ok ()
  | some h =>
    match h.check v with
    | .ok _ => .ok ()
    | .error message => .error (.here (.other message))

/-- No field is without a member, if only members are allowed. -/
def checkExtra (members : List Member) (exact : Bool) (fields : List (String × Value)) : Checked :=
  if exact then
    match fields.find? fun f => (Member.find? f.1 members).isNone with
    | some (name, _) => .error (.here (.notMember name))
    | none => .ok ()
  else .ok ()

/-- Check items one after the other; a rejection leads through the place of its item. -/
def checkItems (check : Value → Checked) (i : Nat) : List Value → Checked
  | [] => .ok ()
  | v :: rest =>
    match check v with
    | .ok _ => checkItems check (i + 1) rest
    | .error r => .error (r.within (Numeral.ofNat i))

mutual

/-- The value is of the type. -/
def ValueType.validate (files : FileTree) : ValueType → Value → Checked
  | .mk kind arity hook, v => do
    arity.check v
    let item (v : Value) : Checked := do
      kind.accept files v
      Hook.accept hook v
    match v with
    | .null => return ()
    | .list items => if arity.isCollection then checkItems item 0 items else item (.list items)
    | v => item v

/-- A single value is of the kind. -/
def Kind.accept (files : FileTree) : Kind → Value → Checked
  | .bool, v => match v with
    | .bool _ => .ok ()
    | v => mismatch "bool" v
  | .int l, v => match v with
    | .int i => l.accept i
    | v => mismatch "int" v
  | .number l, v => match v with
    | .float d => l.accept d
    | .int i => l.accept (Double.ofInt i.toInt)
    | v => mismatch "number" v
  | .string l, v => match v with
    | .string s => l.accept s
    | v => mismatch "string" v
  | .enumeration l, v => match v with
    | .string s => l.accept s
    | v => mismatch "enum value" v
  | .date, v => match v with
    | .date _ => .ok ()
    | v => mismatch "date" v
  | .time, v => match v with
    | .time _ => .ok ()
    | v => mismatch "time" v
  | .dateTime, v => match v with
    | .dateTime _ => .ok ()
    | v => mismatch "datetime" v
  | .duration, v => match v with
    | .duration _ => .ok ()
    | v => mismatch "duration" v
  | .guid, v => match v with
    | .guid _ => .ok ()
    | v => mismatch "guid" v
  | .uri, v => match v with
    | .uri _ => .ok ()
    | v => mismatch "uri" v
  | .filename l, v => match v with
    | .path p => l.accept files p
    | v => mismatch "filename" v
  | .directory e, v => match v with
    | .path p => acceptDirectory files e p
    | v => mismatch "directory" v
  | .object members exact, v => match v with
    | .object fields => do
      Member.acceptAll files members fields
      checkExtra members exact fields
    | v => mismatch "object" v
  | .dict members exact, v => match v with
    | .map fields => do
      Member.acceptAll files members fields
      checkExtra members exact fields
    | v => mismatch "map" v
  | .anyOf alternatives, v => ValueType.acceptAny files [] alternatives v

/-- Every member accepts the field of its name, or nothing where there is none. -/
def Member.acceptAll (files : FileTree) : List Member → List (String × Value) → Checked
  | [], _ => .ok ()
  | .mk name type :: rest, fields =>
    match type.validate files ((Fields.find? name fields).getD .null) with
    | .ok _ => Member.acceptAll files rest fields
    | .error r => .error (r.within name)

/-- One of the alternatives accepts the value; `reasons` are those of the alternatives before, the
latest first. -/
def ValueType.acceptAny (files : FileTree)
    (reasons : List (String × List String × Rejection.Reason)) :
    List ValueType → Value → Checked
  | [], _ => .error (.here (.noAlternative reasons.reverse))
  | t :: rest, v =>
    match t.validate files v with
    | .ok _ => .ok ()
    | .error r => ValueType.acceptAny files ((t.kind.keyword, r.path, r.reason) :: reasons) rest v

end

/-- A single value is of the type, its arity apart. -/
def ValueType.validateItem (files : FileTree) (t : ValueType) (v : Value) : Checked := do
  t.kind.accept files v
  Hook.accept t.hook v

/-- A value has the shape that the arity of the type asks for. -/
def ValueType.validateArity (t : ValueType) (v : Value) : Checked := t.arity.check v

/-- The type accepts the value. -/
def ValueType.accepts (files : FileTree) (t : ValueType) (v : Value) : Bool :=
  match t.validate files v with
  | .ok _ => true
  | .error _ => false

end TypeSchema
