import TypeSchema.Double
import TypeSchema.Fields

/-!
# JSON values

Values keep the order in which the fields of an object were written.  A number is a whole number
of 64 bits, with or without sign, or else a double.
-/

namespace TypeSchema

/-- A JSON number. -/
inductive Json.Number where
  | int (i : Int)
  | float (d : Double)
deriving DecidableEq, Repr, Inhabited

/-- A JSON value. -/
inductive Json where
  | null
  | bool (b : Bool)
  | number (n : Json.Number)
  | string (s : String)
  | array (items : List Json)
  | object (fields : List (String × Json))
deriving Repr, Inhabited

namespace Json

/-- The number as a double. -/
def Number.toDouble : Number → Double
  | .int i => Double.ofInt i
  | .float d => d

/-- The whole number `i`. -/
def ofInt (i : Int) : Json := .number (.int i)

/-- The whole number `n`. -/
def ofNat (n : Nat) : Json := .number (.int n)

/-- The double `d`, or null for what is no finite number. -/
def ofDouble (d : Double) : Json :=
  if d.isFinite then .number (.float d) else .null

/-- The value of a field of an object. -/
def get? (j : Json) (name : String) : Option Json :=
  match j with
  | .object fields => Fields.find? name fields
  | _ => none

/-- Put a field in its place, or at the end if no field has its name. -/
def setField (fields : List (String × Json)) (name : String) (v : Json) :
    List (String × Json) :=
  match fields with
  | [] => [(name, v)]
  | (n, w) :: rest => if n = name then (n, v) :: rest else (n, w) :: setField rest name v

mutual

/-- The value with each field named once: the first mention gives the place, the last one the
value. -/
def distinct : Json → Json
  | .array items => .array (distinctItems items)
  | .object fields => .object (distinctFields [] fields)
  | j => j

/-- The items, each with its fields named once. -/
def distinctItems : List Json → List Json
  | [] => []
  | j :: rest => distinct j :: distinctItems rest

/-- The fields `done`, joined by those still to be placed. -/
def distinctFields (done : List (String × Json)) : List (String × Json) → List (String × Json)
  | [] => done
  | (n, v) :: rest => distinctFields (setField done n (distinct v)) rest

end

end Json

end TypeSchema
