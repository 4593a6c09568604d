import TypeSchema.Json

/-!
# Comparing JSON values

Numbers are compared by their exact value, however they are written, and objects without regard to
the order of their fields.
-/

namespace TypeSchema.Json

/-- A number as a ratio. -/
def Number.ratio : Number → Int × Nat
  | .int i => (i, 1)
  | .float d => (if d.negative then -(d.ratio.1 : Int) else d.ratio.1, d.ratio.2)

/-- The first number is less. -/
def Number.lt (a b : Number) : Bool :=
  a.ratio.1 * b.ratio.2 < b.ratio.1 * a.ratio.2

/-- The numbers have one value. -/
def Number.same (a b : Number) : Bool :=
  a.ratio.1 * b.ratio.2 = b.ratio.1 * a.ratio.2

/-- The number has no fraction. -/
def Number.isWhole : Number → Bool
  | .int _ => true
  | .float d => d.isWhole

mutual

/-- The values are equal. -/
def same : Json → Json → Bool
  | .null, .null => true
  | .bool a, .bool b => a == b
  | .number a, .number b => a.same b
  | .string a, .string b => a == b
  | .array as, .array bs => sameItems as bs
  | .object as, .object bs => as.length == bs.length && sameFields as bs
  | _, _ => false

/-- The items are equal one by one. -/
def sameItems : List Json → List Json → Bool
  | [], [] => true
  | a :: as, b :: bs => same a b && sameItems as bs
  | _, _ => false

/-- Each field is equal to the one of its name among others. -/
def sameFields : List (String × Json) → List (String × Json) → Bool
  | [], _ => true
  | (n, a) :: as, bs => (Fields.find? n bs).any (same a) && sameFields as bs

end

end TypeSchema.Json
