/-!
# Sets of code points

A set of code points is a list of ranges.  The operations accept any list and give back ranges in
ascending order with gaps between them.
-/

namespace TypeSchema.Unicode

/-- A set of code points, by the first and the last code point of each range. -/
abbrev Ranges := List (Nat × Nat)

/-- The greatest code point. -/
def maxCode : Nat := 0x10FFFF

namespace Ranges

/-- The code point is in the set. -/
def has (rs : Ranges) (n : Nat) : Bool :=
  rs.any fun (lo, hi) => lo ≤ n && n ≤ hi

/-- Every other code point from `lo` to `hi`. -/
def everyOther (lo hi : Nat) : Ranges :=
  (List.range ((hi - lo) / 2 + 1)).map fun i => (lo + 2 * i, lo + 2 * i)

/-- Ascending ranges with those that touch put together. -/
def join : Ranges → Ranges
  | [] => []
  | [r] => [r]
  | (a, b) :: (c, d) :: rest =>
    if c ≤ b + 1 then join ((a, max b d) :: rest) else (a, b) :: join ((c, d) :: rest)
termination_by rs => rs.length

/-- The same set, in ascending order and with gaps between the ranges. -/
def normalize (rs : Ranges) : Ranges :=
  join ((rs.filter fun (lo, hi) => lo ≤ hi).mergeSort fun a b => a.1 ≤ b.1)

/-- The code points of either set. -/
def union (a b : Ranges) : Ranges := normalize (a ++ b)

/-- The code points from `lo` on that are in none of the ascending ranges. -/
def gaps (lo : Nat) : Ranges → Ranges
  | [] => if lo ≤ maxCode then [(lo, maxCode)] else []
  | (a, b) :: rest => if lo < a then (lo, a - 1) :: gaps (b + 1) rest else gaps (b + 1) rest

/-- The code points that are not in the set. -/
def complement (rs : Ranges) : Ranges := gaps 0 (normalize rs)

/-- The code points of both sets. -/
def inter (a b : Ranges) : Ranges :=
  normalize (a.flatMap fun (l, h) => b.map fun (l', h') => (max l l', min h h'))

/-- The code points of the first set only. -/
def diff (a b : Ranges) : Ranges := inter a (complement b)

/-- The code points of exactly one of the sets. -/
def symDiff (a b : Ranges) : Ranges := union (diff a b) (diff b a)

end Ranges

end TypeSchema.Unicode
