/-!
# Integers of 64 bits

The range of integers that fit into 64 bits, with a sign and without one.
-/

namespace CourseReview.Decimal

/-- The least positive integer that does not fit into 64 bits with a sign, the 63rd power of two. -/
def int64Limit : Nat := 0x8000000000000000

/-- The least positive integer that does not fit into 64 bits without a sign. -/
def nat64Limit : Nat := 2 * int64Limit

/-- Whether the integer fits into 64 bits with a sign. -/
def fitsInt64 (n : Int) : Bool :=
  -(int64Limit : Int) ≤ n && n < int64Limit

/-- Whether the integer fits into 64 bits without a sign. -/
def fitsNat64 (n : Int) : Bool :=
  0 ≤ n && n < nat64Limit

end CourseReview.Decimal
