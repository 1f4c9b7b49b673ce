import CourseReview.Keyed
import CourseReview.Decimal.Binary64
import CourseReview.Decimal.Int64

/-!
# JSON values

The values exchanged with the review server and kept as the payload of a node.  Integers from
`-2 ^ 63` to `2 ^ 64 - 1` are exact; every other number is a 64-bit floating-point number.  The
members of an object keep the order in which their names first appeared.
-/

namespace CourseReview

open Decimal (Binary64)

/-- A JSON number. -/
inductive JsonNumber where
  | int (value : Int)
  | real (value : Binary64)
deriving DecidableEq, Repr

/-- A JSON value. -/
inductive Json where
  | null
  | bool (value : Bool)
  | number (value : JsonNumber)
  | string (value : String)
  | array (items : List Json)
  | object (members : List (String × Json))
deriving Inhabited, Repr

namespace Json

/-- The integer as a JSON number. -/
def ofInt (n : Int) : Json :=
  .number (.int n)

/-- The natural number as a JSON number. -/
def ofNat (n : Nat) : Json :=
  ofInt n

/-- A present value as itself, an absent one as `null`. -/
def ofOption {α : Type} (write : α → Json) : Option α → Json
  | some a => write a
  | none => .null

/-- The member of that name, if the value is an object that has one. -/
def member? (name : String) : Json → Option Json
  | .object members => Keyed.get? name members
  | _ => none

/-- The text, if the value is a string. -/
def string? : Json → Option String
  | .string s => some s
  | _ => none

end Json

/-- Whether two numbers are the same number of the same sort. -/
def JsonNumber.same : JsonNumber → JsonNumber → Bool
  | .int a, .int b => a == b
  | .real a, .real b => a.same b
  | _, _ => false

namespace Json

mutual

/-- Whether two values are equal when the order of members does not count. -/
def same : Json → Json → Bool
  | .null, .null => true
  | .bool a, .bool b => a == b
  | .number a, .number b => a.same b
  | .string a, .string b => a == b
  | .array xs, .array ys => sameItems xs ys
  | .object ms, .object ns => ms.length == ns.length && sameMembers ms ns
  | _, _ => false

/-- Whether two lists agree item by item. -/
def sameItems : List Json → List Json → Bool
  | [], [] => true
  | x :: xs, y :: ys => x.same y && sameItems xs ys
  | _, _ => false

/-- Whether every member on the left has an equal member of its name on the right. -/
def sameMembers : List (String × Json) → List (String × Json) → Bool
  | [], _ => true
  | (name, value) :: rest, ns =>
    (match Keyed.get? name ns with
      | some other => value.same other
      | none => false) && sameMembers rest ns

end

end Json

end CourseReview
