import CourseReview.Json.Basic
import CourseReview.Decimal.Shortest
import CourseReview.Text.Quoted

/-!
# Decoding typed values from JSON

What it takes for a JSON value to stand for a text, a flag, an integer, an optional value, a list,
a keyed collection or a record, and the reasons for which it does not.

A record may be given by name, as an object, or in a row, as an array of its fields in their
declared order.  Fields are decoded in the order of the input, so the first one at fault is
reported; after that an object must have named every needed field, and a row must be long enough
to reach every field that a row needs and, unless the row is open, no longer than the list of
fields.
-/

namespace CourseReview

/-- Why a JSON value does not stand for the value wanted. -/
inductive DecodeError where
  | wrongType (found : Json) (wanted : String)
  | outOfRange (found : Int) (wanted : String)
  | missingField (name : String)
  | tooFewFields (length : Nat) (record : String) (count : Nat)
  | tooManyFields (length : Nat)
  | childList
  | notAChildMap
deriving Repr

namespace DecodeError

/-- A value as messages describe it: its sort, and for a scalar also the value. -/
def describe : Json → String
  | .null => "null"
  | .bool b => "boolean `" ++ toString b ++ "`"
  | .number (.int n) => "integer `" ++ toString n ++ "`"
  | .number (.real x) => "floating point `" ++ x.compactText ++ "`"
  | .string s => "string " ++ Text.quoted s
  | .array _ => "sequence"
  | .object _ => "map"

/-- The wording of the reason. -/
def message : DecodeError → String
  | wrongType found wanted => s!"invalid type: {describe found}, expected {wanted}"
  | outOfRange found wanted =>
    "invalid value: integer `" ++ toString found ++ "`, expected " ++ wanted
  | missingField name => "missing field `" ++ name ++ "`"
  | tooFewFields length record count =>
    s!"invalid length {length}, expected struct {record} with {count} elements"
  | tooManyFields length => s!"invalid length {length}, expected fewer elements in array"
  | childList => "child collection must be an object keyed by local id"
  | notAChildMap => "data did not match any variant of untagged enum Repr"

end DecodeError

/-- The outcome of decoding. -/
abbrev Decoded := Except DecodeError

namespace Json

/-! ## Scalars and collections -/

/-- A text. -/
def decodeString : Json → Decoded String
  | .string s => .ok s
  | j => .error (.wrongType j "a string")

/-- A flag. -/
def decodeBool : Json → Decoded Bool
  | .bool b => .ok b
  | j => .error (.wrongType j "a boolean")

/-- An integer of a range; `sort` is the name of the range. -/
def decodeInt (fits : Int → Bool) (sort : String) : Json → Decoded Int
  | .number (.int n) => if fits n then .ok n else .error (.outOfRange n sort)
  | j => .error (.wrongType j sort)

/-- A signed integer of 64 bits. -/
def decodeInt64 : Json → Decoded Int :=
  decodeInt Decimal.fitsInt64 "i64"

/-- An unsigned integer of 64 bits, under the name that messages give its range. -/
def decodeNat64 (sort : String) (j : Json) : Decoded Nat :=
  (decodeInt Decimal.fitsNat64 sort j).map Int.toNat

/-- An optional value: `null` is its absence. -/
def decodeOption {α : Type} (decode : Json → Decoded α) : Json → Decoded (Option α)
  | .null => .ok none
  | j => (decode j).map some

/-- A list. -/
def decodeList {α : Type} (decode : Json → Decoded α) : Json → Decoded (List α)
  | .array items => items.mapM decode
  | j => .error (.wrongType j "a sequence")

/-- Every value of a keyed collection, in order. -/
def decodeValues {α : Type} (decode : Json → Decoded α) : Keyed Json → Decoded (Keyed α)
  | [] => .ok []
  | (key, value) :: rest => do
    let a ← decode value
    let as ← decodeValues decode rest
    pure ((key, a) :: as)

/-- A keyed collection. -/
def decodeKeyed {α : Type} (decode : Json → Decoded α) : Json → Decoded (Keyed α)
  | .object members => decodeValues decode members
  | j => .error (.wrongType j "a map")

end Json

/-! ## Records -/

/-- The form of a record: its name in messages, its fields in declared order, the fields that an
object has to name, those that a row has to reach, the record before any field is set, how one
named field is set from a JSON value, and whether a row may go on beyond the fields. -/
structure RecordForm (α : Type) where
  name : String
  fields : List String
  needed : List String
  neededInRow : List String
  blank : α
  set : String → Json → α → Decoded α
  openRow : Bool := false

namespace RecordForm

variable {α : Type}

/-- Sets the fields that an object names, in its order; other names are passed over. -/
def setMembers (form : RecordForm α) : Keyed Json → α → Decoded α
  | [], a => .ok a
  | (key, value) :: rest, a => do
    let a ← if key ∈ form.fields then form.set key value a else pure a
    form.setMembers rest a

/-- Sets the fields of a row, one item each. -/
def setItems (form : RecordForm α) : List String → List Json → α → Decoded α
  | field :: fields, value :: rest, a => do
    let a ← form.set field value a
    form.setItems fields rest a
  | _, _, a => .ok a

/-- Refuses an object that does not name every needed field. -/
def checkNamed (form : RecordForm α) (members : Keyed Json) : Decoded Unit :=
  match form.needed.find? (fun field => !Keyed.has field members) with
  | some field => .error (.missingField field)
  | none => .ok ()

/-- The place of the first field that a row of that length had to reach and does not. -/
def firstMissing? (form : RecordForm α) (length : Nat) : Option Nat :=
  ((form.fields.drop length).findIdx? (· ∈ form.neededInRow)).map (length + ·)

/-- Refuses a row that is too short or too long.  A row that is too short counts as going up to the
field that it had to reach. -/
def checkLength (form : RecordForm α) (length : Nat) : Decoded Unit :=
  match form.firstMissing? length with
  | some place => .error (.tooFewFields place form.name form.fields.length)
  | none =>
    if !form.openRow && form.fields.length < length then .error (.tooManyFields length) else .ok ()

/-- Decodes a record. -/
def decode (form : RecordForm α) : Json → Decoded α
  | .object members => do
    let a ← form.setMembers members form.blank
    form.checkNamed members
    pure a
  | .array items => do
    let a ← form.setItems form.fields items form.blank
    form.checkLength items.length
    pure a
  | j => .error (.wrongType j ("struct " ++ form.name))

end RecordForm

end CourseReview
