import CourseReview.Json.Basic

/-!
# TOML documents

A TOML document is a table of values, built up by lines that open tables and lines that set keys.
A table remembers how it came about, because that decides how it may be extended: a table that was
opened by its own header can be neither opened again nor extended by dotted keys, and a table
written inline is closed for good.
-/

namespace CourseReview

/-- How a table came about: by its own header, as a step in the header of another, by dotted keys,
or inline. -/
inductive TableOrigin where
  | header
  | passage
  | dotted
  | inline
deriving DecidableEq, Repr

/-- A TOML value.  The numbers behind floats and dates are not kept. -/
inductive Toml where
  | string (value : String)
  | integer (value : Int)
  | float
  | boolean (value : Bool)
  | datetime
  | array (items : List Toml)
  | table (origin : TableOrigin) (entries : List (String × Toml))
  | tableArray (tables : List (List (String × Toml)))
deriving Repr

namespace Toml

/-! ## Building a document -/

/-- Sets a key in the table that dotted keys lead to, making tables on the way. -/
def setDotted (key : String) (value : Toml) : List String → Keyed Toml → Option (Keyed Toml)
  | [], entries => if Keyed.has key entries then none else some (Keyed.put key value entries)
  | step :: rest, entries =>
    match Keyed.get? step entries with
    | none =>
      (setDotted key value rest []).map fun sub => Keyed.put step (.table .dotted sub) entries
    | some (.table .dotted sub) =>
      (setDotted key value rest sub).map fun sub => Keyed.put step (.table .dotted sub) entries
    | some (.table .passage sub) =>
      if rest.isEmpty then none
      else
        (setDotted key value rest sub).map fun sub => Keyed.put step (.table .passage sub) entries
    | some (.tableArray tables) =>
      if rest.isEmpty then none
      else
        match tables.getLast? with
        | none => none
        | some last =>
          (setDotted key value rest last).map fun last =>
            Keyed.put step (.tableArray (tables.dropLast ++ [last])) entries
    | some _ => none

/-- Changes the table that a header's path leads to, making tables on the way. -/
def atHeader (change : Keyed Toml → Option (Keyed Toml)) : List String → Keyed Toml →
    Option (Keyed Toml)
  | [], entries => change entries
  | step :: rest, entries =>
    match Keyed.get? step entries with
    | none =>
      (atHeader change rest []).map fun sub => Keyed.put step (.table .passage sub) entries
    | some (.table .inline _) => none
    | some (.table origin sub) =>
      (atHeader change rest sub).map fun sub => Keyed.put step (.table origin sub) entries
    | some (.tableArray tables) =>
      match tables.getLast? with
      | none => none
      | some last =>
        (atHeader change rest last).map fun last =>
          Keyed.put step (.tableArray (tables.dropLast ++ [last])) entries
    | some _ => none

/-- Opens a table under a key: a new one, or one that so far was only passed through. -/
def openTable (key : String) (entries : Keyed Toml) : Option (Keyed Toml) :=
  match Keyed.get? key entries with
  | none => some (Keyed.put key (.table .header []) entries)
  | some (.table .passage sub) => some (Keyed.put key (.table .header sub) entries)
  | some _ => none

/-- Opens one more table of an array of tables under a key. -/
def openTableArray (key : String) (entries : Keyed Toml) : Option (Keyed Toml) :=
  match Keyed.get? key entries with
  | none => some (Keyed.put key (.tableArray [[]]) entries)
  | some (.tableArray tables) => some (Keyed.put key (.tableArray (tables ++ [[]])) entries)
  | some _ => none

/-! ## As JSON

The settings are decoded from the same shapes as the server's records.  A date stands as an object
with one member of its own, so that it is neither a text nor a number. -/

mutual

/-- The value as JSON. -/
def toJson : Toml → Json
  | .string s => .string s
  | .integer n => Json.ofInt n
  | .float => .number (.real ⟨false, 0, Decimal.Binary64.minExponent⟩)
  | .boolean b => .bool b
  | .datetime => .object [("$datetime", .null)]
  | .array items => .array (itemsToJson items)
  | .table _ entries => .object (entriesToJson entries)
  | .tableArray tables => .array (tablesToJson tables)

/-- The items of an array as JSON. -/
def itemsToJson : List Toml → List Json
  | [] => []
  | item :: rest => item.toJson :: itemsToJson rest

/-- The entries of a table as JSON. -/
def entriesToJson : List (String × Toml) → Keyed Json
  | [] => []
  | (key, value) :: rest => (key, value.toJson) :: entriesToJson rest

/-- The tables of an array as JSON. -/
def tablesToJson : List (List (String × Toml)) → List Json
  | [] => []
  | entries :: rest => .object (entriesToJson entries) :: tablesToJson rest

end

end Toml

end CourseReview
