import CourseReview.Toml.Scalar

/-!
# Reading TOML

A document is read line by line.  A header line opens a table for the lines that follow it, and a
line with a key sets it in the table that is open.
-/

namespace CourseReview.Toml

/-- How deeply arrays, inline tables and keys may be nested. -/
def maxNesting : Nat := 79

/-- Skips the white space within a line. -/
def skipSpace (cs : List Char) : List Char :=
  cs.dropWhile isSpace

/-! ## Keys -/

/-- Whether a character may stand in a key without quotes. -/
def isBareKeyChar (c : Char) : Bool :=
  c.isAlphanum || c == '_' || c == '-'

/-- Reads one part of a key. -/
def readSimpleKey (cs : List Char) : Option (String × List Char) :=
  match cs with
  | '"' :: _ => readLineString cs
  | '\'' :: _ => readLineString cs
  | cs =>
    match cs.span isBareKeyChar with
    | ([], _) => none
    | (key, rest) => some (String.ofList key, rest)

/-- Reads a key, its parts between dots. -/
def readKey : (fuel : Nat) → List Char → Option (List String × List Char)
  | 0, _ => none
  | fuel + 1, cs =>
    match readSimpleKey (skipSpace cs) with
    | none => none
    | some (key, rest) =>
      match skipSpace rest with
      | '.' :: rest => (readKey fuel rest).map fun (keys, rest) => (key :: keys, rest)
      | rest => some ([key], rest)

/-- Reads a key, of which only so many parts are allowed. -/
def readWholeKey (cs : List Char) : Option (List String × List Char) :=
  (readKey (cs.length + 1) cs).filter fun (keys, _) => keys.length ≤ maxNesting

/-! ## Values -/

/-- Skips a comment, in which control characters may not stand. -/
def skipComment? (cs : List Char) : Option (List Char) :=
  match cs with
  | '#' :: rest =>
    match rest.dropWhile isPlainChar with
    | [] => some []
    | '\n' :: rest => some ('\n' :: rest)
    | '\r' :: '\n' :: rest => some ('\n' :: rest)
    | _ => none
  | cs => some cs

/-- Skips white space, line ends and comments. -/
def skipFiller : (fuel : Nat) → List Char → Option (List Char)
  | 0, _ => none
  | fuel + 1, cs =>
    match skipSpace cs with
    | '\n' :: rest => skipFiller fuel rest
    | '\r' :: '\n' :: rest => skipFiller fuel rest
    | '#' :: rest => (skipComment? ('#' :: rest)).bind (skipFiller fuel)
    | cs => some cs

/-- Sets a key with its parts in a table. -/
def setKey (keys : List String) (value : Toml) (entries : Keyed Toml) : Option (Keyed Toml) :=
  match keys.getLast? with
  | none => none
  | some key => setDotted key value keys.dropLast entries

mutual

/-- Reads a value; `depth` is how many levels of nesting are still allowed. -/
def readValue : (fuel depth : Nat) → List Char → Option (Toml × List Char)
  | 0, _, _ => none
  | fuel + 1, depth, cs =>
    match cs with
    | '"' :: _ => (readString cs).map fun (s, rest) => (.string s, rest)
    | '\'' :: _ => (readString cs).map fun (s, rest) => (.string s, rest)
    | '[' :: rest =>
      match depth with
      | 0 => none
      | depth + 1 => (readItems fuel depth [] rest).map fun (xs, rest) => (.array xs, rest)
    | '\x7b' :: rest =>
      match depth with
      | 0 => none
      | depth + 1 =>
        match skipSpace rest with
        | '\x7d' :: rest => some (.table .inline [], rest)
        | rest =>
          (readInline fuel depth [] rest).map fun (es, rest) => (.table .inline es, rest)
    | cs => readToken cs

/-- Reads the items that are left of an array, newest first; a comma may follow the last. -/
def readItems : (fuel depth : Nat) → List Toml → List Char → Option (List Toml × List Char)
  | 0, _, _, _ => none
  | fuel + 1, depth, acc, cs =>
    match skipFiller (cs.length + 1) cs with
    | none => none
    | some (']' :: rest) => some (acc.reverse, rest)
    | some cs =>
      match readValue fuel depth cs with
      | none => none
      | some (item, rest) =>
        match skipFiller (rest.length + 1) rest with
        | some (',' :: rest) => readItems fuel depth (item :: acc) rest
        | some (']' :: rest) => some ((item :: acc).reverse, rest)
        | _ => none

/-- Reads the keys that are left of an inline table. -/
def readInline : (fuel depth : Nat) → Keyed Toml → List Char → Option (Keyed Toml × List Char)
  | 0, _, _, _ => none
  | fuel + 1, depth, acc, cs =>
    match readWholeKey cs with
    | some (keys, '=' :: rest) =>
      match readValue fuel depth (skipSpace rest) with
      | none => none
      | some (value, rest) =>
        match setKey keys value acc with
        | none => none
        | some acc =>
          match skipSpace rest with
          | ',' :: rest => readInline fuel depth acc rest
          | '\x7d' :: rest => some (acc, rest)
          | _ => none
    | _ => none

end

/-! ## Documents -/

/-- The document read so far and the header whose table is open. -/
structure Reading where
  document : Keyed Toml := []
  header : List String := []

/-- Opens a table in the table that the parts of the header before its last lead to. -/
def Reading.openAt (r : Reading) (keys : List String)
    (step : String → Keyed Toml → Option (Keyed Toml)) : Option Reading :=
  match keys.getLast? with
  | none => none
  | some key =>
    (atHeader (step key) keys.dropLast r.document).map fun document => ⟨document, keys⟩

/-- Reads a header line after its brackets began; an array of tables has two on each side. -/
def readHeader (r : Reading) (cs : List Char) : Option (Reading × List Char) :=
  match cs with
  | '[' :: rest =>
    match readWholeKey rest with
    | some (keys, ']' :: ']' :: rest) => (r.openAt keys openTableArray).map (·, rest)
    | _ => none
  | cs =>
    match readWholeKey cs with
    | some (keys, ']' :: rest) => (r.openAt keys openTable).map (·, rest)
    | _ => none

/-- Reads a line that sets a key. -/
def readSetting (r : Reading) (cs : List Char) : Option (Reading × List Char) :=
  match readWholeKey cs with
  | some (keys, '=' :: rest) =>
    match readValue (rest.length + 2) maxNesting (skipSpace rest) with
    | none => none
    | some (value, rest) =>
      (atHeader (setKey keys value) r.header r.document).map fun document =>
        ({ r with document }, rest)
  | _ => none

/-- Reads the lines that are left. -/
def readLines : (fuel : Nat) → Reading → List Char → Option Reading
  | 0, _, _ => none
  | fuel + 1, r, cs =>
    let line := match skipSpace cs with
      | [] => some (r, [])
      | '\n' :: rest => some (r, '\n' :: rest)
      | '\r' :: '\n' :: rest => some (r, '\n' :: rest)
      | '#' :: rest => some (r, '#' :: rest)
      | '[' :: rest => readHeader r rest
      | cs => readSetting r cs
    match line with
    | none => none
    | some (r, rest) =>
      match skipComment? (skipSpace rest) with
      | none => none
      | some [] => some r
      | some ('\n' :: rest) => readLines fuel r rest
      | some ('\r' :: '\n' :: rest) => readLines fuel r rest
      | some _ => none

/-- Reads a document; a byte order mark may stand before it. -/
def parse? (s : String) : Option (Keyed Toml) :=
  let cs := match s.toList with
    | '\uFEFF' :: rest => rest
    | cs => cs
  (readLines (cs.length + 1) {} cs).map (·.document)

end CourseReview.Toml
