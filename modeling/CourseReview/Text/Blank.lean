/-!
# Blank space

The characters that count as white space when a text is trimmed, and trimming itself.  The class
is the Unicode property `White_Space`, 25 characters in all; a zero-width space, a byte order mark
and the Mongolian vowel separator are outside it and so are never trimmed.
-/

namespace CourseReview.Text

/-- The characters with the Unicode property `White_Space`. -/
def isBlank (c : Char) : Bool :=
  let n := c.toNat
  (9 ≤ n && n ≤ 13) || n == 0x20 || n == 0x85 || n == 0xA0 || n == 0x1680
    || (0x2000 ≤ n && n ≤ 0x200A) || n == 0x2028 || n == 0x2029 || n == 0x202F || n == 0x205F
    || n == 0x3000

/-- A text without the characters of the class `p` at either end. -/
def trimBy (p : Char → Bool) (cs : List Char) : List Char :=
  ((cs.dropWhile p).reverse.dropWhile p).reverse

/-- A text without white space at either end. -/
def trim (s : String) : String :=
  String.ofList (trimBy isBlank s.toList)

/-- A text of which trimming leaves nothing. -/
def isAllBlank (s : String) : Bool :=
  s.toList.all isBlank

/-- The pieces between the separators; a text without a separator is one piece. -/
def splitAt (sep : Char) : List Char → List (List Char)
  | [] => [[]]
  | c :: cs =>
    if c = sep then [] :: splitAt sep cs
    else match splitAt sep cs with
      | [] => [[c]]
      | piece :: rest => (c :: piece) :: rest

/-- The pieces joined again, a separator between each two. -/
def joinWith (sep : Char) : List (List Char) → List Char
  | [] => []
  | [piece] => piece
  | piece :: rest => piece ++ sep :: joinWith sep rest

/-- There is always at least one piece. -/
theorem splitAt_ne_nil (sep : Char) (cs : List Char) : splitAt sep cs ≠ [] := by
  cases cs with
  | nil => simp [splitAt]
  | cons c cs =>
    rw [splitAt]
    split
    · simp
    · split <;> simp

/-- Joining the pieces gives the text back. -/
theorem joinWith_splitAt (sep : Char) (cs : List Char) : joinWith sep (splitAt sep cs) = cs := by
  induction cs with
  | nil => rfl
  | cons c cs ih =>
    have hne := splitAt_ne_nil sep cs
    rw [splitAt]
    split
    · rename_i hc
      cases hs : splitAt sep cs with
      | nil => exact absurd hs hne
      | cons piece rest =>
        rw [hs] at ih
        rw [joinWith, ih, hc]
        · simp
        · simp
    · cases hs : splitAt sep cs with
      | nil => exact absurd hs hne
      | cons piece rest =>
        rw [hs] at ih
        cases rest with
        | nil => simp only [joinWith] at ih ⊢; rw [ih]
        | cons p r => simp only [joinWith, List.cons_append] at ih ⊢; rw [ih]

end CourseReview.Text
