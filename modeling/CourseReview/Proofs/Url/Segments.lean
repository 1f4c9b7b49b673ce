import CourseReview.Proofs.Text.Pieces
import CourseReview.Proofs.Url.Literal
import CourseReview.Url.Parser
import Mathlib.Data.List.Induction

/-!
# Adding segments

The pieces of a path come to the segments that are there one after another, and each may be put behind them,
be passed over, or take the last of them away.  This file says what a path becomes whose scheme is not
`file`.

* Pieces that mean no other place are put behind in their order (`addSegments_of_ordinary`).
* No other segments are in a path that was read (`ordinary_addSegments`), so that reading it once more gives
  it back.
* A slash at the end of a text comes to the same as closing the path that the text without it makes
  (`parsePathStart_append_slash`).
-/

namespace CourseReview.Url

variable {kind : SchemeKind} {segments pieces : List String} {piece last : String}

/-! ## 1. Single pieces -/

theorem trimFilePath_of_ne_file (hkind : kind ≠ .file) (segments : List String) :
    trimFilePath kind segments = segments := by
  match segments with
  | [] => rfl
  | [s] => by_cases hs : s = "" <;> simp [trimFilePath, hs]
  | s :: s' :: rest =>
    by_cases hs : s = ""
    · subst hs
      rw [trimFilePath, if_neg (by simpa using hkind)]
    · simp [trimFilePath, hs]

/-- A piece that means no other place is put behind the segments. -/
theorem addSegment_of_ordinary (hkind : kind ≠ .file) (h : IsOrdinary piece) (segments : List String)
    (isLast : Bool) : addSegment kind segments piece isLast = segments ++ [piece] := by
  rw [addSegment, h.double, h.single, if_neg Bool.false_ne_true, if_neg Bool.false_ne_true, if_neg]
  simp [hkind]

/-- A segment that is climbed to was there. -/
theorem mem_of_mem_climb {s : String} (h : s ∈ climb segments) : s ∈ segments := by
  rw [climb] at h
  split at h
  · split at h
    · exact h
    · exact List.dropLast_subset _ h
  · cases h

/-- No piece leaves a segment that means another place. -/
theorem ordinary_addSegment (hkind : kind ≠ .file) (hsegments : ∀ s ∈ segments, IsOrdinary s)
    (piece : String) (isLast : Bool) : ∀ s ∈ addSegment kind segments piece isLast, IsOrdinary s := by
  have hopened : ∀ s ∈ (if isLast then [""] else []), IsOrdinary s := by
    intro s hs
    split at hs
    · rw [List.mem_singleton.mp hs]
      exact isOrdinary_empty
    · cases hs
  intro s hs
  cases hdouble : isDoubleDot piece with
  | true =>
    rw [addSegment, hdouble, if_pos rfl] at hs
    rcases List.mem_append.mp hs with hs | hs
    · exact hsegments s (mem_of_mem_climb hs)
    · exact hopened s hs
  | false =>
    cases hsingle : isSingleDot piece with
    | true =>
      rw [addSegment, hdouble, hsingle, if_neg Bool.false_ne_true, if_pos rfl] at hs
      rcases List.mem_append.mp hs with hs | hs
      · exact hsegments s hs
      · exact hopened s hs
    | false =>
      rw [addSegment_of_ordinary hkind ⟨hsingle, hdouble⟩] at hs
      rcases List.mem_append.mp hs with hs | hs
      · exact hsegments s hs
      · rw [List.mem_singleton.mp hs]
        exact ⟨hsingle, hdouble⟩

/-! ## 2. Many pieces -/

/-- The segments after pieces behind each of which there is a slash. -/
def addClosed (kind : SchemeKind) (segments pieces : List String) : List String :=
  pieces.foldl (fun segments piece => addSegment kind segments piece false) segments

/-- All pieces but the last have a slash behind them. -/
theorem addSegments_append (kind : SchemeKind) (last : String) :
    ∀ (pieces segments : List String), addSegments kind segments (pieces ++ [last]) =
      addSegment kind (addClosed kind segments pieces) last true
  | [], segments => by rw [List.nil_append, addSegments, addClosed, List.foldl_nil]
  | [piece], segments => by
    rw [List.singleton_append, addSegments, addSegments, addClosed, List.foldl_cons, List.foldl_nil]
    simp
  | piece :: next :: rest, segments => by
    have hstep : addSegments kind segments (piece :: (next :: rest ++ [last])) =
        addSegments kind (addSegment kind segments piece false) (next :: rest ++ [last]) := by
      rw [addSegments]
      simp
    rw [List.cons_append, hstep, addSegments_append kind last]
    rfl

theorem addClosed_append (kind : SchemeKind) (segments pieces : List String) (last : String) :
    addClosed kind segments (pieces ++ [last]) =
      addSegment kind (addClosed kind segments pieces) last false := by
  rw [addClosed, List.foldl_append, List.foldl_cons, List.foldl_nil, addClosed]

/-- A path that ends in a slash is the path up to the slash with an empty segment. -/
theorem addSegments_append_empty (hkind : kind ≠ .file) (segments pieces : List String) :
    addSegments kind segments (pieces ++ [""]) = addClosed kind segments pieces ++ [""] := by
  rw [addSegments_append, addSegment_of_ordinary hkind isOrdinary_empty]

theorem addClosed_of_ordinary (hkind : kind ≠ .file) (segments : List String)
    (hpieces : ∀ p ∈ pieces, IsOrdinary p) : addClosed kind segments pieces = segments ++ pieces := by
  induction pieces using List.reverseRecOn with
  | nil => simp [addClosed]
  | append_singleton init last ih =>
    have hlast : IsOrdinary last := hpieces last (by simp)
    rw [addClosed_append, addSegment_of_ordinary hkind hlast, ih fun p hp => hpieces p (by simp [hp]),
      List.append_assoc]

/-- **Pieces that mean no other place** are put behind in their order. -/
theorem addSegments_of_ordinary (hkind : kind ≠ .file) (segments : List String)
    (hpieces : ∀ p ∈ pieces, IsOrdinary p) : addSegments kind segments pieces = segments ++ pieces := by
  rcases List.eq_nil_or_concat' pieces with rfl | ⟨init, last, rfl⟩
  · rw [addSegments, List.append_nil]
  · have hlast : IsOrdinary last := hpieces last (by simp)
    rw [addSegments_append, addSegment_of_ordinary hkind hlast,
      addClosed_of_ordinary hkind segments fun p hp => hpieces p (by simp [hp]), List.append_assoc]

theorem ordinary_addClosed (hkind : kind ≠ .file) (hsegments : ∀ s ∈ segments, IsOrdinary s)
    (pieces : List String) : ∀ s ∈ addClosed kind segments pieces, IsOrdinary s := by
  induction pieces using List.reverseRecOn with
  | nil => exact hsegments
  | append_singleton init last ih =>
    rw [addClosed_append]
    exact ordinary_addSegment hkind ih last false

/-! ## 3. Closed paths -/

/-- Closing leaves a path as it is that ends in an empty segment. -/
theorem closePath_append_empty (kind : SchemeKind) (segments : List String) :
    closePath kind (segments ++ [""]) = segments ++ [""] := by
  rw [closePath, if_pos List.getLast?_concat]

/-- **A closed path** ends in an empty segment. -/
theorem exists_closePath (hkind : kind ≠ .file) (segments : List String) :
    ∃ above, closePath kind segments = above ++ [""] := by
  rw [closePath]
  split
  · rename_i hlast
    exact List.getLast?_eq_some_iff.mp hlast
  · rw [trimFilePath_of_ne_file hkind, addSegments_append_empty hkind]
    exact ⟨_, rfl⟩

/-- **Closing a path that pieces made** is what the pieces make with a slash behind them. -/
theorem closePath_addSegments (hkind : kind ≠ .file) (pieces : List String) (hlast : last ≠ "") :
    closePath kind (addSegments kind [] (pieces ++ [last])) =
      addSegments kind [] (pieces ++ [last] ++ [""]) := by
  have hbefore : ∀ s ∈ addClosed kind [] pieces, IsOrdinary s :=
    ordinary_addClosed hkind (fun _ hs => absurd hs List.not_mem_nil) pieces
  rw [addSegments_append, addSegments_append_empty hkind, addClosed_append]
  generalize addClosed kind [] pieces = segments at hbefore
  cases hdouble : isDoubleDot last with
  | true =>
    simp only [addSegment, hdouble, if_true, Bool.false_eq_true, if_false, List.append_nil]
    exact closePath_append_empty kind _
  | false =>
    cases hsingle : isSingleDot last with
    | true =>
      simp only [addSegment, hdouble, hsingle, if_true, Bool.false_eq_true, if_false, List.append_nil]
      exact closePath_append_empty kind _
    | false =>
      -- the path is read once more as it stands, and nothing in it means another place
      have hordinary : IsOrdinary last := ⟨hsingle, hdouble⟩
      have hall : ∀ s ∈ segments ++ [last] ++ [""], IsOrdinary s := by
        intro s hs
        simp only [List.mem_append, List.mem_singleton] at hs
        rcases hs with (hs | rfl) | rfl
        · exact hbefore s hs
        · exact hordinary
        · exact isOrdinary_empty
      rw [addSegment_of_ordinary hkind hordinary, addSegment_of_ordinary hkind hordinary, closePath,
        if_neg (by rw [List.getLast?_concat]; exact fun h => hlast (Option.some.inj h)),
        trimFilePath_of_ne_file hkind, addSegments_of_ordinary hkind [] hall, List.nil_append]

/-! ## 4. Texts -/

/-- The text between the slashes is a piece like all others, whichever slashes they are. -/
theorem splitSlashes_append_slash (kind : SchemeKind) (cs : List Char) :
    splitSlashes kind (cs ++ ['/']) = splitSlashes kind cs ++ [[]] := by
  have hslash : isSlash kind '/' = true := rfl
  rw [splitSlashes, List.map_append, List.map_singleton, hslash, if_pos rfl, Text.splitAt_append_sep]
  rfl

theorem percentEncode_eq_empty_iff {inSet : Char → Bool} {cs : List Char} :
    percentEncode inSet cs = "" ↔ cs = [] := by
  rw [percentEncode, String.ofList_eq_empty_iff, List.flatMap_eq_nil_iff]
  constructor
  · intro h
    refine List.eq_nil_iff_forall_not_mem.mpr fun c hc => ?_
    have hempty := h c hc
    rw [encodeChar] at hempty
    split at hempty
    · obtain ⟨b, hb⟩ := List.exists_mem_of_ne_nil _ (String.utf8EncodeChar_ne_nil (c := c))
      have hbyte := List.flatMap_eq_nil_iff.mp hempty b hb
      cases hbyte
    · cases hempty
  · rintro rfl c hc
    cases hc

/-- **A slash at the end of a text** that does not end in one closes the path that the text makes. -/
theorem parsePath_append_slash (hkind : kind ≠ .file) {cs : List Char} (hne : cs ≠ [])
    (hlast : ∀ c ∈ cs.getLast?, isSlash kind c = false) :
    parsePath kind [] (cs ++ ['/']) = closePath kind (parsePath kind [] cs) := by
  have hnot : (cs.map fun c => if isSlash kind c then '/' else c).getLast? ≠ some '/' := by
    rw [List.getLast?_map]
    intro h
    obtain ⟨c, hc, hslash⟩ := Option.map_eq_some_iff.mp h
    rw [hlast c hc, if_neg Bool.false_ne_true] at hslash
    subst hslash
    exact absurd (hlast '/' hc) (by simp [isSlash])
  obtain ⟨init, last, hsplit, hlast⟩ := Text.exists_splitAt_append (by simpa using hne) hnot
  rw [parsePath, parsePath, trimFilePath_of_ne_file hkind, trimFilePath_of_ne_file hkind, readSegments,
    readSegments, splitSlashes_append_slash, splitSlashes, hsplit, List.map_append, List.map_append,
    List.map_singleton, List.map_singleton, closePath_addSegments hkind]
  · rfl
  · rw [ne_eq, percentEncode_eq_empty_iff]
    exact hlast

/-- An empty path after an authority is a slash already. -/
theorem parsePathStart_root {cs : List Char} (h : dropSlash .special cs = []) :
    parsePathStart .special cs = [""] := by
  have hspecial : SchemeKind.special.isSpecial = true := rfl
  have hempty : splitSlashes .special [] = [[]] := rfl
  rw [parsePathStart, h, hspecial, Bool.not_true, Bool.and_false, if_neg Bool.false_ne_true, parsePath,
    trimFilePath_of_ne_file (by decide), readSegments, hempty]
  exact addSegments_append_empty (by decide) [] []

/-- **The same after an authority**, where a text begins with a slash if it is not empty. -/
theorem parsePathStart_append_slash {path : List Char} (hhead : ∀ c ∈ path.head?, isSlash .special c = true)
    (hlast : ∀ c ∈ path.getLast?, isSlash .special c = false) :
    parsePathStart .special (path ++ ['/']) = closePath .special (parsePathStart .special path) := by
  cases path with
  | nil =>
    rw [List.nil_append, parsePathStart_root rfl, parsePathStart_root rfl]
    exact (closePath_append_empty .special []).symm
  | cons c rest =>
    have hc : isSlash .special c = true := hhead c rfl
    have hrest : rest ≠ [] := by
      rintro rfl
      rw [hlast c rfl] at hc
      cases hc
    have hlast' : ∀ d ∈ rest.getLast?, isSlash .special d = false := by
      intro d hd
      refine hlast d ?_
      rw [List.getLast?_cons, Option.mem_def.mp hd]
      rfl
    have hstart : ∀ rest, parsePathStart .special (c :: rest) = parsePath .special [] rest := by
      intro rest
      rw [parsePathStart, if_neg (by simp), dropSlash, hc, if_pos rfl]
    rw [List.cons_append, hstart, hstart, parsePath_append_slash (by decide) hrest hlast']

end CourseReview.Url
