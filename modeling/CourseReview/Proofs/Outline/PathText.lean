import CourseReview.Outline.Path
import CourseReview.Proofs.Text.Pieces

/-!
# Paths as texts

A reviewer writes a path as a text and sees it as a text.  Reading takes blanks and then slashes off both
ends; writing does neither, it only joins the ids.  This file says what is read and what can be read again.

* Which texts spell a path is a grammar of its own (`NodePath.Spells`), and reading a text is finding the
  path that its inner part spells (`NodePath.parse_eq_ok_iff`).  A text spells one path at most.
* Some paths have a text that no reading gives back, since blanks at the ends of it would be taken off or
  since it is the word for the course.  The others are `NodePath.Legible`, and these are all paths whose
  text is read as the path itself (`NodePath.parse_text_iff`).
* Reading alone does not make a path legible: blanks that stand between the slashes taken off and the first
  or the last id stay in that id (`NodePath.reads_own_text_iff`, `NodePath.not_reads_own_text`).
-/

namespace CourseReview

namespace NodePath

/-! ## 1. What a text spells -/

/-- Ids of which a text can be made: one to four of them, none empty and none with a slash. -/
structure Writable (ids : List String) : Prop where
  some : ids ≠ []
  few : ids.length ≤ maxDepth
  nonempty : ∀ id ∈ ids, id ≠ ""
  noSlash : ∀ id ∈ ids, '/' ∉ id.toList

/-- Ids with a slash between each two. -/
def joined (ids : List String) : List Char :=
  ['/'].intercalate (ids.map String.toList)

/-- The texts of the paths: the word for the course's own node, or ids with slashes between them that are
not together this word. -/
inductive Spells : List Char → NodePath → Prop where
  | course : Spells courseInfoText.toList .courseInfo
  | ids {ids : List String} (hids : Writable ids) (hword : joined ids ≠ courseInfoText.toList) :
    Spells (joined ids) (.outline ids)

variable {s : String} {p q : NodePath} {cs inner outer : List Char} {ids : List String}

theorem toList_text_outline (ids : List String) : (outline ids).text.toList = joined ids := by
  rw [text, String.toList_intercalate]
  rfl

/-- A path that is spelled is written so. -/
theorem Spells.toList_text (h : Spells cs p) : p.text.toList = cs := by
  cases h with
  | course => rfl
  | ids _ _ => exact toList_text_outline _

theorem spells_text_outline_iff :
    Spells (outline ids).text.toList (.outline ids) ↔
      Writable ids ∧ (outline ids).text ≠ courseInfoText := by
  have hword : (outline ids).text ≠ courseInfoText ↔ joined ids ≠ courseInfoText.toList := by
    rw [← toList_text_outline, ne_eq, ne_eq, String.toList_inj]
  rw [hword, toList_text_outline]
  constructor
  · intro h
    generalize hcs : joined ids = cs at h
    cases h with
    | ids hids hword => exact ⟨hids, hcs ▸ hword⟩
  · rintro ⟨hids, hword⟩
    exact .ids hids hword

/-- No text of a path has a slash at its ends. -/
theorem Spells.bare (h : Spells cs p) : Text.Bare (· == '/') cs := by
  cases h with
  | course => exact Text.bare_of_ends rfl rfl rfl rfl
  | ids hids hword =>
    refine Text.bare_intercalate ?_ ?_
    · rintro piece hpiece rfl
      obtain ⟨id, hid, hnil⟩ := List.mem_map.mp hpiece
      exact hids.nonempty id hid (String.toList_eq_nil_iff.mp hnil)
    · intro piece hpiece
      obtain ⟨id, hid, rfl⟩ := List.mem_map.mp hpiece
      exact hids.noSlash id hid

/-! ## 2. Reading -/

/-- What is read of a text whose ends have been taken off. -/
theorem parse_eq (s : String) :
    parse s =
      let inner := Text.trimBy (· == '/') (Text.trimBy Text.isBlank s.toList)
      if inner = courseInfoText.toList then .ok .courseInfo
      else if maxDepth < (Text.splitAt '/' inner).length ∨ [] ∈ Text.splitAt '/' inner then
        .error (.invalidPath (.unreadable (String.ofList inner)))
      else .ok (.outline ((Text.splitAt '/' inner).map String.ofList)) := by
  have hany : ∀ pieces : List (List Char), pieces.any List.isEmpty = true ↔ [] ∈ pieces := by
    intro pieces
    simp
  simp only [parse, Bool.or_eq_true, decide_eq_true_eq, hany]

/-- The pieces of a text are ids of which one can be made again when none of them is empty. -/
theorem writable_pieces (hfew : (Text.splitAt '/' inner).length ≤ maxDepth)
    (hnonempty : [] ∉ Text.splitAt '/' inner) :
    Writable ((Text.splitAt '/' inner).map String.ofList) where
  some := by simp [Text.splitAt_ne_nil]
  few := by simpa using hfew
  nonempty := by
    intro id hid
    obtain ⟨piece, hpiece, rfl⟩ := List.mem_map.mp hid
    rw [ne_eq, String.ofList_eq_empty_iff]
    rintro rfl
    exact hnonempty hpiece
  noSlash := by
    intro id hid
    obtain ⟨piece, hpiece, rfl⟩ := List.mem_map.mp hid
    rw [String.toList_ofList]
    exact Text.notMem_of_mem_splitAt hpiece

theorem joined_pieces (inner : List Char) :
    joined ((Text.splitAt '/' inner).map String.ofList) = inner := by
  have hpieces : (String.toList ∘ String.ofList : List Char → List Char) = id :=
    funext fun _ => String.toList_ofList
  rw [joined, List.map_map, hpieces, List.map_id]
  exact (Text.splitAt_eq_iff.mp rfl).2.2.symm

/-- The ids that make a text up are its pieces. -/
theorem splitAt_joined (h : Writable ids) : Text.splitAt '/' (joined ids) = ids.map String.toList := by
  refine Text.splitAt_eq_iff.mpr ⟨by simpa using h.some, fun piece hpiece => ?_, rfl⟩
  obtain ⟨id, hid, rfl⟩ := List.mem_map.mp hpiece
  exact h.noSlash id hid

/-- **Reading finds the path that is spelled** once the ends were taken off. -/
theorem parse_eq_ok_iff_spells : parse s = .ok p ↔
    Spells (Text.trimBy (· == '/') (Text.trimBy Text.isBlank s.toList)) p := by
  rw [parse_eq]
  generalize Text.trimBy (· == '/') (Text.trimBy Text.isBlank s.toList) = inner
  dsimp only
  constructor
  · intro h
    split at h
    · rename_i hword
      obtain rfl := Except.ok.inj h
      rw [hword]
      exact .course
    · rename_i hword
      split at h
      · cases h
      · rename_i hpieces
        rw [not_or, Nat.not_lt] at hpieces
        obtain rfl := Except.ok.inj h
        have hjoined := joined_pieces inner
        have hspells := Spells.ids (writable_pieces hpieces.1 hpieces.2) (by rwa [hjoined])
        rwa [hjoined] at hspells
  · intro h
    cases h with
    | course => rw [if_pos rfl]
    | @ids ids hids hword =>
      have hnonempty : [] ∉ ids.map String.toList := by
        intro hnil
        obtain ⟨id, hid, hempty⟩ := List.mem_map.mp hnil
        exact hids.nonempty id hid (String.toList_eq_nil_iff.mp hempty)
      have hfew : ¬ maxDepth < ids.length := Nat.not_lt.mpr hids.few
      have hids' : (ids.map String.toList).map String.ofList = ids := by
        rw [List.map_map]
        exact List.map_id'' (fun _ => String.ofList_toList) ids
      rw [if_neg hword, splitAt_joined hids, List.length_map, if_neg (by simp [hfew, hnonempty]), hids']

/-- **Which texts are read, and as what**: those whose inner part, without blanks and then without slashes
at its ends, spells a path. -/
theorem parse_eq_ok_iff : parse s = .ok p ↔ ∃ outer inner,
    Text.Strips Text.isBlank s.toList outer ∧ Text.Strips (· == '/') outer inner ∧ Spells inner p := by
  rw [parse_eq_ok_iff_spells]
  constructor
  · intro h
    exact ⟨_, _, Text.strips_trimBy .., Text.strips_trimBy .., h⟩
  · rintro ⟨outer, inner, houter, hinner, h⟩
    rw [Text.strips_iff.mp houter, Text.strips_iff.mp hinner]
    exact h

/-- A text that is not read is refused with its inner part. -/
theorem parse_unreadable (hs : ∀ p, parse s ≠ .ok p) : ∃ outer inner,
    Text.Strips Text.isBlank s.toList outer ∧ Text.Strips (· == '/') outer inner ∧
      parse s = .error (.invalidPath (.unreadable (String.ofList inner))) := by
  refine ⟨_, _, Text.strips_trimBy .., Text.strips_trimBy .., ?_⟩
  rw [parse_eq] at hs ⊢
  dsimp only at hs ⊢
  split
  · rename_i hword
    exact absurd (if_pos hword) (hs _)
  · rename_i hword
    rw [if_neg hword] at hs
    split
    · rfl
    · rename_i hpieces
      exact absurd (if_neg hpieces) (hs _)

/-! ## 3. Reading what was written -/

/-- The paths that their texts are enough for: the course, and ids whose text has no blank at its ends and
is not the word for the course. -/
inductive Legible : NodePath → Prop where
  | course : Legible .courseInfo
  | ids {ids : List String} (hids : Writable ids)
    (hbare : Text.Bare Text.isBlank (text (.outline ids)).toList)
    (hword : text (.outline ids) ≠ courseInfoText) : Legible (.outline ids)

theorem legible_iff :
    p.Legible ↔ Spells p.text.toList p ∧ Text.Bare Text.isBlank p.text.toList := by
  constructor
  · intro h
    cases h with
    | course => exact ⟨.course, Text.bare_of_ends rfl rfl rfl rfl⟩
    | ids hids hbare hword => exact ⟨spells_text_outline_iff.mpr ⟨hids, hword⟩, hbare⟩
  · rintro ⟨hspells, hbare⟩
    cases p with
    | courseInfo => exact .course
    | outline ids =>
      obtain ⟨hids, hword⟩ := spells_text_outline_iff.mp hspells
      exact .ids hids hbare hword

/-- **A path is read from its own text exactly when that is legible.** -/
theorem parse_text_iff : parse p.text = .ok p ↔ p.Legible := by
  rw [parse_eq_ok_iff_spells, legible_iff]
  constructor
  · intro h
    -- taking off the ends has taken nothing, since the path is written with all that was read
    have hinner := h.toList_text.symm
    refine ⟨?_, Text.bare_of_trimBy_trimBy hinner⟩
    rwa [hinner] at h
  · rintro ⟨hspells, hbare⟩
    rw [Text.trimBy_eq_self_iff.mpr hbare, Text.trimBy_eq_self_iff.mpr hspells.bare]
    exact hspells

/-- Legible paths with the same text are the same. -/
theorem eq_of_text_eq (hp : p.Legible) (hq : q.Legible) (h : p.text = q.text) : p = q := by
  have hread := parse_text_iff.mpr hp
  rw [h, parse_text_iff.mpr hq] at hread
  exact (Except.ok.inj hread).symm

/-- **The texts of paths.**

* A text is read exactly when its inner part, without the blanks and then without the slashes at its ends,
  is the word for the course, which is then the path, or one to four ids between slashes, none of them
  empty, which are then the path.  Any other text is refused, and the refusal quotes that inner part.
* The course is read from its own text.  A path of ids is read from its own text exactly if there are one to
  four ids, none empty and none with a slash, and the text has no blank at its ends and is not the word for
  the course.
* So no two of these paths have the same text. -/
theorem texts_of_paths :
    (∀ s p, parse s = .ok p ↔ ∃ outer inner, Text.Strips Text.isBlank s.toList outer ∧
      Text.Strips (· == '/') outer inner ∧ Spells inner p) ∧
    (∀ s, (∀ p, parse s ≠ .ok p) → ∃ outer inner, Text.Strips Text.isBlank s.toList outer ∧
      Text.Strips (· == '/') outer inner ∧
      parse s = .error (.invalidPath (.unreadable (String.ofList inner)))) ∧
    (∀ p : NodePath, parse p.text = .ok p ↔ p.Legible) ∧
    ∀ p q : NodePath, p.Legible → q.Legible → p.text = q.text → p = q :=
  ⟨fun _ _ => parse_eq_ok_iff, fun _ => parse_unreadable, fun _ => parse_text_iff, fun _ _ => eq_of_text_eq⟩

/-- Of a text with blanks and slashes around it two ids are read, the second with a blank inside.  Their
own text is read as the same path again, and no other legible path has it. -/
theorem texts_of_paths_around :
    parse " //S1/Q 1/ " = .ok (.outline ["S1", "Q 1"]) ∧ Legible (.outline ["S1", "Q 1"]) ∧
      ∀ q : NodePath, q.Legible → "S1/Q 1" = q.text → .outline ["S1", "Q 1"] = q := by
  obtain ⟨-, -, hread, hone⟩ := texts_of_paths
  have hlegible : Legible (.outline ["S1", "Q 1"]) := (hread _).mp rfl
  exact ⟨rfl, hlegible, fun q => hone _ q hlegible⟩

/-! ## 4. Reading what was read and written -/

/-- **When the text of a path that was read means this path again**: exactly when it has no blank at its
ends.  That is to say that blanks and slashes together would have left the same of the text first read. -/
theorem reads_own_text_iff (hs : parse s = .ok p) :
    (parse p.text = .ok p ↔ Text.Bare Text.isBlank p.text.toList) ∧
    (parse p.text = .ok p ↔
      Text.Strips (fun c => Text.isBlank c || c == '/') s.toList p.text.toList) := by
  obtain ⟨outer, inner, houter, hinner, hspells⟩ := parse_eq_ok_iff.mp hs
  have htext := hspells.toList_text
  rw [← htext] at hinner hspells
  have hbare : parse p.text = .ok p ↔ Text.Bare Text.isBlank p.text.toList := by
    rw [parse_text_iff, legible_iff, and_iff_right hspells]
  exact ⟨hbare, hbare.trans (houter.both_iff hinner).symm⟩

/-- A blank after a slash that stays is part of an id, and does no harm; a blank after a slash that is
taken off does. -/
theorem reads_own_text_inside :
    (parse "/S1/ Q1/" = .ok (.outline ["S1", " Q1"]) ∧ parse "S1/ Q1" = .ok (.outline ["S1", " Q1"])) ∧
      parse "/ S1/Q1" = .ok (.outline [" S1", "Q1"]) ∧
      ¬ parse (text (.outline [" S1", "Q1"])) = .ok (.outline [" S1", "Q1"]) := by
  have hinside : parse "/S1/ Q1/" = .ok (.outline ["S1", " Q1"]) := rfl
  have hfirst : parse "/ S1/Q1" = .ok (.outline [" S1", "Q1"]) := rfl
  refine ⟨⟨hinside, ?_⟩, hfirst, fun h => ?_⟩
  · exact (reads_own_text_iff hinside).1.mpr (Text.bare_of_ends rfl rfl rfl rfl)
  · have hbare := (reads_own_text_iff hfirst).1.mp h
    exact absurd (hbare.head ' ' rfl) (by decide)

end NodePath

namespace Sample

/-- An outline with a section whose id begins with a blank. -/
def blankSection : Tree where
  courseInfo := .ofBlock "course" "course"
  sections := [(" S1", .ofBlock "chapter" "chapter")]

end Sample

open Sample in
/-- **The text of a path that was read can mean another path, or none.**  Of a slash, a blank and an id the
blank and the id are read, and lead to a section.  The text of that path is read without the blank, and
leads nowhere.  In the same way the text of an id can mean the course, or be unreadable. -/
theorem NodePath.not_reads_own_text :
    ¬ (∀ s p, parse s = .ok p → parse p.text = .ok p) ∧
    (∃ p q n, parse "/ S1" = .ok p ∧ p.resolve blankSection = some n ∧ p.text = " S1" ∧
      parse " S1" = .ok q ∧ q.resolve blankSection = none) ∧
    (∃ p, parse "/ course_info" = .ok p ∧ p ≠ .courseInfo ∧ parse p.text = .ok .courseInfo) ∧
    ∃ p, parse "/ /" = .ok p ∧ parse p.text = .error (.invalidPath (.unreadable "")) := by
  refine ⟨fun h => ?_, ⟨_, _, _, rfl, rfl, rfl, rfl, rfl⟩, ⟨_, rfl, by decide, rfl⟩, _, rfl, rfl⟩
  have hother : parse " S1" = .ok (.outline ["S1"]) := rfl
  have hsame := h "/ S1" (.outline [" S1"]) rfl
  rw [show text (.outline [" S1"]) = " S1" from rfl, hother] at hsame
  exact absurd (Except.ok.inj hsame) (by decide)

end CourseReview
