import CourseReview.Text.Blank
import Mathlib.Data.List.Basic
import Mathlib.Data.List.DropRight
import Mathlib.Data.List.TakeWhile

/-!
# Ends and pieces of a text

Trimming and splitting, each by what its result is and not by how it is found.

* What trimming leaves is the one part of a text that has none of the class at its ends, with nothing but
  the class around it (`strips_iff`).
* What splitting gives is the one list of pieces without the separator that, joined, is the text
  (`splitAt_eq_iff`).
-/

namespace CourseReview.Text

/-! ## 1. Ends -/

/-- No character of the class stands at either end. -/
structure Bare (p : Char → Bool) (cs : List Char) : Prop where
  head : ∀ c ∈ cs.head?, p c = false
  last : ∀ c ∈ cs.getLast?, p c = false

/-- The inner part is what is left of a text when all of the class is taken off both ends. -/
structure Strips (p : Char → Bool) (cs inner : List Char) : Prop where
  parts : ∃ before after, cs = before ++ inner ++ after ∧
    (∀ c ∈ before, p c = true) ∧ ∀ c ∈ after, p c = true
  bare : Bare p inner

variable {p q : Char → Bool} {cs inner outer : List Char}

theorem head_dropWhile (p : Char → Bool) (cs : List Char) : ∀ c ∈ (cs.dropWhile p).head?, p c = false := by
  intro c hc
  have h := List.head?_dropWhile_not p cs
  rw [Option.mem_def.mp hc] at h
  exact h

/-- Nothing is dropped before a character that is not of the class. -/
theorem dropWhile_eq_self (h : ∀ c ∈ cs.head?, p c = false) : cs.dropWhile p = cs := by
  cases cs with
  | nil => rfl
  | cons c rest => exact List.dropWhile_cons_of_neg (by simp [h c rfl])

/-- A text is bare when its first and its last character are not of the class. -/
theorem bare_of_ends {c d : Char} (hhead : cs.head? = some c) (hlast : cs.getLast? = some d)
    (hc : p c = false) (hd : p d = false) : Bare p cs := by
  refine ⟨fun x hx => ?_, fun x hx => ?_⟩
  · rw [hhead] at hx
    rwa [← Option.some.inj hx]
  · rw [hlast] at hx
    rwa [← Option.some.inj hx]

theorem Bare.reverse (h : Bare p cs) : Bare p cs.reverse := by
  refine ⟨fun c hc => h.last c ?_, fun c hc => h.head c ?_⟩
  · rwa [List.head?_reverse] at hc
  · rwa [List.getLast?_reverse] at hc

/-- Around an inner part that is bare, all of the class is dropped. -/
theorem dropWhile_before {before : List Char} (hbefore : ∀ c ∈ before, p c = true) (h : Bare p inner)
    (hne : inner ≠ []) (after : List Char) :
    (before ++ inner ++ after).dropWhile p = inner ++ after := by
  rw [List.append_assoc, List.dropWhile_append_of_pos hbefore]
  refine dropWhile_eq_self fun c hc => h.head c ?_
  rwa [List.head?_append_of_ne_nil _ hne] at hc

/-- Trimming takes characters of the class off, and as many as there are. -/
theorem strips_trimBy (p : Char → Bool) (cs : List Char) : Strips p cs (trimBy p cs) := by
  have hcs : cs = cs.takeWhile p ++ cs.dropWhile p := List.takeWhile_append_dropWhile.symm
  have hrest : cs.dropWhile p = trimBy p cs ++ ((cs.dropWhile p).reverse.takeWhile p).reverse := by
    rw [trimBy, ← List.reverse_append, List.takeWhile_append_dropWhile, List.reverse_reverse]
  refine ⟨⟨cs.takeWhile p, ((cs.dropWhile p).reverse.takeWhile p).reverse, ?_, ?_, ?_⟩, ?_, ?_⟩
  · rw [List.append_assoc, ← hrest]
    exact hcs
  · exact fun c hc => List.mem_takeWhile_imp hc
  · exact fun c hc => List.mem_takeWhile_imp (List.mem_reverse.mp hc)
  · -- what is left begins as the text does once its beginning was dropped
    intro c hc
    refine head_dropWhile p cs c ?_
    rw [hrest, List.head?_append, Option.mem_def.mp hc]
    rfl
  · intro c hc
    rw [trimBy, List.getLast?_reverse] at hc
    exact head_dropWhile p _ c hc

/-- **Trimming leaves the inner part**, and there is only one. -/
theorem strips_iff : Strips p cs inner ↔ trimBy p cs = inner := by
  constructor
  · rintro ⟨⟨before, after, rfl, hbefore, hafter⟩, hbare⟩
    cases hinner : inner with
    | nil =>
      have hall : ∀ c ∈ before ++ ([] : List Char) ++ after, p c = true := by
        intro c hc
        rw [List.append_nil] at hc
        rcases List.mem_append.mp hc with hc | hc
        · exact hbefore c hc
        · exact hafter c hc
      rw [trimBy, List.dropWhile_eq_nil_iff.mpr hall]
      rfl
    | cons c rest =>
      rw [← hinner]
      have hne : inner ≠ [] := by simp [hinner]
      have hafter' : ∀ c ∈ after.reverse, p c = true := fun c hc => hafter c (List.mem_reverse.mp hc)
      have hlast := dropWhile_before hafter' hbare.reverse (by simpa using hne) []
      rw [trimBy, dropWhile_before hbefore hbare hne, List.reverse_append]
      rw [List.append_nil, List.append_nil] at hlast
      rw [hlast, List.reverse_reverse]
  · rintro rfl
    exact strips_trimBy p cs

/-- A text is left as it is exactly when it is bare. -/
theorem trimBy_eq_self_iff : trimBy p cs = cs ↔ Bare p cs := by
  constructor
  · intro h
    exact (strips_iff.mpr h).bare
  · intro h
    exact strips_iff.mp ⟨⟨[], [], by simp, by simp, by simp⟩, h⟩

theorem length_trimBy_le (p : Char → Bool) (cs : List Char) : (trimBy p cs).length ≤ cs.length := by
  obtain ⟨⟨before, after, hcs, -, -⟩, -⟩ := strips_trimBy p cs
  have hlength := congrArg List.length hcs
  simp only [List.length_append] at hlength
  omega

/-- A text keeps its last character when that is not of the class dropped. -/
theorem getLast?_dropWhile {c : Char} (hlast : cs.getLast? = some c) (hc : p c = false) :
    (cs.dropWhile p).getLast? = some c := by
  obtain ⟨init, rfl⟩ := List.getLast?_eq_some_iff.mp hlast
  rw [List.dropWhile_append]
  split
  · rw [List.dropWhile_cons_of_neg (by simp [hc])]
    rfl
  · exact List.getLast?_concat

/-- Then nothing is dropped of what comes behind it. -/
theorem dropWhile_append_of_getLast? {c : Char} (hlast : cs.getLast? = some c) (hc : p c = false)
    (rest : List Char) : (cs ++ rest).dropWhile p = cs.dropWhile p ++ rest := by
  rw [List.dropWhile_append, if_neg]
  rw [List.isEmpty_iff]
  intro hnil
  have hkept := getLast?_dropWhile hlast hc
  rw [hnil] at hkept
  cases hkept

/-- At the end nothing is dropped before a character that is not of the class. -/
theorem rdropWhile_append (hlast : ∀ c ∈ cs.getLast?, p c = false) (rest : List Char) :
    (cs ++ rest).rdropWhile p = cs ++ rest.rdropWhile p := by
  rw [List.rdropWhile, List.rdropWhile, List.reverse_append, List.dropWhile_append]
  split
  · rename_i hempty
    rw [List.isEmpty_iff.mp hempty, dropWhile_eq_self fun c hc => ?_, List.reverse_reverse,
      List.reverse_nil, List.append_nil]
    rw [List.head?_reverse] at hc
    exact hlast c hc
  · rw [List.reverse_append, List.reverse_reverse]

/-- **Trimming a text whose first part ends in a character that stays**: each end by itself. -/
theorem trimBy_append {c : Char} (hlast : cs.getLast? = some c) (hc : p c = false) (rest : List Char) :
    trimBy p (cs ++ rest) = cs.dropWhile p ++ rest.rdropWhile p := by
  have hkept := getLast?_dropWhile hlast hc
  rw [trimBy, dropWhile_append_of_getLast? hlast hc]
  refine rdropWhile_append (fun d hd => ?_) rest
  rw [hkept] at hd
  rwa [← Option.some.inj hd]

/-- Around a text, the class that is trimmed off makes no difference. -/
theorem trimBy_around {before after : List Char} (hbefore : ∀ c ∈ before, p c = true)
    (hafter : ∀ c ∈ after, p c = true) (cs : List Char) : trimBy p (before ++ cs ++ after) = trimBy p cs := by
  obtain ⟨⟨before', after', hcs, hbefore', hafter'⟩, hbare⟩ := strips_trimBy p cs
  refine strips_iff.mp ⟨⟨before ++ before', after' ++ after, ?_, ?_, ?_⟩, hbare⟩
  · calc before ++ cs ++ after
        = before ++ (before' ++ trimBy p cs ++ after') ++ after := by rw [← hcs]
      _ = (before ++ before') ++ trimBy p cs ++ (after' ++ after) := by simp only [List.append_assoc]
  · intro c hc
    rcases List.mem_append.mp hc with hc | hc
    · exact hbefore c hc
    · exact hbefore' c hc
  · intro c hc
    rcases List.mem_append.mp hc with hc | hc
    · exact hafter' c hc
    · exact hafter c hc

/-- When trimming twice leaves a text as it is, so does the first time. -/
theorem bare_of_trimBy_trimBy (h : trimBy q (trimBy p cs) = cs) : Bare p cs := by
  obtain ⟨⟨before, after, hcs, -, -⟩, -⟩ := strips_trimBy p cs
  have hshort := length_trimBy_le q (trimBy p cs)
  have hlength := congrArg List.length hcs
  rw [h] at hshort
  simp only [List.length_append] at hlength
  have hbefore : before = [] := List.length_eq_zero_iff.mp (by omega)
  have hafter : after = [] := List.length_eq_zero_iff.mp (by omega)
  rw [hbefore, hafter, List.nil_append, List.append_nil] at hcs
  exact trimBy_eq_self_iff.mp hcs.symm

/-- **One class after the other, or both at once**: that comes to the same exactly when taking off the
second class has not brought the first one to an end. -/
theorem Strips.both_iff (h : Strips p cs outer) (h' : Strips q outer inner) :
    Strips (fun c => p c || q c) cs inner ↔ Bare p inner := by
  constructor
  · intro hboth
    have hfalse : ∀ c, (p c || q c) = false → p c = false := by
      intro c hc
      exact (Bool.or_eq_false_iff.mp hc).1
    exact ⟨fun c hc => hfalse c (hboth.bare.head c hc), fun c hc => hfalse c (hboth.bare.last c hc)⟩
  · intro hbare
    obtain ⟨before, after, hcs, hbefore, hafter⟩ := h.parts
    obtain ⟨before', after', houter, hbefore', hafter'⟩ := h'.parts
    refine ⟨⟨before ++ before', after' ++ after, ?_, ?_, ?_⟩, ?_, ?_⟩
    · rw [hcs, houter]
      simp only [List.append_assoc]
    · intro c hc
      rcases List.mem_append.mp hc with hc | hc
      · simp [hbefore c hc]
      · simp [hbefore' c hc]
    · intro c hc
      rcases List.mem_append.mp hc with hc | hc
      · simp [hafter' c hc]
      · simp [hafter c hc]
    · intro c hc
      simp [hbare.head c hc, h'.bare.head c hc]
    · intro c hc
      simp [hbare.last c hc, h'.bare.last c hc]

/-! ## 2. Pieces -/

variable {sep : Char} {pieces : List (List Char)}

theorem joinWith_eq_intercalate (sep : Char) :
    ∀ pieces : List (List Char), joinWith sep pieces = [sep].intercalate pieces
  | [] => by rw [joinWith, List.intercalate_nil]
  | [piece] => by rw [joinWith, List.intercalate_singleton]
  | piece :: next :: rest => by
    rw [joinWith, joinWith_eq_intercalate sep (next :: rest), List.intercalate_cons_cons,
      List.append_assoc, List.singleton_append]
    simp

/-- Splitting is the splitting of lists. -/
theorem splitAt_eq_splitOn (sep : Char) (cs : List Char) : splitAt sep cs = cs.splitOn sep := by
  induction cs with
  | nil => rw [splitAt, List.splitOn_nil]
  | cons c cs ih =>
    have hcons : (c :: cs).splitOn sep =
        if c == sep then [] :: cs.splitOn sep else (cs.splitOn sep).modifyHead (c :: ·) :=
      List.splitOnP_cons_eq_if_modifyHead c cs
    rw [splitAt, ih, hcons]
    by_cases hc : c = sep
    · rw [if_pos hc, if_pos (beq_iff_eq.mpr hc)]
    · rw [if_neg hc, if_neg (by simpa using hc)]
      cases hpieces : cs.splitOn sep with
      | nil => exact absurd hpieces (List.splitOn_ne_nil sep cs)
      | cons piece rest => rfl

theorem notMem_of_mem_splitAt {piece : List Char} (h : piece ∈ splitAt sep cs) : sep ∉ piece := by
  induction cs generalizing piece with
  | nil =>
    rw [splitAt, List.mem_singleton] at h
    simp [h]
  | cons c cs ih =>
    rw [splitAt] at h
    split at h
    · rcases List.mem_cons.mp h with rfl | h
      · exact List.not_mem_nil
      · exact ih h
    · rename_i hc
      split at h
      · rw [List.mem_singleton] at h
        simpa [h] using Ne.symm hc
      · rename_i first rest hpieces
        rcases List.mem_cons.mp h with rfl | h
        · rw [List.mem_cons, not_or]
          exact ⟨Ne.symm hc, ih (by rw [hpieces]; exact List.mem_cons_self)⟩
        · exact ih (by rw [hpieces]; exact List.mem_cons_of_mem _ h)

/-- **The pieces of a text** are the one list of pieces without the separator that makes the text up. -/
theorem splitAt_eq_iff : splitAt sep cs = pieces ↔
    pieces ≠ [] ∧ (∀ piece ∈ pieces, sep ∉ piece) ∧ cs = [sep].intercalate pieces := by
  constructor
  · rintro rfl
    refine ⟨splitAt_ne_nil sep cs, fun piece => notMem_of_mem_splitAt, ?_⟩
    rw [← joinWith_eq_intercalate, joinWith_splitAt]
  · rintro ⟨hne, hsep, rfl⟩
    rw [splitAt_eq_splitOn]
    exact List.splitOn_intercalate sep hsep hne

/-- After a separator at the end comes one more piece, which is empty. -/
theorem splitAt_append_sep (sep : Char) (cs : List Char) :
    splitAt sep (cs ++ [sep]) = splitAt sep cs ++ [[]] := by
  induction cs with
  | nil => simp [splitAt]
  | cons c cs ih =>
    rw [List.cons_append, splitAt, splitAt, ih]
    by_cases hc : c = sep
    · rw [if_pos hc, if_pos hc, List.cons_append]
    · rw [if_neg hc, if_neg hc]
      cases hpieces : splitAt sep cs with
      | nil => exact absurd hpieces (splitAt_ne_nil sep cs)
      | cons piece rest => rfl

/-- The last piece of a text that ends in no separator is not empty. -/
theorem exists_splitAt_append (hne : cs ≠ []) (hlast : cs.getLast? ≠ some sep) :
    ∃ init last, splitAt sep cs = init ++ [last] ∧ last ≠ [] := by
  have hpieces := splitAt_ne_nil sep cs
  refine ⟨_, _, (List.dropLast_append_getLast hpieces).symm, fun hempty => ?_⟩
  have hsplit : splitAt sep cs = (splitAt sep cs).dropLast ++ [[]] := by
    rw [← hempty, List.dropLast_append_getLast]
  have hjoined := joinWith_splitAt sep cs
  rw [joinWith_eq_intercalate, hsplit] at hjoined
  by_cases hinit : (splitAt sep cs).dropLast = []
  · rw [hinit, List.nil_append, List.intercalate_singleton] at hjoined
    exact hne hjoined.symm
  · have hsep : splitAt sep ([sep].intercalate (splitAt sep cs).dropLast ++ [sep]) =
        (splitAt sep cs).dropLast ++ [[]] := by
      rw [splitAt_append_sep, splitAt_eq_iff.mpr ⟨hinit, fun piece hpiece =>
        notMem_of_mem_splitAt (List.dropLast_subset _ hpiece), rfl⟩]
    rw [← (splitAt_eq_iff.mp hsep).2.2] at hjoined
    rw [← hjoined, List.getLast?_concat] at hlast
    exact hlast rfl

theorem intercalate_ne_nil (hne : pieces ≠ []) (hnonempty : ∀ piece ∈ pieces, piece ≠ []) :
    [sep].intercalate pieces ≠ [] := by
  cases pieces with
  | nil => exact absurd rfl hne
  | cons piece rest =>
    have hpiece : piece ≠ [] := hnonempty piece List.mem_cons_self
    cases rest with
    | nil => simpa using hpiece
    | cons next rest => simp [List.intercalate_cons_cons]

/-- Joined pieces consist of what they consist of and the separator. -/
theorem mem_of_mem_intercalate {c : Char} (h : c ∈ [sep].intercalate pieces) :
    c = sep ∨ ∃ piece ∈ pieces, c ∈ piece := by
  induction pieces with
  | nil =>
    rw [List.intercalate_nil] at h
    cases h
  | cons piece rest ih =>
    by_cases hrest : rest = []
    · subst hrest
      rw [List.intercalate_singleton] at h
      exact Or.inr ⟨piece, List.mem_cons_self, h⟩
    · rw [List.intercalate_cons_of_ne_nil hrest, List.append_assoc] at h
      rcases List.mem_append.mp h with h | h
      · exact Or.inr ⟨piece, List.mem_cons_self, h⟩
      · rcases List.mem_cons.mp h with h | h
        · exact Or.inl h
        · rcases ih h with h | ⟨other, hother, h⟩
          · exact Or.inl h
          · exact Or.inr ⟨other, List.mem_cons_of_mem _ hother, h⟩

/-- **Joined pieces are bare of the separator** when none of them is empty and none contains it. -/
theorem bare_intercalate (hnonempty : ∀ piece ∈ pieces, piece ≠ []) (hsep : ∀ piece ∈ pieces, sep ∉ piece) :
    Bare (· == sep) ([sep].intercalate pieces) := by
  have hother : ∀ piece ∈ pieces, ∀ c ∈ piece, (c == sep) = false := by
    intro piece hpiece c hc
    rw [beq_eq_false_iff_ne]
    rintro rfl
    exact hsep piece hpiece hc
  induction pieces with
  | nil => exact ⟨by simp, by simp⟩
  | cons piece rest ih =>
    have hpiece : piece ≠ [] := hnonempty piece List.mem_cons_self
    have hin := hother piece List.mem_cons_self
    by_cases hrest : rest = []
    · subst hrest
      rw [List.intercalate_singleton]
      exact ⟨fun c hc => hin c (List.mem_of_mem_head? hc), fun c hc => hin c (List.mem_of_mem_getLast? hc)⟩
    · have ih := ih (fun x hx => hnonempty x (List.mem_cons_of_mem _ hx))
        (fun x hx => hsep x (List.mem_cons_of_mem _ hx))
        (fun x hx => hother x (List.mem_cons_of_mem _ hx))
      rw [List.intercalate_cons_of_ne_nil hrest, List.append_assoc]
      refine ⟨fun c hc => hin c ?_, fun c hc => ?_⟩
      · rw [List.head?_append_of_ne_nil _ hpiece] at hc
        exact List.mem_of_mem_head? hc
      · have hafter : [sep].intercalate rest ≠ [] :=
          intercalate_ne_nil hrest fun x hx => hnonempty x (List.mem_cons_of_mem _ hx)
        rw [← List.append_assoc, List.getLast?_append_of_ne_nil _ hafter] at hc
        exact ih.last c hc

end CourseReview.Text
