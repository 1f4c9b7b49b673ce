import CourseReview.Api.Endpoint
import CourseReview.Proofs.Url.Special

/-!
# References

What a reference comes to that is read beside a base.

* A relative path takes the place of the last segment of the base's path (`join_of_relative`).
* A reference that names neither a scheme nor a host is read beside every base but those that can be none
  (`reaches_iff_of_isRelative`).
-/

namespace CourseReview.Url

variable {s path : String} {cs : List Char} {u base : Url} {above : List String}

/-! ## 1. Relative paths -/

/-- A text without blanks and control characters is read as it is. -/
theorem clean_eq_self (h : ∀ c ∈ s.toList, 0x20 < c.toNat) : clean s = s.toList := by
  have hbare : Text.Bare (fun c => decide (c.toNat ≤ 0x20)) s.toList :=
    ⟨fun c hc => by simpa using h c (List.mem_of_mem_head? hc),
      fun c hc => by simpa using h c (List.mem_of_mem_getLast? hc)⟩
  rw [clean, Text.trimBy_eq_self_iff.mpr hbare, List.filter_eq_self]
  intro c hc
  have hne : ∀ d : Char, d.toNat ≤ 0x20 → c ≠ d := by
    rintro d hd rfl
    exact absurd (h c hc) (by omega)
  simp [hne '\t' (by decide), hne '\n' (by decide), hne '\r' (by decide)]

/-- A text without a colon names no scheme. -/
theorem splitScheme?_eq_none (h : ':' ∉ cs) : splitScheme? cs = none := by
  rw [splitScheme?.eq_def]
  split
  · rfl
  · split
    · split
      · rename_i name rest hspan
        rw [List.span_eq_takeWhile_dropWhile] at hspan
        have hmem : ':' ∈ List.dropWhile isSchemeChar _ :=
          (Prod.mk.inj hspan).2 ▸ List.mem_cons_self
        exact absurd ((List.dropWhile_suffix _).subset hmem) h
      · rfl
    · rfl

/-- The URL that another becomes when its path is replaced and nothing is left behind the path. -/
def withSegments (u : Url) (segments : List String) : Url :=
  { u with path := .segments segments, isSetOff := false, query := none, fragment := none }

/-- What begins with neither a slash nor `?` nor `#` is a path beside the base's last segment. -/
theorem parseRelative_of_path {c : Char} {rest : List Char} (base : Url) (hslash : isSlash .special c = false)
    (hends : endsPath c = false) :
    parseRelative base (c :: rest) = .ok (besideLast base (c :: rest)) := by
  have hc : c ≠ '/' ∧ c ≠ '\\' := by simpa [isSlash, SchemeKind.isSpecial] using hslash
  have hc' : c ≠ '?' ∧ c ≠ '#' := by simpa [endsPath] using hends
  rw [parseRelative.eq_def]
  split
  · rename_i h
    cases h
  · rename_i h
    exact absurd (List.cons.inj h).1 hc'.1
  · rename_i h
    exact absurd (List.cons.inj h).1 hc'.2
  · rename_i h
    obtain ⟨rfl, rfl⟩ := List.cons.inj h
    rw [if_neg (by simpa using hc)]

/-- **A relative path** is put where the last segment of the base's path stood. -/
theorem join_of_relative {a : UrlAuthority} (hbase : base.kind = .special) (ha : base.authority = some a)
    (hpath : base.path = .segments (above ++ [""])) (hclean : clean s = cs) (hne : cs ≠ [])
    (hslash : ∀ c ∈ cs.head?, isSlash .special c = false) (hends : ∀ c ∈ cs, endsPath c = false)
    (hcolon : ':' ∉ cs) : base.join s = .ok (withSegments base (parsePath .special above cs)) := by
  obtain ⟨c, rest, rfl⟩ := List.exists_cons_of_ne_nil hne
  have hc := hends c List.mem_cons_self
  have hspan : (c :: rest).span (fun c => !endsPath c) = (c :: rest, []) := by
    have h : (c :: rest ++ []).span (fun c => !endsPath c) = (c :: rest, []) :=
      span_append (fun d hd => by simp [hends d hd]) (by simp)
    rwa [List.append_nil] at h
  have habove : segmentsAbove base = above := by
    rw [segmentsAbove, baseSegments, hpath, hbase]
    simp
  have hbeside : besideLast base (c :: rest) = withSegments base (parsePath .special above (c :: rest)) := by
    rw [besideLast, hspan]
    dsimp only
    rw [hbase, habove, withPath, withSegments, ha]
    · rfl
    · exact fun _ _ hnone => absurd (ha.symm.trans hnone) (Option.some_ne_none a)
  have hroot : base.isRootless = false := by rw [isRootless, hpath]
  rw [join, parseFrom, hclean]
  dsimp only
  rw [splitScheme?_eq_none hcolon]
  dsimp only
  split
  · rename_i h
    obtain rfl := (List.cons.inj h).1
    cases hc
  · rw [hroot, if_neg Bool.false_ne_true, hbase, if_neg (by decide),
      parseRelative_of_path base (hslash c rfl) hc, hbeside]

/-! ## 2. References that are read -/

/-- The endpoint's path is read beside the base, and segments can be added to what it is read as. -/
def Reaches (base : Url) (path : String) : Prop :=
  ∃ u, base.join (String.ofList (path.toList.dropWhile (· == '/'))) = .ok u ∧ u.isRootless = false

/-- **An address comes about** whatever the ids are, or whatever they are none does. -/
theorem exists_endpoint_iff {segments : List String} {slash : Bool} :
    (∃ u, base.endpoint path segments slash = .ok u) ↔ base.Reaches path := by
  rw [endpoint, Reaches]
  cases base.join (String.ofList (path.toList.dropWhile (· == '/'))) with
  | error e => simp
  | ok u =>
    cases hpath : u.path with
    | rootless text => simp [extend?, isRootless, hpath]
    | segments list => simp [extend?, isRootless, hpath]

theorem isRootless_withQueryAndFragment (u : Url) (cs : List Char) :
    (withQueryAndFragment u cs).isRootless = u.isRootless := by
  obtain ⟨query, fragment, h⟩ := exists_queryAndFragment u.kind cs
  rw [h u rfl]
  rfl

theorem isRootless_withPath (u : Url) (segments : List String) (cs : List Char) :
    (withPath u segments cs).isRootless = false := by
  unfold withPath
  rw [isRootless_withQueryAndFragment]
  rfl

/-- Whether a text begins with two slashes, which a host is after. -/
def namesHost : List Char → Bool
  | c :: d :: _ => isSlash .special c && isSlash .special d
  | _ => false

theorem isRootless_besideLast (base : Url) (cs : List Char) : (besideLast base cs).isRootless = false := by
  rw [besideLast]
  exact isRootless_withPath ..

/-- Without a host, what a path, a query or a fragment makes beside a base has a path of segments. -/
theorem exists_parseRelative (hroot : base.isRootless = false) (hhost : namesHost cs = false) :
    ∃ u, parseRelative base cs = .ok u ∧ u.isRootless = false := by
  rw [parseRelative.eq_def]
  split
  · exact ⟨_, rfl, hroot⟩
  · exact ⟨_, rfl, (isRootless_withQueryAndFragment ..).trans hroot⟩
  · exact ⟨_, rfl, (isRootless_withQueryAndFragment base _).trans hroot⟩
  · rename_i c rest _ _
    split
    · rename_i hc
      split
      · rename_i d rest
        have hd : (d == '/' || d == '\\') = false := by
          have hc : isSlash .special c = true := hc
          rw [namesHost, hc, Bool.true_and] at hhost
          exact hhost
        rw [hd, if_neg Bool.false_ne_true]
        exact ⟨_, rfl, isRootless_withPath ..⟩
      · exact ⟨_, rfl, isRootless_withPath ..⟩
    · exact ⟨_, rfl, isRootless_besideLast ..⟩

/-- **The same for the base of a file.** -/
theorem exists_parseFile (hroot : base.isRootless = false) (hhost : namesHost cs = false) :
    ∃ u, parseFile (some base) cs = .ok u ∧ u.isRootless = false := by
  have hfile : ∀ host segments rest, (fileUrl host segments rest).isRootless = false :=
    fun _ _ _ => isRootless_withPath ..
  rw [parseFile.eq_def]
  dsimp only
  split
  · rename_i c rest
    split
    · rename_i hc
      split
      · rename_i d rest
        have hd : isSlash .file d = false := by
          have hc : isSlash .special c = true := hc
          rw [namesHost, hc, Bool.true_and] at hhost
          exact hhost
        rw [hd, if_neg Bool.false_ne_true]
        exact ⟨_, rfl, hfile ..⟩
      · exact ⟨_, rfl, hfile ..⟩
    · split
      · exact ⟨_, rfl, (isRootless_withQueryAndFragment ..).trans hroot⟩
      · split
        · exact ⟨_, rfl, (isRootless_withQueryAndFragment base _).trans hroot⟩
        · split
          · exact ⟨_, rfl, hfile ..⟩
          · exact ⟨_, rfl, isRootless_besideLast ..⟩
  · exact ⟨_, rfl, hroot⟩

/-- The text that an endpoint's path is read as beside a base. -/
def readReference (path : String) : List Char :=
  clean (String.ofList (path.toList.dropWhile (· == '/')))

/-- The endpoint's path names neither a scheme nor a host. -/
structure IsRelative (path : String) : Prop where
  scheme : splitScheme? (readReference path) = none
  host : namesHost (readReference path) = false

/-- **An endpoint without scheme and host** is read beside every base but those that can be none. -/
theorem reaches_iff_of_isRelative (h : IsRelative path) : base.Reaches path ↔ base.isRootless = false := by
  obtain ⟨hscheme, hhost⟩ := h
  rw [readReference] at hscheme hhost
  rw [Reaches, join, parseFrom]
  dsimp only
  rw [hscheme]
  dsimp only
  generalize clean (String.ofList (path.toList.dropWhile (· == '/'))) = cs at hhost
  split
  · -- a fragment alone is read beside every base, and leaves its path
    rename_i tail
    rw [← isRootless_withQueryAndFragment base ('#' :: tail)]
    constructor
    · rintro ⟨u, hu, hroot⟩
      rwa [← Except.ok.inj hu] at hroot
    · exact fun hroot => ⟨_, rfl, hroot⟩
  · cases hroot : base.isRootless with
    | true => simp
    | false =>
      rw [if_neg Bool.false_ne_true]
      refine iff_of_true ?_ rfl
      split
      · exact exists_parseFile hroot hhost
      · exact exists_parseRelative hroot hhost

end CourseReview.Url
