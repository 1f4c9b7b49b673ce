import CourseReview.Api.Endpoint
import CourseReview.Proofs.Url.Special

/-!
# Base addresses

A base address is read from a text and its path is closed by a slash, so that it comes to the same whether
the text has this slash or not (`parseBase_append_slash`).
-/

namespace CourseReview.Url

variable {scheme s : String} {cs front tail : List Char} {u base : Url}

/-! ## 1. The shape of a base -/

/-- **A base of a special scheme** has an authority, and its path ends in an empty segment. -/
theorem exists_of_parseBase {text : String} (h : parseBase text = .ok base)
    (hbase : base.kind = .special) :
    ∃ a above, base.authority = some a ∧ base.path = .segments (above ++ [""]) ∧
      base.isSetOff = false := by
  rw [parseBase] at h
  split at h
  · rename_i u hu
    obtain rfl := Except.ok.inj h
    have hkind : u.kind = .special := by
      rw [← hbase, kind, kind, withTrailingSlash_scheme]
    obtain ⟨a, segments, ha, hpath, hoff⟩ := exists_of_parse_special hu hkind
    have hfile : u.kind ≠ .file := by
      rw [hkind]
      decide
    obtain ⟨above, habove⟩ := exists_closePath hfile segments
    rw [withTrailingSlash_of_segments hpath, habove]
    exact ⟨a, above, ha, rfl, hoff⟩
  · cases h

/-! ## 2. A slash behind the path -/

/-- **A slash behind a path** makes no difference once paths are closed. -/
theorem afterDoubleSlash_append_slash (hkind : SchemeKind.ofScheme scheme = .special)
    (hends : ∀ c ∈ front, endsPath c = false) (hlast : ∀ c ∈ front.getLast?, isSlash .special c = false)
    (htail : ∀ c ∈ tail.head?, endsPath c = true) :
    (afterDoubleSlash scheme (front ++ '/' :: tail)).map withTrailingSlash =
      (afterDoubleSlash scheme (front ++ tail)).map withTrailingSlash := by
  generalize hhost : front.takeWhile (fun c => !isSlash .special c) = host
  generalize hpath : front.dropWhile (fun c => !isSlash .special c) = path
  have hfront : front = host ++ path := by
    rw [← hhost, ← hpath, List.takeWhile_append_dropWhile]
  subst hfront
  have hslash : ∀ c ∈ path.head?, isSlash .special c = true := by
    intro c hc
    rw [← hpath] at hc
    simpa using Text.head_dropWhile _ _ c hc
  have hhost : ∀ c ∈ host, isSlash .special c = false ∧ endsPath c = false := by
    intro c hc
    refine ⟨?_, hends c (List.mem_append_left _ hc)⟩
    rw [← hhost] at hc
    simpa using List.mem_takeWhile_imp hc
  have hpathEnds : ∀ c ∈ path, endsPath c = false := fun c hc => hends c (List.mem_append_right _ hc)
  have hpathLast : ∀ c ∈ path.getLast?, isSlash .special c = false := by
    intro c hc
    refine hlast c ?_
    rw [List.getLast?_append, Option.mem_def.mp hc]
    rfl
  have hclosed : ∀ c ∈ (path ++ ['/']).head?, isSlash .special c = true := by
    cases path with
    | nil =>
      intro c hc
      obtain rfl := Option.some.inj hc
      rfl
    | cons d path => exact hslash
  have hclosedEnds : ∀ c ∈ path ++ ['/'], endsPath c = false := by
    intro c hc
    rcases List.mem_append.mp hc with hc | hc
    · exact hpathEnds c hc
    · rw [List.mem_singleton.mp hc]
      rfl
  have hwithout : host ++ path ++ tail = host ++ (path ++ tail) := List.append_assoc ..
  have hwith : host ++ path ++ '/' :: tail = host ++ ((path ++ ['/']) ++ tail) := by simp
  rw [hwithout, hwith, afterDoubleSlash_special hkind hhost hclosed hclosedEnds htail,
    afterDoubleSlash_special hkind hhost hslash hpathEnds htail,
    parsePathStart_append_slash hslash hpathLast]
  cases parseAuthority scheme host with
  | error e => rfl
  | ok a =>
    have hkind' : ∀ segments, kind { scheme, authority := some a.1, path := .segments segments } = .special :=
      fun _ => hkind
    refine congrArg Except.ok ?_
    rw [withTrailingSlash_withPath rfl, withTrailingSlash_withPath rfl, hkind']
    have hfile : SchemeKind.special ≠ .file := by decide
    obtain ⟨above, habove⟩ := exists_closePath hfile (parsePathStart .special path)
    rw [habove, closePath_append_empty]

/-- What a scheme is split off from ends as it did. -/
theorem suffix_of_splitScheme? {r : List Char} (h : splitScheme? cs = some (scheme, r)) : r <:+ cs := by
  rw [splitScheme?.eq_def] at h
  split at h
  · cases h
  · split at h
    · split at h
      · rename_i name rest hspan
        rw [List.span_eq_takeWhile_dropWhile] at hspan
        obtain ⟨-, hrest⟩ := Prod.mk.inj hspan
        obtain ⟨-, rfl⟩ := Prod.mk.inj (Option.some.inj h)
        exact (List.suffix_cons ':' rest).trans (hrest ▸ List.dropWhile_suffix _)
      · cases h
    · cases h

/-- What begins a query, a fragment or a path cannot go on a scheme. -/
theorem ends_scheme {c : Char} (h : endsPath c = true ∨ c = '/') : c ≠ ':' ∧ isSchemeChar c = false := by
  have hc : c = '?' ∨ c = '#' ∨ c = '/' := by
    simpa [endsPath, or_assoc] using h
  rcases hc with rfl | rfl | rfl <;> decide

/-- **Two texts that a slash behind the path sets apart** make the same base. -/
theorem parse_append_slash {s' : String} {c : Char} (hs : clean s = front ++ tail)
    (hs' : clean s' = front ++ '/' :: tail) (hlast : front.getLast? = some c)
    (hc : isSlash .special c = false) (hends : ∀ c ∈ front, endsPath c = false)
    (htail : ∀ c ∈ tail.head?, endsPath c = true) {r : List Char}
    (hsplit : splitScheme? front = some (scheme, r))
    (hkind : SchemeKind.ofScheme scheme = .special) :
    (parse s').map withTrailingSlash = (parse s).map withTrailingSlash := by
  have hne : front ≠ [] := by
    rintro rfl
    cases hlast
  have hwithout : splitScheme? (clean s) = some (scheme, r ++ tail) := by
    rw [hs, splitScheme?_append hne fun d hd => ends_scheme (Or.inl (htail d hd)), hsplit]
    rfl
  have hwith : splitScheme? (clean s') = some (scheme, r ++ '/' :: tail) := by
    rw [hs', splitScheme?_append hne fun d hd => ends_scheme (Or.inr ?_), hsplit]
    · rfl
    · exact (Option.some.inj hd).symm
  have hsuffix := suffix_of_splitScheme? hsplit
  rw [parse_of_special hwith hkind, parse_of_special hwithout hkind]
  by_cases hr : r = []
  · -- the slash is one of those between the scheme and the host
    subst hr
    rfl
  · have hrlast : r.getLast? = some c := by
      obtain ⟨before, hbefore⟩ := hsuffix
      rw [← hbefore, List.getLast?_append_of_ne_nil _ hr] at hlast
      exact hlast
    have hdropped := Text.getLast?_dropWhile hrlast hc
    rw [dropSlashes, dropSlashes, Text.dropWhile_append_of_getLast? hrlast hc,
      Text.dropWhile_append_of_getLast? hrlast hc]
    refine afterDoubleSlash_append_slash hkind (fun d hd => hends d ?_) (fun d hd => ?_) htail
    · exact hsuffix.subset ((List.dropWhile_suffix _).subset hd)
    · rw [hdropped] at hd
      rwa [← Option.some.inj hd]

/-! ## 3. Texts of base addresses -/

/-- The first text goes up to the end of the path of an address, and ends in a character that is no slash
and that stays when the text is read; the second is a query or a fragment, or nothing, and may end in white
space. -/
structure OpenPath (front tail : String) : Prop where
  last : ∃ c, front.toList.getLast? = some c ∧ isSlash .special c = false ∧ Text.isBlank c = false ∧
    0x20 < c.toNat
  path : ∀ c ∈ front.toList, endsPath c = false
  tail : ∀ c ∈ (tail.toList.rdropWhile Text.isBlank).head?, endsPath c = true

/-- **What is read of such texts**, with something behind the path that stays or without. -/
theorem OpenPath.exists_clean {front tail : String} (h : OpenPath front tail) :
    ∃ (front' tail' : List Char) (c : Char), front'.getLast? = some c ∧ isSlash .special c = false ∧
      (∀ c ∈ front', endsPath c = false) ∧ (∀ c ∈ tail'.head?, endsPath c = true) ∧
      clean (Text.trim (front ++ tail)) = front' ++ tail' ∧
      clean (Text.trim (front ++ "/" ++ tail)) = front' ++ '/' :: tail' := by
  obtain ⟨c, hlast, hslash, hblank, hcontrol⟩ := h.last
  have hcontrol' : decide (c.toNat ≤ 0x20) = false := by simpa using hcontrol
  let kept (c : Char) : Bool := c != '\t' && c != '\n' && c != '\r'
  have hkept : ∀ d : Char, 0x20 < d.toNat → kept d = true := by
    intro d hd
    have hne : ∀ e : Char, e.toNat ≤ 0x20 → d ≠ e := by
      rintro e he rfl
      omega
    simp [kept, hne '\t' (by decide), hne '\n' (by decide), hne '\r' (by decide)]
  have hends : ∀ d, endsPath d = true → kept d = true := by
    intro d hd
    have hd : d = '?' ∨ d = '#' := by simpa [endsPath] using hd
    rcases hd with rfl | rfl <;> rfl
  have hlast' := Text.getLast?_dropWhile hlast hblank
  have hlast'' := Text.getLast?_dropWhile (p := fun c => decide (c.toNat ≤ 0x20)) hlast' hcontrol'
  -- each end is trimmed by itself, whatever stands between the two
  have hread : ∀ mid : List Char, (mid = [] ∨ mid = ['/']) → ∀ s : String,
      s.toList = front.toList ++ (mid ++ tail.toList) → clean (Text.trim s) =
        ((front.toList.dropWhile Text.isBlank).dropWhile (fun c => decide (c.toNat ≤ 0x20))).filter kept ++
          (mid ++ ((tail.toList.rdropWhile Text.isBlank).rdropWhile
            (fun c => decide (c.toNat ≤ 0x20))).filter kept) := by
    intro mid hmid s hs
    have hstays : ∀ p : Char → Bool, p '/' = false → ∀ d ∈ mid.getLast?, p d = false := by
      rintro p hp d hd
      rcases hmid with rfl | rfl
      · cases hd
      · rwa [← Option.some.inj hd]
    have hmid' : mid.filter kept = mid := by rcases hmid with rfl | rfl <;> rfl
    rw [clean, Text.trim, String.toList_ofList, hs, Text.trimBy_append hlast hblank,
      Text.rdropWhile_append (hstays _ (by decide)), Text.trimBy_append hlast' hcontrol',
      Text.rdropWhile_append (hstays _ (by decide)), List.filter_append, List.filter_append, hmid']
  refine ⟨_, _, c, ?_, hslash, fun d hd => ?_, fun d hd => ?_, ?_, hread ['/'] (Or.inr rfl) _ ?_⟩
  · obtain ⟨init, hinit⟩ := List.getLast?_eq_some_iff.mp hlast''
    rw [hinit, List.filter_append, List.filter_cons_of_pos (hkept c hcontrol)]
    exact List.getLast?_concat
  · exact h.path d ((List.dropWhile_suffix _).subset ((List.dropWhile_suffix _).subset
      (List.mem_of_mem_filter hd)))
  · have hprefix := List.rdropWhile_prefix (fun c : Char => decide (c.toNat ≤ 0x20))
      (tail.toList.rdropWhile Text.isBlank)
    generalize (tail.toList.rdropWhile Text.isBlank).rdropWhile (fun c => decide (c.toNat ≤ 0x20)) = kept'
      at hd hprefix
    cases kept' with
    | nil => cases hd
    | cons e rest =>
      obtain ⟨after, hafter⟩ := hprefix
      have he : endsPath e = true := h.tail e (by rw [← hafter]; rfl)
      rw [List.filter_cons_of_pos (hends e he)] at hd
      rwa [← Option.some.inj hd]
  · exact hread [] (Or.inl rfl) _ (by rw [String.toList_append, List.nil_append])
  · rw [String.toList_append, String.toList_append, List.append_assoc]
    rfl

theorem parseBase_eq (text : String) :
    parseBase text = ((parse (Text.trim text)).map withTrailingSlash).mapError ReviewError.badUrl := by
  rw [parseBase]
  cases parse (Text.trim text) <;> rfl

/-- **It makes no difference to a base of a special scheme** whether its path is written with a slash at the
end or without. -/
theorem parseBase_append_slash {front tail : String} (h : OpenPath front tail)
    (hbase : base.kind = .special) :
    parseBase (front ++ "/" ++ tail) = .ok base ↔ parseBase (front ++ tail) = .ok base := by
  obtain ⟨front', tail', c, hlast, hc, hends, htail, hclean, hclean'⟩ := h.exists_clean
  have hne : front' ≠ [] := by
    rintro rfl
    cases hlast
  have hsame : ∀ rest : List Char, (∀ d ∈ rest.head?, endsPath d = true ∨ d = '/') →
      ∀ text, clean (Text.trim text) = front' ++ rest → parseBase text = .ok base →
        parseBase (front ++ "/" ++ tail) = parseBase (front ++ tail) := by
    intro rest hrest text htext hparse
    rw [parseBase] at hparse
    split at hparse
    · rename_i u hu
      have hkind : u.kind = .special := by
        rw [← hbase, ← Except.ok.inj hparse, kind, kind, withTrailingSlash_scheme]
      obtain ⟨scheme, after, hsplit, hscheme⟩ := special_of_parse hu hkind
      rw [htext, splitScheme?_append hne fun d hd => ends_scheme (hrest d hd)] at hsplit
      obtain ⟨⟨name, r⟩, hname, heq⟩ := Option.map_eq_some_iff.mp hsplit
      obtain ⟨rfl, -⟩ := Prod.mk.inj heq
      rw [parseBase_eq, parseBase_eq, parse_append_slash hclean hclean' hlast hc hends htail hname hscheme]
    · cases hparse
  constructor
  · intro hparse
    rw [← hsame ('/' :: tail') (fun d hd => Or.inr (Option.some.inj hd).symm) _ hclean' hparse]
    exact hparse
  · intro hparse
    rw [hsame tail' (fun d hd => Or.inl (htail d hd)) _ hclean hparse]
    exact hparse

/-! ## 4. The base of the default settings -/

/-- The base address that the default settings name. -/
def localBase : Url where
  scheme := "http"
  authority := some { host := .name "localhost", port := some 18010 }
  path := .segments [""]

theorem eq_ok_of_toOption {α : Type} {x : Outcome α} {a : α} (h : x.toOption = some a) : x = .ok a := by
  cases x with
  | error e => cases h
  | ok b => rw [Option.some.inj h]

theorem parseBase_localBase : parseBase ({} : ApiSettings).baseUrl = .ok localBase :=
  eq_ok_of_toOption (by decide +kernel)

end CourseReview.Url
