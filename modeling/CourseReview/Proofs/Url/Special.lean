import CourseReview.Proofs.Url.Segments
import Mathlib.Data.List.TakeDrop

/-!
# URLs of the special schemes

A URL of a special scheme has an authority between its slashes and its path, and nothing that comes behind
the authority changes it.

* A text is split into scheme, authority, path and the rest where their first characters are
  (`splitScheme?_append`, `afterDoubleSlash_special`).
* What is read as a URL of a special scheme was read by the rules of these schemes (`special_of_parse`), and
  has an authority and a path of segments (`exists_of_parse_special`).
-/

namespace CourseReview.Url

variable {scheme s : String} {cs front rest host path tail : List Char} {u : Url}

/-! ## 1. Splitting a text -/

/-- A text is split where the first character stands that is not of the class. -/
theorem span_append {p : Char → Bool} (hfront : ∀ c ∈ front, p c = true)
    (hrest : ∀ c ∈ rest.head?, p c = false) : (front ++ rest).span p = (front, rest) := by
  have hdrop : rest.dropWhile p = rest := Text.dropWhile_eq_self hrest
  have htake : rest.takeWhile p = [] := by
    cases rest with
    | nil => rfl
    | cons c rest => exact List.takeWhile_cons_of_neg (by simp [hrest c rfl])
  rw [List.span_eq_takeWhile_dropWhile, List.takeWhile_append_of_pos hfront,
    List.dropWhile_append_of_pos hfront, hdrop, htake, List.append_nil]

/-- **The scheme of a text** is in its first part if what follows cannot go on a scheme and does not end
one. -/
theorem splitScheme?_append (hne : front ≠ [])
    (hrest : ∀ c ∈ rest.head?, c ≠ ':' ∧ isSchemeChar c = false) :
    splitScheme? (front ++ rest) = (splitScheme? front).map fun r => (r.1, r.2 ++ rest) := by
  obtain ⟨c, cs, rfl⟩ := List.exists_cons_of_ne_nil hne
  have hcut : (c :: cs) ++ rest = (c :: cs).takeWhile isSchemeChar ++
      ((c :: cs).dropWhile isSchemeChar ++ rest) := by
    rw [← List.append_assoc, List.takeWhile_append_dropWhile]
  have hspan : ((c :: cs) ++ rest).span isSchemeChar =
      ((c :: cs).takeWhile isSchemeChar, (c :: cs).dropWhile isSchemeChar ++ rest) := by
    rw [hcut]
    refine span_append (fun x hx => List.mem_takeWhile_imp hx) fun x hx => ?_
    cases hafter : (c :: cs).dropWhile isSchemeChar with
    | nil =>
      rw [hafter] at hx
      exact (hrest x hx).2
    | cons d after =>
      refine Text.head_dropWhile isSchemeChar (c :: cs) x ?_
      rw [hafter] at hx ⊢
      exact hx
  rw [List.cons_append] at hspan ⊢
  rw [splitScheme?, splitScheme?, hspan, List.span_eq_takeWhile_dropWhile]
  by_cases halpha : c.isAlpha = true
  · rw [if_pos halpha, if_pos halpha]
    cases hafter : (c :: cs).dropWhile isSchemeChar with
    | nil =>
      cases rest with
      | nil => rfl
      | cons d rest =>
        have hd : d ≠ ':' := (hrest d rfl).1
        simp [hd]
    | cons d after =>
      by_cases hd : d = ':'
      · subst hd
        rfl
      · simp [hd]
  · rw [if_neg halpha, if_neg halpha]
    rfl

/-! ## 2. Which texts are URLs of special schemes -/

/-- The slashes that may stand between a special scheme and the host. -/
def dropSlashes (cs : List Char) : List Char :=
  cs.dropWhile (isSlash .special)

/-- After a special scheme comes a host, whatever slashes are before it. -/
theorem parse_of_special (hs : splitScheme? (clean s) = some (scheme, rest))
    (hkind : SchemeKind.ofScheme scheme = .special) :
    parse s = afterDoubleSlash scheme (dropSlashes rest) := by
  rw [parse, parseFrom]
  dsimp only
  rw [hs]
  dsimp only
  rw [hkind]
  dsimp only
  rw [List.span_eq_takeWhile_dropWhile]
  rfl

/-- A step that comes after another is taken when that one was. -/
theorem exists_of_bind_eq_ok {α β : Type} {x : Except UrlError α} {f : α → Except UrlError β} {b : β}
    (h : x >>= f = .ok b) : ∃ a, x = .ok a ∧ f a = .ok b := by
  cases x with
  | error e => cases h
  | ok a => exact ⟨a, rfl, h⟩

/-! ## 3. The authority -/

theorem mem_of_mem_splitUserInfo {c : Char} (h : c ∈ (splitUserInfo cs).2) : c ∈ cs := by
  rw [splitUserInfo] at h
  split at h
  · exact h
  · rename_i host at_ user hspan
    rw [List.span_eq_takeWhile_dropWhile] at hspan
    obtain ⟨rfl, -⟩ := Prod.mk.inj hspan
    exact List.mem_reverse.mp ((List.takeWhile_sublist _).subset (List.mem_reverse.mp h))

theorem mem_of_mem_splitPort {c : Char} {inBrackets : Bool} (h : c ∈ (splitPort inBrackets cs).2.getD []) :
    c ∈ cs := by
  induction cs generalizing inBrackets with
  | nil => cases h
  | cons d cs ih =>
    rw [splitPort] at h
    split at h
    · exact List.mem_cons_of_mem _ h
    · exact List.mem_cons_of_mem _ (ih h)

/-- Where no backslash stands in an authority, none is left for the path. -/
theorem after_of_parseAuthority {a : UrlAuthority} {after : List Char} (hcs : '\\' ∉ cs)
    (h : parseAuthority scheme cs = .ok (a, after)) : after = [] := by
  have hafter : (((splitPort false (splitUserInfo cs).2).2.getD []).span (· != '\\')).2 = [] := by
    rw [List.span_eq_takeWhile_dropWhile, List.dropWhile_eq_nil_iff]
    intro c hc
    rw [bne_iff_ne]
    rintro rfl
    exact hcs (mem_of_mem_splitUserInfo (mem_of_mem_splitPort hc))
  rw [parseAuthority] at h
  dsimp only at h
  rw [hafter] at h
  -- with a user or without, a host and a port are read, and nothing is left of them
  split at h
  all_goals
    split at h
    · obtain ⟨_, hthrow, -⟩ := exists_of_bind_eq_ok h
      cases hthrow
    · split at h
      all_goals
        obtain ⟨host, -, h⟩ := exists_of_bind_eq_ok h
        obtain ⟨port, -, h⟩ := exists_of_bind_eq_ok h
        exact (Prod.mk.inj (Except.ok.inj h)).2.symm

/-- Without a host no URL of a special scheme comes about. -/
theorem parseAuthority_at (hkind : SchemeKind.ofScheme scheme = .special) :
    parseAuthority scheme ['@'] = .error .emptyHost := by
  rw [parseAuthority, hkind]
  rfl

/-- **What a special scheme, an authority, a path and the rest make.** -/
theorem afterDoubleSlash_special (hkind : SchemeKind.ofScheme scheme = .special)
    (hhost : ∀ c ∈ host, isSlash .special c = false ∧ endsPath c = false)
    (hpath : ∀ c ∈ path.head?, isSlash .special c = true) (hends : ∀ c ∈ path, endsPath c = false)
    (htail : ∀ c ∈ tail.head?, endsPath c = true) :
    afterDoubleSlash scheme (host ++ (path ++ tail)) =
      (parseAuthority scheme host).map fun a =>
        withPath { scheme, authority := some a.1, path := .segments [] }
          (parsePathStart .special path) tail := by
  have hauthority : (host ++ (path ++ tail)).span (fun c => !(isSlash .special c || endsPath c)) =
      (host, path ++ tail) := by
    refine span_append (fun c hc => by simp [hhost c hc]) fun c hc => ?_
    cases path with
    | nil => simp [htail c hc]
    | cons d path =>
      have hd : isSlash .special c = true := hpath c hc
      simp [hd]
  have hsplit : (path ++ tail).span (fun c => !endsPath c) = (path, tail) :=
    span_append (fun c hc => by simp [hends c hc]) fun c hc => by simp [htail c hc]
  have hbackslash : '\\' ∉ host := fun h => by
    have hslash := (hhost _ h).1
    cases hslash
  rw [afterDoubleSlash, hkind]
  dsimp only
  rw [hauthority]
  dsimp only
  rw [hsplit]
  split
  · rename_i hat
    rw [hat.1, parseAuthority_at hkind]
    rfl
  · cases hread : parseAuthority scheme host with
    | error e => rfl
    | ok a =>
      obtain ⟨a, after⟩ := a
      obtain rfl := after_of_parseAuthority hbackslash hread
      rfl

/-- A text is split at its first slash, and at the first character after it that ends a path. -/
theorem exists_parts (cs : List Char) : ∃ host path tail, cs = host ++ (path ++ tail) ∧
    (∀ c ∈ host, isSlash .special c = false ∧ endsPath c = false) ∧
    (∀ c ∈ path.head?, isSlash .special c = true) ∧ (∀ c ∈ path, endsPath c = false) ∧
    ∀ c ∈ tail.head?, endsPath c = true := by
  generalize hhost : cs.takeWhile (fun c => !(isSlash .special c || endsPath c)) = host
  generalize hrest : cs.dropWhile (fun c => !(isSlash .special c || endsPath c)) = rest
  have hhead : ∀ c ∈ rest.head?, isSlash .special c = false → endsPath c = true := by
    intro c hc hslash
    rw [← hrest] at hc
    have hstop := Text.head_dropWhile _ cs c hc
    rwa [hslash, Bool.false_or, Bool.not_eq_false'] at hstop
  refine ⟨host, rest.takeWhile (fun c => !endsPath c), rest.dropWhile (fun c => !endsPath c), ?_, ?_, ?_,
    ?_, ?_⟩
  · rw [List.takeWhile_append_dropWhile, ← hhost, ← hrest, List.takeWhile_append_dropWhile]
  · intro c hc
    rw [← hhost] at hc
    simpa using List.mem_takeWhile_imp hc
  · intro c hc
    cases rest with
    | nil => cases hc
    | cons d rest =>
      rw [List.takeWhile_cons] at hc
      split at hc
      · rename_i hd
        obtain rfl := Option.some.inj hc
        by_contra hslash
        rw [hhead d rfl (by simpa using hslash)] at hd
        cases hd
      · cases hc
  · intro c hc
    simpa using List.mem_takeWhile_imp hc
  · intro c hc
    simpa using Text.head_dropWhile _ rest c hc

/-! ## 4. Parts that stay -/

/-- The rest of a text sets the query and the fragment, and of the URL it needs the scheme only. -/
theorem exists_queryAndFragment (kind : SchemeKind) (cs : List Char) : ∃ query fragment, ∀ u : Url,
    u.kind = kind → withQueryAndFragment u cs = { u with query := query, fragment := fragment } := by
  cases cs with
  | nil => exact ⟨none, none, fun _ _ => rfl⟩
  | cons c rest =>
    by_cases hc : c = '?'
    · subst hc
      obtain ⟨queryText, rest', hspan⟩ : ∃ queryText rest', rest.span (· != '#') = (queryText, rest') :=
        ⟨_, _, rfl⟩
      refine ⟨some (percentEncode (if kind.isSpecial then inSpecialQuerySet else inQuerySet) queryText),
        rest'.tail?.map (percentEncode inFragmentSet), fun u hu => ?_⟩
      rw [withQueryAndFragment.eq_def]
      dsimp only
      split
      · rename_i tail h
        rw [← (List.cons.inj h).2, hspan, hu]
        cases rest' <;> rfl
      · rename_i h
        exact absurd rfl (h rest)
    · refine ⟨none, some (percentEncode inFragmentSet rest), fun u _ => ?_⟩
      rw [withQueryAndFragment.eq_def]
      dsimp only
      split
      · rename_i h
        exact absurd (List.cons.inj h).1 hc
      · rfl

/-- **A URL with a path behind an authority**, by its parts. -/
theorem exists_withPath (kind : SchemeKind) (cs : List Char) : ∃ query fragment, ∀ (u : Url)
    (a : UrlAuthority) (segments : List String), u.kind = kind → u.authority = some a →
      withPath u segments cs =
        { u with path := .segments segments, isSetOff := false, query := query, fragment := fragment } := by
  obtain ⟨query, fragment, h⟩ := exists_queryAndFragment kind cs
  refine ⟨query, fragment, fun u a segments hkind ha => ?_⟩
  rw [withPath, ha]
  · exact h _ hkind
  · exact fun _ _ hnone => absurd (ha.symm.trans hnone) (Option.some_ne_none a)

theorem withTrailingSlash_scheme (u : Url) : u.withTrailingSlash.scheme = u.scheme := by
  rw [withTrailingSlash]
  split
  · split <;> rfl
  · rfl

theorem withTrailingSlash_of_segments {segments : List String} (h : u.path = .segments segments) :
    u.withTrailingSlash = { u with path := .segments (closePath u.kind segments) } := by
  rw [withTrailingSlash, h]

/-- **A slash at the end** is added to the path alone. -/
theorem withTrailingSlash_withPath {a : UrlAuthority} (h : u.authority = some a) (segments : List String)
    (cs : List Char) :
    (withPath u segments cs).withTrailingSlash = withPath u (closePath u.kind segments) cs := by
  obtain ⟨query, fragment, hpath⟩ := exists_withPath u.kind cs
  rw [hpath u a _ rfl h, hpath u a _ rfl h]
  rfl

theorem withQueryAndFragment_scheme (u : Url) (cs : List Char) :
    (withQueryAndFragment u cs).scheme = u.scheme := by
  obtain ⟨query, fragment, h⟩ := exists_queryAndFragment u.kind cs
  rw [h u rfl]

theorem withPath_scheme (u : Url) (segments : List String) (cs : List Char) :
    (withPath u segments cs).scheme = u.scheme := by
  unfold withPath
  exact withQueryAndFragment_scheme ..

/-- What is read as the URL of a file is one. -/
theorem scheme_of_parseFile (h : parseFile none cs = .ok u) : u.scheme = "file" := by
  have hfile : ∀ host segments rest, (fileUrl host segments rest).scheme = "file" :=
    fun _ _ _ => withPath_scheme ..
  have hslashes : ∀ {cs}, afterFileSlashes cs = .ok u → u.scheme = "file" := by
    intro cs h
    rw [afterFileSlashes] at h
    dsimp only at h
    split at h
    · rw [← Except.ok.inj h]
      exact hfile ..
    · obtain ⟨host, -, h⟩ := exists_of_bind_eq_ok h
      split at h <;> (rw [← Except.ok.inj h]; exact hfile ..)
  rw [parseFile.eq_def] at h
  dsimp only at h
  split at h
  · split at h
    · split at h
      · split at h
        · exact hslashes h
        · rw [← Except.ok.inj h]
          exact hfile ..
      · rw [← Except.ok.inj h]
        exact hfile ..
    · rw [← Except.ok.inj h]
      exact hfile ..
  · rw [← Except.ok.inj h]
    exact hfile ..

/-! ## 5. What is read as a URL of a special scheme -/

/-- A URL that is read after two slashes keeps the scheme before them. -/
theorem scheme_of_afterDoubleSlash (h : afterDoubleSlash scheme cs = .ok u) : u.scheme = scheme := by
  rw [afterDoubleSlash] at h
  dsimp only at h
  split at h
  · obtain ⟨_, hthrow, -⟩ := exists_of_bind_eq_ok h
    cases hthrow
  · obtain ⟨a, -, h⟩ := exists_of_bind_eq_ok h
    rw [← Except.ok.inj h]
    exact withPath_scheme ..

/-- A URL of a special scheme is read by the rules of these schemes. -/
theorem special_of_parse (h : parse s = .ok u) (hu : u.kind = .special) : ∃ scheme rest,
    splitScheme? (clean s) = some (scheme, rest) ∧ SchemeKind.ofScheme scheme = .special := by
  rw [parse, parseFrom] at h
  dsimp only at h
  split at h
  · rename_i scheme rest hsplit
    refine ⟨scheme, rest, hsplit, ?_⟩
    have hscheme : u.scheme = scheme → SchemeKind.ofScheme scheme = .special := by
      rintro rfl
      exact hu
    split at h
    · rw [kind, scheme_of_parseFile h] at hu
      cases hu
    · rw [parsePlain.eq_def] at h
      split at h
      · exact hscheme (scheme_of_afterDoubleSlash h)
      · rw [← Except.ok.inj h] at hscheme
        exact hscheme (withPath_scheme ..)
      · rw [← Except.ok.inj h] at hscheme
        exact hscheme (withQueryAndFragment_scheme ..)
    · assumption
  · cases h

/-- **A URL of a special scheme** has an authority and a path of segments. -/
theorem exists_of_parse_special (h : parse s = .ok u) (hu : u.kind = .special) :
    ∃ a segments, u.authority = some a ∧ u.path = .segments segments ∧ u.isSetOff = false := by
  obtain ⟨scheme, rest, hsplit, hkind⟩ := special_of_parse h hu
  obtain ⟨host, path, tail, hcs, hhost, hpath, hends, htail⟩ := exists_parts (dropSlashes rest)
  rw [parse_of_special hsplit hkind, hcs, afterDoubleSlash_special hkind hhost hpath hends htail] at h
  cases ha : parseAuthority scheme host with
  | error e =>
    rw [ha] at h
    cases h
  | ok a =>
    obtain ⟨query, fragment, hparts⟩ := exists_withPath .special tail
    rw [ha] at h
    have hu := Except.ok.inj h
    dsimp only at hu
    rw [hparts { scheme, authority := some a.1, path := .segments [] } a.1 _ hkind rfl] at hu
    rw [← hu]
    exact ⟨a.1, _, rfl, rfl, rfl⟩

end CourseReview.Url
