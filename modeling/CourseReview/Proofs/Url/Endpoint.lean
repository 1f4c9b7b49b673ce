import CourseReview.Proofs.Url.Base
import CourseReview.Proofs.Url.Reference

/-!
# Addresses below a base

The address of a request is made of a base, the path of an endpoint and the ids asked for.

* The endpoint's segments come behind those of the base, whatever slashes are around them
  (`join_endpoint`).
* Each id becomes one segment, which holds it literally (`foldl_pushSegment`).
* The address is the base with both behind its path (`endpoint_eq`), and from its text the ids are got back
  (`keys_of_text`).

`endpoint_literal` says all of this about the addresses below one base.
-/

namespace CourseReview.Url

variable {s path : String} {cs : List Char} {u base : Url} {above parts segments keys : List String}

/-! ## 1. Endpoints and keys -/

/-- A letter, a digit, `_` or `-`: what every URL writes as it is. -/
def isPlainChar (c : Char) : Bool :=
  c.isAlphanum || c == '_' || c == '-'

/-- A segment of such characters. -/
structure IsPlain (s : String) : Prop where
  nonempty : s ≠ ""
  chars : ∀ c ∈ s.toList, isPlainChar c = true

/-- The path of an endpoint with these segments: slashes between them, any number of slashes before them,
and one behind them or none. -/
structure WritesEndpoint (path : String) (parts : List String) : Prop where
  nonempty : parts ≠ []
  plain : ∀ p ∈ parts, IsPlain p
  written : ∃ before after, path.toList = before ++ ['/'].intercalate (parts.map String.toList) ++ after ∧
    (∀ c ∈ before, c = '/') ∧ (after = [] ∨ after = ['/'])

/-- A text that can be written as one segment.  Tabs and line ends cannot stand in a URL, and `.` and `..`
mean another place. -/
structure IsKey (k : String) : Prop where
  chars : ∀ c ∈ k.toList, c ≠ '\t' ∧ c ≠ '\n' ∧ c ≠ '\r'
  single : k ≠ "."
  double : k ≠ ".."

theorem isKey_empty : IsKey "" :=
  ⟨by simp, by decide, by decide⟩

theorem toNat_lt_of_isAlphanum {c : Char} (h : c.isAlphanum = true) : c.toNat < 128 := by
  unfold Char.isAlphanum Char.isAlpha Char.isUpper Char.isLower Char.isDigit at h
  simp only [Bool.or_eq_true, Bool.and_eq_true, decide_eq_true_eq, ge_iff_le, UInt32.le_iff_toNat_le] at h
  change c.val.toNat < 128
  rcases h with (⟨-, h⟩ | ⟨-, h⟩) | ⟨-, h⟩ <;> exact lt_of_le_of_lt h (by decide)

/-- The character is written as it is and read as nothing else. -/
structure StandsForItself (c : Char) : Prop where
  visible : 0x20 < c.toNat
  ne_dot : c ≠ '.'
  ne_colon : c ≠ ':'
  not_slash : isSlash .special c = false
  not_end : endsPath c = false
  path : inPathSet c = false
  segment : inSpecialSegmentSet c = false

theorem standsForItself {c : Char} (h : isPlainChar c = true) : StandsForItself c := by
  have hascii : ∀ n : Fin 128, isPlainChar (Char.ofNat n) = true →
      0x20 < (Char.ofNat n).toNat ∧ Char.ofNat n ≠ '.' ∧ Char.ofNat n ≠ ':' ∧
        isSlash .special (Char.ofNat n) = false ∧ endsPath (Char.ofNat n) = false ∧
        inPathSet (Char.ofNat n) = false ∧ inSpecialSegmentSet (Char.ofNat n) = false := by
    decide
  have hlt : c.toNat < 128 := by
    have hc : (c.isAlphanum = true ∨ c = '_') ∨ c = '-' := by simpa [isPlainChar] using h
    rcases hc with (hc | rfl) | rfl
    · exact toNat_lt_of_isAlphanum hc
    · decide
    · decide
  have hc := hascii ⟨c.toNat, hlt⟩
  rw [Char.ofNat_toNat] at hc
  obtain ⟨hvisible, hdot, hcolon, hslash, hend, hpath, hsegment⟩ := hc h
  exact ⟨hvisible, hdot, hcolon, hslash, hend, hpath, hsegment⟩

theorem IsPlain.slash_notMem (h : IsPlain s) : '/' ∉ s.toList :=
  fun hc => absurd (standsForItself (h.chars _ hc)).not_slash (by decide)

theorem IsPlain.percentEncode_eq (h : IsPlain s) : percentEncode inPathSet s.toList = s := by
  rw [percentEncode_eq_ofList fun c hc => (standsForItself (h.chars c hc)).path, String.ofList_toList]

/-- A plain segment means no other place. -/
theorem IsPlain.isOrdinary (h : IsPlain s) : IsOrdinary s := by
  have hkey : encodeKey s = s := by
    rw [encodeKey, percentEncode_eq_ofList fun c hc => (standsForItself (h.chars c hc)).segment,
      String.ofList_toList]
  have hdot : '.' ∉ s.toList := fun hc => (standsForItself (h.chars _ hc)).ne_dot rfl
  rw [← hkey]
  refine isOrdinary_encodeKey ?_ ?_
  · rintro rfl
    exact hdot (by decide)
  · rintro rfl
    exact hdot (by decide)

/-! ## 2. Endpoints -/

/-- The text that the segments make up between the slashes around them. -/
def joinParts (parts : List String) : List Char :=
  ['/'].intercalate (parts.map String.toList)

theorem char_of_mem_joinParts (hplain : ∀ p ∈ parts, IsPlain p) {c : Char} (h : c ∈ joinParts parts) :
    c = '/' ∨ isPlainChar c = true := by
  rcases Text.mem_of_mem_intercalate h with h | ⟨piece, hpiece, h⟩
  · exact Or.inl h
  · obtain ⟨p, hp, rfl⟩ := List.mem_map.mp hpiece
    exact Or.inr ((hplain p hp).chars c h)

/-- **The pieces of the text** are the segments. -/
theorem splitSlashes_joinParts (hne : parts ≠ []) (hplain : ∀ p ∈ parts, IsPlain p) :
    splitSlashes .special (joinParts parts) = parts.map String.toList := by
  have hsame : (joinParts parts).map (fun c => if isSlash .special c then '/' else c) = joinParts parts := by
    refine (List.map_congr_left fun c hc => ?_).trans (List.map_id _)
    rcases char_of_mem_joinParts hplain hc with rfl | hc
    · rfl
    · rw [(standsForItself hc).not_slash, if_neg Bool.false_ne_true]
      rfl
  rw [splitSlashes, hsame, Text.splitAt_eq_iff]
  refine ⟨by simpa using hne, fun piece hpiece h => ?_, rfl⟩
  obtain ⟨p, hp, rfl⟩ := List.mem_map.mp hpiece
  exact (hplain p hp).slash_notMem h

/-- They are put behind the segments that are there, with an empty one for a slash at the end. -/
theorem parsePath_joinParts (above : List String) (hne : parts ≠ []) (hplain : ∀ p ∈ parts, IsPlain p) :
    parsePath .special above (joinParts parts) = above ++ parts ∧
      parsePath .special above (joinParts parts ++ ['/']) = above ++ parts ++ [""] := by
  have hfile : SchemeKind.special ≠ .file := by decide
  have hencode : (parts.map String.toList).map (percentEncode inPathSet) = parts := by
    rw [List.map_map]
    exact (List.map_congr_left fun p hp => (hplain p hp).percentEncode_eq).trans (List.map_id _)
  have hordinary : ∀ p ∈ parts, IsOrdinary p := fun p hp => (hplain p hp).isOrdinary
  constructor
  · rw [parsePath, trimFilePath_of_ne_file hfile, readSegments, splitSlashes_joinParts hne hplain, hencode,
      addSegments_of_ordinary hfile above hordinary]
  · have hempty : percentEncode inPathSet [] = "" := rfl
    rw [parsePath, trimFilePath_of_ne_file hfile, readSegments, splitSlashes_append_slash,
      splitSlashes_joinParts hne hplain, List.map_append, hencode, List.map_singleton, hempty,
      addSegments_append_empty hfile, addClosed_of_ordinary hfile above hordinary]

/-- Without the slashes before it, the path of an endpoint begins with its first segment. -/
theorem WritesEndpoint.exists_reference (h : WritesEndpoint path parts) :
    ∃ after, (after = [] ∨ after = ['/']) ∧
      path.toList.dropWhile (· == '/') = joinParts parts ++ after ∧ joinParts parts ≠ [] ∧
      ∀ c ∈ (joinParts parts).head?, c ≠ '/' := by
  obtain ⟨before, after, hwritten, hbefore, hafter⟩ := h.written
  have hnonempty : ∀ piece ∈ parts.map String.toList, piece ≠ [] := by
    intro piece hpiece
    obtain ⟨p, hp, rfl⟩ := List.mem_map.mp hpiece
    simpa using (h.plain p hp).nonempty
  have hsep : ∀ piece ∈ parts.map String.toList, '/' ∉ piece := by
    intro piece hpiece hc
    obtain ⟨p, hp, rfl⟩ := List.mem_map.mp hpiece
    exact (h.plain p hp).slash_notMem hc
  have hne : joinParts parts ≠ [] := Text.intercalate_ne_nil (by simpa using h.nonempty) hnonempty
  have hbare : Text.Bare (· == '/') (joinParts parts) := Text.bare_intercalate hnonempty hsep
  refine ⟨after, hafter, ?_, hne, fun c hc => by simpa using hbare.head c hc⟩
  rw [hwritten]
  exact Text.dropWhile_before (fun c hc => beq_iff_eq.mpr (hbefore c hc)) hbare hne after

/-- **The segments of an endpoint** come behind those of the base. -/
theorem join_endpoint {a : UrlAuthority} (hbase : base.kind = .special) (ha : base.authority = some a)
    (hpath : base.path = .segments (above ++ [""])) (h : WritesEndpoint path parts) :
    ∃ closing, (closing = [] ∨ closing = [""]) ∧
      base.join (String.ofList (path.toList.dropWhile (· == '/'))) =
        .ok (withSegments base (above ++ parts ++ closing)) := by
  obtain ⟨after, hafter, hread, hne, hhead⟩ := h.exists_reference
  have hchar : ∀ c ∈ joinParts parts ++ after, c = '/' ∨ isPlainChar c = true := by
    intro c hc
    rcases List.mem_append.mp hc with hc | hc
    · exact char_of_mem_joinParts h.plain hc
    · rcases hafter with rfl | rfl
      · cases hc
      · exact Or.inl (List.mem_singleton.mp hc)
  have hspec : ∀ c ∈ joinParts parts ++ after, 0x20 < c.toNat ∧ c ≠ ':' ∧ endsPath c = false := by
    intro c hc
    rcases hchar c hc with rfl | hc
    · decide
    · have hself := standsForItself hc
      exact ⟨hself.visible, hself.ne_colon, hself.not_end⟩
  have hslash : ∀ c ∈ (joinParts parts ++ after).head?, isSlash .special c = false := by
    intro c hc
    rw [List.head?_append_of_ne_nil _ hne] at hc
    rcases char_of_mem_joinParts h.plain (List.mem_of_mem_head? hc) with rfl | hplain
    · exact absurd rfl (hhead '/' hc)
    · exact (standsForItself hplain).not_slash
  have hclean : clean (String.ofList (joinParts parts ++ after)) = joinParts parts ++ after := by
    rw [clean_eq_self, String.toList_ofList]
    rw [String.toList_ofList]
    exact fun c hc => (hspec c hc).1
  obtain ⟨hopen, hclosed⟩ := parsePath_joinParts above h.nonempty h.plain
  have hjoin := join_of_relative hbase ha hpath hclean (by simp [hne]) hslash
    (fun c hc => (hspec c hc).2.2) fun hc => (hspec ':' hc).2.1 rfl
  rw [hread, hjoin]
  rcases hafter with rfl | rfl
  · exact ⟨[], Or.inl rfl, by rw [List.append_nil, List.append_nil, hopen]⟩
  · exact ⟨[""], Or.inr rfl, by rw [hclosed]⟩

/-! ## 3. Keys -/

/-- A key is put behind the segments that are there, literally. -/
theorem pushSegment_key {k : String} (hk : IsKey k) (hempty : segments ≠ [""]) :
    pushSegment .special segments k = segments ++ [encodeKey k] := by
  have hkept : k.toList.filter (fun c => c != '\t' && c != '\n' && c != '\r') = k.toList := by
    rw [List.filter_eq_self]
    intro c hc
    simpa [and_assoc] using hk.chars c hc
  have hset : SchemeKind.special.isSpecial = true := rfl
  have hnot : ¬(decide (k = ".") || decide (k = "..")) = true := by simp [hk.single, hk.double]
  have hfile : SchemeKind.special ≠ .file := by decide
  rw [pushSegment, if_neg hnot, hkept, hset, if_pos rfl, if_neg hempty, trimFilePath_of_ne_file hfile]
  exact addSegment_of_ordinary hfile (isOrdinary_encodeKey hk.single hk.double) segments true

/-- **One segment for each key.** -/
theorem foldl_pushSegment (hne : segments ≠ []) (hempty : segments ≠ [""])
    (hkeys : ∀ k ∈ keys, IsKey k) :
    keys.foldl (pushSegment .special) segments = segments ++ keys.map encodeKey := by
  induction keys generalizing segments with
  | nil => simp
  | cons k keys ih =>
    have hnext : segments ++ [encodeKey k] ≠ [""] := by
      obtain ⟨s, rest, rfl⟩ := List.exists_cons_of_ne_nil hne
      simp
    rw [List.foldl_cons, pushSegment_key (hkeys k List.mem_cons_self) hempty,
      ih (by simp) hnext fun k' hk' => hkeys k' (List.mem_cons_of_mem _ hk'), List.map_cons,
      List.append_assoc, List.singleton_append]

theorem extend?_withSegments (u : Url) (list further : List String) :
    (withSegments u list).extend? further =
      some (withSegments u (further.foldl (pushSegment u.kind) (popIfEmpty list))) := rfl

/-- **What an address below a base is**, exactly: the base with the endpoint's segments and the keys behind
its own, and an empty one for a slash at the end. -/
theorem endpoint_eq {a : UrlAuthority} (hbase : base.kind = .special) (ha : base.authority = some a)
    (hpath : base.path = .segments (above ++ [""])) (h : WritesEndpoint path parts)
    (hkeys : ∀ k ∈ keys, IsKey k) (slash : Bool) :
    base.endpoint path keys slash =
      .ok (withSegments base (above ++ parts ++ (keys.map encodeKey ++ if slash then [""] else []))) := by
  obtain ⟨closing, hclosing, hjoin⟩ := join_endpoint hbase ha hpath h
  obtain ⟨init, last, hparts, hlast⟩ : ∃ init last, above ++ parts = init ++ [last] ∧ last ≠ "" := by
    obtain ⟨init, last, hinit⟩ := (List.eq_nil_or_concat' parts).resolve_left h.nonempty
    refine ⟨above ++ init, last, by rw [hinit, List.append_assoc], (h.plain last ?_).nonempty⟩
    rw [hinit]
    exact List.mem_append_right _ (List.mem_singleton_self last)
  have hpop : popIfEmpty (above ++ parts ++ closing) = above ++ parts := by
    rw [hparts, popIfEmpty]
    rcases hclosing with rfl | rfl
    · simp [hlast]
    · simp
  have hall : ∀ k ∈ keys ++ (if slash then [""] else []), IsKey k := by
    intro k hk
    rcases List.mem_append.mp hk with hk | hk
    · exact hkeys k hk
    · split at hk
      · rw [List.mem_singleton.mp hk]
        exact isKey_empty
      · cases hk
  have hpush : (keys ++ if slash then [""] else []).foldl (pushSegment .special) (above ++ parts) =
      above ++ parts ++ (keys.map encodeKey ++ if slash then [""] else []) := by
    rw [foldl_pushSegment _ _ hall, List.map_append]
    · cases slash <;> rfl
    · simp [hparts]
    · rw [hparts]
      intro h
      have hend := congrArg List.getLast? h
      rw [List.getLast?_concat] at hend
      exact hlast (Option.some.inj hend)
  rw [endpoint, hjoin]
  dsimp only
  rw [extend?_withSegments, hbase, hpop, hpush]

/-! ## 4. Texts of addresses -/

theorem toList_pathText (h : u.path = .segments segments) :
    u.pathText.toList = segments.flatMap fun s => '/' :: s.toList := by
  rw [pathText, h]
  simp [List.flatMap_map]

/-- The segments are the pieces of the path's text, behind the empty one before its first slash. -/
theorem splitAt_flatMap (hsegments : ∀ s ∈ segments, '/' ∉ s.toList) :
    Text.splitAt '/' (segments.flatMap fun s => '/' :: s.toList) = [] :: segments.map String.toList := by
  have hjoin : ∀ (first : List Char) (rest : List String),
      ['/'].intercalate (first :: rest.map String.toList) =
        first ++ rest.flatMap fun s => '/' :: s.toList := by
    intro first rest
    induction rest generalizing first with
    | nil => simp
    | cons s rest ih =>
      rw [List.map_cons, List.intercalate_cons_cons, ih, List.flatMap_cons]
      simp
  rw [Text.splitAt_eq_iff, hjoin]
  refine ⟨by simp, fun piece hpiece => ?_, rfl⟩
  rcases List.mem_cons.mp hpiece with rfl | hpiece
  · exact List.not_mem_nil
  · obtain ⟨s, hs, rfl⟩ := List.mem_map.mp hpiece
    exact hsegments s hs

/-- Keys are told apart by their segments. -/
theorem encodeKey_injective : Function.Injective encodeKey := by
  intro k k' h
  have hk := percentDecode?_encodeKey k
  rw [h, percentDecode?_encodeKey k'] at hk
  exact (Option.some.inj hk).symm

/-- **The keys are got back** from the text of an address. -/
theorem keys_of_text {keys' closing : List String}
    (h : (withSegments base (segments ++ (keys.map encodeKey ++ closing))).text =
      (withSegments base (segments ++ (keys'.map encodeKey ++ closing))).text) : keys = keys' := by
  obtain ⟨before, htext⟩ : ∃ before, ∀ list, (withSegments base list).text.toList =
      before ++ list.flatMap fun s => '/' :: s.toList := by
    refine ⟨(base.scheme ++ ":" ++ base.authority.elim "" fun a => "//" ++ authorityText a).toList,
      fun list => ?_⟩
    rw [← toList_pathText (u := withSegments base list) rfl, text, ← String.toList_append]
    simp only [withSegments, String.append_empty]
    cases base.authority <;> rfl
  have hpath := congrArg String.toList h
  rw [htext, htext, List.append_cancel_left_eq] at hpath
  simp only [List.flatMap_append, List.append_cancel_left_eq, List.append_cancel_right_eq] at hpath
  have hsplit := congrArg (Text.splitAt '/') hpath
  have hslash : ∀ keys : List String, ∀ s ∈ keys.map encodeKey, '/' ∉ s.toList := by
    intro keys s hs
    obtain ⟨k, -, rfl⟩ := List.mem_map.mp hs
    exact slash_notMem_encodeKey k
  rw [splitAt_flatMap (hslash keys), splitAt_flatMap (hslash keys')] at hsplit
  have hmap := List.map_injective_iff.mpr (fun _ _ => String.toList_inj.mp) (List.cons.inj hsplit).2
  exact List.map_injective_iff.mpr encodeKey_injective hmap

/-! ## 5. The addresses below one base -/

/-- The URL names the same server as the base, and this path on it. -/
structure IsBelow (base : Url) (segments : List String) (u : Url) : Prop where
  scheme : u.scheme = base.scheme
  authority : u.authority = base.authority
  path : u.path = .segments segments
  query : u.query = none
  fragment : u.fragment = none

/-- **Keys are literal segments.**  Below a base with the scheme `http` or `https`, every endpoint and every
list of keys have an address.  It goes to the server of the base, and its path is the base's, the endpoint's
and the keys, each of which is one segment that decodes to it.  Other keys have another address, and it makes
no difference how many slashes stand around the endpoint's path, or whether one closes the base's. -/
theorem endpoint_literal {text : String} {base : Url} (h : parseBase text = .ok base)
    (hscheme : base.scheme = "http" ∨ base.scheme = "https") :
    (∃ above, base.path = .segments (above ++ [""]) ∧
      ∀ path parts, WritesEndpoint path parts → ∀ (slash : Bool) (keys : List String), (∀ k ∈ keys, IsKey k) →
        ∃ u, base.endpoint path keys slash = .ok u ∧
          IsBelow base (above ++ parts ++ (keys.map encodeKey ++ if slash then [""] else [])) u ∧
          (∀ k ∈ keys, percentDecode? (encodeKey k).toList = some k ∧ '/' ∉ (encodeKey k).toList) ∧
          (∀ keys' u', (∀ k ∈ keys', IsKey k) → base.endpoint path keys' slash = .ok u' → u'.text = u.text →
            keys' = keys) ∧
          ∀ path', WritesEndpoint path' parts → base.endpoint path' keys slash = .ok u) ∧
      ∀ front tail, OpenPath front tail →
        (parseBase (front ++ "/" ++ tail) = .ok base ↔ parseBase (front ++ tail) = .ok base) := by
  have hkind : base.kind = .special := by rcases hscheme with hs | hs <;> rw [kind, hs] <;> rfl
  obtain ⟨a, above, ha, hpath, -⟩ := exists_of_parseBase h hkind
  refine ⟨⟨above, hpath, fun path parts hwrites slash keys hkeys => ?_⟩, fun front tail hopen =>
    parseBase_append_slash hopen hkind⟩
  have hendpoint : ∀ path', WritesEndpoint path' parts → ∀ keys', (∀ k ∈ keys', IsKey k) →
      base.endpoint path' keys' slash = .ok (withSegments base
        (above ++ parts ++ (keys'.map encodeKey ++ if slash then [""] else []))) :=
    fun path' hwrites' keys' hkeys' => endpoint_eq hkind ha hpath hwrites' hkeys' slash
  refine ⟨_, hendpoint path hwrites keys hkeys, ⟨rfl, rfl, rfl, rfl, rfl⟩,
    fun k _ => ⟨percentDecode?_encodeKey k, slash_notMem_encodeKey k⟩, fun keys' u' hkeys' hu' htext => ?_,
    fun path' hwrites' => hendpoint path' hwrites' keys hkeys⟩
  rw [hendpoint path hwrites keys' hkeys'] at hu'
  rw [← Except.ok.inj hu'] at htext
  exact keys_of_text htext

theorem endpoint_literal_localBase :
    let keys := ["block-v1:org+cs101+run+type@html+block@a1", "a/b?c%"]
    parseBase "http://localhost:18010/" = .ok localBase ∧
      (∃ u, localBase.endpoint "/api/v0/" keys true = .ok u ∧ IsBelow localBase
        ["api", "v0", "block-v1:org+cs101+run+type@html+block@a1", "a%2Fb%3Fc%25", ""] u) ∧
      parseBase "http://localhost:18010" = .ok localBase := by
  have hplain : ∀ p : String, p ≠ "" → p.toList.all isPlainChar = true → IsPlain p :=
    fun p hne h => ⟨hne, List.all_eq_true.mp h⟩
  have hwrites : WritesEndpoint "/api/v0/" ["api", "v0"] := by
    refine ⟨by simp, ?_, ['/'], ['/'], by decide, by simp, Or.inr rfl⟩
    intro p hp
    simp only [List.mem_cons, List.not_mem_nil, or_false] at hp
    rcases hp with rfl | rfl <;> exact hplain _ (by decide) rfl
  have hkey : ∀ k : String, k.toList.all (fun c => c != '\t' && c != '\n' && c != '\r') = true → k ≠ "." →
      k ≠ ".." → IsKey k :=
    fun k h => IsKey.mk fun c hc => by simpa [and_assoc] using List.all_eq_true.mp h c hc
  have hkeys : ∀ k ∈ ["block-v1:org+cs101+run+type@html+block@a1", "a/b?c%"], IsKey k := by
    intro k hk
    simp only [List.mem_cons, List.not_mem_nil, or_false] at hk
    rcases hk with rfl | rfl <;> exact hkey _ rfl (by decide) (by decide)
  have hopen : OpenPath "http://localhost:18010" "" := by
    refine ⟨⟨'0', by decide, by decide, by decide, by decide⟩, fun c hc => ?_, by simp⟩
    have hall : "http://localhost:18010".toList.all (fun c => !endsPath c) = true := rfl
    simpa using List.all_eq_true.mp hall c hc
  have hbase : parseBase "http://localhost:18010/" = .ok localBase := parseBase_localBase
  obtain ⟨⟨above, hpath, haddress⟩, hslash⟩ := endpoint_literal hbase (Or.inl rfl)
  obtain rfl : above = [] := by simpa [localBase] using hpath.symm
  obtain ⟨u, hu, hbelow, -⟩ := haddress _ _ hwrites true _ hkeys
  exact ⟨hbase, ⟨u, hu, hbelow⟩, (hslash _ _ hopen).mp hbase⟩

end CourseReview.Url
