import CourseReview.Proofs.Url.Base
import CourseReview.Proofs.Url.Reference
import CourseReview.Sync.Basic

/-!
# Settings that can be worked with

Validation looks at each setting by itself.  What it lets through can be worked with exactly when the texts
for the headers are fit for them and each endpoint is found below the base address, whatever is asked for
there (`Settings.usable_iff_of_validate`).
-/

namespace CourseReview

variable {s : Settings}

/-! ## 1. White space around an address -/

/-- What is trimmed off a base address is left out wherever a URL is read. -/
def TrimsAscii (text : String) : Prop :=
  ∃ before after, text.toList = before ++ (Text.trim text).toList ++ after ∧
    (∀ c ∈ before, c.toNat ≤ 0x20) ∧ ∀ c ∈ after, c.toNat ≤ 0x20

/-- **Then the address is the same** with the white space around it and without. -/
theorem Url.parse_trim {text : String} (h : TrimsAscii text) : Url.parse (Text.trim text) = Url.parse text := by
  obtain ⟨before, after, htext, hbefore, hafter⟩ := h
  have hclean : clean (Text.trim text) = clean text := by
    rw [clean, clean, htext, Text.trimBy_around (by simpa using hbefore) (by simpa using hafter)]
  rw [parse, parse, parseFrom, parseFrom, hclean]

/-! ## 2. What is set up -/

/-- Settings that can be worked with: there is a client, and every question becomes a request. -/
def Settings.IsUsable (s : Settings) : Prop :=
  ∃ y, Synchronizer.ofSettings s = .ok y ∧ ∀ q, ∃ r, y.server.request q = .ok r

/-- The texts for the headers hold no control characters but tabs. -/
structure HttpSettings.HasLegalHeaders (s : HttpSettings) : Prop where
  authorization : ∀ a ∈ s.authorization, isHeaderValue a = true
  userAgent : isHeaderValue s.userAgent = true

theorem HttpSettings.checkHeaders_eq_ok_iff (s : HttpSettings) :
    s.checkHeaders = .ok () ↔ s.HasLegalHeaders := by
  have hauthorization : isHeaderValue (s.authorization.getD "") = true ↔
      ∀ a ∈ s.authorization, isHeaderValue a = true := by
    cases s.authorization with
    | none => exact iff_of_true rfl (by simp)
    | some a => simp
  constructor
  · intro h
    rw [checkHeaders] at h
    split at h
    · cases h
    · split at h
      · cases h
      · rename_i ha hu
        exact ⟨hauthorization.mp (by simpa using ha), by simpa using hu⟩
  · rintro ⟨ha, hu⟩
    rw [checkHeaders, hauthorization.mpr ha, hu]
    rfl

/-- A client is set up for a server when the texts for the headers are fit for them and the base address is
read. -/
theorem Synchronizer.ofSettings_eq_ok_iff {y : Synchronizer} :
    ofSettings s = .ok y ↔ s.http.HasLegalHeaders ∧ ∃ base, Url.parseBase s.api.baseUrl = .ok base ∧
      y = new { base, paths := s.api } s.http.maxConcurrent := by
  rw [← HttpSettings.checkHeaders_eq_ok_iff, ofSettings, ReviewServer.ofSettings]
  cases s.http.checkHeaders with
  | error e => simp
  | ok _ =>
    cases Url.parseBase s.api.baseUrl with
    | error e => simp
    | ok base => simp [eq_comm]

theorem Synchronizer.new_server (server : ReviewServer) (maxConcurrent : Nat) :
    (new server maxConcurrent).server = server := rfl

/-- A question becomes a request when its endpoint is found below the base, whatever is asked for. -/
theorem ReviewServer.exists_request_iff (server : ReviewServer) (q : Query) :
    (∃ r, server.request q = .ok r) ↔ server.base.Reaches (q.endpointPath server.paths) := by
  rw [request, ← Url.exists_endpoint_iff]
  cases server.base.endpoint (q.endpointPath server.paths) q.segments q.endsWithSlash <;> simp

/-- Every endpoint is asked for something, and nothing else is. -/
theorem ApiSettings.forall_endpointPath_iff (s : ApiSettings) (p : String → Prop) :
    (∀ q : Query, p (q.endpointPath s)) ↔ ∀ e ∈ s.endpoints, p e.2 := by
  constructor
  · intro h
    simp only [endpoints, List.forall_mem_cons]
    exact ⟨h (.outline ""), h (.components ""), h (.version 0), h (.approve []), h (.apply "" 0), h .pairings,
      by simp⟩
  · intro h q
    simp only [endpoints, List.forall_mem_cons] at h
    obtain ⟨houtline, hcomponents, hversion, happrove, happly, hpairings, -⟩ := h
    cases q <;> assumption

/-- **What is needed**, exactly. -/
theorem Settings.isUsable_iff (s : Settings) : s.IsUsable ↔ s.http.HasLegalHeaders ∧
    ∃ base, Url.parseBase s.api.baseUrl = .ok base ∧ ∀ e ∈ s.api.endpoints, base.Reaches e.2 := by
  constructor
  · rintro ⟨y, hy, hrequest⟩
    obtain ⟨hheaders, base, hbase, rfl⟩ := Synchronizer.ofSettings_eq_ok_iff.mp hy
    simp only [Synchronizer.new_server, ReviewServer.exists_request_iff] at hrequest
    exact ⟨hheaders, base, hbase, (s.api.forall_endpointPath_iff base.Reaches).mp hrequest⟩
  · rintro ⟨hheaders, base, hbase, hreaches⟩
    refine ⟨_, Synchronizer.ofSettings_eq_ok_iff.mpr ⟨hheaders, base, hbase, rfl⟩, ?_⟩
    simp only [Synchronizer.new_server, ReviewServer.exists_request_iff]
    exact (s.api.forall_endpointPath_iff base.Reaches).mpr hreaches

/-! ## 3. What validation tells -/

/-- A base address that was found valid is read. -/
theorem Settings.exists_parse_of_validate (h : s.validate = .ok ()) :
    ∃ u, Url.parse s.api.baseUrl = .ok u := by
  rw [validate, fault?] at h
  cases hparse : Url.parse s.api.baseUrl with
  | ok u => exact ⟨u, rfl⟩
  | error e =>
    rw [hparse] at h
    cases h

theorem Url.isRootless_withTrailingSlash (u : Url) : u.withTrailingSlash.isRootless = u.isRootless := by
  rw [withTrailingSlash]
  cases hpath : u.path with
  | segments list => simp [isRootless, hpath]
  | rootless text =>
    dsimp only
    split <;> simp [isRootless, hpath]

/-- The endpoints that the default settings name are below whatever base there is. -/
theorem ApiSettings.isRelative_defaults : ∀ e ∈ ({} : ApiSettings).endpoints, Url.IsRelative e.2 := by
  simp only [endpoints, List.forall_mem_cons]
  refine ⟨⟨rfl, rfl⟩, ⟨rfl, rfl⟩, ⟨rfl, rfl⟩, ⟨rfl, rfl⟩, ⟨rfl, rfl⟩, ⟨rfl, rfl⟩, by simp⟩

/-- **What validation leaves open.**  Settings that were found valid can be worked with exactly when the texts
for the headers are fit for them, the base address is read without the white space around it, and each endpoint
is found below it.  Where endpoints name neither a scheme nor a host, and the white space is such as every URL
is read without, all that is left to ask of the base address is that it can be a base. -/
theorem Settings.usable_iff_of_validate (h : s.validate = .ok ()) :
    (s.IsUsable ↔ s.http.HasLegalHeaders ∧
      ∃ base, Url.parseBase s.api.baseUrl = .ok base ∧ ∀ e ∈ s.api.endpoints, base.Reaches e.2) ∧
    ∃ u, Url.parse s.api.baseUrl = .ok u ∧
      (TrimsAscii s.api.baseUrl → (∀ e ∈ s.api.endpoints, Url.IsRelative e.2) →
        (s.IsUsable ↔ s.http.HasLegalHeaders ∧ u.isRootless = false)) := by
  obtain ⟨u, hu⟩ := exists_parse_of_validate h
  refine ⟨s.isUsable_iff, u, hu, fun htrims hrelative => ?_⟩
  have hbase : Url.parseBase s.api.baseUrl = .ok u.withTrailingSlash := by
    rw [Url.parseBase, Url.parse_trim htrims, hu]
  have hreaches : (∀ e ∈ s.api.endpoints, u.withTrailingSlash.Reaches e.2) ↔ u.isRootless = false := by
    rw [← Url.isRootless_withTrailingSlash]
    constructor
    · intro hall
      have hfirst : ("outline_path", s.api.outlinePath) ∈ s.api.endpoints := List.mem_cons_self
      exact (Url.reaches_iff_of_isRelative (hrelative _ hfirst)).mp (hall _ hfirst)
    · exact fun hroot e he => (Url.reaches_iff_of_isRelative (hrelative e he)).mpr hroot
  rw [s.isUsable_iff, hbase, ← hreaches]
  simp

theorem Settings.usable_defaults : Settings.validate {} = .ok () ∧ Settings.IsUsable {} := by
  have hfault : Settings.fault? {} = none := by decide +kernel
  have hvalid : Settings.validate {} = .ok () := by rw [validate, hfault]
  have hheaders : HttpSettings.HasLegalHeaders {} := ⟨by simp, by decide⟩
  have htrims : TrimsAscii ({} : Settings).api.baseUrl := ⟨[], [], rfl, by simp, by simp⟩
  obtain ⟨-, u, hu, husable⟩ := usable_iff_of_validate hvalid
  have hroot : u.isRootless = false := by
    have hread : (Url.parse ({} : Settings).api.baseUrl).toOption.map Url.isRootless = some false := by
      decide +kernel
    rw [hu] at hread
    exact Option.some.inj hread
  exact ⟨hvalid, (husable htrims ApiSettings.isRelative_defaults).mpr ⟨hheaders, hroot⟩⟩

/-- Valid settings without a client, and valid settings with a client that can ask nothing. -/
theorem Settings.not_usable_of_validate :
    let header : Settings := { http := { authorization := some "bad\nvalue" } }
    let mail : Settings := { api := { baseUrl := "mailto:x" } }
    header.validate = .ok () ∧ (∀ y, Synchronizer.ofSettings header ≠ .ok y) ∧
      mail.validate = .ok () ∧ ∃ y, Synchronizer.ofSettings mail = .ok y ∧
        ∀ q r, y.server.request q ≠ .ok r := by
  intro header mail
  have hfault : header.fault? = none ∧ mail.fault? = none := by decide +kernel
  refine ⟨by rw [validate, hfault.1], fun y hy => ?_, by rw [validate, hfault.2], ?_⟩
  · have hlegal := (Synchronizer.ofSettings_eq_ok_iff.mp hy).1.authorization _ rfl
    exact absurd hlegal (by decide)
  · let base : Url := { scheme := "mailto", authority := none, path := .rootless "x/" }
    have hbase : Url.parseBase mail.api.baseUrl = .ok base := Url.eq_ok_of_toOption (by decide +kernel)
    refine ⟨_, Synchronizer.ofSettings_eq_ok_iff.mpr ⟨⟨by simp [mail], by decide⟩, base, hbase, rfl⟩, ?_⟩
    have hnone : ∀ e ∈ mail.api.endpoints, ¬base.Reaches e.2 := fun e he hreaches =>
      absurd ((Url.reaches_iff_of_isRelative (ApiSettings.isRelative_defaults e he)).mp hreaches) (by decide)
    have hask := (mail.api.forall_endpointPath_iff fun path => ¬base.Reaches path).mpr hnone
    intro q r hr
    rw [Synchronizer.new_server] at hr
    have hreaches := (ReviewServer.exists_request_iff _ q).mp ⟨r, hr⟩
    exact hask q hreaches

end CourseReview
