import CourseReview.Api.Endpoint

/-!
# What is asked of the server

Each question becomes one request.  This file says for every question which method its request has, at
which endpoint it is put, which ids follow there, and what it carries (`Query.asked`), and proves that the
request is just that (`ReviewServer.request_eq`).

So whether the questions at an endpoint can be put at all does not depend on what is asked
(`Url.endpoint_all_or_none`).
-/

namespace CourseReview

/-! ## 1. Questions as requests -/

/-- What a request is to be: its method, the path of its endpoint, the ids that follow in the address,
whether a slash closes the address, and the body. -/
structure Asked where
  method : HttpMethod
  path : String
  ids : List String
  slash : Bool
  body : Option Json

/-- What each question asks. -/
def Query.asked (paths : ApiSettings) : Query → Asked
  | .outline rerunId =>
    { method := .get, path := paths.outlinePath, ids := [rerunId], slash := false, body := none }
  | .components usageKey =>
    { method := .get, path := paths.componentsPath, ids := [usageKey], slash := false, body := none }
  | .version id =>
    { method := .get, path := paths.versionPath, ids := [toString id], slash := true, body := none }
  | .approve blockIds =>
    { method := .put, path := paths.approvePath, ids := [], slash := true
      body := some (.object [("block_ids", .array (blockIds.map .string))]) }
  | .apply usageKey applied =>
    { method := .put, path := paths.applyPath, ids := [usageKey], slash := true
      body := some (.object [("applied_version", .ofInt applied)]) }
  | .pairings =>
    { method := .get, path := paths.pairingsPath, ids := [], slash := false, body := none }

namespace Asked

/-- The address below a base. -/
def address (base : Url) (a : Asked) : Outcome Url :=
  base.endpoint a.path a.ids a.slash

/-- The request to an address. -/
def requestTo (u : Url) (a : Asked) : HttpRequest :=
  { method := a.method, url := u.text, body := a.body }

end Asked

namespace ReviewServer

variable {server : ReviewServer} {q : Query} {r : HttpRequest}

/-- **Every question becomes the request that it asks for**, at its address below the server's base. -/
theorem request_eq (server : ReviewServer) (q : Query) :
    server.request q =
      ((q.asked server.paths).address server.base).map fun u => (q.asked server.paths).requestTo u := by
  have hasked : q.asked server.paths =
      { method := q.method, path := q.endpointPath server.paths, ids := q.segments
        slash := q.endsWithSlash, body := q.body } := by
    cases q <;> rfl
  rw [hasked, request, Asked.address]
  cases server.base.endpoint (q.endpointPath server.paths) q.segments q.endsWithSlash <;> rfl

theorem request_eq_ok_iff : server.request q = .ok r ↔
    ∃ u, (q.asked server.paths).address server.base = .ok u ∧
      r = (q.asked server.paths).requestTo u := by
  rw [request_eq]
  cases (q.asked server.paths).address server.base <;> simp [Except.map, eq_comm]

theorem mem_toOption_request_iff : r ∈ (server.request q).toOption ↔
    ∃ u, (q.asked server.paths).address server.base = .ok u ∧
      r = (q.asked server.paths).requestTo u := by
  rw [← request_eq_ok_iff]
  cases server.request q <;> simp [Except.toOption]

/-- **A request gets something and carries nothing, or it puts something and carries what.** -/
theorem method_and_body_of_request (h : server.request q = .ok r) :
    r.method = .get ∧ r.body = none ∨ r.method = .put ∧ r.body.isSome = true := by
  obtain ⟨u, -, rfl⟩ := request_eq_ok_iff.mp h
  cases q with
  | outline | components | version | pairings => exact .inl ⟨rfl, rfl⟩
  | approve | apply => exact .inr ⟨rfl, rfl⟩

end ReviewServer

/-! ## 2. Endpoints -/

/-- **At an endpoint all can be asked, or nothing**: what it depends on are the base and the path. -/
theorem Url.endpoint_all_or_none (base : Url) (path : String) (slash : Bool) :
    (∃ address : List String → Url, ∀ ids, base.endpoint path ids slash = .ok (address ids)) ∨
      ∃ e, ∀ ids, base.endpoint path ids slash = .error e := by
  simp only [endpoint]
  cases base.join (String.ofList (path.toList.dropWhile (· == '/'))) with
  | error e => exact .inr ⟨_, fun _ => rfl⟩
  | ok u =>
    simp only [extend?]
    cases u.path with
    | rootless text => exact .inr ⟨_, fun _ => rfl⟩
    | segments list => exact .inl ⟨_, fun _ => rfl⟩

/-- **A request for content can be made for every unit, or for none.** -/
theorem ReviewServer.request_components (server : ReviewServer) :
    (∃ request : String → HttpRequest, ∀ key, server.request (.components key) = .ok (request key)) ∨
      ∃ e, ∀ key, server.request (.components key) = .error e := by
  simp only [request_eq, Asked.address, Query.asked]
  obtain ⟨address, hall⟩ | ⟨e, hnone⟩ := server.base.endpoint_all_or_none server.paths.componentsPath false
  · exact .inl ⟨_, fun key => by rw [hall [key]]; rfl⟩
  · exact .inr ⟨e, fun key => by rw [hnone [key]]; rfl⟩

end CourseReview
