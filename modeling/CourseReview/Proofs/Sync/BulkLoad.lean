import Mathlib.Data.List.Basic
import CourseReview.Proofs.Sync.Questions
import CourseReview.Proofs.Sync.UnitLoad

/-!
# What a bulk load comes to

A call to load all units at or below a path is made while nothing else is under way.  This file settles
what it comes to, whatever the server answers, in whatever order the replies come, and however many
requests go out at a time:

* one request goes out for each unit whose content is missing (`Tree.missingUnits`), in the order of the
  outline;
* what comes is put in place, and is all that changes (`ReviewServer.brought`, `Outline.stock`);
* after that nothing is under way (`Synchronizer.AtRest.loadUnits`), and the call made once more asks for
  what has not come (`Synchronizer.AtRest.loads_missing_units`).
-/

namespace CourseReview

/-! ## 1. Requests and replies for units -/

namespace ReviewServer

/-- The request for the content of the unit at a path. -/
def unitRequest (server : ReviewServer) (t : Tree) (q : NodePath) : Outcome HttpRequest :=
  match q.require t with
  | .error e => .error e
  | .ok n => server.request (.components n.usageKey)

/-- The requests for the content of units, but for those that cannot be made. -/
def unitRequests (server : ReviewServer) (t : Tree) (paths : List NodePath) : List HttpRequest :=
  paths.filterMap fun q => (server.unitRequest t q).toOption

/-- The request for the content of a unit gets it by the key of the unit, which follows the path of the
endpoint for content. -/
theorem unitRequest_eq_ok_iff {server : ReviewServer} {t : Tree} {q : NodePath} {r : HttpRequest} :
    server.unitRequest t q = .ok r ↔ ∃ n u, q.resolve t = some n ∧
      server.base.endpoint server.paths.componentsPath [n.usageKey] false = .ok u ∧
        r = { method := .get, url := u.text } := by
  rw [unitRequest, NodePath.require]
  cases q.resolve t with
  | none => simp
  | some n => exact request_eq_ok_iff.trans (by simp [Asked.address, Asked.requestTo, Query.asked])

theorem mem_unitRequests_iff {server : ReviewServer} {t : Tree} {paths : List NodePath}
    {r : HttpRequest} : r ∈ server.unitRequests t paths ↔ ∃ q ∈ paths, ∃ n u, q.resolve t = some n ∧
      server.base.endpoint server.paths.componentsPath [n.usageKey] false = .ok u ∧
        r = { method := .get, url := u.text } := by
  rw [unitRequests, List.mem_filterMap]
  refine exists_congr fun q => and_congr_right fun _ => ?_
  rw [← unitRequest_eq_ok_iff]
  cases server.unitRequest t q <;> simp [Except.toOption]

/-- The answer for the unit at a path, given the replies to requests for units. -/
def unitAnswer (server : ReviewServer) (t : Tree) (reply : NodePath → Outcome HttpReply)
    (q : NodePath) : Outcome UnitComponents :=
  match server.unitRequest t q with
  | .error e => .error e
  | .ok _ => readAnswer UnitComponents.form.decode (reply q)

/-- Content in place changes no request. -/
theorem unitRequests_stock {server : ReviewServer} {content : NodePath → Option ChildMap} {t : Tree}
    {paths : List NodePath} (hunits : ∀ q ∈ paths, q.isUnit = true) :
    server.unitRequests (t.stock content) paths = server.unitRequests t paths := by
  refine List.filterMap_congr fun q hq => ?_
  rw [unitRequest, unitRequest, NodePath.require, NodePath.require,
    Tree.resolve_stock_unit content t (hunits q hq)]
  cases q.resolve t with
  | none => rfl
  | some n => cases content q <;> rfl

/-- **The content that a bulk load brings**: of the units at or below the path whose content is missing,
those get content that the base course has, too, and for which the reply is an answer. -/
def brought (server : ReviewServer) (o : Outline) (p : NodePath) (reply : NodePath → Outcome HttpReply)
    (q : NodePath) : Option UnitComponents :=
  if q ∈ o.rerun.missingUnits p then o.arrival (server.unitAnswer o.rerun reply) q else none

/-- A unit is brought only if it was missing. -/
theorem brought_eq_some {server : ReviewServer} {o : Outline} {p q : NodePath}
    {reply : NodePath → Outcome HttpReply} {components : UnitComponents} :
    server.brought o p reply q = some components ↔
      q ∈ o.rerun.missingUnits p ∧ (q.resolve o.base).isSome = true ∧
        server.unitAnswer o.rerun reply q = .ok components := by
  rw [brought, ← Outline.arrival_eq_some]
  split
  · rename_i hmissing; exact (and_iff_right hmissing).symm
  · rename_i hmissing; simp [hmissing]

end ReviewServer

/-- A link that answers the requests of a bulk load, numbered from the first one on, with the reply for
each unit. -/
def Link.Serves {σ : Type} (link : Link σ) (first : Nat) (units : List NodePath)
    (reply : NodePath → Outcome HttpReply) : Prop :=
  ∃ replies, link.Answers replies ∧ ∀ w ∈ numbered first units, replies w.1 = reply w.2

/-- A link that answers all requests answers those for units. -/
theorem Link.Answers.serves {σ : Type} {link : Link σ} {replies : Nat → Outcome HttpReply}
    (h : link.Answers replies) (first : Nat) {units : List NodePath} (hnodup : units.Nodup) :
    link.Serves first units fun q => replies (first + units.idxOf q) := by
  refine ⟨replies, h, fun w hw => ?_⟩
  obtain ⟨hle, hsome⟩ := getElem?_of_mem_numbered hw
  obtain ⟨hlt, heq⟩ := List.getElem?_eq_some_iff.mp hsome
  dsimp only
  rw [← heq, hnodup.idxOf_getElem, Nat.add_sub_cancel' hle]

/-- Units that cannot be listed are not fetched. -/
theorem Call.start_loadUnits_of_error {s : Session} {o : Outline} {p : NodePath} {e : ReviewError}
    (ho : s.outline = some o) (hunits : o.rerun.unitPaths p = .error e) :
    (Call.loadUnits p).start s = (.done (.error e), s) := by
  rw [start, Session.beginLoadUnits, Session.requireOutline_ok.mpr ho]
  simp only [hunits]

namespace Synchronizer

/-! ## 2. From rest to rest -/

/-- A synchronizer of a review with that outline, while nothing is under way. -/
structure AtRest (y : Synchronizer) (o : Outline) : Prop where
  reached : ∃ h r, Trace {} h r ∧ r.session = y.session
  quiet : ∀ k, y.session.isUp k = false
  outline : y.session.outline = some o
  tasks : y.tasks = []
  requests : y.requests = []

namespace AtRest

variable {y : Synchronizer} {o : Outline} {p : NodePath}

/-- The tickets of a bulk load and the requests made for them. -/
theorem unitRequests_eq {server : ReviewServer} {request : String → HttpRequest}
    (hserver : ∀ key, server.request (.components key) = .ok (request key)) {t : Tree}
    {tickets : List (Ticket UnitFetch)}
    (hnode : ∀ u ∈ tickets, ∃ n, u.path.resolve t = some n ∧ u.request.usageKey = n.usageKey) :
    server.unitRequests t (tickets.map (·.path)) = tickets.map fun u => request u.request.usageKey := by
  rw [ReviewServer.unitRequests, List.filterMap_map, ← List.filterMap_eq_map]
  refine List.filterMap_congr fun u hu => ?_
  obtain ⟨n, hn, hkey⟩ := hnode u hu
  rw [Function.comp, Function.comp, ReviewServer.unitRequest, NodePath.require, hn, hkey]
  simp only [hserver]
  rfl

/-- **A bulk load runs its course.**  All tickets are answered in some order, whether requests can be
made for them or not. -/
theorem drive_loadUnits {tickets : List (Ticket UnitFetch)} {s : Session} (htasks : y.tasks = [])
    (hrequests : y.requests = []) (hstart : y.session.beginLoadUnits p = (.ok tickets, s))
    (hnode : ∀ u ∈ tickets, ∃ n, u.path.resolve o.rerun = some n ∧ u.request.usageKey = n.usageKey)
    {σ : Type} {link : Link σ} {reply : NodePath → Outcome HttpReply}
    (hlink : link.Serves y.nextRequest (tickets.map (·.path)) reply) (task : Nat) (state : σ) :
    ∃ (order : List (Ticket UnitFetch)) (next : Nat) (state' : σ), order.Perm tickets ∧
      drive link (y.start task (.loadUnits p)) state =
        let taken := order.foldl (Session.takeIn (y.server.unitAnswer o.rerun reply)) (0, s)
        ({ sent := numbered y.nextRequest (y.server.unitRequests o.rerun (tickets.map (·.path)))
           finished := [(task, .ok (.unitsLoaded taken.1))] },
          { y with session := taken.2, tasks := [], requests := [], nextRequest := next }, state') := by
  obtain ⟨replies, hanswers, hreplies⟩ := hlink
  obtain ⟨request, hserver⟩ | ⟨e, hserver⟩ := y.server.request_components
  · have hanswer : ∀ w ∈ numbered y.nextRequest tickets,
        readAnswer UnitComponents.form.decode (replies w.1) =
          y.server.unitAnswer o.rerun reply w.2.path := by
      intro w hw
      have hmem : (w.1, w.2.path) ∈ numbered y.nextRequest (tickets.map (·.path)) := by
        rw [← map_numbered]
        exact List.mem_map_of_mem hw
      have hticket : w.2 ∈ tickets := by
        rw [← map_snd_numbered y.nextRequest tickets]
        exact List.mem_map_of_mem hw
      obtain ⟨n, hn, -⟩ := hnode w.2 hticket
      rw [hreplies _ hmem, ReviewServer.unitAnswer, ReviewServer.unitRequest, NodePath.require, hn]
      simp only [hserver]
    have hmade : ∀ u : Ticket UnitFetch,
        y.server.request (.components u.request.usageKey) = .ok (request u.request.usageKey) :=
      fun u => hserver u.request.usageKey
    obtain ⟨order, state', hperm, hdrive⟩ :=
      drive_units hmade htasks hrequests hstart hanswers hanswer task state
    refine ⟨order, y.nextRequest + tickets.length, state', hperm, ?_⟩
    rw [hdrive, unitRequests_eq hserver hnode]
  · have hrequest : ∀ u ∈ tickets, y.server.unitRequest o.rerun u.path = .error e := by
      intro u hu
      obtain ⟨n, hn, -⟩ := hnode u hu
      rw [ReviewServer.unitRequest, NodePath.require, hn]
      exact hserver n.usageKey
    have hanswer : ∀ u ∈ tickets, y.server.unitAnswer o.rerun reply u.path = .error e := by
      intro u hu
      rw [ReviewServer.unitAnswer, hrequest u hu]
    have hsent : y.server.unitRequests o.rerun (tickets.map (·.path)) = [] := by
      rw [ReviewServer.unitRequests, List.filterMap_map, List.filterMap_eq_nil_iff]
      intro u hu
      rw [Function.comp, hrequest u hu]
      rfl
    refine ⟨tickets, y.nextRequest, state, .refl _, ?_⟩
    rw [drive_units_of_error hserver htasks hrequests hstart hanswer, hsent]
    rfl

/-- **From rest to rest.**  A bulk load asks for the units whose content is missing, and in the end the
outline is stocked with what the replies bring. -/
theorem loadUnits (hrest : y.AtRest o) (hdistinct : o.DistinctIds) (hp : o.rerun.LeadsToUnits p)
    {σ : Type} {link : Link σ} {reply : NodePath → Outcome HttpReply}
    (hlink : link.Serves y.nextRequest (o.rerun.missingUnits p) reply) (task : Nat) (state : σ) :
    ∃ y' state',
      drive link (y.start task (.loadUnits p)) state =
        ({ sent := numbered y.nextRequest (y.server.unitRequests o.rerun (o.rerun.missingUnits p))
           finished := [(task, .ok (.unitsLoaded
             ((o.rerun.missingUnits p).countP fun q => (y.server.brought o p reply q).isSome)))] },
          y', state') ∧
      y'.AtRest (o.stock (y.server.brought o p reply)) ∧ y'.server = y.server := by
  obtain ⟨h, r, htrace, hr⟩ := hrest.reached
  obtain ⟨tickets, s, hstart, hpaths, hnode, hfinish⟩ := htrace.loadUnits
    (fun k => by rw [hr]; exact hrest.quiet k) (by rw [hr]; exact hrest.outline) hdistinct hp
  rw [hr] at hstart
  rw [← hpaths] at hlink
  obtain ⟨order, next, state', hperm, hdrive⟩ :=
    drive_loadUnits hrest.tasks hrest.requests hstart hnode hlink task state
  obtain ⟨h', r', htrace', hquiet', hfold, ho'⟩ := hfinish _ order hperm
  rw [hpaths, hfold] at hdrive
  have hcount : ((o.rerun.missingUnits p).countP fun q =>
      (o.arrival (y.server.unitAnswer o.rerun reply) q).isSome) =
        (o.rerun.missingUnits p).countP fun q => (y.server.brought o p reply q).isSome := by
    refine List.countP_congr fun q hq => ?_
    rw [ReviewServer.brought, if_pos hq]
  rw [hcount] at hdrive
  exact ⟨_, state', hdrive, ⟨⟨h', r', htrace', rfl⟩, hquiet', ho', rfl, rfl⟩, rfl⟩

/-- **A bulk load is exact, whatever the order.**  While nothing else is under way, the units at or below
a path are loaded, the path being that of the course or one that leads to a unit or above units.  Then,
for all replies, over every link that answers, and with any number of requests at a time,

* one request goes out for each unit at or below the path that has no content, and no other, as far as
  requests can be made (`ReviewServer.mem_unitRequests_iff` says what these requests are);
* content is brought for just those of these units that the base course has, too, and for which the
  reply is an answer;
* the result is their number;
* in the end nothing is under way, and the outline is the old one with just this content in its places;
* the same call made again asks for just the units whose content was not brought. -/
theorem loads_missing_units (hrest : y.AtRest o) (hdistinct : o.DistinctIds)
    (hp : o.rerun.LeadsToUnits p) :
    ((o.rerun.missingUnits p).Nodup ∧ ∀ q, q ∈ o.rerun.missingUnits p ↔
      q.isUnit = true ∧ (p = .courseInfo ∨ p.contains q = true) ∧
        ∃ n, q.resolve o.rerun = some n ∧ n.units = none) ∧
    ∀ (reply : NodePath → Outcome HttpReply),
      (∀ q components, y.server.brought o p reply q = some components ↔
        q ∈ o.rerun.missingUnits p ∧ (q.resolve o.base).isSome = true ∧
          y.server.unitAnswer o.rerun reply q = .ok components) ∧
      ∀ {σ : Type} (link : Link σ) (task : Nat) (state : σ),
        link.Serves y.nextRequest (o.rerun.missingUnits p) reply →
        ∃ y' state',
          drive link (y.start task (.loadUnits p)) state =
            ({ sent := numbered y.nextRequest (y.server.unitRequests o.rerun (o.rerun.missingUnits p))
               finished := [(task, .ok (.unitsLoaded
                 ((o.rerun.missingUnits p).countP fun q => (y.server.brought o p reply q).isSome)))] },
              y', state') ∧
          y'.AtRest (o.stock (y.server.brought o p reply)) ∧
          ∀ {τ : Type} (link' : Link τ) (replies : Nat → Outcome HttpReply) (task' : Nat) (state₁ : τ),
            link'.Answers replies →
            (drive link' (y'.start task' (.loadUnits p)) state₁).1.sent =
              numbered y'.nextRequest (y.server.unitRequests o.rerun
                ((o.rerun.missingUnits p).filter fun q => (y.server.brought o p reply q).isNone)) := by
  have hmissing := Tree.missingUnits_spec hdistinct.rerun hp
  refine ⟨hmissing, fun reply => ⟨fun q components => ReviewServer.brought_eq_some,
    fun {σ} link task state hlink => ?_⟩⟩
  obtain ⟨y', state', hdrive, hrest', hserver⟩ := hrest.loadUnits hdistinct hp hlink task state
  refine ⟨y', state', hdrive, hrest', fun link' replies task' state₁ hanswers => ?_⟩
  have hdistinct' := hdistinct.stock (y.server.brought o p reply)
  have hp' : (o.stock (y.server.brought o p reply)).rerun.LeadsToUnits p := hp.stock _
  have hagain : (o.stock (y.server.brought o p reply)).rerun.missingUnits p =
      (o.rerun.missingUnits p).filter fun q => (y.server.brought o p reply q).isNone := by
    rw [Outline.stock, Tree.missingUnits_stock hdistinct.rerun hp]
    simp only [Option.isNone_map]
  obtain ⟨y'', state'', hdrive', -, -⟩ := hrest'.loadUnits hdistinct' hp'
    (hanswers.serves y'.nextRequest (Tree.missingUnits_spec hdistinct'.rerun hp').1) task' state₁
  rw [hdrive', hagain, hserver]
  refine congrArg (numbered y'.nextRequest) (ReviewServer.unitRequests_stock fun q hq => ?_)
  exact ((hmissing.2 q).mp (List.mem_filter.mp hq).1).1

end AtRest

end Synchronizer

/-! ## 3. Two units -/

namespace Sample

/-- An outline with two units, given the content of the first. -/
def twoUnits (first : Option ChildMap) : Tree :=
  let subsection : Node :=
    { usageKey := "sequential", children := some [("U1", unit none first), ("U2", unit none none)] }
  let chapter : Node := { usageKey := "chapter", children := some [("Q1", subsection)] }
  { courseInfo := .ofBlock "course" "course", sections := [("S1", chapter)] }

/-- The outline has been loaded, and two units can be asked for at a time. -/
def bothMissing : Synchronizer where
  server := { base := { scheme := "http", authority := some {}, path := .segments [""] }, paths := {} }
  limit := 2
  session := (((({} : Review).next (.beginLoad "rerun")).next
    (.finishLoad ⟨1, "rerun"⟩ (.ok ⟨twoUnits none, twoUnits none⟩))).session)

/-- The first request is answered with content, and the others are not. -/
def firstOnly (number : Nat) : Outcome HttpReply :=
  if number = 0 then .ok ⟨200, .object []⟩ else .error .connectionFailed

/-- A link that answers the newest request first. -/
def newestFirst (replies : Nat → Outcome HttpReply) : Link Unit :=
  fun requests state => (requests.getLast?.map fun r => (r.1, replies r.1), state)

theorem newestFirst_answers (replies : Nat → Outcome HttpReply) :
    (newestFirst replies).Answers replies := by
  intro requests state hrequests
  refine ⟨(requests.getLast hrequests).1, state, ?_, List.mem_map_of_mem (List.getLast_mem hrequests)⟩
  rw [newestFirst, List.getLast?_eq_some_getLast hrequests]
  rfl

theorem bothMissing_atRest : bothMissing.AtRest ⟨twoUnits none, twoUnits none⟩ where
  reached := ⟨_, _, (Trace.refl.tail (e := .beginLoad "rerun") (.of_begin rfl)).tail
    (e := .finishLoad ⟨1, "rerun"⟩ (.ok ⟨twoUnits none, twoUnits none⟩)) (.of_finish rfl (by decide)), rfl⟩
  quiet k := by cases k <;> rfl
  outline := rfl
  tasks := rfl
  requests := rfl

end Sample

open Sample in
/-- Two units are asked for at once, and the content of the first comes after the second has failed.
It is put in place, and only the second is asked for again. -/
theorem Synchronizer.AtRest.loads_first_unit :
    ∃ out y' state',
      drive (newestFirst firstOnly) (bothMissing.start 7 (.loadUnits .courseInfo)) () =
        (out, y', state') ∧
      out.sent.map Prod.fst = [0, 1] ∧ out.finished = [(7, .ok (.unitsLoaded 1))] ∧
      y'.session.outline = some ⟨twoUnits (some []), twoUnits (some [])⟩ ∧
      (drive (newestFirst firstOnly) (y'.start 8 (.loadUnits .courseInfo)) ()).1.sent.length = 1 := by
  have hdistinct : Outline.DistinctIds ⟨twoUnits none, twoUnits none⟩ := ⟨by decide, by decide⟩
  have hp : (twoUnits none).LeadsToUnits .courseInfo := ⟨by decide, _, rfl⟩
  obtain ⟨⟨hnodup, -⟩, hload⟩ := bothMissing_atRest.loads_missing_units hdistinct hp
  obtain ⟨y', state', hdrive, hrest, hagain⟩ := (hload _).2 _ 7 ()
    ((newestFirst_answers firstOnly).serves 0 hnodup)
  refine ⟨_, y', state', hdrive, rfl, rfl, hrest.outline, ?_⟩
  rw [hagain _ firstOnly 8 () (newestFirst_answers firstOnly), length_numbered]
  rfl

end CourseReview
