import CourseReview.Command.Basic
import CourseReview.Proofs.Outline.Reply
import CourseReview.Proofs.Sync.BulkLoad
import CourseReview.Proofs.Sync.Exchange

/-!
# The load that commands begin with

Most commands load the outlines first, and then the content of some units.  This file settles what these
calls come to when a new synchronizer makes them, over every link that answers
(`Synchronizer.drive_load`, `Synchronizer.AtRest.loadUnits_after_load`), and how a script goes on from a
call that is finished (`Script.run_call`).
-/

namespace CourseReview

/-! ## 1. Answers and replies -/

namespace ReviewServer

variable (server : ReviewServer) (replies : Nat → Outcome HttpReply)

/-- The answer to the question for the outlines, given the reply. -/
def outlineAnswer (rerunId : String) (reply : Outcome HttpReply) : Outcome Outline :=
  match server.request (.outline rerunId) with
  | .error e => .error e
  | .ok _ => readAnswer Outline.form.decode reply

/-- The replies to the requests for the units whose content is missing, which come after the one for the
outlines. -/
def unitReply (o : Outline) (scope : NodePath) (q : NodePath) : Outcome HttpReply :=
  replies (1 + (o.rerun.missingUnits scope).idxOf q)

end ReviewServer

/-- Outlines that come in an answer without repeated names have no repeated ids. -/
theorem ReviewServer.distinctIds_of_outlineAnswer {server : ReviewServer} {o : Outline} {rerunId : String}
    {reply : Outcome HttpReply} (hnames : ∀ r, reply = .ok r → r.data.DistinctNames)
    (h : server.outlineAnswer rerunId reply = .ok o) : o.DistinctIds := by
  rw [outlineAnswer] at h
  cases hrequest : server.request (.outline rerunId) with
  | error e => rw [hrequest] at h; cases h
  | ok _ =>
    rw [hrequest] at h
    cases reply with
    | error e => cases h
    | ok r =>
      cases hdecode : Outline.form.decode r.data with
      | error e => rw [readAnswer, hdecode] at h; cases h
      | ok o' =>
        rw [readAnswer, hdecode] at h
        obtain rfl := Except.ok.inj h
        exact Outline.distinctIds_of_decode (hnames r rfl) hdecode

/-! ## 2. The calls -/

namespace Synchronizer

variable {σ : Type} {link : Link σ} {replies : Nat → Outcome HttpReply} {y : Synchronizer}
  {o : Outline} {p : NodePath}

/-- The synchronizer that settings describe has a new session. -/
theorem ofSettings_new {settings : Settings} (h : ofSettings settings = .ok y) :
    y.session = {} ∧ y.tasks = [] ∧ y.requests = [] ∧ y.nextRequest = 0 := by
  rw [ofSettings] at h
  split at h
  · cases h
  · split at h
    · cases h
    · rw [← Except.ok.inj h]
      exact ⟨rfl, rfl, rfl, rfl⟩

/-- What is read from the exchange of a load is the answer to its question. -/
theorem readAnswer_load (server : ReviewServer) (t : LoadTicket) (reply : Outcome HttpReply) :
    readAnswer Outline.form.decode ((Exchange.load t).outcome server reply) =
      server.outlineAnswer t.rerunId reply := by
  rw [Exchange.outcome, Exchange.request, ReviewServer.outlineAnswer]
  cases server.request (.outline t.rerunId) <;> rfl

/-- What a new session makes of the answer. -/
theorem finish_load (server : ReviewServer) (rerunId : String) (reply : Outcome HttpReply) :
    let e : Exchange := .load ⟨1, rerunId⟩
    let s : Session := { generation := 1, rerunId := some rerunId }
    e.finish (e.outcome server reply) { s with loading := true } =
      match server.outlineAnswer rerunId reply with
      | .ok o => (.ok (.loaded (some o)), { s with outline := some o })
      | .error failure =>
        ((unlessStale (.error failure)).map .loaded, s.announce loadName failure) := by
  simp only [Exchange.finish, readAnswer_load, Session.finishLoad]
  cases server.outlineAnswer rerunId reply <;> rfl

theorem outline_announce (s : Session) (what : String) (e : ReviewError) :
    (s.announce what e).outline = s.outline := by
  rw [Session.announce]
  split <;> rfl

/-- **Loading** by a new synchronizer: with an answer a review of the outlines begins, and without one
there is nothing to review. -/
theorem drive_load (hlink : link.Answers replies) (hsession : y.session = {}) (htasks : y.tasks = [])
    (hrequests : y.requests = []) (hnext : y.nextRequest = 0) (rerunId : String) (task : Nat)
    (state : σ) :
    ∃ y' state' result, drive link (y.start task (.load rerunId)) state =
      ({ sent := numbered 0 (y.server.request (.outline rerunId)).toOption.toList
         finished := [(task, result)] }, y', state') ∧
      y'.server = y.server ∧
      (∀ o, y.server.outlineAnswer rerunId (replies 0) = .ok o →
        y'.AtRest o ∧ y'.nextRequest = 1 ∧ ∃ a, result = .ok a) ∧
      ∀ e, y.server.outlineAnswer rerunId (replies 0) = .error e →
        y'.session.outline = none ∧ y'.tasks = [] ∧ y'.requests = [] ∧
          result = (unlessStale (.error e)).map .loaded := by
  have hstart : (Call.load rerunId).start y.session =
      (.exchange (.load ⟨1, rerunId⟩),
        { generation := 1, rerunId := some rerunId, loading := true }) := by
    rw [hsession]
    rfl
  obtain ⟨state', hdrive⟩ := drive_exchange hlink htasks hrequests hstart task state
  rw [hnext, finish_load] at hdrive
  refine ⟨_, state', _, hdrive, rfl, fun o hanswer => ?_, fun e hanswer => ?_⟩
  · have hrequest : ∃ r, y.server.request (.outline rerunId) = .ok r := by
      rw [ReviewServer.outlineAnswer] at hanswer
      cases hrequest : y.server.request (.outline rerunId) with
      | error failure => rw [hrequest] at hanswer; cases hanswer
      | ok r => exact ⟨r, rfl⟩
    obtain ⟨r, hrequest⟩ := hrequest
    rw [hanswer]
    refine ⟨⟨?_, fun k => ?_, rfl, rfl, rfl⟩, ?_, _, rfl⟩
    · exact ⟨_, _, (Trace.refl.tail (e := .beginLoad rerunId) (.of_begin rfl)).tail
        (e := .finishLoad ⟨1, rerunId⟩ (.ok o)) (.of_finish rfl List.mem_cons_self), rfl⟩
    · cases k <;> rfl
    · change 0 + (y.server.request (.outline rerunId)).toOption.toList.length = 1
      rw [hrequest]
      rfl
  · rw [hanswer]
    exact ⟨outline_announce _ _ _, rfl, rfl, rfl⟩

/-- **Loading units** after the outlines: each missing unit is asked for by the next request, and in the end
the outline is stocked with what the replies bring. -/
theorem AtRest.loadUnits_after_load (hlink : link.Answers replies) (hrest : y.AtRest o)
    (hdistinct : o.DistinctIds) (hnext : y.nextRequest = 1) (hp : o.rerun.LeadsToUnits p) (task : Nat)
    (state : σ) :
    ∃ y' state' count, drive link (y.start task (.loadUnits p)) state =
      ({ sent := numbered 1 (y.server.unitRequests o.rerun (o.rerun.missingUnits p))
         finished := [(task, .ok (.unitsLoaded count))] }, y', state') ∧
      y'.AtRest (o.stock (y.server.brought o p (ReviewServer.unitReply replies o p))) ∧
      y'.server = y.server := by
  have hserves : link.Serves y.nextRequest (o.rerun.missingUnits p)
      (ReviewServer.unitReply replies o p) := by
    rw [hnext]
    exact hlink.serves 1 (Tree.missingUnits_spec hdistinct.rerun hp).1
  obtain ⟨y', state', hdrive, hrest', hserver⟩ := hrest.loadUnits hdistinct hp hserves task state
  rw [hnext] at hdrive
  exact ⟨y', state', _, hdrive, hrest', hserver⟩

end Synchronizer

/-- A path below which the units could be listed leads to a node. -/
theorem Tree.leadsToUnits_of_unitPaths {t : Tree} {paths : List NodePath}
    (hp : p.isCourseInfo = false) (hdepth : p.depth ≤ unitDepth) (h : t.unitPaths p = .ok paths) :
    t.LeadsToUnits p := by
  refine ⟨hdepth, ?_⟩
  rw [unitPaths, hp, NodePath.require] at h
  cases hn : p.resolve t with
  | none => rw [hn] at h; cases h
  | some n => exact ⟨n, rfl⟩

/-! ## 3. Scripts -/

@[simp] theorem CommandRun.sent_after (printed : Report) (sent : List HttpRequest) (r : CommandRun) :
    (after printed sent r).sent = sent ++ r.sent := rfl

namespace Script

variable {σ : Type} {link : Link σ} {y y' : Synchronizer} {state state' : σ} {printed : Report} {c : Call}
  {sent : List (Nat × HttpRequest)}

/-- **A script goes on from the outcome of its first call**, after what was printed and sent before. -/
theorem run_call {next : Outcome Answer → Session → Script} {result : Outcome Answer}
    (hdrive : Synchronizer.drive link (y.start 0 c) state =
      ({ sent, finished := [(0, result)] }, y', state')) :
    (call printed c next).run link (.ok y) state =
      CommandRun.after printed (sent.map (·.2)) ((next result y'.session).run link (.ok y') state') := by
  rw [run, hdrive]

/-- A script goes on from the answer to a question, and ends with a failure. -/
theorem run_ask {next : Answer → Session → Script} {a : Answer}
    (hdrive : Synchronizer.drive link (y.start 0 c) state =
      ({ sent, finished := [(0, .ok a)] }, y', state')) :
    (ask printed c next).run link (.ok y) state =
      CommandRun.after printed (sent.map (·.2)) ((next a y'.session).run link (.ok y') state') :=
  run_call hdrive

theorem run_ask_error {next : Answer → Session → Script} {e : ReviewError}
    (hdrive : Synchronizer.drive link (y.start 0 c) state =
      ({ sent, finished := [(0, .error e)] }, y', state')) :
    (ask printed c next).run link (.ok y) state =
      { printed, sent := sent.map (·.2), result := some (.error e) } := by
  refine (run_call hdrive).trans ?_
  simp [CommandRun.after, run]

end Script

end CourseReview
