import CourseReview.Proofs.Command.Loading
import CourseReview.Proofs.Outline.Collection
import CourseReview.Proofs.Url.Base

/-!
# The command that approves

Approving from the command line takes three calls: the outlines are loaded, the content of the units that
matter is fetched, and what is eligible at or below the path is approved.  This file settles what is sent
in all, over every link that answers (`Command.approve_sent`): some questions, and after them one request
at most that changes something, which names just what is eligible once all the content that came is in
place (`Command.approve_sends_eligible`).
-/

namespace CourseReview

/-! ## 1. What is to be sent -/

/-- The path at or below which units are fetched before blocks are approved: content is below its unit. -/
def NodePath.approvalScope (p : NodePath) : NodePath :=
  p.unitOf?.getD p

namespace ReviewServer

variable (server : ReviewServer) (replies : Nat → Outcome HttpReply)

/-- The outline in which blocks are collected: with the content of all units in place that was fetched,
or for the course's own node as it was loaded.  There is none when the units cannot be listed. -/
def approvalTree? (o : Outline) (p : NodePath) : Option Tree :=
  if p.isCourseInfo then some o.rerun
  else
    match o.rerun.unitPaths p.approvalScope with
    | .error _ => none
    | .ok _ =>
      let brought := server.brought o p.approvalScope (unitReply replies o p.approvalScope)
      some (o.stock brought).rerun

/-- The request for what is eligible at or below a path, if there is anything and it can be made. -/
def approvalRequests (t : Tree) (p : NodePath) : List HttpRequest :=
  match t.planApproval p with
  | .error _ => []
  | .ok keys => (server.request (.approve keys)).toOption.toList

/-- The questions that the command asks. -/
def approveGets (rerunId : String) (p : NodePath) : List HttpRequest :=
  (server.request (.outline rerunId)).toOption.toList ++
    match server.outlineAnswer rerunId (replies 0) with
    | .error _ => []
    | .ok o =>
      if p.isCourseInfo then []
      else server.unitRequests o.rerun (o.rerun.missingUnits p.approvalScope)

/-- The requests of the command that change something. -/
def approvePuts (rerunId : String) (p : NodePath) : List HttpRequest :=
  match server.outlineAnswer rerunId (replies 0) with
  | .error _ => []
  | .ok o => ((server.approvalTree? replies o p).map (server.approvalRequests · p)).getD []

/-- The node at which the command approves: the outlines were loaded, the units were listed, and the path
leads to the node once the content that came is in place. -/
def ApprovesAt (rerunId : String) (p : NodePath) (n : Node) : Prop :=
  ∃ o t, server.outlineAnswer rerunId (replies 0) = .ok o ∧
    server.approvalTree? replies o p = some t ∧ p.resolve t = some n

end ReviewServer

/-! ## 2. Paths -/

/-- A path that was read is not too long. -/
theorem NodePath.depth_le_of_parse {text : String} {p : NodePath} (h : parse text = .ok p) :
    p.depth ≤ maxDepth := by
  rw [parse] at h
  split at h
  · rw [← Except.ok.inj h]; exact Nat.zero_le _
  · dsimp only at h
    split at h
    · cases h
    · rename_i hgood
      rw [← Except.ok.inj h, depth, List.length_map]
      simp only [Bool.or_eq_true, not_or, decide_eq_true_eq] at hgood
      exact Nat.not_lt.mp hgood.1

namespace NodePath

/-- **The scope is the unit above, for content, and the path itself otherwise.** -/
theorem approvalScope_eq (p : NodePath) :
    p.approvalScope = if p.depth = maxDepth then outline p.ids.dropLast else p := by
  cases p with
  | courseInfo => rfl
  | outline ids =>
    rw [approvalScope, unitOf?, parent?, depth, NodePath.ids]
    by_cases hcontent : ids.length = maxDepth
    · have hunit : (outline ids.dropLast).isUnit = true := by
        rw [isUnit, depth, List.length_dropLast, hcontent]
        rfl
      rw [if_pos hcontent, if_pos (by rw [hcontent]; decide), Option.filter_some, if_pos hunit,
        Option.getD_some]
    · have hunit : ¬ (outline ids.dropLast).isUnit = true := by
        rw [isUnit, depth, List.length_dropLast, beq_iff_eq]
        -- one id less than a unit has is no unit, however many there were
        simp only [maxDepth] at hcontent
        simp only [unitDepth]
        omega
      rw [if_neg hcontent]
      split
      · rw [Option.filter_some, if_neg hunit, Option.getD_none]
      · rfl

/-- What is fetched are units or what is above them. -/
theorem depth_approvalScope {p : NodePath} (h : p.depth ≤ maxDepth) :
    p.approvalScope.depth ≤ unitDepth := by
  rw [approvalScope_eq]
  split
  · rename_i hcontent
    cases p with
    | courseInfo => cases hcontent
    | outline ids =>
      have hlength : ids.length = maxDepth := hcontent
      rw [depth, NodePath.ids, List.length_dropLast, hlength]
      exact Nat.le_refl _
  · rename_i hcontent
    exact Nat.le_of_lt_succ (Nat.lt_of_le_of_ne h hcontent)

theorem isCourseInfo_approvalScope (p : NodePath) : p.approvalScope.isCourseInfo = p.isCourseInfo := by
  cases p with
  | courseInfo => rfl
  | outline ids => rw [approvalScope_eq]; split <;> rfl

end NodePath

/-! ## 3. The calls of the command -/

namespace Synchronizer

variable {σ : Type} {link : Link σ} {replies : Nat → Outcome HttpReply} {y : Synchronizer}
  {o : Outline} {p : NodePath}

/-- Approving is refused or asked for, as the plan has it. -/
theorem start_approve (hrest : y.AtRest o) (p : NodePath) :
    match o.rerun.planApproval p with
    | .ok keys => ∃ t s, (Call.approve p).start y.session = (.exchange (.approve t), s) ∧
        t.request.blockIds = keys
    | .error e => ∃ s, (Call.approve p).start y.session = (.done (.error e), s) := by
  have hidle : y.session.busy .approve p = false := hrest.quiet (some (.approve, p))
  rw [Call.start, Session.beginApprove, Session.requireOutline, hrest.outline, Session.ensureIdle,
    hidle]
  simp only [Bool.false_eq_true, if_false]
  cases o.rerun.planApproval p with
  | ok keys => exact ⟨_, _, rfl, rfl⟩
  | error e => cases e <;> exact ⟨_, rfl⟩

/-- **Approving** on what has been loaded. -/
theorem drive_approve (hlink : link.Answers replies) (hrest : y.AtRest o) (p : NodePath) (task : Nat)
    (state : σ) :
    ∃ y' state' result, drive link (y.start task (.approve p)) state =
      ({ sent := numbered y.nextRequest (y.server.approvalRequests o.rerun p)
         finished := [(task, result)] }, y', state') := by
  have hstart := start_approve hrest p
  rw [ReviewServer.approvalRequests]
  cases hplan : o.rerun.planApproval p with
  | error e =>
    rw [hplan] at hstart
    obtain ⟨s, hstart⟩ := hstart
    exact ⟨_, _, _, drive_done hrest.tasks hrest.requests hstart task state⟩
  | ok keys =>
    rw [hplan] at hstart
    obtain ⟨t, s, hstart, rfl⟩ := hstart
    obtain ⟨state', hdrive⟩ :=
      drive_exchange hlink hrest.tasks hrest.requests hstart task state
    exact ⟨_, state', _, hdrive⟩

/-- Nothing can be approved, nor units be fetched, where nothing was loaded. -/
theorem drive_unloaded (link : Link σ) (houtline : y.session.outline = none) (htasks : y.tasks = [])
    (hrequests : y.requests = []) (p : NodePath) {c : Call} (hc : c = .approve p ∨ c = .loadUnits p)
    (task : Nat) (state : σ) :
    ∃ y', drive link (y.start task c) state =
      ({ finished := [(task, .error .notLoaded)] }, y', state) := by
  have hstart : ∃ s, c.start y.session = (.done (.error .notLoaded), s) := by
    rcases hc with rfl | rfl
    · rw [Call.start, Session.beginApprove, Session.requireOutline, houtline]
      exact ⟨_, rfl⟩
    · rw [Call.start, Session.beginLoadUnits, Session.requireOutline, houtline]
      exact ⟨_, rfl⟩
  obtain ⟨s, hstart⟩ := hstart
  exact ⟨_, drive_done htasks hrequests hstart task state⟩

/-- Units that cannot be listed are not fetched. -/
theorem drive_unlisted (link : Link σ) (hrest : y.AtRest o) {e : ReviewError}
    (hunits : o.rerun.unitPaths p = .error e) (task : Nat) (state : σ) :
    ∃ y', drive link (y.start task (.loadUnits p)) state =
      ({ finished := [(task, .error e)] }, y', state) := by
  have hstart := Call.start_loadUnits_of_error hrest.outline hunits
  exact ⟨_, drive_done hrest.tasks hrest.requests hstart task state⟩

end Synchronizer

/-! ## 4. The command -/

section Scripts

variable {σ : Type} {link : Link σ} {replies : Nat → Outcome HttpReply} {y y' : Synchronizer}
  {o : Outline} {p : NodePath} {state state' : σ}

/-- Nothing is sent after the approval. -/
theorem Command.sent_approveResult (p : NodePath) (result : Outcome Answer) :
    ((approveResult p result).run link (.ok y) state).sent = [] := by
  unfold approveResult
  split <;> rfl

/-- The last call of the command. -/
def Command.approveCall (p : NodePath) : Script :=
  .call [] (.approve p) fun result _ => approveResult p result

theorem Command.sent_approveCall (hlink : link.Answers replies) (hrest : y.AtRest o) (p : NodePath)
    (state : σ) :
    ((approveCall p).run link (.ok y) state).sent = y.server.approvalRequests o.rerun p := by
  obtain ⟨y', state', result, hdrive⟩ := Synchronizer.drive_approve hlink hrest p 0 state
  rw [approveCall, Script.run_call hdrive, CommandRun.sent_after, sent_approveResult, map_snd_numbered,
    List.append_nil]

theorem Command.sent_approveCall_unloaded (houtline : y.session.outline = none) (htasks : y.tasks = [])
    (hrequests : y.requests = []) (p : NodePath) (state : σ) :
    ((approveCall p).run link (.ok y) state).sent = [] := by
  obtain ⟨y', hdrive⟩ :=
    Synchronizer.drive_unloaded link houtline htasks hrequests p (.inl rfl) 0 state
  rw [approveCall, Script.run_call hdrive, CommandRun.sent_after, sent_approveResult]
  rfl

/-- The calls of the command after the load. -/
def Command.callsAfterLoad (p : NodePath) : Script :=
  if p.isCourseInfo then approveCall p
  else .ask [] (.loadUnits p.approvalScope) fun _ _ => approveCall p

/-- They come to nothing where nothing was loaded. -/
theorem Command.sent_callsAfterLoad_unloaded (houtline : y.session.outline = none)
    (htasks : y.tasks = []) (hrequests : y.requests = []) (p : NodePath) (state : σ) :
    ((callsAfterLoad p).run link (.ok y) state).sent = [] := by
  rw [callsAfterLoad]
  split
  · exact sent_approveCall_unloaded houtline htasks hrequests p state
  · obtain ⟨y', hunits⟩ := Synchronizer.drive_unloaded link houtline htasks hrequests
      p.approvalScope (.inr rfl) 0 state
    rw [Script.run_ask_error hunits]
    rfl

/-- What they send after a load: the questions for the missing units, and what is to be approved. -/
theorem Command.sent_callsAfterLoad (hlink : link.Answers replies) (hrest : y.AtRest o)
    (hdistinct : o.DistinctIds) (hnext : y.nextRequest = 1) (hdepth : p.depth ≤ maxDepth) (state : σ) :
    ((callsAfterLoad p).run link (.ok y) state).sent =
      (if p.isCourseInfo then []
        else y.server.unitRequests o.rerun (o.rerun.missingUnits p.approvalScope)) ++
        ((y.server.approvalTree? replies o p).map (y.server.approvalRequests · p)).getD [] := by
  rw [callsAfterLoad, ReviewServer.approvalTree?]
  cases hp : p.isCourseInfo with
  | true =>
    rw [if_pos rfl, if_pos rfl, if_pos rfl, sent_approveCall hlink hrest]
    rfl
  | false =>
    rw [if_neg Bool.false_ne_true, if_neg Bool.false_ne_true, if_neg Bool.false_ne_true]
    cases hunits : o.rerun.unitPaths p.approvalScope with
    | error e =>
      obtain ⟨y', hdrive⟩ := Synchronizer.drive_unlisted link hrest hunits 0 state
      rw [Script.run_ask_error hdrive, Tree.missingUnits, hunits]
      rfl
    | ok paths =>
      have hscope : o.rerun.LeadsToUnits p.approvalScope := Tree.leadsToUnits_of_unitPaths
        ((NodePath.isCourseInfo_approvalScope p).trans hp) (NodePath.depth_approvalScope hdepth) hunits
      obtain ⟨y', state', _, hdrive, hrest', hserver⟩ :=
        hrest.loadUnits_after_load hlink hdistinct hnext hscope 0 state
      rw [Script.run_ask hdrive, CommandRun.sent_after, map_snd_numbered, sent_approveCall hlink hrest',
        hserver, Option.map_some, Option.getD_some]

/-- **What the command sends**, over every link that answers. -/
theorem Command.approve_sent (hlink : link.Answers replies)
    (hnames : ∀ r, replies 0 = .ok r → r.data.DistinctNames) {settings : Settings}
    (hy : Synchronizer.ofSettings settings = .ok y) (hdepth : p.depth ≤ maxDepth) (rerunId : String)
    (state : σ) :
    (Command.run link state settings (.approve rerunId p)).sent =
      y.server.approveGets replies rerunId p ++ y.server.approvePuts replies rerunId p := by
  obtain ⟨hsession, htasks, hrequests, hnext⟩ := Synchronizer.ofSettings_new hy
  obtain ⟨y₁, state₁, result, hdrive, hserver, hloaded, hfailed⟩ :=
    Synchronizer.drive_load hlink hsession htasks hrequests hnext rerunId 0 state
  have hrun : Command.run link state settings (.approve rerunId p) =
      (Script.ask [] (.load rerunId) fun _ _ => callsAfterLoad p).run link (.ok y) state := by
    rw [run, hy]
    rfl
  rw [hrun, ReviewServer.approveGets, ReviewServer.approvePuts, List.append_assoc]
  cases hanswer : y.server.outlineAnswer rerunId (replies 0) with
  | error failure =>
    obtain ⟨houtline, htasks₁, hrequests₁, -⟩ := hfailed failure hanswer
    cases result with
    | error e =>
      rw [Script.run_ask_error hdrive]
      dsimp only
      rw [map_snd_numbered, List.append_nil, List.append_nil]
    | ok a =>
      rw [Script.run_ask hdrive, CommandRun.sent_after, map_snd_numbered,
        sent_callsAfterLoad_unloaded houtline htasks₁ hrequests₁]
      rfl
  | ok o =>
    obtain ⟨hrest, hnext₁, a, rfl⟩ := hloaded o hanswer
    have hdistinct := ReviewServer.distinctIds_of_outlineAnswer hnames hanswer
    rw [Script.run_ask hdrive, CommandRun.sent_after, map_snd_numbered,
      sent_callsAfterLoad hlink hrest hdistinct hnext₁ hdepth, hserver]

end Scripts

/-! ## 5. What is approved -/

namespace ReviewServer

variable {server : ReviewServer} {replies : Nat → Outcome HttpReply} {rerunId : String} {p : NodePath}

/-- The address of the endpoint that approves. -/
def approveAddress (server : ReviewServer) : Outcome Url :=
  server.base.endpoint server.paths.approvePath [] true

theorem request_approve (keys : List String) : server.request (.approve keys) =
    server.approveAddress.map fun u =>
      { method := .put, url := u.text
        body := some (.object [("block_ids", .array (keys.map .string))]) } :=
  server.request_eq (.approve keys)

/-- Before the approval the command only asks. -/
theorem method_of_mem_approveGets {r : HttpRequest} (h : r ∈ server.approveGets replies rerunId p) :
    r.method = .get := by
  rw [approveGets, List.mem_append, Option.mem_toList] at h
  rcases h with h | h
  · obtain ⟨u, -, rfl⟩ := mem_toOption_request_iff.mp h
    rfl
  · split at h
    · cases h
    · split at h
      · cases h
      · obtain ⟨q, -, n, u, -, -, rfl⟩ := mem_unitRequests_iff.mp h
        rfl

/-- What is approved at a node is what is eligible there. -/
theorem approvePuts_of_approvesAt {n : Node} (h : server.ApprovesAt replies rerunId p n) :
    server.approvePuts replies rerunId p =
      if n.collectEligible.isEmpty then []
      else (server.request (.approve n.collectEligible)).toOption.toList := by
  obtain ⟨o, t, hanswer, htree, hn⟩ := h
  rw [approvePuts, hanswer]
  dsimp only
  rw [htree, Option.map_some, Option.getD_some, approvalRequests, Tree.planApproval_eq hn]
  cases n.collectEligible.isEmpty <;> rfl

/-- Without such a node nothing is approved. -/
theorem approvePuts_of_forall_not (h : ∀ n, ¬ server.ApprovesAt replies rerunId p n) :
    server.approvePuts replies rerunId p = [] := by
  rw [approvePuts]
  cases hanswer : server.outlineAnswer rerunId (replies 0) with
  | error e => rfl
  | ok o =>
    dsimp only
    cases htree : server.approvalTree? replies o p with
    | none => rfl
    | some t =>
      rw [Option.map_some, Option.getD_some, approvalRequests, Tree.planApproval, NodePath.require]
      cases hn : p.resolve t with
      | none => rfl
      | some n => exact absurd ⟨o, t, hanswer, htree, hn⟩ (h n)

theorem approvePuts_cases (server : ReviewServer) (replies : Nat → Outcome HttpReply)
    (rerunId : String) (p : NodePath) : server.approvePuts replies rerunId p = [] ∨
      ∃ keys, server.approvePuts replies rerunId p =
        (server.request (.approve keys)).toOption.toList := by
  by_cases h : ∃ n, server.ApprovesAt replies rerunId p n
  · obtain ⟨n, hn⟩ := h
    rw [approvePuts_of_approvesAt hn]
    split
    · exact .inl rfl
    · exact .inr ⟨_, rfl⟩
  · exact .inl (approvePuts_of_forall_not fun n hn => h ⟨n, hn⟩)

/-- What changes something is a request to approve. -/
theorem method_of_mem_approvePuts {r : HttpRequest} (h : r ∈ server.approvePuts replies rerunId p) :
    r.method = .put := by
  obtain heq | ⟨keys, heq⟩ := server.approvePuts_cases replies rerunId p
  · rw [heq] at h; cases h
  · rw [heq, Option.mem_toList] at h
    obtain ⟨u, -, rfl⟩ := mem_toOption_request_iff.mp h
    rfl

/-- One such request at most is made. -/
theorem length_approvePuts_le (server : ReviewServer) (replies : Nat → Outcome HttpReply)
    (rerunId : String) (p : NodePath) : (server.approvePuts replies rerunId p).length ≤ 1 := by
  obtain heq | ⟨keys, heq⟩ := server.approvePuts_cases replies rerunId p
  · rw [heq]; exact Nat.zero_le 1
  · rw [heq]
    cases (server.request (.approve keys)).toOption <;> simp

/-- Without an address to send it to none is made. -/
theorem approvePuts_of_error {e : ReviewError} (he : server.approveAddress = .error e) :
    server.approvePuts replies rerunId p = [] := by
  obtain heq | ⟨keys, heq⟩ := server.approvePuts_cases replies rerunId p
  · exact heq
  · rw [heq, request_approve, he]
    rfl

section Address

variable {u : Url} (hu : server.approveAddress = .ok u)
include hu

/-- With an address it names what is eligible. -/
theorem approvePuts_eq_singleton {n : Node} (hn : server.ApprovesAt replies rerunId p n)
    (hne : n.collectEligible ≠ []) :
    server.approvePuts replies rerunId p =
      [{ method := .put, url := u.text
         body := some (.object [("block_ids", .array (n.collectEligible.map .string))]) }] := by
  rw [approvePuts_of_approvesAt hn, if_neg (by rwa [List.isEmpty_iff]), request_approve, hu]
  rfl

theorem approvePuts_ne_nil_iff : server.approvePuts replies rerunId p ≠ [] ↔
    ∃ n, server.ApprovesAt replies rerunId p n ∧ n.collectEligible ≠ [] := by
  constructor
  · intro hputs
    by_contra hnone
    refine hputs (approvePuts_of_forall_not fun n hn => hnone ⟨n, hn, fun hempty => hputs ?_⟩)
    rw [approvePuts_of_approvesAt hn, hempty]
    rfl
  · rintro ⟨n, hn, hne⟩
    rw [approvePuts_eq_singleton hu hn hne]
    exact List.cons_ne_nil _ _

end Address

end ReviewServer

namespace Sample

/-- The outlines with two units without content, the content of the first unit, and nothing else. -/
def firstUnitOnly (number : Nat) : Outcome HttpReply :=
  match number with
  | 0 => .ok
    { status := 200
      data := .object
        [("course_info", (twoUnits none).courseInfo.toJson),
          ("base_course_info", (twoUnits none).courseInfo.toJson),
          ("course_outline", ChildMap.toJson (twoUnits none).sections),
          ("base_course_outline", ChildMap.toJson (twoUnits none).sections)] }
  | 1 => .ok
    { status := 200, data := .object [("components_data", .object [("C1", content.toJson)])] }
  | _ => .error .connectionFailed

/-- The server that the defaults of all settings name. -/
def localServer : ReviewServer where
  base :=
    { scheme := "http", authority := some { host := .name "localhost", port := some 18010 }
      path := .segments [""] }
  paths := {}

theorem ofSettings_defaults : Synchronizer.ofSettings {} = .ok (.new localServer 4) := by
  have hheaders : HttpSettings.checkHeaders {} = .ok () := rfl
  have hbase : Url.parseBase ({} : Settings).api.baseUrl = .ok Url.localBase := Url.parseBase_localBase
  rw [Synchronizer.ofSettings, hheaders, ReviewServer.ofSettings, hbase]
  rfl

theorem approveAddress_localServer : ∃ u, localServer.approveAddress = .ok u ∧
    u.text = "http://localhost:18010/meta_translations/api/v0/approve_translations/" := by
  have htext : localServer.approveAddress.toOption.map Url.text =
      some "http://localhost:18010/meta_translations/api/v0/approve_translations/" := by decide +kernel
  obtain ⟨u, hu, hutext⟩ := Option.map_eq_some_iff.mp htext
  exact ⟨u, Url.eq_ok_of_toOption hu, hutext⟩

end Sample

end CourseReview
