import CourseReview.Proofs.Outline.Views
import CourseReview.Proofs.Session.Move

/-!
# What an event does to each part of a session

One summary of a move for each part of the session, so that an invariant about one part is proved
from few cases.

* `Move.flags`: which flags are up afterwards, and which ticket went in or out.
* `Move.outline`: the outline of the translated course is gone, has arrived, is the one before, or
  differs from it by one `Edit` at one path.
* `Move.loadStates`: how far the content of each node has been fetched.
* `Move.selections`: which version is selected for each node.
-/

namespace CourseReview

/-! ## 1. Flags and tickets

While a pairing is loaded, and while an activity is under way for a node, a flag is up.  The load
has one flag, written `none`; an activity has one for every path. -/

/-- The flag that is up while the ticket is out. -/
def SomeTicket.flag : SomeTicket → Option (Activity × NodePath)
  | .load _ => none
  | .fetch t => some (.expand, t.path)
  | .select t => some (.selectVersion, t.path)
  | .apply t => some (.applyVersion, t.path)
  | .approve t => some (.approve, t.path)

namespace Session

/-- Whether a flag is up. -/
def isUp (s : Session) : Option (Activity × NodePath) → Bool
  | none => s.loading
  | some (a, p) => s.busy a p

theorem isUp_setBusy (s : Session) (a : Activity) (p : NodePath) (b : Bool)
    (k : Option (Activity × NodePath)) :
    (s.setBusy a p b).isUp k = if k = some (a, p) then b else s.isUp k := by
  match k with
  | none => rfl
  | some (a', p') =>
    simp only [isUp, setBusy, Option.some.injEq, Prod.mk.injEq]

/-- What a step does with the flags and the tickets. -/
inductive FlagStep (s : Session) (e : Event) (a : Response) (s' : Session) : Prop where
  /-- A new generation begins, and only its load is under way. -/
  | load {rerunId : String} {t : SomeTicket} (he : e = .beginLoad rerunId)
    (ha : a.ticket? = some t) (hflag : t.flag = none) (hticket : t.generation = s'.generation)
    (hgen : s'.generation = s.generation + 1) (hup : ∀ k, s'.isUp k = decide (k = none))
  /-- No ticket of this generation comes in or goes out. -/
  | same (he : ∀ t, e.ticket? = some t → t.generation ≠ s.generation) (ha : a.ticket? = none)
    (hgen : s'.generation = s.generation) (hup : ∀ k, s'.isUp k = s.isUp k)
  /-- A ticket of this generation comes in, and its flag goes down. -/
  | back {t : SomeTicket} (he : e.ticket? = some t) (hticket : t.generation = s.generation)
    (ha : a.ticket? = none) (hgen : s'.generation = s.generation)
    (hup : ∀ k, s'.isUp k = if k = t.flag then false else s.isUp k)
  /-- A ticket goes out for a node that is there, and its flag goes up.  That it was down is checked
  at the flag itself, or for the content of a unit at its load state. -/
  | out {t : SomeTicket} {activity : Activity} {p : NodePath} {n : Node} (he : e.ticket? = none)
    (ha : a.ticket? = some t) (hflag : t.flag = some (activity, p)) (hn : s.nodeAt p = some n)
    (hdown : s.busy activity p = false ∨
      activity = .expand ∧ s.expansion.loadState p = .notFetched)
    (hticket : t.generation = s.generation) (hgen : s'.generation = s.generation)
    (hup : ∀ k, s'.isUp k = if k = t.flag then true else s.isUp k)

end Session

/-- A response that reports a failure hands out no ticket. -/
theorem Response.ticket?_of_failure {a : Response} {e : ReviewError} (h : a.failure? = some e) :
    a.ticket? = none := by
  cases a with
  | fetchBegun result => cases result with | ok _ => cases h | error _ => rfl
  | selectBegun result => cases result with | ok _ => cases h | error _ => rfl
  | applyBegun result => cases result with | ok _ => cases h | error _ => rfl
  | approveBegun result => cases result with | ok _ => cases h | error _ => rfl
  | loadBegun _ => cases h
  | _ => rfl

namespace Session

/-- Settling a ticket and then touching neither flags nor generation is handing it back. -/
theorem FlagStep.of_settled {s s' : Session} {e : Event} {a : Response} {t : SomeTicket}
    {activity : Activity} {p : NodePath} (he : e.ticket? = some t)
    (hticket : t.generation = s.generation) (hflag : t.flag = some (activity, p))
    (ha : a.ticket? = none) (hgen : s'.generation = s.generation)
    (hup : ∀ k, s'.isUp k = (s.setBusy activity p false).isUp k) : FlagStep s e a s' :=
  .back he hticket ha hgen fun k => by rw [hup, isUp_setBusy, hflag]

/-- **What an event does with the flags and the tickets.** -/
theorem Move.flags {s s' : Session} {e : Event} {a : Response} (h : Move s e a s') :
    FlagStep s e a s' := by
  cases h with
  | loadBegun rerunId =>
    refine .load rfl rfl rfl rfl rfl fun k => ?_
    cases k <;> rfl
  | loadFailed hcurrent hns =>
    refine .back rfl hcurrent rfl rfl fun k => ?_
    cases k <;> rfl
  | loaded hcurrent =>
    refine .back rfl hcurrent rfl rfl fun k => ?_
    cases k <;> rfl
  | stale ht hstale ha =>
    refine .same (fun t' ht' => ?_) (Response.ticket?_of_failure ha) rfl fun _ => rfl
    rw [ht] at ht'
    rw [← Option.some.inj ht']; exact hstale
  | refused ht ha =>
    refine .same (fun t' ht' => ?_) (Response.ticket?_of_failure ha) rfl fun _ => rfl
    rw [ht] at ht'; cases ht'
  | nothingToFetch p => exact .same (fun _ h => nomatch h) rfl rfl fun _ => rfl
  | nothingToApprove => exact .same (fun _ h => nomatch h) rfl rfl fun k => by cases k <;> rfl
  | toggled hn hfetch => exact .same (fun _ h => nomatch h) rfl rfl fun k => by cases k <;> rfl
  | toggledAll => exact .same (fun _ h => nomatch h) rfl rfl fun k => by cases k <;> rfl
  | notified => exact .same (fun _ h => nomatch h) rfl rfl fun k => by cases k <;> rfl
  | toggledToFetch hn hfetch =>
    have hload := (Expansion.toggle_fetches hfetch).2.1
    refine .out rfl rfl rfl hn (.inr ⟨rfl, hload⟩) rfl rfl fun k => ?_
    rw [isUp_setBusy]; cases k <;> rfl
  | fetchBegun hn hneeds hload =>
    refine .out rfl rfl rfl hn (.inr ⟨rfl, hload⟩) rfl rfl fun k => ?_
    rw [isUp_setBusy]; cases k <;> rfl
  | selectBegun hn hidle hversion =>
    exact .out rfl rfl rfl hn (.inl hidle) rfl rfl fun k => isUp_setBusy ..
  | reverted ho hidle hr =>
    exact .same (fun _ h => nomatch h) rfl rfl fun k => by cases k <;> rfl
  | applyBegun hn hselected hpending henabled hidle =>
    exact .out rfl rfl rfl hn (.inl hidle) rfl rfl fun k => isUp_setBusy ..
  | approveBegun hn hidle hkeys =>
    exact .out rfl rfl rfl hn (.inl hidle) rfl rfl fun k => isUp_setBusy ..
  | fetchFailed hcurrent hfailed hns =>
    exact .of_settled rfl hcurrent rfl rfl rfl fun k => by cases k <;> rfl
  | fetched hcurrent ho hm =>
    exact .of_settled rfl hcurrent rfl rfl rfl fun k => by cases k <;> rfl
  | selectFailed hcurrent hns =>
    exact .of_settled rfl hcurrent rfl rfl rfl fun k => by cases k <;> rfl
  | selected hcurrent ho hr hn =>
    exact .of_settled rfl hcurrent rfl rfl rfl fun k => by cases k <;> rfl
  | applyFailed hcurrent hns =>
    exact .of_settled rfl hcurrent rfl rfl rfl fun k => by cases k <;> rfl
  | applied hcurrent ho hr hselection =>
    exact .of_settled rfl hcurrent rfl rfl rfl fun k => by cases k <;> rfl
  | approveFailed hcurrent hns =>
    exact .of_settled rfl hcurrent rfl rfl rfl fun k => by cases k <;> rfl
  | approved hcurrent ho hr =>
    exact .of_settled rfl hcurrent rfl rfl rfl fun k => by cases k <;> rfl
  | selectLost hcurrent hlost => exact .of_settled rfl hcurrent rfl rfl rfl fun _ => rfl
  | applyLost hcurrent hlost => exact .of_settled rfl hcurrent rfl rfl rfl fun _ => rfl
  | approveLost hcurrent hlost => exact .of_settled rfl hcurrent rfl rfl rfl fun _ => rfl

/-- The flag of a ticket that comes back in its generation goes down. -/
theorem FlagStep.isUp_back {s s' : Session} {e : Event} {a : Response} {t : SomeTicket}
    (h : FlagStep s e a s') (ht : e.ticket? = some t) (hcurrent : t.generation = s.generation) :
    s'.isUp t.flag = false := by
  cases h with
  | load he _ _ _ _ _ => rw [he] at ht; cases ht
  | same he _ _ _ => exact absurd hcurrent (he t ht)
  | back he _ _ _ hup =>
    rw [he] at ht
    obtain rfl := Option.some.inj ht
    rw [hup, if_pos rfl]
  | out he _ _ _ _ _ _ _ => rw [he] at ht; cases ht

/-- A flag that is up was up before, or goes up for a node that is there. -/
theorem FlagStep.of_isUp {s s' : Session} {e : Event} {a : Response} {k : Option (Activity × NodePath)}
    (h : FlagStep s e a s') (hload : ∀ rerunId, e ≠ .beginLoad rerunId) (hk : s'.isUp k = true) :
    s.isUp k = true ∨ ∃ activity p n, k = some (activity, p) ∧ s.nodeAt p = some n := by
  cases h with
  | load he _ _ _ _ _ => exact absurd he (hload _)
  | same _ _ _ hup => rw [hup] at hk; exact .inl hk
  | back _ _ _ _ hup =>
    rw [hup] at hk
    split at hk
    · cases hk
    · exact .inl hk
  | out _ _ hflag hn _ _ _ hup =>
    rw [hup] at hk
    split at hk
    · rename_i h; exact .inr ⟨_, _, _, h.trans hflag, hn⟩
    · exact .inl hk

/-- The generation never falls. -/
theorem FlagStep.generation_le {s s' : Session} {e : Event} {a : Response}
    (h : FlagStep s e a s') : s.generation ≤ s'.generation := by
  cases h with
  | load _ _ _ _ hgen _ => omega
  | same _ _ hgen _ => omega
  | back _ _ _ hgen _ => omega
  | out _ _ _ _ _ _ hgen _ => omega

/-- It stays as long as no load begins. -/
theorem FlagStep.generation_eq {s s' : Session} {e : Event} {a : Response} (h : FlagStep s e a s')
    (hload : ∀ rerunId, e ≠ .beginLoad rerunId) : s'.generation = s.generation := by
  cases h with
  | load he _ _ _ _ _ => exact absurd he (hload _)
  | same _ _ hgen _ => exact hgen
  | back _ _ _ hgen _ => exact hgen
  | out _ _ _ _ _ _ hgen _ => exact hgen

/-- A ticket handed out is of the generation of its time. -/
theorem FlagStep.ticket_generation {s s' : Session} {e : Event} {a : Response} {t : SomeTicket}
    (h : FlagStep s e a s') (ht : a.ticket? = some t) : t.generation = s'.generation := by
  cases h with
  | load _ ha _ hticket _ _ =>
    rw [ha] at ht
    rw [← Option.some.inj ht]; exact hticket
  | same _ ha _ _ => rw [ha] at ht; cases ht
  | back _ _ ha _ _ => rw [ha] at ht; cases ht
  | out _ ha _ _ _ hticket hgen _ =>
    rw [ha] at ht
    rw [← Option.some.inj ht, hticket, hgen]

end Session

/-! ## 2. The outline -/

/-- The edit that an event with that response has made, and where. -/
inductive Event.Edits : Event → Response → NodePath → Edit → Prop where
  | revert (p : NodePath) :
    Edits (.beginSelect p pendingVersion) (.selectBegun (.ok (.done .pending))) p .revert
  | preview (t : Ticket VersionFetch) (payload : VersionPayload) (selected : Selection) :
    Edits (.finishSelect t (.ok payload)) (.selected (.ok selected)) t.path
      (.preview payload.data)
  | commit (t : Ticket VersionApply) (applied : AppliedVersion) :
    Edits (.finishApply t (.ok applied)) (.applied (.ok ())) t.path (.commit applied)
  | approve (t : Ticket ApprovalRequest) (patch : ApprovalPatch) (count : Nat) :
    Edits (.finishApprove t (.ok patch)) (.approved (.ok count)) t.path (.approve patch)
  | fill (t : Ticket UnitFetch) (components : UnitComponents) (eligible : Bool) :
    Edits (.finishUnitFetch t (.ok components)) (.fetched (.ok eligible)) t.path
      (.fill (components.rerun.getD []))

/-- A failure has made no edit. -/
theorem Event.Edits.failure? {e : Event} {a : Response} {p : NodePath} {edit : Edit}
    (h : e.Edits a p edit) : a.failure? = none := by
  cases h <;> rfl

namespace Session

/-- What a step does to the outline of the translated course. -/
inductive OutlineStep (s : Session) (e : Event) (a : Response) (s' : Session) : Prop where
  /-- It is gone, since another pairing is on its way. -/
  | dropped {rerunId : String} (he : e = .beginLoad rerunId) (ho : s'.outline = none)
  /-- It has arrived. -/
  | arrived {t : LoadTicket} {o : Outline} (he : e = .finishLoad t (.ok o))
    (hcurrent : t.generation = s.generation) (ho : s'.outline = some o)
  /-- It is as it was. -/
  | untouched (hedits : ∀ p edit, ¬ e.Edits a p edit) (ho : s'.outline = s.outline)
  /-- It was edited at one path. -/
  | edited {p : NodePath} {edit : Edit} {o : Outline} {r : TreeRevision} {b : Tree}
    (hedits : e.Edits a p edit) (hcurrent : ∀ t, e.ticket? = some t → t.generation = s.generation)
    (ho : s.outline = some o)
    (hr : o.rerun.revise p edit.revision = .ok r) (ho' : s'.outline = some ⟨r.tree, b⟩)

/-- **What an event does to the outline.** -/
theorem Move.outline {s s' : Session} {e : Event} {a : Response} (h : Move s e a s') :
    OutlineStep s e a s' := by
  have hback : ∀ {t : SomeTicket}, e.ticket? = some t → t.generation = s.generation →
      ∀ t', e.ticket? = some t' → t'.generation = s.generation := by
    intro t ht hcurrent t' ht'
    rw [ht] at ht'
    rw [← Option.some.inj ht']; exact hcurrent
  cases h with
  | loadBegun rerunId => exact .dropped rfl rfl
  | loaded hcurrent => exact .arrived rfl hcurrent rfl
  | stale ht hstale ha =>
    refine .untouched (fun _ _ h => ?_) rfl
    rw [h.failure?] at ha; cases ha
  | refused ht ha =>
    refine .untouched (fun _ _ h => ?_) rfl
    rw [h.failure?] at ha; cases ha
  | reverted ho hidle hr => exact .edited (.revert _) (fun _ h => nomatch h) ho hr rfl
  | fetched hcurrent ho hm =>
    exact .edited (.fill ..) (hback rfl hcurrent) ho (Outline.revise_of_mergeUnit hm).2.1 rfl
  | selected hcurrent ho hr hn => exact .edited (.preview ..) (hback rfl hcurrent) ho hr rfl
  | applied hcurrent ho hr hselection => exact .edited (.commit ..) (hback rfl hcurrent) ho hr rfl
  | approved hcurrent ho hr => exact .edited (.approve ..) (hback rfl hcurrent) ho hr rfl
  | _ => exact .untouched (fun _ _ h => nomatch h) rfl

end Session

/-- An event has made one edit at most. -/
theorem Event.Edits.unique {e : Event} {a : Response} {p q : NodePath} {x y : Edit}
    (hx : e.Edits a p x) (hy : e.Edits a q y) : p = q ∧ x = y := by
  cases hx <;> cases hy <;> exact ⟨rfl, rfl⟩

/-- Content that an event has put in place came with its ticket. -/
theorem Event.Edits.of_fill {e : Event} {a : Response} {p : NodePath} {content : ChildMap}
    (h : e.Edits a p (.fill content)) :
    ∃ t components, e = .finishUnitFetch t (.ok components) ∧ t.path = p := by
  cases h with
  | fill t components eligible => exact ⟨t, components, rfl, rfl⟩

namespace Session

/-- What a step does with the node at a path, told apart as far as approvals go. -/
inductive NodeFate (R : Node → Node → Prop) (New : Node → Prop) (s : Session) (e : Event)
    (a : Response) (s' : Session) (p : NodePath) : Prop where
  /-- It was edited. -/
  | edited {edit : Edit} {n : Node} (hedits : e.Edits a p edit)
    (hcurrent : ∀ t, e.ticket? = some t → t.generation = s.generation)
    (hn : s.nodeAt p = some n) (hn' : s'.nodeAt p = some ((edit.revision n).node n))
  /-- A node above it was approved, and it with it. -/
  | approved {q : NodePath} {patch : ApprovalPatch} {n : Node} (hedits : e.Edits a q (.approve patch))
    (habove : q.contains p = true) (hne : p ≠ q) (hn : s.nodeAt p = some n)
    (hn' : s'.nodeAt p = some ((n.foldApproval patch).node n))
  /-- Neither was it edited itself nor approved with a node above it. -/
  | became (hedits : ∀ edit, ¬ e.Edits a p edit)
    (habove : ∀ q patch, e.Edits a q (.approve patch) → q.contains p = true → s.nodeAt p = none)
    (h : Became R New (s.nodeAt p) (s'.nodeAt p))

/-- What a step does with the node at a path. -/
inductive NodeStep (R : Node → Node → Prop) (New : Node → Prop) (s : Session) (e : Event)
    (a : Response) (s' : Session) (p : NodePath) : Prop where
  /-- It was edited. -/
  | edited {edit : Edit} {n : Node} (hedits : e.Edits a p edit)
    (hcurrent : ∀ t, e.ticket? = some t → t.generation = s.generation)
    (hn : s.nodeAt p = some n) (hn' : s'.nodeAt p = some ((edit.revision n).node n))
  /-- It was not edited itself. -/
  | became (hedits : ∀ edit, ¬ e.Edits a p edit) (h : Became R New (s.nodeAt p) (s'.nodeAt p))

/-- For a relation that approvals respect, those from above need not be told apart. -/
theorem NodeFate.step {R : Node → Node → Prop}
    (happrove : ∀ patch n, R n ((Node.foldApproval patch n).node n)) {New : Node → Prop}
    {s s' : Session} {e : Event} {a : Response} {p : NodePath} (h : NodeFate R New s e a s' p) :
    NodeStep R New s e a s' p := by
  cases h with
  | edited hedits hcurrent hn hn' => exact .edited hedits hcurrent hn hn'
  | approved hedits habove hne hn hn' =>
    refine .became (fun edit hedits' => hne (hedits'.unique hedits).1) ?_
    rw [hn, hn']
    exact .stayed (happrove _ _)
  | became hedits habove h => exact .became hedits h

/-- A node that was edited was there, and is as the edit has made it. -/
theorem OutlineStep.nodeAt_of_edits {s s' : Session} {e : Event} {a : Response} {p : NodePath}
    {edit : Edit} (h : OutlineStep s e a s') (hedits : e.Edits a p edit) :
    ∃ n, s.nodeAt p = some n ∧ s'.nodeAt p = some ((edit.revision n).node n) := by
  cases h with
  | dropped he _ => rw [he] at hedits; cases hedits
  | arrived he _ _ => rw [he] at hedits; cases hedits
  | untouched hnot _ => exact absurd hedits (hnot p edit)
  | edited hedits' _ ho hr ho' =>
    obtain ⟨rfl, rfl⟩ := hedits.unique hedits'
    obtain ⟨n, hn, hn'⟩ := Tree.resolve_revise_self hr
    exact ⟨n, nodeAt_eq_some.mpr ⟨_, ho, hn⟩, nodeAt_eq_some.mpr ⟨_, ho', hn'⟩⟩

/-- **What an event does to the node at a path**, if it does not begin a load.  The relation may be
any that does not look at the nodes below.

Two things have to be known of the session: that an outline does not arrive on top of another, and
that content is put in place in units without content only.  Both replies bring new nodes. -/
theorem OutlineStep.nodeFate {R : Node → Node → Prop} (hR : IgnoresBelow R) {New : Node → Prop}
    {s s' : Session} {e : Event} {a : Response} (h : OutlineStep s e a s')
    (hload : ∀ rerunId, e ≠ .beginLoad rerunId)
    (harrive : ∀ t o, e = .finishLoad t (.ok o) → t.generation = s.generation →
      s.outline = none ∧ ∀ (q : NodePath) n, q.resolve o.rerun = some n → New n)
    (hfill : ∀ t components n, e = .finishUnitFetch t (.ok components) →
      t.generation = s.generation → s.nodeAt t.path = some n →
      unitDepth ≤ t.path.depth ∧ n.units = none ∧
        ∀ id c rest x, Keyed.get? id (components.rerun.getD []) = some c →
          NodePath.descend (t.path.depth + 1) rest c = some x → New x)
    (p : NodePath) : NodeFate R New s e a s' p := by
  cases h with
  | dropped he _ => exact absurd he (hload _)
  | @arrived t o he hcurrent ho' =>
    obtain ⟨ho, hnew⟩ := harrive _ _ he hcurrent
    refine .became (fun edit hedits => by rw [he] at hedits; cases hedits)
      (fun q patch hedits => by rw [he] at hedits; cases hedits) ?_
    rw [Session.nodeAt, ho, Session.nodeAt, ho', Option.bind_none, Option.bind_some]
    cases hn : p.resolve o.rerun with
    | none => exact .missing
    | some n => exact .entered (hnew p n hn)
  | untouched hedits ho' =>
    refine .became (hedits p) (fun q patch h => absurd h (hedits q _)) ?_
    rw [Session.nodeAt, Session.nodeAt, ho']
    exact .refl hR.refl _
  | @edited q edit o r b hedits hcurrent ho hr ho' =>
    by_cases hq : p = q
    · subst hq
      obtain ⟨x, hx, hx'⟩ := Tree.resolve_revise_self hr
      exact .edited hedits hcurrent (nodeAt_eq_some.mpr ⟨_, ho, hx⟩)
        (nodeAt_eq_some.mpr ⟨_, ho', hx'⟩)
    have hbefore : s.nodeAt p = p.resolve o.rerun := by rw [Session.nodeAt, ho, Option.bind_some]
    have hafter : s'.nodeAt p = p.resolve r.tree := by rw [Session.nodeAt, ho', Option.bind_some]
    have hedits' : ∀ x, ¬ e.Edits a p x := fun x hx => hq (hx.unique hedits).1
    by_cases habove : ∃ patch n, edit = .approve patch ∧ q.contains p = true ∧ s.nodeAt p = some n
    · obtain ⟨patch, n, rfl, hqp, hn⟩ := habove
      refine .approved hedits hqp hq hn ?_
      rw [hafter, Tree.resolve_foldApproval hr hqp, ← hbefore, hn, Option.map_some]
    · have hnone : ∀ patch, edit = .approve patch → q.contains p = true → s.nodeAt p = none := by
        intro patch hpatch hqp
        cases hn : s.nodeAt p with
        | none => rfl
        | some n => exact absurd ⟨patch, n, hpatch, hqp, hn⟩ habove
      refine .became hedits' (fun q' patch h hqp => ?_) ?_
      · obtain ⟨rfl, hpatch⟩ := h.unique hedits
        exact hnone patch hpatch.symm hqp
      rw [hbefore, hafter]
      by_cases happrove : ∃ patch, edit = .approve patch ∧ q.contains p = true
      · obtain ⟨patch, rfl, hqp⟩ := happrove
        rw [Tree.resolve_foldApproval hr hqp, ← hbefore, hnone patch rfl hqp]
        exact .missing
      refine Tree.resolve_revise_of_ne hR hr (fun n hn hqp => ?_) hq
      refine Edit.relatesBelow hR.refl (fun patch hpatch => absurd ⟨patch, hpatch, hqp⟩ happrove)
        fun content hcontent => ?_
      subst hcontent
      cases hedits with
      | fill t components eligible =>
        exact hfill t components n rfl (hcurrent _ rfl) (nodeAt_eq_some.mpr ⟨_, ho, hn⟩)

end Session

/-! ## 3. Load states -/

namespace Session

/-- What a step does with the load states of the nodes, and with the flags that stand for the
fetching of their content. -/
inductive LoadStep (s : Session) (e : Event) (a : Response) (s' : Session) : Prop where
  /-- Nothing has been fetched of another pairing. -/
  | reset {rerunId : String} (he : e = .beginLoad rerunId)
    (hload : ∀ p, s'.expansion.loadState p = .notFetched) (hbusy : ∀ p, s'.busy .expand p = false)
  /-- No fetch begins and none ends. -/
  | same (hback : ∀ t, e.ticket? = some (.fetch t) → t.generation ≠ s.generation)
    (hload : ∀ p, s'.expansion.loadState p = s.expansion.loadState p)
    (hbusy : ∀ p, s'.busy .expand p = s.busy .expand p)
  /-- The fetch of a unit begins, which needs it. -/
  | begun {p : NodePath} {n : Node} (hn : s.nodeAt p = some n) (hneeds : n.needsFetch p = true)
    (he : e.ticket? = none)
    (hload : ∀ q, s'.expansion.loadState q =
      if q = p then .fetching else s.expansion.loadState q)
    (hbusy : ∀ q, s'.busy .expand q = if q = p then true else s.busy .expand q)
  /-- The fetch of a unit ends, one way or the other.  If the content has been fetched it is put in
  place. -/
  | ended {t : Ticket UnitFetch} {state : LoadState} (he : e.ticket? = some (.fetch t))
    (hcurrent : t.generation = s.generation) (hstate : state ≠ .fetching)
    (hfetched : state = .fetched → ∃ content, e.Edits a t.path (.fill content))
    (hload : ∀ q, s'.expansion.loadState q =
      if q = t.path then state else s.expansion.loadState q)
    (hbusy : ∀ q, s'.busy .expand q = if q = t.path then false else s.busy .expand q)

theorem busy_setBusy_self (s : Session) (a : Activity) (p q : NodePath) (b : Bool) :
    (s.setBusy a p b).busy a q = if q = p then b else s.busy a q := by
  simp only [setBusy, true_and]

/-- Another activity has nothing to do with the fetching of content. -/
theorem LoadStep.of_other {s s' : Session} {e : Event} {a : Response} {activity : Activity}
    {p : NodePath} {b : Bool} (hne : .expand ≠ activity)
    (hback : ∀ t, e.ticket? = some (.fetch t) → t.generation ≠ s.generation)
    (hload : s'.expansion = s.expansion) (hbusy : s'.busy = (s.setBusy activity p b).busy) :
    LoadStep s e a s' := by
  refine .same hback (fun q => by rw [hload]) fun q => ?_
  rw [hbusy, setBusy]
  dsimp only
  rw [if_neg fun h => hne h.1]

/-- **What an event does to the load states.** -/
theorem Move.loadStates {s s' : Session} {e : Event} {a : Response} (h : Move s e a s') :
    LoadStep s e a s' := by
  cases h with
  | loadBegun rerunId => exact .reset rfl (fun _ => rfl) fun _ => rfl
  | stale ht hstale ha =>
    refine .same (fun t' ht' => ?_) (fun _ => rfl) fun _ => rfl
    rw [ht] at ht'
    rw [Option.some.inj ht'] at hstale; exact hstale
  | refused ht ha =>
    refine .same (fun t' ht' => ?_) (fun _ => rfl) fun _ => rfl
    rw [ht] at ht'; cases ht'
  | toggled hn hfetch =>
    exact .same (fun _ h => by cases h) (Expansion.toggle_fetches_not hfetch) fun _ => rfl
  | toggledToFetch hn hfetch =>
    obtain ⟨hneeds, -, hload⟩ := Expansion.toggle_fetches hfetch
    exact .begun hn hneeds rfl hload fun q => busy_setBusy_self ..
  | @fetchBegun p n hn hneeds hload =>
    refine .begun hn hneeds rfl (fun q => ?_) fun q => busy_setBusy_self ..
    change (s.expansion.beginFetch p).2.loadState q = _
    rw [Expansion.beginFetch, if_pos hload]
    exact Expansion.loadState_setView ..
  | selectBegun hn hidle hversion =>
    exact .of_other (by decide) (fun _ h => by cases h) rfl rfl
  | applyBegun hn hselected hpending henabled hidle =>
    exact .of_other (by decide) (fun _ h => by cases h) rfl rfl
  | approveBegun hn hidle hkeys =>
    exact .of_other (by decide) (fun _ h => by cases h) rfl rfl
  | fetchFailed hcurrent hfailed hns =>
    exact .ended rfl hcurrent (by decide) (fun h => by cases h)
      (fun q => Expansion.loadState_finishFetch ..) fun q => busy_setBusy_self ..
  | fetched hcurrent ho hm =>
    exact .ended rfl hcurrent (by decide) (fun _ => ⟨_, .fill ..⟩)
      (fun q => Expansion.loadState_finishFetch ..) fun q => busy_setBusy_self ..
  | selectFailed hcurrent hns =>
    exact .of_other (by decide) (fun _ h => by cases h) rfl rfl
  | selected hcurrent ho hr hn =>
    exact .of_other (by decide) (fun _ h => by cases h) rfl rfl
  | applyFailed hcurrent hns =>
    exact .of_other (by decide) (fun _ h => by cases h) rfl rfl
  | applied hcurrent ho hr hselection =>
    exact .of_other (by decide) (fun _ h => by cases h) rfl rfl
  | approveFailed hcurrent hns =>
    exact .of_other (by decide) (fun _ h => by cases h) rfl rfl
  | approved hcurrent ho hr =>
    exact .of_other (by decide) (fun _ h => by cases h) rfl rfl
  | selectLost hcurrent hlost =>
    exact .of_other (by decide) (fun _ h => by cases h) rfl rfl
  | applyLost hcurrent hlost =>
    exact .of_other (by decide) (fun _ h => by cases h) rfl rfl
  | approveLost hcurrent hlost =>
    exact .of_other (by decide) (fun _ h => by cases h) rfl rfl
  | _ => exact .same (fun _ h => by cases h) (fun _ => rfl) fun _ => rfl

end Session

/-! ## 4. Selections -/

namespace Session

/-- What a step does with the selections. -/
inductive SelectionStep (s : Session) (e : Event) (a : Response) (s' : Session) : Prop where
  /-- Nothing is selected in another pairing. -/
  | reset {rerunId : String} (he : e = .beginLoad rerunId) (hsel : ∀ p, s'.selection p = none)
  /-- No other version is selected, and no other payload shown. -/
  | same (hrevert : ∀ p, ¬ e.Edits a p .revert) (hpreview : ∀ p d, ¬ e.Edits a p (.preview d))
    (hsel : s'.selection = s.selection)
  /-- The translation without a version is selected. -/
  | reverted {p : NodePath} (hedits : e.Edits a p .revert)
    (hsel : ∀ q, s'.selection q = if q = p then some .pending else s.selection q)
  /-- A version is selected, and its payload shown. -/
  | shown {t : Ticket VersionFetch} {payload : VersionPayload} {selected : Selection}
    (he : e = .finishSelect t (.ok payload)) (ha : a = .selected (.ok selected))
    (hversion : selected.version = t.request.version)
    (hsel : ∀ q, s'.selection q = if q = t.path then some selected else s.selection q)
  /-- There is nothing left to apply for a selection. -/
  | applied {t : Ticket VersionApply} {applied : AppliedVersion}
    (he : e = .finishApply t (.ok applied)) (ha : a = .applied (.ok ()))
    (hsel : ∀ q, s'.selection q = if q = t.path then
      (s.selection q).map ({ · with applyEnabled := false }) else s.selection q)

/-- **What an event does to the selections.** -/
theorem Move.selections {s s' : Session} {e : Event} {a : Response} (h : Move s e a s') :
    SelectionStep s e a s' := by
  cases h with
  | loadBegun rerunId => exact .reset rfl fun _ => rfl
  | stale ht hstale ha =>
    refine .same (fun _ h => ?_) (fun _ _ h => ?_) rfl <;>
      (rw [h.failure?] at ha; cases ha)
  | refused ht ha =>
    refine .same (fun _ h => ?_) (fun _ _ h => ?_) rfl <;>
      (rw [h.failure?] at ha; cases ha)
  | reverted ho hidle hr => exact .reverted (.revert _) fun _ => rfl
  | selected hcurrent ho hr hn => exact .shown rfl rfl rfl fun _ => rfl
  | applied hcurrent ho hr hselection => exact .applied rfl rfl hselection
  | _ => exact .same (fun _ h => nomatch h) (fun _ _ h => nomatch h) rfl

end Session

end CourseReview
