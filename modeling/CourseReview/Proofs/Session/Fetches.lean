import CourseReview.Proofs.Outline.Stock
import CourseReview.Proofs.Session.Overlap
import CourseReview.Sync.Call

/-!
# Fetching many units

Many units can be fetched at once: all fetches begin together, and the content comes one unit at a time,
in any order, or does not come.  This file settles what that makes of a review.

* Fetches begin for just those units whose content is missing (`Trace.beginUnitFetches`).
* Content that comes is put in place if the base course has the unit, and otherwise the unit is passed
  over (`Session.finishUnitFetch_stock`).  In the end the outline is stocked with the content that came,
  whatever the order (`Trace.finishUnitFetches`).

`Trace.loadUnits` puts them together for the units at or below a path, fetched while nothing else is
under way.
-/

namespace CourseReview

/-! ## 1. Beginning -/

namespace Session

variable {s : Session} {p : NodePath} {n : Node}

/-- A fetch begins for a unit without content that is not on its way. -/
theorem beginUnitFetch_of_needs (hn : s.nodeAt p = some n) (hneeds : n.needsFetch p = true)
    (hload : s.expansion.loadState p = .notFetched) :
    s.beginUnitFetch p = (.ok (some ⟨s.generation, p, ⟨n.usageKey⟩⟩),
      { s with expansion := s.expansion.setView p { s.expansion.view p with load := .fetching } }.setBusy
        .expand p true) := by
  rw [beginUnitFetch, requireNode_ok.mpr hn]
  simp only [hneeds, if_true, Expansion.beginFetch, hload]
  rfl

/-- No fetch begins for a node that needs none. -/
theorem beginUnitFetch_of_not_needs (hn : s.nodeAt p = some n) (hneeds : n.needsFetch p = false) :
    s.beginUnitFetch p = (.ok none, s) := by
  rw [beginUnitFetch, requireNode_ok.mpr hn]
  simp only [hneeds]
  rfl

end Session

/-- The tickets are those for the units among the paths whose content is missing. -/
structure TicketsFor (t : Tree) (generation : Nat) (paths : List NodePath)
    (tickets : List (Ticket UnitFetch)) : Prop where
  paths : tickets.map (·.path) = paths.filter fun q => (q.resolve t).any (·.units.isNone)
  generation : ∀ u ∈ tickets, u.generation = generation
  node : ∀ u ∈ tickets, ∃ n, u.path.resolve t = some n ∧ u.request.usageKey = n.usageKey

theorem TicketsFor.nil (t : Tree) (generation : Nat) : TicketsFor t generation [] [] where
  paths := rfl
  generation _ h := nomatch h
  node _ h := nomatch h

/-- **Many fetches begin** where content is missing, and nowhere else. -/
theorem Trace.beginUnitFetches {o : Outline} : ∀ {paths : List NodePath} {h : List Record} {r : Review},
    Trace {} h r → r.session.outline = some o → paths.Nodup →
      (∀ q ∈ paths, q.isUnit = true ∧ ∃ n, q.resolve o.rerun = some n) →
      (∀ q ∈ paths, ∀ n, q.resolve o.rerun = some n → n.units = none →
        r.session.expansion.loadState q = .notFetched) →
      ∃ h' r' tickets, Trace {} h' r' ∧
        r.session.beginUnitFetches paths = (.ok tickets, r'.session) ∧
        TicketsFor o.rerun r.session.generation paths tickets ∧
        r'.unfinished = r.unfinished ++ tickets.map .fetch ∧
        r'.session.outline = some o ∧ r'.session.generation = r.session.generation
  | [], h, r, htrace, ho, _, _, _ =>
    ⟨h, r, [], htrace, by rw [Session.beginUnitFetches], .nil .., by rw [List.map_nil, List.append_nil],
      ho, rfl⟩
  | q :: paths, h, r, htrace, ho, hnodup, hunits, hload => by
    obtain ⟨hnotMem, hnodup⟩ := List.nodup_cons.mp hnodup
    obtain ⟨⟨hunit, n, hresolve⟩, hunits⟩ := List.forall_mem_cons.mp hunits
    obtain ⟨hloadHere, hload⟩ := List.forall_mem_cons.mp hload
    have hn : r.session.nodeAt q = some n := Session.nodeAt_eq_some.mpr ⟨o, ho, hresolve⟩
    have hnext : Trace {} _ (r.next (.beginUnitFetch q)) := htrace.tail (.of_begin rfl)
    cases hmissing : n.units with
    | some m =>
      -- nothing begins for a unit with content
      have hbegin : r.session.beginUnitFetch q = (.ok none, r.session) :=
        Session.beginUnitFetch_of_not_needs hn (by rw [Node.needsFetch, hmissing, Bool.and_comm]; rfl)
      obtain ⟨h', r', tickets, htrace', hrest, htickets, hunfinished, ho', hgen⟩ :=
        htrace.beginUnitFetches ho hnodup hunits hload
      refine ⟨h', r', tickets, htrace', ?_, ⟨?_, htickets.generation, htickets.node⟩, hunfinished, ho',
        hgen⟩
      · rw [Session.beginUnitFetches, hbegin]
        simp only [hrest]
        rfl
      · rw [htickets.paths, List.filter_cons_of_neg]
        rw [hresolve, Option.any_some, hmissing]
        exact Bool.false_ne_true
    | none =>
      have hneeds : n.needsFetch q = true := Node.needsFetch_iff.mpr ⟨hunit, hmissing⟩
      have hbegin := Session.beginUnitFetch_of_needs hn hneeds (hloadHere n hresolve hmissing)
      have hanswer : r.answer (.beginUnitFetch q) =
          .fetchBegun (.ok (some ⟨r.session.generation, q, ⟨n.usageKey⟩⟩)) :=
        congrArg (Response.fetchBegun ∘ Prod.fst) hbegin
      have hsession : (r.next (.beginUnitFetch q)).session = (r.session.beginUnitFetch q).2 := rfl
      rw [hbegin] at hsession
      have hout := r.unfinished_next_of_out (e := .beginUnitFetch q) rfl (by rw [hanswer]; rfl)
      have hload₁ : ∀ q' ∈ paths, ∀ n, q'.resolve o.rerun = some n → n.units = none →
          (r.next (.beginUnitFetch q)).session.expansion.loadState q' = .notFetched := by
        intro q' hq' n' hn' hmissing'
        have hne : q' ≠ q := by rintro rfl; exact hnotMem hq'
        rw [hsession]
        exact (Expansion.loadState_setView ..).trans
          ((if_neg hne).trans (hload q' hq' n' hn' hmissing'))
      obtain ⟨h', r', tickets, htrace', hrest, htickets, hunfinished, ho', hgen⟩ :=
        hnext.beginUnitFetches (by rw [hsession]; exact ho) hnodup hunits hload₁
      have hgen₁ : (r.next (.beginUnitFetch q)).session.generation = r.session.generation := by
        rw [hsession]; rfl
      rw [hgen₁] at htickets hgen
      refine ⟨h', r', ⟨r.session.generation, q, ⟨n.usageKey⟩⟩ :: tickets, htrace', ?_, ⟨?_, ?_, ?_⟩, ?_,
        ho', hgen⟩
      · rw [hsession] at hrest
        rw [Session.beginUnitFetches, hbegin]
        simp only [hrest]
        rfl
      · rw [List.map_cons, htickets.paths, List.filter_cons_of_pos]
        rw [hresolve, Option.any_some, hmissing]
        rfl
      · exact List.forall_mem_cons.mpr ⟨rfl, htickets.generation⟩
      · exact List.forall_mem_cons.mpr ⟨⟨n, hresolve, rfl⟩, htickets.node⟩
      · rw [hunfinished, hout, List.append_assoc, List.map_cons, List.singleton_append]

/-! ## 2. Finishing -/

/-- Both outlines with the content of one more unit. -/
theorem Outline.update_stock {o : Outline} (ho : o.DistinctIds) {t : Ticket UnitFetch}
    (hunit : t.path.isUnit = true) (content : NodePath → Option UnitComponents)
    (components : UnitComponents) :
    (o.stock content).update t.path (Effect.filled t components).rerun
        (Effect.filled t components).base =
      o.stock (Function.update content t.path (some components)) := by
  have hside : ∀ f : UnitComponents → ChildMap,
      (fun q => (Function.update content t.path (some components) q).map f) =
        Function.update (fun q => (content q).map f) t.path (some (f components)) :=
    fun f => Function.comp_update (Option.map f) content t.path (some components)
  have hrerun := Tree.update_stock (fun q => (content q).map (·.rerun.getD [])) ho.rerun
    hunit (components.rerun.getD [])
  have hbase := Tree.update_stock (fun q => (content q).map (·.base.getD [])) ho.base
    hunit (components.base.getD [])
  rw [← hside] at hrerun hbase
  exact congrArg₂ Outline.mk hrerun hbase

/-- The content that comes for a unit: that of the answer, if the base course has the unit. -/
def Outline.arrival (o : Outline) (answer : NodePath → Outcome UnitComponents) (q : NodePath) :
    Option UnitComponents :=
  if (q.resolve o.base).isSome then (answer q).toOption else none

theorem Outline.arrival_eq_some {o : Outline} {answer : NodePath → Outcome UnitComponents}
    {q : NodePath} {components : UnitComponents} :
    o.arrival answer q = some components ↔
      (q.resolve o.base).isSome = true ∧ answer q = .ok components := by
  rw [arrival]
  cases (q.resolve o.base).isSome <;> cases answer q <;> simp [Except.toOption]

namespace Session

/-- Finishes the fetch of a unit with the answer for its path, and counts it if that succeeds. -/
def takeIn (answer : NodePath → Outcome UnitComponents) (acc : Nat × Session)
    (t : Ticket UnitFetch) : Nat × Session :=
  match acc.2.finishUnitFetch t (answer t.path) with
  | (.ok _, s) => (acc.1 + 1, s)
  | (.error _, s) => (acc.1, s)

variable {s : Session} {o : Outline} {content : NodePath → Option UnitComponents}

/-- How the fetch of a unit ends is the effect of its answer. -/
theorem Awaits.finishUnitFetch {t : Ticket UnitFetch} {reply : Outcome UnitComponents} {x : Effect}
    (h : s.Awaits (.finishUnitFetch t reply) x) {result : Outcome Bool}
    (hresponse : x.response = .fetched result) :
    s.finishUnitFetch t reply = (result, s.settleWith x) := by
  have hperform := h.perform
  rw [hresponse] at hperform
  obtain ⟨hresult, hsession⟩ := Prod.mk.inj hperform
  exact Prod.ext (Response.fetched.inj hresult) hsession

theorem takeIn_session (answer : NodePath → Outcome UnitComponents) (acc : Nat × Session)
    (t : Ticket UnitFetch) :
    (takeIn answer acc t).2 = (acc.2.finishUnitFetch t (answer t.path)).2 := by
  rw [takeIn]
  split
  · rename_i hfinish; rw [hfinish]
  · rename_i hfinish; rw [hfinish]

/-- A failure taken in counts nothing. -/
theorem takeIn_of_error {answer : NodePath → Outcome UnitComponents} {t : Ticket UnitFetch}
    {e : ReviewError} (h : answer t.path = .error e) (acc : Nat × Session) :
    takeIn answer acc t = (acc.1, (acc.2.finishUnitFetch t (.error e)).2) := by
  rw [takeIn, h, Session.finishUnitFetch]
  cases acc.2.settle .expand t <;> rfl

/-- **One answer taken in.**  Content that comes is put in place; otherwise the outline is as it was. -/
theorem takeIn_stock (hdistinct : o.DistinctIds) (ho : s.outline = some (o.stock content))
    {t : Ticket UnitFetch} (hcurrent : t.generation = s.generation) (hunit : t.path.isUnit = true)
    (hn : ∃ n, t.path.resolve o.rerun = some n) (hnew : content t.path = none)
    (answer : NodePath → Outcome UnitComponents) (count : Nat) :
    ∃ s', takeIn answer (count, s) t =
        (count + if (o.arrival answer t.path).isSome then 1 else 0, s') ∧
      s'.outline = some (o.stock fun q => if q = t.path then o.arrival answer q else content q) ∧
      s'.generation = s.generation := by
  obtain ⟨n, hn⟩ := hn
  have hrerun : t.path.resolve (o.stock content).rerun = some n := by
    rw [Outline.stock, Tree.resolve_stock_unit _ _ hunit, hn, hnew]
    rfl
  have hbase : (t.path.resolve (o.stock content).base).isSome = (t.path.resolve o.base).isSome := by
    rw [Outline.stock, Tree.resolve_stock_unit _ _ hunit, Option.isSome_map]
  have hawaits : ∀ reply x, (Event.finishUnitFetch t reply).effect? n (t.path.resolve o.base).isSome =
      some x → x.path = t.path → s.Awaits (.finishUnitFetch t reply) x := by
    intro reply x hx hpath
    refine ⟨⟨_, rfl, hcurrent⟩, ⟨_, n, ho, by rw [hpath]; exact hrerun, ?_⟩, fun _ => hpath ▸ hunit⟩
    rw [hpath, hbase, hx]
  cases harrival : o.arrival answer t.path with
  | none =>
    -- the unit is passed over, for want of content or for want of the unit in the base
    have hfinish : ∃ e, s.finishUnitFetch t (answer t.path) = (.error e, s.settleWith (.unfilled t e)) := by
      rw [Outline.arrival] at harrival
      cases hanswer : answer t.path with
      | error e => exact ⟨e, (hawaits _ _ rfl rfl).finishUnitFetch rfl⟩
      | ok components =>
        cases hhas : (t.path.resolve o.base).isSome with
        | false =>
          rw [hhas] at hawaits
          exact ⟨_, (hawaits _ _ rfl rfl).finishUnitFetch rfl⟩
        | true => rw [hhas, hanswer] at harrival; cases harrival
    obtain ⟨e, hfinish⟩ := hfinish
    have hcontent : (fun q => if q = t.path then o.arrival answer q else content q) = content := by
      funext q
      split
      · rename_i hq; rw [hq, harrival, hnew]
      · rfl
    rw [takeIn, hfinish, hcontent]
    exact ⟨_, rfl, (map_update_id _ _).trans ho, rfl⟩
  | some components =>
    obtain ⟨hhas, hanswer⟩ := Outline.arrival_eq_some.mp harrival
    obtain ⟨eligible, hfinish⟩ : ∃ eligible, s.finishUnitFetch t (answer t.path) =
        (.ok eligible, s.settleWith (.filled t components)) := by
      rw [hhas] at hawaits
      rw [hanswer]
      exact ⟨_, (hawaits _ _ rfl rfl).finishUnitFetch rfl⟩
    have hcontent : (fun q => if q = t.path then o.arrival answer q else content q) =
        Function.update content t.path (some components) := by
      funext q
      rw [Function.update_apply]
      split
      · rename_i hq; rw [hq, harrival]
      · rfl
    rw [takeIn, hfinish, hcontent]
    refine ⟨_, rfl, ?_, rfl⟩
    rw [settleWith_outline, ho, Option.map_some]
    exact congrArg some (Outline.update_stock hdistinct hunit content components)

end Session

/-- **Many answers taken in.**  Tickets for different units are out, and the answers to all of them come
in the order of a list.  In the end none of them is out, and the outline is stocked with the content
that came. -/
theorem Trace.finishUnitFetches {o : Outline} (hdistinct : o.DistinctIds)
    (answer : NodePath → Outcome UnitComponents) :
    ∀ {tickets : List (Ticket UnitFetch)} {others : List SomeTicket} {h : List Record} {r : Review}
      (content : NodePath → Option UnitComponents) (count : Nat), Trace {} h r →
      r.session.outline = some (o.stock content) →
      r.unfinished.Perm (tickets.map .fetch ++ others) → (tickets.map (·.path)).Nodup →
      (∀ t ∈ tickets, t.generation = r.session.generation ∧ t.path.isUnit = true ∧
        (∃ n, t.path.resolve o.rerun = some n) ∧ content t.path = none) →
      ∃ h' r', Trace {} h' r' ∧
        tickets.foldl (Session.takeIn answer) (count, r.session) =
          (count + tickets.countP fun t => (o.arrival answer t.path).isSome, r'.session) ∧
        r'.unfinished.Perm others ∧ r'.session.generation = r.session.generation ∧
        r'.session.outline = some (o.stock fun q =>
          if q ∈ tickets.map (·.path) then o.arrival answer q else content q)
  | [], others, h, r, content, count, htrace, ho, hunfinished, _, _ =>
    ⟨h, r, htrace, rfl, hunfinished, rfl, by simpa using ho⟩
  | t :: tickets, others, h, r, content, count, htrace, ho, hunfinished, hnodup, htickets => by
    obtain ⟨⟨hcurrent, hunit, hn, hnew⟩, htickets⟩ := List.forall_mem_cons.mp htickets
    obtain ⟨hnotMem, hnodup⟩ := List.nodup_cons.mp hnodup
    obtain ⟨s', htaken, ho', hgen⟩ :=
      Session.takeIn_stock hdistinct ho hcurrent hunit hn hnew answer count
    have hmem : .fetch t ∈ r.unfinished :=
      hunfinished.mem_iff.mpr (List.mem_append_left _ (List.mem_map_of_mem List.mem_cons_self))
    have hnext : Trace {} _ (r.next (.finishUnitFetch t (answer t.path))) :=
      htrace.tail (.of_finish rfl hmem)
    have hsession : (r.next (.finishUnitFetch t (answer t.path))).session = s' := by
      have htaken := congrArg Prod.snd htaken
      rwa [Session.takeIn_session] at htaken
    have hrest : (r.next (.finishUnitFetch t (answer t.path))).unfinished.Perm
        (tickets.map .fetch ++ others) := by
      rw [r.unfinished_next_of_back (e := .finishUnitFetch t (answer t.path)) rfl rfl]
      have herased := hunfinished.erase (.fetch t)
      rwa [List.map_cons, List.cons_append, List.erase_cons_head] at herased
    obtain ⟨h', r', htrace', hfold, hothers, hgen', houtline⟩ :=
      hnext.finishUnitFetches hdistinct answer _
        (count + if (o.arrival answer t.path).isSome then 1 else 0) (by rw [hsession]; exact ho') hrest
        hnodup fun u hu => by
          obtain ⟨hcurrent', hunit', hn', hnew'⟩ := htickets u hu
          have hne : u.path ≠ t.path := fun heq => hnotMem (List.mem_map.mpr ⟨u, hu, heq⟩)
          exact ⟨by rw [hsession, hgen, hcurrent'], hunit', hn', by rw [if_neg hne, hnew']⟩
    rw [hsession] at hfold hgen'
    refine ⟨h', r', htrace', ?_, hothers, hgen'.trans hgen, ?_⟩
    · rw [List.foldl_cons, htaken, hfold, List.countP_cons, Nat.add_assoc, Nat.add_comm (List.countP ..)]
    · rw [houtline]
      congr 2
      funext q
      by_cases hq : q = t.path <;> simp [hq]

/-! ## 3. From beginning to end -/

/-- While nothing is under way, what has no content has not been asked for. -/
theorem Trace.notFetched_of_quiet {h : List Record} {r : Review} (htrace : Trace {} h r)
    (hquiet : ∀ k, r.session.isUp k = false) {q : NodePath} {n : Node}
    (hn : r.session.nodeAt q = some n) (hmissing : n.units = none) :
    r.session.expansion.loadState q = .notFetched := by
  cases hload : r.session.expansion.loadState q with
  | notFetched => rfl
  | fetching =>
    have hup : r.session.isUp (some (.expand, q)) = true := (htrace.sound.coherent.expanding q).mpr hload
    rw [hquiet] at hup
    cases hup
  | fetched =>
    obtain ⟨-, n', hn', hunits⟩ := htrace.stocked q hload
    obtain rfl := Option.some.inj (hn.symm.trans hn')
    rw [hmissing] at hunits
    cases hunits

/-- **The units at or below a path, fetched from beginning to end.**  While nothing else is under way,
tickets go out for the units without content.  Whatever the answers are, and in whatever order they are
taken in, in the end nothing is under way, and the outline is stocked with the content that came. -/
theorem Trace.loadUnits {h : List Record} {r : Review} (htrace : Trace {} h r)
    (hquiet : ∀ k, r.session.isUp k = false) {o : Outline} (ho : r.session.outline = some o)
    (hdistinct : o.DistinctIds) {p : NodePath} (hp : o.rerun.LeadsToUnits p) :
    ∃ tickets s, r.session.beginLoadUnits p = (.ok tickets, s) ∧
      tickets.map (·.path) = o.rerun.missingUnits p ∧
      (∀ t ∈ tickets, ∃ n, t.path.resolve o.rerun = some n ∧ t.request.usageKey = n.usageKey) ∧
      ∀ (answer : NodePath → Outcome UnitComponents) (order : List (Ticket UnitFetch)),
        order.Perm tickets → ∃ h' r', Trace {} h' r' ∧ (∀ k, r'.session.isUp k = false) ∧
          order.foldl (Session.takeIn answer) (0, s) =
            ((o.rerun.missingUnits p).countP fun q => (o.arrival answer q).isSome, r'.session) ∧
          r'.session.outline = some (o.stock fun q =>
            if q ∈ o.rerun.missingUnits p then o.arrival answer q else none) := by
  obtain ⟨paths, hpaths, hnodup, hmem⟩ := Tree.unitPaths_ok hdistinct.rerun hp
  obtain ⟨hmissingNodup, hmissing⟩ := Tree.missingUnits_spec hdistinct.rerun hp
  have hload : ∀ q ∈ paths, ∀ n, q.resolve o.rerun = some n → n.units = none →
      r.session.expansion.loadState q = .notFetched := fun q _ n hn =>
    htrace.notFetched_of_quiet hquiet (Session.nodeAt_eq_some.mpr ⟨o, ho, hn⟩)
  obtain ⟨h₁, r₁, tickets, htrace₁, hbegin, htickets, hunfinished, ho₁, hgen⟩ :=
    htrace.beginUnitFetches ho hnodup (fun q hq => ⟨((hmem q).mp hq).1, ((hmem q).mp hq).2.2⟩) hload
  have hticketPaths : tickets.map (·.path) = o.rerun.missingUnits p := by
    rw [Tree.missingUnits, hpaths]
    exact htickets.paths
  refine ⟨tickets, r₁.session, ?_, hticketPaths, htickets.node, fun answer order hperm => ?_⟩
  · rw [Session.beginLoadUnits, Session.requireOutline_ok.mpr ho]
    simp only [hpaths]
    exact hbegin
  have hpathsPerm : (order.map (·.path)).Perm (o.rerun.missingUnits p) :=
    hticketPaths ▸ hperm.map _
  have hout : r₁.unfinished.Perm (order.map .fetch ++ r.unfinished) := by
    rw [hunfinished]
    exact List.perm_append_comm.trans ((hperm.map _).symm.append_right _)
  have hready : ∀ t ∈ order, t.generation = r₁.session.generation ∧ t.path.isUnit = true ∧
      (∃ n, t.path.resolve o.rerun = some n) ∧ (none : Option UnitComponents) = none := by
    intro t ht
    have hunit := ((hmissing t.path).mp (hpathsPerm.mem_iff.mp (List.mem_map_of_mem ht))).1
    obtain ⟨n, hn, -⟩ := htickets.node t (hperm.mem_iff.mp ht)
    exact ⟨(htickets.generation t (hperm.mem_iff.mp ht)).trans hgen.symm, hunit, ⟨n, hn⟩, rfl⟩
  obtain ⟨h₂, r₂, htrace₂, hfold, hrest, hgen₂, ho₂⟩ :=
    htrace₁.finishUnitFetches hdistinct answer (fun _ => none) 0
      (by rw [Outline.stock_nothing]; exact ho₁) hout (hpathsPerm.nodup_iff.mpr hmissingNodup) hready
  refine ⟨h₂, r₂, htrace₂, fun k => ?_, ?_, ?_⟩
  · -- what is still out was out before, when nothing was under way
    rw [Bool.eq_false_iff]
    intro hup
    obtain ⟨t, ht, hcurrent, hflag⟩ := (htrace₂.sound.accounted.up k).mp hup
    have hbefore := (htrace.sound.accounted.up k).mpr
      ⟨t, hrest.mem_iff.mp ht, hcurrent.trans (hgen₂.trans hgen), hflag⟩
    rw [hquiet] at hbefore
    cases hbefore
  · rw [hfold, Nat.zero_add, ← hpathsPerm.countP_eq, List.countP_map]
    rfl
  · simp only [ho₂, hpathsPerm.mem_iff]

end CourseReview
