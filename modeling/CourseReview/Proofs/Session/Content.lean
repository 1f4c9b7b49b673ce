import CourseReview.Proofs.Outline.Collection
import CourseReview.Proofs.Session.Review

/-!
# The content of units

The content of a unit is absent at first, is fetched on demand, and is put in place when it comes.
Three things say how far that is: the load state of the unit, the tickets that are out, and the
`units` of the node.  This file settles that they agree in every review, and so that no content is
fetched twice.

* A unit is being fetched exactly while its ticket is out, and then it has no content
  (`Session.Coherent`); a unit that has been fetched has content (`Session.Stocked`).
* A fetch begins exactly for a unit whose content is missing and not on its way (`Review.Wants`,
  `Review.Sound.beginUnitFetch_iff`, `Review.Sound.toggle_iff`), and after a failure it can begin
  again (`Review.Sound.wants_of_failed`).
* In each generation the fetch of a unit succeeds once at most (`Trace.fills_le_one`).

`Trace.content_fetched_once` puts them together.
-/

namespace CourseReview

/-! ## 1. What has been fetched is there -/

/-- A node whose content has been fetched is a unit with content. -/
def Session.Stocked (s : Session) : Prop :=
  ∀ p, s.expansion.loadState p = .fetched →
    p.isUnit = true ∧ ∃ n, s.nodeAt p = some n ∧ n.units.isSome = true

namespace Review.Sound

variable {r : Review} {e : Event}

/-- Content that is there stays there while the pairing lasts. -/
theorem content_next (h : r.Sound) (htakes : r.Takes e) (hload : ∀ rerunId, e ≠ .beginLoad rerunId)
    {p : NodePath} (hn : ∃ n, r.session.nodeAt p = some n ∧ n.units.isSome = true) :
    ∃ n, (r.next e).session.nodeAt p = some n ∧ n.units.isSome = true := by
  obtain ⟨n, hn, hunits⟩ := hn
  have hsame : ∀ n', n.SameNeeds n' → n'.units.isSome = true := by
    intro n' hsame
    rw [← Option.not_isNone, hsame, Option.not_isNone, hunits]
  cases (h.nodeFate_any htakes Node.ignoresBelow_sameNeeds hload p).step
    Node.sameNeeds_foldApproval with
  | @edited edit n₁ hedits hcurrent hn₁ hn' =>
    obtain rfl := Option.some.inj (hn.symm.trans hn₁)
    refine ⟨_, hn', ?_⟩
    by_cases hfill : ∃ content, edit = .fill content
    · obtain ⟨content, rfl⟩ := hfill
      rfl
    · exact hsame _ (Edit.sameNeeds (fun content hcontent => hfill ⟨content, hcontent⟩) n)
  | became hedits hbecame =>
    rw [hn] at hbecame
    obtain ⟨n', hn', hsame'⟩ := hbecame.of_some
    exact ⟨n', hn', hsame n' hsame'⟩

/-- A ticket for content is out for a unit that is being fetched. -/
theorem fetching_of_ticket (h : r.Sound) {t : Ticket UnitFetch} (ht : .fetch t ∈ r.unfinished)
    (hcurrent : t.generation = r.session.generation) :
    r.session.expansion.loadState t.path = .fetching :=
  (h.coherent.expanding _).mp (h.accounted.isUp ht hcurrent)

/-- A unit is being fetched exactly while its ticket is out. -/
theorem fetching_iff (h : r.Sound) (p : NodePath) :
    r.session.expansion.loadState p = .fetching ↔
      ∃ t, .fetch t ∈ r.unfinished ∧ t.generation = r.session.generation ∧ t.path = p := by
  constructor
  · intro hfetching
    have hup : r.session.isUp (some (.expand, p)) = true := (h.coherent.expanding p).mpr hfetching
    obtain ⟨t, ht, hcurrent, hflag⟩ := (h.accounted.up _).mp hup
    cases t with
    | fetch t => cases hflag; exact ⟨t, ht, hcurrent, rfl⟩
    | _ => cases hflag
  · rintro ⟨t, ht, hcurrent, rfl⟩
    exact h.fetching_of_ticket ht hcurrent

/-- **What has been fetched is there**, after every event. -/
theorem stocked_next (h : r.Sound) (hstocked : r.session.Stocked) (htakes : r.Takes e) :
    (r.next e).session.Stocked := by
  intro p hfetched
  by_cases hload : ∃ rerunId, e = .beginLoad rerunId
  · obtain ⟨rerunId, rfl⟩ := hload
    cases hfetched
  have hload : ∀ rerunId, e ≠ .beginLoad rerunId := fun rerunId he => hload ⟨rerunId, he⟩
  have hbefore : r.session.expansion.loadState p = .fetched →
      p.isUnit = true ∧ ∃ n, (r.next e).session.nodeAt p = some n ∧ n.units.isSome = true :=
    fun hp => ⟨(hstocked p hp).1, h.content_next htakes hload (hstocked p hp).2⟩
  cases (r.move e).loadStates with
  | reset he _ _ => exact absurd he (hload _)
  | same _ hstate _ =>
    rw [hstate] at hfetched
    exact hbefore hfetched
  | begun _ _ _ hstate _ =>
    rw [hstate] at hfetched
    split at hfetched
    · cases hfetched
    · exact hbefore hfetched
  | @ended t state he hcurrent _ hfills hstate _ =>
    rw [hstate] at hfetched
    split at hfetched
    · -- the content has just been put in place
      rename_i hp
      subst hp
      obtain ⟨content, hedits⟩ := hfills hfetched
      obtain ⟨n, hn, hn'⟩ := (r.move e).outline.nodeAt_of_edits hedits
      obtain ⟨t', components, he', hpath⟩ := hedits.of_fill
      rw [he'] at he
      cases he
      refine ⟨?_, _, hn', rfl⟩
      obtain ⟨_, -, hneeds⟩ := h.needsFetch htakes he' hcurrent
      exact (Node.needsFetch_iff.mp hneeds).1
    · exact hbefore hfetched

end Review.Sound

theorem Trace.stocked {h : List Record} {r : Review} (htrace : Trace {} h r) :
    r.session.Stocked := by
  induction htrace with
  | refl => intro p hfetched; cases hfetched
  | tail htrace htakes ih => exact htrace.sound.stocked_next ih htakes

/-- Only units are ever fetched. -/
theorem Review.Sound.notFetched_of_not_unit {r : Review} (h : r.Sound)
    (hstocked : r.session.Stocked) {p : NodePath} (hunit : p.isUnit = false) :
    r.session.expansion.loadState p = .notFetched := by
  cases hload : r.session.expansion.loadState p with
  | notFetched => rfl
  | fetching =>
    obtain ⟨n, -, hneeds⟩ := h.coherent.fetching p hload
    rw [(Node.needsFetch_iff.mp hneeds).1] at hunit
    cases hunit
  | fetched =>
    rw [(hstocked p hload).1] at hunit
    cases hunit

/-! ## 2. When a fetch begins -/

/-- The content of the unit at a path is missing, and not on its way. -/
structure Review.Wants (r : Review) (p : NodePath) : Prop where
  isUnit : p.isUnit = true
  missing : ∃ n, r.session.nodeAt p = some n ∧ n.units = none
  idle : ∀ t, .fetch t ∈ r.unfinished → t.generation = r.session.generation → t.path ≠ p

namespace Review.Sound

variable {r : Review}

/-- Content is wanted where a node needs it and no fetch has begun. -/
theorem wants_iff (h : r.Sound) (hstocked : r.session.Stocked) (p : NodePath) :
    r.Wants p ↔ ∃ n, r.session.nodeAt p = some n ∧ n.needsFetch p = true ∧
      r.session.expansion.loadState p = .notFetched := by
  constructor
  · rintro ⟨hunit, ⟨n, hn, hunits⟩, hidle⟩
    refine ⟨n, hn, Node.needsFetch_iff.mpr ⟨hunit, hunits⟩, ?_⟩
    cases hload : r.session.expansion.loadState p with
    | notFetched => rfl
    | fetching =>
      obtain ⟨t, ht, hcurrent, hp⟩ := (h.fetching_iff p).mp hload
      exact absurd hp (hidle t ht hcurrent)
    | fetched =>
      obtain ⟨-, n', hn', hunits'⟩ := hstocked p hload
      obtain rfl := Option.some.inj (hn.symm.trans hn')
      rw [hunits] at hunits'
      cases hunits'
  · rintro ⟨n, hn, hneeds, hload⟩
    obtain ⟨hunit, hunits⟩ := Node.needsFetch_iff.mp hneeds
    refine ⟨hunit, ⟨n, hn, hunits⟩, fun t ht hcurrent hp => ?_⟩
    have hfetching := h.fetching_of_ticket ht hcurrent
    rw [hp, hload] at hfetching
    cases hfetching

/-- **A fetch ahead begins exactly where content is wanted.** -/
theorem beginUnitFetch_iff (h : r.Sound) (hstocked : r.session.Stocked) (p : NodePath) :
    (∃ t, r.answer (.beginUnitFetch p) = .fetchBegun (.ok (some t))) ↔ r.Wants p := by
  rw [h.wants_iff hstocked]
  constructor
  · rintro ⟨t, ha⟩
    have hmove := r.move (.beginUnitFetch p)
    rw [ha] at hmove
    generalize (r.next (.beginUnitFetch p)).session = s' at hmove
    cases hmove with
    | stale ht _ _ => cases ht
    | refused _ hfailure => cases hfailure
    | fetchBegun hn hneeds hload => exact ⟨_, hn, hneeds, hload⟩
  · rintro ⟨n, hn, hneeds, hload⟩
    refine ⟨⟨r.session.generation, p, ⟨n.usageKey⟩⟩, ?_⟩
    change Response.fetchBegun (r.session.beginUnitFetch p).1 = _
    rw [Session.beginUnitFetch, Session.requireNode_ok.mpr hn]
    simp only [hneeds, if_true, Expansion.beginFetch, hload]
    rfl

/-- **A toggle begins a fetch exactly where content is wanted** and is about to be shown. -/
theorem toggle_iff (h : r.Sound) (hstocked : r.session.Stocked) (p : NodePath) :
    (∃ t, r.answer (.toggle p) = .fetchBegun (.ok (some t))) ↔
      r.Wants p ∧ r.session.expansion.visibility p = .collapsed := by
  rw [h.wants_iff hstocked]
  constructor
  · rintro ⟨t, ha⟩
    have hmove := r.move (.toggle p)
    rw [ha] at hmove
    generalize (r.next (.toggle p)).session = s' at hmove
    cases hmove with
    | stale ht _ _ => cases ht
    | refused _ hfailure => cases hfailure
    | toggledToFetch hn hfetch =>
      obtain ⟨hneeds, hload, -⟩ := Expansion.toggle_fetches hfetch
      refine ⟨⟨_, hn, hneeds, hload⟩, ?_⟩
      rw [Expansion.toggle] at hfetch
      dsimp only at hfetch
      cases hvisible : r.session.expansion.visibility p with
      | collapsed => rfl
      | expanded => rw [hvisible] at hfetch; cases hfetch
  · rintro ⟨⟨n, hn, hneeds, hload⟩, hvisible⟩
    refine ⟨⟨r.session.generation, p, ⟨n.usageKey⟩⟩, ?_⟩
    change Response.fetchBegun (r.session.toggle p).1 = _
    rw [Session.toggle, Session.requireNode_ok.mpr hn]
    simp only [Expansion.toggle, hvisible, hneeds, hload]
    rfl

/-- **After a failure content is wanted again.** -/
theorem wants_of_failed (h : r.Sound) {t : Ticket UnitFetch} (ht : .fetch t ∈ r.unfinished)
    (hcurrent : t.generation = r.session.generation) {reply : Outcome UnitComponents}
    {e : ReviewError} (ha : r.answer (.finishUnitFetch t reply) = .fetched (.error e)) :
    (r.next (.finishUnitFetch t reply)).Wants t.path := by
  obtain ⟨n, hn, hneeds⟩ := h.coherent.fetching _ (h.fetching_of_ticket ht hcurrent)
  have hunfinished : (r.next (.finishUnitFetch t reply)).unfinished = r.unfinished.erase (.fetch t) :=
    r.unfinished_next_of_back rfl (by rw [ha]; rfl)
  have hmove := r.move (.finishUnitFetch t reply)
  rw [ha] at hmove
  have hkept : (r.next (.finishUnitFetch t reply)).session.nodeAt t.path = some n ∧
      (r.next (.finishUnitFetch t reply)).session.generation = r.session.generation := by
    generalize (r.next (.finishUnitFetch t reply)).session = s' at hmove ⊢
    cases hmove with
    | stale ht' hstale _ => cases ht'; exact absurd hcurrent hstale
    | refused ht' _ => cases ht'
    | fetchFailed _ _ _ => exact ⟨hn, rfl⟩
  obtain ⟨hunit, hunits⟩ := Node.needsFetch_iff.mp hneeds
  refine ⟨hunit, ⟨n, hkept.1, hunits⟩, fun u hu hgen hp => ?_⟩
  rw [hunfinished, h.accounted.mem_erase] at hu
  rw [hkept.2, ← hcurrent] at hgen
  refine hu.2 (h.accounted.eq_of_stub_eq hu.1 ht (Prod.ext hgen ?_))
  rw [SomeTicket.stub, SomeTicket.stub]
  exact congrArg (fun q => some (Activity.expand, q)) hp

end Review.Sound

/-! ## 3. How often a fetch succeeds -/

/-- Whether the record is that of content put in place, in that generation, for the unit at the
path. -/
def Record.fills (g : Nat) (p : NodePath) (x : Record) : Bool :=
  match x.event, x.response with
  | .finishUnitFetch t (.ok _), .fetched (.ok _) => t.generation == g && t.path == p
  | _, _ => false

namespace Session

/-- Content is put in place for a ticket of this generation, and then the unit has been fetched. -/
theorem Move.fills {s s' : Session} {e : Event} {a : Response} (h : Move s e a s') {g : Nat}
    {p : NodePath} (hfills : Record.fills g p ⟨e, a⟩ = true) :
    g = s.generation ∧ s'.generation = s.generation ∧ s'.expansion.loadState p = .fetched ∧
      ∃ t, e.ticket? = some (.fetch t) ∧ t.generation = s.generation ∧ t.path = p := by
  unfold Record.fills at hfills
  dsimp only at hfills
  split at hfills
  · rw [Bool.and_eq_true, beq_iff_eq, beq_iff_eq] at hfills
    obtain ⟨rfl, rfl⟩ := hfills
    cases h with
    | stale _ _ ha => cases ha
    | refused _ ha => cases ha
    | fetched hcurrent ho hm =>
      refine ⟨hcurrent, rfl, ?_, _, rfl, hcurrent, rfl⟩
      exact (Expansion.loadState_finishFetch ..).trans (if_pos rfl)
  · cases hfills

end Session

/-- What has been fetched stays so while the pairing lasts. -/
theorem Review.Sound.fetched_next {r : Review} {e : Event} (h : r.Sound)
    (hstocked : r.session.Stocked) (htakes : r.Takes e) (hload : ∀ rerunId, e ≠ .beginLoad rerunId)
    {p : NodePath} (hfetched : r.session.expansion.loadState p = .fetched) :
    (r.next e).session.expansion.loadState p = .fetched := by
  cases (r.move e).loadStates with
  | reset he _ _ => exact absurd he (hload _)
  | same _ hstate _ => rw [hstate]; exact hfetched
  | @begun q n hn hneeds _ hstate _ =>
    rw [hstate, if_neg, hfetched]
    rintro rfl
    obtain ⟨-, n', hn', hunits⟩ := hstocked p hfetched
    obtain rfl := Option.some.inj (hn.symm.trans hn')
    rw [(Node.needsFetch_iff.mp hneeds).2] at hunits
    cases hunits
  | @ended t state he hcurrent _ _ hstate _ =>
    rw [hstate, if_neg, hfetched]
    rintro rfl
    rw [h.fetching_of_ticket (htakes _ he) hcurrent] at hfetched
    cases hfetched

/-- **The fetch of a unit succeeds once at most** in each generation, and not before that.  Once it
has in the present one, the unit counts as fetched. -/
theorem Trace.fills_le_one {h : List Record} {r : Review} (htrace : Trace {} h r) (g : Nat)
    (p : NodePath) :
    h.countP (Record.fills g p) ≤ 1 ∧ (0 < h.countP (Record.fills g p) →
      g ≤ r.session.generation ∧
        (g = r.session.generation → r.session.expansion.loadState p = .fetched)) := by
  induction htrace with
  | refl => exact ⟨Nat.zero_le _, fun h => absurd h (Nat.lt_irrefl 0)⟩
  | @tail h r e htrace htakes ih =>
    rw [List.countP_append, List.countP_singleton]
    cases hfills : Record.fills g p ⟨e, r.answer e⟩ with
    | true =>
      -- the unit was being fetched, so its fetch has not succeeded before
      obtain ⟨rfl, hgen, hfetched, t, ht, hcurrent, rfl⟩ := (r.move e).fills hfills
      have hfetching := htrace.sound.fetching_of_ticket (htakes _ ht) hcurrent
      have hnone : h.countP (Record.fills r.session.generation t.path) = 0 := by
        refine Nat.eq_zero_of_not_pos fun hpos => ?_
        rw [(ih.2 hpos).2 rfl] at hfetching
        cases hfetching
      rw [hnone, if_pos rfl]
      exact ⟨Nat.le_refl 1, fun _ => ⟨Nat.le_of_eq hgen.symm, fun _ => hfetched⟩⟩
    | false =>
      rw [if_neg Bool.false_ne_true, Nat.add_zero]
      refine ⟨ih.1, fun hpos => ?_⟩
      obtain ⟨hle, hfetched⟩ := ih.2 hpos
      refine ⟨Nat.le_trans hle (r.move e).flags.generation_le, fun hg => ?_⟩
      by_cases hload : ∃ rerunId, e = .beginLoad rerunId
      · obtain ⟨rerunId, rfl⟩ := hload
        have hgen : (r.next (.beginLoad rerunId)).session.generation = r.session.generation + 1 := rfl
        omega
      · have hload : ∀ rerunId, e ≠ .beginLoad rerunId := fun rerunId he => hload ⟨rerunId, he⟩
        rw [(r.move e).flags.generation_eq hload] at hg
        exact htrace.sound.fetched_next htrace.stocked htakes hload (hfetched hg)

/-! ## 4. Content is fetched once -/

/-- **Unit content is fetched at most once.**  At every time in every review:

* a node is being fetched exactly while its ticket is out, and then it is a unit without content;
* a node that has been fetched has content, and only units are ever fetched;
* a fetch begins, ahead or by showing the unit, exactly where content is missing and not on its way;
* in each generation at most one fetch of a unit has succeeded;
* when a fetch fails, the next one can begin at once. -/
theorem Trace.content_fetched_once {h : List Record} {r : Review} (htrace : Trace {} h r) :
    (∀ p, (r.session.expansion.loadState p = .fetching ↔
        ∃ t, .fetch t ∈ r.unfinished ∧ t.generation = r.session.generation ∧ t.path = p) ∧
      (r.session.expansion.loadState p = .fetching →
        p.isUnit = true ∧ ∃ n, r.session.nodeAt p = some n ∧ n.units = none) ∧
      (r.session.expansion.loadState p = .fetched →
        ∃ n, r.session.nodeAt p = some n ∧ n.units.isSome = true) ∧
      (p.isUnit = false → r.session.expansion.loadState p = .notFetched)) ∧
    (∀ p, ((∃ t, r.answer (.beginUnitFetch p) = .fetchBegun (.ok (some t))) ↔ r.Wants p) ∧
      ((∃ t, r.answer (.toggle p) = .fetchBegun (.ok (some t))) ↔
        r.Wants p ∧ r.session.expansion.visibility p = .collapsed)) ∧
    (∀ g p, h.countP (Record.fills g p) ≤ 1) ∧
    ∀ t reply e, .fetch t ∈ r.unfinished → t.generation = r.session.generation →
      r.answer (.finishUnitFetch t reply) = .fetched (.error e) →
      ∃ t', (r.next (.finishUnitFetch t reply)).answer (.beginUnitFetch t.path) =
        .fetchBegun (.ok (some t')) := by
  have hsound := htrace.sound
  refine ⟨fun p => ⟨hsound.fetching_iff p, fun hfetching => ?_, fun hfetched =>
      (htrace.stocked p hfetched).2, hsound.notFetched_of_not_unit htrace.stocked⟩,
    fun p => ⟨hsound.beginUnitFetch_iff htrace.stocked p, hsound.toggle_iff htrace.stocked p⟩,
    fun g p => (htrace.fills_le_one g p).1, fun t reply e ht hcurrent ha => ?_⟩
  · obtain ⟨n, hn, hneeds⟩ := hsound.coherent.fetching p hfetching
    obtain ⟨hunit, hunits⟩ := Node.needsFetch_iff.mp hneeds
    exact ⟨hunit, n, hn, hunits⟩
  · have hnext := htrace.tail (e := .finishUnitFetch t reply) (.of_finish rfl ht)
    exact (hnext.sound.beginUnitFetch_iff hnext.stocked t.path).mpr
      (hsound.wants_of_failed ht hcurrent ha)

namespace Sample

/-- An outline with a unit without content is loaded. -/
def unitLoaded : Review :=
  (({} : Review).next (.beginLoad "rerun")).next
    (.finishLoad ⟨1, "rerun"⟩ (.ok ⟨unitTree none none, unitTree none none⟩))

/-- The content of the unit is on its way. -/
def unitFetching : Review :=
  unitLoaded.next (.beginUnitFetch unitPath)

/-- The ticket for it. -/
def unitTicket : Ticket UnitFetch :=
  { generation := 1, path := unitPath, request := { usageKey := "vertical" } }

theorem unitLoaded_trace : ∃ h, Trace {} h unitLoaded :=
  ⟨_, (Trace.refl.tail (.of_begin rfl)).tail (.of_finish rfl (by decide))⟩

end Sample

open Sample in
/-- A unit is being fetched and has no content; when that fails it can be fetched again. -/
theorem Trace.content_fetched_after_failure :
    ∃ h, Trace {} h unitFetching ∧ .fetch unitTicket ∈ unitFetching.unfinished ∧
      unitFetching.session.expansion.loadState unitPath = .fetching ∧
      (∃ n, unitFetching.session.nodeAt unitPath = some n ∧ n.units = none) ∧
      ∃ t, (unitFetching.next (.finishUnitFetch unitTicket (.error .notLoaded))).answer
        (.beginUnitFetch unitPath) = .fetchBegun (.ok (some t)) := by
  obtain ⟨h, htrace⟩ := unitLoaded_trace
  have hfetching := htrace.tail (e := .beginUnitFetch unitPath) (.of_begin rfl)
  obtain ⟨hstates, -, -, hagain⟩ := Trace.content_fetched_once hfetching
  exact ⟨_, hfetching, by decide, rfl, ((hstates unitPath).2.1 rfl).2,
    hagain unitTicket (.error .notLoaded) .notLoaded (by decide) rfl rfl⟩

end CourseReview
