import CourseReview.Proofs.Session.Content

/-!
# Flags and tickets

Whether an activity may begin is checked in three ways: at its flag, at the load state of the unit,
and not at all for a load, which begins a new generation instead.  This file settles that all three
come to the same: a flag is up exactly while one ticket for it is out, and never two
(`Review.Accounted.outstanding_eq`), so that nothing is begun twice
(`Review.Sound.flag_down_of_issued`).  Without an outline nothing but the load is under way
(`Review.Sound.idle_of_outline_none`).

`Trace.flags_are_outstanding_tickets` puts them together.
-/

namespace CourseReview

namespace Review

/-- The number of tickets of this generation that are out for a flag. -/
def outstanding (r : Review) (k : Option (Activity × NodePath)) : Nat :=
  r.unfinished.countP fun t => t.generation == r.session.generation && t.flag == k

/-- **One ticket is out for a flag that is up**, and none for a flag that is down. -/
theorem Accounted.outstanding_eq {r : Review} (h : r.Accounted)
    (k : Option (Activity × NodePath)) :
    r.outstanding k = if r.session.isUp k then 1 else 0 := by
  have hnodup : (r.unfinished.map SomeTicket.stub).Nodup := List.pairwise_map.mpr h.distinct
  have hcount : r.outstanding k =
      (r.unfinished.map SomeTicket.stub).count (r.session.generation, k) := by
    rw [outstanding, List.count, List.countP_map]
    rfl
  have hmem : (r.session.generation, k) ∈ r.unfinished.map SomeTicket.stub ↔
      r.session.isUp k = true := by
    rw [h.up, List.mem_map]
    constructor
    · rintro ⟨t, ht, hk⟩
      exact ⟨t, ht, congrArg Prod.fst hk, congrArg Prod.snd hk⟩
    · rintro ⟨t, ht, hgen, hflag⟩
      exact ⟨t, ht, Prod.ext hgen hflag⟩
  rw [hcount, hnodup.count]
  simp only [hmem]

namespace Sound

variable {r : Review}

/-- **Nothing is begun twice.**  A ticket that goes out is the only one of its generation for its
flag. -/
theorem flag_down_of_issued (h : r.Sound) {e : Event} {t u : SomeTicket}
    (ht : (r.answer e).ticket? = some t) (hu : u ∈ r.unfinished)
    (hgen : u.generation = t.generation) : u.flag ≠ t.flag := by
  cases (r.move e).flags with
  | load _ ha _ hticket hnext _ =>
    -- a load begins a generation of its own
    rw [ha] at ht
    obtain rfl := Option.some.inj ht
    have hpast := h.accounted.past u hu
    omega
  | same _ ha _ _ => rw [ha] at ht; cases ht
  | back _ _ ha _ _ => rw [ha] at ht; cases ht
  | out _ ha hflag _ hdown hticket _ _ =>
    rw [ha] at ht
    obtain rfl := Option.some.inj ht
    intro hsame
    have hup := h.accounted.isUp hu (hgen.trans hticket)
    rw [hsame, hflag, h.coherent.isUp_eq_false hdown] at hup
    cases hup

/-- **Without an outline** nothing is selected, nothing has been fetched, and nothing but a load is
under way. -/
theorem idle_of_outline_none (h : r.Sound) (hstocked : r.session.Stocked)
    (ho : r.session.outline = none) :
    (∀ p, r.session.selection p = none) ∧
      (∀ p, r.session.expansion.loadState p = .notFetched) ∧ ∀ a p, r.session.busy a p = false := by
  have hnone : ∀ p n, r.session.nodeAt p ≠ some n := by
    intro p n hn
    rw [Session.nodeAt, ho] at hn
    cases hn
  refine ⟨fun p => ?_, fun p => ?_, fun a p => ?_⟩
  · cases hsel : r.session.selection p with
    | none => rfl
    | some selected =>
      obtain ⟨n, hn⟩ := h.coherent.selected p selected hsel
      exact absurd hn (hnone p n)
  · cases hload : r.session.expansion.loadState p with
    | notFetched => rfl
    | fetching =>
      obtain ⟨n, hn, -⟩ := h.coherent.fetching p hload
      exact absurd hn (hnone p n)
    | fetched =>
      obtain ⟨-, n, hn, -⟩ := hstocked p hload
      exact absurd hn (hnone p n)
  · cases hbusy : r.session.busy a p with
    | false => rfl
    | true =>
      obtain ⟨n, hn⟩ := h.coherent.busy a p hbusy
      exact absurd hn (hnone p n)

end Sound

end Review

/-- **Flags are exactly the tickets that are out.**  At every time in every review:

* the number of tickets of this generation that are out for a flag is one while the flag is up, and
  none while it is down; the flag is that of the load, or of an activity for the node at a path;
* a ticket that goes out is the only one of its generation for its flag;
* while a load is under way there is no outline;
* while there is no outline nothing is selected, no content has been fetched or is on its way, and
  nothing but a load is under way. -/
theorem Trace.flags_are_outstanding_tickets {h : List Record} {r : Review} (htrace : Trace {} h r) :
    (r.outstanding none = (if r.session.loading then 1 else 0) ∧
      ∀ a p, r.outstanding (some (a, p)) = if r.session.busy a p then 1 else 0) ∧
    (∀ e t, (r.answer e).ticket? = some t →
      ∀ u ∈ r.unfinished, u.generation = t.generation → u.flag ≠ t.flag) ∧
    (r.session.loading = true → r.session.outline = none) ∧
    (r.session.outline = none → (∀ p, r.session.selection p = none) ∧
      (∀ p, r.session.expansion.loadState p = .notFetched) ∧
      ∀ a p, r.session.busy a p = false) := by
  have hsound := htrace.sound
  refine ⟨⟨hsound.accounted.outstanding_eq none, fun a p => hsound.accounted.outstanding_eq _⟩,
    fun e t ht u hu hgen => hsound.flag_down_of_issued ht hu hgen, hsound.coherent.loading,
    hsound.idle_of_outline_none htrace.stocked⟩

open Sample in
/-- While the content of a unit is on its way its flag is up and one ticket is out for it, and
asking for the content again hands out none. -/
theorem Trace.flags_of_unit_fetching :
    ∃ h, Trace {} h unitFetching ∧ unitFetching.session.busy .expand unitPath = true ∧
      unitFetching.outstanding (some (.expand, unitPath)) = 1 ∧
      ∀ t, (unitFetching.answer (.beginUnitFetch unitPath)).ticket? = some t → t ≠ .fetch unitTicket := by
  obtain ⟨h, htrace⟩ := unitLoaded_trace
  have hfetching := htrace.tail (e := .beginUnitFetch unitPath) (.of_begin rfl)
  obtain ⟨⟨-, hcount⟩, hissued, -, -⟩ := Trace.flags_are_outstanding_tickets hfetching
  refine ⟨_, hfetching, rfl, hcount .expand unitPath, fun t ht => ?_⟩
  rintro rfl
  exact hissued _ _ ht (.fetch unitTicket) (by decide) rfl rfl

end CourseReview
