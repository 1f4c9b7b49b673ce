import CourseReview.Proofs.Outline.Arrival
import CourseReview.Proofs.Session.Parts

/-!
# Reviews

A session alone does not know which tickets are out.  A `Review` does: whoever asks the server
holds the tickets handed out, and hands each of them back once.  That is all that a `Trace` assumes;
a `Run` is a trace in which nodes come as they arrive from the server, without previews.  What is
known in every review (`Review.Sound`) falls into two.

* **Accounting** (`Review.Accounted`): the flags that are up are those of the tickets of this
  generation that are out, and no two of these have the same flag.
* **Coherence** (`Session.Coherent`): whatever is under way or selected belongs to a node that is
  there, an outline arrives where there is none, and content where there is none.

Both are kept by every event whose ticket was out (`Review.Sound.next`), and so they hold in the
course of every trace (`Trace.sound`), which every run is (`Run.trace`).
-/

namespace CourseReview

/-! ## 1. Runs -/

/-- Whether nodes come with the event. -/
def Event.bringsNodes : Event → Bool
  | .finishLoad _ (.ok _) => true
  | .finishUnitFetch _ (.ok _) => true
  | _ => false

/-- Whether the nodes that come with the event, if any, are as they arrive from the server, without
previews. -/
def Event.unpreviewed : Event → Bool
  | .finishLoad _ (.ok o) => o.rerun.unpreviewed
  | .finishUnitFetch _ (.ok components) => Node.unpreviewedMap components.rerun
  | _ => true

/-- A session, and the tickets that are out. -/
structure Review where
  session : Session := {}
  unfinished : List SomeTicket := []

/-- What happened, and what was answered. -/
structure Record where
  event : Event
  response : Response

namespace Review

/-- The ticket that comes back with the event, if any, was out. -/
def Takes (r : Review) (e : Event) : Prop :=
  ∀ t, e.ticket? = some t → t ∈ r.unfinished

/-- An event that hands no ticket back can always happen. -/
theorem Takes.of_begin {r : Review} {e : Event} (he : e.ticket? = none) : r.Takes e :=
  fun t ht => by rw [he] at ht; cases ht

/-- A ticket that is out can be handed back with any reply. -/
theorem Takes.of_finish {r : Review} {e : Event} {t : SomeTicket} (he : e.ticket? = some t)
    (ht : t ∈ r.unfinished) : r.Takes e :=
  fun t' ht' => by rw [he] at ht'; rw [← Option.some.inj ht']; exact ht

/-- The event can happen: a ticket that comes back was out, and nodes that come with it are as they
arrive. -/
structure Allows (r : Review) (e : Event) : Prop where
  out : ∀ t, e.ticket? = some t → t ∈ r.unfinished
  unpreviewed : e.unpreviewed = true

/-- An event that hands no ticket back, and brings no nodes, can always happen. -/
theorem Allows.of_begin {r : Review} {e : Event} (he : e.ticket? = none)
    (hunpreviewed : e.unpreviewed = true) : r.Allows e :=
  ⟨Takes.of_begin he, hunpreviewed⟩

/-- A ticket that is out can be handed back. -/
theorem Allows.of_finish {r : Review} {e : Event} {t : SomeTicket} (he : e.ticket? = some t)
    (ht : t ∈ r.unfinished) (hunpreviewed : e.unpreviewed = true) : r.Allows e :=
  ⟨Takes.of_finish he ht, hunpreviewed⟩

/-- What is answered to an event. -/
def answer (r : Review) (e : Event) : Response :=
  (r.session.perform e).1

/-- The review after an event. -/
def next (r : Review) (e : Event) : Review where
  session := (r.session.perform e).2
  unfinished :=
    (match e.ticket? with
      | none => r.unfinished
      | some t => r.unfinished.erase t) ++ (r.answer e).ticket?.toList

theorem move (r : Review) (e : Event) : r.session.Move e (r.answer e) (r.next e).session :=
  r.session.perform_move e

end Review

/-- From one review to another by allowed events, with a record of each. -/
inductive Run (r₀ : Review) : List Record → Review → Prop where
  | refl : Run r₀ [] r₀
  | tail {h : List Record} {r : Review} {e : Event} :
    Run r₀ h r → r.Allows e → Run r₀ (h ++ [⟨e, r.answer e⟩]) (r.next e)

/-- The same, whatever nodes come with the events. -/
inductive Trace (r₀ : Review) : List Record → Review → Prop where
  | refl : Trace r₀ [] r₀
  | tail {h : List Record} {r : Review} {e : Event} :
    Trace r₀ h r → r.Takes e → Trace r₀ (h ++ [⟨e, r.answer e⟩]) (r.next e)

theorem Run.trace {r₀ r : Review} {h : List Record} (hrun : Run r₀ h r) : Trace r₀ h r := by
  induction hrun with
  | refl => exact .refl
  | tail _ hallow ih => exact ih.tail hallow.out

/-! ## 2. Accounting -/

/-- What tells the tickets that are out apart. -/
def SomeTicket.stub (t : SomeTicket) : Nat × Option (Activity × NodePath) :=
  (t.generation, t.flag)

/-- The flags that are up are those of the tickets of this generation, one each. -/
structure Review.Accounted (r : Review) : Prop where
  past : ∀ t ∈ r.unfinished, t.generation ≤ r.session.generation
  distinct : r.unfinished.Pairwise fun t t' => t.stub ≠ t'.stub
  up : ∀ k, r.session.isUp k = true ↔
    ∃ t ∈ r.unfinished, t.generation = r.session.generation ∧ t.flag = k

namespace Review.Accounted

variable {r : Review} {e : Event}

/-- While a ticket of this generation is out, its flag is up. -/
theorem isUp (h : r.Accounted) {t : SomeTicket} (ht : t ∈ r.unfinished)
    (hcurrent : t.generation = r.session.generation) : r.session.isUp t.flag = true :=
  (h.up _).mpr ⟨t, ht, hcurrent, rfl⟩

/-- Handing a ticket back leaves the others out. -/
theorem mem_erase (h : r.Accounted) {t u : SomeTicket} :
    u ∈ r.unfinished.erase t ↔ u ∈ r.unfinished ∧ u ≠ t := by
  have hnodup : r.unfinished.Nodup := h.distinct.imp fun hne heq => hne (by rw [heq])
  rw [hnodup.mem_erase_iff, and_comm]

/-- Two tickets that are out are one when they have the same generation and the same flag. -/
theorem eq_of_stub_eq (h : r.Accounted) {t u : SomeTicket} (ht : t ∈ r.unfinished)
    (hu : u ∈ r.unfinished) (hstub : t.stub = u.stub) : t = u :=
  List.Pairwise.forall_of_forall_of_flip (R := fun t u : SomeTicket => t.stub = u.stub → t = u)
    (fun _ _ _ => rfl) (h.distinct.imp fun hne heq => absurd heq hne)
    (h.distinct.imp fun hne heq => absurd heq.symm hne) ht hu hstub

end Review.Accounted

/-! ## 3. Coherence -/

/-- Whatever is under way or selected belongs to something that is there, and replies arrive where
there is room for them. -/
structure Session.Coherent (s : Session) : Prop where
  loading : s.loading = true → s.outline = none
  busy : ∀ a p, s.busy a p = true → ∃ n, s.nodeAt p = some n
  expanding : ∀ p, s.busy .expand p = true ↔ s.expansion.loadState p = .fetching
  fetching : ∀ p, s.expansion.loadState p = .fetching →
    ∃ n, s.nodeAt p = some n ∧ n.needsFetch p = true
  selected : ∀ p selected, s.selection p = some selected → ∃ n, s.nodeAt p = some n

/-- A session that has just begun to load is coherent. -/
theorem Session.Coherent.beginLoad (s : Session) (rerunId : String) :
    (s.beginLoad rerunId).2.Coherent where
  loading _ := rfl
  busy _ _ h := by cases h
  expanding _ := by constructor <;> intro h <;> cases h
  fetching _ h := by cases h
  selected _ _ h := by cases h

/-- Where an activity may begin its flag is down, however that was checked. -/
theorem Session.Coherent.isUp_eq_false {s : Session} (h : s.Coherent) {a : Activity} {p : NodePath}
    (hdown : s.busy a p = false ∨ a = .expand ∧ s.expansion.loadState p = .notFetched) :
    s.isUp (some (a, p)) = false := by
  rcases hdown with hdown | ⟨rfl, hload⟩
  · exact hdown
  · refine Bool.eq_false_iff.mpr fun hbusy => ?_
    rw [(h.expanding p).mp hbusy] at hload
    cases hload

/-- What is known in every review. -/
structure Review.Sound (r : Review) : Prop where
  accounted : r.Accounted
  coherent : r.session.Coherent

namespace Review.Sound

variable {r : Review} {e : Event}

/-- An outline arrives where there is none. -/
theorem outline_none (h : r.Sound) (htakes : r.Takes e) {t : LoadTicket} {reply : Outcome Outline}
    (he : e = .finishLoad t reply) (hcurrent : t.generation = r.session.generation) :
    r.session.outline = none := by
  have hmem : .load t ∈ r.unfinished := htakes _ (by rw [he]; rfl)
  exact h.coherent.loading (h.accounted.isUp hmem hcurrent)

/-- Content arrives in a unit without content. -/
theorem needsFetch (h : r.Sound) (htakes : r.Takes e) {t : Ticket UnitFetch}
    {reply : Outcome UnitComponents} (he : e = .finishUnitFetch t reply)
    (hcurrent : t.generation = r.session.generation) :
    ∃ n, r.session.nodeAt t.path = some n ∧ n.needsFetch t.path = true := by
  have hmem : .fetch t ∈ r.unfinished := htakes _ (by rw [he]; rfl)
  have hup : r.session.busy .expand t.path = true := h.accounted.isUp hmem hcurrent
  exact h.coherent.fetching _ ((h.coherent.expanding _).mp hup)

/-- **What an event does to the node at a path in a review**: no node is lost while the pairing
lasts.  Those that enter are as the replies bring them. -/
theorem nodeFate (h : r.Sound) (htakes : r.Takes e) {R : Node → Node → Prop} (hR : IgnoresBelow R)
    {New : Node → Prop}
    (harrive : ∀ t o, e = .finishLoad t (.ok o) → ∀ (q : NodePath) n, q.resolve o.rerun = some n →
      New n)
    (hfill : ∀ t components, e = .finishUnitFetch t (.ok components) →
      ∀ id c depth rest x, Keyed.get? id (components.rerun.getD []) = some c →
        NodePath.descend depth rest c = some x → New x)
    (hload : ∀ rerunId, e ≠ .beginLoad rerunId) (p : NodePath) :
    r.session.NodeFate R New e (r.answer e) (r.next e).session p := by
  refine (r.move e).outline.nodeFate hR hload ?_ ?_ p
  · intro t o he hcurrent
    exact ⟨h.outline_none htakes he hcurrent, harrive t o he⟩
  · intro t components n he hcurrent hn
    obtain ⟨n', hn', hneeds⟩ := h.needsFetch htakes he hcurrent
    obtain rfl := Option.some.inj (hn.symm.trans hn')
    obtain ⟨hunit, hunits⟩ := Node.needsFetch_iff.mp hneeds
    rw [NodePath.isUnit, beq_iff_eq] at hunit
    exact ⟨Nat.le_of_eq hunit.symm, hunits, fun id c rest x => hfill t components he id c _ rest x⟩

/-- The same, when nothing need be known of the nodes that enter. -/
theorem nodeFate_any (h : r.Sound) (htakes : r.Takes e) {R : Node → Node → Prop}
    (hR : IgnoresBelow R) (hload : ∀ rerunId, e ≠ .beginLoad rerunId) (p : NodePath) :
    r.session.NodeFate R (fun _ => True) e (r.answer e) (r.next e).session p :=
  h.nodeFate htakes hR (fun _ _ _ _ _ _ => trivial) (fun _ _ _ _ _ _ _ _ _ _ => trivial) hload p

/-- The same, for nodes that come without previews. -/
theorem nodeStep (h : r.Sound) (hallow : r.Allows e) {R : Node → Node → Prop} (hR : IgnoresBelow R)
    (happrove : ∀ patch n, R n ((Node.foldApproval patch n).node n))
    (hload : ∀ rerunId, e ≠ .beginLoad rerunId) (p : NodePath) :
    r.session.NodeStep R (fun n => e.bringsNodes = true ∧ n.unpreviewed = true) e (r.answer e)
      (r.next e).session p := by
  refine (h.nodeFate hallow.out hR ?_ ?_ hload p).step happrove
  · intro t o he q n hn
    have ho : o.rerun.unpreviewed = true := by
      have := hallow.unpreviewed
      rw [he] at this; exact this
    exact ⟨by rw [he]; rfl, Tree.unpreviewed_of_resolve ho hn⟩
  · intro t components he id c depth rest x hc hx
    have hcomponents : Node.unpreviewedMap components.rerun = true := by
      have := hallow.unpreviewed
      rw [he] at this; exact this
    refine ⟨by rw [he]; rfl, ?_⟩
    cases hm : components.rerun with
    | none => rw [hm] at hc; cases hc
    | some content =>
      rw [hm] at hc hcomponents
      exact NodePath.unpreviewed_of_descend (Node.unpreviewed_of_get? hcomponents hc) hx

end Review.Sound

/-- Whether content is needed does not depend on what is below, nor on approvals. -/
def Node.SameNeeds (n n' : Node) : Prop :=
  n'.units.isNone = n.units.isNone

theorem Node.ignoresBelow_sameNeeds : IgnoresBelow Node.SameNeeds where
  refl _ := rfl
  set slot n m m' hm _ := by
    cases slot with
    | children => rfl
    | units =>
      have hm : n.units = some m := hm
      rw [Node.SameNeeds, hm]; rfl

theorem Node.sameNeeds_foldApproval (patch : ApprovalPatch) (n : Node) :
    n.SameNeeds ((n.foldApproval patch).node n) := by
  have hunits := Node.get_foldApproval patch .units n
  have hunits : ((n.foldApproval patch).node n).units =
    n.units.map fun m => ChildMap.revised m (Node.foldApprovalEntries patch m) := hunits
  rw [Node.SameNeeds, hunits, Option.isNone_map]

/-- Nor on any edit but the one that brings the content. -/
theorem Edit.sameNeeds {edit : Edit} (hfill : ∀ content, edit ≠ .fill content) (n : Node) :
    n.SameNeeds ((edit.revision n).node n) := by
  cases edit with
  | preview payload => exact congrArg Option.isNone (n.previewVersion_units payload)
  | revert => exact congrArg Option.isNone n.revertPreview_units
  | commit applied => rfl
  | approve patch => exact Node.sameNeeds_foldApproval patch n
  | fill content => exact absurd rfl (hfill content)

/-! ## 4. Every event keeps both -/

namespace Review

variable {r : Review} {e : Event}

theorem unfinished_next_of_out {t : SomeTicket} (he : e.ticket? = none)
    (ha : (r.answer e).ticket? = some t) : (r.next e).unfinished = r.unfinished ++ [t] := by
  simp only [next, he, ha, Option.toList_some]

theorem unfinished_next_of_back {t : SomeTicket} (he : e.ticket? = some t)
    (ha : (r.answer e).ticket? = none) : (r.next e).unfinished = r.unfinished.erase t := by
  simp only [next, he, ha, Option.toList_none, List.append_nil]

theorem unfinished_next_of_neither (he : e.ticket? = none)
    (ha : (r.answer e).ticket? = none) : (r.next e).unfinished = r.unfinished := by
  simp only [next, he, ha, Option.toList_none, List.append_nil]

end Review

namespace Review.Accounted

variable {r r' : Review}

/-- One more ticket, with a stub of its own. -/
theorem add (h : r.Accounted) {t : SomeTicket} (hnext : r'.unfinished = r.unfinished ++ [t])
    (hle : r.session.generation ≤ r'.session.generation)
    (ht : t.generation = r'.session.generation)
    (hnew : ∀ u ∈ r.unfinished, u.stub ≠ t.stub)
    (hup : ∀ k, r'.session.isUp k = true ↔ k = t.flag ∨
      ∃ u ∈ r.unfinished, u.generation = r'.session.generation ∧ u.flag = k) :
    r'.Accounted where
  past u hu := by
    rw [hnext, List.mem_append, List.mem_singleton] at hu
    rcases hu with hu | rfl
    · exact Nat.le_trans (h.past u hu) hle
    · exact Nat.le_of_eq ht
  distinct := by
    rw [hnext, List.pairwise_append]
    refine ⟨h.distinct, List.pairwise_singleton _ _, fun u hu t' ht' => ?_⟩
    rw [List.mem_singleton.mp ht']
    exact hnew u hu
  up k := by
    rw [hup, hnext]
    constructor
    · rintro (rfl | ⟨u, hu, hgen, hflag⟩)
      · exact ⟨t, List.mem_append_right _ (List.mem_singleton.mpr rfl), ht, rfl⟩
      · exact ⟨u, List.mem_append_left _ hu, hgen, hflag⟩
    · rintro ⟨u, hu, hgen, hflag⟩
      rcases List.mem_append.mp hu with hu | hu
      · exact .inr ⟨u, hu, hgen, hflag⟩
      · rw [List.mem_singleton.mp hu] at hflag
        exact .inl hflag.symm

/-- Some tickets fewer, whose flags are down if they are of this generation. -/
theorem drop (h : r.Accounted) (hsub : r'.unfinished.Sublist r.unfinished)
    (hgen : r'.session.generation = r.session.generation)
    (hup : ∀ k, r'.session.isUp k = true ↔
      ∃ u ∈ r'.unfinished, u.generation = r.session.generation ∧ u.flag = k) :
    r'.Accounted where
  past u hu := by rw [hgen]; exact h.past u (hsub.subset hu)
  distinct := h.distinct.sublist hsub
  up k := by rw [hup, hgen]

/-- **Accounting is kept.** -/
theorem next {e : Event} (h : r.Accounted) (hc : r.session.Coherent) (htakes : r.Takes e) :
    (r.next e).Accounted := by
  cases (r.move e).flags with
  | @load rerunId t he ha hflag hticket hgen hup =>
    have hold : ∀ u ∈ r.unfinished, u.generation ≠ (r.next e).session.generation := by
      intro u hu
      have := h.past u hu
      omega
    refine h.add (r.unfinished_next_of_out (by rw [he]; rfl) ha) (by omega) hticket
      (fun u hu heq => hold u hu ((congrArg Prod.fst heq).trans hticket)) fun k => ?_
    rw [hup, decide_eq_true_iff, hflag]
    exact ⟨.inl, fun hk => hk.resolve_right fun ⟨u, hu, hgen, _⟩ => hold u hu hgen⟩
  | same he ha hgen hup =>
    cases ht : e.ticket? with
    | none =>
      have hnext := r.unfinished_next_of_neither ht ha
      refine h.drop (hnext ▸ List.Sublist.refl _) hgen fun k => ?_
      rw [hup, hnext]
      exact h.up k
    | some t =>
      have hnext := r.unfinished_next_of_back ht ha
      refine h.drop (by rw [hnext]; exact List.erase_sublist) hgen fun k => ?_
      rw [hup, h.up, hnext]
      constructor
      · rintro ⟨u, hu, hcurrent, hflag⟩
        refine ⟨u, h.mem_erase.mpr ⟨hu, ?_⟩, hcurrent, hflag⟩
        rintro rfl
        exact he u ht hcurrent
      · rintro ⟨u, hu, hcurrent, hflag⟩
        exact ⟨u, (h.mem_erase.mp hu).1, hcurrent, hflag⟩
  | @back t he hticket ha hgen hup =>
    have hnext := r.unfinished_next_of_back he ha
    have hmem := htakes t he
    refine h.drop (by rw [hnext]; exact List.erase_sublist) hgen fun k => ?_
    rw [hup, hnext]
    constructor
    · intro hk
      split at hk
      · cases hk
      · rename_i hne
        obtain ⟨u, hu, hcurrent, hflag⟩ := (h.up k).mp hk
        refine ⟨u, h.mem_erase.mpr ⟨hu, ?_⟩, hcurrent, hflag⟩
        rintro rfl
        exact hne hflag.symm
    · rintro ⟨u, hu, hcurrent, hflag⟩
      obtain ⟨hu, hne⟩ := h.mem_erase.mp hu
      rw [if_neg, (h.up k).mpr ⟨u, hu, hcurrent, hflag⟩]
      rintro rfl
      exact hne (h.eq_of_stub_eq hu hmem (Prod.ext (hcurrent.trans hticket.symm) hflag))
  | @out t activity p n he ha hflag hn hdown hticket hgen hup =>
    have hbusy : r.session.isUp t.flag = false := by
      rw [hflag]
      exact hc.isUp_eq_false hdown
    refine h.add (r.unfinished_next_of_out he ha) (Nat.le_of_eq hgen.symm) (hticket.trans hgen.symm)
      (fun u hu heq => ?_) fun k => ?_
    · have hup := h.isUp hu ((congrArg Prod.fst heq).trans hticket)
      rw [show u.flag = t.flag from congrArg Prod.snd heq, hbusy] at hup
      cases hup
    · rw [hup, hgen, ← h.up]
      by_cases hk : k = t.flag
      · rw [if_pos hk]
        exact ⟨fun _ => .inl hk, fun _ => rfl⟩
      · rw [if_neg hk]
        exact ⟨.inr, fun h => h.resolve_left hk⟩

end Review.Accounted

namespace Review.Sound

variable {r : Review} {e : Event}

/-- A node that is there stays there while the pairing lasts. -/
theorem nodeAt_next (h : r.Sound) (htakes : r.Takes e) (hload : ∀ rerunId, e ≠ .beginLoad rerunId)
    {p : NodePath} (hn : ∃ n, r.session.nodeAt p = some n) :
    ∃ n, (r.next e).session.nodeAt p = some n := by
  obtain ⟨n, hn⟩ := hn
  cases (h.nodeFate_any htakes Node.ignoresBelow_sameNeeds hload p).step
    Node.sameNeeds_foldApproval with
  | edited hedits hcurrent hn₁ hn' => exact ⟨_, hn'⟩
  | became hedits hbecame =>
    rw [hn] at hbecame
    obtain ⟨n', hn', -⟩ := hbecame.of_some
    exact ⟨n', hn'⟩

/-- A unit that needs its content goes on needing it until that has come. -/
theorem needsFetch_next (h : r.Sound) (htakes : r.Takes e)
    (hload : ∀ rerunId, e ≠ .beginLoad rerunId) {p : NodePath}
    (hback : ∀ t, e.ticket? = some (.fetch t) → t.generation = r.session.generation → t.path ≠ p)
    (hn : ∃ n, r.session.nodeAt p = some n ∧ n.needsFetch p = true) :
    ∃ n, (r.next e).session.nodeAt p = some n ∧ n.needsFetch p = true := by
  obtain ⟨n, hn, hneeds⟩ := hn
  have hsame : ∀ n', n.SameNeeds n' → n'.needsFetch p = true := by
    intro n' hsame
    rw [Node.needsFetch, hsame]
    exact hneeds
  cases (h.nodeFate_any htakes Node.ignoresBelow_sameNeeds hload p).step
    Node.sameNeeds_foldApproval with
  | @edited edit n₁ hedits hcurrent hn₁ hn' =>
    obtain rfl := Option.some.inj (hn.symm.trans hn₁)
    refine ⟨_, hn', hsame _ (Edit.sameNeeds (fun content hcontent => ?_) n)⟩
    subst hcontent
    obtain ⟨t, components, he, hp⟩ := hedits.of_fill
    have ht : e.ticket? = some (.fetch t) := by rw [he]; rfl
    exact hback t ht (hcurrent _ ht) hp
  | became hedits hbecame =>
    rw [hn] at hbecame
    obtain ⟨n', hn', hsame'⟩ := hbecame.of_some
    exact ⟨n', hn', hsame n' hsame'⟩

/-! What coherence says of the flags, the load states and the selections is kept by every event that goes
on with the pairing; the one that begins another leaves nothing to be said. -/

/-- While the outline is loaded none arrives, and there is none to edit. -/
theorem loading_next (h : r.Sound) (hload : ∀ rerunId, e ≠ .beginLoad rerunId)
    (hup : (r.next e).session.loading = true) : (r.next e).session.outline = none := by
  have hflags := (r.move e).flags
  have hbefore : r.session.outline = none := by
    rcases hflags.of_isUp (k := none) hload hup with hup | ⟨_, _, _, hk, _⟩
    · exact h.coherent.loading hup
    · cases hk
  cases (r.move e).outline with
  | dropped he _ => exact absurd he (hload _)
  | arrived he hcurrent _ =>
    have hdown := hflags.isUp_back (t := .load _) (by rw [he]; rfl) hcurrent
    exact absurd hup (by rw [show (r.next e).session.loading = false from hdown]; decide)
  | untouched _ ho => rw [ho]; exact hbefore
  | edited _ _ ho _ _ => rw [hbefore] at ho; cases ho

/-- What is under way goes on at a node that is there. -/
theorem busy_next (h : r.Sound) (htakes : r.Takes e) (hload : ∀ rerunId, e ≠ .beginLoad rerunId)
    {a : Activity} {p : NodePath} (hup : (r.next e).session.busy a p = true) :
    ∃ n, (r.next e).session.nodeAt p = some n := by
  rcases (r.move e).flags.of_isUp (k := some (a, p)) hload hup with hup | ⟨_, _, n, hk, hn⟩
  · exact h.nodeAt_next htakes hload (h.coherent.busy a p hup)
  · cases hk
    exact h.nodeAt_next htakes hload ⟨n, hn⟩

/-- The flag of a fetch and the load state of its unit go up and down together. -/
theorem expanding_next (h : r.Sound) (hload : ∀ rerunId, e ≠ .beginLoad rerunId) (p : NodePath) :
    (r.next e).session.busy .expand p = true ↔
      (r.next e).session.expansion.loadState p = .fetching := by
  cases (r.move e).loadStates with
  | reset he _ _ => exact absurd he (hload _)
  | same _ hstate hbusy => rw [hstate, hbusy]; exact h.coherent.expanding p
  | begun _ _ _ hstate hbusy =>
    rw [hstate, hbusy]
    split
    · exact ⟨fun _ => rfl, fun _ => rfl⟩
    · exact h.coherent.expanding p
  | ended _ _ hne _ hstate hbusy =>
    rw [hstate, hbusy]
    split
    · exact ⟨fun h => (nomatch h), fun h => absurd h hne⟩
    · exact h.coherent.expanding p

/-- What is fetched is content that is needed. -/
theorem fetching_next (h : r.Sound) (htakes : r.Takes e) (hload : ∀ rerunId, e ≠ .beginLoad rerunId)
    {p : NodePath} (hfetching : (r.next e).session.expansion.loadState p = .fetching) :
    ∃ n, (r.next e).session.nodeAt p = some n ∧ n.needsFetch p = true := by
  cases (r.move e).loadStates with
  | reset he _ _ => exact absurd he (hload _)
  | same hback hstate _ =>
    rw [hstate] at hfetching
    exact h.needsFetch_next htakes hload (fun t ht hcurrent => absurd hcurrent (hback t ht))
      (h.coherent.fetching p hfetching)
  | begun hn hneeds he hstate _ =>
    have hback : ∀ t, e.ticket? = some (.fetch t) → t.generation = r.session.generation →
        t.path ≠ p := fun t ht => by rw [he] at ht; cases ht
    rw [hstate] at hfetching
    split at hfetching
    · rename_i hp
      subst hp
      exact h.needsFetch_next htakes hload hback ⟨_, hn, hneeds⟩
    · exact h.needsFetch_next htakes hload hback (h.coherent.fetching p hfetching)
  | ended he _ hne _ hstate _ =>
    rw [hstate] at hfetching
    split at hfetching
    · exact absurd hfetching hne
    · rename_i hp
      refine h.needsFetch_next htakes hload (fun t' ht' _ => ?_) (h.coherent.fetching p hfetching)
      rw [he] at ht'
      cases ht'
      exact fun h => hp h.symm

/-- A selection is one at a node that is there: the node that an event selects at or takes a selection
from is the one that it edits, and all others stay. -/
theorem selected_next (h : r.Sound) (htakes : r.Takes e) (hload : ∀ rerunId, e ≠ .beginLoad rerunId)
    {p : NodePath} {selected : Selection} (hsel : (r.next e).session.selection p = some selected) :
    ∃ n, (r.next e).session.nodeAt p = some n := by
  have hkept : ∀ {selected'}, r.session.selection p = some selected' →
      ∃ n, (r.next e).session.nodeAt p = some n :=
    fun hsel' => h.nodeAt_next htakes hload (h.coherent.selected p _ hsel')
  have hedited : ∀ {q edit}, e.Edits (r.answer e) q edit →
      ∃ n, (r.next e).session.nodeAt q = some n := by
    intro q edit hedits
    obtain ⟨n, -, hn'⟩ := (r.move e).outline.nodeAt_of_edits hedits
    exact ⟨_, hn'⟩
  cases (r.move e).selections with
  | reset he _ => exact absurd he (hload _)
  | same _ _ hsame =>
    rw [hsame] at hsel
    exact hkept hsel
  | reverted hedits hset =>
    rw [hset] at hsel
    split at hsel
    · rename_i hp
      rw [hp]
      exact hedited hedits
    · exact hkept hsel
  | @shown t payload selected' he ha _ hset =>
    have hedits : e.Edits (r.answer e) t.path (.preview payload.data) := by
      rw [ha, he]; exact .preview ..
    rw [hset] at hsel
    split at hsel
    · rename_i hp
      rw [hp]
      exact hedited hedits
    · exact hkept hsel
  | applied _ _ hset =>
    rw [hset] at hsel
    split at hsel
    · obtain ⟨selected', hsel', -⟩ := Option.map_eq_some_iff.mp hsel
      exact hkept hsel'
    · exact hkept hsel

/-- **Coherence is kept.** -/
theorem coherent_next (h : r.Sound) (htakes : r.Takes e) : (r.next e).session.Coherent := by
  by_cases hload : ∃ rerunId, e = .beginLoad rerunId
  · obtain ⟨rerunId, rfl⟩ := hload
    exact .beginLoad _ _
  · have hload : ∀ rerunId, e ≠ .beginLoad rerunId := fun rerunId he => hload ⟨rerunId, he⟩
    exact
      { loading := h.loading_next hload
        busy := fun _ _ => h.busy_next htakes hload
        expanding := h.expanding_next hload
        fetching := fun _ => h.fetching_next htakes hload
        selected := fun _ _ => h.selected_next htakes hload }

/-- **Every event keeps what is known.** -/
theorem next (h : r.Sound) (htakes : r.Takes e) : (r.next e).Sound :=
  ⟨h.accounted.next h.coherent htakes, h.coherent_next htakes⟩

/-- It is known of a new session. -/
theorem new : ({} : Review).Sound where
  accounted :=
    { past := fun _ h => nomatch h
      distinct := .nil
      up := fun k => by
        refine ⟨fun h => ?_, fun ⟨_, h, _⟩ => nomatch h⟩
        cases k <;> cases h }
  coherent :=
    { loading := fun h => nomatch h
      busy := fun _ _ h => nomatch h
      expanding := fun _ => ⟨fun h => (nomatch h), fun h => (nomatch h)⟩
      fetching := fun _ h => nomatch h
      selected := fun _ _ h => nomatch h }

end Review.Sound

/-- What is known of a review is known from then on. -/
theorem Review.Sound.trace {r₀ r : Review} {h : List Record} (hsound : r₀.Sound)
    (htrace : Trace r₀ h r) : r.Sound := by
  induction htrace with
  | refl => exact hsound
  | tail _ htakes ih => exact ih.next htakes

/-- **What is known in every review**: whatever has happened to a session since it was new. -/
theorem Trace.sound {h : List Record} {r : Review} (htrace : Trace {} h r) : r.Sound :=
  Review.Sound.new.trace htrace

theorem Run.sound {h : List Record} {r : Review} (hrun : Run {} h r) : r.Sound :=
  hrun.trace.sound

end CourseReview
