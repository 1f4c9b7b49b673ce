import CourseReview.Proofs.Session.Review

/-!
# The payload that is a node's own

A preview shows another payload in the place of a node's own, which `Node.original` finds whether
it is shown or set aside.  This file settles that reviews do not lose it.

* One event changes the own payload of one node at most, and only by applying a version to it,
  which makes the payload shown its own (`Review.Sound.original_next`).
* So the own payload is the one with which the node has come from the server, or that it showed when
  a version was last applied to it (`Run.original_settled`), and selecting the translation without
  a version shows that payload again (`Run.original_kept`).

Statements of two kinds come back for other things than payloads: what lasts as long as the pairing
does, and since when something is so.  Their inductions over a history are stated here in general
(`Trace.lasts`, `Trace.since`).
-/

namespace CourseReview

/-! ## 1. One event -/

/-- Whether the record is that of a version applied to the node at the path. -/
def Record.applies (p : NodePath) (x : Record) : Bool :=
  match x.event, x.response with
  | .finishApply t (.ok _), .applied (.ok ()) => t.path == p
  | _, _ => false

/-- Whether the record is that of another pairing on its way. -/
def Record.loads (x : Record) : Bool :=
  match x.event with
  | .beginLoad _ => true
  | _ => false

theorem Record.loads_eq_false {x : Record} :
    x.loads = false ↔ ∀ rerunId, x.event ≠ .beginLoad rerunId := by
  obtain ⟨e, a⟩ := x
  cases e with
  | beginLoad rerunId => exact ⟨fun h => (nomatch h), fun h => absurd rfl (h rerunId)⟩
  | _ => exact ⟨fun _ _ h => (nomatch h), fun _ => rfl⟩

/-- What a history says last, with one more record. -/
theorem getLast?_filterMap_snoc {β : Type} (f : Record → Option β) (h : List Record)
    (x : Record) :
    ((h ++ [x]).filterMap f).getLast? = (f x).or (h.filterMap f).getLast? := by
  rw [List.filterMap_append, List.getLast?_append, List.filterMap_cons]
  cases f x <;> rfl

/-- Applying a version is the edit that makes a payload permanent. -/
theorem Record.applies_iff {p : NodePath} {e : Event} {a : Response} :
    Record.applies p ⟨e, a⟩ = true ↔ ∃ applied, e.Edits a p (.commit applied) := by
  constructor
  · intro h
    unfold applies at h
    dsimp only at h
    split at h
    · rw [beq_iff_eq] at h
      subst h
      exact ⟨_, .commit ..⟩
    · cases h
  · rintro ⟨applied, h⟩
    cases h with
    | commit t applied => exact beq_self_eq_true t.path

namespace Review.Sound

variable {r : Review} {e : Event}

/-- **The own payload of a node is kept** by every event that goes on with the pairing, but for a
version applied to just this node, which makes the payload shown the node's own. -/
theorem original_next (h : r.Sound) (hallow : r.Allows e)
    (hload : Record.loads ⟨e, r.answer e⟩ = false) {p : NodePath} {n : Node}
    (hn : r.session.nodeAt p = some n) :
    ∃ n', (r.next e).session.nodeAt p = some n' ∧
      n'.original = if Record.applies p ⟨e, r.answer e⟩ then n.data else n.original := by
  have hload := Record.loads_eq_false.mp hload
  cases h.nodeStep hallow Node.ignoresBelow_samePayloads Node.samePayloads_foldApproval hload p with
  | @edited edit n₁ hedits hcurrent hn₁ hn' =>
    obtain rfl := Option.some.inj (hn.symm.trans hn₁)
    refine ⟨_, hn', ?_⟩
    rw [Edit.original_revision]
    by_cases happlies : Record.applies p ⟨e, r.answer e⟩ = true
    · obtain ⟨applied, hcommit⟩ := Record.applies_iff.mp happlies
      rw [if_pos happlies, (hedits.unique hcommit).2, Edit.original]
    · rw [if_neg happlies]
      cases edit with
      | commit applied => exact absurd (Record.applies_iff.mpr ⟨applied, hedits⟩) happlies
      | _ => rfl
  | became hedits hbecame =>
    have happlies : ¬ Record.applies p ⟨e, r.answer e⟩ = true := fun happlies => by
      obtain ⟨applied, hcommit⟩ := Record.applies_iff.mp happlies
      exact hedits _ hcommit
    rw [if_neg happlies]
    rw [hn] at hbecame
    obtain ⟨n', hn', hsame⟩ := hbecame.of_some
    exact ⟨n', hn', hsame.original⟩

end Review.Sound

/-! ## 2. Whole runs -/

/-- **What lasts as long as the pairing does** is what holds at first and what every event that goes
on with the pairing keeps. -/
theorem Trace.lasts {P : List Record → Review → Prop} {r₀ r : Review} {h : List Record}
    (htrace : Trace r₀ h r) (hsound : r₀.Sound) (hload : ∀ x ∈ h, x.loads = false) (first : P [] r₀)
    (next : ∀ h r e, r.Sound → r.Takes e → Record.loads ⟨e, r.answer e⟩ = false → P h r →
      P (h ++ [⟨e, r.answer e⟩]) (r.next e)) :
    P h r := by
  induction htrace with
  | refl => exact first
  | @tail h r e htrace htakes ih =>
    obtain ⟨hbefore, hlast⟩ := List.forall_mem_append.mp hload
    have hlast := hlast _ (List.mem_singleton.mpr rfl)
    exact next h r e (hsound.trace htrace) htakes hlast (ih hbefore)

/-- **What is there has come about at some place.**  Where it was not there at first, and each event
after which it is there either brings it about or finds it there and is quiet, the history splits at
an event that brought it about, and all that came after is quiet. -/
theorem Trace.since (There : Review → Prop) (Brings : Review → Event → Prop)
    (Quiet : Record → Prop) {h : List Record} {r : Review} (htrace : Trace {} h r)
    (first : ¬ There {}) (hnow : There r)
    (next : ∀ r e, There (r.next e) → Brings r e ∨ There r ∧ Quiet ⟨e, r.answer e⟩) :
    ∃ h₀ r₀ e h₁, h = h₀ ++ ⟨e, r₀.answer e⟩ :: h₁ ∧ Trace {} h₀ r₀ ∧ r₀.Takes e ∧ Brings r₀ e ∧
      Trace (r₀.next e) h₁ r ∧ ∀ x ∈ h₁, Quiet x := by
  induction htrace with
  | refl => exact absurd hnow first
  | @tail h r e htrace htakes ih =>
    rcases next r e hnow with hbrings | ⟨hbefore, hquiet⟩
    · exact ⟨h, r, e, [], rfl, htrace, htakes, hbrings, .refl, fun _ hx => nomatch hx⟩
    · obtain ⟨h₀, r₀, e₀, h₁, rfl, htrace₀, htakes₀, hbrings, htrace₁, hquiet₁⟩ := ih hbefore
      refine ⟨h₀, r₀, e₀, h₁ ++ [⟨e, r.answer e⟩], ?_, htrace₀, htakes₀, hbrings,
        htrace₁.tail htakes, ?_⟩
      · rw [List.append_assoc, List.cons_append]
      · exact List.forall_mem_append.mpr ⟨hquiet₁, List.forall_mem_singleton.mpr hquiet⟩

/-- A place in a history at which the payload of a node was settled: there the node has come from
the server, or a version was applied to it.  It showed its own payload then, and since then no
version was applied to it and no other pairing loaded. -/
structure SettledSince (p : NodePath) (h : List Record) (r : Review) (n₁ : Node) : Prop where
  place : ∃ h₀ r₀ e h₁, h = h₀ ++ ⟨e, r₀.answer e⟩ :: h₁ ∧ Run {} h₀ r₀ ∧ r₀.Allows e ∧
    (r₀.session.nodeAt p = none ∧ e.bringsNodes = true ∨
      Record.applies p ⟨e, r₀.answer e⟩ = true) ∧
    (r₀.next e).session.nodeAt p = some n₁ ∧ Run (r₀.next e) h₁ r ∧
    ∀ x ∈ h₁, x.applies p = false ∧ x.loads = false
  own : n₁.previous = none

namespace SettledSince

variable {p : NodePath} {h : List Record} {r : Review} {e : Event} {n₁ : Node}

/-- The last event settles the payload. -/
theorem last (hrun : Run {} h r) (hallow : r.Allows e)
    (hsettles : r.session.nodeAt p = none ∧ e.bringsNodes = true ∨
      Record.applies p ⟨e, r.answer e⟩ = true)
    (hn : (r.next e).session.nodeAt p = some n₁) (hown : n₁.previous = none) :
    SettledSince p (h ++ [⟨e, r.answer e⟩]) (r.next e) n₁ where
  place := ⟨h, r, e, [], rfl, hrun, hallow, hsettles, hn, .refl, fun _ hx => nomatch hx⟩
  own := hown

/-- The last event has nothing to do with it. -/
theorem tail (hsettled : SettledSince p h r n₁) (hallow : r.Allows e)
    (happlies : Record.applies p ⟨e, r.answer e⟩ = false)
    (hload : Record.loads ⟨e, r.answer e⟩ = false) :
    SettledSince p (h ++ [⟨e, r.answer e⟩]) (r.next e) n₁ where
  place := by
    obtain ⟨h₀, r₀, e₀, h₁, rfl, hrun₀, hallow₀, hsettles, hn, hrun₁, hquiet⟩ := hsettled.place
    refine ⟨h₀, r₀, e₀, h₁ ++ [⟨e, r.answer e⟩], by rw [List.append_assoc, List.cons_append],
      hrun₀, hallow₀, hsettles, hn, hrun₁.tail hallow, ?_⟩
    exact List.forall_mem_append.mpr ⟨hquiet, List.forall_mem_singleton.mpr ⟨happlies, hload⟩⟩
  own := hsettled.own

end SettledSince

/-- **Where an own payload comes from.**  At every time in every review, a node's own payload is the
one it showed when it was settled last. -/
theorem Run.original_settled {h : List Record} {r : Review} (hrun : Run {} h r) {p : NodePath}
    {n : Node} (hn : r.session.nodeAt p = some n) :
    ∃ n₁, SettledSince p h r n₁ ∧ n.original = n₁.data := by
  induction hrun generalizing n with
  | refl => cases hn
  | @tail h r e hrun hallow ih =>
    cases hloads : Record.loads ⟨e, r.answer e⟩ with
    | true =>
      cases e with
      | beginLoad rerunId => cases hn
      | _ => cases hloads
    | false =>
      cases happlies : Record.applies p ⟨e, r.answer e⟩ with
      | true =>
        -- the version applied is the place
        obtain ⟨applied, hcommit⟩ := Record.applies_iff.mp happlies
        obtain ⟨n₀, -, hn'⟩ := (r.move e).outline.nodeAt_of_edits hcommit
        obtain rfl := Option.some.inj (hn.symm.trans hn')
        exact ⟨_, .last hrun hallow (.inr happlies) hn rfl, rfl⟩
      | false =>
        cases hbefore : r.session.nodeAt p with
        | some n₀ =>
          obtain ⟨n₁, hsettled, horiginal⟩ := ih hbefore
          obtain ⟨n', hn', hkept⟩ := hrun.sound.original_next hallow hloads hbefore
          obtain rfl := Option.some.inj (hn.symm.trans hn')
          refine ⟨n₁, hsettled.tail hallow happlies hloads, ?_⟩
          rw [hkept, happlies, if_neg Bool.false_ne_true, horiginal]
        | none =>
          -- the node has come in, so this is the place
          cases hrun.sound.nodeStep hallow Node.ignoresBelow_samePayloads
            Node.samePayloads_foldApproval (Record.loads_eq_false.mp hloads) p with
          | edited _ _ hn₀ _ => rw [hbefore] at hn₀; cases hn₀
          | became _ hbecame =>
            rw [hbefore, hn] at hbecame
            cases hbecame with
            | entered hnew =>
              have hown : n.previous = none := (Node.unpreviewed_iff.mp hnew.2).1
              refine ⟨n, .last hrun hallow (.inl ⟨hbefore, hnew.1⟩) hn hown, ?_⟩
              rw [Node.original, hown, Option.getD_none]

/-- Selecting the translation without a version shows the own payload of the node, and sets none
aside. -/
theorem Review.revert_shows_original {r : Review} {p : NodePath} {selected : Selection}
    (ha : r.answer (.beginSelect p pendingVersion) = .selectBegun (.ok (.done selected))) :
    ∃ n n', r.session.nodeAt p = some n ∧
      (r.next (.beginSelect p pendingVersion)).session.nodeAt p = some n' ∧
      n'.data = n.original ∧ n'.previous = none := by
  have hmove := r.move (.beginSelect p pendingVersion)
  rw [ha] at hmove
  generalize (r.next (.beginSelect p pendingVersion)).session = s' at hmove ⊢
  cases hmove with
  | stale ht _ _ => cases ht
  | refused _ hfailure => cases hfailure
  | reverted ho hidle hr =>
    obtain ⟨n, hn, hn'⟩ := Tree.resolve_revise_self hr
    obtain ⟨hdata, hprevious⟩ := n.revertPreview_payloads
    exact ⟨n, _, Session.nodeAt_eq_some.mpr ⟨_, ho, hn⟩, hn', hdata, hprevious⟩

/-- **Previews never lose the own payload.**  At every time in every review:

* every event that goes on with the pairing keeps every node and its own payload, but for a version
  applied to a node, which makes the payload shown its own;
* selecting the translation without a version, when that is done, shows in the node the payload
  that it showed when it came from the server or when a version was last applied to it. -/
theorem Run.original_kept {h : List Record} {r : Review} (hrun : Run {} h r) :
    (∀ e p n, r.Allows e → Record.loads ⟨e, r.answer e⟩ = false → r.session.nodeAt p = some n →
      ∃ n', (r.next e).session.nodeAt p = some n' ∧
        n'.original = if Record.applies p ⟨e, r.answer e⟩ then n.data else n.original) ∧
    (∀ p selected, r.answer (.beginSelect p pendingVersion) = .selectBegun (.ok (.done selected)) →
      ∃ n₁ n', SettledSince p h r n₁ ∧
        (r.next (.beginSelect p pendingVersion)).session.nodeAt p = some n' ∧
        n'.data = n₁.data ∧ n'.previous = none) := by
  refine ⟨fun e p n hallow hload hn => hrun.sound.original_next hallow hload hn,
    fun p selected ha => ?_⟩
  obtain ⟨n, n', hn, hn', hdata, hprevious⟩ := Review.revert_shows_original ha
  obtain ⟨n₁, hsettled, horiginal⟩ := hrun.original_settled hn
  exact ⟨n₁, n', hsettled, hn', hdata.trans horiginal, hprevious⟩

namespace Sample

/-- The path of a section. -/
def chapterPath : NodePath := .outline ["S1"]

/-- An outline with that section, which has a name of its own. -/
def chapterTree : Tree where
  courseInfo := .ofBlock "course" "course"
  sections := [("S1", { usageKey := "chapter", category := "chapter", data := .string "Own" })]

/-- The outline is loaded. -/
def loaded : Review :=
  (({} : Review).next (.beginLoad "rerun")).next
    (.finishLoad ⟨1, "rerun"⟩ (.ok ⟨chapterTree, chapterTree⟩))

/-- A version of the section is selected, and its payload shown. -/
def shown (r : Review) (version : VersionId) (name : String) : Review :=
  (r.next (.beginSelect chapterPath version)).next
    (.finishSelect ⟨1, chapterPath, ⟨version⟩⟩ (.ok { data := .string name }))

theorem loaded_run : ∃ h, Run {} h loaded :=
  ⟨_, (Run.refl.tail (.of_begin rfl rfl)).tail (.of_finish rfl (by decide) rfl)⟩

end Sample

open Sample in
/-- A section shows version two, and then its own name again. -/
theorem Run.original_kept_through_preview :
    ∃ h, Run {} h (shown loaded 2 "Two") ∧
      ((shown loaded 2 "Two").session.nodeAt chapterPath).map (·.data) = some (.string "Two") ∧
      ∃ n₁ n', SettledSince chapterPath h (shown loaded 2 "Two") n₁ ∧
        ((shown loaded 2 "Two").next (.beginSelect chapterPath pendingVersion)).session.nodeAt
          chapterPath = some n' ∧
        n'.data = n₁.data ∧ n'.data = .string "Own" := by
  obtain ⟨h, hrun⟩ := loaded_run
  have hshown := (hrun.tail (e := .beginSelect chapterPath 2) (.of_begin rfl rfl)).tail
    (e := .finishSelect ⟨1, chapterPath, ⟨2⟩⟩ (.ok { data := .string "Two" }))
    (.of_finish rfl (by decide) rfl)
  obtain ⟨n₁, n', hsettled, hn', hdata, -⟩ := (Run.original_kept hshown).2 chapterPath .pending rfl
  refine ⟨_, hshown, rfl, n₁, n', hsettled, hn', hdata, ?_⟩
  rw [← Option.some.inj hn']
  rfl

end CourseReview
