import CourseReview.Proofs.Session.Buttons
import CourseReview.Proofs.Session.Histories

/-!
# The version applied and the versions listed

The version that is applied to a block is one of its history, which the reviewer is offered as such
and whose entry is looked up there.  An approval keeps to that: it has the version listed that it
names.  The reply to a version applied only names one, and versions can be selected and applied that
the history does not list.

This file settles at which nodes the version applied is listed.  When all nodes come with it listed,
it is the last word on a node that decides: the version applied is missing from the history exactly
when it was named last by the reply to a version applied, and the history does not list it
(`Trace.applied_listed_iff`).  Then it is neither offered as applied nor found.  One apply can do
that (`Trace.applied_not_listed`).
-/

namespace CourseReview

/-! ## 1. The last word -/

/-- What the record says, without listing it, of the version applied to the block with that usage key
at the place: the reply to an apply names one, or none.  After an approval, and in another pairing,
none has been named so. -/
def Record.names? (pl : Place) (key : String) (x : Record) : Option (Option VersionId) :=
  match x.event, x.response with
  | .beginLoad _, _ => some none
  | .finishApply t (.ok applied), .applied (.ok ()) =>
    if t.path.place? = some pl then some applied.appliedVersion else none
  | .finishApprove t (.ok patch), .approved (.ok _) =>
    if t.path.covers pl = true ∧ Keyed.has key patch = true then some none else none
  | _, _ => none

/-- The version that the last word of a history on the block names without listing it, if it names
any. -/
def lastNamed (pl : Place) (key : String) (h : List Record) : Option VersionId :=
  ((h.filterMap (Record.names? pl key)).getLast?).join

theorem lastNamed_snoc (pl : Place) (key : String) (h : List Record) (x : Record) :
    lastNamed pl key (h ++ [x]) = (x.names? pl key).getD (lastNamed pl key h) := by
  rw [lastNamed, getLast?_filterMap_snoc, lastNamed]
  cases x.names? pl key <;> rfl

namespace Record

variable {p : NodePath} {pl : Place} {key : String} {e : Event} {a : Response}

/-- Nothing is named at a place where no node is edited or approved. -/
theorem names?_of_not_reaches (hload : Record.loads ⟨e, a⟩ = false)
    (hreaches : ∀ p edit, e.Edits a p edit → edit.reaches p pl = false) :
    names? pl key ⟨e, a⟩ = none := by
  unfold names?
  dsimp only
  split
  · cases hload
  · rename_i t applied
    have hne : (t.path.place? == some pl) = false := hreaches _ _ (.commit t applied)
    exact if_neg (beq_eq_false_iff_ne.mp hne)
  · rename_i t patch count
    have hcovers : t.path.covers pl = false := hreaches _ _ (.approve t patch count)
    rw [if_neg fun h => Bool.false_ne_true (hcovers.symm.trans h.1)]
  · rfl

/-- **What a record says of the version applied** is what it makes of the history: it leaves it alone,
or the version applied is listed, or is the version that it names. -/
theorem names?_spec (pl : Place) (key : String) (hload : Record.loads ⟨e, a⟩ = false)
    (vs : VersionStatus) :
    match names? pl key ⟨e, a⟩ with
    | none => recordAt pl ⟨e, a⟩ key vs = vs
    | some none => (recordAt pl ⟨e, a⟩ key vs).isConsistent = true
    | some (some id) => (recordAt pl ⟨e, a⟩ key vs).appliedVersion = some id := by
  by_cases hedits : ∃ p edit, e.Edits a p edit
  · obtain ⟨p, edit, hedits⟩ := hedits
    rw [recordAt_of_edits hedits]
    cases hreaches : edit.reaches p pl with
    | false =>
      rw [names?_of_not_reaches hload fun q edit' hedits' => by
        obtain ⟨rfl, rfl⟩ := hedits'.unique hedits
        exact hreaches]
      exact Edit.recordAt_of_not_reaches hreaches key vs
    | true =>
      rw [Edit.recordAt_of_reaches hreaches]
      cases hedits with
      | commit t applied =>
        have hnames : names? pl key ⟨.finishApply t (.ok applied), .applied (.ok ())⟩ =
            some applied.appliedVersion := if_pos (beq_iff_eq.mp hreaches)
        rw [hnames]
        cases happlied : applied.appliedVersion with
        | none => rw [Edit.record, VersionStatus.isConsistent, happlied]
        | some id => exact happlied
      | approve t patch count =>
        have hcovers : t.path.covers pl = true := hreaches
        have hnames : names? pl key ⟨.finishApprove t (.ok patch), .approved (.ok count)⟩ =
            if Keyed.has key patch = true then some none else none := by
          simp only [names?, hcovers, true_and]
        rw [hnames, Edit.record, Keyed.has]
        cases Keyed.get? key patch with
        | none => rfl
        | some entry => exact vs.isConsistent_recordApproval entry
      | _ => rfl
  · have hnot : ∀ p edit, ¬ e.Edits a p edit := fun p edit h => hedits ⟨p, edit, h⟩
    rw [names?_of_not_reaches hload fun p edit h => absurd h (hnot p edit)]
    exact recordAt_of_not_edits hnot key vs

end Record

/-- All nodes that have come in a history have the version applied listed, if one is. -/
def ComeListed (h : List Record) : Prop :=
  ∀ x ∈ h, ∀ n, x.Brings n → n.history.isConsistent = true

namespace ComeListed

theorem nil : ComeListed [] := fun _ hx => nomatch hx

theorem snoc {h : List Record} {x : Record} :
    ComeListed (h ++ [x]) ↔
      ComeListed h ∧ ∀ n, x.Brings n → n.history.isConsistent = true := by
  rw [ComeListed, List.forall_mem_append, List.forall_mem_singleton]
  rfl

/-- Most events bring no nodes. -/
theorem tail {h : List Record} (hcome : ComeListed h) {e : Event} (he : e.bringsNodes = false)
    (a : Response) : ComeListed (h ++ [⟨e, a⟩]) := by
  refine snoc.mpr ⟨hcome, fun n hbrings => ?_⟩
  cases hbrings <;> cases he

end ComeListed

/-! ## 2. One event -/

/-- What the last word on the node at each place is worth: the version applied is the one named, and
where none is named it is listed.  On places without a node there is none. -/
def Review.Named (h : List Record) (r : Review) : Prop :=
  ∀ pl, match r.session.nodeAtPlace pl with
    | none => ∀ key, lastNamed pl key h = none
    | some n =>
      (lastNamed pl n.usageKey h = none → n.history.isConsistent = true) ∧
        ∀ id, lastNamed pl n.usageKey h = some id → n.history.appliedVersion = some id

namespace Review.Named

variable {h : List Record} {r : Review} {e : Event}

/-- A new pairing has no nodes, and nothing was said of them. -/
theorem beginLoad (rerunId : String) (h : List Record) (r : Review) :
    (r.next (.beginLoad rerunId)).Named (h ++ [⟨.beginLoad rerunId, r.answer (.beginLoad rerunId)⟩]) := by
  intro pl key
  rw [lastNamed_snoc]
  rfl

/-- Where no node comes to be or stays, none is named. -/
theorem names?_of_missing {pl : Place} (hn : r.session.nodeAtPlace pl = none) (key : String) :
    (Record.names? pl key ⟨e, r.answer e⟩).getD none = none := by
  cases hnames : Record.names? pl key ⟨e, r.answer e⟩ with
  | none => rfl
  | some named =>
    unfold Record.names? at hnames
    dsimp only at hnames
    split at hnames
    · exact Option.some.inj hnames.symm
    · rename_i t applied ha
      -- an apply is answered for a node that is there
      split at hnames
      · rename_i hp
        have hedits : (Event.finishApply t (.ok applied)).Edits
            (r.answer (.finishApply t (.ok applied))) t.path (.commit applied) := by
          rw [ha]; exact .commit t applied
        obtain ⟨n, hn', -⟩ := (r.move _).outline.nodeAt_of_edits hedits
        rw [Session.nodeAt_place hp, hn] at hn'
        cases hn'
      · cases hnames
    · split at hnames
      · exact Option.some.inj hnames.symm
      · cases hnames
    · cases hnames

/-- **The last word stays worth what it is.** -/
theorem next (hsound : r.Sound) (htakes : r.Takes e)
    (hcome : ∀ n, Record.Brings ⟨e, r.answer e⟩ n → n.history.isConsistent = true)
    (hnamed : r.Named h) : (r.next e).Named (h ++ [⟨e, r.answer e⟩]) := by
  cases hload : Record.loads ⟨e, r.answer e⟩ with
  | true =>
    cases e with
    | beginLoad rerunId => exact beginLoad rerunId h r
    | _ => cases hload
  | false =>
    intro pl
    have hbefore := hnamed pl
    have hbecame := hsound.history_next htakes hload pl
    generalize hn' : (r.next e).session.nodeAtPlace pl = after at hbecame ⊢
    generalize hn : r.session.nodeAtPlace pl = before at hbefore hbecame
    cases hbecame with
    | missing =>
      intro key
      rw [lastNamed_snoc, hbefore key]
      exact names?_of_missing hn key
    | @entered n' hnew =>
      have hnone : lastNamed pl n'.usageKey (h ++ [⟨e, r.answer e⟩]) = none := by
        rw [lastNamed_snoc, hbefore n'.usageKey]
        exact names?_of_missing hn n'.usageKey
      exact ⟨fun _ => hcome n' hnew, fun id hid => nomatch hnone.symm.trans hid⟩
    | @stayed n n' hrecorded =>
      have hspec := Record.names?_spec pl n.usageKey hload n.history
      dsimp only
      rw [lastNamed_snoc, hrecorded.usageKey, hrecorded.history]
      generalize Record.names? pl n.usageKey ⟨e, r.answer e⟩ = named at hspec ⊢
      match named, hspec with
      | none, hspec =>
        rw [hspec, Option.getD_none]
        exact hbefore
      | some none, hspec => exact ⟨fun _ => hspec, fun _ h => nomatch h⟩
      | some (some id), hspec =>
        exact ⟨fun h => (nomatch h), fun id' hid' => hspec.trans hid'⟩

end Review.Named

/-! ## 3. Whole runs -/

/-- What the last word is worth in every review in which nodes come with the version applied
listed. -/
theorem Trace.named {h : List Record} {r : Review} (htrace : Trace {} h r)
    (hcome : ComeListed h) : r.Named h := by
  induction htrace with
  | refl => intro pl key; rfl
  | tail htrace htakes ih =>
    obtain ⟨hbefore, hlast⟩ := ComeListed.snoc.mp hcome
    exact (ih hbefore).next htrace.sound htakes hlast

/-- **When the version applied is listed.**  All nodes come with the version applied listed, if one
is.  Then at every time, for the node at any place:

* the version applied is listed, if one is, exactly when the last word on the block was not the reply
  to a version applied, or named no version, or one that is listed;
* what it takes for the version applied to be offered as such, and for its entry to be found, is that
  it is listed. -/
theorem Trace.applied_listed_iff {h : List Record} {r : Review} (htrace : Trace {} h r)
    (hcome : ComeListed h) {pl : Place} {n : Node} (hn : r.session.nodeAtPlace pl = some n) :
    (n.history.isConsistent = true ↔
      ∀ id, lastNamed pl n.usageKey h = some id → n.history.lists id = true) ∧
    ∀ id, n.history.applied = true → n.history.appliedVersion = some id →
      ((∃ v, n.versionChoices.applied = some v ∧ v.id = id) ↔ n.history.isConsistent = true) ∧
      ((∃ v, n.history.appliedEntry = some v ∧ v.id = id) ↔ n.history.isConsistent = true) := by
  have hnamed := htrace.named hcome pl
  rw [hn] at hnamed
  obtain ⟨hnone, hsome⟩ := hnamed
  refine ⟨⟨fun hconsistent id hid => ?_, fun hlisted => ?_⟩, fun id happlied hid =>
    ⟨Node.versionChoices_iff happlied hid, VersionStatus.appliedEntry_iff happlied hid⟩⟩
  · exact (VersionStatus.isConsistent_iff (hsome id hid)).mp hconsistent
  · cases hlast : lastNamed pl n.usageKey h with
    | none => exact hnone hlast
    | some id => exact (VersionStatus.isConsistent_iff (hsome id hlast)).mpr (hlisted id hlast)

namespace Sample

/-- The place of the section. -/
def chapterPlace : Place := .underSection "S1" []

/-- An outline is loaded of which the course and its one section have no versions, and nothing below
them. -/
theorem comeListed_of_chapter {s : Node} {base : Tree} (hbelow : ∀ slot : ChildSlot, slot.get s = none)
    (hhistory : s.history = {}) :
    ∃ h, Trace {} h ((({} : Review).next (.beginLoad "rerun")).next (.finishLoad ⟨1, "rerun"⟩
      (.ok ⟨⟨.ofBlock "course" "course", [("S1", s)]⟩, base⟩))) ∧ ComeListed h := by
  refine ⟨_, (Trace.refl.tail (.of_begin rfl)).tail (.of_finish rfl (List.mem_singleton.mpr rfl)),
    ComeListed.snoc.mpr ⟨ComeListed.nil.tail rfl _, fun n hbrings => ?_⟩⟩
  have hleaf : ∀ {m : Node} {steps}, (∀ slot : ChildSlot, slot.get m = none) → m.history = {} →
      m.follow steps = some n → n.history = {} := by
    intro m steps hbelow hhistory hn
    match steps, hn with
    | [], hn => rw [← Option.some.inj hn]; exact hhistory
    | (slot, id) :: rest, hn => rw [Node.follow_cons, hbelow slot] at hn; cases hn
  generalize Review.answer _ _ = a at hbrings
  cases hbrings with
  | @outline _ _ _ pl _ hn =>
    have hempty : n.history = {} := by
      cases pl with
      | underCourse steps => exact hleaf (fun slot => by cases slot <;> rfl) rfl hn
      | underSection id steps =>
        rw [Place.resolve, Keyed.get?] at hn
        split at hn
        · exact hleaf hbelow hhistory hn
        · cases hn
    rw [hempty]; rfl

theorem loaded_comeListed : ∃ h, Trace {} h loaded ∧ ComeListed h :=
  comeListed_of_chapter (fun slot => by cases slot <;> rfl) (by rfl)

theorem ready_comeListed : ∃ h, Trace {} h ready ∧ ComeListed h :=
  comeListed_of_chapter (fun slot => by cases slot <;> rfl) (by rfl)

end Sample

open Sample in
/-- Version two is applied with the approval of a section, and is offered as applied. -/
theorem Trace.applied_listed_after_approval :
    ∃ h n, Trace {} h (approvedWith ready 2) ∧ ComeListed h ∧
      (approvedWith ready 2).session.nodeAtPlace chapterPlace = some n ∧
      lastNamed chapterPlace n.usageKey h = none ∧ n.history.isConsistent = true ∧
      ∃ v, n.versionChoices.applied = some v ∧ v.id = 2 := by
  obtain ⟨h, hready, hcome⟩ := ready_comeListed
  have htrace : Trace {} _ (approvedWith ready 2) :=
    (hready.tail (e := .beginApprove chapterPath) (.of_begin rfl)).tail (.of_finish rfl (by decide))
  have hn : (approvedWith ready 2).session.nodeAtPlace chapterPlace = some _ := rfl
  obtain ⟨hlisted, hchoices⟩ := htrace.applied_listed_iff ((hcome.tail rfl _).tail rfl _) hn
  rw [lastNamed_snoc] at hlisted
  have hconsistent := hlisted.mpr fun id hid => nomatch hid
  exact ⟨_, _, htrace, (hcome.tail rfl _).tail rfl _, rfl, lastNamed_snoc .., hconsistent,
    (hchoices 2 rfl rfl).1.mpr hconsistent⟩

open Sample in
/-- **A version applied that is not listed.**  All nodes come without versions.  Version two of a
section is selected and applied: then it is named as applied, but it is not listed, neither found
nor offered as applied. -/
theorem Trace.applied_not_listed :
    ∃ h n, Trace {} h (applying.next (.finishApply applyTicket (.ok appliedTwo))) ∧ ComeListed h ∧
      (applying.next (.finishApply applyTicket (.ok appliedTwo))).session.nodeAt chapterPath =
        some n ∧
      n.history.applied = true ∧ n.history.appliedVersion = some 2 ∧
      n.history.isConsistent = false ∧ n.history.appliedEntry = none ∧
      n.versionChoices.applied = none := by
  obtain ⟨h, hloaded, hcome⟩ := loaded_comeListed
  have hshown := (hloaded.tail (e := .beginSelect chapterPath 2) (.of_begin rfl)).tail
    (e := .finishSelect ⟨1, chapterPath, ⟨2⟩⟩ (.ok { data := .string "Two" }))
    (.of_finish rfl (by decide))
  have happlied := (hshown.tail (e := .beginApply chapterPath) (.of_begin rfl)).tail
    (e := .finishApply applyTicket (.ok appliedTwo)) (.of_finish rfl (by decide))
  exact ⟨_, _, happlied, (((hcome.tail rfl _).tail rfl _).tail rfl _).tail rfl _, rfl, rfl, rfl, rfl,
    rfl, rfl⟩

end CourseReview
