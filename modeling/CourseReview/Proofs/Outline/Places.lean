import CourseReview.Proofs.Outline.History
import CourseReview.Proofs.Outline.Update

/-!
# Places

Paths name the nodes that a reviewer can point at, and follow one map of each node, which is the
`units` of a unit and the `children` of what is above it.  A node can have the other map too, and
there can be nodes below content; these stand at places that no path names.  An approval reaches them
like all others, since it goes through both maps of every node.

This file settles what an edit at a path does to the history of the node at any place
(`Tree.history_edited`): an approval records in every node at or below the path, any other edit at
the path only, and no node is lost.

* The place that a path names holds the node to which the path leads (`NodePath.resolve_place`).
* Away from what the path covers nothing has changed but maps (`Tree.map_resolve_update_of_not_covers`).
* Below the node edited the edit answers (`Edit.history_below`).
-/

namespace CourseReview

/-! ## 1. Steps -/

/-- The other place of a node is left alone. -/
theorem ChildSlot.get_set_of_ne {slot slot' : ChildSlot} (h : slot' ≠ slot) (n : Node)
    (m : ChildMap) : slot'.get (slot.set n m) = slot'.get n := by
  cases slot <;> cases slot' <;> first | exact absurd rfl h | rfl

/-- The steps that ids stand for, from a node whose path has the given length. -/
def stepsAlong : (depth : Nat) → List String → List (ChildSlot × String)
  | _, [] => []
  | depth, id :: rest => (.atDepth depth, id) :: stepsAlong (depth + 1) rest

namespace Node

/-- The node that steps lead to. -/
def follow : List (ChildSlot × String) → Node → Option Node
  | [], n => some n
  | (slot, id) :: rest, n => ((slot.get n).bind (Keyed.get? id)).bind (follow rest)

@[simp] theorem follow_nil (n : Node) : n.follow [] = some n := rfl

theorem follow_cons (slot : ChildSlot) (id : String) (rest : List (ChildSlot × String)) (n : Node) :
    n.follow ((slot, id) :: rest) = ((slot.get n).bind (Keyed.get? id)).bind (follow rest) := rfl

theorem follow_cons_eq_some {slot : ChildSlot} {id : String} {rest : List (ChildSlot × String)}
    {n x : Node} : n.follow ((slot, id) :: rest) = some x ↔
      ∃ m c, slot.get n = some m ∧ Keyed.get? id m = some c ∧ c.follow rest = some x := by
  simp only [follow_cons, Option.bind_eq_some_iff]
  constructor
  · rintro ⟨c, ⟨m, hm, hc⟩, hx⟩
    exact ⟨m, c, hm, hc, hx⟩
  · rintro ⟨m, c, hm, hc, hx⟩
    exact ⟨c, ⟨m, hm, hc⟩, hx⟩

theorem follow_append :
    ∀ (steps rest : List (ChildSlot × String)) (n : Node),
      n.follow (steps ++ rest) = (n.follow steps).bind (follow rest) := by
  intro steps
  induction steps with
  | nil => intro rest n; rfl
  | cons step steps ih =>
    intro rest n
    obtain ⟨slot, id⟩ := step
    rw [List.cons_append, follow_cons, follow_cons, funext (ih rest), ← Option.bind_assoc]

/-- Following ids is following steps. -/
theorem descend_eq_follow :
    ∀ (ids : List String) (depth : Nat) (n : Node),
      NodePath.descend depth ids n = n.follow (stepsAlong depth ids) := by
  intro ids
  induction ids with
  | nil => intro depth n; rw [NodePath.descend_nil, stepsAlong, follow_nil]
  | cons id rest ih =>
    intro depth n
    rw [NodePath.descend_cons, stepsAlong, follow_cons, Option.bind_assoc, funext (ih (depth + 1))]

/-- Where the maps of a node are the same, so are the nodes below. -/
theorem follow_congr {n n' : Node} (h : ∀ slot : ChildSlot, slot.get n' = slot.get n)
    (step : ChildSlot × String) (rest : List (ChildSlot × String)) :
    n'.follow (step :: rest) = n.follow (step :: rest) := by
  obtain ⟨slot, id⟩ := step
  rw [follow_cons, follow_cons, h]

/-- Below an approved node every node stands where it stood, approved in its turn. -/
theorem follow_foldApproval (patch : ApprovalPatch) :
    ∀ (steps : List (ChildSlot × String)) (n : Node),
      ((n.foldApproval patch).node n).follow steps =
        (n.follow steps).map fun x => (x.foldApproval patch).node x := by
  intro steps
  induction steps with
  | nil => intro n; rfl
  | cons step rest ih =>
    intro n
    obtain ⟨slot, id⟩ := step
    rw [follow_cons, follow_cons, get_foldApproval]
    cases slot.get n with
    | none => rfl
    | some m =>
      rw [Option.map_some, Option.bind_some, Option.bind_some, ChildMap.get?_revised_foldApproval]
      cases Keyed.get? id m with
      | none => rfl
      | some c => rw [Option.map_some, Option.bind_some, Option.bind_some, ih]

/-- **An update seen from elsewhere.**  Steps that do not lead through the ids updated lead to the
same node, but for the map on the way down when the ids lead on from there. -/
theorem map_follow_update {β : Type} {φ : Node → β} (f : Node → Node) :
    ∀ {ids : List String} (depth : Nat) (n : Node) {steps : List (ChildSlot × String)},
      ¬ stepsAlong depth ids <+: steps →
      (steps <+: stepsAlong depth ids → ∀ (slot : ChildSlot) n m, φ (slot.set n m) = φ n) →
        ((update f depth ids n).follow steps).map φ = (n.follow steps).map φ := by
  intro ids
  induction ids with
  | nil => intro depth n steps h _; exact absurd List.nil_prefix h
  | cons id ids ih =>
    intro depth n steps h hφ
    cases hm : (ChildSlot.atDepth depth).get n with
    | none => rw [update_cons_of_none hm]
    | some m =>
      rw [update_cons_of_some hm]
      cases steps with
      | nil =>
        rw [follow_nil, follow_nil, Option.map_some, Option.map_some, hφ List.nil_prefix]
      | cons step rest =>
        obtain ⟨slot, other⟩ := step
        rw [follow_cons, follow_cons]
        by_cases hslot : slot = .atDepth depth
        · subst hslot
          rw [ChildSlot.get_set, hm, Option.bind_some, Option.bind_some]
          by_cases ho : other = id
          · subst ho
            rw [Keyed.get?_modify_self]
            cases Keyed.get? other m with
            | none => rfl
            | some c =>
              exact ih (depth + 1) c
                (fun hrest => h (List.cons_prefix_cons.mpr ⟨rfl, hrest⟩))
                (fun hrest => hφ (List.cons_prefix_cons.mpr ⟨rfl, hrest⟩))
          · rw [Keyed.get?_modify_of_ne ho]
        · rw [ChildSlot.get_set_of_ne hslot]

end Node

/-! ## 2. Places and paths -/

namespace Place

/-- The place that further steps lead to. -/
def extend (steps : List (ChildSlot × String)) : Place → Place
  | .underCourse steps' => .underCourse (steps' ++ steps)
  | .underSection id steps' => .underSection id (steps' ++ steps)

/-- The node at the place. -/
def resolve (t : Tree) : Place → Option Node
  | .underCourse steps => t.courseInfo.follow steps
  | .underSection id steps => (Keyed.get? id t.sections).bind (Node.follow steps)

theorem resolve_extend (t : Tree) (steps : List (ChildSlot × String)) (pl : Place) :
    (pl.extend steps).resolve t = (pl.resolve t).bind (Node.follow steps) := by
  cases pl with
  | underCourse steps' => exact Node.follow_append ..
  | underSection id steps' =>
    rw [extend, resolve, resolve, Option.bind_assoc, funext (Node.follow_append steps' steps)]

theorem extend_nil (pl : Place) : pl.extend [] = pl := by
  cases pl <;> rw [extend, List.append_nil]

/-- Whether the other place is the same or leads on from this one. -/
def contains : Place → Place → Bool
  | .underCourse steps, .underCourse steps' => steps.isPrefixOf steps'
  | .underSection id steps, .underSection id' steps' => id == id' && steps.isPrefixOf steps'
  | _, _ => false

theorem contains_iff {pl pl' : Place} : pl.contains pl' = true ↔ ∃ steps, pl' = pl.extend steps := by
  cases pl with
  | underCourse steps =>
    cases pl' with
    | underCourse steps' =>
      simp only [contains, extend, underCourse.injEq, List.isPrefixOf_iff_prefix]
      exact ⟨fun ⟨rest, h⟩ => ⟨rest, h.symm⟩, fun ⟨rest, h⟩ => ⟨rest, h.symm⟩⟩
    | underSection id' steps' => simp [contains, extend]
  | underSection id steps =>
    cases pl' with
    | underCourse steps' => simp [contains, extend]
    | underSection id' steps' =>
      simp only [contains, extend, underSection.injEq, Bool.and_eq_true, beq_iff_eq,
        List.isPrefixOf_iff_prefix]
      exact ⟨fun ⟨hid, rest, h⟩ => ⟨rest, hid.symm, h.symm⟩,
        fun ⟨rest, hid, h⟩ => ⟨hid.symm, rest, h.symm⟩⟩

/-- Further steps from the place below. -/
theorem extend_step (slot : ChildSlot) (id : String) (steps : List (ChildSlot × String)) (pl : Place) :
    (pl.step slot id).extend steps = pl.extend ((slot, id) :: steps) := by
  cases pl <;> rw [step, extend, extend, List.append_assoc, List.singleton_append]

/-- No place is below itself. -/
theorem ne_extend_cons (pl : Place) (step : ChildSlot × String) (rest : List (ChildSlot × String)) :
    pl ≠ pl.extend (step :: rest) := by
  cases pl <;> simp [extend]

end Place

namespace NodePath

/-- The place that the path names. -/
def place? : NodePath → Option Place
  | .courseInfo => some (.underCourse [])
  | .outline [] => none
  | .outline (id :: rest) => some (.underSection id (stepsAlong 1 rest))

/-- Whether the place is the one that the path names, or below it. -/
def covers (p : NodePath) (pl : Place) : Bool :=
  p.place?.any (·.contains pl)

/-- Whether the path comes by the place on its way down, before it ends. -/
def comesBy (p : NodePath) (pl : Place) : Bool :=
  p.place?.any fun own => pl.contains own && pl != own

variable {p : NodePath} {pl : Place}

/-- **The path leads to the node at the place that it names.** -/
theorem resolve_place (h : p.place? = some pl) (t : Tree) : p.resolve t = pl.resolve t := by
  match p, h with
  | .courseInfo, h => obtain rfl := Option.some.inj h; rfl
  | .outline (id :: rest), h =>
    obtain rfl := Option.some.inj h
    rw [resolve, Place.resolve, funext (Node.descend_eq_follow rest 1)]

theorem covers_iff : p.covers pl = true ↔ ∃ pl₀ steps, p.place? = some pl₀ ∧ pl = pl₀.extend steps := by
  rw [covers, Option.any_eq_true_iff_get]
  constructor
  · rintro ⟨h, hcontains⟩
    obtain ⟨steps, hsteps⟩ := Place.contains_iff.mp hcontains
    exact ⟨_, steps, (Option.some_get h).symm, hsteps⟩
  · rintro ⟨pl₀, steps, hp, rfl⟩
    simp only [hp, Option.get_some, Option.isSome_some, exists_const]
    exact Place.contains_iff.mpr ⟨steps, rfl⟩

theorem comesBy_iff : p.comesBy pl = true ↔ ∃ step rest, p.place? = some (pl.extend (step :: rest)) := by
  rw [comesBy, Option.any_eq_true]
  simp only [Bool.and_eq_true, bne_iff_ne, ne_eq, Place.contains_iff]
  constructor
  · rintro ⟨own, hown, ⟨steps, rfl⟩, hne⟩
    cases steps with
    | nil => exact absurd pl.extend_nil.symm hne
    | cons step rest => exact ⟨step, rest, hown⟩
  · rintro ⟨step, rest, hown⟩
    exact ⟨_, hown, ⟨step :: rest, rfl⟩, pl.ne_extend_cons step rest⟩

/-- The place that a path names is covered by it. -/
theorem covers_place (h : p.place? = some pl) : p.covers pl = true :=
  covers_iff.mpr ⟨pl, [], h, pl.extend_nil.symm⟩

end NodePath

/-- **An update seen from a place that the path does not cover.**  When the path comes by there, only
what does not look at maps is the same. -/
theorem Tree.map_resolve_update_apart {β : Type} {φ : Node → β} (t : Tree) {p : NodePath}
    (f : Node → Node) {pl : Place} (h : p.covers pl = false)
    (hφ : p.comesBy pl = true → ∀ (slot : ChildSlot) n m, φ (slot.set n m) = φ n) :
    (pl.resolve (t.update p f)).map φ = (pl.resolve t).map φ := by
  match p, pl, h, hφ with
  | .courseInfo, .underCourse steps, h, _ => cases h
  | .courseInfo, .underSection _ _, _, _ => rfl
  | .outline [], _, _, _ => rfl
  | .outline (_ :: _), .underCourse _, _, _ => rfl
  | .outline (id :: rest), .underSection id' steps, h, hφ =>
    rw [update, Place.resolve, Place.resolve]
    by_cases hid : id' = id
    · subst hid
      have hnot : ¬ stepsAlong 1 rest <+: steps := by
        rintro ⟨steps, rfl⟩
        have hcovers : (NodePath.outline (id' :: rest)).covers _ = true :=
          NodePath.covers_iff.mpr ⟨_, steps, rfl, rfl⟩
        exact Bool.false_ne_true (h.symm.trans hcovers)
      have hcomesBy : steps <+: stepsAlong 1 rest →
          (NodePath.outline (id' :: rest)).comesBy (.underSection id' steps) = true := by
        rintro ⟨below, hbelow⟩
        cases below with
        | nil => exact absurd ⟨[], by rw [← hbelow, List.append_nil, List.append_nil]⟩ hnot
        | cons step below =>
          exact NodePath.comesBy_iff.mpr ⟨step, below, by rw [NodePath.place?, ← hbelow]; rfl⟩
      rw [Keyed.get?_modify_self]
      cases Keyed.get? id' t.sections with
      | none => rfl
      | some s => exact Node.map_follow_update f 1 s hnot fun hsteps => hφ (hcomesBy hsteps)
    · rw [Keyed.get?_modify_of_ne hid]

/-- What does not look at maps is the same wherever the path does not cover. -/
theorem Tree.map_resolve_update_of_not_covers {β : Type} {φ : Node → β}
    (hφ : ∀ (slot : ChildSlot) n m, φ (slot.set n m) = φ n) (t : Tree) {p : NodePath} (f : Node → Node)
    {pl : Place} (h : p.covers pl = false) :
    (pl.resolve (t.update p f)).map φ = (pl.resolve t).map φ :=
  t.map_resolve_update_apart f h fun _ => hφ

/-! ## 3. Histories -/

/-- The other node is of the same block, and of its versions it is known what the function makes of
what was known. -/
structure Node.RecordedBy (record : String → VersionStatus → VersionStatus) (n n' : Node) : Prop where
  usageKey : n'.usageKey = n.usageKey
  history : n'.history = record n.usageKey n.history

/-- Whether an edit at the path reaches the node at the place. -/
def Edit.reaches (p : NodePath) (pl : Place) : Edit → Bool
  | .approve _ => p.covers pl
  | _ => p.place? == some pl

/-- What an edit at the path makes of the history of the node at the place. -/
def Edit.recordAt (p : NodePath) (pl : Place) (edit : Edit) (key : String) (vs : VersionStatus) :
    VersionStatus :=
  if edit.reaches p pl then edit.record key vs else vs

section Below

variable {p : NodePath} {pl : Place} {edit : Edit}

theorem Edit.recordAt_of_reaches (h : edit.reaches p pl = true) (key : String) (vs : VersionStatus) :
    edit.recordAt p pl key vs = edit.record key vs := by
  rw [recordAt, if_pos h]

theorem Edit.recordAt_of_not_reaches (h : edit.reaches p pl = false) (key : String)
    (vs : VersionStatus) : edit.recordAt p pl key vs = vs := by
  rw [recordAt, h, if_neg Bool.false_ne_true]

/-- An edit reaches the place that its path names. -/
theorem Edit.reaches_place (h : p.place? = some pl) : edit.reaches p pl = true := by
  cases edit with
  | approve patch => exact NodePath.covers_place h
  | _ => exact beq_iff_eq.mpr h

/-- It reaches nothing that its path does not cover. -/
theorem Edit.not_reaches_of_not_covers (edit : Edit) (h : p.covers pl = false) :
    edit.reaches p pl = false := by
  cases hreaches : edit.reaches p pl with
  | false => rfl
  | true =>
    cases edit with
    | approve patch => rw [← h]; exact hreaches.symm
    | _ =>
      rw [NodePath.covers_place (beq_iff_eq.mp hreaches)] at h
      cases h

/-- **Below the node edited** an approval records in every node, and no other edit in any.  Content may
only be put where there was none. -/
theorem Edit.history_below {New : Node → Prop} {c : Node}
    (hfill : ∀ content, edit = .fill content → c.units = none ∧
      ∀ id x steps y, Keyed.get? id content = some x → x.follow steps = some y → New y)
    (hp : p.place? = some pl) (step : ChildSlot × String) (rest : List (ChildSlot × String)) :
    Became (Node.RecordedBy (edit.recordAt p (pl.extend (step :: rest)))) New (c.follow (step :: rest))
      (((edit.revision c).node c).follow (step :: rest)) := by
  -- all but an approval reach the place of the path only
  have hquiet : (∀ patch, edit ≠ .approve patch) → ∀ n,
      Node.RecordedBy (edit.recordAt p (pl.extend (step :: rest))) n n := by
    intro hedit n
    have hreaches : edit.reaches p (pl.extend (step :: rest)) = false := by
      have hne : (p.place? == some (pl.extend (step :: rest))) = false := by
        rw [hp, beq_eq_false_iff_ne]
        exact fun h => pl.ne_extend_cons step rest (Option.some.inj h)
      cases edit with
      | approve patch => exact absurd rfl (hedit patch)
      | _ => exact hne
    exact ⟨rfl, (Edit.recordAt_of_not_reaches hreaches _ _).symm⟩
  have hkept : (∀ patch, edit ≠ .approve patch) →
      (∀ slot : ChildSlot, slot.get ((edit.revision c).node c) = slot.get c) →
        Became (Node.RecordedBy (edit.recordAt p (pl.extend (step :: rest)))) New
          (c.follow (step :: rest)) (((edit.revision c).node c).follow (step :: rest)) := by
    intro hedit hget
    rw [Node.follow_congr hget]
    exact .refl (hquiet hedit) _
  cases edit with
  | preview payload =>
    refine hkept (fun _ h => nomatch h) fun slot => ?_
    cases slot with
    | children => exact c.previewVersion_children payload
    | units => exact c.previewVersion_units payload
  | revert =>
    refine hkept (fun _ h => nomatch h) fun slot => ?_
    cases slot with
    | children => exact c.revertPreview_children
    | units => exact c.revertPreview_units
  | commit applied => exact hkept (fun _ h => nomatch h) fun slot => by cases slot <;> rfl
  | approve patch =>
    have hreaches : (Edit.approve patch).reaches p (pl.extend (step :: rest)) = true :=
      NodePath.covers_iff.mpr ⟨pl, step :: rest, hp, rfl⟩
    change Became _ _ _ (((c.foldApproval patch).node c).follow (step :: rest))
    rw [Node.follow_foldApproval]
    cases c.follow (step :: rest) with
    | none => exact .missing
    | some x =>
      obtain ⟨hkey, hhistory⟩ := x.history_foldApproval patch
      refine .stayed ⟨hkey, ?_⟩
      rw [hhistory, Edit.recordAt_of_reaches hreaches]
  | fill content =>
    obtain ⟨hunits, hnew⟩ := hfill content rfl
    obtain ⟨slot, id⟩ := step
    change Became _ _ _ (({ c with units := some content } : Node).follow ((slot, id) :: rest))
    cases slot with
    | children =>
      have hfollow : ({ c with units := some content } : Node).follow ((.children, id) :: rest) =
          c.follow ((.children, id) :: rest) := rfl
      rw [hfollow]
      exact .refl (hquiet fun _ h => nomatch h) _
    | units =>
      have hbefore : c.follow ((.units, id) :: rest) = none := by
        rw [Node.follow_cons, ChildSlot.get, hunits]; rfl
      have hafter : ({ c with units := some content } : Node).follow ((.units, id) :: rest) =
          (Keyed.get? id content).bind (Node.follow rest) := rfl
      rw [hbefore, hafter]
      cases hx : Keyed.get? id content with
      | none => exact .missing
      | some x =>
        rw [Option.bind_some]
        cases hy : x.follow rest with
        | none => exact .missing
        | some y => exact .entered (hnew id x rest y hx hy)

/-- **What an edit does to the history of the node at any place**: it is recorded in by an edit that
reaches the node, and no node is lost. -/
theorem Tree.history_edited {New : Node → Prop} {t : Tree} {r : TreeRevision}
    (hr : t.revise p edit.revision = .ok r)
    (hfill : ∀ content c, edit = .fill content → p.resolve t = some c → c.units = none ∧
      ∀ id x steps y, Keyed.get? id content = some x → x.follow steps = some y → New y)
    (pl : Place) :
    Became (Node.RecordedBy (edit.recordAt p pl)) New (pl.resolve t) (pl.resolve r.tree) := by
  cases hcovers : p.covers pl with
  | true =>
    obtain ⟨pl₀, steps, hp, rfl⟩ := NodePath.covers_iff.mp hcovers
    obtain ⟨c, hc, hc'⟩ := Tree.resolve_revise_self hr
    have hbefore : pl₀.resolve t = some c := (NodePath.resolve_place hp t).symm.trans hc
    have hafter : pl₀.resolve r.tree = some ((edit.revision c).node c) :=
      (NodePath.resolve_place hp r.tree).symm.trans hc'
    rw [Place.resolve_extend, Place.resolve_extend, hbefore, hafter, Option.bind_some,
      Option.bind_some]
    cases steps with
    | nil =>
      obtain ⟨hkey, hhistory⟩ := edit.history_revision c
      refine .stayed ⟨hkey, ?_⟩
      rw [hhistory, Place.extend_nil, Edit.recordAt_of_reaches (Edit.reaches_place hp)]
    | cons step rest => exact Edit.history_below (fun content he => hfill content c he hc) hp step rest
  | false =>
    have hsame := t.map_resolve_update_of_not_covers (φ := fun n => (n.usageKey, n.history))
      (fun slot _ _ => by cases slot <;> rfl) (fun n => (edit.revision n).node n) hcovers
    rw [← Tree.revise_eq_update hr] at hsame
    have hreaches := edit.not_reaches_of_not_covers hcovers
    cases hbefore : pl.resolve t with
    | none =>
      rw [hbefore, Option.map_none, Option.map_eq_none_iff] at hsame
      rw [hsame]
      exact .missing
    | some n =>
      rw [hbefore, Option.map_some] at hsame
      obtain ⟨n', hn', heq⟩ := Option.map_eq_some_iff.mp hsame
      obtain ⟨hkey, hhistory⟩ := Prod.mk.inj heq
      rw [hn']
      exact .stayed ⟨hkey, by rw [hhistory, Edit.recordAt_of_not_reaches hreaches]⟩

end Below

end CourseReview
