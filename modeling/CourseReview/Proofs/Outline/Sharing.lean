import CourseReview.Proofs.Outline.Answers
import CourseReview.Proofs.Outline.UniqueIds

/-!
# Which nodes are new

A reader of an outline tells what has changed by the nodes that are new: all others are the very nodes
that stood there before.  An update passes upwards, level by level, whether the node below was handed on,
and this file settles that no level gets it wrong.

* An update that makes a new node makes new just that node, with what it marks as new below, and the nodes
  that the path comes by on its way down; an update that hands the node on makes none
  (`Tree.mem_places_revise`).
* An approval makes new just the nodes that it names, or that have a node below them that it names
  (`Node.mem_places_foldApproval`).

`Tree.new_nodes_exact` puts this together, and says that a place with no new node holds what it held.
-/

namespace CourseReview

/-! ## 1. Places of new nodes -/

namespace Revision

/-- The marks of the entries of one map. -/
def entryMarks (slot : ChildSlot) : Revision → List Revision
  | .kept => []
  | .rebuilt _ cs us =>
    match slot with
    | .children => cs
    | .units => us

theorem placesBelow_eq (place : Place) (slot : ChildSlot) :
    ∀ (ids : List String) (rs : List Revision),
      placesBelow place slot ids rs = (ids.zip rs).flatMap fun e => e.2.places (place.step slot e.1)
  | [], _ => by rw [placesBelow]; rfl
  | _ :: _, [] => by rw [placesBelow]; rfl
  | id :: ids, r :: rs => by
    rw [placesBelow, placesBelow_eq place slot ids rs, List.zip_cons_cons, List.flatMap_cons]

/-- **The places of new nodes**: none when the node was handed on, else that of the node and those below
its two maps. -/
theorem mem_places {r : Revision} (old : Node) {place pl : Place} :
    pl ∈ r.places place ↔ r.isKept = false ∧
      (pl = place ∨ ∃ slot, ∃ e ∈ (ChildSlot.ids slot (r.node old)).zip (r.entryMarks slot),
        pl ∈ e.2.places (place.step slot e.1)) := by
  cases r with
  | kept => simp [places, isKept]
  | rebuilt n cs us =>
    rw [places, placesBelow_eq, placesBelow_eq, List.mem_append, List.mem_append, List.mem_singleton,
      List.mem_flatMap, List.mem_flatMap]
    constructor
    · rintro ((h | h) | h)
      · exact ⟨rfl, .inr ⟨.children, h⟩⟩
      · exact ⟨rfl, .inr ⟨.units, h⟩⟩
      · exact ⟨rfl, .inl h⟩
    · rintro ⟨-, h | ⟨slot, h⟩⟩
      · exact .inr h
      · cases slot with
        | children => exact .inl (.inl h)
        | units => exact .inl (.inr h)

theorem places_of_isKept {r : Revision} (h : r.isKept = true) (place : Place) : r.places place = [] := by
  cases r with
  | kept => rw [places]
  | rebuilt n cs us => cases h

/-- Of a new node over the same nodes, the place is its own. -/
theorem mem_places_renewed {n : Node} {place pl : Place} : pl ∈ (renewed n).places place ↔ pl = place := by
  rw [renewed, places, placesBelow_eq, placesBelow_eq, List.zip_nil_right, List.zip_nil_right,
    List.flatMap_nil, List.flatMap_nil, List.nil_append, List.nil_append, List.mem_singleton]

mutual

/-- New nodes are at the place or below it. -/
theorem extends_of_mem_places {place pl : Place} :
    ∀ {r : Revision}, pl ∈ r.places place → ∃ steps, pl = place.extend steps
  | .kept, h => by rw [places] at h; cases h
  | .rebuilt n cs us, h => by
    rw [places, List.mem_append, List.mem_append, List.mem_singleton] at h
    rcases h with (h | h) | rfl
    · exact extends_of_mem_placesBelow h
    · exact extends_of_mem_placesBelow h
    · exact ⟨[], pl.extend_nil.symm⟩

theorem extends_of_mem_placesBelow {place pl : Place} {slot : ChildSlot} :
    ∀ {ids : List String} {rs : List Revision}, pl ∈ placesBelow place slot ids rs →
      ∃ steps, pl = place.extend steps
  | [], _, h => by rw [placesBelow] at h; cases h
  | _ :: _, [], h => by rw [placesBelow] at h; cases h
  | id :: ids, r :: rs, h => by
    rw [placesBelow, List.mem_append] at h
    rcases h with h | h
    · obtain ⟨steps, rfl⟩ := extends_of_mem_places h
      exact ⟨(slot, id) :: steps, place.extend_step slot id steps⟩
    · exact extends_of_mem_placesBelow h

end

end Revision

/-- Of a map of which one entry was revised, the places are those of that entry. -/
theorem ChildMap.flatMap_zip_marks {g : String × Revision → List Place} (hkept : ∀ k, g (k, .kept) = [])
    {id : String} {r : Revision} :
    ∀ {m : ChildMap} {c : Node}, Keyed.get? id m = some c →
      ((Keyed.keys m).zip (marks id r m)).flatMap g = g (id, r)
  | [], _, hc => nomatch hc
  | (k, n) :: rest, c, hc => by
    rw [Keyed.get?] at hc
    rw [marks, Keyed.keys_cons]
    split at hc
    · rename_i hk
      rw [if_pos hk, hk, List.zip_cons_cons, List.zip_nil_right, List.flatMap_singleton]
    · rename_i hk
      rw [if_neg hk, List.zip_cons_cons, List.flatMap_cons, hkept, List.nil_append,
        flatMap_zip_marks hkept hc]

/-! ## 2. Updates at a path -/

/-- A new node with one entry of one of its maps revised: new are the node and what is new there. -/
theorem ChildSlot.mem_places_rebuild {slot : ChildSlot} {n c : Node} {id : String} {m : ChildMap}
    {r : Revision} (hc : Keyed.get? id m = some c) (c' : Node) {place pl : Place} :
    pl ∈ (slot.rebuild n (Keyed.put id c' m) (ChildMap.marks id r m)).places place ↔
      pl = place ∨ pl ∈ r.places (place.step slot id) := by
  have hids : slot.ids (slot.set n (Keyed.put id c' m)) = Keyed.keys m := by
    rw [ids, get_set, Option.elim_some, Keyed.keys_put_of_mem (Keyed.mem_keys_of_get? hc)]
  have hplaces : placesBelow place slot (Keyed.keys m) (ChildMap.marks id r m) =
      r.places (place.step slot id) := by
    rw [Revision.placesBelow_eq]
    exact ChildMap.flatMap_zip_marks (fun k => by rw [Revision.places]) hc
  have hnone : ∀ (slot' : ChildSlot) (ids : List String), placesBelow place slot' ids [] = [] := by
    intro slot' ids
    rw [Revision.placesBelow_eq, List.zip_nil_right, List.flatMap_nil]
  cases slot with
  | children =>
    rw [rebuild, Revision.places, hids, hplaces, hnone, List.append_nil, List.mem_append,
      List.mem_singleton, or_comm]
  | units =>
    rw [rebuild, Revision.places, hids, hplaces, hnone, List.nil_append, List.mem_append,
      List.mem_singleton, or_comm]

/-- **The new nodes of an update below a node** are those of the update itself and, if it makes any, the
nodes above, down from the first. -/
theorem Node.mem_places_revise {f : Node → Revision} :
    ∀ {ids : List String} {depth : Nat} {n : Node} {r : Revision}, n.revise f depth ids = some r →
      ∃ x, NodePath.descend depth ids n = some x ∧ r.isKept = (f x).isKept ∧
        ∀ place pl, pl ∈ r.places place ↔
          pl ∈ (f x).places (place.extend (stepsAlong depth ids)) ∨
          (f x).isKept = false ∧ ∃ above step rest,
            stepsAlong depth ids = above ++ step :: rest ∧ pl = place.extend above := by
  intro ids
  induction ids with
  | nil =>
    intro depth n r h
    rw [revise] at h
    obtain rfl := Option.some.inj h
    refine ⟨n, NodePath.descend_nil .., rfl, fun place pl => ?_⟩
    rw [stepsAlong, Place.extend_nil]
    refine (or_iff_left ?_).symm
    rintro ⟨-, above, step, rest, hsteps, -⟩
    exact List.cons_ne_nil _ _ (List.append_eq_nil_iff.mp hsteps.symm).2
  | cons id ids ih =>
    intro depth n r h
    obtain ⟨m, c, rc, hm, hc, hrc, -⟩ := revise_cons h
    obtain ⟨x, hx, hkept, hplaces⟩ := ih hrc
    refine ⟨x, NodePath.descend_cons_eq_some.mpr ⟨m, c, hm, hc, hx⟩, ?_⟩
    rw [revise] at h
    simp only [hm, hc, hrc] at h
    cases rc with
    | kept =>
      obtain rfl := Option.some.inj h
      refine ⟨hkept, fun place pl => ?_⟩
      have hx' : (f x).isKept = true := hkept.symm
      rw [Revision.places_of_isKept rfl, Revision.places_of_isKept hx', hx']
      simp
    | rebuilt c' cs us =>
      obtain rfl := Option.some.inj h
      have hx' : (f x).isKept = false := hkept.symm
      refine ⟨?_, fun place pl => ?_⟩
      · rw [hx']
        cases ChildSlot.atDepth depth <;> rfl
      rw [ChildSlot.mem_places_rebuild hc, hplaces, stepsAlong, Place.extend_step, hx']
      simp only [true_and]
      -- above the update are the node itself and what is above it from the entry on
      constructor
      · rintro (rfl | h | ⟨above, step, rest, hsteps, rfl⟩)
        · exact .inr ⟨[], _, _, rfl, pl.extend_nil.symm⟩
        · exact .inl h
        · exact .inr ⟨_ :: above, step, rest, congrArg (List.cons _) hsteps, place.extend_step ..⟩
      · rintro (h | ⟨above, step, rest, hsteps, rfl⟩)
        · exact .inr (.inl h)
        · cases above with
          | nil => exact .inl place.extend_nil
          | cons first above =>
            rw [List.cons_append, List.cons.injEq] at hsteps
            obtain ⟨rfl, hsteps⟩ := hsteps
            exact .inr (.inr ⟨above, step, rest, hsteps, (place.extend_step ..).symm⟩)

/-- **The new nodes of an update** are those of the update itself and, if it makes any, the nodes that the
path comes by. -/
theorem Tree.mem_places_revise {t : Tree} {p : NodePath} {f : Node → Revision} {r : TreeRevision}
    (h : t.revise p f = .ok r) :
    ∃ n own, p.resolve t = some n ∧ p.place? = some own ∧
      ∀ pl, pl ∈ r.places ↔
        pl ∈ (f n).places own ∨ (f n).isKept = false ∧ p.comesBy pl = true := by
  match p, h with
  | .courseInfo, h =>
    rw [revise] at h
    obtain rfl := Except.ok.inj h
    refine ⟨t.courseInfo, _, rfl, rfl, fun pl => ?_⟩
    have hcomesBy : ¬ NodePath.courseInfo.comesBy pl = true := by
      intro hpl
      obtain ⟨step, rest, hown⟩ := NodePath.comesBy_iff.mp hpl
      cases pl <;> simp [NodePath.place?, Place.extend] at hown
    simp [TreeRevision.places, hcomesBy]
  | .outline [], h => rw [revise] at h; cases h
  | .outline (id :: rest), h =>
    obtain ⟨s, rs, hs, hrs, -⟩ := revise_outline_cons h
    obtain ⟨n, hn, hkept, hplaces⟩ := Node.mem_places_revise hrs
    have hresolve : (NodePath.outline (id :: rest)).resolve t = some n := by
      rw [NodePath.resolve, hs, Option.bind_some, hn]
    -- the nodes above are those that the path comes by
    have habove : ∀ pl, (NodePath.outline (id :: rest)).comesBy pl = true ↔ ∃ above step below,
        stepsAlong 1 rest = above ++ step :: below ∧ pl = (Place.underSection id []).extend above := by
      intro pl
      rw [NodePath.comesBy_iff, NodePath.place?]
      constructor
      · rintro ⟨step, below, hown⟩
        cases pl with
        | underCourse steps => cases hown
        | underSection id' steps =>
          obtain ⟨rfl, hsteps⟩ := Place.underSection.inj (Option.some.inj hown)
          exact ⟨steps, step, below, hsteps, rfl⟩
      · rintro ⟨above, step, below, hsteps, rfl⟩
        exact ⟨step, below, by rw [hsteps]; rfl⟩
    refine ⟨n, .underSection id (stepsAlong 1 rest), hresolve, rfl, fun pl => ?_⟩
    rw [habove]
    refine Iff.trans ?_ (hplaces (.underSection id []) pl)
    rw [revise] at h
    simp only [hs, hrs] at h
    cases rs with
    | kept =>
      obtain rfl := Except.ok.inj h
      simp [TreeRevision.places, Revision.places]
    | rebuilt s' cs us =>
      obtain rfl := Except.ok.inj h
      have hzip := ChildMap.flatMap_zip_marks (r := .rebuilt s' cs us)
        (g := fun e => e.2.places (.underSection e.1 []))
        (fun k => by rw [Revision.places]) hs
      rw [TreeRevision.places, Keyed.keys_put_of_mem (Keyed.mem_keys_of_get? hs), Revision.places,
        List.nil_append]
      exact iff_of_eq (congrArg (pl ∈ ·) hzip)

/-! ## 3. Nodes that are named -/

namespace Node

theorem usageKeysEntries_eq : ∀ m : ChildMap, usageKeysEntries m = m.flatMap fun e => e.2.usageKeys
  | [] => by rw [usageKeysEntries]; rfl
  | (_, n) :: rest => by rw [usageKeysEntries, usageKeysEntries_eq rest, List.flatMap_cons]

theorem foldApprovalEntries_eq (q : ApprovalPatch) :
    ∀ m : ChildMap, foldApprovalEntries q m = m.map fun e => e.2.foldApproval q
  | [] => by rw [foldApprovalEntries]; rfl
  | (_, n) :: rest => by rw [foldApprovalEntries, foldApprovalEntries_eq q rest, List.map_cons]

/-- Rewriting that keeps the key of a node keeps those of all nodes. -/
theorem usageKeys_mapAll {f : Node → Node} (hf : OwnFields f)
    (hkey : ∀ x, (f x).usageKey = x.usageKey) (n : Node) : (n.mapAll f).usageKeys = n.usageKeys := by
  refine induction (motive := fun n => (n.mapAll f).usageKeys = n.usageKeys) (fun n ih => ?_) n
  have hmap : ∀ slot : ChildSlot, usageKeysMap (slot.get (n.mapAll f)) = usageKeysMap (slot.get n) := by
    intro slot
    rw [get_mapAll hf]
    cases hm : slot.get n with
    | none => rfl
    | some m =>
      rw [Option.map_some, usageKeysMap, usageKeysMap, mapAllEntries_eq, usageKeysEntries_eq,
        usageKeysEntries_eq, List.flatMap_map]
      exact List.flatMap_congr fun e he => ih slot m hm e he
  have hown : (n.mapAll f).usageKey = n.usageKey := by
    rw [mapAll_eq, hkey]
  have hchildren : usageKeysMap (n.mapAll f).children = usageKeysMap n.children := hmap .children
  have hunits : usageKeysMap (n.mapAll f).units = usageKeysMap n.units := hmap .units
  rw [usageKeys_eq, usageKeys_eq n, hown, hchildren, hunits]

/-- What steps lead to is there below the node. -/
theorem mem_usageKeys_of_follow {k : String} :
    ∀ {steps : List (ChildSlot × String)} {n x : Node}, n.follow steps = some x →
      k ∈ x.usageKeys → k ∈ n.usageKeys
  | [], _, _, hx, hk => Option.some.inj hx ▸ hk
  | (slot, id) :: rest, n, x, hx, hk => by
    obtain ⟨m, c, hm, hc, hx⟩ := follow_cons_eq_some.mp hx
    exact ChildSlot.mem_usageKeys hm (mem_usageKeysEntries_of_get? hc (mem_usageKeys_of_follow hx hk))

/-- Whether there is an answer for the block or for one below it, through both maps. -/
def isNamed (q : ApprovalPatch) (n : Node) : Bool :=
  n.usageKeys.any (Keyed.has · q)

variable {q : ApprovalPatch}

theorem isNamed_of_follow {steps : List (ChildSlot × String)} {n x : Node}
    (hx : n.follow steps = some x) (h : x.isNamed q = true) : n.isNamed q = true := by
  obtain ⟨k, hk, hhas⟩ := List.any_eq_true.mp h
  exact List.any_eq_true.mpr ⟨k, mem_usageKeys_of_follow hx hk, hhas⟩

/-- An approval does not change what is named. -/
theorem isNamed_foldApproval (q q' : ApprovalPatch) (n : Node) :
    ((n.foldApproval q').node n).isNamed q = n.isNamed q := by
  rw [foldApproval_eq_mapAll, isNamed, isNamed,
    usageKeys_mapAll (ownFields_recordAnswer q') (usageKey_recordAnswer q')]

/-! ## 4. Approvals -/

/-- **What an approval makes of a node**: it is handed on when there is no answer for it and all nodes in
its maps are handed on. -/
theorem foldApproval_eq (q : ApprovalPatch) (n : Node) :
    n.foldApproval q =
      if (Keyed.get? n.usageKey q).isNone && (foldApprovalMap q n.children).all Revision.isKept &&
        (foldApprovalMap q n.units).all Revision.isKept then .kept
      else .rebuilt ((n.foldApproval q).node n) (foldApprovalMap q n.children)
        (foldApprovalMap q n.units) := by
  obtain ⟨key, category, data, previous, status, versions, links, children, units⟩ := n
  rw [foldApproval]
  dsimp only
  split <;> rfl

/-- **A node is handed on exactly when nothing is named**, at it or below it. -/
theorem isKept_foldApproval (q : ApprovalPatch) (n : Node) :
    (n.foldApproval q).isKept = !n.isNamed q := by
  refine induction (motive := fun n => (n.foldApproval q).isKept = !n.isNamed q) (fun n ih => ?_) n
  have hmap : ∀ slot : ChildSlot, (foldApprovalMap q (slot.get n)).all Revision.isKept =
      !(usageKeysMap (slot.get n)).any (Keyed.has · q) := by
    intro slot
    cases hm : slot.get n with
    | none => rw [foldApprovalMap, usageKeysMap]; rfl
    | some m =>
      rw [foldApprovalMap, usageKeysMap, foldApprovalEntries_eq, usageKeysEntries_eq, List.all_map,
        List.any_flatMap, List.not_any_eq_all_not, Bool.eq_iff_iff, List.all_eq_true, List.all_eq_true]
      refine forall₂_congr fun e he => ?_
      rw [Function.comp_apply, ih slot m hm e he, isNamed]
  have hchildren : (foldApprovalMap q n.children).all Revision.isKept =
      !(usageKeysMap n.children).any (Keyed.has · q) := hmap .children
  have hunits : (foldApprovalMap q n.units).all Revision.isKept =
      !(usageKeysMap n.units).any (Keyed.has · q) := hmap .units
  rw [foldApproval_eq, isNamed, usageKeys_eq, List.any_cons, List.any_append, Bool.not_or, Bool.not_or,
    hchildren, hunits, Keyed.has, Option.not_isSome, ← Bool.and_assoc]
  split
  · rename_i h
    rw [h, Revision.isKept]
  · rename_i h
    rw [Bool.not_eq_true] at h
    rw [h, Revision.isKept]

theorem foldApproval_of_not_isNamed {n : Node} (h : n.isNamed q = false) :
    n.foldApproval q = .kept := by
  have hkept := n.isKept_foldApproval q
  rw [h, Bool.not_false] at hkept
  cases hr : n.foldApproval q with
  | kept => rfl
  | rebuilt n' cs us =>
    rw [hr] at hkept
    cases hkept

/-- The marks of either map are those of its entries. -/
theorem entryMarks_foldApproval {n : Node} (h : n.isNamed q = true) (slot : ChildSlot) :
    (n.foldApproval q).entryMarks slot = foldApprovalMap q (slot.get n) := by
  have hkept := n.isKept_foldApproval q
  rw [h, foldApproval_eq] at hkept
  rw [foldApproval_eq]
  split at hkept
  · cases hkept
  · rename_i hnot
    rw [if_neg hnot]
    cases slot <;> rfl

/-- An approval of a map: every entry with its mark. -/
theorem zip_foldApprovalEntries (q : ApprovalPatch) (m : ChildMap) :
    (Keyed.keys (m.revised (foldApprovalEntries q m))).zip (foldApprovalEntries q m) =
      m.map fun e => (e.1, e.2.foldApproval q) := by
  rw [ChildMap.keys_revised_foldApproval, Keyed.keys, foldApprovalEntries_eq, List.zip_map']

/-- **The new nodes of an approval** are those that are named, or have a named node below them. -/
theorem mem_places_foldApproval {n : Node} (h : n.UniqueIds) {place pl : Place} :
    pl ∈ (n.foldApproval q).places place ↔
      ∃ steps x, pl = place.extend steps ∧ n.follow steps = some x ∧ x.isNamed q = true := by
  revert place h
  refine induction (motive := fun n => ∀ (h : n.UniqueIds) {place : Place},
    pl ∈ (n.foldApproval q).places place ↔
      ∃ steps x, pl = place.extend steps ∧ n.follow steps = some x ∧ x.isNamed q = true)
    (fun n ih h place => ?_) n
  -- the entries of a map with their marks
  have hentry : ∀ {slot : ChildSlot} {e : String × Revision}, n.isNamed q = true →
      (e ∈ (slot.ids ((n.foldApproval q).node n)).zip ((n.foldApproval q).entryMarks slot) ↔
        ∃ m c, slot.get n = some m ∧ (e.1, c) ∈ m ∧ e.2 = c.foldApproval q) := by
    intro slot e hnamed
    rw [entryMarks_foldApproval hnamed, ChildSlot.ids, get_foldApproval]
    cases hm : slot.get n with
    | none => simp [foldApprovalMap]
    | some m =>
      rw [Option.map_some, Option.elim_some, foldApprovalMap, zip_foldApprovalEntries, List.mem_map]
      constructor
      · rintro ⟨e', he', rfl⟩
        exact ⟨m, e'.2, rfl, he', rfl⟩
      · rintro ⟨m', c, hm', hc, hmark⟩
        obtain rfl := Option.some.inj hm'
        exact ⟨(e.1, c), hc, Prod.ext rfl hmark.symm⟩
  rw [Revision.mem_places n, isKept_foldApproval, Bool.not_eq_false']
  constructor
  · rintro ⟨hnamed, rfl | ⟨slot, e, he, hpl⟩⟩
    · exact ⟨[], n, pl.extend_nil.symm, rfl, hnamed⟩
    · obtain ⟨m, c, hm, hc, hmark⟩ := (hentry hnamed).mp he
      rw [hmark] at hpl
      obtain ⟨steps, x, rfl, hx, hxnamed⟩ := (ih slot m hm (e.1, c) hc (h.below hm hc)).mp hpl
      exact ⟨(slot, e.1) :: steps, x, place.extend_step ..,
        follow_cons_eq_some.mpr ⟨m, c, hm, Keyed.Distinct.get?_of_mem (h.own hm) hc, hx⟩, hxnamed⟩
  · rintro ⟨steps, x, rfl, hx, hxnamed⟩
    have hnamed := isNamed_of_follow hx hxnamed
    refine ⟨hnamed, ?_⟩
    cases steps with
    | nil => exact .inl place.extend_nil
    | cons step rest =>
      obtain ⟨slot, id⟩ := step
      obtain ⟨m, c, hm, hc, hx⟩ := follow_cons_eq_some.mp hx
      have hmem := Keyed.mem_of_get? hc
      refine .inr ⟨slot, (id, c.foldApproval q), (hentry hnamed).mpr ⟨m, c, hm, hmem, rfl⟩, ?_⟩
      exact (ih slot m hm (id, c) hmem (h.below hm hmem)).mpr
        ⟨rest, x, (place.extend_step ..).symm, hx, hxnamed⟩

end Node

/-! ## 5. Whole outlines -/

namespace Tree

variable {t : Tree} {p : NodePath} {n : Node}

/-- Beside the path an update changes nothing at all. -/
theorem resolve_update_apart (t : Tree) (f : Node → Node) {pl : Place} (h : p.covers pl = false)
    (hpl : p.comesBy pl = false) : pl.resolve (t.update p f) = pl.resolve t := by
  have hsame := t.map_resolve_update_apart (φ := fun x : Node => x) f h fun hcomesBy => by
    rw [hpl] at hcomesBy
    cases hcomesBy
  rwa [Option.map_id', Option.map_id'] at hsame

/-- At the path and below it stands what the update made of the node there. -/
theorem resolve_update_extend {own : Place} (hn : p.resolve t = some n) (hown : p.place? = some own)
    (f : Node → Node) (steps : List (ChildSlot × String)) :
    (own.extend steps).resolve (t.update p f) = (f n).follow steps := by
  rw [Place.resolve_extend, ← NodePath.resolve_place hown, resolve_update_self, hn, Option.map_some,
    Option.bind_some]

/-- What is new in an outline after an update at a path that leads to the node `n`, if the update made
that of it. -/
structure NewAfterUpdate (t : Tree) (p : NodePath) (n : Node) (own : Place) (made : Revision)
    (r : TreeRevision) : Prop where
  /-- Nothing when the node is handed on. -/
  handedOn : made = .kept → r.places = [] ∧ r.tree = t
  /-- A new node over the same nodes, and the nodes that the path comes by, from the section on. -/
  renewed : ∀ n', made = .renewed n' → ∀ pl, pl ∈ r.places ↔ pl = own ∨ p.comesBy pl = true
  /-- With any other new node also what is marked as new below it. -/
  rebuilt : made ≠ .kept → ∀ pl, pl ∈ r.places ↔ pl ∈ made.places own ∨ p.comesBy pl = true
  /-- At the path and below it stands what was made there. -/
  below : ∀ steps, (own.extend steps).resolve r.tree = (made.node n).follow steps
  /-- Beside the path every node is the one that stood there. -/
  beside : ∀ pl, p.covers pl = false → p.comesBy pl = false →
    pl ∉ r.places ∧ pl.resolve r.tree = pl.resolve t

/-- What is new in an outline after an approval at a path. -/
structure NewAfterApproval (t : Tree) (p : NodePath) (q : ApprovalPatch) (r : TreeRevision) : Prop where
  /-- The nodes at or below the path with an answer for them or for a node below them, and if there are
  any, the nodes that the path comes by. -/
  new_iff : ∀ pl x, pl.resolve r.tree = some x →
    (pl ∈ r.places ↔ (p.covers pl = true ∧ x.isNamed q = true) ∨
      (p.comesBy pl = true ∧ ∃ pl' x', p.covers pl' = true ∧ pl'.resolve r.tree = some x' ∧
        x'.isNamed q = true))
  /-- There is a node at every place that is new. -/
  there : ∀ pl ∈ r.places, ∃ x, pl.resolve r.tree = some x
  /-- At all others stands the node that stood there. -/
  same : ∀ pl, pl ∉ r.places → pl.resolve r.tree = pl.resolve t

/-- **What is new after an update.** -/
theorem newAfterUpdate_of_revise (hn : p.resolve t = some n) {f : Node → Revision} {r : TreeRevision}
    (hr : t.revise p f = .ok r) :
    ∃ own, p.place? = some own ∧ t.NewAfterUpdate p n own (f n) r := by
  obtain ⟨n', own, hn', hown, hplaces⟩ := mem_places_revise hr
  obtain rfl := Option.some.inj (hn.symm.trans hn')
  have htree := revise_eq_update hr
  have hrebuilt : f n ≠ .kept → ∀ pl, pl ∈ r.places ↔
      pl ∈ (f n).places own ∨ p.comesBy pl = true := by
    intro hne pl
    have hkept : (f n).isKept = false := by
      cases hf : f n with
      | kept => exact absurd hf hne
      | rebuilt n' cs us => rfl
    rw [hplaces, hkept, eq_self_iff_true, true_and]
  refine ⟨own, hown, fun hkept => ⟨?_, ?_⟩, fun n' hrenewed pl => ?_, hrebuilt, fun steps => ?_,
    fun pl hcovers hcomesBy => ⟨fun hpl => ?_, ?_⟩⟩
  · refine List.eq_nil_iff_forall_not_mem.mpr fun pl hpl => ?_
    rw [hplaces, hkept, Revision.places_of_isKept rfl] at hpl
    rcases hpl with hpl | ⟨hpl, -⟩ <;> cases hpl
  · rw [htree]
    refine update_eq_self fun x hx => ?_
    obtain rfl := Option.some.inj (hn.symm.trans hx)
    rw [hkept, Revision.node_kept]
  · rw [hrebuilt (by rw [hrenewed]; exact fun h => nomatch h), hrenewed, Revision.mem_places_renewed]
  · rw [htree, resolve_update_extend hn hown]
  · rw [hplaces] at hpl
    rcases hpl with hpl | ⟨-, hpl⟩
    · obtain ⟨steps, rfl⟩ := Revision.extends_of_mem_places hpl
      rw [NodePath.covers_iff.mpr ⟨own, steps, hown, rfl⟩] at hcovers
      cases hcovers
    · rw [hcomesBy] at hpl
      cases hpl
  · rw [htree]
    exact t.resolve_update_apart _ hcovers hcomesBy

section Approved

variable {q : ApprovalPatch} {r : TreeRevision} {own : Place}

/-- After an approval every node at or below the path stands where it stood, approved in its turn. -/
theorem resolve_approve_extend (hn : p.resolve t = some n) (hown : p.place? = some own)
    (hr : t.approve p q = .ok r) (steps : List (ChildSlot × String)) :
    (own.extend steps).resolve r.tree =
      (n.follow steps).map fun x => (x.foldApproval q).node x := by
  rw [revise_eq_update hr, resolve_update_extend hn hown, Node.follow_foldApproval]

/-- The new nodes of the approval itself, as they are found in the outline. -/
theorem mem_places_foldApproval_iff (ht : t.UniqueIds) (hn : p.resolve t = some n)
    (hown : p.place? = some own) (hr : t.approve p q = .ok r) {pl : Place} :
    pl ∈ (n.foldApproval q).places own ↔
      ∃ x, p.covers pl = true ∧ pl.resolve r.tree = some x ∧ x.isNamed q = true := by
  rw [Node.mem_places_foldApproval (ht.resolve hn)]
  constructor
  · rintro ⟨steps, x, rfl, hx, hnamed⟩
    refine ⟨(x.foldApproval q).node x, NodePath.covers_iff.mpr ⟨own, steps, hown, rfl⟩, ?_, ?_⟩
    · rw [resolve_approve_extend hn hown hr, hx, Option.map_some]
    · rw [Node.isNamed_foldApproval, hnamed]
  · rintro ⟨x', hcovers, hx', hnamed⟩
    obtain ⟨own', steps, hown', rfl⟩ := NodePath.covers_iff.mp hcovers
    obtain rfl := Option.some.inj (hown.symm.trans hown')
    rw [resolve_approve_extend hn hown hr] at hx'
    obtain ⟨x, hx, rfl⟩ := Option.map_eq_some_iff.mp hx'
    rw [Node.isNamed_foldApproval] at hnamed
    exact ⟨steps, x, rfl, hx, hnamed⟩

/-- Whether anything is named can be told from the outline. -/
theorem isNamed_iff_exists_place (ht : t.UniqueIds) (hn : p.resolve t = some n)
    (hr : t.approve p q = .ok r) :
    n.isNamed q = true ↔
      ∃ pl x, p.covers pl = true ∧ pl.resolve r.tree = some x ∧ x.isNamed q = true := by
  obtain ⟨-, own, -, hown, -⟩ := mem_places_revise hr
  have hids := ht.resolve hn
  constructor
  · intro hnamed
    refine ⟨own, (mem_places_foldApproval_iff ht hn hown hr).mp ?_⟩
    exact (Node.mem_places_foldApproval hids).mpr ⟨[], n, own.extend_nil.symm, rfl, hnamed⟩
  · rintro ⟨pl, hpl⟩
    obtain ⟨steps, x, -, hx, hnamed⟩ := (Node.mem_places_foldApproval hids).mp
      ((mem_places_foldApproval_iff ht hn hown hr).mpr hpl)
    exact Node.isNamed_of_follow hx hnamed

/-- **What is new after an approval.** -/
theorem newAfterApproval_of_approve (ht : t.UniqueIds) (hn : p.resolve t = some n)
    (hr : t.approve p q = .ok r) : t.NewAfterApproval p q r := by
  obtain ⟨n', own, hn', hown, hplaces⟩ := mem_places_revise hr
  obtain rfl := Option.some.inj (hn.symm.trans hn')
  obtain ⟨own', hown', hupdate⟩ := newAfterUpdate_of_revise hn hr
  obtain rfl := Option.some.inj (hown.symm.trans hown')
  refine ⟨fun pl x hx => ?_, fun pl hpl => ?_, fun pl hpl => ?_⟩
  · rw [hplaces, mem_places_foldApproval_iff ht hn hown hr, Node.isKept_foldApproval,
      Bool.not_eq_false', isNamed_iff_exists_place ht hn hr, and_comm (b := p.comesBy pl = true), hx]
    simp only [Option.some.injEq, exists_eq_left', exists_and_left]
  · rw [hplaces, mem_places_foldApproval_iff ht hn hown hr] at hpl
    rcases hpl with ⟨x, -, hx, -⟩ | ⟨-, hcomesBy⟩
    · exact ⟨x, hx⟩
    · -- the path would not lead further without a node there
      obtain ⟨step, rest, hown'⟩ := NodePath.comesBy_iff.mp hcomesBy
      obtain rfl := Option.some.inj (hown.symm.trans hown')
      have hx := hupdate.below []
      rw [Place.extend_nil, Place.resolve_extend, Node.follow_nil, Option.bind_eq_some_iff] at hx
      obtain ⟨x, hx, -⟩ := hx
      exact ⟨x, hx⟩
  · cases hcovers : p.covers pl with
    | true =>
      obtain ⟨own', steps, hown', rfl⟩ := NodePath.covers_iff.mp hcovers
      obtain rfl := Option.some.inj (hown.symm.trans hown')
      rw [resolve_approve_extend hn hown hr, Place.resolve_extend, ← NodePath.resolve_place hown, hn,
        Option.bind_some]
      cases hx : n.follow steps with
      | none => rfl
      | some x =>
        have hnot : x.isNamed q = false := by
          refine Bool.eq_false_iff.mpr fun hnamed => hpl ?_
          rw [hplaces, Node.mem_places_foldApproval (ht.resolve hn)]
          exact .inl ⟨steps, x, rfl, hx, hnamed⟩
        rw [Option.map_some, Node.foldApproval_of_not_isNamed hnot, Revision.node_kept]
    | false =>
      cases hcomesBy : p.comesBy pl with
      | false => exact (hupdate.beside pl hcovers hcomesBy).2
      | true =>
        have hnot : n.isNamed q = false := by
          refine Bool.eq_false_iff.mpr fun hnamed => hpl ?_
          rw [hplaces, Node.isKept_foldApproval, hnamed, hcomesBy]
          exact .inr ⟨rfl, rfl⟩
        rw [(hupdate.handedOn (Node.foldApproval_of_not_isNamed hnot)).2]

end Approved

/-- **Just the nodes that have to be are new.**  Let a path lead to a node, in any outline.

* After an approval at the path, a node is new if and only if it stands at or below the path and there is
  an answer for it or for a node below it, through either map, or the path comes by it and there is such a
  node at or below the path.
* After an update that hands the node on, no node is new; after one that makes a new node, new are that
  node, what it marks as new below, and the nodes that the path comes by.

Where no node is new stands the node that stood there. -/
theorem new_nodes_exact (hn : p.resolve t = some n) :
    (t.UniqueIds → ∀ q, ∃ r, t.approve p q = .ok r ∧ t.NewAfterApproval p q r) ∧
    ∀ f, ∃ r own, t.revise p f = .ok r ∧ p.place? = some own ∧
      t.NewAfterUpdate p n own (f n) r := by
  refine ⟨fun ht q => ?_, fun f => ?_⟩
  · obtain ⟨r, hr⟩ := exists_revise_of_resolve hn (Node.foldApproval q)
    exact ⟨r, hr, newAfterApproval_of_approve ht hn hr⟩
  · obtain ⟨r, hr⟩ := exists_revise_of_resolve hn f
    obtain ⟨own, hown, hupdate⟩ := newAfterUpdate_of_revise hn hr
    exact ⟨r, own, hr, hown, hupdate⟩

end Tree

namespace Sample

/-- An outline with a unit that has two pieces of content. -/
def oneToAnswer : Tree :=
  unitTree none (some [("C1", content), ("C2", .ofBlock "video" "video")])

end Sample

open Sample in
/-- Of two pieces of content one is answered.  It is new, and so is the section above it; the other is not,
and neither is the course's own node.  When the unit is named anew, no content is new. -/
theorem Tree.new_nodes_exact_oneToAnswer :
    oneToAnswer.UniqueIds ∧
    (∃ r, oneToAnswer.approve unitPath sharedAnswer = .ok r ∧
      .underSection "S1" [(.children, "Q1"), (.children, "U1"), (.units, "C1")] ∈ r.places ∧
      .underSection "S1" [(.children, "Q1"), (.children, "U1"), (.units, "C2")] ∉ r.places ∧
      .underSection "S1" [] ∈ r.places ∧ .underCourse [] ∉ r.places) ∧
    ∃ r, oneToAnswer.revise unitPath (named "Unit") = .ok r ∧
      .underSection "S1" [(.children, "Q1"), (.children, "U1")] ∈ r.places ∧
      .underSection "S1" [(.children, "Q1"), (.children, "U1"), (.units, "C1")] ∉ r.places := by
  have hids : oneToAnswer.UniqueIds := by decide
  obtain ⟨happrove, hrevise⟩ := new_nodes_exact (t := oneToAnswer) (p := unitPath) rfl
  obtain ⟨r, hr, hnew, -, -⟩ := happrove hids sharedAnswer
  obtain ⟨r', own, hr', hown, -, hrenewed, -⟩ := hrevise (named "Unit")
  obtain rfl := Option.some.inj hown
  obtain rfl := Except.ok.inj hr
  refine ⟨hids, ⟨_, rfl, ?_, ?_, ?_, ?_⟩, r', hr', ?_, ?_⟩
  · exact (hnew _ _ rfl).mpr (.inl ⟨by decide, by decide⟩)
  · rw [hnew _ _ rfl]
    rintro (⟨-, hnamed⟩ | ⟨hcomesBy, -⟩)
    · exact absurd hnamed (by decide)
    · exact absurd hcomesBy (by decide)
  · exact (hnew _ _ rfl).mpr (.inr ⟨by decide,
      .underSection "S1" [(.children, "Q1"), (.children, "U1"), (.units, "C1")], _, by decide, rfl,
      by decide⟩)
  · rw [hnew _ _ rfl]
    rintro (⟨hcovers, -⟩ | ⟨hcomesBy, -⟩)
    · exact absurd hcovers (by decide)
    · exact absurd hcomesBy (by decide)
  · exact (hrenewed _ rfl _).mpr (.inl rfl)
  · rw [hrenewed _ rfl]
    decide

end CourseReview
