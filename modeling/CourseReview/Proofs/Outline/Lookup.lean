import CourseReview.Outline.Revision

/-!
# Looking up after an update

Following a path and updating at a path descend separately: `NodePath.resolve` steps through the
maps, `Tree.revise` rebuilds them on its way back.  This file settles that they agree.

* The path updated leads to what the update made of the node there (`Tree.resolve_revise_self`).
* Every other path leads where it led, to a node that differs at most in what is below it
  (`Tree.resolve_revise_of_ne`).

The second law is stated for an arbitrary relation between a node and what became of it, so that
one induction serves every property of single nodes: a relation qualifies when it does not look at
the nodes below (`IgnoresBelow`), and the caller answers for the places strictly below the path,
since those are in the hands of the update itself.  There nodes may also be new (`Became`).
-/

namespace CourseReview

/-! ## 1. Entries of a map -/

namespace Keyed

variable {α : Type}

/-- A key that is found is among the keys. -/
theorem mem_keys_of_get? {key : String} {v : α} {m : Keyed α} (h : get? key m = some v) :
    key ∈ keys m :=
  get?_isSome_iff.mp (by rw [h]; rfl)

/-- Writing a value where it already stands changes nothing. -/
theorem put_of_get? {key : String} {v : α} :
    ∀ {m : Keyed α}, get? key m = some v → put key v m = m
  | [], h => absurd h (by simp)
  | (k, w) :: rest, h => by
    rw [get?] at h
    rw [put]
    split at h
    · rename_i hk
      rw [if_pos hk, hk, Option.some.inj h]
    · rename_i hk
      rw [if_neg hk, put_of_get? h]

end Keyed

/-- Putting back the map that is there changes nothing. -/
theorem ChildSlot.set_get {slot : ChildSlot} {n : Node} {m : ChildMap}
    (h : slot.get n = some m) : slot.set n m = n := by
  cases n with
  | mk key category data previous status versions links children units =>
    cases slot with
    | children =>
      have hm : children = some m := h
      rw [hm]; rfl
    | units =>
      have hm : units = some m := h
      rw [hm]; rfl

/-! ## 2. Following ids -/

namespace NodePath

@[simp] theorem descend_nil (depth : Nat) (n : Node) : descend depth [] n = some n := by
  rw [descend]

/-- One step down: through the map of the depth, to the node under the first id. -/
theorem descend_cons (depth : Nat) (id : String) (rest : List String) (n : Node) :
    descend depth (id :: rest) n =
      ((ChildSlot.atDepth depth).get n).bind fun m =>
        (Keyed.get? id m).bind (descend (depth + 1) rest) := by
  rw [descend]
  cases (ChildSlot.atDepth depth).get n with
  | none => rfl
  | some m => cases hc : Keyed.get? id m <;> simp only [hc, Option.bind_some, Option.bind_none]

theorem descend_cons_eq_some {depth : Nat} {id : String} {rest : List String} {n x : Node} :
    descend depth (id :: rest) n = some x ↔
      ∃ m c, (ChildSlot.atDepth depth).get n = some m ∧ Keyed.get? id m = some c ∧
        descend (depth + 1) rest c = some x := by
  simp only [descend_cons, Option.bind_eq_some_iff]
  constructor
  · rintro ⟨m, hm, c, hc, hx⟩
    exact ⟨m, c, hm, hc, hx⟩
  · rintro ⟨m, c, hm, hc, hx⟩
    exact ⟨m, hm, c, hc, hx⟩

/-- Following ids in two stretches. -/
theorem descend_append (ids rest : List String) :
    ∀ (depth : Nat) (n : Node),
      descend depth (ids ++ rest) n =
        (descend depth ids n).bind (descend (depth + ids.length) rest) := by
  induction ids with
  | nil => intro depth n; simp
  | cons id ids ih =>
    intro depth n
    have hd : depth + (id :: ids).length = depth + 1 + ids.length := by
      rw [List.length_cons]; omega
    rw [List.cons_append, descend_cons, descend_cons, hd, Option.bind_assoc]
    congr 1
    funext m
    rw [Option.bind_assoc]
    congr 1
    funext c
    exact ih (depth + 1) c

/-- The last stretch of a path starts at the node that the first leads to. -/
theorem resolve_append {ids : List String} (h : ids ≠ []) (rest : List String) (t : Tree) :
    (outline (ids ++ rest)).resolve t =
      ((outline ids).resolve t).bind (descend ids.length rest) := by
  cases ids with
  | nil => exact absurd rfl h
  | cons id ids =>
    have hd : (id :: ids).length = 1 + ids.length := by rw [List.length_cons]; omega
    rw [List.cons_append, resolve, resolve, hd, Option.bind_assoc]
    congr 1
    funext s
    exact descend_append ids rest 1 s

/-- One outline path contains another when its ids come first. -/
theorem contains_outline_iff {mine theirs : List String} :
    (outline mine).contains (outline theirs) = true ↔ mine <+: theirs := by
  rw [contains, List.isPrefixOf_iff_prefix]

theorem contains_refl (p : NodePath) : p.contains p = true := by
  cases p with
  | courseInfo => rfl
  | outline ids => exact contains_outline_iff.mpr (List.prefix_refl ids)

/-- A path below another differs from it by the ids that it adds. -/
theorem contains_cases {p q : NodePath} (h : p.contains q = true) :
    (p = courseInfo ∧ q = courseInfo) ∨
      ∃ ids rest, p = outline ids ∧ q = outline (ids ++ rest) := by
  cases p with
  | courseInfo =>
    cases q with
    | courseInfo => exact Or.inl ⟨rfl, rfl⟩
    | outline _ => exact absurd h (by simp [contains])
  | outline mine =>
    cases q with
    | courseInfo => exact absurd h (by simp [contains])
    | outline theirs =>
      obtain ⟨rest, rfl⟩ := contains_outline_iff.mp h
      exact Or.inr ⟨mine, rest, rfl, rfl⟩

end NodePath

/-! ## 3. What an update does on its way -/

/-- **One step of an update.**  Whether the node below was handed on or rebuilt, afterwards the
node above holds it under the same id of the same map. -/
theorem Node.revise_cons {f : Node → Revision} {depth : Nat} {id : String} {rest : List String}
    {n : Node} {r : Revision} (h : Node.revise f depth (id :: rest) n = some r) :
    ∃ m c rc, (ChildSlot.atDepth depth).get n = some m ∧ Keyed.get? id m = some c ∧
      Node.revise f (depth + 1) rest c = some rc ∧
      r.node n = (ChildSlot.atDepth depth).set n (Keyed.put id (rc.node c) m) := by
  rw [Node.revise] at h
  cases hm : (ChildSlot.atDepth depth).get n with
  | none => simp only [hm] at h; cases h
  | some m =>
    simp only [hm] at h
    cases hc : Keyed.get? id m with
    | none => simp only [hc] at h; cases h
    | some c =>
      simp only [hc] at h
      cases hrc : Node.revise f (depth + 1) rest c with
      | none => simp only [hrc] at h; cases h
      | some rc =>
        refine ⟨m, c, rc, rfl, hc, hrc, ?_⟩
        cases rc with
        | kept =>
          simp only [hrc] at h
          obtain rfl := Option.some.inj h
          rw [Revision.node_kept, Revision.node_kept, Keyed.put_of_get? hc, ChildSlot.set_get hm]
        | rebuilt c' cs us =>
          simp only [hrc] at h
          obtain rfl := Option.some.inj h
          cases hs : ChildSlot.atDepth depth <;> rfl

/-- An update reaches every node that ids lead to. -/
theorem Node.exists_revise_of_descend (f : Node → Revision) :
    ∀ {ids : List String} {depth : Nat} {n x : Node},
      NodePath.descend depth ids n = some x → ∃ r, Node.revise f depth ids n = some r := by
  intro ids
  induction ids with
  | nil =>
    intro depth n x _
    exact ⟨f n, by rw [Node.revise]⟩
  | cons id rest ih =>
    intro depth n x h
    obtain ⟨m, c, hm, hc, hx⟩ := NodePath.descend_cons_eq_some.mp h
    obtain ⟨rc, hrc⟩ := ih hx
    rw [Node.revise]
    simp only [hm, hc, hrc]
    cases rc with
    | kept => exact ⟨_, rfl⟩
    | rebuilt c' cs us => exact ⟨_, rfl⟩

/-- Where an update has reached, the ids lead to what it made of the node there. -/
theorem Node.descend_revise_self {f : Node → Revision} :
    ∀ {ids : List String} {depth : Nat} {n : Node} {r : Revision},
      Node.revise f depth ids n = some r →
        ∃ x, NodePath.descend depth ids n = some x ∧
          NodePath.descend depth ids (r.node n) = some ((f x).node x) := by
  intro ids
  induction ids with
  | nil =>
    intro depth n r h
    rw [Node.revise] at h
    obtain rfl := Option.some.inj h
    exact ⟨n, by simp, by simp⟩
  | cons id rest ih =>
    intro depth n r h
    obtain ⟨m, c, rc, hm, hc, hrc, hnode⟩ := Node.revise_cons h
    obtain ⟨x, hx, hx'⟩ := ih hrc
    refine ⟨x, NodePath.descend_cons_eq_some.mpr ⟨m, c, hm, hc, hx⟩, ?_⟩
    rw [hnode]
    exact NodePath.descend_cons_eq_some.mpr
      ⟨_, _, ChildSlot.get_set _ _ _, Keyed.get?_put_self _ _ _, hx'⟩

/-! ## 4. Every other path -/

/-- A relation between a node and what became of it that does not look at the nodes below: a node
is related to itself, and to every copy that has other nodes under the same ids of one map. -/
structure IgnoresBelow (R : Node → Node → Prop) : Prop where
  refl : ∀ n, R n n
  set : ∀ (slot : ChildSlot) (n : Node) (m m' : ChildMap), slot.get n = some m →
    Keyed.keys m' = Keyed.keys m → R n (slot.set n m')

/-- What became of the place that a path names: the node there is related to the one that was
there, or is one of the new ones, or there is none as before.  No node is lost. -/
inductive Became (R : Node → Node → Prop) (New : Node → Prop) : Option Node → Option Node → Prop where
  | stayed {x x' : Node} (h : R x x') : Became R New (some x) (some x')
  | entered {x' : Node} (h : New x') : Became R New none (some x')
  | missing : Became R New none none

theorem Became.refl {R : Node → Node → Prop} (hR : ∀ n, R n n) {New : Node → Prop} :
    ∀ o : Option Node, Became R New o o
  | none => .missing
  | some x => .stayed (hR x)

/-- A node that was there still is. -/
theorem Became.of_some {R : Node → Node → Prop} {New : Node → Prop} {x : Node} {o : Option Node}
    (h : Became R New (some x) o) : ∃ x', o = some x' ∧ R x x' := by
  cases h with
  | stayed hx => exact ⟨_, rfl, hx⟩

/-- What an update makes of a node is, for the places strictly below, within a relation. -/
def Revision.RelatesBelow (R : Node → Node → Prop) (New : Node → Prop) (depth : Nat) (r : Revision)
    (n : Node) : Prop :=
  ∀ id rest, Became R New (NodePath.descend depth (id :: rest) n)
    (NodePath.descend depth (id :: rest) (r.node n))

/-- **Away from the ids updated.**  Above, a node has the new node somewhere below it; beside, it
is the same; below, the update answers for it. -/
theorem Node.descend_revise_of_ne {R : Node → Node → Prop} (hR : IgnoresBelow R)
    {New : Node → Prop} {f : Node → Revision} :
    ∀ {ids : List String} {depth : Nat} {n : Node} {r : Revision} {others : List String},
      Node.revise f depth ids n = some r →
      (∀ e, NodePath.descend depth ids n = some e → ids <+: others →
        (f e).RelatesBelow R New (depth + ids.length) e) →
      others ≠ ids →
        Became R New (NodePath.descend depth others n) (NodePath.descend depth others (r.node n)) := by
  intro ids
  induction ids with
  | nil =>
    intro depth n r others h hf hne
    rw [Node.revise] at h
    obtain rfl := Option.some.inj h
    cases others with
    | nil => exact absurd rfl hne
    | cons id rest => exact hf n (by simp) List.nil_prefix id rest
  | cons id rest ih =>
    intro depth n r others h hf hne
    obtain ⟨m, c, rc, hm, hc, hrc, hnode⟩ := Node.revise_cons h
    rw [hnode]
    cases others with
    | nil =>
      -- above: only the map on the way has changed, and its keys have not
      rw [NodePath.descend_nil, NodePath.descend_nil]
      exact .stayed (hR.set _ _ m _ hm (Keyed.keys_put_of_mem (Keyed.mem_keys_of_get? hc)))
    | cons other others =>
      rw [NodePath.descend_cons, NodePath.descend_cons, hm, ChildSlot.get_set, Option.bind_some,
        Option.bind_some]
      by_cases ho : other = id
      · subst ho
        rw [hc, Keyed.get?_put_self, Option.bind_some, Option.bind_some]
        refine ih hrc (fun e he hpre => ?_) fun e => hne (by rw [e])
        have hd : depth + 1 + rest.length = depth + (other :: rest).length := by
          rw [List.length_cons]; omega
        rw [hd]
        exact hf e (NodePath.descend_cons_eq_some.mpr ⟨m, c, hm, hc, he⟩)
          (List.cons_prefix_cons.mpr ⟨rfl, hpre⟩)
      · rw [Keyed.get?_put_of_ne ho]
        exact .refl hR.refl _

/-! ## 5. The same for whole outlines -/

namespace Tree

/-- **One step of an update, at the sections.**  Whether the section was handed on or rebuilt,
afterwards the outline holds it under the same id. -/
theorem revise_outline_cons {t : Tree} {id : String} {rest : List String} {f : Node → Revision}
    {r : TreeRevision} (h : t.revise (.outline (id :: rest)) f = .ok r) :
    ∃ s rs, Keyed.get? id t.sections = some s ∧ s.revise f 1 rest = some rs ∧
      r.tree = { t with sections := Keyed.put id (rs.node s) t.sections } := by
  rw [revise] at h
  cases hs : Keyed.get? id t.sections with
  | none => simp only [hs] at h; cases h
  | some s =>
    simp only [hs] at h
    cases hrs : s.revise f 1 rest with
    | none => simp only [hrs] at h; cases h
    | some rs =>
      refine ⟨s, rs, rfl, hrs, ?_⟩
      cases rs with
      | kept =>
        simp only [hrs] at h
        obtain rfl := Except.ok.inj h
        rw [Revision.node_kept, Keyed.put_of_get? hs]
      | rebuilt s' cs us =>
        simp only [hrs] at h
        obtain rfl := Except.ok.inj h
        rfl

/-- An update reaches every path that leads somewhere. -/
theorem exists_revise_of_resolve {t : Tree} {p : NodePath} {n : Node} (h : p.resolve t = some n)
    (f : Node → Revision) : ∃ r, t.revise p f = .ok r := by
  match p, h with
  | .courseInfo, _ => exact ⟨_, rfl⟩
  | .outline (id :: rest), h =>
    rw [NodePath.resolve, Option.bind_eq_some_iff] at h
    obtain ⟨s, hs, hn⟩ := h
    obtain ⟨rs, hrs⟩ := Node.exists_revise_of_descend f hn
    rw [revise]
    simp only [hs, hrs]
    cases rs with
    | kept => exact ⟨_, rfl⟩
    | rebuilt s' cs us => exact ⟨_, rfl⟩

/-- **The path updated** leads to what the update made of the node there. -/
theorem resolve_revise_self {t : Tree} {p : NodePath} {f : Node → Revision} {r : TreeRevision}
    (h : t.revise p f = .ok r) :
    ∃ n, p.resolve t = some n ∧ p.resolve r.tree = some ((f n).node n) := by
  match p, h with
  | .courseInfo, h =>
    rw [revise] at h
    obtain rfl := Except.ok.inj h
    exact ⟨t.courseInfo, rfl, rfl⟩
  | .outline [], h => rw [revise] at h; cases h
  | .outline (id :: rest), h =>
    obtain ⟨s, rs, hs, hrs, htree⟩ := revise_outline_cons h
    obtain ⟨n, hn, hn'⟩ := Node.descend_revise_self hrs
    refine ⟨n, ?_, ?_⟩
    · rw [NodePath.resolve, hs, Option.bind_some, hn]
    · rw [NodePath.resolve, htree, Keyed.get?_put_self, Option.bind_some, hn']

/-- An update fails where the path leads nowhere. -/
theorem revise_of_resolve_none {t : Tree} {p : NodePath} (hp : p ≠ .outline [])
    (h : p.resolve t = none) (f : Node → Revision) : t.revise p f = .error (.nodeNotFound p.text) := by
  match p, hp, h with
  | .courseInfo, _, h => cases h
  | .outline [], hp, _ => exact absurd rfl hp
  | .outline (id :: rest), _, h =>
    cases hr : t.revise (.outline (id :: rest)) f with
    | ok r =>
      obtain ⟨n, hn, -⟩ := resolve_revise_self hr
      rw [h] at hn
      cases hn
    | error e =>
      rw [revise] at hr
      cases hs : Keyed.get? id t.sections with
      | none => simp only [hs] at hr; exact hr ▸ rfl
      | some s =>
        cases hrs : s.revise f 1 rest with
        | none => simp only [hs, hrs] at hr; exact hr ▸ rfl
        | some rs => cases rs <;> (simp only [hs, hrs] at hr; cases hr)

/-- **Every other path** leads where it led, up to the relation. -/
theorem resolve_revise_of_ne {R : Node → Node → Prop} (hR : IgnoresBelow R) {New : Node → Prop}
    {t : Tree} {p q : NodePath} {f : Node → Revision} {r : TreeRevision} (h : t.revise p f = .ok r)
    (hf : ∀ n, p.resolve t = some n → p.contains q = true → (f n).RelatesBelow R New p.depth n)
    (hne : q ≠ p) :
    Became R New (q.resolve t) (q.resolve r.tree) := by
  match p, h, hf, hne with
  | .courseInfo, h, _, hne =>
    rw [revise] at h
    obtain rfl := Except.ok.inj h
    cases q with
    | courseInfo => exact absurd rfl hne
    | outline ids => cases ids <;> exact .refl hR.refl _
  | .outline [], h, _, _ => rw [revise] at h; cases h
  | .outline (id :: rest), h, hf, hne =>
    obtain ⟨s, rs, hs, hrs, htree⟩ := revise_outline_cons h
    rw [htree]
    match q, hne with
    | .courseInfo, _ => exact .refl hR.refl _
    | .outline [], _ => exact .missing
    | .outline (other :: others), hne =>
      rw [NodePath.resolve, NodePath.resolve]
      by_cases ho : other = id
      · subst ho
        have hbelow : ∀ e, NodePath.descend 1 rest s = some e → rest <+: others →
            (f e).RelatesBelow R New (1 + rest.length) e := by
          intro e he hpre
          have hd : 1 + rest.length = NodePath.depth (.outline (other :: rest)) := by
            rw [NodePath.depth, List.length_cons]; omega
          rw [hd]
          exact hf e (by rw [NodePath.resolve, hs, Option.bind_some, he])
            (NodePath.contains_outline_iff.mpr (List.cons_prefix_cons.mpr ⟨rfl, hpre⟩))
        rw [hs, Keyed.get?_put_self, Option.bind_some, Option.bind_some]
        exact Node.descend_revise_of_ne hR hrs hbelow fun e => hne (by rw [e])
      · rw [Keyed.get?_put_of_ne ho]
        exact .refl hR.refl _

end Tree

end CourseReview
