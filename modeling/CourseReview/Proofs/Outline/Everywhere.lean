import CourseReview.Proofs.Outline.Arrival
import CourseReview.Proofs.Outline.Places

/-!
# Every node at or below a node

A node has two maps of nodes, and these have maps of their own.  This file says what it is to rewrite
every node at or below a node (`Node.mapAll`), and to ask something of all of them (`Node.Everywhere`),
whichever maps lead to them and however deep they are.

Facts about all of them are proved by one induction, from the nodes in the two maps to the node itself
(`Node.induction`).  One of them is that rewriting every node twice is rewriting it once
(`Node.mapAll_mapAll`).
-/

namespace CourseReview

namespace Node

/-! ## 1. Induction -/

mutual

/-- What holds of a node as soon as it holds of the nodes in its two maps holds of every node. -/
theorem induction {motive : Node → Prop}
    (step : ∀ n : Node, (∀ (slot : ChildSlot) (m : ChildMap), slot.get n = some m →
      ∀ e ∈ m, motive e.2) → motive n) : ∀ n : Node, motive n
  | ⟨_, _, _, _, _, _, _, children, units⟩ =>
    step _ fun slot m hm e he =>
      match slot, hm with
      | .children, hm => induction_map step children m hm e he
      | .units, hm => induction_map step units m hm e he

theorem induction_map {motive : Node → Prop}
    (step : ∀ n : Node, (∀ (slot : ChildSlot) (m : ChildMap), slot.get n = some m →
      ∀ e ∈ m, motive e.2) → motive n) :
    ∀ (o : Option (List (String × Node))) (m : ChildMap), o = some m → ∀ e ∈ m, motive e.2
  | none, _, hm, _, _ => nomatch hm
  | some entries, _, hm, e, he => induction_entries step entries e (Option.some.inj hm ▸ he)

theorem induction_entries {motive : Node → Prop}
    (step : ∀ n : Node, (∀ (slot : ChildSlot) (m : ChildMap), slot.get n = some m →
      ∀ e ∈ m, motive e.2) → motive n) :
    ∀ (entries : List (String × Node)) (e : String × Node), e ∈ entries → motive e.2
  | (_, n) :: rest, e, he =>
    match List.mem_cons.mp he with
    | .inl heq => heq ▸ induction step n
    | .inr he => induction_entries step rest e he

end

/-- Something is so of the node and of every node below it. -/
inductive Everywhere (P : Node → Prop) : Node → Prop
  | intro {n : Node} (here : P n)
      (below : ∀ (slot : ChildSlot) (m : ChildMap), slot.get n = some m → ∀ e ∈ m, Everywhere P e.2) :
      Everywhere P n

namespace Everywhere

variable {P Q : Node → Prop} {n : Node}

theorem here (h : n.Everywhere P) : P n := by
  cases h with
  | intro here _ => exact here

theorem entry (h : n.Everywhere P) {slot : ChildSlot} {m : ChildMap} (hm : slot.get n = some m)
    {e : String × Node} (he : e ∈ m) : e.2.Everywhere P := by
  cases h with
  | intro _ below => exact below slot m hm e he

end Everywhere

/-! ## 2. Rewriting every node -/

mutual

/-- The node after every node at or below it was rewritten, those below a node before the node. -/
def mapAll (f : Node → Node) : Node → Node
  | ⟨key, category, data, previous, status, versions, links, children, units⟩ =>
    f ⟨key, category, data, previous, status, versions, links, mapAllMap f children,
      mapAllMap f units⟩

/-- The same for the nodes of an optional child map. -/
def mapAllMap (f : Node → Node) : Option (List (String × Node)) → Option (List (String × Node))
  | none => none
  | some entries => some (mapAllEntries f entries)

/-- The same for the nodes of the entries of a child map. -/
def mapAllEntries (f : Node → Node) : List (String × Node) → List (String × Node)
  | [] => []
  | (id, n) :: rest => (id, mapAll f n) :: mapAllEntries f rest

end

variable (f : Node → Node)

theorem mapAllMap_eq (o : Option ChildMap) : mapAllMap f o = o.map (mapAllEntries f) := by
  cases o <;> rw [mapAllMap] <;> rfl

/-- A map is rewritten entry by entry. -/
theorem mapAllEntries_eq : ∀ m : ChildMap, mapAllEntries f m = m.map fun e => (e.1, e.2.mapAll f)
  | [] => by rw [mapAllEntries, List.map_nil]
  | (id, n) :: rest => by rw [mapAllEntries, mapAllEntries_eq rest, List.map_cons]

theorem mapAll_eq (n : Node) :
    n.mapAll f = f { n with
      children := n.children.map (mapAllEntries f)
      units := n.units.map (mapAllEntries f) } := by
  cases n with
  | mk key category data previous status versions links children units =>
    rw [mapAll, mapAllMap_eq, mapAllMap_eq]

/-- The ids of a map are what they were, and in their order. -/
theorem keys_mapAllEntries (m : ChildMap) : Keyed.keys (mapAllEntries f m) = Keyed.keys m := by
  rw [mapAllEntries_eq, Keyed.keys, List.map_map]
  rfl

theorem get?_mapAllEntries (id : String) :
    ∀ m : ChildMap, Keyed.get? id (mapAllEntries f m) = (Keyed.get? id m).map (mapAll f)
  | [] => rfl
  | (k, c) :: rest => by
    rw [mapAllEntries, Keyed.get?, Keyed.get?]
    split
    · rfl
    · exact get?_mapAllEntries id rest

variable {f}

/-- Both maps of a rewritten node are rewritten, and neither comes or goes. -/
theorem get_mapAll (hf : OwnFields f) (slot : ChildSlot) (n : Node) :
    slot.get (n.mapAll f) = (slot.get n).map (mapAllEntries f) := by
  rw [mapAll_eq, hf.get]
  cases slot <;> rfl

/-- **Every node stands where it stood**, rewritten with all that is below it. -/
theorem follow_mapAll (hf : OwnFields f) :
    ∀ (steps : List (ChildSlot × String)) (n : Node),
      (n.mapAll f).follow steps = (n.follow steps).map (mapAll f) := by
  intro steps
  induction steps with
  | nil => intro n; rfl
  | cons step rest ih =>
    intro n
    obtain ⟨slot, id⟩ := step
    rw [follow_cons, follow_cons, get_mapAll hf]
    cases slot.get n with
    | none => rfl
    | some m =>
      rw [Option.map_some, Option.bind_some, Option.bind_some, get?_mapAllEntries]
      cases Keyed.get? id m with
      | none => rfl
      | some c => rw [Option.map_some, Option.bind_some, Option.bind_some, ih]

end Node

/-! ## 3. Rewriting every node twice -/

namespace Node

/-- The node with its maps rewritten, those that are there. -/
def overMaps (φ : ChildMap → ChildMap) (n : Node) : Node :=
  { n with children := n.children.map φ, units := n.units.map φ }

theorem overMaps_overMaps (φ ψ : ChildMap → ChildMap) (n : Node) :
    (n.overMaps φ).overMaps ψ = n.overMaps fun m => ψ (φ m) := by
  simp only [overMaps, Option.map_map]
  rfl

end Node

/-- An update that does not reach into maps can be made before or after they are rewritten. -/
theorem OwnFields.overMaps {f : Node → Node} (hf : OwnFields f) (φ : ChildMap → ChildMap) (n : Node) :
    f (n.overMaps φ) = (f n).overMaps φ := by
  -- one map after the other, each of which is put in place if it is there
  have hone : ∀ (slot : ChildSlot) (o : Option ChildMap) (x : Node),
      f (o.elim x fun m => slot.set x (φ m)) = o.elim (f x) fun m => slot.set (f x) (φ m) := by
    intro slot o x
    cases o with
    | none => rfl
    | some m => exact hf.set slot x (φ m)
  have hboth : ∀ x : Node, x.overMaps φ =
      (ChildSlot.units.get x).elim
        ((ChildSlot.children.get x).elim x fun m => ChildSlot.children.set x (φ m))
        fun m => ChildSlot.units.set
          ((ChildSlot.children.get x).elim x fun m => ChildSlot.children.set x (φ m)) (φ m) := by
    intro x
    obtain ⟨key, category, data, previous, status, versions, links, children, units⟩ := x
    cases children <;> cases units <;> rfl
  rw [hboth n, hboth (f n), hone, hone, hf.get, hf.get]

namespace Node

variable {f g : Node → Node}

theorem mapAll_eq_overMaps (f : Node → Node) (n : Node) :
    n.mapAll f = f (n.overMaps (mapAllEntries f)) :=
  mapAll_eq f n

/-- Only the maps that are there matter. -/
theorem overMaps_congr {φ ψ : ChildMap → ChildMap} {n : Node}
    (h : ∀ (slot : ChildSlot) (m : ChildMap), slot.get n = some m → φ m = ψ m) :
    n.overMaps φ = n.overMaps ψ := by
  have hchildren : n.children.map φ = n.children.map ψ := Option.map_congr (h .children)
  have hunits : n.units.map φ = n.units.map ψ := Option.map_congr (h .units)
  rw [overMaps, overMaps, hchildren, hunits]

theorem overMaps_self {φ : ChildMap → ChildMap} {n : Node}
    (h : ∀ (slot : ChildSlot) (m : ChildMap), slot.get n = some m → φ m = m) :
    n.overMaps φ = n := by
  rw [overMaps_congr (ψ := fun m => m) h, overMaps, Option.map_id', Option.map_id']
  cases n
  rfl

/-- Rewriting every node to itself changes nothing. -/
theorem mapAll_id (n : Node) : n.mapAll (fun x => x) = n := by
  refine induction (motive := fun n => n.mapAll (fun x => x) = n) (fun n ih => ?_) n
  rw [mapAll_eq_overMaps]
  refine overMaps_self fun slot m hm => ?_
  rw [mapAllEntries_eq]
  refine (List.map_congr_left fun e he => ?_).trans (List.map_id m)
  rw [ih slot m hm e he]
  rfl

/-- Rewriting every node twice is rewriting it once. -/
theorem mapAll_mapAll (hf : OwnFields f) (n : Node) :
    (n.mapAll f).mapAll g = n.mapAll fun x => g (f x) := by
  refine induction (motive := fun n => (n.mapAll f).mapAll g = n.mapAll fun x => g (f x))
    (fun n ih => ?_) n
  have hentries : ∀ (slot : ChildSlot) (m : ChildMap), slot.get n = some m →
      mapAllEntries g (mapAllEntries f m) = mapAllEntries (fun x => g (f x)) m := by
    intro slot m hm
    rw [mapAllEntries_eq, mapAllEntries_eq, mapAllEntries_eq, List.map_map]
    refine List.map_congr_left fun e he => ?_
    rw [Function.comp_apply, ih slot m hm e he]
  rw [mapAll_eq_overMaps f, mapAll_eq_overMaps g, mapAll_eq_overMaps fun x => g (f x), ← hf.overMaps,
    overMaps_overMaps, overMaps_congr hentries]

end Node

end CourseReview
