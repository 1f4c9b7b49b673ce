import CourseReview.Api.Payload
import CourseReview.Proofs.Outline.Lookup

/-!
# Nodes as they arrive

Previews are a matter of the review alone.  The server knows nothing of them: a node that was
decoded, and every node below it, shows its own payload and has none set aside
(`Node.unpreviewed_of_decode`), and so does everything in the two replies that bring nodes
(`Outline.unpreviewed_of_decode`, `UnitComponents.unpreviewed_of_decode`).
-/

namespace CourseReview

/-! ## 1. Nodes without previews -/

namespace Node

mutual

/-- Whether no payload is set aside in the node or anywhere below it. -/
def unpreviewed : Node → Bool
  | ⟨_, _, _, previous, _, _, _, children, units⟩ =>
    previous.isNone && unpreviewedMap children && unpreviewedMap units

/-- The same for an optional child map. -/
def unpreviewedMap : Option (List (String × Node)) → Bool
  | none => true
  | some entries => unpreviewedEntries entries

/-- The same for the entries of a child map. -/
def unpreviewedEntries : List (String × Node) → Bool
  | [] => true
  | (_, n) :: rest => unpreviewed n && unpreviewedEntries rest

end

theorem unpreviewed_iff {n : Node} :
    n.unpreviewed = true ↔ n.previous = none ∧ unpreviewedMap n.children = true ∧
      unpreviewedMap n.units = true := by
  cases n with
  | mk key category data previous status versions links children units =>
    rw [unpreviewed, Bool.and_eq_true, Bool.and_eq_true, Option.isNone_iff_eq_none, and_assoc]

theorem unpreviewed_of_get? {id : String} {c : Node} :
    ∀ {m : ChildMap}, unpreviewedEntries m = true → Keyed.get? id m = some c →
      c.unpreviewed = true
  | [], _, hc => by cases hc
  | (id', n) :: rest, hm, hc => by
    rw [unpreviewedEntries, Bool.and_eq_true] at hm
    rw [Keyed.get?] at hc
    split at hc
    · rw [← Option.some.inj hc]; exact hm.1
    · exact unpreviewed_of_get? hm.2 hc

end Node

/-- Nor is one set aside where ids lead from such a node. -/
theorem NodePath.unpreviewed_of_descend {ids : List String} :
    ∀ {depth : Nat} {n x : Node}, n.unpreviewed = true → descend depth ids n = some x →
      x.unpreviewed = true := by
  induction ids with
  | nil =>
    intro depth n x hn hx
    rw [descend_nil] at hx
    rw [← Option.some.inj hx]; exact hn
  | cons id rest ih =>
    intro depth n x hn hx
    obtain ⟨m, c, hm, hc, hx⟩ := descend_cons_eq_some.mp hx
    obtain ⟨-, hchildren, hunits⟩ := Node.unpreviewed_iff.mp hn
    refine ih (Node.unpreviewed_of_get? ?_ hc) hx
    cases hslot : ChildSlot.atDepth depth with
    | children =>
      rw [hslot] at hm
      have hm : n.children = some m := hm
      rw [hm] at hchildren; exact hchildren
    | units =>
      rw [hslot] at hm
      have hm : n.units = some m := hm
      rw [hm] at hunits; exact hunits

/-- Whether no payload is set aside in the outline. -/
def Tree.unpreviewed (t : Tree) : Bool :=
  t.courseInfo.unpreviewed && Node.unpreviewedEntries t.sections

theorem Tree.unpreviewed_of_resolve {t : Tree} {p : NodePath} {n : Node}
    (h : t.unpreviewed = true) (hn : p.resolve t = some n) : n.unpreviewed = true := by
  rw [unpreviewed, Bool.and_eq_true] at h
  match p, hn with
  | .courseInfo, hn => rw [← Option.some.inj hn]; exact h.1
  | .outline (id :: rest), hn =>
    rw [NodePath.resolve, Option.bind_eq_some_iff] at hn
    obtain ⟨s, hs, hn⟩ := hn
    exact NodePath.unpreviewed_of_descend (Node.unpreviewed_of_get? h.2 hs) hn

/-! ## 2. Decoding -/

/-- What comes out of two steps has come out of the first. -/
theorem Decoded.bind_ok {α β : Type} {x : Decoded α} {f : α → Decoded β} {b : β}
    (h : x >>= f = .ok b) : ∃ a, x = .ok a ∧ f a = .ok b := by
  cases x with
  | error e => cases h
  | ok a => exact ⟨a, rfl, h⟩

namespace RecordForm

variable {α : Type} {P : α → Prop} {form : RecordForm α}

/-- What is so of the blank record, and stays so when a field is set, is so of every record
decoded. -/
theorem decode_induction (hset : ∀ field j a a', form.set field j a = .ok a' → P a → P a')
    (hblank : P form.blank) {j : Json} {a : α} (h : form.decode j = .ok a) : P a := by
  have hmembers : ∀ (members : Keyed Json) (a a' : α),
      form.setMembers members a = .ok a' → P a → P a' := by
    intro members
    induction members with
    | nil => intro a a' h ha; rw [← Except.ok.inj h]; exact ha
    | cons member rest ih =>
      intro a a' h ha
      rw [setMembers] at h
      split at h
      · obtain ⟨a₁, h₁, h₂⟩ := Decoded.bind_ok h
        exact ih a₁ a' h₂ (hset _ _ _ _ h₁ ha)
      · exact ih a a' h ha
  have hitems : ∀ (fields : List String) (items : List Json) (a a' : α),
      form.setItems fields items a = .ok a' → P a → P a' := by
    intro fields
    induction fields with
    | nil =>
      intro items a a' h ha
      have h : a = a' := by simpa [setItems] using h
      rw [← h]; exact ha
    | cons field fields ih =>
      intro items a a' h ha
      cases items with
      | nil =>
        have h : a = a' := by simpa [setItems] using h
        rw [← h]; exact ha
      | cons value rest =>
        rw [setItems] at h
        obtain ⟨a₁, h₁, h₂⟩ := Decoded.bind_ok h
        exact ih rest a₁ a' h₂ (hset _ _ _ _ h₁ ha)
  cases j with
  | object members =>
    rw [decode] at h
    obtain ⟨a₁, h₁, h₂⟩ := Decoded.bind_ok h
    obtain ⟨-, -, h₃⟩ := Decoded.bind_ok h₂
    rw [← Except.ok.inj h₃]
    exact hmembers _ _ _ h₁ hblank
  | array items =>
    rw [decode] at h
    obtain ⟨a₁, h₁, h₂⟩ := Decoded.bind_ok h
    obtain ⟨-, -, h₃⟩ := Decoded.bind_ok h₂
    rw [← Except.ok.inj h₃]
    exact hitems _ _ _ _ h₁ hblank
  | _ => cases h

end RecordForm

namespace Node

/-- Setting a field other than the child maps does not touch what is below, nor what is set
aside. -/
theorem set_keeps {field : String} {j : Json} {n n' : Node} (h : form.set field j n = .ok n') :
    n'.previous = n.previous ∧ n'.children = n.children ∧ n'.units = n.units := by
  dsimp only [form] at h
  split at h
  · obtain ⟨_, -, h⟩ := Decoded.bind_ok h; rw [← Except.ok.inj h]; exact ⟨rfl, rfl, rfl⟩
  · obtain ⟨_, -, h⟩ := Decoded.bind_ok h; rw [← Except.ok.inj h]; exact ⟨rfl, rfl, rfl⟩
  · rw [← Except.ok.inj h]; exact ⟨rfl, rfl, rfl⟩
  · obtain ⟨_, -, h⟩ := Decoded.bind_ok h; rw [← Except.ok.inj h]; exact ⟨rfl, rfl, rfl⟩
  · obtain ⟨_, -, h⟩ := Decoded.bind_ok h; rw [← Except.ok.inj h]; exact ⟨rfl, rfl, rfl⟩
  · obtain ⟨_, -, h⟩ := Decoded.bind_ok h; rw [← Except.ok.inj h]; exact ⟨rfl, rfl, rfl⟩
  · rw [← Except.ok.inj h]; exact ⟨rfl, rfl, rfl⟩

theorem set_unpreviewed {field : String} {j : Json} {n n' : Node}
    (h : form.set field j n = .ok n') (hn : n.unpreviewed = true) : n'.unpreviewed = true := by
  obtain ⟨hprevious, hchildren, hunits⟩ := set_keeps h
  rw [unpreviewed_iff] at hn ⊢
  rw [hprevious, hchildren, hunits]
  exact hn

/-- Setting a child map without previews brings none in. -/
theorem unpreviewed_setChildren {n : Node} {m : Option (List (String × Node))}
    (hn : n.unpreviewed = true) (hm : unpreviewedMap m = true) :
    ({ n with children := m } : Node).unpreviewed = true ∧
      ({ n with units := m } : Node).unpreviewed = true := by
  obtain ⟨hprevious, hchildren, hunits⟩ := unpreviewed_iff.mp hn
  exact ⟨unpreviewed_iff.mpr ⟨hprevious, hm, hunits⟩,
    unpreviewed_iff.mpr ⟨hprevious, hchildren, hm⟩⟩

mutual

/-- **A decoded node has no previews**, in itself or anywhere below. -/
theorem unpreviewed_of_decode : ∀ {j : Json} {n : Node}, decode j = .ok n → n.unpreviewed = true
  | .object members, n, h => by
    rw [decode] at h
    obtain ⟨a, ha, h⟩ := Decoded.bind_ok h
    obtain ⟨-, -, h⟩ := Decoded.bind_ok h
    rw [← Except.ok.inj h]
    exact unpreviewed_of_setMembers ha rfl
  | .array items, n, h => by
    rw [decode] at h
    obtain ⟨a, ha, h⟩ := Decoded.bind_ok h
    obtain ⟨-, -, h⟩ := Decoded.bind_ok h
    rw [← Except.ok.inj h]
    exact unpreviewed_of_setItems ha rfl
  | .null, _, h => by simp [decode] at h
  | .bool _, _, h => by simp [decode] at h
  | .number _, _, h => by simp [decode] at h
  | .string _, _, h => by simp [decode] at h

theorem unpreviewed_of_setMembers : ∀ {members : List (String × Json)} {n n' : Node},
    setMembers members n = .ok n' → n.unpreviewed = true → n'.unpreviewed = true
  | [], n, n', h, hn => by
    rw [setMembers] at h
    rw [← Except.ok.inj h]; exact hn
  | (key, value) :: rest, n, n', h, hn => by
    rw [setMembers] at h
    split at h
    · obtain ⟨m, hm, h⟩ := Decoded.bind_ok h
      have hn₁ := (unpreviewed_setChildren hn (unpreviewed_of_decodeChildren hm)).1
      exact unpreviewed_of_setMembers h hn₁
    · split at h
      · obtain ⟨m, hm, h⟩ := Decoded.bind_ok h
        have hn₁ := (unpreviewed_setChildren hn (unpreviewed_of_decodeChildren hm)).2
        exact unpreviewed_of_setMembers h hn₁
      · obtain ⟨n₁, h₁, h⟩ := Decoded.bind_ok h
        exact unpreviewed_of_setMembers h (set_unpreviewed h₁ hn)

theorem unpreviewed_of_setItems : ∀ {fields : List String} {items : List Json} {n n' : Node},
    setItems fields items n = .ok n' → n.unpreviewed = true → n'.unpreviewed = true
  | [], _, n, n', h, hn => by
    rw [setItems] at h
    rw [← Except.ok.inj h]; exact hn
  | _ :: _, [], n, n', h, hn => by
    rw [setItems] at h
    rw [← Except.ok.inj h]; exact hn
  | field :: fields, value :: rest, n, n', h, hn => by
    rw [setItems] at h
    split at h
    · obtain ⟨m, hm, h⟩ := Decoded.bind_ok h
      have hn₁ := (unpreviewed_setChildren hn (unpreviewed_of_decodeChildren hm)).1
      exact unpreviewed_of_setItems h hn₁
    · split at h
      · obtain ⟨m, hm, h⟩ := Decoded.bind_ok h
        have hn₁ := (unpreviewed_setChildren hn (unpreviewed_of_decodeChildren hm)).2
        exact unpreviewed_of_setItems h hn₁
      · obtain ⟨n₁, h₁, h⟩ := Decoded.bind_ok h
        exact unpreviewed_of_setItems h (set_unpreviewed h₁ hn)

theorem unpreviewed_of_decodeChildren : ∀ {j : Json} {m : Option (List (String × Node))},
    decodeChildren j = .ok m → unpreviewedMap m = true
  | .null, _, h => by rw [decodeChildren] at h; rw [← Except.ok.inj h]; rfl
  | .array [], _, h => by rw [decodeChildren] at h; rw [← Except.ok.inj h]; rfl
  | .array (_ :: _), _, h => by simp [decodeChildren] at h
  | .object members, m, h => by
    rw [decodeChildren] at h
    split at h
    · rename_i entries he
      rw [← Except.ok.inj h]
      exact unpreviewed_of_decodeEntries he
    · cases h
  | .bool _, _, h => by simp [decodeChildren] at h
  | .number _, _, h => by simp [decodeChildren] at h
  | .string _, _, h => by simp [decodeChildren] at h

theorem unpreviewed_of_decodeEntries : ∀ {members : List (String × Json)}
    {es : List (String × Node)}, decodeEntries members = .ok es → unpreviewedEntries es = true
  | [], _, h => by rw [decodeEntries] at h; rw [← Except.ok.inj h]; rfl
  | (id, value) :: rest, es, h => by
    rw [decodeEntries] at h
    obtain ⟨n, hn, h⟩ := Decoded.bind_ok h
    obtain ⟨ns, hns, h⟩ := Decoded.bind_ok h
    rw [← Except.ok.inj h, unpreviewedEntries, unpreviewed_of_decode hn,
      unpreviewed_of_decodeEntries hns]
    rfl

end

end Node

/-- The outlines of a reply have no previews. -/
theorem Outline.unpreviewed_of_decode {j : Json} {o : Outline} (h : Outline.form.decode j = .ok o) :
    o.rerun.unpreviewed = true := by
  refine RecordForm.decode_induction (P := fun o : Outline => o.rerun.unpreviewed = true)
    (fun field j o o' hset ho => ?_) rfl h
  rw [Tree.unpreviewed, Bool.and_eq_true] at ho ⊢
  dsimp only [form] at hset
  split at hset
  · obtain ⟨n, hn, hset⟩ := Decoded.bind_ok hset
    rw [← Except.ok.inj hset]
    exact ⟨Node.unpreviewed_of_decode hn, ho.2⟩
  · obtain ⟨_, -, hset⟩ := Decoded.bind_ok hset
    rw [← Except.ok.inj hset]; exact ho
  · obtain ⟨m, hm, hset⟩ := Decoded.bind_ok hset
    rw [← Except.ok.inj hset]
    have hm := Node.unpreviewed_of_decodeChildren hm
    refine ⟨ho.1, ?_⟩
    cases m with
    | none => rfl
    | some entries => exact hm
  · obtain ⟨_, -, hset⟩ := Decoded.bind_ok hset
    rw [← Except.ok.inj hset]; exact ho
  · rw [← Except.ok.inj hset]; exact ho

/-- Nor has the content of a unit in a reply. -/
theorem UnitComponents.unpreviewed_of_decode {j : Json} {c : UnitComponents}
    (h : UnitComponents.form.decode j = .ok c) : Node.unpreviewedMap c.rerun = true := by
  refine RecordForm.decode_induction
    (P := fun c : UnitComponents => Node.unpreviewedMap c.rerun = true)
    (fun field j c c' hset hc => ?_) rfl h
  dsimp only [form] at hset
  split at hset
  · obtain ⟨m, hm, hset⟩ := Decoded.bind_ok hset
    rw [← Except.ok.inj hset]
    exact Node.unpreviewed_of_decodeChildren hm
  · obtain ⟨_, -, hset⟩ := Decoded.bind_ok hset
    rw [← Except.ok.inj hset]; exact hc
  · rw [← Except.ok.inj hset]; exact hc

end CourseReview
