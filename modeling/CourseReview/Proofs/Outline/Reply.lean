import CourseReview.Proofs.Outline.Reading
import CourseReview.Proofs.Outline.Stock
import CourseReview.Proofs.Outline.UniqueIds

/-!
# What an outline is read from

An answer with outlines has four parts, each of which is read from the value of its own field: the two
course nodes, which are needed, and the sections of both sides, which are empty when none are given.
-/

namespace CourseReview

open Json

/-- The sections that stand in the place of a child map: none are given by nothing and by `null`. -/
def ChildMap.decodeSections (j : Json) : Decoded ChildMap :=
  (·.getD []) <$> Node.decodeChildren j

theorem ChildMap.decodeSections_eq_ok {j : Json} {sections : ChildMap}
    (h : decodeSections j = .ok sections) :
    ∃ m, Node.decodeChildren j = .ok m ∧ sections = m.getD [] := by
  rw [decodeSections] at h
  cases hm : Node.decodeChildren j with
  | error e => rw [hm] at h; cases h
  | ok m => rw [hm] at h; exact ⟨m, rfl, (Except.ok.inj h).symm⟩

/-! ## 1. Ids that are unique -/

/-- Nodes from a list of members have the members' names. -/
theorem keys_of_entries {members : Keyed Json} {m : ChildMap}
    (h : List.Forall₂ (fun e c => c.1 = e.1 ∧ Node.decode e.2 = .ok c.2) members m) :
    Keyed.keys m = Keyed.keys members := by
  induction h with
  | nil => rfl
  | cons hentry _ ih => exact congrArg₂ List.cons hentry.1 ih

theorem exists_mem_of_entries {members : Keyed Json} {m : ChildMap}
    (h : List.Forall₂ (fun e c => c.1 = e.1 ∧ Node.decode e.2 = .ok c.2) members m)
    {c : String × Node} (hc : c ∈ m) : ∃ e ∈ members, Node.decode e.2 = .ok c.2 := by
  induction h with
  | nil => cases hc
  | cons hentry _ ih =>
    rcases List.mem_cons.mp hc with rfl | hc
    · exact ⟨_, List.mem_cons_self, hentry.2⟩
    · obtain ⟨e, he, hdecode⟩ := ih hc
      exact ⟨e, List.mem_cons_of_mem _ he, hdecode⟩

/-- **A node from a value without repeated names has no repeated ids**, and neither has a map of nodes. -/
theorem uniqueIds_of_distinctNames (j : Json) (hj : j.DistinctNames) :
    (∀ n, Node.decode j = .ok n → n.UniqueIds) ∧
      ∀ m, Node.decodeChildren j = .ok (some m) → Keyed.Distinct m ∧ ∀ c ∈ m, c.2.UniqueIds := by
  induction j using Json.induction with
  | step j ih =>
    constructor
    · intro n hn
      have hmaps : ∀ (slot : ChildSlot) (m : ChildMap), slot.get n = some m →
          Keyed.Distinct m ∧ ∀ c ∈ m, c.2.UniqueIds := by
        intro slot m hm
        have hfrom := (Node.fieldsFrom_of_decode hj hn).2 slot
        rw [hm] at hfrom
        cases hgiven : Keyed.get? slot.field (j.fieldValues nodeFields) with
        | none => rw [hgiven] at hfrom; cases hfrom
        | some i =>
          rw [hgiven] at hfrom
          have hi := mem_parts_of_mem_fieldValues (Keyed.mem_of_get? hgiven)
          exact (ih i hi (hj.part hi)).2 m (childMapFrom_some_iff.mp hfrom)
      exact .intro (fun slot m hm => (hmaps slot m hm).1) fun slot m hm => (hmaps slot m hm).2
    · intro m hm
      cases childMapFrom_some_iff.mpr hm with
      | emptyList => exact ⟨List.nodup_nil, fun _ hc => nomatch hc⟩
      | object entries =>
        refine ⟨?_, fun c hc => ?_⟩
        · rw [Keyed.Distinct, keys_of_entries entries]
          exact hj.distinct
        · obtain ⟨e, he, hdecode⟩ := exists_mem_of_entries entries hc
          have hi : e.2 ∈ (object _).parts := List.mem_map_of_mem he
          exact (ih e.2 hi (hj.part hi)).1 c.2 hdecode

namespace Outline

/-! ## 2. The parts of an answer -/

theorem form_regular : form.Regular :=
  ⟨by decide, by decide, rfl, rfl⟩

/-- The four parts of an answer. -/
def fieldTable : List (RecordField Outline) :=
  [{ name := "course_info", read := Node.decode, get := (·.rerun.courseInfo),
      put := fun courseInfo o => { o with rerun := { o.rerun with courseInfo } } },
    { name := "base_course_info", read := Node.decode, get := (·.base.courseInfo),
      put := fun courseInfo o => { o with base := { o.base with courseInfo } } },
    { name := "course_outline", read := ChildMap.decodeSections, get := (·.rerun.sections),
      put := fun sections o => { o with rerun := { o.rerun with sections } } },
    { name := "base_course_outline", read := ChildMap.decodeSections, get := (·.base.sections),
      put := fun sections o => { o with base := { o.base with sections } } }]

/-- Each part is read from the values for its own field. -/
theorem tabulated : form.Tabulated fieldTable where
  names := rfl
  set_eq := by
    simp only [fieldTable, List.forall_mem_cons]
    refine ⟨fun _ _ => rfl, fun _ _ => rfl, fun j o => ?_, fun j o => ?_, List.forall_mem_nil _⟩
    · rw [ChildMap.decodeSections]
      cases hm : Node.decodeChildren j <;> simp [form, hm]
    · rw [ChildMap.decodeSections]
      cases hm : Node.decodeChildren j <;> simp [form, hm]
  apart := by simp [fieldTable]

/-- What the four parts can be read from. -/
theorem form_accepts : form.Accepts fun field j =>
    (field = "course_info" ∨ field = "base_course_info" → ∃ n, Node.decode j = .ok n) ∧
      (field = "course_outline" ∨ field = "base_course_outline" →
        ∃ m, ChildMap.decodeSections j = .ok m) := by
  refine tabulated.accepts ?_
  simp [fieldTable]

/-- **Outlines from an answer without repeated names have no repeated ids.** -/
theorem uniqueIds_of_decode {j : Json} (hj : j.DistinctNames) {o : Outline}
    (h : form.decode j = .ok o) : o.UniqueIds := by
  have hnode : Tells Node.decode fun _ n => n.UniqueIds :=
    fun i n hi => (uniqueIds_of_distinctNames i hi).1 n
  have hsections : Tells ChildMap.decodeSections fun _ m =>
      Keyed.Distinct m ∧ ∀ c ∈ m, c.2.UniqueIds := by
    intro i m hi hread
    obtain ⟨m?, hm, rfl⟩ := ChildMap.decodeSections_eq_ok hread
    cases m? with
    | none => exact ⟨List.nodup_nil, List.forall_mem_nil _⟩
    | some m => exact (uniqueIds_of_distinctNames i hi).2 m hm
  have hblank : Node.UniqueIds { usageKey := "" } :=
    .intro (fun slot _ hm => by cases slot <;> cases hm) fun slot _ hm => by cases slot <;> cases hm
  have hfields := tabulated.fieldFrom form_regular hj h
  simp only [fieldTable, List.forall_mem_cons] at hfields
  obtain ⟨hinfo, hbaseInfo, hmap, hbaseMap, -⟩ := hfields
  obtain ⟨hrerun, hrerunBelow⟩ := (hmap _ hsections).elim ⟨List.nodup_nil, List.forall_mem_nil _⟩
  obtain ⟨hbase, hbaseBelow⟩ := (hbaseMap _ hsections).elim ⟨List.nodup_nil, List.forall_mem_nil _⟩
  exact ⟨⟨(hinfo _ hnode).elim hblank, hrerun, hrerunBelow⟩,
    ⟨(hbaseInfo _ hnode).elim hblank, hbase, hbaseBelow⟩⟩

/-- So they have none on the way to the units. -/
theorem distinctIds_of_decode {j : Json} (hj : j.DistinctNames) {o : Outline}
    (h : form.decode j = .ok o) : o.DistinctIds :=
  ⟨(uniqueIds_of_decode hj h).rerun.distinctIds, (uniqueIds_of_decode hj h).base.distinctIds⟩

end Outline

end CourseReview
