import CourseReview.Proofs.Outline.Arrival
import CourseReview.Proofs.Outline.UnitPaths

/-!
# What a record is read from

A record is read field by field, from an object that names its fields or from a row of values in the
declared order.  This file settles, for every form of records, what that comes to.

* A row is read as the object that names its fields one after another (`RecordForm.setItems_eq`).
* A record can be read just from the values that are one by a grammar: every needed field is there and
  every value there is fits its field (`RecordForm.exists_decode_iff`).
* What is read into a field is the value given for it, or what was there before if none is given
  (`RecordForm.Reads.of_decode`).
* For all fields of a form at once this follows from its table of fields (`RecordForm.Tabulated`), in
  which every field comes with its reader and with the part of the record that it is kept in.
-/

namespace CourseReview

/-! ## 1. Values and their parts -/

namespace Json

/-- The values that a value is directly made of. -/
def parts : Json → List Json
  | .array items => items
  | .object members => members.map Prod.snd
  | _ => []

mutual

/-- What holds of a value as soon as it holds of its parts holds of every value. -/
theorem induction {motive : Json → Prop}
    (step : ∀ j : Json, (∀ i ∈ j.parts, motive i) → motive j) : ∀ j : Json, motive j
  | .null => step _ fun _ hi => nomatch hi
  | .bool _ => step _ fun _ hi => nomatch hi
  | .number _ => step _ fun _ hi => nomatch hi
  | .string _ => step _ fun _ hi => nomatch hi
  | .array items => step _ (induction_items step items)
  | .object members => step _ fun _ hi =>
    match List.mem_map.mp hi with
    | ⟨e, he, heq⟩ => heq ▸ induction_members step members e he

theorem induction_items {motive : Json → Prop}
    (step : ∀ j : Json, (∀ i ∈ j.parts, motive i) → motive j) :
    ∀ (items : List Json) (j : Json), j ∈ items → motive j
  | i :: rest, j, hj =>
    match List.mem_cons.mp hj with
    | .inl heq => heq ▸ induction step i
    | .inr hj => induction_items step rest j hj

theorem induction_members {motive : Json → Prop}
    (step : ∀ j : Json, (∀ i ∈ j.parts, motive i) → motive j) :
    ∀ (members : List (String × Json)) (e : String × Json), e ∈ members → motive e.2
  | (_, j) :: rest, e, he =>
    match List.mem_cons.mp he with
    | .inl heq => heq ▸ induction step j
    | .inr he => induction_members step rest e he

end

/-- No object in the value has two members of one name.  As a list of members an object does not say so
itself. -/
inductive DistinctNames : Json → Prop
  | intro {j : Json} (names : ∀ members, j = .object members → Keyed.Distinct members)
      (inside : ∀ i ∈ j.parts, DistinctNames i) : DistinctNames j

namespace DistinctNames

variable {j : Json}

theorem distinct {members : Keyed Json} (h : (Json.object members).DistinctNames) :
    Keyed.Distinct members := by
  cases h with
  | intro names _ => exact names members rfl

theorem part (h : j.DistinctNames) {i : Json} (hi : i ∈ j.parts) : i.DistinctNames := by
  cases h with
  | intro _ inside => exact inside i hi

@[simp] theorem null : Json.null.DistinctNames :=
  ⟨fun _ h => (nomatch h), fun _ h => (nomatch h)⟩

@[simp] theorem bool (b : Bool) : (Json.bool b).DistinctNames :=
  ⟨fun _ h => (nomatch h), fun _ h => (nomatch h)⟩

@[simp] theorem number (x : JsonNumber) : (Json.number x).DistinctNames :=
  ⟨fun _ h => (nomatch h), fun _ h => (nomatch h)⟩

@[simp] theorem string (s : String) : (Json.string s).DistinctNames :=
  ⟨fun _ h => (nomatch h), fun _ h => (nomatch h)⟩

@[simp] theorem array_iff {items : List Json} :
    (Json.array items).DistinctNames ↔ ∀ i ∈ items, i.DistinctNames :=
  ⟨fun h _ => h.part, fun h => ⟨fun _ h => (nomatch h), h⟩⟩

@[simp] theorem object_iff {members : List (String × Json)} :
    (Json.object members).DistinctNames ↔
      Keyed.Distinct members ∧ ∀ e ∈ members, e.2.DistinctNames := by
  constructor
  · exact fun h => ⟨h.distinct, fun e he => h.part (List.mem_map_of_mem he)⟩
  · rintro ⟨hdistinct, hinside⟩
    refine ⟨fun members' heq => object.inj heq ▸ hdistinct, fun i hi => ?_⟩
    obtain ⟨e, he, rfl⟩ := List.mem_map.mp hi
    exact hinside e he

end DistinctNames

/-- The values by the names of their fields, given as an object, or as a row of the fields listed. -/
def fieldValues (fields : List String) : Json → Keyed Json
  | .object members => members
  | .array items => fields.zip items
  | _ => []

/-- A value given for a field is a part. -/
theorem mem_parts_of_mem_fieldValues {fields : List String} {j : Json} {e : String × Json}
    (h : e ∈ j.fieldValues fields) : e.2 ∈ j.parts := by
  cases j with
  | object members => exact List.mem_map_of_mem h
  | array items => exact (List.of_mem_zip h).2
  | _ => cases h

/-- Whether a value is a record of the fields listed, by a grammar: an object that names every needed
field, or a row that reaches every needed field and does not go on beyond the fields, where every value
given for a field fits it. -/
inductive IsRecord (fields needed : List String) (Fits : String → Json → Prop) : Json → Prop
  | named {members : Keyed Json} (complete : ∀ field ∈ needed, field ∈ Keyed.keys members)
      (fits : ∀ field j, (field, j) ∈ members → field ∈ fields → Fits field j) :
      IsRecord fields needed Fits (.object members)
  | inRow {items : List Json} (within : items.length ≤ fields.length)
      (complete : ∀ field ∈ needed, field ∈ fields.take items.length)
      (fits : ∀ field j, (field, j) ∈ fields.zip items → Fits field j) :
      IsRecord fields needed Fits (.array items)

theorem IsRecord.fits {fields needed : List String} {Fits : String → Json → Prop} {j : Json}
    (h : j.IsRecord fields needed Fits) {field : String} (hfield : field ∈ fields) {i : Json}
    (hi : (field, i) ∈ j.fieldValues fields) : Fits field i := by
  cases h with
  | named _ fits => exact fits field i hi hfield
  | inRow _ _ fits => exact fits field i hi

/-- Of the values that fit a field only those that are parts matter. -/
theorem IsRecord.congr {fields needed : List String} {Fits Fits' : String → Json → Prop} {j : Json}
    (h : ∀ field ∈ fields, ∀ i ∈ j.parts, Fits field i ↔ Fits' field i) :
    j.IsRecord fields needed Fits ↔ j.IsRecord fields needed Fits' := by
  have hmember : ∀ {Fits Fits' : String → Json → Prop},
      (∀ field ∈ fields, ∀ i ∈ j.parts, Fits field i → Fits' field i) →
        j.IsRecord fields needed Fits → j.IsRecord fields needed Fits' := by
    intro Fits Fits' himp hrecord
    cases hrecord with
    | named complete fits =>
      exact .named complete fun field i hi hfield =>
        himp field hfield i (List.mem_map_of_mem hi) (fits field i hi hfield)
    | inRow within complete fits =>
      refine .inRow within complete fun field i hi => ?_
      obtain ⟨hfield, hpart⟩ := List.of_mem_zip hi
      exact himp field hfield i hpart (fits field i hi)
  exact ⟨hmember fun field hfield i hi => (h field hfield i hi).mp,
    hmember fun field hfield i hi => (h field hfield i hi).mpr⟩

end Json

/-- A row names the fields that it reaches. -/
theorem Keyed.keys_zip {α : Type} :
    ∀ (fields : List String) (items : List α), keys (fields.zip items) = fields.take items.length
  | [], _ => by rw [List.zip_nil_left, List.take_nil]; rfl
  | _ :: _, [] => rfl
  | field :: fields, _ :: items => by
    rw [List.zip_cons_cons, keys_cons, keys_zip fields items, List.length_cons, List.take_succ_cons]

/-- The fields of a row are distinct when those of the record are. -/
theorem Keyed.distinct_zip {α : Type} {fields : List String} (h : fields.Nodup) (items : List α) :
    Distinct (fields.zip items) := by
  rw [Distinct, keys_zip]
  exact h.sublist (List.take_sublist _ _)

namespace RecordForm

variable {α β : Type} {form : RecordForm α}

/-! ## 2. Rows and objects -/

/-- A row is read as the object that names its fields. -/
theorem setItems_eq : ∀ {fields : List String} (items : List Json) (a : α),
    (∀ field ∈ fields, field ∈ form.fields) →
      form.setItems fields items a = form.setMembers (fields.zip items) a
  | [], _, _, _ => by rw [setItems, List.zip_nil_left, setMembers]; rintro _ _ _ _ ⟨⟩
  | _ :: _, [], _, _ => by rw [setItems, List.zip_nil_right, setMembers]; rintro _ _ _ _ - ⟨⟩
  | field :: fields, value :: rest, a, h => by
    obtain ⟨hfield, hfields⟩ := List.forall_mem_cons.mp h
    rw [setItems, List.zip_cons_cons, setMembers, if_pos hfield]
    congr 1
    exact funext fun a => setItems_eq rest a hfields

/-- Members are read in two stretches. -/
theorem setMembers_append (rest : Keyed Json) : ∀ (members : Keyed Json) (a : α),
    form.setMembers (members ++ rest) a = form.setMembers members a >>= form.setMembers rest
  | [], a => by rw [List.nil_append, setMembers]; rfl
  | (field, j) :: members, a => by
    rw [List.cons_append, setMembers, setMembers]
    split
    · rw [bind_assoc]
      exact congrArg _ (funext fun a => setMembers_append rest members a)
    · exact setMembers_append rest members a

/-- **An object and a row are read alike**: field by field, before it is checked whether all needed fields
were there. -/
theorem decode_eq_ok_iff {j : Json} {a : α} :
    form.decode j = .ok a ↔
      form.setMembers (j.fieldValues form.fields) form.blank = .ok a ∧
        match j with
        | .object members => form.checkNamed members = .ok ()
        | .array items => form.checkLength items.length = .ok ()
        | _ => False := by
  have hbind : ∀ (x : Decoded α) (check : Decoded Unit),
      (do let a ← x; check; pure a) = .ok a ↔ x = .ok a ∧ check = .ok () := by
    intro x check
    cases x with
    | error e => simp [bind, Except.bind]
    | ok b => cases check <;> simp [bind, Except.bind, pure, Except.pure]
  cases j with
  | object members => exact hbind _ _
  | array items =>
    rw [decode, setItems_eq items form.blank fun _ h => h]
    exact hbind _ _
  | _ => simp [decode]

/-! ## 3. What can be read -/

/-- The values that can be read into a field are those that fit it, whatever the record holds. -/
def Accepts (form : RecordForm α) (Fits : String → Json → Prop) : Prop :=
  ∀ field ∈ form.fields, ∀ j a, (∃ b, form.set field j a = .ok b) ↔ Fits field j

theorem exists_setMembers_iff {Fits : String → Json → Prop} (h : form.Accepts Fits) :
    ∀ {members : Keyed Json} {a : α}, (∃ b, form.setMembers members a = .ok b) ↔
      ∀ field j, (field, j) ∈ members → field ∈ form.fields → Fits field j
  | [], a => ⟨fun _ _ _ hj => (nomatch hj), fun _ => ⟨a, by rw [setMembers]⟩⟩
  | (field, j) :: members, a => by
    have hcons : (∀ field' j', (field', j') ∈ (field, j) :: members → field' ∈ form.fields →
        Fits field' j') ↔ (field ∈ form.fields → Fits field j) ∧
          ∀ field' j', (field', j') ∈ members → field' ∈ form.fields → Fits field' j' := by
      constructor
      · exact fun hall => ⟨hall field j List.mem_cons_self, fun field' j' hj' =>
          hall field' j' (List.mem_cons_of_mem _ hj')⟩
      · rintro ⟨hfits, hrest⟩ field' j' hj'
        rcases List.mem_cons.mp hj' with heq | hj'
        · obtain ⟨rfl, rfl⟩ := Prod.mk.inj heq
          exact hfits
        · exact hrest field' j' hj'
    rw [hcons, setMembers]
    split
    · rename_i hfield
      constructor
      · rintro ⟨b, hb⟩
        obtain ⟨a₁, ha₁, hb⟩ := Decoded.bind_ok hb
        exact ⟨fun _ => (h field hfield j a).mp ⟨a₁, ha₁⟩, (exists_setMembers_iff h).mp ⟨b, hb⟩⟩
      · rintro ⟨hfits, hrest⟩
        obtain ⟨a₁, ha₁⟩ := (h field hfield j a).mpr (hfits hfield)
        obtain ⟨b, hb⟩ := (exists_setMembers_iff (a := a₁) h).mpr hrest
        exact ⟨b, by rw [ha₁]; exact hb⟩
    · rename_i hfield
      exact (exists_setMembers_iff (a := a) h).trans
        ⟨fun hrest => ⟨fun hmem => absurd hmem hfield, hrest⟩, And.right⟩

/-- The fields of a record are distinct, and those needed are among them, in an object and in a row the
same; a row does not go on beyond the fields. -/
structure Regular (form : RecordForm α) : Prop where
  distinct : form.fields.Nodup
  needed : ∀ field ∈ form.needed, field ∈ form.fields
  inRow : form.neededInRow = form.needed
  closed : form.openRow = false

theorem checkNamed_iff {members : Keyed Json} :
    form.checkNamed members = .ok () ↔ ∀ field ∈ form.needed, field ∈ Keyed.keys members := by
  have hfind : form.needed.find? (fun field => !Keyed.has field members) = none ↔
      ∀ field ∈ form.needed, field ∈ Keyed.keys members := by
    rw [List.find?_eq_none]
    simp only [Bool.not_eq_true', Bool.not_eq_false, Keyed.has, Keyed.get?_isSome_iff]
  rw [← hfind, checkNamed]
  cases form.needed.find? (fun field => !Keyed.has field members) <;> simp

theorem checkLength_iff (hform : form.Regular) {length : Nat} :
    form.checkLength length = .ok () ↔ length ≤ form.fields.length ∧
      ∀ field ∈ form.needed, field ∈ form.fields.take length := by
  have hmissing : form.firstMissing? length = none ↔
      ∀ field ∈ form.needed, field ∈ form.fields.take length := by
    have hsplit := hform.distinct
    rw [← List.take_append_drop length form.fields, List.nodup_append] at hsplit
    obtain ⟨-, -, hapart⟩ := hsplit
    rw [firstMissing?, Option.map_eq_none_iff, List.findIdx?_eq_none_iff, hform.inRow]
    simp only [decide_eq_false_iff_not]
    constructor
    · intro h field hfield
      have hmem := hform.needed field hfield
      rw [← List.take_append_drop length form.fields, List.mem_append] at hmem
      exact hmem.resolve_right fun hdrop => h field hdrop hfield
    · intro h field hdrop hfield
      exact hapart field (h field hfield) field hdrop rfl
  rw [checkLength, ← hmissing, hform.closed]
  cases form.firstMissing? length with
  | some place => simp
  | none => simp

/-- **The values that a record can be read from** are those that the grammar says. -/
theorem exists_decode_iff (hform : form.Regular) {Fits : String → Json → Prop} (h : form.Accepts Fits)
    {j : Json} : (∃ a, form.decode j = .ok a) ↔ j.IsRecord form.fields form.needed Fits := by
  have hexists : ∀ {check : Prop},
      (∃ a, form.setMembers (j.fieldValues form.fields) form.blank = .ok a ∧ check) ↔
        (∀ field i, (field, i) ∈ j.fieldValues form.fields → field ∈ form.fields → Fits field i) ∧
          check := by
    intro check
    rw [exists_and_right, exists_setMembers_iff h]
  simp only [decode_eq_ok_iff]
  rw [hexists]
  cases j with
  | object members =>
    simp only [checkNamed_iff]
    constructor
    · rintro ⟨hfits, hcomplete⟩
      exact .named hcomplete hfits
    · intro hrecord
      cases hrecord with
      | named hcomplete hfits => exact ⟨hfits, hcomplete⟩
  | array items =>
    simp only [checkLength_iff hform]
    constructor
    · rintro ⟨hfits, hwithin, hcomplete⟩
      exact .inRow hwithin hcomplete fun field i hi => hfits field i hi (List.of_mem_zip hi).1
    · intro hrecord
      cases hrecord with
      | inRow hwithin hcomplete hfits => exact ⟨fun field i hi _ => hfits field i hi, hwithin, hcomplete⟩
  | _ =>
    constructor
    · exact fun h => h.2.elim
    · rintro ⟨⟩

/-! ## 4. What is read into a field -/

/-- What stands in a part of a record, given the value that the part was to be read from: what was read
from it, or the default where none is given. -/
def ReadFrom (read : Json → Decoded β) (default : β) : Option Json → β → Prop
  | none, b => b = default
  | some j, b => read j = .ok b

/-- A part of the record is read from the values for one field, and from no others. -/
structure Reads (form : RecordForm α) (field : String) (part : α → β) (read : Json → Decoded β) :
    Prop where
  mem : field ∈ form.fields
  self : ∀ {j a b}, form.set field j a = .ok b → read j = .ok (part b)
  other : ∀ {field' j a b}, field' ∈ form.fields → field' ≠ field → form.set field' j a = .ok b →
    part b = part a

namespace Reads

variable {field : String} {part : α → β} {read : Json → Decoded β}

theorem of_setMembers (h : form.Reads field part read) : ∀ {members : Keyed Json} {a b : α},
    Keyed.Distinct members → form.setMembers members a = .ok b →
      ReadFrom read (part a) (Keyed.get? field members) (part b)
  | [], a, b, _, hset => by
    rw [setMembers] at hset
    rw [← Except.ok.inj hset]
    exact rfl
  | (field', j) :: members, a, b, hdistinct, hset => by
    obtain ⟨hnew, hdistinct⟩ := List.nodup_cons.mp hdistinct
    rw [setMembers] at hset
    rw [Keyed.get?]
    by_cases hfield : field' = field
    · -- the other members leave the part alone
      rw [hfield, if_pos h.mem] at hset
      obtain ⟨a₁, ha₁, hset⟩ := Decoded.bind_ok hset
      have hrest := of_setMembers h hdistinct hset
      rw [Keyed.get?_eq_none_of_notMem (hfield ▸ hnew)] at hrest
      rw [if_pos hfield]
      exact (h.self ha₁).trans (congrArg _ hrest.symm)
    · rw [if_neg hfield]
      split at hset
      · rename_i hmem
        obtain ⟨a₁, ha₁, hset⟩ := Decoded.bind_ok hset
        rw [← h.other hmem hfield ha₁]
        exact of_setMembers h hdistinct hset
      · exact of_setMembers h hdistinct hset

/-- **What is read into a part of a record** is the value given for its field. -/
theorem of_decode (h : form.Reads field part read) (hform : form.Regular) {j : Json}
    (hj : ∀ members, j = .object members → Keyed.Distinct members) {a : α}
    (hdecode : form.decode j = .ok a) :
    ReadFrom read (part form.blank) (Keyed.get? field (j.fieldValues form.fields)) (part a) := by
  refine h.of_setMembers ?_ (decode_eq_ok_iff.mp hdecode).1
  cases j with
  | object members => exact hj members rfl
  | array items => exact Keyed.distinct_zip hform.distinct items
  | _ => exact List.nodup_nil

/-- What an object gives for a field is what is read into its part. -/
theorem of_decode_object (h : form.Reads field part read) {members : Keyed Json}
    (hdistinct : Keyed.Distinct members) {a : α} (hdecode : form.decode (.object members) = .ok a)
    {j : Json} (hj : Keyed.get? field members = some j) : read j = .ok (part a) := by
  have hread := h.of_setMembers hdistinct (decode_eq_ok_iff.mp hdecode).1
  rwa [hj] at hread

end Reads

/-- A needed field of a record that was read was given. -/
theorem exists_get?_of_needed (hform : form.Regular) {j : Json} {a : α} (h : form.decode j = .ok a)
    {field : String} (hfield : field ∈ form.needed) :
    ∃ i, Keyed.get? field (j.fieldValues form.fields) = some i := by
  have hkeys : field ∈ Keyed.keys (j.fieldValues form.fields) := by
    obtain ⟨-, hchecked⟩ := decode_eq_ok_iff.mp h
    cases j with
    | object members => exact checkNamed_iff.mp hchecked field hfield
    | array items =>
      rw [Json.fieldValues, Keyed.keys_zip]
      exact ((checkLength_iff hform).mp hchecked).2 field hfield
    | _ => exact hchecked.elim
  exact Option.isSome_iff_exists.mp (Keyed.get?_isSome_iff.mpr hkeys)

/-! ## 5. Tables of fields -/

end RecordForm

/-- A field of a record: its name, how it is read, and the part of the record that it is kept in. -/
structure RecordField (α : Type) where
  name : String
  {Part : Type}
  read : Json → Decoded Part
  get : α → Part
  put : Part → α → α
  get_put : ∀ b a, get (put b a) = b := by intros; rfl

namespace RecordForm

variable {α : Type} {form : RecordForm α} {table : List (RecordField α)}

/-- The form has just the fields of the table, and sets each of them by reading a value and keeping it in
the field's own part, which is no part of any other field. -/
structure Tabulated (form : RecordForm α) (table : List (RecordField α)) : Prop where
  names : table.map (·.name) = form.fields
  set_eq : ∀ f ∈ table, ∀ j a, form.set f.name j a = do return f.put (← f.read j) a
  apart : ∀ f ∈ table, ∀ g ∈ table, g.name ≠ f.name → ∀ b a, f.get (g.put b a) = f.get a

namespace Tabulated

/-- What can be read into the fields of the record is what their readers can read. -/
theorem accepts (h : form.Tabulated table) {Fits : String → Json → Prop}
    (hfits : ∀ f ∈ table, ∀ j, (∃ b, f.read j = .ok b) ↔ Fits f.name j) : form.Accepts Fits := by
  intro field hfield j a
  rw [← h.names] at hfield
  obtain ⟨f, hf, rfl⟩ := List.mem_map.mp hfield
  rw [← hfits f hf, h.set_eq f hf]
  cases f.read j <;> simp [bind, Except.bind, pure, Except.pure]

/-- **Every field of a table is read from its own values**, and from no others. -/
theorem reads (h : form.Tabulated table) {f : RecordField α} (hf : f ∈ table) :
    form.Reads f.name f.get f.read where
  mem := h.names ▸ List.mem_map_of_mem hf
  self {j a b} hset := by
    rw [h.set_eq f hf] at hset
    obtain ⟨part, hread, hset⟩ := Decoded.bind_ok hset
    rw [hread, ← Except.ok.inj hset, f.get_put]
  other {field j a b} hfield hne hset := by
    rw [← h.names] at hfield
    obtain ⟨g, hg, rfl⟩ := List.mem_map.mp hfield
    rw [h.set_eq g hg] at hset
    obtain ⟨part, -, hset⟩ := Decoded.bind_ok hset
    rw [← Except.ok.inj hset, h.apart f hf g hg hne]

end Tabulated

end RecordForm

end CourseReview
