import CourseReview.Proofs.Outline.Grammar

/-!
# What a node is read from

Reading a node loses nothing.  This file says, without a decoder, what has to stand in every field of a
JSON value so that a given node is what it says (`OwnFieldsFrom`, `ChildMapFrom`), and proves that a node
which was read is what its value says.

* A field of its own is what the value given for it says, or its default when none is given.  This comes
  from the table of fields of each record (`RecordForm.Tabulated.fieldFrom`).
* A child map that is given has a node for every entry, in their order, and each of them is the one that is
  read from the value of its own entry.  So a value inside that is no node spoils the whole.

With the grammar both come together in `Node.decode_exactly`.
-/

namespace CourseReview

open Json

/-! ## 1. What values say -/

/-- The value says that text. -/
def TextFrom (j : Json) (s : String) : Prop :=
  j = .string s

/-- The value says that flag. -/
def FlagFrom (j : Json) (b : Bool) : Prop :=
  j = .bool b

/-- The value says that integer. -/
def IntFrom (j : Json) (n : Int) : Prop :=
  j = .ofInt n

section Collections

variable {α : Type}

/-- An optional value: `null` says that there is none, and any other value says what it is. -/
inductive OptionalFrom (From : Json → α → Prop) : Json → Option α → Prop
  | null : OptionalFrom From .null none
  | some {j : Json} {a : α} (present : j ≠ .null) (said : From j a) : OptionalFrom From j (some a)

/-- A list: an array says its values one by one, in order. -/
inductive ListFrom (From : Json → α → Prop) : Json → List α → Prop
  | array {items : List Json} {as : List α} (said : List.Forall₂ From items as) :
      ListFrom From (.array items) as

/-- A part of a record for which a value is needed: what the value given for it says. -/
inductive NeededFrom (From : Json → α → Prop) : Option Json → α → Prop
  | given {j : Json} {a : α} (said : From j a) : NeededFrom From (some j) a

/-- A part of a record: its default when no value is given for it, and otherwise what the value says. -/
inductive FieldFrom (From : Json → α → Prop) (default : α) : Option Json → α → Prop
  | missing : FieldFrom From default none default
  | given {j : Json} {a : α} (said : From j a) : FieldFrom From default (some j) a

variable {From : Json → α → Prop} {default a : α} {j : Json}

@[simp] theorem fieldFrom_none_iff : FieldFrom From default none a ↔ a = default := by
  constructor
  · rintro ⟨⟩; rfl
  · rintro rfl; exact .missing

@[simp] theorem fieldFrom_some_iff : FieldFrom From default (some j) a ↔ From j a := by
  constructor
  · rintro (_ | said); exact said
  · exact .given

@[simp] theorem neededFrom_some_iff : NeededFrom From (some j) a ↔ From j a := by
  constructor
  · rintro ⟨said⟩; exact said
  · exact .given

theorem optionalFrom_iff_of_ne_null {o : Option α} (hj : j ≠ .null) :
    OptionalFrom From j o ↔ ∃ a, o = some a ∧ From j a := by
  constructor
  · rintro (_ | ⟨-, said⟩)
    · exact absurd rfl hj
    · exact ⟨_, rfl, said⟩
  · rintro ⟨a, rfl, said⟩
    exact .some hj said

end Collections

/-! The fields of the records in declared order. -/

def versionFields : List String :=
  ["id", "date"]

def versionStatusFields : List String :=
  ["applied", "applied_version", "latest_version", "versions"]

def statusFields : List String :=
  ["approved", "destination_flag", "is_fully_translated", "applied", "parsed_block", "last_fetched",
    "approved_by"]

def linksFields : List String :=
  ["page_url", "page_group_url"]

/-- The values given for its fields say that version. -/
structure VersionFrom (given : Keyed Json) (v : Version) : Prop where
  id : NeededFrom IntFrom (Keyed.get? "id" given) v.id
  date : FieldFrom (OptionalFrom TextFrom) none (Keyed.get? "date" given) v.date

/-- The values given for its fields say that version status. -/
structure VersionStatusFrom (given : Keyed Json) (vs : VersionStatus) : Prop where
  applied : FieldFrom FlagFrom false (Keyed.get? "applied" given) vs.applied
  appliedVersion :
    FieldFrom (OptionalFrom IntFrom) none (Keyed.get? "applied_version" given) vs.appliedVersion
  latestVersion :
    FieldFrom (OptionalFrom IntFrom) none (Keyed.get? "latest_version" given) vs.latestVersion
  versions : FieldFrom (ListFrom fun j => VersionFrom (j.fieldValues versionFields)) []
    (Keyed.get? "versions" given) vs.versions

/-- The values given for its fields say that status. -/
structure StatusFrom (given : Keyed Json) (s : Status) : Prop where
  approved : FieldFrom FlagFrom false (Keyed.get? "approved" given) s.approved
  destinationFlag :
    FieldFrom FlagFrom false (Keyed.get? "destination_flag" given) s.destinationFlag
  isFullyTranslated :
    FieldFrom FlagFrom false (Keyed.get? "is_fully_translated" given) s.isFullyTranslated
  applied : FieldFrom FlagFrom false (Keyed.get? "applied" given) s.applied
  parsedBlock : FieldFrom FlagFrom false (Keyed.get? "parsed_block" given) s.parsedBlock
  lastFetched :
    FieldFrom (OptionalFrom TextFrom) none (Keyed.get? "last_fetched" given) s.lastFetched
  approvedBy : FieldFrom (OptionalFrom TextFrom) none (Keyed.get? "approved_by" given) s.approvedBy

/-- The values given for their fields say those links. -/
structure LinksFrom (given : Keyed Json) (l : Links) : Prop where
  pageUrl : FieldFrom (OptionalFrom TextFrom) none (Keyed.get? "page_url" given) l.pageUrl
  pageGroupUrl :
    FieldFrom (OptionalFrom TextFrom) none (Keyed.get? "page_group_url" given) l.pageGroupUrl

/-- The values given for its fields say what the node itself holds, apart from the two child maps.  The
payload is the value itself, and nothing is set aside. -/
structure OwnFieldsFrom (given : Keyed Json) (n : Node) : Prop where
  usageKey : NeededFrom TextFrom (Keyed.get? "usage_key" given) n.usageKey
  category : FieldFrom TextFrom "" (Keyed.get? "category" given) n.category
  data : FieldFrom Eq .null (Keyed.get? "data" given) n.data
  status : FieldFrom (OptionalFrom fun j => StatusFrom (j.fieldValues statusFields)) none
    (Keyed.get? "status" given) n.status
  versionStatus :
    FieldFrom (OptionalFrom fun j => VersionStatusFrom (j.fieldValues versionStatusFields)) none
      (Keyed.get? "version_status" given) n.versionStatus
  links : FieldFrom (OptionalFrom fun j => LinksFrom (j.fieldValues linksFields)) none
    (Keyed.get? "links" given) n.links
  previous : n.previous = none

/-! ## 2. Readers that read what is said -/

/-- What the reader reads from a value without repeated names is what the value says. -/
def Tells {α : Type} (read : Json → Decoded α) (From : Json → α → Prop) : Prop :=
  ∀ j a, j.DistinctNames → read j = .ok a → From j a

theorem tells_decodeString : Tells decodeString TextFrom := by
  intro j s _ h
  cases j with
  | string s' => rw [← Except.ok.inj h]; exact rfl
  | _ => cases h

theorem tells_decodeBool : Tells decodeBool FlagFrom := by
  intro j b _ h
  cases j with
  | bool b' => rw [← Except.ok.inj h]; exact rfl
  | _ => cases h

theorem tells_decodeInt64 : Tells decodeInt64 IntFrom := by
  intro j n _ h
  rw [decodeInt64] at h
  cases j with
  | number x =>
    cases x with
    | int m =>
      rw [decodeInt] at h
      split at h
      · rw [← Except.ok.inj h]; exact rfl
      · cases h
    | real x => cases h
  | _ => cases h

section Collections

variable {α : Type} {read : Json → Decoded α} {From : Json → α → Prop}

theorem Tells.option (h : Tells read From) : Tells (decodeOption read) (OptionalFrom From) := by
  intro j o hj hread
  have hsome : j ≠ .null → (read j).map some = .ok o → OptionalFrom From j o := by
    intro hnull hmap
    cases ha : read j with
    | error e => rw [ha] at hmap; cases hmap
    | ok a =>
      rw [ha] at hmap
      rw [← Except.ok.inj hmap]
      exact .some hnull (h j a hj ha)
  cases j with
  | null => rw [← Except.ok.inj hread]; exact .null
  | _ => exact hsome (by simp) hread

theorem Tells.mapM (h : Tells read From) : ∀ {items : List Json} {as : List α},
    (∀ i ∈ items, i.DistinctNames) → items.mapM read = .ok as → List.Forall₂ From items as
  | [], as, _, hread => by
    rw [← Except.ok.inj hread]
    exact .nil
  | i :: items, as, hitems, hread => by
    rw [List.mapM_cons] at hread
    obtain ⟨a, ha, hread⟩ := Decoded.bind_ok hread
    obtain ⟨rest, hrest, hread⟩ := Decoded.bind_ok hread
    obtain ⟨hi, hitems⟩ := List.forall_mem_cons.mp hitems
    rw [← Except.ok.inj hread]
    exact .cons (h i a hi ha) (h.mapM hitems hrest)

theorem Tells.list (h : Tells read From) : Tells (decodeList read) (ListFrom From) := by
  intro j as hj hread
  cases j with
  | array items => exact .array (h.mapM (DistinctNames.array_iff.mp hj) hread)
  | _ => cases hread

/-- **Every field of a table is what the values say**, when its reader reads what they say. -/
theorem RecordForm.Tabulated.fieldFrom {β : Type} {form : RecordForm β} {table : List (RecordField β)}
    (h : form.Tabulated table) (hform : form.Regular) {j : Json} (hj : j.DistinctNames) {b : β}
    (hdecode : form.decode j = .ok b) :
    ∀ f ∈ table, ∀ From, Tells f.read From →
      FieldFrom From (f.get form.blank) (Keyed.get? f.name (j.fieldValues form.fields)) (f.get b) := by
  intro f hf From htells
  have hread := (h.reads hf).of_decode hform (fun members heq => DistinctNames.distinct (heq ▸ hj))
    hdecode
  cases hgiven : Keyed.get? f.name (j.fieldValues form.fields) with
  | none =>
    rw [hgiven] at hread
    exact fieldFrom_none_iff.mpr hread
  | some i =>
    rw [hgiven] at hread
    have hi := hj.part (mem_parts_of_mem_fieldValues (Keyed.mem_of_get? hgiven))
    exact .given (htells i _ hi hread)

/-- What is true of the default and of all that can be said is true of the part. -/
theorem FieldFrom.elim {P : α → Prop} {default a : α} {o : Option Json}
    (h : FieldFrom (fun _ => P) default o a) (hdefault : P default) : P a := by
  cases h with
  | missing => exact hdefault
  | given said => exact said

/-- Of a field for which a value is given the default does not matter. -/
theorem FieldFrom.needed {default a : α} {o : Option Json} (h : FieldFrom From default o a)
    (hgiven : ∃ j, o = some j) : NeededFrom From o a := by
  cases h with
  | missing => obtain ⟨_, heq⟩ := hgiven; cases heq
  | given said => exact .given said

end Collections

/-! ## 3. The records of a node -/

theorem Version.tells : Tells form.decode fun j => VersionFrom (j.fieldValues versionFields) := by
  intro j v hj h
  have hfields := tabulated.fieldFrom form_regular hj h
  simp only [fieldTable, List.forall_mem_cons] at hfields
  obtain ⟨hid, hdate, -⟩ := hfields
  exact
    { id := (hid _ tells_decodeInt64).needed
        (RecordForm.exists_get?_of_needed form_regular h (by decide))
      date := hdate _ tells_decodeString.option }

theorem VersionStatus.tells :
    Tells form.decode fun j => VersionStatusFrom (j.fieldValues versionStatusFields) := by
  intro j vs hj h
  have hfields := tabulated.fieldFrom form_regular hj h
  simp only [fieldTable, List.forall_mem_cons] at hfields
  obtain ⟨happlied, happliedVersion, hlatest, hversions, -⟩ := hfields
  exact
    { applied := happlied _ tells_decodeBool
      appliedVersion := happliedVersion _ tells_decodeInt64.option
      latestVersion := hlatest _ tells_decodeInt64.option
      versions := hversions _ Version.tells.list }

theorem Status.tells : Tells form.decode fun j => StatusFrom (j.fieldValues statusFields) := by
  intro j s hj h
  have hfields := tabulated.fieldFrom form_regular hj h
  simp only [fieldTable, List.forall_mem_cons] at hfields
  obtain ⟨happroved, hdestination, hfully, happlied, hparsed, hfetched, hby, -⟩ := hfields
  exact
    { approved := happroved _ tells_decodeBool
      destinationFlag := hdestination _ tells_decodeBool
      isFullyTranslated := hfully _ tells_decodeBool
      applied := happlied _ tells_decodeBool
      parsedBlock := hparsed _ tells_decodeBool
      lastFetched := hfetched _ tells_decodeString.option
      approvedBy := hby _ tells_decodeString.option }

theorem Links.tells : Tells form.decode fun j => LinksFrom (j.fieldValues linksFields) := by
  intro j l hj h
  have hfields := tabulated.fieldFrom form_regular hj h
  simp only [fieldTable, List.forall_mem_cons] at hfields
  obtain ⟨hpage, hgroup, -⟩ := hfields
  exact
    { pageUrl := hpage _ tells_decodeString.option
      pageGroupUrl := hgroup _ tells_decodeString.option }

/-! ## 4. Child maps -/

/-- What a child map was read from: nothing and `null` give no map, an empty list gives an empty map, and
an object gives a node for each member, under its name and in its place, which is the one that is read
from the member's own value. -/
inductive ChildMapFrom : Option Json → Option ChildMap → Prop
  | missing : ChildMapFrom none none
  | null : ChildMapFrom (some .null) none
  | emptyList : ChildMapFrom (some (.array [])) (some [])
  | object {members : Keyed Json} {m : ChildMap}
      (entries : List.Forall₂ (fun e c => c.1 = e.1 ∧ Node.decode e.2 = .ok c.2) members m) :
      ChildMapFrom (some (.object members)) (some m)

theorem childMapFrom_some_iff {j : Json} {m : Option ChildMap} :
    ChildMapFrom (some j) m ↔ Node.decodeChildren j = .ok m := by
  constructor
  · rintro (_ | _ | _ | ⟨entries⟩)
    · rfl
    · rfl
    · rw [Node.decodeChildren, Node.decodeEntries_eq_ok_iff.mpr entries]
  · intro h
    cases j with
    | null => rw [← Except.ok.inj h]; exact .null
    | array items =>
      cases items with
      | nil => rw [← Except.ok.inj h]; exact .emptyList
      | cons i items => simp [Node.decodeChildren] at h
    | object members =>
      rw [Node.decodeChildren] at h
      split at h
      · rename_i entries hentries
        rw [← Except.ok.inj h]
        exact .object (Node.decodeEntries_eq_ok_iff.mp hentries)
      · cases h
    | _ => simp [Node.decodeChildren] at h

/-! ## 5. Nodes -/

namespace Node

/-- What a node holds is what the values of its fields say, and a child map is read from its own value. -/
theorem fieldsFrom_of_decode {j : Json} (hj : j.DistinctNames) {n : Node} (h : decode j = .ok n) :
    OwnFieldsFrom (j.fieldValues nodeFields) n ∧ ∀ slot : ChildSlot,
      ChildMapFrom (Keyed.get? slot.field (j.fieldValues nodeFields)) (slot.get n) := by
  have hunpreviewed := unpreviewed_of_decode h
  rw [decode_eq] at h
  have hfields := tabulated.fieldFrom wholeForm_regular hj h
  simp only [fieldTable, List.forall_mem_cons] at hfields
  obtain ⟨hkey, hcategory, hdata, hstatus, hversions, hlinks, hchildren, hunits, -⟩ := hfields
  have hmap : ∀ {o : Option Json} {m : Option ChildMap},
      FieldFrom (fun j m => ChildMapFrom (some j) m) none o m → ChildMapFrom o m := by
    rintro _ _ (_ | said)
    · exact .missing
    · exact said
  refine ⟨?_, fun slot => ?_⟩
  · exact
      { usageKey := (hkey _ tells_decodeString).needed
          (RecordForm.exists_get?_of_needed wholeForm_regular h (by decide))
        category := hcategory _ tells_decodeString
        data := hdata _ fun _ _ _ hread => Except.ok.inj hread
        status := hstatus _ Status.tells.option
        versionStatus := hversions _ VersionStatus.tells.option
        links := hlinks _ Links.tells.option
        previous := (unpreviewed_iff.mp hunpreviewed).1 }
  · cases slot with
    | children => exact hmap (hchildren _ fun _ _ _ => childMapFrom_some_iff.mpr)
    | units => exact hmap (hunits _ fun _ _ _ => childMapFrom_some_iff.mpr)

end Node

/-- A value that stands where a node belongs: the value itself, or a member of an object in the place of
a child map of such a value. -/
inductive Json.NodeWithin (j : Json) : Json → Prop
  | here : NodeWithin j j
  | member {i c : Json} {members : Keyed Json} {id : String} (slot : ChildSlot) (at_ : NodeWithin j i)
      (given : (slot.field, .object members) ∈ i.fieldValues nodeFields) (entry : (id, c) ∈ members) :
      NodeWithin j c

/-- Where a node belongs within a node stands a node. -/
theorem Json.IsNode.nodeWithin {j i : Json} (hj : j.IsNode) (hi : j.NodeWithin i) : i.IsNode := by
  induction hi with
  | here => exact hj
  | member slot _ given entry ih =>
    obtain ⟨isRecord⟩ := ih
    have hfield : slot.field ∈ nodeFields := by cases slot <;> decide
    obtain ⟨-, -, -, -, nodes⟩ := isRecord.fits hfield given
    have hmap := nodes (by cases slot <;> decide)
    cases hmap with
    | object nodes => exact nodes _ _ entry

/-- **A node is read from just the values that are nodes by the grammar, and nothing of it is lost.**  For
every value,

* it can be read as a node exactly when it is one by the grammar;
* if it was read, then every field of the node itself is what the value given for it says, or its default
  when none is given; and each child map has an entry for every member of the object that was given, under
  its name and in its place, with the node that is read from the member by itself; an empty list gives an
  empty map, `null` and nothing give none;
* if anywhere inside, where a node belongs, stands a value that is none, then nothing is read. -/
theorem Node.decode_exactly (j : Json) :
    ((∃ n, decode j = .ok n) ↔ j.IsNode) ∧
      (j.DistinctNames → ∀ n, decode j = .ok n → OwnFieldsFrom (j.fieldValues nodeFields) n ∧
        ∀ slot : ChildSlot,
          ChildMapFrom (Keyed.get? slot.field (j.fieldValues nodeFields)) (slot.get n)) ∧
      (∀ i, j.NodeWithin i → ¬ i.IsNode → ∃ e, decode j = .error e) := by
  refine ⟨exists_decode_iff, fun hj n hn => fieldsFrom_of_decode hj hn, fun i hi hnode => ?_⟩
  cases hdecode : decode j with
  | error e => exact ⟨e, rfl⟩
  | ok n => exact absurd ((exists_decode_iff.mp ⟨n, hdecode⟩).nodeWithin hi) hnode

namespace Sample

/-- A chapter with a status and an empty list of units. -/
def chapterJson : Json :=
  .object [("usage_key", .string "chapter"), ("status", .object [("approved", .bool true)]),
    ("units", .array [])]

/-- A course with that chapter and another value beside it, given as a row. -/
def courseJson (other : Json) : Json :=
  .array [.string "course", .string "course", .null, .null, .null, .null,
    .object [("S1", chapterJson), ("S2", other)]]

end Sample

open Sample in
/-- Two chapters are read one by one with what they hold, and one that lacks its key spoils the course. -/
theorem Node.decode_course_exactly :
    (courseJson chapterJson).IsNode ∧
      (∃ n s₁ s₂, decode (courseJson chapterJson) = .ok n ∧ n.usageKey = "course" ∧
        n.children = some [("S1", s₁), ("S2", s₂)] ∧ decode chapterJson = .ok s₁ ∧
          decode chapterJson = .ok s₂ ∧ s₁.status.map (·.approved) = some true) ∧
      ∃ e, decode (courseJson (.object [])) = .error e := by
  obtain ⟨hiff, hfields, -⟩ := decode_exactly (courseJson chapterJson)
  obtain ⟨-, hchapter, -⟩ := decode_exactly chapterJson
  obtain ⟨-, -, hspoilt⟩ := decode_exactly (courseJson (.object []))
  obtain ⟨n, hn⟩ : ∃ n, decode (courseJson chapterJson) = .ok n := ⟨_, rfl⟩
  refine ⟨hiff.mp ⟨n, hn⟩, ?_, ?_⟩
  · obtain ⟨hown, hmaps⟩ := hfields (by simp [courseJson, chapterJson, Keyed.Distinct]) n hn
    have hkey : n.usageKey = "course" := by
      have hsaid : TextFrom (.string "course") n.usageKey := neededFrom_some_iff.mp hown.usageKey
      exact (Json.string.inj hsaid).symm
    have hchildren : ChildMapFrom (some (.object [("S1", chapterJson), ("S2", chapterJson)]))
        n.children := hmaps .children
    obtain ⟨o, ho⟩ : ∃ o, n.children = o := ⟨_, rfl⟩
    rw [ho] at hchildren
    cases hchildren with
    | object entries =>
      obtain ⟨⟨_, s₁⟩, _, ⟨rfl, h₁⟩, second, rfl⟩ := List.forall₂_cons_left_iff.mp entries
      obtain ⟨⟨_, s₂⟩, _, ⟨rfl, h₂⟩, hend, rfl⟩ := List.forall₂_cons_left_iff.mp second
      rw [List.forall₂_nil_left_iff.mp hend] at ho
      refine ⟨n, s₁, s₂, hn, hkey, ho, h₁, h₂, ?_⟩
      obtain ⟨hown, -⟩ := hchapter (by simp [chapterJson, Keyed.Distinct]) s₁ h₁
      obtain ⟨status, hsome, said⟩ :=
        (optionalFrom_iff_of_ne_null (by simp)).mp (fieldFrom_some_iff.mp hown.status)
      have happroved : FlagFrom (.bool true) status.approved := fieldFrom_some_iff.mp said.approved
      rw [hsome, Option.map_some, ← Json.bool.inj happroved]
  · have hgiven : (ChildSlot.children.field, .object [("S1", chapterJson), ("S2", .object [])]) ∈
        (courseJson (.object [])).fieldValues nodeFields := by
      simp [courseJson, fieldValues, nodeFields, ChildSlot.field]
    have hentry : ("S2", Json.object []) ∈ [("S1", chapterJson), ("S2", .object [])] := by simp
    refine hspoilt (.object []) (.member .children .here hgiven hentry) ?_
    rintro ⟨⟨complete, -⟩⟩
    exact absurd (complete "usage_key" (by decide)) (by decide)

end CourseReview
