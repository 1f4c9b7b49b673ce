import Mathlib.Data.List.Forall2
import CourseReview.Proofs.Json.Records

/-!
# The grammar of nodes

A node can be read from a JSON value by trying: its fields are read one after another, and for a child
map a map of nodes is tried before an empty list.  This file says by a grammar which values are nodes
(`Json.IsNode`), and settles that these are just the ones that can be read (`Node.exists_decode_iff`).

Each record has a table of its fields (`RecordForm.Tabulated`).  What can be read into the record follows
from what the readers in the table can read.
-/

namespace CourseReview

namespace Json

/-! ## 1. The grammar -/

/-- A text. -/
def IsText (j : Json) : Prop :=
  ∃ s, j = .string s

/-- A flag. -/
def IsFlag (j : Json) : Prop :=
  ∃ b, j = .bool b

/-- An integer of 64 bits with a sign. -/
def IsInt64 (j : Json) : Prop :=
  ∃ n : Int, j = .ofInt n ∧ Decimal.fitsInt64 n = true

/-- `null`, or a value of that kind. -/
def IsOptional (Kind : Json → Prop) (j : Json) : Prop :=
  j = .null ∨ Kind j

/-- An array of values of that kind. -/
def IsList (Kind : Json → Prop) (j : Json) : Prop :=
  ∃ items, j = .array items ∧ ∀ i ∈ items, Kind i

/-- Whether a value fits a field of a version. -/
def FitsVersion (field : String) (j : Json) : Prop :=
  (field = "id" → j.IsInt64) ∧ (field = "date" → j.IsOptional IsText)

/-- A version: its `id` is needed. -/
def IsVersion (j : Json) : Prop :=
  j.IsRecord ["id", "date"] ["id"] FitsVersion

/-- Whether a value fits a field of a version status. -/
def FitsVersionStatus (field : String) (j : Json) : Prop :=
  (field = "applied" → j.IsFlag) ∧
    (field = "applied_version" ∨ field = "latest_version" → j.IsOptional IsInt64) ∧
    (field = "versions" → j.IsList IsVersion)

/-- A version status: nothing is needed. -/
def IsVersionStatus (j : Json) : Prop :=
  j.IsRecord ["applied", "applied_version", "latest_version", "versions"] [] FitsVersionStatus

/-- Whether a value fits a field of a status. -/
def FitsStatus (field : String) (j : Json) : Prop :=
  (field ∈ ["approved", "destination_flag", "is_fully_translated", "applied", "parsed_block"] →
    j.IsFlag) ∧
    (field = "last_fetched" ∨ field = "approved_by" → j.IsOptional IsText)

/-- A status: nothing is needed. -/
def IsStatus (j : Json) : Prop :=
  j.IsRecord ["approved", "destination_flag", "is_fully_translated", "applied", "parsed_block",
    "last_fetched", "approved_by"] [] FitsStatus

/-- Whether a value fits a field of the links. -/
def FitsLinks (field : String) (j : Json) : Prop :=
  field = "page_url" ∨ field = "page_group_url" → j.IsOptional IsText

/-- Links: nothing is needed. -/
def IsLinks (j : Json) : Prop :=
  j.IsRecord ["page_url", "page_group_url"] [] FitsLinks

/-- The fields of a node in declared order. -/
def nodeFields : List String :=
  ["usage_key", "category", "data", "status", "version_status", "links", "children", "units"]

mutual

/-- A node: its `usage_key` is needed. -/
inductive IsNode : Json → Prop
  | intro {j : Json} (isRecord : j.IsRecord nodeFields ["usage_key"] FitsNode) : IsNode j

/-- Whether a value fits a field of a node. -/
inductive FitsNode : String → Json → Prop
  | intro {field : String} {j : Json}
      (text : field = "usage_key" ∨ field = "category" → j.IsText)
      (status : field = "status" → j.IsOptional IsStatus)
      (versionStatus : field = "version_status" → j.IsOptional IsVersionStatus)
      (links : field = "links" → j.IsOptional IsLinks)
      (nodes : field = "children" ∨ field = "units" → IsChildMap j) : FitsNode field j

/-- What can stand in the place of a child map: nothing, an empty list, or nodes by their ids. -/
inductive IsChildMap : Json → Prop
  | absent : IsChildMap .null
  | emptyList : IsChildMap (.array [])
  | object {members : Keyed Json} (nodes : ∀ id j, (id, j) ∈ members → IsNode j) :
      IsChildMap (.object members)

end

/-- What it is to fit a field of a node, given what can stand in the place of a child map. -/
def FitsNodeBut (ChildMap : Json → Prop) (field : String) (j : Json) : Prop :=
  (field = "usage_key" ∨ field = "category" → j.IsText) ∧
    (field = "status" → j.IsOptional IsStatus) ∧
    (field = "version_status" → j.IsOptional IsVersionStatus) ∧
    (field = "links" → j.IsOptional IsLinks) ∧
    (field = "children" ∨ field = "units" → ChildMap j)

theorem fitsNode_iff {field : String} {j : Json} :
    FitsNode field j ↔ FitsNodeBut IsChildMap field j := by
  constructor
  · rintro ⟨text, status, versionStatus, links, nodes⟩
    exact ⟨text, status, versionStatus, links, nodes⟩
  · rintro ⟨text, status, versionStatus, links, nodes⟩
    exact ⟨text, status, versionStatus, links, nodes⟩

/-! ## 2. Scalars, options and lists -/

theorem exists_decodeString {j : Json} : (∃ s, decodeString j = .ok s) ↔ j.IsText := by
  cases j <;> simp [decodeString, IsText]

theorem exists_decodeBool {j : Json} : (∃ b, decodeBool j = .ok b) ↔ j.IsFlag := by
  cases j <;> simp [decodeBool, IsFlag]

theorem exists_decodeInt64 {j : Json} : (∃ n, decodeInt64 j = .ok n) ↔ j.IsInt64 := by
  cases j with
  | number x =>
    cases x with
    | int n =>
      cases hfits : Decimal.fitsInt64 n <;> simp [decodeInt64, decodeInt, IsInt64, ofInt, hfits]
    | real x => simp [decodeInt64, decodeInt, IsInt64, ofInt]
  | _ => simp [decodeInt64, decodeInt, IsInt64, ofInt]

section Collections

variable {α : Type} {read : Json → Decoded α} {Kind : Json → Prop}

theorem exists_decodeOption (h : ∀ j, (∃ a, read j = .ok a) ↔ Kind j) {j : Json} :
    (∃ o, decodeOption read j = .ok o) ↔ j.IsOptional Kind := by
  have hmap : ∀ x : Decoded α, (∃ o, x.map some = .ok o) ↔ ∃ a, x = .ok a := by
    intro x
    cases x <;> simp [Except.map]
  cases j with
  | null => simp [decodeOption, IsOptional]
  | _ => rw [decodeOption, hmap, h, IsOptional] <;> simp

theorem exists_mapM (h : ∀ j, (∃ a, read j = .ok a) ↔ Kind j) :
    ∀ {items : List Json}, (∃ as, items.mapM read = .ok as) ↔ ∀ i ∈ items, Kind i
  | [] => by simp [pure, Except.pure]
  | i :: items => by
    rw [List.forall_mem_cons, ← h i, ← exists_mapM h, List.mapM_cons]
    cases read i with
    | error e => simp [bind, Except.bind]
    | ok a =>
      cases items.mapM read with
      | error e => simp [bind, Except.bind]
      | ok as => simp [bind, Except.bind, pure, Except.pure]

theorem exists_decodeList (h : ∀ j, (∃ a, read j = .ok a) ↔ Kind j) {j : Json} :
    (∃ as, decodeList read j = .ok as) ↔ j.IsList Kind := by
  cases j with
  | array items =>
    rw [decodeList, exists_mapM h, IsList]
    constructor
    · exact fun hitems => ⟨items, rfl, hitems⟩
    · rintro ⟨items', hsame, hitems⟩
      rwa [Json.array.inj hsame]
  | _ => simp [decodeList, IsList]

end Collections

end Json

open Json

/-! ## 3. The records of a node -/

/-- The fields of a version. -/
def Version.fieldTable : List (RecordField Version) :=
  [{ name := "id", read := decodeInt64, get := (·.id), put := fun id v => { v with id } },
    { name := "date", read := decodeOption decodeString, get := (·.date),
      put := fun date v => { v with date } }]

theorem Version.tabulated : form.Tabulated fieldTable where
  names := rfl
  set_eq := by simp [fieldTable, form]
  apart := by simp [fieldTable]

theorem Version.form_regular : form.Regular :=
  ⟨by decide, by decide, rfl, rfl⟩

theorem Version.exists_decode_iff {j : Json} : (∃ v, form.decode j = .ok v) ↔ j.IsVersion := by
  refine RecordForm.exists_decode_iff form_regular (tabulated.accepts ?_)
  simp [fieldTable, FitsVersion, exists_decodeInt64, exists_decodeOption fun _ => exists_decodeString]

/-- The fields of a version status. -/
def VersionStatus.fieldTable : List (RecordField VersionStatus) :=
  [{ name := "applied", read := decodeBool, get := (·.applied),
      put := fun applied vs => { vs with applied } },
    { name := "applied_version", read := decodeOption decodeInt64, get := (·.appliedVersion),
      put := fun appliedVersion vs => { vs with appliedVersion } },
    { name := "latest_version", read := decodeOption decodeInt64, get := (·.latestVersion),
      put := fun latestVersion vs => { vs with latestVersion } },
    { name := "versions", read := decodeList Version.form.decode, get := (·.versions),
      put := fun versions vs => { vs with versions } }]

theorem VersionStatus.tabulated : form.Tabulated fieldTable where
  names := rfl
  set_eq := by simp [fieldTable, form]
  apart := by simp [fieldTable]

theorem VersionStatus.form_regular : form.Regular :=
  ⟨by decide, by decide, rfl, rfl⟩

theorem VersionStatus.exists_decode_iff {j : Json} :
    (∃ vs, form.decode j = .ok vs) ↔ j.IsVersionStatus := by
  refine RecordForm.exists_decode_iff form_regular (tabulated.accepts ?_)
  simp [fieldTable, FitsVersionStatus, exists_decodeBool, -Bool.exists_bool,
    exists_decodeOption fun _ => exists_decodeInt64,
    exists_decodeList fun _ => Version.exists_decode_iff]

/-- The fields of a status. -/
def Status.fieldTable : List (RecordField Status) :=
  [{ name := "approved", read := decodeBool, get := (·.approved),
      put := fun approved s => { s with approved } },
    { name := "destination_flag", read := decodeBool, get := (·.destinationFlag),
      put := fun destinationFlag s => { s with destinationFlag } },
    { name := "is_fully_translated", read := decodeBool, get := (·.isFullyTranslated),
      put := fun isFullyTranslated s => { s with isFullyTranslated } },
    { name := "applied", read := decodeBool, get := (·.applied),
      put := fun applied s => { s with applied } },
    { name := "parsed_block", read := decodeBool, get := (·.parsedBlock),
      put := fun parsedBlock s => { s with parsedBlock } },
    { name := "last_fetched", read := decodeOption decodeString, get := (·.lastFetched),
      put := fun lastFetched s => { s with lastFetched } },
    { name := "approved_by", read := decodeOption decodeString, get := (·.approvedBy),
      put := fun approvedBy s => { s with approvedBy } }]

theorem Status.tabulated : form.Tabulated fieldTable where
  names := rfl
  set_eq := by simp [fieldTable, form]
  apart := by simp [fieldTable]

theorem Status.form_regular : form.Regular :=
  ⟨by decide, by decide, rfl, rfl⟩

theorem Status.exists_decode_iff {j : Json} : (∃ s, form.decode j = .ok s) ↔ j.IsStatus := by
  refine RecordForm.exists_decode_iff form_regular (tabulated.accepts ?_)
  simp [fieldTable, FitsStatus, exists_decodeBool, -Bool.exists_bool,
    exists_decodeOption fun _ => exists_decodeString]

/-- The fields of the links. -/
def Links.fieldTable : List (RecordField Links) :=
  [{ name := "page_url", read := decodeOption decodeString, get := (·.pageUrl),
      put := fun pageUrl l => { l with pageUrl } },
    { name := "page_group_url", read := decodeOption decodeString, get := (·.pageGroupUrl),
      put := fun pageGroupUrl l => { l with pageGroupUrl } }]

theorem Links.tabulated : form.Tabulated fieldTable where
  names := rfl
  set_eq := by simp [fieldTable, form]
  apart := by simp [fieldTable]

theorem Links.form_regular : form.Regular :=
  ⟨by decide, by decide, rfl, rfl⟩

theorem Links.exists_decode_iff {j : Json} : (∃ l, form.decode j = .ok l) ↔ j.IsLinks := by
  refine RecordForm.exists_decode_iff form_regular (tabulated.accepts ?_)
  simp [fieldTable, FitsLinks, exists_decodeOption fun _ => exists_decodeString]

/-! ## 4. Nodes as records -/

/-- The field that holds the map. -/
def ChildSlot.field : ChildSlot → String
  | .children => "children"
  | .units => "units"

namespace Node

/-- The form of a node with its two child maps: the rest of the fields are those of `form`. -/
def wholeForm : RecordForm Node :=
  { form with
    set := fun field j n =>
      if field = "children" then return { n with children := ← decodeChildren j }
      else if field = "units" then return { n with units := ← decodeChildren j }
      else form.set field j n }

theorem wholeForm_regular : wholeForm.Regular :=
  ⟨by decide, by decide, rfl, rfl⟩

/-- The eight fields of a node. -/
def fieldTable : List (RecordField Node) :=
  [{ name := "usage_key", read := decodeString, get := (·.usageKey),
      put := fun usageKey n => { n with usageKey } },
    { name := "category", read := decodeString, get := (·.category),
      put := fun category n => { n with category } },
    { name := "data", read := .ok, get := (·.data), put := fun data n => { n with data } },
    { name := "status", read := decodeOption Status.form.decode, get := (·.status),
      put := fun status n => { n with status } },
    { name := "version_status", read := decodeOption VersionStatus.form.decode,
      get := (·.versionStatus), put := fun versionStatus n => { n with versionStatus } },
    { name := "links", read := decodeOption Links.form.decode, get := (·.links),
      put := fun links n => { n with links } },
    { name := "children", read := decodeChildren, get := (·.children),
      put := fun children n => { n with children } },
    { name := "units", read := decodeChildren, get := (·.units),
      put := fun units n => { n with units } }]

/-- **A node is read by its table**: its own fields and the two child maps, each from its own values. -/
theorem tabulated : wholeForm.Tabulated fieldTable where
  names := rfl
  set_eq := by
    simp only [fieldTable, List.forall_mem_cons]
    refine ⟨?_, ?_, ?_, ?_, ?_, ?_, ?_, ?_, List.forall_mem_nil _⟩ <;> exact fun _ _ => rfl
  apart := by simp [fieldTable]

/-- A name that is no field is passed over. -/
theorem form_set_of_notMem {field : String} (h : field ∉ form.fields) (j : Json) (n : Node) :
    form.set field j n = .ok n := by
  simp only [form, List.mem_cons, List.not_mem_nil, or_false, not_or] at h
  simp only [form]
  split
  case h_7 => rfl
  all_goals simp_all

/-- An object is read as by the form. -/
theorem setMembers_eq : ∀ (members : Keyed Json) (n : Node),
    setMembers members n = wholeForm.setMembers members n
  | [], n => by rw [setMembers, RecordForm.setMembers]
  | (field, j) :: rest, n => by
    rw [setMembers, RecordForm.setMembers]
    simp only [setMembers_eq rest]
    by_cases hchildren : field = "children"
    · rw [if_pos hchildren, hchildren, if_pos (by decide)]
      simp [wholeForm]
    · by_cases hunits : field = "units"
      · rw [if_neg hchildren, if_pos hunits, hunits, if_pos (by decide)]
        simp [wholeForm]
      · rw [if_neg hchildren, if_neg hunits]
        by_cases hfield : field ∈ wholeForm.fields
        · rw [if_pos hfield]
          simp [wholeForm, hchildren, hunits]
        · rw [if_neg hfield, form_set_of_notMem hfield]
          rfl

/-- A row is read as by the form. -/
theorem setItems_eq : ∀ (fields : List String) (items : List Json) (n : Node),
    setItems fields items n = wholeForm.setItems fields items n
  | [], items, n => by rw [setItems, RecordForm.setItems]; rintro _ _ _ _ ⟨⟩
  | _ :: _, [], n => by rw [setItems, RecordForm.setItems]; rintro _ _ _ _ - ⟨⟩
  | field :: fields, j :: rest, n => by
    rw [setItems, RecordForm.setItems]
    simp only [setItems_eq fields rest]
    by_cases hchildren : field = "children"
    · rw [if_pos hchildren, hchildren]
      simp [wholeForm]
    · by_cases hunits : field = "units"
      · rw [if_neg hchildren, if_pos hunits, hunits]
        simp [wholeForm]
      · rw [if_neg hchildren, if_neg hunits]
        simp [wholeForm, hchildren, hunits]

/-- **A node is read as a record** of eight fields. -/
theorem decode_eq (j : Json) : decode j = wholeForm.decode j := by
  cases j with
  | object members =>
    rw [decode, RecordForm.decode, setMembers_eq]
    rfl
  | array items =>
    rw [decode, RecordForm.decode, setItems_eq]
    rfl
  | _ => rfl

/-- Entries are read when each of them is, under its own id and in its place. -/
theorem decodeEntries_eq_ok_iff : ∀ {members : Keyed Json} {m : ChildMap},
    decodeEntries members = .ok m ↔
      List.Forall₂ (fun e c => c.1 = e.1 ∧ decode e.2 = .ok c.2) members m
  | [], m => by
    rw [decodeEntries, List.forall₂_nil_left_iff]
    exact ⟨fun h => (Except.ok.inj h).symm, fun h => h ▸ rfl⟩
  | (id, j) :: members, m => by
    rw [decodeEntries]
    constructor
    · intro h
      obtain ⟨n, hn, h⟩ := Decoded.bind_ok h
      obtain ⟨rest, hrest, h⟩ := Decoded.bind_ok h
      rw [← Except.ok.inj h]
      exact .cons ⟨rfl, hn⟩ (decodeEntries_eq_ok_iff.mp hrest)
    · intro h
      cases h with
      | cons hentry hrest =>
        obtain ⟨rfl, hn⟩ := hentry
        rw [hn, decodeEntries_eq_ok_iff.mpr hrest]
        rfl

theorem exists_decodeEntries_iff : ∀ {members : Keyed Json},
    (∃ m, decodeEntries members = .ok m) ↔ ∀ e ∈ members, ∃ n, decode e.2 = .ok n
  | [] => by simp [decodeEntries]
  | (id, j) :: members => by
    rw [List.forall_mem_cons, ← exists_decodeEntries_iff, decodeEntries]
    cases decode j with
    | error e => simp [bind, Except.bind]
    | ok n => cases decodeEntries members <;> simp [bind, Except.bind, pure, Except.pure]

/-! ## 5. What is a node -/

/-- The values that fit the fields of a node, as long as nothing is said about child maps. -/
theorem wholeForm_accepts :
    wholeForm.Accepts (FitsNodeBut fun j => ∃ m, decodeChildren j = .ok m) := by
  refine tabulated.accepts ?_
  simp [fieldTable, FitsNodeBut, exists_decodeString,
    exists_decodeOption fun _ => Status.exists_decode_iff,
    exists_decodeOption fun _ => VersionStatus.exists_decode_iff,
    exists_decodeOption fun _ => Links.exists_decode_iff]

/-- **The values that can be read as nodes are the nodes of the grammar**, and the same for what can
stand in the place of a child map. -/
theorem exists_decode_and_decodeChildren_iff (j : Json) :
    ((∃ n, decode j = .ok n) ↔ j.IsNode) ∧ ((∃ m, decodeChildren j = .ok m) ↔ j.IsChildMap) := by
  induction j using Json.induction with
  | step j ih =>
    constructor
    · have hfits : ∀ field ∈ wholeForm.fields, ∀ i ∈ j.parts,
          FitsNodeBut (fun j => ∃ m, decodeChildren j = .ok m) field i ↔ FitsNode field i := by
        intro field _ i hi
        rw [fitsNode_iff, FitsNodeBut, FitsNodeBut, (ih i hi).2]
      simp only [decode_eq]
      rw [RecordForm.exists_decode_iff wholeForm_regular wholeForm_accepts, IsRecord.congr hfits]
      exact ⟨.intro, fun ⟨isRecord⟩ => isRecord⟩
    · cases j with
      | null => simpa [decodeChildren] using IsChildMap.absent
      | array items =>
        cases items with
        | nil => simpa [decodeChildren] using IsChildMap.emptyList
        | cons i items => simp [decodeChildren]; rintro ⟨⟩
      | object members =>
        have hentries : (∃ m, decodeChildren (.object members) = .ok m) ↔
            ∃ m, decodeEntries members = .ok m := by
          rw [decodeChildren]
          cases decodeEntries members <;> simp
        rw [hentries, exists_decodeEntries_iff]
        constructor
        · exact fun h => .object fun id j hj =>
            (ih j (List.mem_map_of_mem hj)).1.mp (h (id, j) hj)
        · rintro ⟨⟩
          rename_i nodes
          exact fun e he => (ih e.2 (List.mem_map_of_mem he)).1.mpr (nodes e.1 e.2 he)
      | _ => simp [decodeChildren]; rintro ⟨⟩

theorem exists_decode_iff {j : Json} : (∃ n, decode j = .ok n) ↔ j.IsNode :=
  (exists_decode_and_decodeChildren_iff j).1

end Node

end CourseReview
