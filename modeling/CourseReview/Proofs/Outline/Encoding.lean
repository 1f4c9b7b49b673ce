import CourseReview.Proofs.Outline.Everywhere
import CourseReview.Proofs.Outline.Reply

/-!
# Reading back what was written

A node that is written as JSON and read again is the node that it was, whatever it holds and however
much is below it, except that payloads set aside for a preview are not written
(`Node.decode_toJson`).  The two sides do not mirror each other: some unknown texts are left out and
others written as `null`, and where a child map belongs the reader also takes a list and `null`.

An outline is read back from any answer in which its course nodes and sections stand as they are
written (`Outline.decode_written`).
-/

namespace CourseReview

open Json

/-! ## 1. Scalars, options and lists -/

namespace Json

theorem decodeInt64_ofInt {n : Int} (h : Decimal.fitsInt64 n = true) :
    decodeInt64 (ofInt n) = .ok n := by
  rw [decodeInt64, ofInt, decodeInt, if_pos h]

section Collections

variable {α : Type} {read : Json → Decoded α} {write : α → Json}

/-- A value that is not `null` is read as a present one. -/
theorem decodeOption_some {j : Json} (hj : j ≠ .null) {a : α} (h : read j = .ok a) :
    decodeOption read j = .ok (some a) := by
  cases j with
  | null => exact absurd rfl hj
  | _ => rw [decodeOption, h]; rfl; rintro ⟨⟩

theorem decodeOption_ofOption {o : Option α}
    (h : ∀ a, o = some a → write a ≠ .null ∧ read (write a) = .ok a) :
    decodeOption read (ofOption write o) = .ok o := by
  cases o with
  | none => rfl
  | some a => exact decodeOption_some (h a rfl).1 (h a rfl).2

theorem decodeList_array {as : List α} (h : ∀ a ∈ as, read (write a) = .ok a) :
    decodeList read (.array (as.map write)) = .ok as := by
  rw [decodeList]
  induction as with
  | nil => rfl
  | cons a as ih =>
    obtain ⟨ha, has⟩ := List.forall_mem_cons.mp h
    rw [List.map_cons, List.mapM_cons, ha, ih has]
    rfl

end Collections

end Json

/-! ## 2. Records -/

@[simp] theorem Decoded.ok_bind {α β : Type} (a : α) (f : α → Decoded β) :
    (Except.ok a >>= f) = f a :=
  rfl

namespace RecordForm

variable {α β : Type} {form : RecordForm α} {a b c : α}

theorem setMembers_append_ok {members rest : Keyed Json} (h : form.setMembers members a = .ok b)
    (hrest : form.setMembers rest b = .ok c) : form.setMembers (members ++ rest) a = .ok c := by
  rw [setMembers_append, h]
  exact hrest

/-- A member is read by setting its field. -/
theorem setMembers_cons {field : String} {j : Json} {rest : Keyed Json} (hfield : field ∈ form.fields)
    (h : form.set field j a = .ok b) :
    form.setMembers ((field, j) :: rest) a = form.setMembers rest b := by
  rw [setMembers, if_pos hfield, h]
  rfl

/-- A member that may be left out: `put` is the record with a value in the place of the member's field. -/
theorem setMembers_optionalMember (form : RecordForm α) (field : String) (write : β → Json)
    (o : Option β) (put : Option β → α) (hfield : field ∈ form.fields)
    (hset : ∀ x, o = some x → form.set field (write x) (put none) = .ok (put (some x))) :
    form.setMembers (optionalMember field write o) (put none) = .ok (put o) := by
  cases o with
  | none => rw [optionalMember, setMembers]
  | some x => rw [optionalMember, setMembers_cons hfield (hset x rfl), setMembers]

theorem decode_object {members : Keyed Json} (h : form.setMembers members form.blank = .ok a)
    (hneeded : ∀ field ∈ form.needed, field ∈ Keyed.keys members) :
    form.decode (.object members) = .ok a :=
  decode_eq_ok_iff.mpr ⟨h, checkNamed_iff.mpr hneeded⟩

end RecordForm

/-! ## 3. The records of a node -/

/-- The number of the version is one that the server uses. -/
def Version.Fits (v : Version) : Prop :=
  Decimal.fitsInt64 v.id = true

/-- All numbers of versions are such that the server uses. -/
structure VersionStatus.Fits (vs : VersionStatus) : Prop where
  applied : ∀ id, vs.appliedVersion = some id → Decimal.fitsInt64 id = true
  latest : ∀ id, vs.latestVersion = some id → Decimal.fitsInt64 id = true
  versions : ∀ v ∈ vs.versions, v.Fits

theorem decodeOption_text (o : Option String) :
    decodeOption decodeString (ofOption .string o) = .ok o :=
  decodeOption_ofOption fun _ _ => ⟨by rintro ⟨⟩, rfl⟩

theorem decodeOption_id {o : Option VersionId} (h : ∀ id, o = some id → Decimal.fitsInt64 id = true) :
    decodeOption decodeInt64 (ofOption ofInt o) = .ok o :=
  decodeOption_ofOption fun id hid => ⟨by rintro ⟨⟩, decodeInt64_ofInt (h id hid)⟩

theorem Version.decode_toJson {v : Version} (h : v.Fits) : form.decode v.toJson = .ok v := by
  refine RecordForm.decode_object ?_ (by simp [form])
  simp [RecordForm.setMembers, form, decodeInt64_ofInt h, decodeOption_text]

theorem VersionStatus.decode_toJson {vs : VersionStatus} (h : vs.Fits) :
    form.decode vs.toJson = .ok vs := by
  have hversions : decodeList Version.form.decode (.array (vs.versions.map Version.toJson)) =
      .ok vs.versions := decodeList_array fun v hv => Version.decode_toJson (h.versions v hv)
  have hlatest : ∀ id, vs.latestVersion = some id →
      decodeOption decodeInt64 (ofInt id) = .ok (some id) := fun id hid =>
    decodeOption_some (by rintro ⟨⟩) (decodeInt64_ofInt (h.latest id hid))
  refine RecordForm.decode_object ?_ (by simp [form])
  refine RecordForm.setMembers_append_ok (RecordForm.setMembers_append_ok ?_
    (form.setMembers_optionalMember "latest_version" ofInt vs.latestVersion
      (fun latestVersion => { vs with latestVersion, versions := [] }) (by decide)
      fun id hid => ?_)) ?_
  · simp [RecordForm.setMembers, form, decodeBool, decodeOption_id h.applied]
  · simp [form, hlatest id hid]
  · simp [RecordForm.setMembers, form, hversions]

theorem decodeOption_string (t : String) : decodeOption decodeString (.string t) = .ok (some t) :=
  rfl

theorem Status.decode_toJson (s : Status) : form.decode s.toJson = .ok s := by
  refine RecordForm.decode_object ?_ (by simp [form])
  refine RecordForm.setMembers_append_ok (RecordForm.setMembers_append_ok ?_
    (form.setMembers_optionalMember "last_fetched" .string s.lastFetched
      (fun lastFetched => { s with lastFetched, approvedBy := none }) (by decide) fun t _ => ?_))
    (form.setMembers_optionalMember "approved_by" .string s.approvedBy
      (fun approvedBy => { s with approvedBy }) (by decide) fun t _ => ?_)
  · simp [RecordForm.setMembers, form, decodeBool]
  · simp [form, decodeOption_string]
  · simp [form, decodeOption_string]

theorem Links.decode_toJson (l : Links) : form.decode l.toJson = .ok l := by
  refine RecordForm.decode_object ?_ (by simp [form])
  refine RecordForm.setMembers_append_ok
    (form.setMembers_optionalMember "page_url" .string l.pageUrl
      (fun pageUrl => { l with pageUrl, pageGroupUrl := none }) (by decide) fun t _ => ?_)
    (form.setMembers_optionalMember "page_group_url" .string l.pageGroupUrl
      (fun pageGroupUrl => { l with pageGroupUrl }) (by decide) fun t _ => ?_)
  · simp [form, decodeOption_string]
  · simp [form, decodeOption_string]

/-! ## 4. Nodes -/

namespace Node

/-- The node without the payload that a preview has set aside. -/
def withoutPreview (n : Node) : Node :=
  { n with previous := none }

/-- The node without any payload set aside, in itself or anywhere below. -/
def withoutPreviews : Node → Node :=
  mapAll withoutPreview

/-- All numbers of versions of the node are such that the server uses. -/
def Fits (n : Node) : Prop :=
  ∀ vs, n.versionStatus = some vs → vs.Fits

/-- In what holds no payload set aside none is dropped. -/
theorem mapAllEntries_of_unpreviewed : ∀ {m : ChildMap}, unpreviewedEntries m = true →
    (∀ e ∈ m, e.2.unpreviewed = true → e.2.withoutPreviews = e.2) →
      mapAllEntries withoutPreview m = m
  | [], _, _ => by rw [mapAllEntries]
  | (id, n) :: rest, hm, h => by
    rw [unpreviewedEntries, Bool.and_eq_true] at hm
    obtain ⟨hn, hrest⟩ := List.forall_mem_cons.mp h
    have hn : n.mapAll withoutPreview = n := hn hm.1
    rw [mapAllEntries, hn, mapAllEntries_of_unpreviewed hm.2 hrest]

theorem unpreviewedEntries_of_get {n : Node} (hchildren : unpreviewedMap n.children = true)
    (hunits : unpreviewedMap n.units = true) {slot : ChildSlot} {m : ChildMap}
    (hm : slot.get n = some m) : unpreviewedEntries m = true := by
  cases slot with
  | children =>
    have hm : n.children = some m := hm
    rwa [hm] at hchildren
  | units =>
    have hm : n.units = some m := hm
    rwa [hm] at hunits

/-- When neither map changes the node's own payload is all that is dropped. -/
theorem withoutPreviews_of_maps {n : Node}
    (h : ∀ (slot : ChildSlot) (m : ChildMap), slot.get n = some m →
      mapAllEntries withoutPreview m = m) : n.withoutPreviews = n.withoutPreview := by
  have hmap : ∀ slot : ChildSlot, (slot.get n).map (mapAllEntries withoutPreview) = slot.get n := by
    intro slot
    cases hm : slot.get n with
    | none => rfl
    | some m => rw [Option.map_some, h slot m hm]
  have hchildren : n.children.map (mapAllEntries withoutPreview) = n.children := hmap .children
  have hunits : n.units.map (mapAllEntries withoutPreview) = n.units := hmap .units
  rw [withoutPreviews, mapAll_eq, hchildren, hunits]
  rfl

theorem withoutPreviews_of_unpreviewed (n : Node) (h : n.unpreviewed = true) :
    n.withoutPreviews = n := by
  induction n using Node.induction with
  | step n ih =>
    obtain ⟨hprevious, hchildren, hunits⟩ := unpreviewed_iff.mp h
    have hbelow : n.withoutPreviews = n.withoutPreview := by
      refine withoutPreviews_of_maps fun slot m hm => ?_
      exact mapAllEntries_of_unpreviewed (unpreviewedEntries_of_get hchildren hunits hm) (ih slot m hm)
    rw [hbelow]
    cases n with
    | mk key category data previous status versions links children units =>
      obtain rfl : previous = none := hprevious
      rfl

theorem withoutPreviews_of_below (n : Node) (hchildren : unpreviewedMap n.children = true)
    (hunits : unpreviewedMap n.units = true) : n.withoutPreviews = n.withoutPreview := by
  refine withoutPreviews_of_maps fun slot m hm => ?_
  exact mapAllEntries_of_unpreviewed (unpreviewedEntries_of_get hchildren hunits hm)
    fun e _ => e.2.withoutPreviews_of_unpreviewed

theorem mapMember_eq (field : String) (o : Option ChildMap) :
    mapMember field o = optionalMember field ChildMap.toJson o := by
  cases o <;> rw [mapMember, optionalMember]
  rfl

/-- Entries are read back when their nodes are. -/
theorem decodeEntries_entriesToJson {f : Node → Node} : ∀ {m : ChildMap},
    (∀ e ∈ m, decode e.2.toJson = .ok (e.2.mapAll f)) →
      decodeEntries (entriesToJson m) = .ok (mapAllEntries f m)
  | [], _ => by rw [entriesToJson, decodeEntries, mapAllEntries]
  | (id, n) :: rest, h => by
    obtain ⟨hn, hrest⟩ := List.forall_mem_cons.mp h
    rw [entriesToJson, decodeEntries, hn, decodeEntries_entriesToJson hrest, mapAllEntries]
    rfl

theorem decodeChildren_toJson {f : Node → Node} {m : ChildMap}
    (h : ∀ e ∈ m, decode e.2.toJson = .ok (e.2.mapAll f)) :
    decodeChildren m.toJson = .ok (some (mapAllEntries f m)) := by
  rw [ChildMap.toJson, decodeChildren, decodeEntries_entriesToJson h]

/-- **A node is read back** as it was written, with all that is below it. -/
theorem decode_toJson (n : Node) (h : n.Everywhere Fits) :
    decode n.toJson = .ok n.withoutPreviews := by
  induction n using Node.induction with
  | step n ih =>
    have hmap : ∀ (slot : ChildSlot) (m : ChildMap), slot.get n = some m →
        decodeChildren m.toJson = .ok (some (mapAllEntries withoutPreview m)) :=
      fun slot m hm => decodeChildren_toJson fun e he => ih slot m hm e he (h.entry hm he)
    have hfits := h.here
    rw [decode_eq, withoutPreviews, mapAll_eq]
    cases n with
    | mk key category data previous status versions links children units =>
      have hstart : wholeForm.setMembers
          [("usage_key", .string key), ("category", .string category), ("data", data)]
          wholeForm.blank = .ok { usageKey := key, category, data } := by
        simp [RecordForm.setMembers, wholeForm, form, decodeString]
      -- from here on every member may be left out, and each sets its own field
      have hstatus := wholeForm.setMembers_optionalMember "status" Status.toJson status
        (fun status => { usageKey := key, category, data, status }) (by decide) fun s _ => by
          simp [wholeForm, form, decodeOption_some (by rintro ⟨⟩) s.decode_toJson]
      have hversions := wholeForm.setMembers_optionalMember "version_status" VersionStatus.toJson
        versions (fun versionStatus => { usageKey := key, category, data, status, versionStatus })
        (by decide) fun vs hvs => by
          simp [wholeForm, form,
            decodeOption_some (by rintro ⟨⟩) (VersionStatus.decode_toJson (hfits vs hvs))]
      have hlinks := wholeForm.setMembers_optionalMember "links" Links.toJson links
        (fun links => { usageKey := key, category, data, status, versionStatus := versions, links })
        (by decide) fun l _ => by
          simp [wholeForm, form, decodeOption_some (by rintro ⟨⟩) l.decode_toJson]
      have hchildren := wholeForm.setMembers_optionalMember "children" ChildMap.toJson children
        (fun m => { usageKey := key, category, data, status, versionStatus := versions, links,
                    children := m.map (mapAllEntries withoutPreview) })
        (by decide) fun m hm => by simp [wholeForm, hmap .children m hm]
      have hunits := wholeForm.setMembers_optionalMember "units" ChildMap.toJson units
        (fun m => { usageKey := key, category, data, status, versionStatus := versions, links,
                    children := children.map (mapAllEntries withoutPreview)
                    units := m.map (mapAllEntries withoutPreview) })
        (by decide) fun m hm => by simp [wholeForm, hmap .units m hm]
      rw [toJson, mapMember_eq, mapMember_eq]
      refine RecordForm.decode_object ?_ (by simp [wholeForm, form])
      refine RecordForm.setMembers_append_ok ?_ hunits
      refine RecordForm.setMembers_append_ok ?_ hchildren
      refine RecordForm.setMembers_append_ok ?_ hlinks
      refine RecordForm.setMembers_append_ok ?_ hversions
      exact RecordForm.setMembers_append_ok hstart hstatus

end Node

/-! ## 5. Outlines -/

namespace Tree

/-- The outline without any payload set aside. -/
def withoutPreviews (t : Tree) : Tree :=
  { courseInfo := t.courseInfo.withoutPreviews
    sections := Node.mapAllEntries Node.withoutPreview t.sections }

/-- All numbers of versions in the outline are such that the server uses. -/
structure Fits (t : Tree) : Prop where
  courseInfo : t.courseInfo.Everywhere Node.Fits
  sections : ∀ e ∈ t.sections, e.2.Everywhere Node.Fits

end Tree

namespace Outline

/-- Both outlines without any payload set aside. -/
def withoutPreviews (o : Outline) : Outline :=
  { rerun := o.rerun.withoutPreviews, base := o.base.withoutPreviews }

/-- An answer in which the parts of both outlines stand as they are written, in whatever order and
whatever stands beside them. -/
structure WrittenIn (o : Outline) (members : Keyed Json) : Prop where
  distinct : Keyed.Distinct members
  courseInfo : Keyed.get? "course_info" members = some o.rerun.courseInfo.toJson
  baseInfo : Keyed.get? "base_course_info" members = some o.base.courseInfo.toJson
  sections : Keyed.get? "course_outline" members = some o.rerun.sections.toJson
  baseSections : Keyed.get? "base_course_outline" members = some o.base.sections.toJson

/-- **An outline is read back** as it was written. -/
theorem decode_written {o : Outline} (hrerun : o.rerun.Fits) (hbase : o.base.Fits)
    {members : Keyed Json} (h : o.WrittenIn members) :
    form.decode (.object members) = .ok o.withoutPreviews := by
  have hnode : ∀ {n : Node}, n.Everywhere Node.Fits → Node.decode n.toJson = .ok n.withoutPreviews :=
    fun {n} => n.decode_toJson
  have hsections : ∀ {m : ChildMap}, (∀ e ∈ m, e.2.Everywhere Node.Fits) →
      ChildMap.decodeSections m.toJson = .ok (Node.mapAllEntries Node.withoutPreview m) := by
    intro m hm
    rw [ChildMap.decodeSections, Node.decodeChildren_toJson fun e he => hnode (hm e he)]
    rfl
  have hsome : ∃ o', form.decode (.object members) = .ok o' := by
    refine (RecordForm.exists_decode_iff form_regular form_accepts).mpr (.named ?_ ?_)
    · simp only [form, List.mem_cons, List.not_mem_nil, or_false]
      rintro field (rfl | rfl)
      · exact Keyed.get?_isSome_iff.mp (by rw [h.courseInfo]; rfl)
      · exact Keyed.get?_isSome_iff.mp (by rw [h.baseInfo]; rfl)
    · intro field j hj _
      have hj := h.distinct.get?_of_mem hj
      constructor
      · rintro (rfl | rfl)
        · rw [← Option.some.inj (h.courseInfo.symm.trans hj)]
          exact ⟨_, hnode hrerun.courseInfo⟩
        · rw [← Option.some.inj (h.baseInfo.symm.trans hj)]
          exact ⟨_, hnode hbase.courseInfo⟩
      · rintro (rfl | rfl)
        · rw [← Option.some.inj (h.sections.symm.trans hj)]
          exact ⟨_, hsections hrerun.sections⟩
        · rw [← Option.some.inj (h.baseSections.symm.trans hj)]
          exact ⟨_, hsections hbase.sections⟩
  obtain ⟨⟨⟨info, sections⟩, ⟨baseInfo, baseSections⟩⟩, ho'⟩ := hsome
  -- each of the four parts is read from its own value, so it is what was written there
  have hreads := fun f => tabulated.reads (f := f)
  simp only [fieldTable, List.forall_mem_cons] at hreads
  obtain ⟨hinfo, hbaseInfo, hmap, hbaseMap, -⟩ := hreads
  obtain rfl : _ = info := Except.ok.inj ((hnode hrerun.courseInfo).symm.trans
    (hinfo.of_decode_object h.distinct ho' h.courseInfo))
  obtain rfl : _ = baseInfo := Except.ok.inj ((hnode hbase.courseInfo).symm.trans
    (hbaseInfo.of_decode_object h.distinct ho' h.baseInfo))
  obtain rfl : _ = sections := Except.ok.inj ((hsections hrerun.sections).symm.trans
    (hmap.of_decode_object h.distinct ho' h.sections))
  obtain rfl : _ = baseSections := Except.ok.inj ((hsections hbase.sections).symm.trans
    (hbaseMap.of_decode_object h.distinct ho' h.baseSections))
  exact ho'

end Outline

theorem Tree.withoutPreviews_of_unpreviewed {t : Tree} (h : t.unpreviewed = true) :
    t.withoutPreviews = t := by
  rw [unpreviewed, Bool.and_eq_true] at h
  rw [withoutPreviews, t.courseInfo.withoutPreviews_of_unpreviewed h.1,
    Node.mapAllEntries_of_unpreviewed h.2 fun e _ => e.2.withoutPreviews_of_unpreviewed]

/-- **What was written is read back.**  For every node, however deep, whatever it has and lacks, its JSON
is read as the node itself without the payloads that previews have set aside; so it is read as the node
when nothing is previewed in it, and as the node with that one payload dropped when nothing below it is.
For both outlines of a pairing, every answer in which their parts stand as they are written is read as the
two outlines. -/
theorem Outline.written_is_read_back :
    (∀ n : Node, n.Everywhere Node.Fits →
      Node.decode n.toJson = .ok n.withoutPreviews ∧
        (n.unpreviewed = true → Node.decode n.toJson = .ok n) ∧
        (Node.unpreviewedMap n.children = true → Node.unpreviewedMap n.units = true →
          Node.decode n.toJson = .ok n.withoutPreview)) ∧
    (∀ (o : Outline) (members : Keyed Json), o.rerun.Fits → o.base.Fits → o.WrittenIn members →
      form.decode (.object members) = .ok o.withoutPreviews ∧
        (o.rerun.unpreviewed = true → o.base.unpreviewed = true →
          form.decode (.object members) = .ok o)) := by
  constructor
  · intro n hn
    have hread := n.decode_toJson hn
    refine ⟨hread, fun h => ?_, fun hchildren hunits => ?_⟩
    · rw [hread, n.withoutPreviews_of_unpreviewed h]
    · rw [hread, n.withoutPreviews_of_below hchildren hunits]
  · intro o members hrerun hbase h
    have hread := decode_written hrerun hbase h
    refine ⟨hread, fun hrerun hbase => ?_⟩
    rw [hread, withoutPreviews, Tree.withoutPreviews_of_unpreviewed hrerun,
      Tree.withoutPreviews_of_unpreviewed hbase]

namespace Sample

/-- A unit that shows another version, without its content. -/
def previewedUnit : Node :=
  { usageKey := "unit", previous := some (.object []), units := some []
    versionStatus := some { applied := true, appliedVersion := some 2, versions := [{ id := 2 }] } }

/-- The outlines of a course with that unit. -/
def previewedOutline : Outline :=
  { rerun := { courseInfo := .ofBlock "course" "course", sections := [("S1", previewedUnit)] }
    base := { courseInfo := .ofBlock "course" "course" } }

end Sample

open Sample in
/-- The unit is read back without its preview, by itself and within the outlines. -/
theorem Outline.previewed_is_read_back :
    Node.decode previewedUnit.toJson = .ok previewedUnit.withoutPreview ∧
      form.decode (.object
        [("base_course_outline", .object []), ("other", .null),
          ("course_outline", .object [("S1", previewedUnit.toJson)]),
          ("course_info", (Node.ofBlock "course" "course").toJson),
          ("base_course_info", (Node.ofBlock "course" "course").toJson)]) =
        .ok previewedOutline.withoutPreviews := by
  obtain ⟨hnode, houtline⟩ := written_is_read_back
  have hcourse : (Node.ofBlock "course" "course").Everywhere Node.Fits :=
    .intro (fun _ h => nomatch h) fun slot m hm => by cases slot <;> cases hm
  have hunit : previewedUnit.Everywhere Node.Fits := by
    refine .intro ?_ fun slot m hm => ?_
    · rintro vs ⟨⟩
      refine ⟨by rintro id ⟨⟩; rfl, fun _ h => (nomatch h), ?_⟩
      rw [List.forall_mem_singleton]
      rfl
    · cases slot <;> cases hm
      exact fun _ he => nomatch he
  refine ⟨(hnode previewedUnit hunit).2.2 rfl rfl, ?_⟩
  refine (houtline previewedOutline _ ⟨hcourse, ?_⟩ ⟨hcourse, fun _ he => nomatch he⟩ ?_).1
  · simpa [previewedOutline] using hunit
  · exact ⟨by simp [Keyed.Distinct], rfl, rfl, rfl, rfl⟩

end CourseReview
