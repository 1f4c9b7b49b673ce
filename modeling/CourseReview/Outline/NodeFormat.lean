import CourseReview.Json.Decode
import CourseReview.Outline.Node

/-!
# Nodes as JSON

How nodes and their parts are read from the server's JSON and written back.  A child map is an
object from local ids to nodes; the server also sends an empty array for an empty map, and `null`
for none.  One entry that is no node spoils the whole map.
-/

namespace CourseReview

open Json

/-! ## Parts of a node -/

/-- A version: its `id` is needed. -/
def Version.form : RecordForm Version where
  name := "Version"
  fields := ["id", "date"]
  needed := ["id"]
  neededInRow := ["id"]
  blank := { id := 0 }
  set field j v :=
    match field with
    | "id" => return { v with id := ← decodeInt64 j }
    | "date" => return { v with date := ← decodeOption decodeString j }
    | _ => return v

/-- The version as JSON; an unknown date is `null`. -/
def Version.toJson (v : Version) : Json :=
  .object [("id", ofInt v.id), ("date", ofOption .string v.date)]

/-- A version status: nothing is needed. -/
def VersionStatus.form : RecordForm VersionStatus where
  name := "VersionStatus"
  fields := ["applied", "applied_version", "latest_version", "versions"]
  needed := []
  neededInRow := []
  blank := {}
  set field j vs :=
    match field with
    | "applied" => return { vs with applied := ← decodeBool j }
    | "applied_version" => return { vs with appliedVersion := ← decodeOption decodeInt64 j }
    | "latest_version" => return { vs with latestVersion := ← decodeOption decodeInt64 j }
    | "versions" => return { vs with versions := ← decodeList Version.form.decode j }
    | _ => return vs

/-- The member that an optional value makes: one when it is present, none otherwise. -/
def optionalMember {α : Type} (name : String) (write : α → Json) : Option α → Keyed Json
  | some a => [(name, write a)]
  | none => []

/-- The version status as JSON; an unknown latest version is left out. -/
def VersionStatus.toJson (vs : VersionStatus) : Json :=
  .object <|
    [("applied", .bool vs.applied), ("applied_version", ofOption ofInt vs.appliedVersion)]
      ++ optionalMember "latest_version" ofInt vs.latestVersion
      ++ [("versions", .array (vs.versions.map Version.toJson))]

/-- A status: nothing is needed. -/
def Status.form : RecordForm Status where
  name := "Status"
  fields := ["approved", "destination_flag", "is_fully_translated", "applied", "parsed_block",
    "last_fetched", "approved_by"]
  needed := []
  neededInRow := []
  blank := {}
  set field j s :=
    match field with
    | "approved" => return { s with approved := ← decodeBool j }
    | "destination_flag" => return { s with destinationFlag := ← decodeBool j }
    | "is_fully_translated" => return { s with isFullyTranslated := ← decodeBool j }
    | "applied" => return { s with applied := ← decodeBool j }
    | "parsed_block" => return { s with parsedBlock := ← decodeBool j }
    | "last_fetched" => return { s with lastFetched := ← decodeOption decodeString j }
    | "approved_by" => return { s with approvedBy := ← decodeOption decodeString j }
    | _ => return s

/-- The status as JSON; unknown texts are left out. -/
def Status.toJson (s : Status) : Json :=
  .object <|
    [("approved", .bool s.approved), ("destination_flag", .bool s.destinationFlag),
      ("is_fully_translated", .bool s.isFullyTranslated), ("applied", .bool s.applied),
      ("parsed_block", .bool s.parsedBlock)]
      ++ optionalMember "last_fetched" .string s.lastFetched
      ++ optionalMember "approved_by" .string s.approvedBy

/-- Links: nothing is needed. -/
def Links.form : RecordForm Links where
  name := "Links"
  fields := ["page_url", "page_group_url"]
  needed := []
  neededInRow := []
  blank := {}
  set field j l :=
    match field with
    | "page_url" => return { l with pageUrl := ← decodeOption decodeString j }
    | "page_group_url" => return { l with pageGroupUrl := ← decodeOption decodeString j }
    | _ => return l

/-- The links as JSON; unknown ones are left out. -/
def Links.toJson (l : Links) : Json :=
  .object <|
    optionalMember "page_url" .string l.pageUrl
      ++ optionalMember "page_group_url" .string l.pageGroupUrl

/-! ## Nodes -/

namespace Node

/-- A node, apart from the two child maps: its `usage_key` is needed. -/
def form : RecordForm Node where
  name := "Node"
  fields := ["usage_key", "category", "data", "status", "version_status", "links", "children",
    "units"]
  needed := ["usage_key"]
  neededInRow := ["usage_key"]
  blank := { usageKey := "" }
  set field j n :=
    match field with
    | "usage_key" => return { n with usageKey := ← decodeString j }
    | "category" => return { n with category := ← decodeString j }
    | "data" => return { n with data := j }
    | "status" => return { n with status := ← decodeOption Status.form.decode j }
    | "version_status" =>
      return { n with versionStatus := ← decodeOption VersionStatus.form.decode j }
    | "links" => return { n with links := ← decodeOption Links.form.decode j }
    | _ => return n

mutual

/-- Decodes a node. -/
def decode : Json → Decoded Node
  | .object members => do
    let n ← setMembers members form.blank
    form.checkNamed members
    pure n
  | .array items => do
    let n ← setItems form.fields items form.blank
    form.checkLength items.length
    pure n
  | j => .error (.wrongType j "struct Node")

/-- Sets the fields that an object names, in its order. -/
def setMembers : List (String × Json) → Node → Decoded Node
  | [], n => .ok n
  | (key, value) :: rest, n => do
    let n ←
      if key = "children" then pure { n with children := ← decodeChildren value }
      else if key = "units" then pure { n with units := ← decodeChildren value }
      else form.set key value n
    setMembers rest n

/-- Sets the fields of a row, one item each. -/
def setItems : List String → List Json → Node → Decoded Node
  | [], _, n => .ok n
  | _ :: _, [], n => .ok n
  | field :: fields, value :: rest, n => do
    let n ←
      if field = "children" then pure { n with children := ← decodeChildren value }
      else if field = "units" then pure { n with units := ← decodeChildren value }
      else form.set field value n
    setItems fields rest n

/-- Decodes what stands in the place of a child map. -/
def decodeChildren : Json → Decoded (Option (List (String × Node)))
  | .null => .ok none
  | .array [] => .ok (some [])
  | .array _ => .error .childList
  | .object members =>
    match decodeEntries members with
    | .ok entries => .ok (some entries)
    | .error _ => .error .notAChildMap
  | _ => .error .notAChildMap

/-- Decodes the entries of a child map, in order. -/
def decodeEntries : List (String × Json) → Decoded (List (String × Node))
  | [] => .ok []
  | (id, value) :: rest => do
    let n ← decode value
    let ns ← decodeEntries rest
    pure ((id, n) :: ns)

end

mutual

/-- The node as JSON, without the payload that a preview has set aside. -/
def toJson : Node → Json
  | ⟨usageKey, category, data, _, status, versionStatus, links, children, units⟩ =>
    .object <|
      [("usage_key", .string usageKey), ("category", .string category), ("data", data)]
        ++ optionalMember "status" Status.toJson status
        ++ optionalMember "version_status" VersionStatus.toJson versionStatus
        ++ optionalMember "links" Links.toJson links
        ++ mapMember "children" children
        ++ mapMember "units" units

/-- The member that an optional child map makes. -/
def mapMember (name : String) : Option (List (String × Node)) → Keyed Json
  | none => []
  | some entries => [(name, .object (entriesToJson entries))]

/-- The entries of a child map as members. -/
def entriesToJson : List (String × Node) → Keyed Json
  | [] => []
  | (id, n) :: rest => (id, toJson n) :: entriesToJson rest

end

end Node

/-- The child map as JSON. -/
def ChildMap.toJson (m : ChildMap) : Json :=
  .object (Node.entriesToJson m)

end CourseReview
