import CourseReview.Outline.NodeFormat
import CourseReview.Outline.Preview
import CourseReview.Outline.Units

/-!
# What the review server sends

The answers of the server, as records decoded from JSON: the outlines of a pairing, the content of
a unit, the payload of a version, the result of an approval, the state of an applied version, and
the courses with their translations.
-/

namespace CourseReview

open Json

/-- An answer with both outlines; the two course nodes are needed. -/
def Outline.form : RecordForm Outline where
  name := "OutlineResponse"
  fields := ["course_info", "base_course_info", "course_outline", "base_course_outline"]
  needed := ["course_info", "base_course_info"]
  neededInRow := ["course_info", "base_course_info"]
  blank := { rerun := ⟨{ usageKey := "" }, []⟩, base := ⟨{ usageKey := "" }, []⟩ }
  set field j o :=
    match field with
    | "course_info" => return { o with rerun := { o.rerun with courseInfo := ← Node.decode j } }
    | "base_course_info" => return { o with base := { o.base with courseInfo := ← Node.decode j } }
    | "course_outline" =>
      return { o with rerun := { o.rerun with sections := (← Node.decodeChildren j).getD [] } }
    | "base_course_outline" =>
      return { o with base := { o.base with sections := (← Node.decodeChildren j).getD [] } }
    | _ => return o

/-- The content of a unit: nothing is needed. -/
def UnitComponents.form : RecordForm UnitComponents where
  name := "UnitComponents"
  fields := ["components_data", "base_components_data"]
  needed := []
  neededInRow := []
  blank := {}
  set field j c :=
    match field with
    | "components_data" => return { c with rerun := ← Node.decodeChildren j }
    | "base_components_data" => return { c with base := ← Node.decodeChildren j }
    | _ => return c

/-- The payload of one version of a block. -/
structure VersionPayload where
  blockId : Option String := none
  date : Option String := none
  data : Json

/-- A version's payload: `data` is needed, and may be `null`. -/
def VersionPayload.form : RecordForm VersionPayload where
  name := "VersionPayload"
  fields := ["block_id", "date", "data"]
  needed := ["data"]
  neededInRow := ["data"]
  blank := { data := .null }
  set field j p :=
    match field with
    | "block_id" => return { p with blockId := ← decodeOption decodeString j }
    | "date" => return { p with date := ← decodeOption decodeString j }
    | "data" => return { p with data := j }
    | _ => return p

/-- The answer for one block of an approval: nothing is needed. -/
def ApprovalEntry.form : RecordForm ApprovalEntry where
  name := "ApprovalEntry"
  fields := ["approved", "applied_translation", "applied_version", "applied_version_date"]
  needed := []
  neededInRow := []
  blank := {}
  set field j e :=
    match field with
    | "approved" => return { e with approved := ← decodeBool j }
    | "applied_translation" => return { e with appliedTranslation := ← decodeBool j }
    | "applied_version" => return { e with appliedVersion := ← decodeOption decodeInt64 j }
    | "applied_version_date" =>
      return { e with appliedVersionDate := ← decodeOption decodeString j }
    | _ => return e

/-- Decodes the answers of an approval. -/
def ApprovalPatch.decode : Json → Decoded ApprovalPatch :=
  decodeKeyed ApprovalEntry.form.decode

/-- The state of an applied version; a row has to reach the version, an object need not name it. -/
def AppliedVersion.form : RecordForm AppliedVersion where
  name := "AppliedVersion"
  fields := ["block_id", "applied_translation", "applied_version"]
  needed := []
  neededInRow := ["applied_version"]
  blank := {}
  set field j a :=
    match field with
    | "block_id" => return { a with blockId := ← decodeOption decodeString j }
    | "applied_translation" => return { a with appliedTranslation := ← decodeBool j }
    | "applied_version" => return { a with appliedVersion := ← decodeOption decodeInt64 j }
    | _ => return a

/-- A course that is a translation of another. -/
structure CourseRef where
  id : String
  title : String := ""
  language : Option String := none
deriving DecidableEq, Repr

/-- A translated course: its `id` is needed. -/
def CourseRef.form : RecordForm CourseRef where
  name := "CourseRef"
  fields := ["id", "title", "language"]
  needed := ["id"]
  neededInRow := ["id"]
  blank := { id := "" }
  set field j c :=
    match field with
    | "id" => return { c with id := ← decodeString j }
    | "title" => return { c with title := ← decodeString j }
    | "language" => return { c with language := ← decodeOption decodeString j }
    | _ => return c

/-- A base course with its translations by course id. -/
structure CoursePairing where
  id : String
  title : String := ""
  language : Option String := none
  reruns : Keyed CourseRef := []
deriving DecidableEq, Repr

namespace CoursePairing

/-- A base course: its `id` is needed. -/
def form : RecordForm CoursePairing where
  name := "CoursePairing"
  fields := ["id", "title", "language", "rerun"]
  needed := ["id"]
  neededInRow := ["id"]
  blank := { id := "" }
  set field j c :=
    match field with
    | "id" => return { c with id := ← decodeString j }
    | "title" => return { c with title := ← decodeString j }
    | "language" => return { c with language := ← decodeOption decodeString j }
    | "rerun" => return { c with reruns := ← decodeKeyed CourseRef.form.decode j }
    | _ => return c

/-- The translation with that course id. -/
def findRerun (p : CoursePairing) (rerunId : String) : Option CourseRef :=
  Keyed.get? rerunId p.reruns

/-- Decodes the list of base courses by course id. -/
def decodeAll : Json → Decoded (Keyed CoursePairing) :=
  decodeKeyed form.decode

end CoursePairing

end CourseReview
