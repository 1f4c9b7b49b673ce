/-!
# Versions of a block

A block of a translated course has a history of numbered versions.  A reviewer sees which of them
is applied to the live block, and which is the latest.
-/

namespace CourseReview

/-- The number of a version; the server uses signed integers of 64 bits. -/
abbrev VersionId := Int

/-- Stands, in a selection, for the translation that has no version yet. -/
def pendingVersion : VersionId := -1

/-- One entry of a block's history. -/
structure Version where
  id : VersionId
  date : Option String := none
deriving DecidableEq, Repr

/-- What is known about the versions of a block. -/
structure VersionStatus where
  applied : Bool := false
  appliedVersion : Option VersionId := none
  latestVersion : Option VersionId := none
  versions : List Version := []
deriving DecidableEq, Repr

namespace VersionStatus

/-- Whether the history lists that version. -/
def lists (vs : VersionStatus) (id : VersionId) : Bool :=
  vs.versions.any (·.id == id)

/-- The entry of the version that is applied, if one is and the history lists it. -/
def appliedEntry (vs : VersionStatus) : Option Version :=
  if vs.applied then
    vs.appliedVersion.bind fun id => vs.versions.find? (·.id == id)
  else none

/-- Whether the applied version, if one is named, is listed in the history. -/
def isConsistent (vs : VersionStatus) : Bool :=
  match vs.appliedVersion with
  | some id => vs.lists id
  | none => true

end VersionStatus

end CourseReview
