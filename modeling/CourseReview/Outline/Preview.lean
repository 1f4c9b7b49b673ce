import CourseReview.Outline.Node

/-!
# Previewing and applying versions

A reviewer can look at any version of a block in the place of its payload, go back to the
translation that has no version yet, and apply the version looked at.  The payload that was there
before the first preview is set aside in the node, and stays there through later previews.
-/

namespace CourseReview

/-- The version selected for a block, and whether it can be applied. -/
structure Selection where
  version : VersionId
  applyEnabled : Bool
deriving DecidableEq, Repr

namespace Selection

/-- The selection of the translation that has no version yet. -/
def pending : Selection :=
  { version := pendingVersion, applyEnabled := false }

/-- Whether the translation without a version is selected. -/
def isPending (s : Selection) : Bool :=
  s.version == pendingVersion

end Selection

/-- The versions on offer for a block: the translation without a version, the version applied, and
the others from the newest to the oldest. -/
structure VersionChoices where
  recent : Option Version := none
  applied : Option Version := none
  other : List Version := []
deriving DecidableEq, Repr

namespace VersionChoices

/-- All versions on offer, in the order in which they are shown. -/
def toList (c : VersionChoices) : List Version :=
  c.recent.toList ++ c.applied.toList ++ c.other

/-- Whether nothing is on offer. -/
def isEmpty (c : VersionChoices) : Bool :=
  c.recent.isNone && c.applied.isNone && c.other.isEmpty

end VersionChoices

/-- What the server says about a version that it was asked to apply. -/
structure AppliedVersion where
  blockId : Option String := none
  appliedTranslation : Bool := false
  appliedVersion : Option VersionId := none
deriving DecidableEq, Repr

namespace Node

/-- Whether the translation without a version can be selected: the block has a status and is not
approved. -/
def pendingSelectable (n : Node) : Bool :=
  n.status.any (!·.approved)

/-- The last version of the block's history. -/
def latestVersion (n : Node) : Option Version :=
  n.versionStatus.bind (·.versions.getLast?)

/-- Whether a selected version can be applied: it is a version, and not the one applied. -/
def applyEnabled (n : Node) (selected : VersionId) : Bool :=
  if selected = pendingVersion then false
  else
    match n.versionStatus with
    | some vs => vs.appliedVersion != some selected || !vs.applied
    | none => true

/-- Sorts versions, newest first, into the first that is applied and the others. -/
def sortChoices (appliedId : Option VersionId) : List Version → VersionChoices → VersionChoices
  | [], c => c
  | v :: rest, c =>
    if some v.id = appliedId ∧ c.applied = none then
      sortChoices appliedId rest { c with applied := some v }
    else sortChoices appliedId rest { c with other := c.other ++ [v] }

/-- The versions on offer for the block. -/
def versionChoices (n : Node) : VersionChoices :=
  let recent := if n.pendingSelectable then some { id := pendingVersion } else none
  match n.versionStatus with
  | none => { recent }
  | some vs =>
    let appliedId := if vs.applied then vs.appliedVersion else none
    sortChoices appliedId vs.versions.reverse { recent }

/-- Shows another payload in the node. -/
def previewVersion (n : Node) (payload : Json) : Node :=
  match n.previous with
  | none => { n with previous := some n.data, data := payload }
  | some _ => { n with data := payload }

/-- Puts back the payload set aside. -/
def revertPreview (n : Node) : Node :=
  match n.previous with
  | none => n
  | some data => { n with previous := none, data }

/-- Makes the payload shown the node's own and records what the server says is applied. -/
def commitApplied (n : Node) (applied : AppliedVersion) : Node :=
  { n with
    previous := none
    status := n.status.map fun s => { s with applied := applied.appliedTranslation }
    versionStatus := some
      { n.versionStatus.getD {} with
        applied := applied.appliedTranslation
        appliedVersion := applied.appliedVersion } }

end Node

end CourseReview
