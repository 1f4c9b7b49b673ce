import CourseReview.Outline.Revision

/-!
# Approval

Approving is an exchange in two steps: the usage keys of every eligible block at or below a node
are collected and sent, and what the server answers for each block is folded back into the same
part of the outline.  A node that neither is named in the answer nor has a node below it that is
named is handed on.
-/

namespace CourseReview

/-- The server's answer for one block. -/
structure ApprovalEntry where
  approved : Bool := false
  appliedTranslation : Bool := false
  appliedVersion : Option VersionId := none
  appliedVersionDate : Option String := none
deriving DecidableEq, Repr

/-- The server's answers by usage key. -/
abbrev ApprovalPatch := Keyed ApprovalEntry

namespace Node

mutual

/-- The usage keys of the eligible nodes at or below a node, each node before those below it. -/
def collectEligible : Node → List String
  | ⟨key, category, data, previous, status, versions, links, children, units⟩ =>
    let n : Node := ⟨key, category, data, previous, status, versions, links, children, units⟩
    (if n.isEligible then [key] else [])
      ++ if children.isSome then collectEligibleMap children else collectEligibleMap units

/-- The usage keys of the eligible nodes of an optional child map. -/
def collectEligibleMap : Option (List (String × Node)) → List String
  | none => []
  | some entries => collectEligibleEntries entries

/-- The usage keys of the eligible nodes of the entries of a child map. -/
def collectEligibleEntries : List (String × Node) → List String
  | [] => []
  | (_, n) :: rest => collectEligible n ++ collectEligibleEntries rest

end

end Node

/-- The usage keys to be approved for a path, of which there has to be one. -/
def Tree.planApproval (t : Tree) (p : NodePath) : Outcome (List String) :=
  match p.require t with
  | .error e => .error e
  | .ok n =>
    let keys := n.collectEligible
    if keys.isEmpty then .error (.nothingToApprove p.text) else .ok keys

/-! ## Recording an answer -/

/-- The history with the version that an answer names: listed once, and the latest is the last. -/
def VersionStatus.recordApproval (vs : VersionStatus) (entry : ApprovalEntry) : VersionStatus :=
  let vs := { vs with applied := entry.appliedTranslation, appliedVersion := entry.appliedVersion }
  match entry.appliedVersion with
  | none => vs
  | some id =>
    let versions :=
      if vs.lists id then vs.versions else vs.versions ++ [⟨id, entry.appliedVersionDate⟩]
    { vs with versions, latestVersion := versions.getLast?.map (·.id) }

/-- The node with an answer recorded in its status and its version status. -/
def Node.recordApproval (n : Node) (entry : ApprovalEntry) : Node :=
  let status := n.status.getD {}
  { n with
    status := some
      { status with approved := entry.approved, applied := entry.appliedTranslation }
    versionStatus := some ((n.versionStatus.getD {}).recordApproval entry) }

namespace Node

mutual

/-- Folds the server's answers into a node and everything below it. -/
def foldApproval (patch : ApprovalPatch) : Node → Revision
  | ⟨key, category, data, previous, status, versions, links, children, units⟩ =>
    let entry := Keyed.get? key patch
    let cs := foldApprovalMap patch children
    let us := foldApprovalMap patch units
    if entry.isNone && cs.all Revision.isKept && us.all Revision.isKept then .kept
    else
      let n : Node :=
        ⟨key, category, data, previous, status, versions, links,
          children.map (ChildMap.revised · cs), units.map (ChildMap.revised · us)⟩
      .rebuilt (match entry with | some e => n.recordApproval e | none => n) cs us

/-- What the answers make of the nodes of an optional child map. -/
def foldApprovalMap (patch : ApprovalPatch) : Option (List (String × Node)) → List Revision
  | none => []
  | some entries => foldApprovalEntries patch entries

/-- What the answers make of the nodes of the entries of a child map. -/
def foldApprovalEntries (patch : ApprovalPatch) : List (String × Node) → List Revision
  | [] => []
  | (_, n) :: rest => foldApproval patch n :: foldApprovalEntries patch rest

end

end Node

/-- Folds the server's answers into the part of an outline at or below a path. -/
def Tree.approve (t : Tree) (p : NodePath) (patch : ApprovalPatch) : Outcome TreeRevision :=
  t.revise p (Node.foldApproval patch)

end CourseReview
