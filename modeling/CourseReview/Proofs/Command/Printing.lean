import CourseReview.Proofs.Command.Loading

/-!
# The command that prints an outline

Printing an outline from the command line takes one call or two: the outlines are loaded, and if that is
asked for the content of all units is fetched.  This file settles what is printed in all, over every link
that answers (`Command.outline_run`): a line for each step, and then the report of the translated course
(`Tree.report`) with all the content in place that came.
-/

namespace CourseReview

/-! ## 1. What is to be printed -/

/-- The line that begins printing an outline: it is the first of two steps if units are asked for. -/
def Command.firstStep (rerunId : String) (units : Bool) : Report :=
  Report.step 1 (if units then 2 else 1) s!"Loading outline for {rerunId}"

/-- A line for each step. -/
def Command.outlineSteps (rerunId : String) (units : Bool) : Report :=
  firstStep rerunId units ++ if units then Report.step 2 2 "Loading unit content" else []

namespace ReviewServer

variable (server : ReviewServer) (replies : Nat → Outcome HttpReply)

/-- The outline that is printed: as it was loaded, or with the content of all units in place that was
fetched. -/
def printedTree (o : Outline) (units : Bool) : Tree :=
  if units then
    (o.stock (server.brought o .courseInfo (unitReply replies o .courseInfo))).rerun
  else o.rerun

/-- The questions that the command asks once the outlines are loaded. -/
def printingGets (o : Outline) (units : Bool) : List HttpRequest :=
  if units then server.unitRequests o.rerun (o.rerun.missingUnits .courseInfo) else []

end ReviewServer

/-! ## 2. The command -/

section Run

variable {σ : Type} {link : Link σ} {replies : Nat → Outcome HttpReply} {y : Synchronizer} {o : Outline}

/-- The last step prints what is loaded. -/
theorem Command.run_printOutline {s : Session} (h : s.outline = some o) (y : Outcome Synchronizer)
    (state : σ) :
    (printOutline s).run link y state = { printed := o.rerun.report, result := some (.ok ()) } := by
  rw [printOutline, h]
  rfl

/-- Below the course's own node units can always be listed. -/
theorem Tree.leadsToUnits_courseInfo (t : Tree) : t.LeadsToUnits .courseInfo :=
  ⟨Nat.zero_le _, t.courseInfo, rfl⟩

/-- **The command prints the report of what it has loaded.**  For all settings that describe a server, all
replies, and every link that answers,

* if the outlines were loaded, it prints a line for each step and then the report of the translated course,
  with the content of every unit in place that came if that was asked for, and it succeeds;
* if they were not, it prints nothing of an outline and ends with what went wrong. -/
theorem Command.outline_run (hlink : link.Answers replies)
    (hnames : ∀ r, replies 0 = .ok r → r.data.DistinctNames) {settings : Settings}
    (hy : Synchronizer.ofSettings settings = .ok y) (rerunId : String) (units : Bool) (state : σ) :
    (∀ o, y.server.outlineAnswer rerunId (replies 0) = .ok o →
      run link state settings (.outline rerunId units) =
        { printed := outlineSteps rerunId units ++ (y.server.printedTree replies o units).report
          sent := (y.server.request (.outline rerunId)).toOption.toList ++
            y.server.printingGets o units
          result := some (.ok ()) }) ∧
    ∀ e, y.server.outlineAnswer rerunId (replies 0) = .error e → e.isStale = false →
      run link state settings (.outline rerunId units) =
        { printed := firstStep rerunId units
          sent := (y.server.request (.outline rerunId)).toOption.toList
          result := some (.error e) } := by
  obtain ⟨hsession, htasks, hrequests, hnext⟩ := Synchronizer.ofSettings_new hy
  obtain ⟨y₁, state₁, result, hdrive, hserver, hloaded, hfailed⟩ :=
    Synchronizer.drive_load hlink hsession htasks hrequests hnext rerunId 0 state
  have hrun : run link state settings (.outline rerunId units) =
      (outlineScript rerunId units).run link (.ok y) state := by
    rw [run, hy]
    rfl
  rw [hrun, outlineScript]
  constructor
  · intro o hanswer
    obtain ⟨hrest, hnext₁, a, rfl⟩ := hloaded o hanswer
    rw [Script.run_ask hdrive, map_snd_numbered]
    cases units with
    | false =>
      simp only [Bool.false_eq_true, if_false]
      rw [run_printOutline hrest.outline]
      simp [CommandRun.after, outlineSteps, firstStep, ReviewServer.printedTree,
        ReviewServer.printingGets]
    | true =>
      have hdistinct := ReviewServer.distinctIds_of_outlineAnswer hnames hanswer
      obtain ⟨y₂, state₂, count, hunits, hrest', -⟩ := hrest.loadUnits_after_load hlink hdistinct hnext₁
        o.rerun.leadsToUnits_courseInfo 0 state₁
      simp only [if_true]
      rw [Script.run_ask hunits, map_snd_numbered, run_printOutline hrest'.outline, hserver]
      simp [CommandRun.after, outlineSteps, firstStep, ReviewServer.printedTree,
        ReviewServer.printingGets]
  · intro e hanswer hstale
    obtain ⟨-, -, -, rfl⟩ := hfailed e hanswer
    have hresult : (unlessStale (.error e) : Outcome (Option Outline)).map Answer.loaded = .error e := by
      rw [unlessStale, hstale]
      rfl
    rw [hresult] at hdrive
    rw [Script.run_ask_error hdrive, map_snd_numbered]
    cases units <;> rfl

end Run

end CourseReview
