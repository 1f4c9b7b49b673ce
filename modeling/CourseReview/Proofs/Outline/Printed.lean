import CourseReview.Outline.Listing
import CourseReview.Proofs.Outline.Walk
import CourseReview.Proofs.Text.Pieces

/-!
# The printed outline

Printing an outline, walking over it, counting on it and collecting what can be approved are recursions of
their own.  This file settles that they come by the same nodes in the same order.

* The nodes listed below a node are those of its walk, each with the depth and the id of its place
  (`Node.listing_eq`).  So the report is made of the walk (`Tree.report_eq`).
* A line is marked as approved or as to be approved by what it shows, and only lines of nodes are
  (`ReportLine.isMarked_message_line`, `Tree.countP_report`).

`Tree.report_describes_walk` puts them beside the counts and the plan for an approval.
-/

namespace CourseReview

/-! ## 1. Listing is walking -/

namespace Place

/-- How far the place is below the course, or below its section. -/
def depth : Place → Nat
  | .underCourse steps => steps.length
  | .underSection _ steps => steps.length

/-- The id under which a node stands at the place. -/
def lastId : Place → String
  | .underCourse steps => (steps.getLast?.map Prod.snd).getD Tree.courseId
  | .underSection sectionId steps => (steps.getLast?.map Prod.snd).getD sectionId

end Place

namespace Node

theorem listingEntries_eq (depth : Nat) :
    ∀ m : ChildMap, listingEntries depth m = m.flatMap fun e => e.2.listing depth e.1
  | [] => by rw [listingEntries]; rfl
  | (id, n) :: rest => by rw [listingEntries, listingEntries_eq depth rest, List.flatMap_cons]

/-- The node is listed first, and then what is in the map through which the walk goes on. -/
theorem listing_cons (depth : Nat) (id : String) (n : Node) :
    n.listing depth id =
      ⟨depth, id, n⟩ :: (n.walkSlot.get n).elim [] (listingEntries (depth + 1)) := by
  have hmap : ∀ o : Option ChildMap, listingMap (depth + 1) o = o.elim [] (listingEntries (depth + 1)) := by
    intro o
    cases o <;> rw [listingMap] <;> rfl
  obtain ⟨key, category, data, previous, status, versions, links, children, units⟩ := n
  rw [listing, walkSlot]
  cases children with
  | some m => exact congrArg _ (hmap (some m))
  | none => exact congrArg _ (hmap units)

/-- **The nodes listed are those walked**, in the same order, each at the depth and under the id to which
its steps lead. -/
theorem listing_eq (n : Node) : ∀ (depth : Nat) (id : String),
    n.listing depth id =
      n.walkSteps.map fun s => ⟨depth + s.1.length, (s.1.getLast?.map Prod.snd).getD id, s.2⟩ := by
  refine induction (motive := fun n => ∀ (depth : Nat) (id : String), n.listing depth id =
    n.walkSteps.map fun s => ⟨depth + s.1.length, (s.1.getLast?.map Prod.snd).getD id, s.2⟩)
    (fun n ih depth id => ?_) n
  rw [listing_cons, walkSteps_eq, List.map_cons]
  congr 1
  cases hm : n.walkSlot.get n with
  | none => rfl
  | some m =>
    rw [Option.elim_some, Option.elim_some, listingEntries_eq, walkEntriesAt, List.map_flatMap]
    refine List.flatMap_congr fun e he => ?_
    rw [ih _ m hm e he, List.map_map]
    refine List.map_congr_left fun s _ => ?_
    -- one step more, which is the last one where none follows
    simp only [Function.comp_apply, List.length_cons, List.getLast?_cons, Option.map_some,
      Option.getD_some, ListedNode.mk.injEq, and_true]
    refine ⟨by omega, ?_⟩
    cases s.1.getLast? <;> rfl

end Node

namespace Tree

/-- What is listed below the course are the nodes walked, each with the depth and the id of its place. -/
theorem listing_eq (t : Tree) :
    t.listing = t.walkPlaces.tail.map fun s => ⟨s.1.depth, s.1.lastId, s.2⟩ := by
  rw [listing, walkPlaces, List.tail_cons, Node.listingEntries_eq, Node.walkEntriesAt, List.map_flatMap]
  refine List.flatMap_congr fun e _ => ?_
  rw [Node.listing_eq, List.map_map]
  refine List.map_congr_left fun s _ => ?_
  simp only [Function.comp_apply, Place.depth, Place.lastId, Nat.zero_add]

/-- The lines of a summary of counts. -/
def summaryOf (s : Stats) : Report :=
  Report.summary "Outline"
    [("Sections", toString s.sections), ("Subsections", toString s.subsections),
      ("Units", s!"{s.units} ({s.unitsLoaded} loaded)"), ("Contents", toString s.contents),
      ("Approved", toString s.approved), ("Eligible", toString s.eligible)]

/-- **The report is made of the walk**: the course as its title, one item for every node walked after it,
and the counts. -/
theorem report_eq (t : Tree) :
    t.report = Report.header (t.courseInfo.line courseId) ++
      (t.walkPlaces.tail.flatMap fun s => Report.subItem s.1.depth (s.2.line s.1.lastId)) ++
        summaryOf t.stats := by
  rw [report, listing_eq, List.flatMap_map]
  rfl

end Tree

/-! ## 2. Marks -/

namespace ReportLine

/-- Whether the line shows the mark before anything else but blanks. -/
def isMarked (mark : String) : ReportLine → Bool
  | .blank => false
  | .message _ text => mark.toList.isPrefixOf (text.toList.dropWhile (· == ' '))

/-- Blanks before a text that begins with none do not count. -/
theorem isMarked_indented (mark : String) (count : Nat) {text : String}
    (htext : ∀ c ∈ text.toList.head?, c ≠ ' ') :
    isMarked mark (.message .info (String.ofList (List.replicate count ' ') ++ text)) =
      mark.toList.isPrefixOf text.toList := by
  have hblanks : ∀ c ∈ List.replicate count ' ', (c == ' ') = true := by
    intro c hc
    simp [List.eq_of_mem_replicate hc]
  have hrest : text.toList.dropWhile (· == ' ') = text.toList :=
    Text.dropWhile_eq_self fun c hc => by simpa using htext c hc
  rw [isMarked, String.toList_append, String.toList_ofList, List.dropWhile_append_of_pos hblanks, hrest]

/-- A line that begins with no bracket shows no mark. -/
theorem isMarked_of_head {mark : String} (hmark : mark.toList.head? = some '[') (count : Nat)
    {text : String} {c : Char} (htext : text.toList.head? = some c) (hblank : c ≠ ' ') (hc : c ≠ '[') :
    isMarked mark (.message .info (String.ofList (List.replicate count ' ') ++ text)) = false := by
  have hhead : ∀ d ∈ text.toList.head?, d ≠ ' ' := by
    intro d hd
    rw [htext] at hd
    obtain rfl := Option.some.inj hd
    exact hblank
  rw [isMarked_indented mark count hhead]
  obtain ⟨ms, hms⟩ := List.head?_eq_some_iff.mp hmark
  obtain ⟨cs, hcs⟩ := List.head?_eq_some_iff.mp htext
  rw [hms, hcs]
  simp [List.isPrefixOf, Ne.symm hc]

end ReportLine

namespace Node

/-- A line begins with the mark of its node. -/
theorem line_eq_marker_append (id : String) (n : Node) :
    ∃ rest, (n.line id).toList = n.marker.toList ++ rest := by
  simp only [line, toString, String.toList_append, List.append_assoc]
  exact ⟨_, rfl⟩

theorem head_marker (n : Node) : n.marker.toList.head? = some '[' := by
  rw [marker]
  cases n.isApproved <;> cases n.isEligible <;> rfl

/-- **A line is marked with a cross exactly if its node is approved.** -/
theorem isPrefixOf_line_approved (id : String) (n : Node) :
    "[x]".toList.isPrefixOf (n.line id).toList = n.isApproved := by
  obtain ⟨rest, hrest⟩ := n.line_eq_marker_append id
  rw [hrest, marker]
  cases n.isApproved <;> cases n.isEligible <;> simp [List.isPrefixOf]

/-- **A line is marked as open exactly if its node is eligible**, which no approved node is. -/
theorem isPrefixOf_line_eligible (id : String) (n : Node) :
    "[ ]".toList.isPrefixOf (n.line id).toList = n.isEligible := by
  have hapart : n.isEligible = true → n.isApproved = false := by
    rw [isEligible, isApproved]
    cases n.status with
    | none => exact fun h => nomatch h
    | some s => simp +contextual [Status.isEligible]
  obtain ⟨rest, hrest⟩ := n.line_eq_marker_append id
  rw [hrest, marker]
  cases heligible : n.isEligible with
  | false => cases n.isApproved <;> simp [List.isPrefixOf]
  | true => simp [hapart heligible, List.isPrefixOf]

end Node

namespace Tree

/-- No line is marked above and below the title, nor in the summary. -/
theorem countP_frame {mark : String} (hmark : mark.toList.head? = some '[')
    (htitle : ReportLine.isMarked mark (.message .info "[SUMMARY] Outline") = false) (s : Stats) :
    ReportLine.isMarked mark (.message .info Report.border) = false ∧
      (summaryOf s).countP (ReportLine.isMarked mark) = 0 := by
  constructor
  · have hborder : String.ofList (List.replicate 0 ' ') ++ Report.border = Report.border :=
      String.empty_append
    have hhead : Report.border.toList.head? = some '═' := by
      unfold Report.border
      rw [String.toList_ofList]
      rfl
    rw [← hborder]
    exact ReportLine.isMarked_of_head hmark 0 hhead (by decide) (by decide)
  · have hitem : ∀ (key value : String) (c : Char), key.toList.head? = some c → c ≠ ' ' → c ≠ '[' →
        ReportLine.isMarked mark (.message .info s!"    {key}: {value}") = false := by
      intro key value c hkey hblank hc
      have htext : s!"    {key}: {value}" =
          String.ofList (List.replicate 4 ' ') ++ (key ++ (": " ++ value)) := by
        simp only [toString, String.append_assoc]
        rfl
      rw [htext]
      refine ReportLine.isMarked_of_head hmark 4 ?_ hblank hc
      rw [String.toList_append, List.head?_append, hkey, Option.some_or]
    rw [List.countP_eq_zero]
    intro line hline
    simp only [summaryOf, Report.summary, Report.info, List.mem_append, List.mem_cons, List.mem_flatMap,
      List.not_mem_nil, or_false] at hline
    rw [Bool.not_eq_true]
    rcases hline with (rfl | rfl) | ⟨item, hitems, rfl⟩
    · rfl
    · exact htitle
    · rcases hitems with rfl | rfl | rfl | rfl | rfl | rfl
      · exact hitem "Sections" _ 'S' rfl (by decide) (by decide)
      · exact hitem "Subsections" _ 'S' rfl (by decide) (by decide)
      · exact hitem "Units" _ 'U' rfl (by decide) (by decide)
      · exact hitem "Contents" _ 'C' rfl (by decide) (by decide)
      · exact hitem "Approved" _ 'A' rfl (by decide) (by decide)
      · exact hitem "Eligible" _ 'E' rfl (by decide) (by decide)

/-- **The lines with a mark are those of the nodes that have what the mark stands for.** -/
theorem countP_report {mark : String} {P : Node → Bool} (hmark : mark.toList.head? = some '[')
    (htitle : ReportLine.isMarked mark (.message .info "[SUMMARY] Outline") = false)
    (hline : ∀ id n, mark.toList.isPrefixOf (Node.line id n).toList = P n) (t : Tree) :
    t.report.countP (ReportLine.isMarked mark) = t.walk.countP P := by
  obtain ⟨hborder, hsummary⟩ := countP_frame hmark htitle t.stats
  have hmarked : ∀ (count : Nat) (id : String) (n : Node), ReportLine.isMarked mark
      (.message .info (String.ofList (List.replicate count ' ') ++ n.line id)) = P n := by
    intro count id n
    rw [ReportLine.isMarked_indented mark count, hline]
    intro c hc
    obtain ⟨rest, hrest⟩ := n.line_eq_marker_append id
    rw [hrest, List.head?_append, n.head_marker] at hc
    rw [← Option.some.inj hc]
    decide
  have hheader : (Report.header (t.courseInfo.line courseId)).countP (ReportLine.isMarked mark) =
      if P t.courseInfo then 1 else 0 := by
    have htext : s!"  {t.courseInfo.line courseId}" =
        String.ofList (List.replicate 2 ' ') ++ t.courseInfo.line courseId := rfl
    rw [Report.header, htext]
    simp only [Report.info, List.cons_append, List.nil_append, List.countP_cons, List.countP_nil, hborder,
      hmarked]
    simp
  have hitems : (t.walkPlaces.tail.flatMap fun s => Report.subItem s.1.depth (s.2.line s.1.lastId)) =
      t.walkPlaces.tail.map fun s => ReportLine.message .info
        (String.ofList (List.replicate (4 * (s.1.depth + 1)) ' ') ++ s.2.line s.1.lastId) :=
    List.flatMap_pure_eq_map ..
  have hwalk : t.walk = t.courseInfo :: t.walkPlaces.tail.map Prod.snd := by
    rw [← t.map_snd_walkPlaces]
    rfl
  rw [report_eq, List.countP_append, List.countP_append, hheader, hitems, hsummary, hwalk,
    List.countP_cons, List.countP_map, List.countP_map, Nat.add_zero, Nat.add_comm]
  congr 1
  refine List.countP_congr fun s _ => ?_
  rw [Function.comp_apply, Function.comp_apply, hmarked]

end Tree

/-! ## 3. The same nodes -/

theorem NodeKind.ofCategory_eq_courseInfo_iff {category : String} :
    ofCategory category = .courseInfo ↔ category = "course" := by
  constructor
  · intro h
    unfold ofCategory at h
    split at h
    · rfl
    all_goals cases h
  · rintro rfl
    rfl

/-- Every node is of one of the four levels below the course, unless it is of the course's own. -/
theorem Node.countP_kinds (nodes : List Node) :
    nodes.countP (·.kind == .section) + nodes.countP (·.kind == .subsection) +
        nodes.countP (·.kind == .unit) + nodes.countP (·.kind == .content) =
      nodes.countP (·.category != "course") := by
  induction nodes with
  | nil => rfl
  | cons n rest ih =>
    have hcourse : (n.category != "course") = (n.kind != .courseInfo) := by
      rw [Bool.eq_iff_iff, bne_iff_ne, bne_iff_ne, Node.kind, ne_eq, ne_eq,
        NodeKind.ofCategory_eq_courseInfo_iff]
    simp only [List.countP_cons, hcourse, ← ih]
    cases n.kind <;> simp <;> omega

namespace Tree

/-- The course's own node is walked first, and then the nodes that are listed. -/
theorem walk_eq_cons_listing (t : Tree) : t.walk = t.courseInfo :: t.listing.map (·.node) := by
  rw [listing_eq, List.map_map, ← t.map_snd_walkPlaces]
  rfl

/-- What can be approved below the course is collected section by section. -/
theorem eligible_below_course (t : Tree) :
    (t.walk.tail.filter Node.isEligible).map Node.usageKey =
      t.sections.flatMap fun e => e.2.collectEligible := by
  rw [walk, List.tail_cons, Node.walkEntries_eq, List.filter_flatMap, List.map_flatMap]
  refine List.flatMap_congr fun e _ => ?_
  rw [Node.collectEligible_eq_walk]

/-- **The printed outline, the walk, the counts and the plan are about the same nodes.**

* The course's own node and the nodes listed below it are, in their order, the nodes walked.
* The printed outline is the title for the course, an item for each of the nodes walked after it, indented
  by the depth of its place and with the id under which it stands there, and the counts.
* It has as many lines marked with a cross as approved blocks are counted, and as many marked as open as
  eligible blocks.
* The keys of the eligible nodes walked after the course's own are, in their order, those collected from
  one section after the other.
* Sections, subsections, units and contents together are all nodes walked that are not of the category of
  a course, and no more units are loaded than there are. -/
theorem report_describes_walk (t : Tree) :
    t.walk = t.courseInfo :: t.listing.map (·.node) ∧
    (t.walkPlaces.map Prod.snd = t.walk ∧
      t.report = Report.header (t.courseInfo.line courseId) ++
        (t.walkPlaces.tail.flatMap fun s => Report.subItem s.1.depth (s.2.line s.1.lastId)) ++
          summaryOf t.stats) ∧
    (t.report.countP (ReportLine.isMarked "[x]") = t.stats.approved ∧
      t.report.countP (ReportLine.isMarked "[ ]") = t.stats.eligible) ∧
    (t.walk.tail.filter Node.isEligible).map Node.usageKey =
      (t.sections.flatMap fun e => e.2.collectEligible) ∧
    t.stats.sections + t.stats.subsections + t.stats.units + t.stats.contents =
      t.walk.countP (·.category != "course") ∧
    t.stats.unitsLoaded ≤ t.stats.units := by
  refine ⟨t.walk_eq_cons_listing, ⟨t.map_snd_walkPlaces, t.report_eq⟩, ⟨?_, ?_⟩, t.eligible_below_course,
    ?_, ?_⟩
  · rw [stats_eq]
    exact countP_report rfl rfl Node.isPrefixOf_line_approved t
  · rw [stats_eq]
    exact countP_report rfl rfl Node.isPrefixOf_line_eligible t
  · rw [stats_eq]
    exact Node.countP_kinds t.walk
  · simp only [stats_eq]
    exact List.countP_mono_left fun n _ hloaded => (Bool.and_eq_true_iff.mp hloaded).1

end Tree

end CourseReview
