import CourseReview.Proofs.Session.Fetches
import CourseReview.Sync.Link

/-!
# The course of a bulk load

A call that fetches many units makes its requests bit by bit and takes the replies in as they come.
This file settles what all that comes to: the requests go out in the order of the units, and in the end
the answers have been taken in one after another, each of them once, in some order.

* Requests go out while there is room (`UnitLoad.sendQueue_eq`), and a reply makes room for another
  (`UnitLoad.accept_eq`).  Where the load stands in between is kept track of by `UnitLoad.Stands`.
* So a synchronizer that is driven over a link takes in all answers (`Synchronizer.drive_units`),
  whatever the link and the number of requests at a time.
-/

namespace CourseReview

/-! ## 1. Numbered entries -/

/-- The entries of a list with their numbers, counted from the first one. -/
def numbered {α : Type} (first : Nat) (l : List α) : List (Nat × α) :=
  (List.range' first l.length).zip l

section Numbered

variable {α β : Type} {first : Nat} {l : List α}

@[simp] theorem numbered_nil (first : Nat) : numbered first ([] : List α) = [] := rfl

@[simp] theorem length_numbered (first : Nat) (l : List α) : (numbered first l).length = l.length := by
  rw [numbered, List.length_zip, List.length_range', Nat.min_self]

theorem numbered_append (first : Nat) (l l' : List α) :
    numbered first (l ++ l') = numbered first l ++ numbered (first + l.length) l' := by
  rw [numbered, List.length_append, ← List.range'_append_1, List.zip_append List.length_range']
  rfl

/-- The numbers go on where a list is cut. -/
theorem numbered_take_append {k : Nat} (hk : k ≤ l.length) :
    numbered first (l.take k) ++ numbered (first + k) (l.drop k) = numbered first l := by
  have happend := numbered_append first (l.take k) (l.drop k)
  rw [List.take_append_drop, List.length_take, Nat.min_eq_left hk] at happend
  exact happend.symm

theorem map_numbered (first : Nat) (l : List α) (f : α → β) :
    (numbered first l).map (fun w => (w.1, f w.2)) = numbered first (l.map f) := by
  unfold numbered
  rw [List.length_map, List.zip_map_right]
  rfl

theorem map_fst_numbered (first : Nat) (l : List α) :
    (numbered first l).map Prod.fst = List.range' first l.length :=
  List.map_fst_zip (Nat.le_of_eq List.length_range')

theorem map_snd_numbered (first : Nat) (l : List α) : (numbered first l).map Prod.snd = l :=
  List.map_snd_zip (Nat.le_of_eq List.length_range'.symm)

/-- A number tells the place of the entry. -/
theorem getElem?_of_mem_numbered {i : Nat} {a : α} (h : (i, a) ∈ numbered first l) :
    first ≤ i ∧ l[i - first]? = some a := by
  obtain ⟨k, hk, heq⟩ := List.getElem_of_mem h
  simp only [numbered, List.getElem_zip, List.getElem_range', Nat.one_mul, Prod.mk.injEq] at heq
  obtain ⟨rfl, rfl⟩ := heq
  refine ⟨Nat.le_add_right .., ?_⟩
  rw [Nat.add_sub_cancel_left]
  exact List.getElem?_eq_getElem _

/-- Taking out the entry of a number, where no number is twice. -/
theorem perm_cons_filter {w : Nat × α} : ∀ {l : List (Nat × α)}, (l.map Prod.fst).Nodup → w ∈ l →
    l.Perm (w :: l.filter (·.1 != w.1))
  | [], _, hw => nomatch hw
  | x :: l, hnodup, hw => by
    obtain ⟨hx, hnodup⟩ := List.nodup_cons.mp hnodup
    rcases List.mem_cons.mp hw with rfl | hw
    · have hrest : l.filter (·.1 != w.1) = l := by
        refine List.filter_eq_self.mpr fun x hx' => bne_iff_ne.mpr fun heq => hx ?_
        exact heq ▸ List.mem_map_of_mem hx'
      rw [List.filter_cons_of_neg (by simp), hrest]
    · have hne : x.1 ≠ w.1 := fun heq => hx (heq ▸ List.mem_map_of_mem hw)
      rw [List.filter_cons_of_pos (by simpa using hne)]
      exact ((perm_cons_filter hnodup hw).cons x).trans (.swap ..)

end Numbered

/-! ## 2. Room for requests -/

namespace UnitLoad

/-- How many more requests can go out. -/
def room (limit : Nat) (u : UnitLoad) : Nat :=
  min (limit - u.waiting.length) u.queue.length

/-- The load after the requests that there is room for have gone out, numbered from `next` on. -/
def proceed (limit next : Nat) (u : UnitLoad) : UnitLoad :=
  { u with
    waiting := u.waiting ++ numbered next (u.queue.take (u.room limit))
    queue := u.queue.drop (u.room limit) }

theorem isFinished_of_waiting {u : UnitLoad} (h : u.waiting ≠ []) : u.isFinished = false := by
  rw [isFinished, List.isEmpty_eq_false_iff.mpr h]
  rfl

/-- After that some request waits, unless the load is finished. -/
theorem waiting_proceed_ne_nil {limit : Nat} (hlimit : 0 < limit) (next : Nat) {u : UnitLoad}
    (hcount : u.waiting.length + u.queue.length ≠ 0) : (u.proceed limit next).waiting ≠ [] := by
  intro hwaiting
  have hlength := congrArg List.length hwaiting
  rw [proceed, List.length_append, length_numbered, List.length_take, room, List.length_nil] at hlength
  omega

theorem length_proceed (limit next : Nat) (u : UnitLoad) :
    (u.proceed limit next).waiting.length + (u.proceed limit next).queue.length =
      u.waiting.length + u.queue.length := by
  have hroom : u.room limit ≤ u.queue.length := Nat.min_le_right ..
  rw [proceed, List.length_append, length_numbered, List.length_take, List.length_drop]
  omega

/-- The load after the reply to the request of that number, with so many units loaded. -/
def settled (number loaded : Nat) (u : UnitLoad) : UnitLoad :=
  { u with waiting := u.waiting.filter (·.1 != number), loaded }

section Send

variable {server : ReviewServer} {request : Ticket UnitFetch → HttpRequest}
  (hserver : ∀ t, server.request (.components t.request.usageKey) = .ok (request t))
include hserver

/-- **Requests go out while there is room.** -/
theorem sendQueue_eq (limit loaded : Nat) (s : Session) :
    ∀ (queue : List (Ticket UnitFetch)) (next : Nat) (waiting : List (Nat × Ticket UnitFetch)),
      sendQueue server limit loaded next waiting s queue =
        let k := min (limit - waiting.length) queue.length
        ({ waiting := waiting ++ numbered next (queue.take k), queue := queue.drop k, loaded }, s,
          (queue.take k).map request) := by
  intro queue
  induction queue with
  | nil => intro next waiting; simp [sendQueue]
  | cons t queue ih =>
    intro next waiting
    rw [sendQueue]
    split
    · rename_i hroom
      have hk : min (limit - waiting.length) (t :: queue).length =
          min (limit - (waiting ++ [(next, t)]).length) queue.length + 1 := by
        simp only [List.length_append, List.length_cons, List.length_nil]
        omega
      have hnumbered : ∀ l : List (Ticket UnitFetch),
          numbered next (t :: l) = (next, t) :: numbered (next + 1) l := fun l =>
        numbered_append next [t] l
      simp only [hserver, ih, hk, List.take_succ_cons, List.drop_succ_cons, List.map_cons, hnumbered,
        List.append_assoc, List.singleton_append]
    · rename_i hroom
      have hk : min (limit - waiting.length) (t :: queue).length = 0 := by omega
      simp only [hk, List.take_zero, List.drop_zero, numbered_nil, List.append_nil, List.map_nil]

/-- The same for the load as a whole. -/
theorem send_eq (limit next : Nat) (u : UnitLoad) (s : Session) :
    u.send server limit next s =
      (u.proceed limit next, s, (u.queue.take (u.room limit)).map request) :=
  sendQueue_eq hserver ..

end Send

/-- Where no request can be made, every unit of the queue is finished with the failure. -/
theorem sendQueue_of_error {server : ReviewServer} {e : ReviewError}
    (hserver : ∀ key, server.request (.components key) = .error e) {limit : Nat} (hlimit : 0 < limit)
    {answer : NodePath → Outcome UnitComponents} (loaded next : Nat) :
    ∀ {queue : List (Ticket UnitFetch)} (s : Session), (∀ t ∈ queue, answer t.path = .error e) →
      ∃ s', queue.foldl (Session.takeIn answer) (loaded, s) = (loaded, s') ∧
        sendQueue server limit loaded next [] s queue = ({ loaded }, s', []) := by
  intro queue
  induction queue with
  | nil => exact fun s _ => ⟨s, rfl, rfl⟩
  | cons t queue ih =>
    intro s hanswer
    obtain ⟨hhere, hanswer⟩ := List.forall_mem_cons.mp hanswer
    rw [sendQueue, List.length_nil, if_pos hlimit, hserver, List.foldl_cons,
      Session.takeIn_of_error hhere]
    exact ih _ hanswer

/-- Where a bulk load stands: of the tickets, in their order, requests have been made for so many, with
numbers from the first one on; the answers to some of these have been taken in, and the others are
waited for. -/
structure Stands (tickets : List (Ticket UnitFetch)) (first made : Nat)
    (taken : List (Ticket UnitFetch)) (u : UnitLoad) : Prop where
  made_le : made ≤ tickets.length
  queue : u.queue = tickets.drop made
  perm : (taken ++ u.waiting.map Prod.snd).Perm (tickets.take made)
  numbers : ∀ w ∈ u.waiting, w ∈ numbered first (tickets.take made)
  distinct : (u.waiting.map Prod.fst).Nodup

namespace Stands

variable {tickets taken : List (Ticket UnitFetch)} {first made : Nat} {u : UnitLoad}

/-- In the beginning all tickets are in the queue. -/
theorem start (tickets : List (Ticket UnitFetch)) (first : Nat) :
    Stands tickets first 0 [] { queue := tickets } where
  made_le := Nat.zero_le _
  queue := rfl
  perm := .nil
  numbers _ h := nomatch h
  distinct := .nil

/-- More requests go out, from the head of the queue. -/
theorem proceed (h : u.Stands tickets first made taken) (limit : Nat) :
    (u.proceed limit (first + made)).Stands tickets first (made + u.room limit) taken where
  made_le := by
    have hle := h.made_le
    have hroom : u.room limit ≤ u.queue.length := Nat.min_le_right ..
    rw [h.queue, List.length_drop] at hroom
    omega
  queue := by rw [UnitLoad.proceed, h.queue, List.drop_drop]
  perm := by
    rw [UnitLoad.proceed, List.take_add, ← h.queue, List.map_append, map_snd_numbered,
      ← List.append_assoc]
    exact h.perm.append_right _
  numbers w hw := by
    have hlength : (tickets.take made).length = made := by
      rw [List.length_take, Nat.min_eq_left h.made_le]
    rw [List.take_add, numbered_append, hlength, List.mem_append, ← h.queue]
    exact (List.mem_append.mp hw).imp_left (h.numbers w)
  distinct := by
    rw [UnitLoad.proceed, List.map_append, map_fst_numbered, List.nodup_append]
    refine ⟨h.distinct, List.nodup_range', fun i hi j hj => ?_⟩
    -- the numbers that wait are of requests made before
    obtain ⟨⟨i, t⟩, hw, rfl⟩ := List.mem_map.mp hi
    obtain ⟨hle, hsome⟩ := getElem?_of_mem_numbered (h.numbers _ hw)
    have hlt := (List.getElem?_eq_some_iff.mp hsome).1
    rw [List.length_take] at hlt
    rw [List.mem_range'_1] at hj
    dsimp only
    omega

/-- An answer is taken in. -/
theorem accept (h : u.Stands tickets first made taken) {w : Nat × Ticket UnitFetch}
    (hw : w ∈ u.waiting) (loaded : Nat) :
    (u.settled w.1 loaded).Stands tickets first made (taken ++ [w.2]) where
  made_le := h.made_le
  queue := h.queue
  perm := by
    have hwaiting := (perm_cons_filter h.distinct hw).map Prod.snd
    rw [List.append_assoc]
    exact (hwaiting.symm.append_left taken).trans h.perm
  numbers w' hw' := h.numbers w' (List.mem_filter.mp hw').1
  distinct := h.distinct.sublist (List.filter_sublist.map _)

/-- An answer leaves one request less. -/
theorem length_settled (h : u.Stands tickets first made taken) {w : Nat × Ticket UnitFetch}
    (hw : w ∈ u.waiting) (loaded : Nat) :
    (u.settled w.1 loaded).waiting.length + (u.settled w.1 loaded).queue.length + 1 =
      u.waiting.length + u.queue.length := by
  have hwaiting := (perm_cons_filter h.distinct hw).length_eq
  rw [List.length_cons] at hwaiting
  simp only [settled]
  omega

end Stands

/-- **A reply is taken in** as the answer to the unit that waits for it. -/
theorem accept_eq {tickets taken : List (Ticket UnitFetch)} {first made : Nat} {u : UnitLoad}
    (h : u.Stands tickets first made taken) {w : Nat × Ticket UnitFetch} (hw : w ∈ u.waiting)
    {reply : Outcome HttpReply} {answer : NodePath → Outcome UnitComponents}
    (hanswer : readAnswer UnitComponents.form.decode reply = answer w.2.path) (s : Session) :
    u.accept w.1 reply s =
      (u.settled w.1 (Session.takeIn answer (u.loaded, s) w.2).1,
        (Session.takeIn answer (u.loaded, s) w.2).2) := by
  have hfind : u.waiting.find? (·.1 == w.1) = some w := by
    have hsome : (u.waiting.find? (·.1 == w.1)).isSome = true :=
      List.find?_isSome.mpr ⟨w, hw, beq_self_eq_true _⟩
    obtain ⟨w', hw'⟩ := Option.isSome_iff_exists.mp hsome
    have hnumber := List.find?_some hw'
    -- no other ticket waits under this number
    have hmem := (perm_cons_filter h.distinct hw).mem_iff.mp (List.mem_of_find?_eq_some hw')
    rw [List.mem_cons, List.mem_filter] at hmem
    rcases hmem with rfl | ⟨-, hne⟩
    · exact hw'
    · exact absurd (beq_iff_eq.mp hnumber) (bne_iff_ne.mp hne)
  rw [accept, hfind]
  simp only [hanswer, Session.takeIn]
  rcases s.finishUnitFetch w.2 (answer w.2.path) with ⟨_ | _, s'⟩ <;> rfl

/-- Where the call stands. -/
def progress (u : UnitLoad) : Progress :=
  if u.isFinished then .finished (.ok (.unitsLoaded u.loaded)) else .underWay (.units u)

end UnitLoad

/-! ## 3. Driving a load -/

/-- A link that has a reply to every request, and hands the replies out in an order of its own: as long
as requests wait, it hands out the reply to one of them. -/
def Link.Answers {σ : Type} (link : Link σ) (replies : Nat → Outcome HttpReply) : Prop :=
  ∀ requests state, requests ≠ [] →
    ∃ number state', link requests state = (some (number, replies number), state') ∧
      number ∈ requests.map Prod.fst

namespace Synchronizer

/-- The synchronizer in the course of a bulk load, for which so many requests have been made. -/
def during (y : Synchronizer) (task : Nat) (request : Ticket UnitFetch → HttpRequest) (made : Nat)
    (u : UnitLoad) (s : Session) : Synchronizer :=
  { y with
    session := s
    tasks := if u.isFinished then [] else [(task, .units u)]
    requests := u.waiting.map fun w => (w.1, request w.2)
    nextRequest := y.nextRequest + made }

/-- The answer to the call, when the load is finished. -/
def loadAnswer (task : Nat) (u : UnitLoad) : List (Nat × Outcome Answer) :=
  if u.isFinished then [(task, .ok (.unitsLoaded u.loaded))] else []

/-- What becomes of a load when the requests that there is room for go out. -/
def proceed (y : Synchronizer) (task : Nat) (request : Ticket UnitFetch → HttpRequest) (made : Nat)
    (u : UnitLoad) (s : Session) : Effects × Synchronizer :=
  let u' := u.proceed y.limit (y.nextRequest + made)
  ({ sent := numbered (y.nextRequest + made) ((u.queue.take (u.room y.limit)).map request)
     finished := loadAnswer task u' },
    y.during task request (made + u.room y.limit) u' s)

/-! ### Steps -/

section Link

variable {σ : Type} {link : Link σ} {y : Synchronizer} {now : Effects} {state state' : σ}

/-- A step after which no request waits or is to be made is all there is. -/
theorem drive_of_none (hcount : y.requests.length + y.backlog = 0) :
    drive link (now, y) state = (now, y, state) := by
  rw [drive, hcount, driveFor]
  simp only [Effects.append, List.append_nil]

/-- After a step of which one request less is left, the rest is as from there. -/
theorem drive_of_reply {number : Nat} {reply : Outcome HttpReply}
    (hreply : link y.requests state = (some (number, reply), state'))
    (hcount : y.requests.length + y.backlog =
      (y.receive number reply).2.requests.length + (y.receive number reply).2.backlog + 1) :
    drive link (now, y) state =
      let rest := drive link (y.receive number reply) state'
      (now.append rest.1, rest.2) := by
  rw [drive, hcount, driveFor, hreply]
  rfl

end Link

section Step

variable (y : Synchronizer) (task made : Nat) (request : Ticket UnitFetch → HttpRequest) (u : UnitLoad)
  (s : Session)

@[simp] theorem during_limit : (y.during task request made u s).limit = y.limit := rfl

@[simp] theorem during_nextRequest :
    (y.during task request made u s).nextRequest = y.nextRequest + made := rfl

/-- The requests of the load that wait or are to be made. -/
theorem length_during :
    (y.during task request made u s).requests.length + (y.during task request made u s).backlog =
      u.waiting.length + u.queue.length := by
  rw [during, backlog, List.length_map]
  cases hfinished : u.isFinished with
  | false => rfl
  | true =>
    rw [UnitLoad.isFinished, Bool.and_eq_true, List.isEmpty_iff, List.isEmpty_iff] at hfinished
    rw [hfinished.2]
    rfl

/-- A load with nothing left to do is finished. -/
theorem proceed_of_done {u : UnitLoad} (hwaiting : u.waiting = []) (hqueue : u.queue = []) :
    y.proceed task request made u s =
      ({ finished := [(task, .ok (.unitsLoaded u.loaded))] },
        { y with
          session := s
          tasks := []
          requests := []
          nextRequest := y.nextRequest + made }) := by
  obtain ⟨waiting, queue, loaded⟩ := u
  obtain rfl : waiting = [] := hwaiting
  obtain rfl : queue = [] := hqueue
  have hroom : ({ loaded } : UnitLoad).room y.limit = 0 := Nat.min_zero _
  rw [proceed, UnitLoad.proceed, hroom]
  rfl

/-- The effects of a step of the load. -/
theorem effects_progress (sent : List HttpRequest) :
    y.effects task { progress := u.progress, session := s, sent } =
      { sent := numbered y.nextRequest sent, finished := loadAnswer task u } := by
  simp only [effects, UnitLoad.progress, loadAnswer]
  cases u.isFinished <;> rfl

/-- The calls under way after a step of the load, which is the only one. -/
theorem settle_progress (t : Task) :
    settle task u.progress [(task, t)] = if u.isFinished then [] else [(task, .units u)] := by
  rw [UnitLoad.progress]
  cases u.isFinished <;> simp [settle]

/-- What is sent now and what is left to be sent are the two parts of the queue. -/
theorem sent_proceed (limit next : Nat) :
    numbered next ((u.queue.take (u.room limit)).map request) ++
        numbered (next + u.room limit) ((u.proceed limit next).queue.map request) =
      numbered next (u.queue.map request) := by
  rw [UnitLoad.proceed, List.map_take, List.map_drop]
  exact numbered_take_append (by rw [List.length_map]; exact Nat.min_le_right ..)

/-- The requests that wait afterwards. -/
theorem requests_proceed (limit next : Nat) :
    (u.waiting.map fun w => (w.1, request w.2)) ++
        numbered next ((u.queue.take (u.room limit)).map request) =
      (u.proceed limit next).waiting.map fun w => (w.1, request w.2) := by
  rw [UnitLoad.proceed, List.map_append, map_numbered]

/-- The requests that wait after a reply. -/
theorem requests_settled (number loaded : Nat) :
    (y.during task request made u s).requests.filter (·.1 != number) =
      (u.settled number loaded).waiting.map fun w => (w.1, request w.2) :=
  List.filter_map

theorem length_sent (limit : Nat) : ((u.queue.take (u.room limit)).map request).length = u.room limit := by
  rw [List.length_map, List.length_take]
  exact Nat.min_eq_left (Nat.min_le_right ..)

end Step

section Drive

variable {y : Synchronizer} {request : Ticket UnitFetch → HttpRequest}
  (hserver : ∀ t, y.server.request (.components t.request.usageKey) = .ok (request t))
include hserver

theorem advanceUnits_eq (u : UnitLoad) (s : Session) :
    y.advanceUnits u s =
      { progress := (u.proceed y.limit y.nextRequest).progress
        session := s
        sent := (u.queue.take (u.room y.limit)).map request } := by
  rw [advanceUnits, UnitLoad.send_eq hserver]
  rfl

/-- **The beginning of a load.**  The first requests go out. -/
theorem start_loadUnits (htasks : y.tasks = []) (hrequests : y.requests = []) {p : NodePath}
    {tickets : List (Ticket UnitFetch)} {s : Session}
    (hstart : y.session.beginLoadUnits p = (.ok tickets, s)) (task : Nat) :
    y.start task (.loadUnits p) = y.proceed task request 0 { queue := tickets } s := by
  have hbegin : y.begin (.loadUnits p) = y.advanceUnits { queue := tickets } s := by
    rw [begin, Call.start, hstart]
  generalize hu : ({ queue := tickets } : UnitLoad) = u at hbegin
  have hwaiting := requests_proceed request u y.limit y.nextRequest
  rw [← hu, List.map_nil, List.nil_append, hu] at hwaiting
  rw [start, hbegin, advanceUnits_eq hserver]
  simp only [effects_progress, htasks, hrequests, hwaiting, length_sent, List.nil_append]
  rw [UnitLoad.progress, proceed, during, Nat.add_zero, hwaiting, Nat.zero_add]
  cases (u.proceed y.limit y.nextRequest).isFinished <;> rfl

/-- **One reply** is taken in and makes room for more requests. -/
theorem receive_during {tickets taken : List (Ticket UnitFetch)} {made : Nat} {u : UnitLoad}
    (h : u.Stands tickets y.nextRequest made taken) {w : Nat × Ticket UnitFetch} (hw : w ∈ u.waiting)
    {reply : Outcome HttpReply} {answer : NodePath → Outcome UnitComponents}
    (hanswer : readAnswer UnitComponents.form.decode reply = answer w.2.path) (task : Nat)
    {s s' : Session} {loaded : Nat} (htaken : Session.takeIn answer (u.loaded, s) w.2 = (loaded, s')) :
    (y.during task request made u s).receive w.1 reply =
      y.proceed task request made (u.settled w.1 loaded) s' := by
  have hunder : u.isFinished = false := UnitLoad.isFinished_of_waiting (List.ne_nil_of_mem hw)
  have htasks : (y.during task request made u s).tasks = [(task, .units u)] := by
    rw [during, hunder]
    rfl
  have hawaits : (Task.units u).awaits w.1 = true :=
    List.any_eq_true.mpr ⟨w, hw, beq_self_eq_true _⟩
  have hfind : (y.during task request made u s).tasks.find? (·.2.awaits w.1) =
      some (task, .units u) := by
    rw [htasks]
    exact List.find?_cons_of_pos hawaits
  have hadvance : (y.during task request made u s).advance w.1 reply (.units u) =
      (y.during task request made u s).advanceUnits (u.settled w.1 loaded) s' := by
    have haccept : u.accept w.1 reply s = (u.settled w.1 loaded, s') := by
      rw [UnitLoad.accept_eq h hw hanswer, htaken]
    rw [advance, show (y.during task request made u s).session = s from rfl, haccept]
  have hserver' : ∀ t, (y.during task request made u s).server.request
      (.components t.request.usageKey) = .ok (request t) := hserver
  rw [receive, hfind]
  simp only [hadvance, advanceUnits_eq hserver', effects_progress, htasks, settle_progress, length_sent,
    during_limit, during_nextRequest, requests_settled y task made request u s w.1 loaded,
    requests_proceed, Nat.add_assoc]
  rfl

/-- **One reply in the course of a load.**  Requests go out, one of those that wait is answered, and the
load goes on from there. -/
theorem drive_step {σ : Type} {link : Link σ} {replies : Nat → Outcome HttpReply}
    (hlink : link.Answers replies) {answer : NodePath → Outcome UnitComponents}
    {tickets taken : List (Ticket UnitFetch)}
    (hanswer : ∀ w ∈ numbered y.nextRequest tickets,
      readAnswer UnitComponents.form.decode (replies w.1) = answer w.2.path) (task : Nat) {made : Nat}
    {u : UnitLoad} (h : u.Stands tickets y.nextRequest made taken)
    (hcount : u.waiting.length + u.queue.length ≠ 0) (s : Session) (state : σ) :
    ∃ w ∈ (u.proceed y.limit (y.nextRequest + made)).waiting, ∃ loaded s' state',
      Session.takeIn answer (u.loaded, s) w.2 = (loaded, s') ∧
      drive link (y.proceed task request made u s) state =
        let rest := drive link (y.proceed task request (made + u.room y.limit)
          ((u.proceed y.limit (y.nextRequest + made)).settled w.1 loaded) s') state'
        (Effects.append
          { sent := numbered (y.nextRequest + made) ((u.queue.take (u.room y.limit)).map request) } rest.1,
          rest.2) := by
  have h' := h.proceed y.limit
  have hwaiting := UnitLoad.waiting_proceed_ne_nil y.limit_pos (y.nextRequest + made) hcount
  have hloaded : (u.proceed y.limit (y.nextRequest + made)).loaded = u.loaded := rfl
  rw [← hloaded]
  generalize hproceed : y.proceed task request made u s = step
  rw [proceed, loadAnswer, UnitLoad.isFinished_of_waiting hwaiting] at hproceed
  generalize u.proceed y.limit (y.nextRequest + made) = u' at *
  generalize made + u.room y.limit = made' at *
  subst hproceed
  have hrequests : (y.during task request made' u' s).requests ≠ [] := fun heq =>
    hwaiting (List.map_eq_nil_iff.mp heq)
  obtain ⟨number, state', hreply, hnumber⟩ := hlink _ state hrequests
  obtain ⟨entry, hentry, rfl⟩ := List.mem_map.mp hnumber
  obtain ⟨w, hw, rfl⟩ := List.mem_map.mp hentry
  have hmem : w ∈ numbered y.nextRequest tickets := by
    rw [← List.take_append_drop made' tickets, numbered_append]
    exact List.mem_append_left _ (h'.numbers w hw)
  obtain ⟨loaded, s', htake⟩ : ∃ loaded s', Session.takeIn answer (u'.loaded, s) w.2 = (loaded, s') :=
    ⟨_, _, rfl⟩
  have hreceive := receive_during hserver h' hw (hanswer w hmem) task htake
  refine ⟨w, hw, loaded, s', state', htake, ?_⟩
  have hless : (y.during task request made' u' s).requests.length +
      (y.during task request made' u' s).backlog =
        ((y.during task request made' u' s).receive w.1 (replies w.1)).2.requests.length +
          ((y.during task request made' u' s).receive w.1 (replies w.1)).2.backlog + 1 := by
    rw [hreceive, proceed, length_during, length_during, UnitLoad.length_proceed, h'.length_settled hw]
  rw [drive_of_reply hreply hless, hreceive]
  rfl

/-- **A load takes its course.**  All replies come, in some order, and are taken in in this order. -/
theorem drive_proceed {σ : Type} {link : Link σ} {replies : Nat → Outcome HttpReply}
    (hlink : link.Answers replies) {answer : NodePath → Outcome UnitComponents}
    {tickets : List (Ticket UnitFetch)}
    (hanswer : ∀ w ∈ numbered y.nextRequest tickets,
      readAnswer UnitComponents.form.decode (replies w.1) = answer w.2.path) (task : Nat)
    {s₀ : Session} :
    ∀ {count : Nat} {taken : List (Ticket UnitFetch)} {made : Nat} {u : UnitLoad} {s : Session}
      (state : σ), u.waiting.length + u.queue.length = count →
      u.Stands tickets y.nextRequest made taken →
      taken.foldl (Session.takeIn answer) (0, s₀) = (u.loaded, s) →
      ∃ (order : List (Ticket UnitFetch)) (state' : σ), order.Perm tickets ∧
        drive link (y.proceed task request made u s) state =
          ({ sent := numbered (y.nextRequest + made) (u.queue.map request)
             finished :=
              [(task, .ok (.unitsLoaded (order.foldl (Session.takeIn answer) (0, s₀)).1))] },
            { y with
              session := (order.foldl (Session.takeIn answer) (0, s₀)).2
              tasks := []
              requests := []
              nextRequest := y.nextRequest + tickets.length }, state') := by
  intro count
  induction count with
  | zero =>
    intro taken made u s state hcount h htaken
    have hwaiting : u.waiting = [] := List.eq_nil_of_length_eq_zero (by omega)
    have hqueue : u.queue = [] := List.eq_nil_of_length_eq_zero (by omega)
    -- all requests have been made, and all replies taken in
    have hmade : made = tickets.length := by
      have hle := h.made_le
      have hdrop := h.queue
      rw [hqueue, eq_comm, List.drop_eq_nil_iff] at hdrop
      omega
    have hperm := h.perm
    rw [hwaiting, List.map_nil, List.append_nil, hmade, List.take_length] at hperm
    refine ⟨taken, state, hperm, ?_⟩
    rw [proceed_of_done y task made request s hwaiting hqueue, drive_of_none rfl, hqueue, htaken, hmade]
    rfl
  | succ count ih =>
    intro taken made u s state hcount h htaken
    obtain ⟨w, hw, loaded, s', state', htake, hstep⟩ :=
      drive_step hserver hlink hanswer task h (by omega) s state
    have h' := h.proceed y.limit
    have htaken' : (taken ++ [w.2]).foldl (Session.takeIn answer) (0, s₀) = (loaded, s') := by
      rw [List.foldl_append, htaken]
      exact htake
    have hlength := h'.length_settled hw loaded
    rw [UnitLoad.length_proceed, hcount, Nat.add_right_cancel_iff] at hlength
    obtain ⟨order, state'', hperm, hdrive⟩ := ih state' hlength (h'.accept hw loaded) htaken'
    refine ⟨order, state'', hperm, ?_⟩
    rw [hstep, hdrive, ← sent_proceed request u y.limit (y.nextRequest + made), Nat.add_assoc]
    rfl

/-- **A bulk load from its beginning to its end.** -/
theorem drive_units (htasks : y.tasks = []) (hrequests : y.requests = []) {p : NodePath}
    {tickets : List (Ticket UnitFetch)} {s : Session}
    (hstart : y.session.beginLoadUnits p = (.ok tickets, s)) {σ : Type} {link : Link σ}
    {replies : Nat → Outcome HttpReply} (hlink : link.Answers replies)
    {answer : NodePath → Outcome UnitComponents}
    (hanswer : ∀ w ∈ numbered y.nextRequest tickets,
      readAnswer UnitComponents.form.decode (replies w.1) = answer w.2.path) (task : Nat) (state : σ) :
    ∃ (order : List (Ticket UnitFetch)) (state' : σ), order.Perm tickets ∧
      drive link (y.start task (.loadUnits p)) state =
        ({ sent := numbered y.nextRequest (tickets.map request)
           finished := [(task, .ok (.unitsLoaded (order.foldl (Session.takeIn answer) (0, s)).1))] },
          { y with
            session := (order.foldl (Session.takeIn answer) (0, s)).2
            tasks := []
            requests := []
            nextRequest := y.nextRequest + tickets.length }, state') := by
  rw [start_loadUnits hserver htasks hrequests hstart]
  exact drive_proceed hserver hlink hanswer task state rfl (.start tickets y.nextRequest) rfl

end Drive

/-- **A bulk load for which no request can be made** is over at once, with a failure for every unit. -/
theorem drive_units_of_error {y : Synchronizer} {e : ReviewError}
    (hserver : ∀ key, y.server.request (.components key) = .error e) (htasks : y.tasks = [])
    (hrequests : y.requests = []) {p : NodePath} {tickets : List (Ticket UnitFetch)} {s : Session}
    (hstart : y.session.beginLoadUnits p = (.ok tickets, s))
    {answer : NodePath → Outcome UnitComponents} (hanswer : ∀ t ∈ tickets, answer t.path = .error e)
    {σ : Type} (link : Link σ) (task : Nat) (state : σ) :
    drive link (y.start task (.loadUnits p)) state =
      ({ finished := [(task, .ok (.unitsLoaded (tickets.foldl (Session.takeIn answer) (0, s)).1))] },
        { y with
          session := (tickets.foldl (Session.takeIn answer) (0, s)).2
          tasks := []
          requests := [] }, state) := by
  obtain ⟨server, limit, session, tasks, requests, nextRequest, limit_pos⟩ := y
  obtain rfl : tasks = [] := htasks
  obtain rfl : requests = [] := hrequests
  obtain ⟨s', hfold, hsend⟩ := UnitLoad.sendQueue_of_error hserver limit_pos 0 nextRequest s hanswer
  rw [start, begin, Call.start, hstart, hfold]
  simp only [advanceUnits, UnitLoad.send, hsend]
  exact drive_of_none rfl

end Synchronizer

end CourseReview
