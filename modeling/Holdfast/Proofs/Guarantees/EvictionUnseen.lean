import Holdfast.Proofs.Conduct.Indifference

/-!
# Evictions cannot be noticed

Requests to the store, calls and what happens outside, one after the other: if some of it is evictions
and passes over what expired, then the answers to all the rest do not depend on where these are, or
whether there are any (`World.replies_eq_of_bare_eq`). What differs is where pages of a scan end, how
many entries the store has, and what a pass announces.

Not even a listing of holds tells the difference, but one that has more live holds to go through than
it can have pages for (`World.Overfull`); that would take more holds than there are slots.
-/

namespace Holdfast.Reservation

/-- Something that is done while nothing else goes on. -/
inductive Task where
  | request (r : Store.Request)
  /-- A scan paged to its end, with evictions before some of the pages. -/
  | sweep (start : String) (count : Nat) (evicts : Nat → Bool)
  | call (c : Call)
  | outside (move : Move)

/-- What comes of it. -/
inductive Task.Reply where
  | request (r : Store.Request) (a : r.Answer)
  | entries (entries : List (String × String))
  | call (r : Except Failure Answer)

/-- What counts of an answer of the store: of a page its entries, if its scan begins among its keys,
and nothing of what an eviction reports. -/
def Task.replyOf : (r : Store.Request) → r.Answer → Option Task.Reply
  | .evict, _ => none
  | .scan start cursor _, page =>
    if cursor.all (Store.startsWith start) then some (.entries page.entries) else none
  | r, a => some (.request r a)

/-- The task without the evictions in it, unless it is itself an eviction or a pass over what expired.
-/
def Task.bare : Task → Option Task
  | .request .evict => none
  | .call .reap => none
  | .sweep start count _ => some (.sweep start count fun _ => false)
  | task => some task

/-- Carries out a task. -/
def World.carryOut (policy : Policy) (w : World) : Task → Option Task.Reply × World
  | .request r =>
    let (answer, store) := w.store.answer w.clock r
    (Task.replyOf r answer, { w with store })
  | .sweep start count evicts =>
    let (entries, store) := w.store.sweep w.clock start count evicts
    (some (.entries entries), { w with store })
  | .call c =>
    let (result, w) := w.run (c.program policy)
    (if c = .reap then none else some (.call result), w)
  | .outside move => (none, w.drift move)

/-- What comes of some tasks, one after the other. -/
def World.replies (policy : Policy) (w : World) : List Task → List Task.Reply
  | [] => []
  | task :: rest =>
    (w.carryOut policy task).1.toList ++ (w.carryOut policy task).2.replies policy rest

/-- Among the tasks is a listing that finds as many live holds as fill all its pages. -/
def World.Overfull (policy : Policy) (w : World) : List Task → Prop
  | [] => False
  | task :: rest =>
    (task = .call .listHolds ∧
      pageSize * maxPages ≤ (w.store.ahead w.clock Key.holdStart none).length) ∨
      (w.carryOut policy task).2.Overfull policy rest

namespace World.Alike

variable {w v : World} (alike : w.Alike v) (policy : Policy)

include alike

/-- Worlds that look alike have the same entries ahead of a scan. -/
theorem ahead_eq (start : String) :
    w.store.ahead w.clock start none = v.store.ahead v.clock start none := by
  rw [alike.store.ahead, alike.clock]

omit alike in
/-- **A request to the store is answered alike**, as far as the answer counts. -/
theorem carryOut_request (alike : w.Alike v) (r : Store.Request) :
    (w.carryOut policy (.request r)).1 = (v.carryOut policy (.request r)).1 ∧
      (w.carryOut policy (.request r)).2.Alike (v.carryOut policy (.request r)).2 := by
  rcases w with ⟨⟨s, catalogue, admission, rooms⟩, clock, metrics⟩
  rcases v with ⟨⟨t, catalogue', admission', rooms'⟩, clock', metrics'⟩
  obtain ⟨same_clock, same_catalogue, same_admission, store⟩ := alike
  obtain rfl : clock = clock' := same_clock
  by_cases evicts : r = .evict
  · subst evicts
    have evicted := (Store.alike_evict clock s).trans (store.trans (Store.alike_evict clock t).symm)
    exact ⟨rfl, rfl, same_catalogue, same_admission, evicted⟩
  by_cases scans : ∃ start cursor count, r = .scan start cursor count
  · obtain ⟨start, cursor, count, rfl⟩ := scans
    refine ⟨?_, rfl, same_catalogue, same_admission, store⟩
    by_cases begins : cursor.all (Store.startsWith start) = true
    · have among : Store.Begins start cursor := by
        rintro c rfl
        exact begins
      have same := store.entries_scan among count
      simp only [World.carryOut, Store.answer, Task.replyOf, same]
    · simp only [World.carryOut, Store.answer, Task.replyOf, begins]
      rfl
  · obtain ⟨same, alike'⟩ := store.answer
      (fun start cursor count eq => scans ⟨start, cursor, count, eq⟩) evicts
    exact ⟨congrArg (Task.replyOf r) same, rfl, same_catalogue, same_admission, alike'⟩

omit alike in
/-- A scan paged to its end gives the same, wherever there are evictions. -/
theorem carryOut_sweep (alike : w.Alike v) (start : String) (count : Nat)
    (evicts evicts' : Nat → Bool) :
    (w.carryOut policy (.sweep start count evicts)).1 =
        (v.carryOut policy (.sweep start count evicts')).1 ∧
      (w.carryOut policy (.sweep start count evicts)).2.Alike
        (v.carryOut policy (.sweep start count evicts')).2 := by
  rcases w with ⟨⟨s, catalogue, admission, rooms⟩, clock, metrics⟩
  rcases v with ⟨⟨t, catalogue', admission', rooms'⟩, clock', metrics'⟩
  obtain ⟨same_clock, same_catalogue, same_admission, store⟩ := alike
  obtain rfl : clock = clock' := same_clock
  obtain ⟨left, alike₁⟩ := Store.sweep_eq clock start count evicts s
  obtain ⟨right, alike₂⟩ := Store.sweep_eq clock start count evicts' t
  have swept := alike₁.trans (store.trans alike₂.symm)
  have same := left.trans ((store.ahead start none).trans right.symm)
  exact ⟨congrArg (fun entries => some (Task.Reply.entries entries)) same, rfl, same_catalogue,
    same_admission, swept⟩

omit alike in
/-- A pass over what expired does what the program of its call does. -/
theorem carryOut_pass (w : World) {task : Task} (pass : task.bare = none) :
    (w.carryOut policy task).1 = none ∧ (w.carryOut policy task).2.Alike w := by
  cases task with
  | request r =>
    cases r with
    | evict => exact ⟨rfl, rfl, rfl, rfl, Store.alike_evict _ _⟩
    | _ => cases pass
  | call c =>
    cases c with
    | reap =>
      refine ⟨rfl, ?_⟩
      rcases ended : w.run Reservation.reap with ⟨r, w'⟩
      have attempted : w.run (Reservation.reap.attempt : Program Failure _) = (.ok r, w') := by
        rw [run_attempt_eq, ended]
      have alike' := w.alike_reap
      rw [ended] at alike'
      change (w.run (Reservation.reap.attempt >>= fun r => .done (Answer.reap r))).2.Alike w
      rw [run_seq attempted]
      exact alike'
    | _ => cases pass
  | sweep start count evicts => cases pass
  | outside move => cases pass

/-- **A listing comes to the same**, if it has pages enough. -/
theorem carryOut_listing
    (few : (w.store.ahead w.clock Key.holdStart none).length < pageSize * maxPages) :
    (w.carryOut policy (.call .listHolds)).1 = (v.carryOut policy (.call .listHolds)).1 := by
  have same := (indifferent_listHolds alike few).1
  change some (Task.Reply.call (w.run (listHolds >>= fun rows => .done (Answer.listHolds rows))).1) =
    some (.call (v.run (listHolds >>= fun rows => .done (Answer.listHolds rows))).1)
  rcases left : w.run listHolds with ⟨r, w'⟩
  rcases right : v.run listHolds with ⟨r', v'⟩
  rw [left, right] at same
  obtain rfl : r = r' := same
  cases r with
  | error e => rw [run_seq_error left, run_seq_error right]
  | ok rows =>
    rw [run_seq left, run_seq right]
    rfl

/-- A listing leaves worlds that look alike, whether or not it has pages enough. -/
theorem carryOut_listed : (w.carryOut policy (.call .listHolds)).2.Alike
    (v.carryOut policy (.call .listHolds)).2 := by
  have spares : (Call.listHolds.program policy).Spares :=
    Program.Looks.spares (looks_listHolds.bind fun _ => trivial)
  have left := alike_of_spares spares w
  have right := alike_of_spares spares v
  exact (left.trans alike).trans right.symm

/-- **A task comes to the same without the evictions in it**, unless it is a listing that has not pages
enough. -/
theorem carryOut {task bare : Task} (same : task.bare = some bare) :
    ((task = .call .listHolds →
        (w.store.ahead w.clock Key.holdStart none).length < pageSize * maxPages) →
      (w.carryOut policy task).1 = (v.carryOut policy bare).1) ∧
      (w.carryOut policy task).2.Alike (v.carryOut policy bare).2 := by
  cases task with
  | request r =>
    have itself : Task.request r = bare := by
      cases r with
      | evict => cases same
      | _ => exact Option.some.inj same
    subst itself
    obtain ⟨reply, alike'⟩ := alike.carryOut_request policy r
    exact ⟨fun _ => reply, alike'⟩
  | sweep start count evicts =>
    obtain rfl := Option.some.inj same
    obtain ⟨swept, alike'⟩ :=
      alike.carryOut_sweep policy start count evicts fun _ => false
    exact ⟨fun _ => swept, alike'⟩
  | call c =>
    by_cases listing : c = .listHolds
    · subst listing
      obtain rfl := Option.some.inj same
      exact ⟨fun few => alike.carryOut_listing policy (few rfl), alike.carryOut_listed policy⟩
    · by_cases pass : c = .reap
      · subst pass
        cases same
      · have itself : Task.call c = bare := by
          cases c with
          | reap => exact absurd rfl pass
          | _ => exact Option.some.inj same
        subst itself
        obtain ⟨result, alike'⟩ := indifferent_call policy listing pass w v alike
        refine ⟨fun _ => ?_, alike'⟩
        simp only [World.carryOut, result]
  | outside move =>
    obtain rfl := Option.some.inj same
    exact ⟨fun _ => rfl, alike.drift move⟩

end World.Alike

/-- Without the evictions in it, a task is a listing if it was one. -/
theorem Task.bare_listing {task bare : Task} (same : task.bare = some bare) :
    task = .call .listHolds ↔ bare = .call .listHolds := by
  cases task with
  | request r => cases r <;> cases same <;> simp
  | sweep start count evicts => cases same; simp
  | call c => cases c <;> cases same <;> simp
  | outside move => cases same; simp

/-- Whether a listing has not pages enough does not depend on the evictions before it. -/
theorem World.Alike.overfull_iff {policy : Policy} {w v : World} (alike : w.Alike v)
    (tasks : List Task) :
    w.Overfull policy tasks ↔ v.Overfull policy (tasks.filterMap Task.bare) := by
  induction tasks generalizing w v with
  | nil => exact Iff.rfl
  | cons task rest ih =>
    cases bare : task.bare with
    | none =>
      obtain ⟨-, unseen⟩ := World.Alike.carryOut_pass policy w bare
      rw [List.filterMap_cons_none bare, ← ih (unseen.trans alike), World.Overfull, or_iff_right]
      rintro ⟨rfl, -⟩
      cases bare
    | some bare' =>
      obtain ⟨-, alike'⟩ := alike.carryOut policy bare
      rw [List.filterMap_cons_some bare, World.Overfull, World.Overfull, ih alike', alike.ahead_eq]
      rw [Task.bare_listing bare]

/-- **What comes of some tasks comes of them without the evictions among them.** -/
theorem World.Alike.replies_bare {policy : Policy} {w v : World} (alike : w.Alike v)
    {tasks : List Task} (few : ¬ w.Overfull policy tasks) :
    w.replies policy tasks = v.replies policy (tasks.filterMap Task.bare) := by
  induction tasks generalizing w v with
  | nil => rfl
  | cons task rest ih =>
    rw [World.Overfull, not_or] at few
    obtain ⟨few_now, few_later⟩ := few
    cases bare : task.bare with
    | none =>
      obtain ⟨silent, unseen⟩ := World.Alike.carryOut_pass policy w bare
      rw [List.filterMap_cons_none bare, World.replies, silent]
      exact ih (unseen.trans alike) few_later
    | some bare' =>
      obtain ⟨reply, alike'⟩ := alike.carryOut policy bare
      have now := reply fun listing => Nat.lt_of_not_le fun many => few_now ⟨listing, many⟩
      rw [List.filterMap_cons_some bare, World.replies, World.replies, now, ih alike' few_later]

/-- **Evictions cannot be noticed.** Of two lists of tasks that differ only in evictions and passes over
what expired, all other tasks come to the same, unless there is a listing among them that has not pages
enough. -/
theorem World.replies_eq_of_bare_eq (policy : Policy) (w : World) {tasks tasks' : List Task}
    (same : tasks.filterMap Task.bare = tasks'.filterMap Task.bare) :
    w.replies policy tasks = w.replies policy tasks' ∨ w.Overfull policy tasks := by
  by_cases many : w.Overfull policy tasks
  · exact .inr many
  · have alike := World.Alike.refl w
    have many' : ¬ w.Overfull policy tasks' := by
      rw [alike.overfull_iff, same, ← alike.overfull_iff] at many
      exact many
    left
    rw [alike.replies_bare many, alike.replies_bare many', same]

/-- A hold runs out, a pass takes it away, and someone else gets the slot. -/
def passingOn : List Task :=
  [.call (.acquire 1 { holder := ⟨"a"⟩ } 100), .outside (.wait 100), .call .reap,
    .request (.watch [Key.hold 1]), .call (.status 1), .request .evict,
    .call (.acquire 1 { holder := ⟨"b"⟩ } 100), .sweep Key.holdStart 1 fun _ => true]

/-- Nobody notices the pass and the evictions. -/
theorem World.replies_passingOn :
    passingOn.filterMap Task.bare = (passingOn.filterMap Task.bare).filterMap Task.bare ∧
      (World.offering Run.openingDay [1]).replies {} passingOn =
        (World.offering Run.openingDay [1]).replies {} (passingOn.filterMap Task.bare) := by
  have same : passingOn.filterMap Task.bare = (passingOn.filterMap Task.bare).filterMap Task.bare :=
    rfl
  refine ⟨same, ?_⟩
  refine (World.replies_eq_of_bare_eq {} (.offering Run.openingDay [1]) same).resolve_right ?_
  simp [passingOn, World.Overfull]

end Holdfast.Reservation
