import Holdfast.Proofs.Service.Attending

/-!
# What clients bring about

For every frame that the service takes in from a client there are the marks that it leaves
(`Service.receiveMarks`), and for every wish, what it comes to for the days of whose rooms the
client is (`Service.granting`). A connection that is in the middle of nothing is so again after each
of them (`Service.moves_obey`), or it is over (`Service.moves_close`).

Joining a room is done in two steps, between which other things can happen: the place is taken first
(`Service.takePlace`), and then the client is welcomed with a snapshot (`Service.welcome`).
-/

namespace Holdfast

open Reservation Socket

namespace Reservation

/-- A snapshot to which slots were added is of the same day. -/
theorem day_of_addSlots {w : World} {s shot : DaySnapshot} {rs : List SlotRecord}
    (taken : (w.run (addSlots s rs)).1 = .ok shot) : shot.day = s.day := by
  induction rs generalizing s w with
  | nil => exact congrArg DaySnapshot.day (Except.ok.inj taken).symm
  | cons r rest ih =>
    have split : w.run (addSlots s (r :: rest)) = _ := World.run_bind (statusOf r) _ w
    rw [split] at taken
    rcases looked : w.run (statusOf r) with ⟨answer, w'⟩
    rw [looked] at taken
    cases answer with
    | error e => cases taken
    | ok status =>
      refine (ih taken).trans ?_
      cases status <;> rfl

/-- A snapshot is of the day that it was taken for. -/
theorem day_of_snapshot {w : World} {d : Day} {shot : DaySnapshot}
    (taken : (w.run (snapshot d)).1 = .ok shot) : shot.day = d := by
  have split : w.run (snapshot d) = _ :=
    World.run_bind ((Program.perform (.slotsOn d)).bind (Program.orFail Failure.ofCatalogue)) _ w
  rw [split] at taken
  rcases looked : w.run ((Program.perform (.slotsOn d)).bind (Program.orFail Failure.ofCatalogue))
    with ⟨answer, w'⟩
  rw [looked] at taken
  cases answer with
  | error e => cases taken
  | ok slots => exact day_of_addSlots taken

end Reservation

namespace Service

/-! ## Marks of frames -/

/-- The snapshot of a day, or why there is none. -/
def shot (s : Service) (k : String) (d : Day) : Except Failure DaySnapshot :=
  ((s.world k).run (snapshot d)).1

/-- What the client is told of it. -/
def shotFrame : Except Failure DaySnapshot → ServerEvent
  | .ok shot => .snapshot shot
  | .error e => .error e.code

/-- The marks of the welcome of a client that joined a day. -/
def welcomeMarks (n : Nat) (k : String) (d : Day) : Except Failure DaySnapshot → List Mark
  | .ok shot => [.welcomed n shot]
  | .error e => [.put n (.event (.error e.code)), .left k n d]

/-- The marks of a program whose result a client is told. -/
def askMarks {α : Type} (s : Service) (n : Nat) (k : String) (p : Program Failure α)
    (frame : Except Failure α → ServerEvent) : List Mark :=
  ((s.world k).tells p).map (.told k) ++ [.put n (.event (frame ((s.world k).run p).1))]

/-- The marks of what a client asks for. -/
def obeyMarks (s : Service) (n : Nat) (session : Session) : ClientEvent → List Mark
  | .joinDay d =>
    let shot := s.shot session.tenant d
    if (session.rooms.get? d).isSome then
      [.put n (.event (.joinedDay d)), .put n (.event (shotFrame shot))]
    else if maxRooms ≤ session.rooms.size then [.put n (.event (.error "too_many_rooms"))]
    else
      [.entered session.tenant n d, .put n (.event (.joinedDay d))] ++
        welcomeMarks n session.tenant d shot
  | .leaveDay d => if (session.rooms.get? d).isSome then [.left session.tenant n d] else []
  | .holdSlot slot =>
    s.askMarks n session.tenant
      (acquireForSession s.config.policy slot session.holder session.id) (.holdAck slot)
  | .releaseHold slot =>
    s.askMarks n session.tenant
      (release s.config.policy slot { holder := session.holder }) (.releaseAck slot)

/-- The marks of the end of a session. -/
def closeMarks (s : Service) (n : Nat) (session : Session) : List Mark :=
  ((s.world session.tenant).tells (endSession s.config.policy session.holder session.id)).map
      (.told session.tenant) ++
    [.put n .closed] ++ session.rooms.toList.map (.left session.tenant n ·.1)

/-- **The marks of what a client sends.** -/
def receiveMarks (s : Service) (n : Nat) (session : Session) : Incoming → List Mark
  | .text t =>
    match ClientEvent.ofText? t with
    | some e => s.obeyMarks n session e
    | none => [.put n (.event (.error "bad_request"))]
  | .binary => [.put n (.event (.error "bad_request"))]
  | .ping t => [.put n (.pong t)]
  | .close => s.closeMarks n session

/-- A connection at its beginning. -/
def newcomer (s : Service) (tenant : String) (holder : HolderId) : Session :=
  { id := sessionId s.opened, tenant, holder }

/-- The service when a connection begins. -/
def opening (s : Service) (tenant : String) (holder : HolderId) : Service :=
  { s with
    opened := s.opened + 1
    sessions := s.sessions.insert s.opened (s.newcomer tenant holder)
    metrics := (s.metrics.add .sessionsTotal 1).add .sessionsActive 1 }

/-- The marks of the beginning of a session. -/
def beginMarks (s : Service) (tenant : String) (holder : HolderId) : List Mark :=
  .opened tenant s.opened ::
    if s.isShutDown then
      (s.opening tenant holder).closeMarks s.opened (s.newcomer tenant holder)
    else []

/-- **The days of whose rooms a client is**, when it is granted one more wish. -/
def granting (days : Finset Day) : ClientEvent → Finset Day
  | .joinDay d => if days.card < maxRooms then insert d days else days
  | .leaveDay d => days.erase d
  | .holdSlot _ => days
  | .releaseHold _ => days

/-- A wish to join is granted if there is a snapshot of the day. -/
def grants (s : Service) (session : Session) : ClientEvent → Bool
  | .joinDay d => (s.shot session.tenant d).isOk
  | _ => true

/-- The wish that is granted with what a client sends. -/
def granted? (s : Service) (session : Session) : Incoming → Option ClientEvent
  | .text t => (ClientEvent.ofText? t).filter (s.grants session)
  | _ => none

/-- The marks of a client that is forwarded what comes first in a room. -/
def forwardMarks (s : Service) (n : Nat) (session : Session) (d : Day) (r : Receiver) : List Mark :=
  match ((s.world session.tenant).rooms.receive r).1 with
  | none => []
  | some (.event e) => [.passed session.tenant n d (.event e)]
  | some (.lost lost) => .passed session.tenant n d (.lost lost) ::
    match s.shot session.tenant d with
    | .ok shot => [.put n (.event (.snapshot shot))]
    | .error _ => []

/-- A connection begins, and ends at once after a shutdown. -/
theorem begin_eq (s : Service) (tenant : String) (holder : HolderId) :
    begin tenant holder s =
      if s.isShutDown then close s.opened (s.opening tenant holder)
      else ((), s.opening tenant holder) := by
  show (if s.isShutDown then close s.opened else pure ()) (s.opening tenant holder) = _
  split <;> rfl

/-! ## Snapshots -/

variable {s : Service} {a : Attendance} {n : Nat} {k : String} {d : Day} {session : Session}

/-- The client is told the snapshot, or why there is none. -/
theorem tellSnapshot_eq (n : Nat) (session : Session) (d : Day) (s : Service) :
    tellSnapshot n session d s = ((s.shot session.tenant d).isOk,
      (tell n (shotFrame (s.shot session.tenant d))
        (runFor session.tenant (snapshot d) s).2).2) := by
  rcases taken : (s.world session.tenant).run (snapshot d) with ⟨answer, w⟩
  rw [shot, taken, runFor_apply taken]
  cases answer with
  | ok shot => exact tellSnapshot_ok taken
  | error e => exact tellSnapshot_error taken

/-- It is not told of a change then. -/
theorem shotFrame_ne_change (answer : Except Failure DaySnapshot) (e : RoomEvent) :
    shotFrame answer ≠ .change e := by
  cases answer <;> exact fun same => nomatch same

/-- What a client is told does not change the snapshot. -/
theorem shot_tell {k : String} {d : Day} (e : ServerEvent) :
    (tell n e s).2.shot k d = s.shot k d := by
  have same : (tell n e s).2.world k = s.world k := world_tellAll (s := s) [e]
  rw [shot, shot, same]

/-! ## Joining in two steps -/

/-- Takes a place in the room of a day. -/
def takePlace (n : Nat) (session : Session) (day : Day) : Action Receiver := do
  let receiver ← changeRooms session.tenant (·.join day)
  tell n (.joinedDay day)
  return receiver

/-- Welcomes a client that took a place. -/
def welcome (n : Nat) (session : Session) (day : Day) (receiver : Receiver) : Action Unit := do
  if ← tellSnapshot n session day then
    changeSession n fun session => { session with rooms := session.rooms.insert day receiver }
  else changeRooms session.tenant fun h => ((), h.leave receiver)

/-- **Joining is taking a place and being welcomed**, where there is room. -/
theorem joinDay_new (new : session.rooms.get? d = none) (room : session.rooms.size < maxRooms) :
    joinDay n session d = takePlace n session d >>= welcome n session d := by
  unfold joinDay
  rw [new, if_neg (by simp), if_neg (Nat.not_le.2 room)]
  rfl

/-- Who takes a place does not change the snapshot. -/
theorem shot_takePlace (loaded : (s.registry.tenants.get? session.tenant).isSome) (d d' : Day) :
    (takePlace n session d s).2.shot session.tenant d' = s.shot session.tenant d' := by
  let w : World :=
    { s.world session.tenant with rooms := ((s.world session.tenant).rooms.join d).2 }
  have found : (takePlace n session d s).2.world session.tenant = w :=
    (world_tellAll (s := s.setWorld session.tenant w) [.joinedDay d]).trans
      (world_setWorld loaded rfl)
  rw [shot, found, World.run_beside (looks_snapshot d') (s.world session.tenant)]
  rfl

/-! ## What the frames come to -/

/-- How a session sits that is in the middle of nothing. -/
def Seat.of (session : Session) : Seat where
  tenant := session.tenant
  isOpen := session.isOpen
  rooms := session.rooms
  places := session.rooms

section moves

variable {seat : Seat} (shows : s.Shows a) (sits : s.Sits a n seat)

include shows sits

/-- The client is told the snapshot of a day. -/
theorem moves_tellSnapshot (session : Session) (tenant : session.tenant = seat.tenant) (d : Day) :
    Moves n s a [.put n (.event (shotFrame (s.shot session.tenant d)))]
      (tellSnapshot n session d s).2 seat := by
  rw [tellSnapshot_eq]
  have looked := moves_looks shows sits (tenant ▸ sits.loaded shows) (looks_snapshot d)
  refine looked.trans (moves_put looked.shows looked.toSits fun e same => ?_)
  exact shotFrame_ne_change _ e (Outgoing.event.inj same)

/-- The client takes a place. -/
theorem moves_takePlace (session : Session) (tenant : session.tenant = seat.tenant)
    (settled : seat.arriving = none) (outside : seat.places.get? d = none)
    (room : seat.places.size < maxRooms) :
    Moves n s a [.entered session.tenant n d, .put n (.event (.joinedDay d))]
      (takePlace n session d s).2
      { seat with
        places := seat.places.insert d (takePlace n session d s).1
        arriving := some d } := by
  have entered := moves_entered shows sits tenant.symm settled outside room
  refine entered.trans (moves_put entered.shows entered.toSits fun e same => ?_)
  cases Outgoing.event.inj same

/-- The client is welcomed. -/
theorem moves_welcome (session : Session) (receiver : Receiver) {shot : DaySnapshot}
    (tenant : session.tenant = seat.tenant) (arriving : seat.arriving = some d)
    (taken : s.shot session.tenant d = .ok shot) :
    Moves n s a [.welcomed n shot] (welcome n session d receiver s).2
      { seat with rooms := seat.rooms.insert d receiver, arriving := none } := by
  have told := tellSnapshot_eq n session d s
  rw [taken] at told
  rw [welcome, bind_apply told]
  have looked := moves_looks shows sits (tenant ▸ sits.loaded shows) (looks_snapshot d)
  have welcomed := looked.trans (moves_welcomed looked.shows looked.toSits
    (arriving.trans (congrArg some (day_of_snapshot taken).symm)))
  exact welcomed.trans (moves_change welcomed.shows welcomed.toSits
    (fun session => { session with rooms := session.rooms.insert d receiver })
    { seat with rooms := seat.rooms.insert d receiver, arriving := none }
    (fun _ => rfl) (fun _ => rfl) (fun _ same => same)
    (fun _ same => congrArg (SortedMap.insert · d receiver) same) ⟨rfl, rfl, rfl⟩)

/-- There is no snapshot for the client, which gives its place back. -/
theorem moves_refused (session : Session) {receiver : Receiver} {e : Failure}
    (tenant : session.tenant = seat.tenant) (there : seat.places.get? d = some receiver) (arriving : seat.arriving = some d)
    (failed : s.shot session.tenant d = .error e) :
    Moves n s a [.put n (.event (.error e.code)), .left session.tenant n d]
      (welcome n session d receiver s).2
      { seat with places := seat.places.erase d, arriving := none } := by
  have told := tellSnapshot_eq n session d s
  rw [failed] at told
  rw [welcome, bind_apply told]
  have looked := moves_looks shows sits (tenant ▸ sits.loaded shows) (looks_snapshot d)
  have refused := looked.trans (moves_put looked.shows looked.toSits
    (o := .event (.error e.code)) fun e' same => nomatch same)
  exact refused.trans
    (moves_left refused.shows refused.toSits tenant.symm there (.inr arriving))

/-- A program of the client's tenant runs, and the client is told the result. -/
theorem moves_ask {α : Type} (tenant : session.tenant = seat.tenant) (p : Program Failure α)
    (frame : Except Failure α → ServerEvent) (plain : ∀ r e, frame r ≠ .change e) :
    Moves n s a (s.askMarks n session.tenant p frame)
      ((runFor session.tenant p >>= fun r => tell n (frame r)) s).2 seat := by
  have told := moves_told shows sits (tenant ▸ sits.loaded shows) p
  refine told.trans (moves_put told.shows told.toSits fun e same => ?_)
  exact plain _ e (Outgoing.event.inj same)

/-- The client gives back some of its places. -/
theorem moves_leaveAll (tenant : seat.tenant = k) {l : List (Day × Receiver)}
    (there : ∀ e ∈ l, seat.places.get? e.1 = some e.2) (apart : (l.map (·.1)).Nodup)
    (settled : seat.arriving = none) {places : SortedMap Day Receiver}
    (left : l.foldl (fun m e => m.erase e.1) seat.places = places) :
    Moves n s a (l.map (.left k n ·.1))
      ((l.forM fun (_, receiver) => changeRooms k fun h => ((), h.leave receiver)) s).2
      { seat with places } := by
  subst left
  induction l generalizing s a seat with
  | nil => exact moves_aside shows sits (fun _ => rfl) (fun _ loaded => loaded) rfl rfl
  | cons e rest ih =>
    obtain ⟨fresh, apart⟩ := List.nodup_cons.1 apart
    have left := moves_left shows sits tenant (there e List.mem_cons_self) (.inl settled)
    rw [← settled] at left
    refine left.trans (ih left.shows left.toSits tenant (fun e' mem => ?_) apart settled)
    have other : e'.1 ≠ e.1 := fun same => fresh (List.mem_map.2 ⟨e', mem, same⟩)
    exact (SortedMap.get?_erase_ne _ other).trans (there e' (List.mem_cons_of_mem _ mem))

end moves

/-- An open session is found. -/
theorem open?_there (there : s.sessions.get? n = some session) (isOpen : session.isOpen = true) :
    open? n s = (some session, s) := by
  show ((s.sessions.get? n).filter (·.isOpen), s) = _
  rw [there, Option.filter_some, if_pos isOpen]

/-- A room in which somebody is is not pruned. -/
theorem prune_there (somebody : (s.world k).rooms.membersOf d ≠ []) :
    changeRooms k (fun h => ((), h.prune d)) s = ((), s) := by
  have same : (s.registry.backend k).rooms.prune d = (s.registry.backend k).rooms :=
    if_neg somebody
  unfold changeRooms
  dsimp only
  rw [same, s.registry.setBackend_backend]

/-- Who has a place in a room is in it. -/
theorem somebody_of_place (shows : s.Shows a) (sound : a.Sound) (own : a.tenant n = some k)
    {r : Receiver} (there : (a.places n).get? d = some r) :
    (s.world k).rooms.membersOf d ≠ [] := by
  obtain ⟨rfl, k', own', listens⟩ := sound.member there
  obtain rfl := Option.some.inj (own.symm.trans own')
  have number := (sound.gathered k).mem_numbersOf listens
  rw [← shows.rooms] at number
  intro nobody
  rw [Hub.numbersOf, nobody] at number
  cases number

/-- None of the rooms that a client is in is pruned. -/
theorem prunes_there {l : List (Day × Receiver)}
    (somebody : ∀ e ∈ l, (s.world k).rooms.membersOf e.1 ≠ []) :
    (l.forM fun (day, _) => changeRooms k fun h => ((), h.prune day)) s = ((), s) := by
  induction l with
  | nil => rfl
  | cons e rest ih =>
    refine (bind_apply (prune_there (somebody e List.mem_cons_self))).trans ?_
    exact ih fun e' mem => somebody e' (List.mem_cons_of_mem _ mem)

section session

variable (shows : s.Shows a) (sound : a.Sound) (sits : s.Sits a n (.of session))

include shows sound sits

/-- The session ends, but for its places. -/
theorem moves_finish :
    Moves n s a
      (((s.world session.tenant).tells (endSession s.config.policy session.holder session.id)).map
        (.told session.tenant) ++ [.put n .closed])
      (finish n session s).2 { Seat.of session with isOpen := false } := by
  have pruned := prunes_there (s := s) (k := session.tenant) (l := session.rooms.toList)
    fun e mem => somebody_of_place shows sound (sits.own shows)
      (by rw [sits.places]; exact session.rooms.mem_toList_iff.1 mem)
  have told := moves_told shows sits (sits.loaded shows)
    (endSession s.config.policy session.holder session.id)
  let s₁ : Service :=
    (runFor session.tenant (endSession s.config.policy session.holder session.id) s).2
  let s₂ : Service :=
    { s₁ with permits := s₁.permits + 1, metrics := s₁.metrics.add .sessionsActive (-1) }
  have counted : Moves n s a _ s₂ (.of session) := told.silently
    (moves_aside told.shows told.toSits (fun _ => rfl) (fun _ loaded => loaded) rfl rfl)
  have closed := counted.trans (moves_put counted.shows counted.toSits (o := .closed)
    fun e same => nomatch same)
  have ended := closed.silently (moves_change closed.shows closed.toSits
    (fun session => { session with isOpen := false })
    { Seat.of session with isOpen := false }
    (fun _ => rfl) (fun _ => rfl) (fun _ _ => rfl) (fun _ same => same) ⟨rfl, rfl, rfl⟩)
  rw [finish, bind_apply pruned]
  exact ended

/-- **The session ends**, and all its places are given back. -/
theorem moves_close (there : s.sessions.get? n = some session) (isOpen : session.isOpen = true) :
    Moves n s a (s.closeMarks n session) (close n s).2
      { Seat.of session with isOpen := false, rooms := .empty, places := .empty } := by
  have found : open? n s = (some session, s) := open?_there there isOpen
  have finished := moves_finish shows sound sits
  have left := moves_leaveAll finished.shows finished.toSits (k := session.tenant) rfl
    (l := session.rooms.toList) (fun e mem => session.rooms.mem_toList_iff.1 mem)
    session.rooms.nodup_keys rfl session.rooms.foldl_erase_toList
  have gone := (finished.trans left).silently (moves_change (finished.trans left).shows
    (finished.trans left).toSits (fun session => { session with rooms := .empty })
    { Seat.of session with isOpen := false, rooms := .empty, places := .empty }
    (fun _ => rfl) (fun _ => rfl) (fun _ same => same) (fun _ _ => rfl) ⟨rfl, rfl, rfl⟩)
  rw [close, bind_apply found]
  exact gone

end session

section obey

variable (shows : s.Shows a) (sits : s.Sits a n (.of session))

include shows sits

/-- **What a wish to join a day comes to.** -/
theorem moves_joinDay (d : Day) :
    ∃ rooms, Moves n s a (s.obeyMarks n session (.joinDay d)) (joinDay n session d s).2
        { Seat.of session with rooms, places := rooms } ∧
      rooms.keys = if (s.shot session.tenant d).isOk then granting session.rooms.keys (.joinDay d)
        else session.rooms.keys := by
  rw [granting, SortedMap.card_keys]
  by_cases there : (session.rooms.get? d).isSome
  · -- the client is in the room already
    have told := moves_put shows sits (o := .event (.joinedDay d)) fun e same => nomatch same
    have again := told.trans (moves_tellSnapshot told.shows told.toSits session rfl d)
    have same : (send n (.event (.joinedDay d)) s).2.shot session.tenant d =
        s.shot session.tenant d := shot_tell _
    rw [same] at again
    rw [obeyMarks, if_pos there, joinDay, if_pos there]
    refine ⟨session.rooms, again, ?_⟩
    rw [Finset.insert_eq_of_mem (SortedMap.mem_keys.2 there)]
    simp
  by_cases full : maxRooms ≤ session.rooms.size
  · have told := moves_put shows sits (o := .event (.error "too_many_rooms"))
      fun e same => nomatch same
    rw [obeyMarks, if_neg there, if_pos full, joinDay, if_neg there, if_pos full,
      if_neg (Nat.not_lt.2 full)]
    exact ⟨session.rooms, told, by simp⟩
  have new : session.rooms.get? d = none := Option.not_isSome_iff_eq_none.1 there
  have room := Nat.lt_of_not_le full
  have taken := moves_takePlace shows sits session rfl rfl new room
  have same := shot_takePlace (n := n) (sits.loaded shows) d d
  rw [obeyMarks, if_neg there, if_neg full, joinDay_new new room, if_pos room]
  cases shot : s.shot session.tenant d with
  | ok shot =>
    have welcomed := moves_welcome taken.shows taken.toSits session
      (takePlace n session d s).1 rfl rfl (same.trans shot)
    exact ⟨_, taken.trans welcomed, SortedMap.keys_insert _ _ _⟩
  | error e =>
    have refused := moves_refused taken.shows taken.toSits session rfl
      (SortedMap.get?_insert_self _ _ _) rfl (same.trans shot)
    have back : ((Seat.of session).places.insert d (takePlace n session d s).1).erase d =
        session.rooms := SortedMap.erase_insert new
    rw [back] at refused
    exact ⟨session.rooms, taken.trans refused, rfl⟩

/-- **What any wish of a client comes to.** -/
theorem moves_obey (e : ClientEvent) :
    ∃ rooms, Moves n s a (s.obeyMarks n session e) (obey n session e s).2
        { Seat.of session with rooms, places := rooms } ∧
      rooms.keys = if s.grants session e then granting session.rooms.keys e
        else session.rooms.keys := by
  cases e with
  | joinDay d => exact moves_joinDay shows sits d
  | leaveDay d =>
    show ∃ rooms, Moves n s a (s.obeyMarks n session (.leaveDay d)) (leaveDay n session d s).2 _ ∧ _
    rw [obeyMarks, leaveDay]
    cases there : session.rooms.get? d with
    | none =>
      refine ⟨session.rooms,
        moves_aside shows sits (fun _ => rfl) (fun _ loaded => loaded) rfl rfl, ?_⟩
      exact (Finset.erase_eq_of_notMem fun mem => by simp [SortedMap.mem_keys, there] at mem).symm
    | some receiver =>
      have left := moves_left shows sits (k := session.tenant) rfl there (.inl rfl)
      exact ⟨_, left.silently (moves_change left.shows left.toSits
        (fun session => { session with rooms := session.rooms.erase d })
        { Seat.of session with
          rooms := session.rooms.erase d, places := session.rooms.erase d }
        (fun _ => rfl) (fun _ => rfl) (fun _ same => same)
        (fun _ same => congrArg (SortedMap.erase · d) same) ⟨rfl, rfl, rfl⟩),
        SortedMap.keys_erase _ _⟩
  | holdSlot slot =>
    exact ⟨session.rooms, moves_ask shows sits rfl _ _ (fun _ _ same => nomatch same), rfl⟩
  | releaseHold slot =>
    exact ⟨session.rooms, moves_ask shows sits rfl _ _ (fun _ _ same => nomatch same), rfl⟩

/-- **What a client sends that does not end its session.** -/
theorem moves_receive (there : s.sessions.get? n = some session) (isOpen : session.isOpen = true)
    {incoming : Incoming} (goes_on : incoming ≠ .close) :
    ∃ rooms, Moves n s a (s.receiveMarks n session incoming) (receive n incoming s).2
        { Seat.of session with rooms, places := rooms } ∧
      rooms.keys = ((s.granted? session incoming).map (granting session.rooms.keys)).getD
        session.rooms.keys := by
  have found : open? n s = (some session, s) := open?_there there isOpen
  have answered : ∀ o : Outgoing, (∀ e, o ≠ .event (.change e)) →
      ∃ rooms, Moves n s a [.put n o] (send n o s).2 { Seat.of session with rooms, places := rooms } ∧
        rooms.keys = session.rooms.keys :=
    fun o plain => ⟨session.rooms, moves_put shows sits plain, rfl⟩
  rw [receive, bind_apply found]
  cases incoming with
  | text t =>
    rw [receiveMarks, granted?]
    dsimp only
    cases ClientEvent.ofText? t with
    | none => exact answered (.event (.error "bad_request")) fun e same => nomatch same
    | some e =>
      obtain ⟨rooms, moves, keys⟩ := moves_obey shows sits e
      refine ⟨rooms, moves, keys.trans ?_⟩
      rw [Option.filter_some]
      split <;> rfl
  | binary => exact answered (.event (.error "bad_request")) fun e same => nomatch same
  | ping t => exact answered (.pong t) fun e same => nomatch same
  | close => exact absurd rfl goes_on

end obey

/-! ## Forwarding -/

/-- Forwards what comes first in a room. -/
def forwardNext (n : Nat) (session : Session) (day : Day) (receiver : Receiver) : Action Unit := do
  if let some notice ← changeRooms session.tenant (·.receive receiver) then
    forwardNotice n session day notice

/-- Neither the rooms nor the metrics have to do with the snapshot. -/
theorem shot_beside (s : Service) (k : String) (d : Day) (rooms : Hub) (metrics : Metrics) :
    (({ s.world k with rooms, metrics } : World).run (snapshot d)).1 = s.shot k d := by
  obtain ⟨metrics', ran⟩ :=
    World.run_metrics (snapshot d) { s.world k with rooms } metrics
  rw [ran, World.run_beside (looks_snapshot d) (s.world k) rooms]
  rfl

/-- A client that fell behind is told a snapshot, if there is one. -/
theorem forwardNotice_lost (n : Nat) (session : Session) (d : Day) (lost : Nat) (s : Service) :
    forwardNotice n session d (.lost lost) s =
      match (add .roomLagged 1 s).2.shot session.tenant d with
      | .ok shot => tell n (.snapshot shot)
          (runFor session.tenant (snapshot d) (add .roomLagged 1 s).2).2
      | .error _ => ((), (runFor session.tenant (snapshot d) (add .roomLagged 1 s).2).2) := by
  rcases taken : ((add .roomLagged 1 s).2.world session.tenant).run (snapshot d) with ⟨answer, w⟩
  unfold forwardNotice
  refine (bind_apply (x := add .roomLagged 1) rfl).trans ((bind_apply (runFor_apply taken)).trans ?_)
  rw [shot, taken, runFor_apply taken]
  cases answer <;> rfl

section forward

variable {seat : Seat} (shows : s.Shows a) (sits : s.Sits a n seat)

include shows sits

/-- **What comes first in a room is forwarded.** -/
theorem moves_forwardNext {r : Receiver} (tenant : session.tenant = seat.tenant)
    (there : seat.places.get? d = some r) (settled : seat.arriving ≠ some d) :
    Moves n s a (s.forwardMarks n session d r) (forwardNext n session d r s).2 seat := by
  have loaded := sits.loaded shows
  rw [← tenant] at loaded
  let w : World :=
    { s.world session.tenant with rooms := ((s.world session.tenant).rooms.receive r).2 }
  have read : changeRooms session.tenant (·.receive r) s =
      (((s.world session.tenant).rooms.receive r).1, s.setWorld session.tenant w) := rfl
  rw [forwardNext, bind_apply read, forwardMarks]
  cases answer : ((s.world session.tenant).rooms.receive r).1 with
  | none =>
    refine moves_aside shows sits (fun k => ?_) (fun k isSome => ?_) rfl rfl
    · show ((s.setWorld session.tenant w).world k).rooms = _
      rw [rooms_setWorld loaded]
      split
      · rename_i same
        rw [same]
        exact Hub.receive_none answer
      · rfl
    · exact (s.registry.isSome_setBackend session.tenant k _).trans isSome
  | some notice =>
    cases notice with
    | event e => exact moves_event shows sits tenant.symm there settled answer
    | lost lost =>
      have passed := moves_lost shows sits tenant.symm there settled answer
      rw [read] at passed
      let s₁ : Service := (add .roomLagged 1 (s.setWorld session.tenant w)).2
      have counted : Moves n s a _ s₁ seat := passed.silently
        (moves_aside passed.shows passed.toSits (fun _ => rfl) (fun _ loaded => loaded) rfl rfl)
      have looked := counted.silently (moves_looks counted.shows counted.toSits
        (tenant ▸ counted.toSits.loaded counted.shows) (looks_snapshot d) (k := session.tenant))
      have found : s₁.world session.tenant =
          { w with metrics := s.metrics.add .roomLagged 1 } :=
        world_setWorld (s := s) (w := { w with metrics := s.metrics.add .roomLagged 1 }) loaded rfl
      have same : s₁.shot session.tenant d = s.shot session.tenant d := by
        rw [shot, found]
        exact shot_beside s session.tenant d w.rooms _
      show Moves n s a _ (forwardNotice n session d (.lost lost) (s.setWorld session.tenant w)).2 seat
      rw [forwardNotice_lost, ← same]
      cases s₁.shot session.tenant d with
      | ok shot =>
        exact looked.trans (moves_put looked.shows looked.toSits fun e same => nomatch same)
      | error e => exact looked

end forward

/-- What is forwarded of a notice, and what is counted for it, have nothing to do with the rooms. -/
theorem forwardNotice_eq (n : Nat) (d : Day) (notice : Notice)
    (loaded : (s.registry.tenants.get? session.tenant).isSome) {w : World}
    (now : w.clock = s.clock) :
    ∃ metrics frames, ∀ rooms,
      forwardNotice n session d notice (s.setWorld session.tenant { w with rooms }) =
        ((), (s.setWorld session.tenant { w with rooms, metrics }).tellAll n frames) := by
  cases notice with
  | event e => exact ⟨w.metrics, [.change e], fun rooms => rfl⟩
  | lost lost =>
    let w₁ : World := { w with metrics := w.metrics.add .roomLagged 1 }
    rcases taken : w₁.run (snapshot d) with ⟨answer, w'⟩
    obtain ⟨metrics, looked⟩ := World.run_of_looks (looks_snapshot d) w₁
    rw [taken] at looked
    obtain rfl : w' = { w₁ with metrics } := looked
    have beside := fun rooms => World.run_beside (looks_snapshot d) w₁ rooms
    rw [taken] at beside
    cases answer with
    | ok shot =>
      exact ⟨metrics, [.snapshot shot], fun rooms =>
        forward_lost_ok (w := { w with rooms }) loaded now lost (beside rooms)⟩
    | error e =>
      exact ⟨metrics, [], fun rooms =>
        forward_lost_error (w := { w with rooms }) loaded now lost (beside rooms)⟩

section room

variable {receiver : Receiver} {mailbox rest : Mailbox} {notice : Notice}

/-- All that was said in a room is read first. -/
theorem forwardRoom_apply
    (own : (s.world session.tenant).rooms.mailbox? receiver = some mailbox) :
    forwardRoom n session d receiver s =
      mailbox.notices.forM (forwardNotice n session d) (s.setWorld session.tenant
        { s.world session.tenant with
          rooms := (s.world session.tenant).rooms.setMailbox receiver {} }) := by
  have drained : (s.world session.tenant).rooms.drain receiver =
      (mailbox.notices, (s.world session.tenant).rooms.setMailbox receiver {}) := by
    rw [Hub.drain, Hub.unread_eq, own, Option.getD_some]
  unfold forwardRoom
  exact bind_apply (changeRooms_apply drained)

/-- What comes first is read first. -/
theorem forwardNext_apply
    (own : (s.world session.tenant).rooms.mailbox? receiver = some mailbox)
    (first : mailbox.take? = some (notice, rest)) :
    forwardNext n session d receiver s =
      forwardNotice n session d notice (s.setWorld session.tenant
        { s.world session.tenant with
          rooms := (s.world session.tenant).rooms.setMailbox receiver rest }) := by
  have read : (s.world session.tenant).rooms.receive receiver =
      (some notice, (s.world session.tenant).rooms.setMailbox receiver rest) := by
    rw [Hub.receive_of_mailbox own, first]
  unfold forwardNext
  exact bind_apply (changeRooms_apply (f := (·.receive receiver)) read)

/-- **Forwarding everything that was said in a room** is forwarding what comes first, so many times.
-/
theorem forwardRoom_eq_iterate (loaded : (s.registry.tenants.get? session.tenant).isSome)
    (numbered : (s.world session.tenant).rooms.Numbered)
    (own : (s.world session.tenant).rooms.mailbox? receiver = some mailbox) :
    (forwardRoom n session d receiver s).2 =
      (fun s => (forwardNext n session d receiver s).2)^[mailbox.notices.length] s := by
  induction all : mailbox.notices generalizing s mailbox with
  | nil =>
    obtain rfl : mailbox = {} := by
      obtain ⟨lost, waiting⟩ := mailbox
      obtain ⟨kept, unread⟩ := List.append_eq_nil_iff.1 all
      obtain rfl := List.map_eq_nil_iff.1 unread
      by_cases none : lost = 0
      · rw [none]
      · rw [if_pos none] at kept
        cases kept
    rw [forwardRoom_apply own, Hub.setMailbox_self numbered own]
    exact setWorld_world s _
  | cons notice later ih =>
    let w := s.world session.tenant
    have read := mailbox.notices_eq
    rw [all] at read
    cases first : mailbox.take? with
    | none =>
      rw [first] at read
      cases read
    | some next =>
      obtain ⟨notice', rest⟩ := next
      rw [first] at read
      obtain ⟨rfl, rfl⟩ := List.cons.inj read
      obtain ⟨metrics, frames, forwarded⟩ := forwardNotice_eq (n := n) (d := d) notice loaded
        (w := w) rfl
      let s₁ : Service := (s.setWorld session.tenant
        { w with rooms := w.rooms.setMailbox receiver rest, metrics }).tellAll n frames
      have next : forwardNext n session d receiver s = ((), s₁) :=
        (forwardNext_apply own first).trans (forwarded _)
      have world₁ : s₁.world session.tenant =
          { w with rooms := w.rooms.setMailbox receiver rest, metrics } :=
        (world_tellAll _).trans (world_setWorld loaded rfl)
      have own₁ : (s₁.world session.tenant).rooms.mailbox? receiver = some rest := by
        rw [world₁]
        exact (Hub.reads_setMailbox own rest).own
      have loaded₁ : (s₁.registry.tenants.get? session.tenant).isSome := by
        rw [registry_tellAll]
        exact (s.registry.isSome_setBackend _ _ _).trans loaded
      have numbered₁ : (s₁.world session.tenant).rooms.Numbered := by
        rw [world₁]
        exact numbered.setMailbox receiver rest
      have ih := ih loaded₁ numbered₁ own₁ rfl
      rw [List.length_cons, Function.iterate_succ_apply, next, ← ih, forwardRoom_apply own, all,
        forwardRoom_apply own₁, world₁, setWorld_tellAll, setWorld_setWorld,
        Hub.setMailbox_setMailbox]
      show (rest.notices.forM (forwardNotice n session d)
        (forwardNotice n session d notice _).2).2 = _
      rw [forwarded]

end room

end Service
end Holdfast
