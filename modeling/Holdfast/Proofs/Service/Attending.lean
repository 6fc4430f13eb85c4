import Holdfast.Proofs.Room.Attendance
import Holdfast.Proofs.Room.Forwarding
import Holdfast.Proofs.Tenancy

/-!
# What the service shows of its connections

An attendance is told by a log alone. The service shows it (`Service.Shows`) if its rooms, the
tenants of its connections and their outboxes are those that the log tells of. Whatever concerns one
connection at most records some marks (`Service.Records`), after which the service shows what they
lead to; and what it does to the connection is how that sits in the end (`Service.Moves`). There is
a lemma for each thing that a connection can do, of which the actions of the service are made.
-/

namespace Holdfast

open Reservation Socket

namespace Gathering

/-- The rooms when some events were told. -/
theorem rooms_after_emit (g : Gathering) (es : List RoomEvent) :
    (g.after (es.map .emit)).rooms = g.rooms.emitAll es := by
  induction es generalizing g with
  | nil => rfl
  | cons e es ih => exact ih (g.next (.emit e))

end Gathering

namespace Attendance

variable {a : Attendance} {k : String} {n : Nat}

/-- Some events are told in the rooms of a tenant, and nothing else happens. -/
theorem after_told (a : Attendance) (k : String) (es : List RoomEvent) :
    a.after (es.map (.told k)) =
      { a with
        gathering := Function.update a.gathering k ((a.gathering k).after (es.map .emit))
        log := a.log ++ es.map (.told k) } := by
  induction es generalizing a with
  | nil =>
    show a = _
    simp [Gathering.after]
  | cons e es ih =>
    refine (ih (a.next (.told k e))).trans ?_
    simp only [next, change, turn, Function.update_self, Function.update_idem, List.map_cons,
      List.append_assoc, List.cons_append, List.nil_append]
    rfl

/-- Events can be told at any time. -/
theorem valid_told (a : Attendance) (k : String) (es : List RoomEvent) :
    a.Valid (es.map (.told k)) := by
  induction es generalizing a with
  | nil => exact trivial
  | cons e es ih => exact ⟨trivial, ih _⟩

end Attendance

namespace Service

variable {s s' s'' : Service} {a : Attendance} {n n' : Nat} {k k' : String} {d : Day}
  {x : Session} {w : World}

/-! ## Parts of the service -/

/-- The rooms of all tenants when the programs of one of them made something of its world. -/
theorem rooms_setWorld (loaded : (s.registry.tenants.get? k).isSome) (w : World) (k' : String) :
    ((s.setWorld k w).world k').rooms = if k' = k then w.rooms else (s.world k').rooms := by
  show ((s.registry.setBackend k w.toBackend).backend k').rooms = _
  split
  · rename_i same
    rw [same, s.registry.backend_setBackend k _ loaded]
  · rename_i other
    rw [s.registry.backend_setBackend_ne other]
    rfl

/-- The rooms of a tenant are changed in its world. -/
theorem changeRooms_apply {α : Type} {f : Hub → α × Hub} {answer : α} {rooms : Hub}
    (changed : f (s.world k).rooms = (answer, rooms)) :
    changeRooms k f s = (answer, s.setWorld k { s.world k with rooms }) := by
  show ((f (s.world k).rooms).1,
    s.setWorld k { s.world k with rooms := (f (s.world k).rooms).2 }) = _
  rw [changed]

/-- A world may be put back as it is. -/
theorem setWorld_world (s : Service) (k : String) : s.setWorld k (s.world k) = s := by
  show { s with registry := s.registry.setBackend k (s.registry.backend k) } = s
  rw [s.registry.setBackend_backend]

/-- Who is told something has nothing to do with the tenants. -/
theorem registry_tellAll (frames : List ServerEvent) :
    (s.tellAll n frames).registry = s.registry := by
  induction frames generalizing s with
  | nil => rfl
  | cons e frames ih =>
    refine (ih (s := (tell n e s).2)).trans ?_
    cases there : s.sessions.get? n with
    | none => rw [tell_missing there]
    | some session => rw [tell_there there]

/-- What is in the outbox of a connection. -/
def outbox (s : Service) (n : Nat) : List Outgoing :=
  ((s.sessions.get? n).map (·.outbox)).getD []

/-- A session that there is is changed. -/
theorem changeSession_there (there : s.sessions.get? n = some x) (f : Session → Session) :
    changeSession n f s = ((), { s with sessions := s.sessions.insert n (f x) }) := by
  unfold changeSession
  simp only [modify_apply, there]

/-- Something is sent to a client that there is. -/
theorem send_there (there : s.sessions.get? n = some x) (o : Outgoing) :
    send n o s = ((), { s with
      sessions := s.sessions.insert n { x with outbox := x.outbox ++ [o] } }) :=
  changeSession_there there _

/-! ## Showing -/

/-- **The service shows an attendance.** -/
structure Shows (s : Service) (a : Attendance) : Prop where
  rooms : ∀ k, (s.world k).rooms = (a.gathering k).rooms
  tenant : ∀ n, a.tenant n = (s.sessions.get? n).map (·.tenant)
  loaded : ∀ {n k}, a.tenant n = some k → (s.registry.tenants.get? k).isSome
  outbox : ∀ n, s.outbox n = a.log.flatMap (Mark.puts n)

/-- What the log says was put in an outbox, with one more mark. -/
theorem puts_next (a : Attendance) (m : Mark) (n : Nat) :
    (a.next m).log.flatMap (Mark.puts n) = a.log.flatMap (Mark.puts n) ++ m.puts n := by
  show (a.log ++ [m]).flatMap _ = _
  rw [List.flatMap_append, List.flatMap_singleton]

/-- The rooms, the tenants and the sessions are the same, as far as an attendance knows them. -/
theorem Shows.of_same (shows : s.Shows a)
    (rooms : ∀ k, (s'.world k).rooms = (s.world k).rooms)
    (loaded : ∀ k, (s.registry.tenants.get? k).isSome → (s'.registry.tenants.get? k).isSome)
    (tenant : ∀ n, (s'.sessions.get? n).map (·.tenant) = (s.sessions.get? n).map (·.tenant))
    (outbox : ∀ n, s'.outbox n = s.outbox n) : s'.Shows a where
  rooms k := (rooms k).trans (shows.rooms k)
  tenant n := (shows.tenant n).trans (tenant n).symm
  loaded own := loaded _ (shows.loaded own)
  outbox n := (outbox n).trans (shows.outbox n)

/-- Something happens in the rooms of a tenant. -/
theorem Shows.turn (shows : s.Shows a) (loaded : (s.registry.tenants.get? k).isSome) {α : Type}
    {f : Hub → α × Hub} {t : Gathering.Turn} {b : Attendance}
    (rooms : (f (a.gathering k).rooms).2 = ((a.gathering k).next t).rooms)
    (gathering : b.gathering = (a.turn k t).gathering) (tenant : b.tenant = a.tenant)
    (quiet : ∀ n, b.log.flatMap (Mark.puts n) = a.log.flatMap (Mark.puts n)) :
    (changeRooms k f s).2.Shows b where
  rooms k' := by
    let w : World := { s.world k with rooms := (f (s.world k).rooms).2 }
    show ((s.setWorld k w).world k').rooms = _
    rw [rooms_setWorld loaded, gathering, a.gathering_turn]
    split
    · rw [← rooms, ← shows.rooms]
    · exact shows.rooms k'
  tenant n := tenant ▸ shows.tenant n
  loaded {n k'} own := by
    rw [tenant] at own
    exact (s.registry.isSome_setBackend k k' _).trans (shows.loaded own)
  outbox n := (shows.outbox n).trans (quiet n).symm

/-- Something is sent to a client. -/
theorem Shows.send (shows : s.Shows a) (there : s.sessions.get? n = some x) {o : Outgoing}
    {b : Attendance} (gathering : b.gathering = a.gathering) (tenant : b.tenant = a.tenant)
    (puts : ∀ n', b.log.flatMap (Mark.puts n') =
      a.log.flatMap (Mark.puts n') ++ if n = n' then [o] else []) :
    (Service.send n o s).2.Shows b := by
  rw [send_there there]
  have get : ∀ n', (s.sessions.insert n { x with outbox := x.outbox ++ [o] }).get? n' =
      if n' = n then some { x with outbox := x.outbox ++ [o] } else s.sessions.get? n' :=
    fun n' => SortedMap.get?_insert_eq _ _ _ _
  refine ⟨fun k => gathering ▸ shows.rooms k, fun n' => ?_, fun own => shows.loaded (tenant ▸ own),
    fun n' => ?_⟩
  · rw [tenant, shows.tenant]
    dsimp only
    rw [get]
    split
    · rename_i same
      rw [same, there]
      rfl
    · rfl
  · rw [puts, ← shows.outbox]
    unfold Service.outbox
    dsimp only
    rw [get]
    by_cases same : n' = n
    · simp [same, there]
    · simp [same, Ne.symm same]

/-! ## Marks of what is done -/

/-- **Something that concerns one connection at most** leaves some marks. -/
structure Records (who : Option Nat) (s : Service) (a : Attendance) (marks : List Mark)
    (s' : Service) : Prop where
  valid : a.Valid marks
  shows : s'.Shows (a.after marks)
  opened : s'.opened = s.opened
  others : ∀ n, who ≠ some n → s'.sessions.get? n = s.sessions.get? n ∧
    (a.after marks).places n = a.places n ∧ (a.after marks).arriving n = a.arriving n

/-- One thing after the other. -/
theorem Records.trans {who : Option Nat} {marks marks' : List Mark}
    (first : Records who s a marks s') (rest : Records who s' (a.after marks) marks' s'') :
    Records who s a (marks ++ marks') s'' := by
  refine ⟨Attendance.valid_append.2 ⟨first.valid, rest.valid⟩, ?_, rest.opened.trans first.opened, ?_⟩
  · rw [a.after_append]
    exact rest.shows
  · intro n other
    obtain ⟨sessions, places, arriving⟩ := first.others n other
    obtain ⟨sessions', places', arriving'⟩ := rest.others n other
    rw [a.after_append]
    exact ⟨sessions'.trans sessions, places'.trans places, arriving'.trans arriving⟩

/-- How a connection sits. -/
structure Seat where
  tenant : String
  isOpen : Bool := true
  /-- The rooms that are forwarded to its client. -/
  rooms : SortedMap Day Receiver
  /-- All the rooms that it is in. -/
  places : SortedMap Day Receiver
  /-- The day that it is in the middle of joining. -/
  arriving : Option Day := none

/-- **How a connection sits** in the service that shows an attendance. -/
structure Sits (s : Service) (a : Attendance) (n : Nat) (seat : Seat) : Prop where
  session : ∃ x, s.sessions.get? n = some x ∧ x.tenant = seat.tenant ∧ x.isOpen = seat.isOpen ∧
    x.rooms = seat.rooms
  places : a.places n = seat.places
  arriving : a.arriving n = seat.arriving

/-- **A connection does something**, records it and sits in another way then. -/
structure Moves (n : Nat) (s : Service) (a : Attendance) (marks : List Mark) (s' : Service)
    (seat : Seat) : Prop extends Records (some n) s a marks s', Sits s' (a.after marks) n seat

/-- One thing after the other. -/
theorem Moves.trans {marks marks' : List Mark} {seat seat' : Seat}
    (first : Moves n s a marks s' seat) (rest : Moves n s' (a.after marks) marks' s'' seat') :
    Moves n s a (marks ++ marks') s'' seat' := by
  have sits : Sits s'' (a.after (marks ++ marks')) n seat' := by
    rw [a.after_append]
    exact rest.toSits
  exact ⟨first.toRecords.trans rest.toRecords, sits⟩

/-- Something else that leaves no mark. -/
theorem Moves.silently {marks : List Mark} {seat seat' : Seat}
    (first : Moves n s a marks s' seat) (rest : Moves n s' (a.after marks) [] s'' seat') :
    Moves n s a marks s'' seat' :=
  marks.append_nil ▸ first.trans rest

/-- A single mark is left. -/
theorem Moves.one {seat : Seat} {m : Mark} (fits : a.Fits m) (shows : s'.Shows (a.next m))
    (opened : s'.opened = s.opened)
    (others : ∀ n', n' ≠ n → s'.sessions.get? n' = s.sessions.get? n' ∧
      (a.next m).places n' = a.places n' ∧ (a.next m).arriving n' = a.arriving n')
    (sits : Sits s' (a.next m) n seat) : Moves n s a [m] s' seat where
  valid := ⟨fits, trivial⟩
  shows := shows
  opened := opened
  others n' other := others n' fun same => other (congrArg some same.symm)
  toSits := sits

/-- Something happens that neither the rooms nor the sessions have to do with. -/
theorem Shows.records_aside (shows : s.Shows a)
    (rooms : ∀ k, (s'.world k).rooms = (s.world k).rooms)
    (loaded : ∀ k, (s.registry.tenants.get? k).isSome → (s'.registry.tenants.get? k).isSome)
    (sessions : s'.sessions = s.sessions) (opened : s'.opened = s.opened) (who : Option Nat) :
    Records who s a [] s' where
  valid := trivial
  shows := shows.of_same rooms loaded (fun _ => by rw [sessions]) fun n' => by
    rw [Service.outbox, sessions]
    rfl
  opened := opened
  others _ _ := ⟨by rw [sessions], rfl, rfl⟩

/-- Some events are told by a program of a tenant. -/
theorem Shows.records_told (shows : s.Shows a) (loaded : (s.registry.tenants.get? k).isSome)
    {ε α : Type} (p : Program ε α) (who : Option Nat) :
    Records who s a (((s.world k).tells p).map (.told k)) (runFor k p s).2 := by
  refine ⟨a.valid_told k _, ?_, rfl, fun n _ => ?_⟩
  · rw [a.after_told]
    refine ⟨fun k' => ?_, shows.tenant, fun {n k'} own => ?_, fun n => ?_⟩
    · show ((s.setWorld k ((s.world k).run p).2).world k').rooms = _
      rw [rooms_setWorld loaded, World.rooms_run]
      dsimp only
      rw [Function.update_apply]
      split
      · rw [Gathering.rooms_after_emit, shows.rooms]
      · exact shows.rooms k'
    · exact (s.registry.isSome_setBackend k k' _).trans (shows.loaded own)
    · show s.outbox n = _
      rw [List.flatMap_append, ← shows.outbox n, List.flatMap_map]
      exact (List.append_nil _).symm.trans (congrArg _ (by simp [Mark.puts]))
  · rw [a.after_told]
    exact ⟨rfl, rfl, rfl⟩

section moves

variable {seat : Seat} (shows : s.Shows a) (sits : s.Sits a n seat)

include shows sits

/-- The tenant of a connection. -/
theorem Sits.own : a.tenant n = some seat.tenant := by
  obtain ⟨x, there, tenant, -⟩ := sits.session
  rw [shows.tenant, there, ← tenant]
  rfl

/-- It is loaded. -/
theorem Sits.loaded : (s.registry.tenants.get? seat.tenant).isSome := shows.loaded (sits.own shows)

/-- The connection sits as before when something else happens. -/
theorem moves_aside (rooms : ∀ k, (s'.world k).rooms = (s.world k).rooms)
    (loaded : ∀ k, (s.registry.tenants.get? k).isSome → (s'.registry.tenants.get? k).isSome)
    (sessions : s'.sessions = s.sessions) (opened : s'.opened = s.opened) :
    Moves n s a [] s' seat where
  toRecords := shows.records_aside rooms loaded sessions opened _
  session := by
    rw [sessions]
    exact sits.session
  places := sits.places
  arriving := sits.arriving

/-- A program of a tenant tells some events. -/
theorem moves_told (loaded : (s.registry.tenants.get? k).isSome) {ε α : Type} (p : Program ε α) :
    Moves n s a (((s.world k).tells p).map (.told k)) (runFor k p s).2 seat := by
  refine ⟨shows.records_told loaded p _, ?_⟩
  rw [a.after_told]
  exact ⟨sits.session, sits.places, sits.arriving⟩

/-- A program that only looks tells nothing. -/
theorem moves_looks (loaded : (s.registry.tenants.get? k).isSome) {ε α : Type} {p : Program ε α}
    (looks : p.Looks) : Moves n s a [] (runFor k p s).2 seat := by
  have told := moves_told shows sits loaded p
  rwa [World.tells_of_tries looks.tries] at told

/-- The client is sent something, which may have to do with a day that it was joining. -/
theorem moves_send {o : Outgoing} {m : Mark} {arriving : Option Day} (fits : a.Fits m)
    (puts : ∀ n', m.puts n' = if n = n' then [o] else [])
    (same : (a.change m).gathering = a.gathering ∧ (a.change m).tenant = a.tenant ∧
      (a.change m).places = a.places)
    (arrives : (a.change m).arriving = Function.update a.arriving n arriving) :
    Moves n s a [m] (send n o s).2 { seat with arriving } := by
  obtain ⟨x, there, tenant, isOpen, rooms⟩ := sits.session
  obtain ⟨gathering, own, places⟩ := same
  have sent := shows.send there (o := o) (b := a.next m) gathering own fun n' =>
    (puts_next a m n').trans (congrArg _ (puts n'))
  rw [send_there there] at sent ⊢
  refine .one fits sent rfl (fun n' other => ⟨?_, congrFun places n', ?_⟩) ⟨?_, ?_, ?_⟩
  · exact SortedMap.get?_insert_ne _ other _
  · exact (congrFun arrives n').trans (Function.update_of_ne other _ _)
  · exact ⟨_, SortedMap.get?_insert_self _ _ _, tenant, isOpen, rooms⟩
  · exact (congrFun places n).trans sits.places
  · exact (congrFun arrives n).trans (Function.update_self _ _ _)

/-- The client is sent something. -/
theorem moves_put {o : Outgoing} (plain : ∀ e, o ≠ .event (.change e)) :
    Moves n s a [.put n o] (send n o s).2 seat := by
  have arrives : a.arriving = Function.update a.arriving n seat.arriving := by
    rw [← sits.arriving, Function.update_eq_self]
  exact moves_send shows sits plain (fun _ => rfl) ⟨rfl, rfl, rfl⟩ arrives

/-- The client is sent the snapshot of the day that it joined. -/
theorem moves_welcomed {shot : DaySnapshot} (day : seat.arriving = some shot.day) :
    Moves n s a [.welcomed n shot] (tell n (.snapshot shot) s).2 { seat with arriving := none } :=
  moves_send shows sits (sits.arriving.trans day) (fun _ => rfl) ⟨rfl, rfl, rfl⟩ rfl

/-- The session is changed, but for its tenant and its outbox. -/
theorem moves_change (f : Session → Session) (seat' : Seat) (tenant : ∀ x, (f x).tenant = x.tenant)
    (outbox : ∀ x, (f x).outbox = x.outbox)
    (isOpen : ∀ x, x.isOpen = seat.isOpen → (f x).isOpen = seat'.isOpen)
    (rooms : ∀ x, x.rooms = seat.rooms → (f x).rooms = seat'.rooms)
    (same : seat'.tenant = seat.tenant ∧ seat'.places = seat.places ∧
      seat'.arriving = seat.arriving) :
    Moves n s a [] (changeSession n f s).2 seat' := by
  obtain ⟨x, there, tenant', isOpen', rooms'⟩ := sits.session
  rw [changeSession_there there]
  have get : ∀ n', (s.sessions.insert n (f x)).get? n' =
      if n' = n then some (f x) else s.sessions.get? n' := fun n' => SortedMap.get?_insert_eq _ _ _ _
  refine ⟨⟨trivial, ?_, rfl, fun n' other => ⟨?_, rfl, rfl⟩⟩, ?_, ?_, ?_⟩
  · refine shows.of_same (fun _ => rfl) (fun _ loaded => loaded) (fun n' => ?_) fun n' => ?_
    · dsimp only
      rw [get]
      split
      · rename_i eq
        rw [eq, there]
        exact congrArg some (tenant x)
      · rfl
    · unfold Service.outbox
      dsimp only
      rw [get]
      split
      · rename_i eq
        rw [eq, there]
        exact outbox x
      · rfl
  · exact (get n').trans (if_neg fun eq => other (congrArg some eq.symm))
  · exact ⟨f x, (get n).trans (if_pos rfl), (tenant x).trans (tenant'.trans same.1.symm),
      isOpen x isOpen', rooms x rooms'⟩
  · exact sits.places.trans same.2.1.symm
  · exact sits.arriving.trans same.2.2.symm

/-- The connection joins the room of a day. -/
theorem moves_entered (tenant : seat.tenant = k) (settled : seat.arriving = none)
    (outside : seat.places.get? d = none) (room : seat.places.size < maxRooms) :
    Moves n s a [.entered k n d] (changeRooms k (·.join d) s).2
      { seat with
        places := seat.places.insert d ((s.world k).rooms.join d).1
        arriving := some d } := by
  subst tenant
  have own := sits.own shows
  obtain ⟨session, places, arriving⟩ := sits
  have fits : a.Fits (.entered seat.tenant n d) :=
    ⟨own, arriving.trans settled, places ▸ outside, places ▸ room⟩
  refine .one fits ?_ rfl (fun n' other => ⟨rfl, ?_, ?_⟩) ⟨session, ?_, ?_⟩
  · exact shows.turn (shows.loaded own) (t := .join d) rfl rfl rfl fun n' =>
      (puts_next a _ n').trans (List.append_nil _)
  · exact Function.update_of_ne other _ _
  · exact Function.update_of_ne other _ _
  · refine (Function.update_self _ _ _).trans ?_
    rw [places, shows.rooms]
  · exact Function.update_self _ _ _

/-- The connection gives a place back. -/
theorem moves_left {r : Receiver} (tenant : seat.tenant = k) (there : seat.places.get? d = some r)
    (settled : seat.arriving = none ∨ seat.arriving = some d) :
    Moves n s a [.left k n d] (changeRooms k (fun h => ((), h.leave r)) s).2
      { seat with places := seat.places.erase d, arriving := none } := by
  subst tenant
  have own := sits.own shows
  obtain ⟨session, places, arriving⟩ := sits
  rw [← places] at there
  have fits : a.Fits (.left seat.tenant n d) := ⟨own, ⟨r, there⟩, arriving ▸ settled⟩
  have left := Attendance.next_left there seat.tenant
  refine .one fits ?_ rfl (fun n' other => ⟨rfl, ?_, ?_⟩) ⟨session, ?_, ?_⟩
  · refine shows.turn (shows.loaded own) (t := .leave r) rfl ?_ ?_ fun n' =>
      (puts_next a _ n').trans (List.append_nil _)
    · rw [left]
    · rw [left]
      rfl
  · rw [left]
    exact Function.update_of_ne other _ _
  · rw [left]
    exact Function.update_of_ne other _ _
  · rw [left]
    refine (Function.update_self _ _ _).trans ?_
    rw [places]
  · rw [left]
    exact Function.update_self _ _ _

/-- What is read for the connection in a room can be forwarded. -/
theorem Sits.fits_passed {r : Receiver} {notice : Notice} (tenant : seat.tenant = k)
    (there : seat.places.get? d = some r) (settled : seat.arriving ≠ some d)
    (answer : ((s.world k).rooms.receive r).1 = some notice) :
    (a.places n).get? d = some r ∧ a.Fits (.passed k n d notice) := by
  have there' : (a.places n).get? d = some r := sits.places ▸ there
  exact ⟨there', tenant ▸ sits.own shows, sits.arriving ▸ settled, r, there', shows.rooms k ▸ answer⟩

/-- What is read for the connection in a room, and is no event, is not forwarded. -/
theorem moves_lost {r : Receiver} {lost : Nat} (tenant : seat.tenant = k)
    (there : seat.places.get? d = some r) (settled : seat.arriving ≠ some d)
    (answer : ((s.world k).rooms.receive r).1 = some (.lost lost)) :
    Moves n s a [.passed k n d (.lost lost)] (changeRooms k (·.receive r) s).2 seat := by
  obtain ⟨there', fits⟩ := sits.fits_passed shows tenant there settled answer
  have passed := Attendance.next_passed there' k (.lost lost)
  refine .one fits ?_ rfl (fun n' other => ?_) ?_
  · refine shows.turn (shows.loaded fits.1) (t := .receive r) rfl ?_ ?_ fun n' =>
      (puts_next a _ n').trans (List.append_nil _)
    · rw [passed]
    · rw [passed]
      rfl
  · rw [passed]
    exact ⟨rfl, rfl, rfl⟩
  · rw [passed]
    exact ⟨sits.session, sits.places, sits.arriving⟩

/-- What is read for the connection in a room, and is an event, is forwarded to its client. -/
theorem moves_event {r : Receiver} {e : RoomEvent} (tenant : seat.tenant = k)
    (there : seat.places.get? d = some r) (settled : seat.arriving ≠ some d)
    (answer : ((s.world k).rooms.receive r).1 = some (.event e)) :
    Moves n s a [.passed k n d (.event e)]
      (tell n (.change e) (changeRooms k (·.receive r) s).2).2 seat := by
  obtain ⟨there', fits⟩ := sits.fits_passed shows tenant there settled answer
  have passed := Attendance.next_passed there' k (.event e)
  obtain ⟨⟨x, here, own, isOpen, rooms⟩, places, arriving⟩ := sits
  let s₁ : Service := (changeRooms k (·.receive r) s).2
  have here₁ : s₁.sessions.get? n = some x := here
  have read : s₁.Shows (a.turn k (.receive r)) :=
    shows.turn (shows.loaded fits.1) (t := .receive r) rfl rfl rfl fun _ => rfl
  have told : tell n (.change e) s₁ = ((), { s₁ with
      sessions := s₁.sessions.insert n { x with outbox := x.outbox ++ [.event (.change e)] } }) :=
    send_there here₁ _
  refine .one fits ?_ ?_ (fun n' other => ?_) ?_
  · refine read.send here₁ ?_ ?_ (puts_next a _)
    · rw [passed]
    · rw [passed]
  · rw [told]
    rfl
  · rw [told, passed]
    exact ⟨SortedMap.get?_insert_ne _ other _, rfl, rfl⟩
  · rw [told, passed]
    exact ⟨⟨_, SortedMap.get?_insert_self _ _ _, own, isOpen, rooms⟩, places, arriving⟩

end moves

end Service
end Holdfast
