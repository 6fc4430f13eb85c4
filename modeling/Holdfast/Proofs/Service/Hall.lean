import Holdfast.Proofs.Room.Deserted
import Holdfast.Proofs.Room.Stays
import Holdfast.Proofs.Service.Clients

/-!
# The hall of the clients

A service at work for its clients: connections begin, frames are taken in from them, programs are
run for anybody, events are forwarded, one at a time, and time goes by. Joining the room of a day
can be done at once or in its two steps, between which the other things can happen, but no frame is
taken in from the client (`Hall.Turn`). The hall keeps a log of it all, and knows what each client
wished for and was granted.

Whatever happens, the service shows what the log tells of, and the rooms that are forwarded to a
client are those that follow from its wishes (`Hall.Keeps`).
-/

namespace Holdfast

open Reservation Socket

/-- The days of whose rooms a client is, by what it wished for and was granted. -/
def standing (wishes : List ClientEvent) : Finset Day := wishes.foldl Service.granting ∅

/-- One more wish, perhaps. -/
theorem standing_append (wishes : List ClientEvent) (granted : Option ClientEvent) :
    standing (wishes ++ granted.toList) =
      (granted.map (Service.granting (standing wishes))).getD (standing wishes) := by
  rw [standing, List.foldl_append]
  cases granted <;> rfl

/-- A service at work for its clients. -/
structure Hall where
  service : Service
  /-- The place that a client took when it joined a day, until it is welcomed. -/
  arriving : Nat → Option Receiver := fun _ => none
  /-- What each client wished for and was granted. -/
  wishes : Nat → List ClientEvent := fun _ => []
  log : List Mark := []

namespace Hall

/-- Something that happens in the hall. -/
inductive Turn where
  /-- A connection begins. -/
  | connect (tenant : String) (holder : HolderId)
  /-- A frame is taken in from a client. -/
  | frame (n : Nat) (incoming : Service.Incoming)
  /-- A client that joins a day takes a place in its room. -/
  | enter (n : Nat) (d : Day)
  /-- It is welcomed. -/
  | welcome (n : Nat)
  /-- A program is run for anybody else. -/
  | call (tenant : String) (p : Program Failure Unit)
  /-- What comes first in the room of a day is forwarded to a client. -/
  | forward (n : Nat) (d : Day)
  /-- The service is told to stop. -/
  | stop
  | wait (milliseconds : Nat)

/-- The session of a client that is in the middle of nothing. -/
def idle? (h : Hall) (n : Nat) : Option Session :=
  if (h.arriving n).isSome then none else (h.service.sessions.get? n).filter (·.isOpen)

/-- A connection begins for the tenant of a name. -/
def connect (h : Hall) (tenant : String) (holder : HolderId) : Hall :=
  match Service.tenantOf tenant h.service with
  | (.error _, s) => { h with service := s }
  | (.ok key, s) =>
    { h with
      service := (Service.begin key holder s).2
      log := h.log ++ s.beginMarks key holder }

/-- A frame is taken in from a client that is in the middle of nothing. -/
def frame (h : Hall) (n : Nat) (incoming : Service.Incoming) : Hall :=
  match h.idle? n with
  | none => h
  | some session =>
    { h with
      service := (Service.receive n incoming h.service).2
      wishes := Function.update h.wishes n
        (h.wishes n ++ (h.service.granted? session incoming).toList)
      log := h.log ++ h.service.receiveMarks n session incoming }

/-- A client takes a place in the room of a day, if it is not there yet and may be in one more. -/
def enter (h : Hall) (n : Nat) (d : Day) : Hall :=
  match h.idle? n with
  | none => h
  | some session =>
    if session.rooms.get? d = none ∧ session.rooms.size < Service.maxRooms then
      let taken := Service.takePlace n session d h.service
      { h with
        service := taken.2
        arriving := Function.update h.arriving n (some taken.1)
        log := h.log ++ [.entered session.tenant n d, .put n (.event (.joinedDay d))] }
    else h

/-- A client that took a place is welcomed. -/
def welcome (h : Hall) (n : Nat) : Hall :=
  match h.arriving n, h.service.sessions.get? n with
  | some receiver, some session =>
    let shot := h.service.shot session.tenant receiver.day
    { service := (Service.welcome n session receiver.day receiver h.service).2
      arriving := Function.update h.arriving n none
      wishes := Function.update h.wishes n
        (h.wishes n ++ if shot.isOk then [.joinDay receiver.day] else [])
      log := h.log ++ Service.welcomeMarks n session.tenant receiver.day shot }
  | _, _ => h

/-- A program is run for the tenant of a name. -/
def call (h : Hall) (tenant : String) (p : Program Failure Unit) : Hall :=
  match Service.tenantOf tenant h.service with
  | (.error _, s) => { h with service := s }
  | (.ok key, s) =>
    { h with
      service := (Service.runFor key p s).2
      log := h.log ++ ((s.world key).tells p).map (.told key) }

/-- What comes first in the room of a day is forwarded to a client, if it is forwarded to. -/
def forward (h : Hall) (n : Nat) (d : Day) : Hall :=
  match h.service.sessions.get? n with
  | none => h
  | some session =>
    match session.rooms.get? d with
    | none => h
    | some receiver =>
      { h with
        service := (Service.forwardNext n session d receiver h.service).2
        log := h.log ++ h.service.forwardMarks n session d receiver }

/-- What becomes of the hall. -/
def next (h : Hall) : Turn → Hall
  | .connect tenant holder => h.connect tenant holder
  | .frame n incoming => h.frame n incoming
  | .enter n d => h.enter n d
  | .welcome n => h.welcome n
  | .call tenant p => h.call tenant p
  | .forward n d => h.forward n d
  | .stop => { h with service := { h.service with isShutDown := true } }
  | .wait milliseconds =>
    { h with service := { h.service with clock := h.service.clock + milliseconds } }

/-- The hall after some things happened, one after the other. -/
def after (h : Hall) (turns : List Turn) : Hall := turns.foldl next h

/-- The hall of a service that nobody has asked for anything yet. -/
def start (config : Config) (seeds : SortedMap String SeedFile) (permits : Nat) : Hall :=
  { service := { config, registry := { seeds }, permits } }

/-- What the log comes to. -/
def attendance (h : Hall) : Attendance := Attendance.after {} h.log

/-! ## What holds of a hall -/

open Service (Seat Sits Moves Records)

/-- The rooms that a client is forwarded to, and the one in which it has just taken a place. -/
def withTaken (rooms : SortedMap Day Receiver) : Option Receiver → SortedMap Day Receiver
  | none => rooms
  | some r => rooms.insert r.day r

/-- **How a connection sits** that has wished for so much, and perhaps is arriving. -/
structure Seated (taken : Option Receiver) (wishes : List ClientEvent) (seat : Seat) : Prop where
  arriving : seat.arriving = taken.map (·.day)
  places : seat.places = withTaken seat.rooms taken
  room : ∀ r, taken = some r → seat.isOpen = true ∧ seat.rooms.get? r.day = none ∧
    seat.rooms.size < Service.maxRooms
  closed : seat.isOpen = false → seat.rooms = .empty
  standing : seat.isOpen = true → seat.rooms.keys = Holdfast.standing wishes

/-- A room that is forwarded to a client is one that it is in, and not the one that it is joining. -/
theorem Seated.place {taken : Option Receiver} {wishes : List ClientEvent} {seat : Seat} {d : Day}
    {r : Receiver} (seated : Seated taken wishes seat) (there : seat.rooms.get? d = some r) :
    seat.places.get? d = some r ∧ seat.arriving ≠ some d := by
  rw [seated.arriving, seated.places]
  cases taken with
  | none => exact ⟨there, fun same => nomatch same⟩
  | some r' =>
    have other : d ≠ r'.day := by
      rintro rfl
      cases there.symm.trans (seated.room r' rfl).2.1
    exact ⟨(SortedMap.get?_insert_ne _ other _).trans there,
      fun same => other (Option.some.inj same).symm⟩

/-- **The service shows what the log tells of**, and each connection sits as its wishes have it. -/
structure Keeps (h : Hall) : Prop where
  valid : Attendance.Valid {} h.log
  shows : h.service.Shows h.attendance
  coming : ∀ n, h.service.opened ≤ n → h.service.sessions.get? n = none
  seated : ∀ {n}, (h.service.sessions.get? n).isSome →
    ∃ seat, h.service.Sits h.attendance n seat ∧ Seated (h.arriving n) (h.wishes n) seat
  strangers : ∀ n, h.service.sessions.get? n = none → h.attendance.places n = .empty ∧
    h.attendance.arriving n = none ∧ h.arriving n = none ∧ h.wishes n = []

namespace Keeps

variable {h h' : Hall} {n : Nat} {k : String} {marks : List Mark}

/-- At the start nobody is there. -/
theorem start (config : Config) (seeds : SortedMap String SeedFile) (permits : Nat) :
    (Hall.start config seeds permits).Keeps where
  valid := trivial
  shows := ⟨fun _ => rfl, fun _ => rfl, (fun own => nomatch own), fun _ => rfl⟩
  coming _ _ := rfl
  seated there := nomatch there
  strangers _ _ := ⟨rfl, rfl, rfl, rfl⟩

/-- The members of the rooms are those that have a place there. -/
theorem sound (keeps : h.Keeps) : h.attendance.Sound := Attendance.sound_empty.after keeps.valid

/-- The log of two parts. -/
theorem attendance_append (log : h'.log = h.log ++ marks) :
    h'.attendance = h.attendance.after marks := by
  rw [attendance, log, Attendance.after_append]
  rfl

/-- **Something is recorded**, and whoever it concerns sits well then. -/
theorem records (keeps : h.Keeps) {who : Option Nat}
    (records : Records who h.service h.attendance marks h'.service) (log : h'.log = h.log ++ marks)
    (others : ∀ n, who ≠ some n → h'.arriving n = h.arriving n ∧ h'.wishes n = h.wishes n)
    (here : ∀ n, who = some n → (h.service.sessions.get? n).isSome ∧
      ∃ seat, h'.service.Sits (h.attendance.after marks) n seat ∧
        Seated (h'.arriving n) (h'.wishes n) seat) : h'.Keeps := by
  have attendance := attendance_append log
  refine ⟨?_, attendance ▸ records.shows, fun n le => ?_, fun {n} there => ?_, fun n missing => ?_⟩
  · rw [log]
    exact Attendance.valid_append.2 ⟨keeps.valid, records.valid⟩
  · have missing := keeps.coming n (records.opened ▸ le)
    refine (records.others n fun same => ?_).1.trans missing
    have there := (here n same).1
    rw [missing] at there
    cases there
  · rw [attendance]
    by_cases mine : who = some n
    · exact (here n mine).2
    · obtain ⟨sessions, places, arriving⟩ := records.others n mine
      rw [sessions] at there
      obtain ⟨seat, sits, seated⟩ := keeps.seated there
      rw [(others n mine).1, (others n mine).2]
      refine ⟨seat, ⟨?_, places.trans sits.places, arriving.trans sits.arriving⟩, seated⟩
      rw [sessions]
      exact sits.session
  · have other : who ≠ some n := by
      intro mine
      obtain ⟨-, seat, sits, -⟩ := here n mine
      obtain ⟨x, there, -⟩ := sits.session
      cases missing.symm.trans there
    obtain ⟨sessions, places, arriving⟩ := records.others n other
    rw [sessions] at missing
    rw [attendance, places, arriving, (others n other).1, (others n other).2]
    exact keeps.strangers n missing

/-- **A connection does something** and sits well then. -/
theorem move (keeps : h.Keeps) {seat : Seat} (there : (h.service.sessions.get? n).isSome)
    (moves : Moves n h.service h.attendance marks h'.service seat) (log : h'.log = h.log ++ marks)
    (others : ∀ n', n' ≠ n → h'.arriving n' = h.arriving n' ∧ h'.wishes n' = h.wishes n')
    (seated : Seated (h'.arriving n) (h'.wishes n) seat) : h'.Keeps := by
  refine keeps.records moves.toRecords log (fun n' other => others n' ?_) fun n' same => ?_
  · exact fun same => other (congrArg some same.symm)
  · obtain rfl := Option.some.inj same
    exact ⟨there, seat, moves.toSits, seated⟩

/-- Nothing is recorded. -/
theorem aside (keeps : h.Keeps) {s : Service}
    (rooms : ∀ k, (s.world k).rooms = (h.service.world k).rooms)
    (loaded : ∀ k, (h.service.registry.tenants.get? k).isSome → (s.registry.tenants.get? k).isSome)
    (sessions : s.sessions = h.service.sessions) (opened : s.opened = h.service.opened) :
    Keeps { h with service := s } :=
  keeps.records (keeps.shows.records_aside rooms loaded sessions opened none)
    (List.append_nil _).symm (fun _ _ => ⟨rfl, rfl⟩) fun _ same => nomatch same

/-- How a connection sits that there is. -/
theorem sitting (keeps : h.Keeps) {session : Session}
    (there : h.service.sessions.get? n = some session) :
    ∃ seat, h.service.Sits h.attendance n seat ∧ Seated (h.arriving n) (h.wishes n) seat ∧
      session.tenant = seat.tenant ∧ session.isOpen = seat.isOpen ∧ session.rooms = seat.rooms := by
  obtain ⟨seat, sits, seated⟩ := keeps.seated (n := n) (by rw [there]; rfl)
  obtain ⟨x, there', sits'⟩ := sits.session
  obtain rfl := Option.some.inj (there.symm.trans there')
  exact ⟨seat, sits, seated, sits'⟩

/-- **How an open connection sits** that is in the middle of nothing. -/
theorem idle (keeps : h.Keeps) {session : Session} (idle : h.idle? n = some session) :
    h.service.sessions.get? n = some session ∧ session.isOpen = true ∧ h.arriving n = none ∧
      h.service.Sits h.attendance n (.of session) ∧
      session.rooms.keys = standing (h.wishes n) := by
  unfold idle? at idle
  split at idle
  · cases idle
  rename_i settled
  have settled : h.arriving n = none := by simpa using settled
  obtain ⟨there, isOpen⟩ := Option.filter_eq_some_iff.1 idle
  obtain ⟨seat, sits, seated, tenant, isOpen', rooms⟩ := keeps.sitting there
  have arriving := seated.arriving
  have places := seated.places
  rw [settled] at arriving places
  have same : seat = .of session := by
    obtain ⟨tenant', isOpen'', rooms', places', arriving'⟩ := seat
    simp_all [Seat.of, withTaken]
  subst same
  exact ⟨there, isOpen, settled, sits, seated.standing isOpen⟩

/-! ## One turn -/

/-- A connection begins. -/
theorem opening (keeps : h.Keeps) (loaded : (h.service.registry.tenants.get? k).isSome)
    (holder : HolderId) :
    Keeps { h with
      service := h.service.opening k holder
      log := h.log ++ [.opened k h.service.opened] } := by
  let n := h.service.opened
  have missing : h.service.sessions.get? n = none := keeps.coming n (Nat.le_refl _)
  obtain ⟨places, arriving, settled, silent⟩ := keeps.strangers n missing
  have new : h.attendance.tenant n = none := by
    rw [keeps.shows.tenant, missing]
    rfl
  have get : ∀ n', (h.service.opening k holder).sessions.get? n' =
      if n' = n then some (h.service.newcomer k holder) else h.service.sessions.get? n' :=
    fun n' => SortedMap.get?_insert_eq _ _ _ _
  let h' : Hall := { h with
    service := h.service.opening k holder
    log := h.log ++ [.opened k n] }
  have attendance : h'.attendance = h.attendance.next (.opened k n) :=
    attendance_append (show h'.log = h.log ++ [.opened k n] from rfl)
  have shows : h'.service.Shows h'.attendance := by
    rw [attendance]
    refine ⟨keeps.shows.rooms, fun n' => ?_, fun {n' k'} own => ?_, fun n' => ?_⟩
    · show Function.update h.attendance.tenant n (some k) n' = _
      rw [Function.update_apply, get]
      split
      · rfl
      · exact keeps.shows.tenant n'
    · have own : Function.update h.attendance.tenant n (some k) n' = some k' := own
      rw [Function.update_apply] at own
      split at own
      · exact Option.some.inj own ▸ loaded
      · exact keeps.shows.loaded own
    · rw [Service.puts_next, ← keeps.shows.outbox]
      unfold Service.outbox
      rw [get]
      by_cases same : n' = n
      · rw [if_pos same, same, missing]
        rfl
      · rw [if_neg same]
        exact (List.append_nil _).symm
  refine ⟨?_, shows, fun n' le => ?_, fun {n'} there => ?_, fun n' missing' => ?_⟩
  · exact Attendance.valid_append.2 ⟨keeps.valid, new, trivial⟩
  · have le : n + 1 ≤ n' := le
    rw [get, if_neg (by omega)]
    exact keeps.coming n' (by omega)
  · rw [get] at there
    show ∃ seat, h'.service.Sits h'.attendance n' seat ∧ _
    rw [attendance]
    by_cases same : n' = n
    · subst same
      refine ⟨.of (h.service.newcomer k holder), ⟨⟨_, (get _).trans (if_pos rfl), rfl, rfl, rfl⟩,
        places, arriving⟩, ?_⟩
      rw [settled, silent]
      exact ⟨rfl, rfl, (fun _ taken => nomatch taken), fun _ => rfl, fun _ => rfl⟩
    · rw [if_neg same] at there
      obtain ⟨seat, sits, seated⟩ := keeps.seated there
      refine ⟨seat, ⟨?_, sits.places, sits.arriving⟩, seated⟩
      rw [get, if_neg same]
      exact sits.session
  · rw [get] at missing'
    split at missing'
    · cases missing'
    · show h'.attendance.places n' = _ ∧ h'.attendance.arriving n' = _ ∧ _
      rw [attendance]
      exact keeps.strangers n' missing'

/-- An open session ends. -/
theorem close (keeps : h.Keeps) {session : Session} (idle : h.idle? n = some session)
    (service : h'.service = (Service.close n h.service).2)
    (log : h'.log = h.log ++ h.service.closeMarks n session) (arriving : h'.arriving = h.arriving)
    (wishes : ∀ n', n' ≠ n → h'.wishes n' = h.wishes n') : h'.Keeps := by
  obtain ⟨there, isOpen, settled, sits, -⟩ := keeps.idle idle
  have moves := Service.moves_close keeps.shows keeps.sound sits there isOpen
  rw [← service] at moves
  refine keeps.move (by rw [there]; rfl) moves log
    (fun n' other => ⟨congrFun arriving n', wishes n' other⟩) ?_
  rw [arriving, settled]
  exact ⟨rfl, rfl, (fun _ taken => nomatch taken), fun _ => rfl, fun isOpen => nomatch isOpen⟩

/-- A tenant is asked for. -/
theorem tenantOf (keeps : h.Keeps) (name : String) :
    Keeps { h with service := (Service.tenantOf name h.service).2 } ∧
      ∀ key, (Service.tenantOf name h.service).1 = .ok key →
        ((Service.tenantOf name h.service).2.registry.tenants.get? key).isSome := by
  have rooms := h.service.registry.rooms_getOrLoad h.service.clock name
  have loaded : ∀ key, (h.service.registry.tenants.get? key).isSome →
      ((h.service.registry.getOrLoad h.service.clock name).2.tenants.get? key).isSome :=
    fun _ there => h.service.registry.isSome_getOrLoad h.service.clock name there
  unfold Service.tenantOf
  dsimp only
  cases answer : (h.service.registry.getOrLoad h.service.clock name).1 with
  | error e => exact ⟨keeps.aside rooms loaded rfl rfl, fun _ same => nomatch same⟩
  | ok key =>
    refine ⟨keeps.aside rooms loaded rfl rfl, fun key' same => ?_⟩
    obtain rfl := Except.ok.inj same
    exact h.service.registry.isSome_of_getOrLoad answer

/-- A frame is taken in. -/
theorem frame (keeps : h.Keeps) (n : Nat) (incoming : Service.Incoming) :
    (h.frame n incoming).Keeps := by
  unfold Hall.frame
  split
  · exact keeps
  rename_i session idle
  obtain ⟨there, isOpen, settled, sits, standing⟩ := keeps.idle idle
  by_cases ends : incoming = .close
  · subst ends
    refine keeps.close idle ?_ rfl rfl fun n' other => Function.update_of_ne other _ _
    show (Service.receive n .close h.service).2 = _
    rw [Service.receive, Service.bind_apply (Service.open?_there there isOpen)]
  · obtain ⟨rooms, moves, keys⟩ := Service.moves_receive keeps.shows sits there isOpen ends
    refine keeps.move (by rw [there]; rfl) moves rfl
      (fun n' other => ⟨rfl, Function.update_of_ne other _ _⟩) ?_
    show Seated (h.arriving n) (Function.update h.wishes n _ n) _
    rw [settled, Function.update_self]
    refine ⟨rfl, rfl, ?_, fun isOver => ?_, fun _ => ?_⟩
    · rintro _ ⟨⟩
    · cases isOpen.symm.trans isOver
    · rw [standing_append, ← standing]
      exact keys

/-- A client takes a place. -/
theorem enter (keeps : h.Keeps) (n : Nat) (d : Day) : (h.enter n d).Keeps := by
  unfold Hall.enter
  split
  · exact keeps
  rename_i session idle
  split
  · rename_i free
    obtain ⟨there, isOpen, settled, sits, standing⟩ := keeps.idle idle
    have moves := Service.moves_takePlace keeps.shows sits session rfl rfl free.1 free.2
    refine keeps.move (by rw [there]; rfl) moves rfl
      (fun n' other => ⟨Function.update_of_ne other _ _, rfl⟩) ?_
    show Seated (Function.update h.arriving n _ n) (h.wishes n) _
    rw [Function.update_self]
    refine ⟨rfl, rfl, ?_, fun isOver => ?_, fun _ => standing⟩
    · rintro _ ⟨⟩
      exact ⟨isOpen, free⟩
    · cases isOpen.symm.trans isOver
  · exact keeps

/-- A client is welcomed. -/
theorem welcome (keeps : h.Keeps) (n : Nat) : (h.welcome n).Keeps := by
  unfold Hall.welcome
  split
  · rename_i receiver session arriving there
    obtain ⟨seat, sits, seated, tenant, -⟩ := keeps.sitting there
    obtain ⟨arrives, places, room, -, standing⟩ := seated
    rw [arriving] at arrives places
    obtain ⟨isOpen, new, free⟩ := room receiver arriving
    have wished := standing isOpen
    cases shot : h.service.shot session.tenant receiver.day with
    | ok shot' =>
      have moves := Service.moves_welcome keeps.shows sits session receiver tenant arrives shot
      refine keeps.move (by rw [there]; rfl) moves rfl
        (fun n' other => ⟨Function.update_of_ne other _ _, Function.update_of_ne other _ _⟩) ?_
      show Seated (Function.update h.arriving n none n) (Function.update h.wishes n _ n) _
      rw [Function.update_self, Function.update_self]
      refine ⟨rfl, places, (fun _ taken => nomatch taken), fun isOver => ?_, fun _ => ?_⟩
      · cases isOpen.symm.trans isOver
      · refine Eq.trans ?_ (standing_append _ (some (.joinDay receiver.day))).symm
        show (seat.rooms.insert receiver.day receiver).keys = _
        rw [Option.map_some, Option.getD_some, ← wished, Service.granting, SortedMap.card_keys,
          if_pos free, SortedMap.keys_insert]
    | error e =>
      have moves := Service.moves_refused keeps.shows sits session tenant
        (by rw [places]; exact SortedMap.get?_insert_self _ _ _) arrives shot
      refine keeps.move (by rw [there]; rfl) moves rfl
        (fun n' other => ⟨Function.update_of_ne other _ _, Function.update_of_ne other _ _⟩) ?_
      show Seated (Function.update h.arriving n none n) (Function.update h.wishes n _ n) _
      rw [Function.update_self, Function.update_self]
      refine ⟨rfl, ?_, (fun _ taken => nomatch taken), fun isOver => ?_, fun _ => ?_⟩
      · show seat.places.erase receiver.day = seat.rooms
        rw [places]
        exact SortedMap.erase_insert new
      · cases isOpen.symm.trans isOver
      · exact wished.trans (congrArg _ (List.append_nil _).symm)
  · exact keeps

/-- Something is forwarded. -/
theorem forward (keeps : h.Keeps) (n : Nat) (d : Day) : (h.forward n d).Keeps := by
  unfold Hall.forward
  split
  · exact keeps
  rename_i session there
  split
  · exact keeps
  rename_i receiver place
  obtain ⟨seat, sits, seated, tenant, -, rooms⟩ := keeps.sitting there
  rw [rooms] at place
  obtain ⟨inside, settled⟩ := seated.place place
  have moves := Service.moves_forwardNext keeps.shows sits tenant inside settled
  exact keeps.move (by rw [there]; rfl) moves rfl (fun _ _ => ⟨rfl, rfl⟩) seated

/-- A connection begins, and ends at once if the service is to stop. -/
theorem connect (keeps : h.Keeps) (name : String) (holder : HolderId) :
    (h.connect name holder).Keeps := by
  obtain ⟨keeps', loaded⟩ := keeps.tenantOf name
  unfold Hall.connect
  rcases asked : Service.tenantOf name h.service with ⟨answer, s⟩
  rw [asked] at keeps' loaded
  cases answer with
  | error e => exact keeps'
  | ok key =>
    have begun := keeps'.opening (loaded key rfl) holder
    have missing := keeps'.coming s.opened (Nat.le_refl _)
    have settled := (keeps'.strangers s.opened missing).2.2.1
    show Keeps { h with
      service := (Service.begin key holder s).2, log := h.log ++ s.beginMarks key holder }
    rw [Service.begin_eq, Service.beginMarks]
    split
    · have idle : Hall.idle? { h with
          service := s.opening key holder
          log := h.log ++ [.opened key s.opened] } s.opened = some (s.newcomer key holder) := by
        show (if (h.arriving s.opened).isSome then none else _) = _
        rw [settled]
        show ((s.opening key holder).sessions.get? s.opened).filter (·.isOpen) = _
        rw [Service.opening, SortedMap.get?_insert_self]
        rfl
      refine begun.close idle rfl ?_ rfl fun _ _ => rfl
      show h.log ++ _ = (h.log ++ _) ++ _
      rw [List.append_assoc]
      rfl
    · exact begun

/-- A program is run. -/
theorem call (keeps : h.Keeps) (name : String) (p : Program Failure Unit) :
    (h.call name p).Keeps := by
  obtain ⟨keeps', loaded⟩ := keeps.tenantOf name
  unfold Hall.call
  rcases asked : Service.tenantOf name h.service with ⟨answer, s⟩
  rw [asked] at keeps' loaded
  cases answer with
  | error e => exact keeps'
  | ok key =>
    exact keeps'.records (keeps'.shows.records_told (loaded key rfl) p none) rfl
      (fun _ _ => ⟨rfl, rfl⟩) fun _ same => nomatch same

/-- **Whatever happens.** -/
theorem next (keeps : h.Keeps) : ∀ turn : Turn, (h.next turn).Keeps
  | .connect name holder => keeps.connect name holder
  | .frame n incoming => keeps.frame n incoming
  | .enter n d => keeps.enter n d
  | .welcome n => keeps.welcome n
  | .call name p => keeps.call name p
  | .forward n d => keeps.forward n d
  | .stop => keeps.aside (fun _ => rfl) (fun _ loaded => loaded) rfl rfl
  | .wait _ => keeps.aside (fun _ => rfl) (fun _ loaded => loaded) rfl rfl

/-- **Whatever happens, one thing after the other.** -/
theorem after (keeps : h.Keeps) (turns : List Turn) : (h.after turns).Keeps := by
  induction turns generalizing h with
  | nil => exact keeps
  | cons turn turns ih => exact ih (keeps.next turn)

/-! ## Steps that are done at once -/

/-- **Taking a place and being welcomed, with nothing in between**, is what the wish to join comes
to. -/
theorem enter_welcome (keeps : h.Keeps) {session : Session} {t : String} {d : Day}
    (idle : h.idle? n = some session) (decoded : ClientEvent.ofText? t = some (.joinDay d))
    (new : session.rooms.get? d = none) (room : session.rooms.size < Service.maxRooms) :
    (h.enter n d).welcome n = h.frame n (.text t) := by
  obtain ⟨there, isOpen, settled, sits, -⟩ := keeps.idle idle
  let taken := Service.takePlace n session d h.service
  have shot : taken.2.shot session.tenant d = h.service.shot session.tenant d :=
    Service.shot_takePlace (sits.loaded keeps.shows) d d
  have entered : h.enter n d =
      { h with
        service := taken.2
        arriving := Function.update h.arriving n (some taken.1)
        log := h.log ++ [.entered session.tenant n d, .put n (.event (.joinedDay d))] } := by
    rw [Hall.enter, idle]
    exact if_pos ⟨new, room⟩
  have here : taken.2.sessions.get? n =
      some { session with outbox := session.outbox ++ [.event (.joinedDay d)] } := by
    have there' : (Service.changeRooms session.tenant (·.join d) h.service).2.sessions.get? n =
        some session := there
    show (Service.tell n _
      (Service.changeRooms session.tenant (·.join d) h.service).2).2.sessions.get? n = _
    rw [Service.tell_there there']
    exact SortedMap.get?_insert_self _ _ _
  have joined : (Service.receive n (.text t) h.service).2 =
      (Service.welcome n session d taken.1 taken.2).2 := by
    rw [Service.receive, Service.bind_apply (Service.open?_there there isOpen)]
    dsimp only
    rw [decoded]
    show (Service.joinDay n session d h.service).2 = _
    rw [Service.joinDay_new new room]
    rfl
  have granted : (h.service.granted? session (.text t)).toList =
      if (h.service.shot session.tenant d).isOk then [.joinDay d] else [] := by
    rw [Service.granted?, decoded, Option.filter_some]
    show (if (h.service.shot session.tenant d).isOk then _ else _ : Option ClientEvent).toList = _
    split <;> rfl
  have marks : h.service.receiveMarks n session (.text t) =
      [.entered session.tenant n d, .put n (.event (.joinedDay d))] ++
        Service.welcomeMarks n session.tenant d (h.service.shot session.tenant d) := by
    rw [Service.receiveMarks, decoded]
    dsimp only
    rw [Service.obeyMarks, new, if_neg (by simp), if_neg (Nat.not_le.2 room)]
  rw [entered, Hall.welcome, Hall.frame, idle]
  simp only [Function.update_self, here, joined, granted, marks, Function.update_idem]
  have same : taken.1.day = d := rfl
  have welcomed : (Service.welcome n { session with
        outbox := session.outbox ++ [.event (.joinedDay d)] } d taken.1 taken.2) =
      Service.welcome n session d taken.1 taken.2 := rfl
  rw [same, welcomed, shot, List.append_assoc, ← settled, Function.update_eq_self]

end Keeps
end Hall
end Holdfast
