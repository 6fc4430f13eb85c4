import Holdfast.Proofs.Room.Gathering
import Holdfast.Proofs.SortedMap
import Holdfast.Service.Connection
import Mathlib.Logic.Function.Basic

/-!
# Connections in rooms

What happens around the rooms of all tenants is written down in a log of marks: connections enter
rooms and leave them, events are told, and what a connection's client is sent is put in its outbox.
An `Attendance` is what a log comes to: the rooms, each with what was told and read there, and the
places that connections have in them. A mark can only come when it fits (`Attendance.Fits`).

As long as marks fit, the members of the rooms are the connections that have a place there, one
member for each place (`Attendance.Sound`).
-/

namespace Holdfast

open Socket

/-- Something that happens around the rooms. Connections go by their numbers, and rooms by the key of
their tenant and their day. -/
inductive Mark where
  /-- A connection begins. -/
  | opened (tenant : String) (n : Nat)
  /-- It joins the room of a day. -/
  | entered (tenant : String) (n : Nat) (day : Day)
  /-- It is sent the snapshot of the day that it joined, and forwarding begins. -/
  | welcomed (n : Nat) (shot : DaySnapshot)
  /-- It gives its place back. -/
  | left (tenant : String) (n : Nat) (day : Day)
  /-- An event is told. -/
  | told (tenant : String) (e : RoomEvent)
  /-- A notice is read in a room and, if it is an event, forwarded to a connection. -/
  | passed (tenant : String) (n : Nat) (day : Day) (notice : Notice)
  /-- Anything else is put in a connection's outbox. -/
  | put (n : Nat) (o : Outgoing)

namespace Mark

/-- What a mark puts in the outbox of a connection. -/
def puts (n : Nat) : Mark → List Outgoing
  | welcomed n' shot => if n' = n then [.event (.snapshot shot)] else []
  | passed _ n' _ (.event e) => if n' = n then [.event (.change e)] else []
  | put n' o => if n' = n then [o] else []
  | _ => []

/-- The change that is forwarded to a connection from the room of a day. -/
def change? (n : Nat) (d : Day) : Mark → Option RoomEvent
  | passed _ n' d' (.event e) => if n' = n ∧ d' = d then some e else none
  | _ => none

/-- The event that is told in the room of a day. -/
def told? (k : String) (d : Day) : Mark → Option RoomEvent
  | told k' e => if k' = k ∧ e.day = d then some e else none
  | _ => none

/-- What has happened since a connection entered the room of a day, if it is still there. -/
def stayStep (n : Nat) (d : Day) (stay : Option (List Mark)) (m : Mark) : Option (List Mark) :=
  match m with
  | entered _ n' d' => if n' = n ∧ d' = d then some [] else stay.map (· ++ [m])
  | left _ n' d' => if n' = n ∧ d' = d then none else stay.map (· ++ [m])
  | _ => stay.map (· ++ [m])

/-- **What has happened since a connection entered the room of a day**; nothing, if it is not there.
-/
def stay (n : Nat) (d : Day) (log : List Mark) : Option (List Mark) :=
  log.foldl (stayStep n d) none

variable {n : Nat} {d : Day} {k : String} {log : List Mark} {m : Mark}

/-- One more mark. -/
theorem stay_concat : stay n d (log ++ [m]) = stayStep n d (stay n d log) m := by
  rw [stay, List.foldl_append]
  rfl

end Mark

/-- Where the connections are. -/
structure Attendance where
  /-- The tenant of each connection that has begun. -/
  tenant : Nat → Option String := fun _ => none
  /-- The places of each connection. -/
  places : Nat → SortedMap Day Receiver := fun _ => .empty
  /-- The day that a connection is in the middle of joining. -/
  arriving : Nat → Option Day := fun _ => none
  /-- The rooms of each tenant, with what has happened there. -/
  gathering : String → Gathering := fun _ => {}
  log : List Mark := []

namespace Attendance

open Mark

/-- Something happens in the rooms of a tenant. -/
def turn (a : Attendance) (k : String) (t : Gathering.Turn) : Attendance :=
  { a with gathering := Function.update a.gathering k ((a.gathering k).next t) }

/-- What a mark changes. -/
def change (a : Attendance) : Mark → Attendance
  | .opened k n => { a with tenant := Function.update a.tenant n (some k) }
  | .entered k n d =>
    { a.turn k (.join d) with
      places :=
        Function.update a.places n ((a.places n).insert d ((a.gathering k).rooms.join d).1)
      arriving := Function.update a.arriving n (some d) }
  | .welcomed n _ => { a with arriving := Function.update a.arriving n none }
  | .left k n d =>
    match (a.places n).get? d with
    | none => a
    | some r =>
      { a.turn k (.leave r) with
        places := Function.update a.places n ((a.places n).erase d)
        arriving := Function.update a.arriving n none }
  | .told k e => a.turn k (.emit e)
  | .passed k n d _ =>
    match (a.places n).get? d with
    | none => a
    | some r => a.turn k (.receive r)
  | .put _ _ => a

/-- What becomes of the connections with one more mark. -/
def next (a : Attendance) (m : Mark) : Attendance := { a.change m with log := a.log ++ [m] }

/-- What becomes of them with some more marks. -/
def after (a : Attendance) (marks : List Mark) : Attendance := marks.foldl next a

/-- **When a mark can come.** A connection takes one place at a time, at most `Service.maxRooms` in
all and each once. It takes and gives back places one by one, and forwarding to it begins when it
has been sent the snapshot of the day. -/
def Fits (a : Attendance) : Mark → Prop
  | .opened _ n => a.tenant n = none
  | .entered k n d => a.tenant n = some k ∧ a.arriving n = none ∧ (a.places n).get? d = none ∧
      (a.places n).size < Service.maxRooms
  | .welcomed n shot => a.arriving n = some shot.day
  | .left k n d => a.tenant n = some k ∧ (∃ r, (a.places n).get? d = some r) ∧
      (a.arriving n = none ∨ a.arriving n = some d)
  | .told _ _ => True
  | .passed k n d notice => a.tenant n = some k ∧ a.arriving n ≠ some d ∧
      ∃ r, (a.places n).get? d = some r ∧ ((a.gathering k).rooms.receive r).1 = some notice
  | .put _ o => ∀ e, o ≠ .event (.change e)

/-- Marks that come one after the other, each when it can. -/
def Valid : Attendance → List Mark → Prop
  | _, [] => True
  | a, m :: marks => a.Fits m ∧ (a.next m).Valid marks

variable {a : Attendance} {m : Mark} {n n' : Nat} {d d' : Day} {k k' : String} {r : Receiver}

/-- More marks after some marks. -/
theorem after_append (a : Attendance) (marks marks' : List Mark) :
    a.after (marks ++ marks') = (a.after marks).after marks' :=
  List.foldl_append

/-- More marks after some marks can come if they can come then. -/
theorem valid_append {marks marks' : List Mark} :
    a.Valid (marks ++ marks') ↔ a.Valid marks ∧ (a.after marks).Valid marks' := by
  induction marks generalizing a with
  | nil => exact (and_iff_right trivial).symm
  | cons m marks ih =>
    rw [List.cons_append, Valid, Valid, ih, and_assoc]
    rfl

/-- The log is what was there and the marks that came. -/
theorem log_after (a : Attendance) (marks : List Mark) : (a.after marks).log = a.log ++ marks := by
  induction marks generalizing a with
  | nil => exact (List.append_nil _).symm
  | cons m marks ih =>
    refine (ih (a.next m)).trans ?_
    rw [next, List.append_assoc]
    rfl

/-- A connection keeps its tenant. -/
theorem tenant_next (fits : a.Fits m) (own : a.tenant n = some k) : (a.next m).tenant n = some k := by
  cases m with
  | opened k' n' =>
    have other : n ≠ n' := by
      rintro rfl
      cases fits.symm.trans own
    exact (Function.update_of_ne other _ _).trans own
  | left k' n' d' =>
    obtain ⟨-, ⟨r, there⟩, -⟩ := fits
    simpa [next, change, turn, there] using own
  | passed k' n' d' notice =>
    obtain ⟨-, -, r, there, -⟩ := fits
    simpa [next, change, turn, there] using own
  | _ => exact own

/-- The tenant where something happens. -/
theorem gathering_turn (a : Attendance) (k k' : String) (t : Gathering.Turn) :
    (a.turn k t).gathering k' = if k' = k then (a.gathering k).next t else a.gathering k' :=
  Function.update_apply _ _ _ _

/-- It happens in the rooms of the tenant or in others. -/
theorem gathering_turn_or (a : Attendance) (k k' : String) (t : Gathering.Turn) :
    k' = k ∧ (a.turn k t).gathering k' = (a.gathering k').next t ∨
      k' ≠ k ∧ (a.turn k t).gathering k' = a.gathering k' := by
  rw [gathering_turn]
  by_cases same : k' = k
  · rw [if_pos same, same]
    exact .inl ⟨rfl, rfl⟩
  · rw [if_neg same]
    exact .inr ⟨same, rfl⟩

/-- A connection that leaves a room gives its place back. -/
theorem next_left (there : (a.places n).get? d = some r) (k : String) :
    a.next (.left k n d) =
      { a.turn k (.leave r) with
        places := Function.update a.places n ((a.places n).erase d)
        arriving := Function.update a.arriving n none
        log := a.log ++ [.left k n d] } := by
  simp only [next, change, there]

/-- What is read for a connection is read for its place. -/
theorem next_passed (there : (a.places n).get? d = some r) (k : String) (notice : Notice) :
    a.next (.passed k n d notice) =
      { a.turn k (.receive r) with log := a.log ++ [.passed k n d notice] } := by
  simp only [next, change, there]

/-! ## Places and members -/

/-- **The members of the rooms are the connections that have a place there.** -/
structure Sound (a : Attendance) : Prop where
  /-- What is known of who listens in the rooms of a tenant. -/
  gathered : ∀ k, (a.gathering k).Sound
  /-- A place belongs to a member, of the room of that day. -/
  member : ∀ {n d r}, (a.places n).get? d = some r →
    r.day = d ∧ ∃ k, a.tenant n = some k ∧ r ∈ (a.gathering k).receivers
  /-- A member is the place of a connection. -/
  owner : ∀ {k r}, r ∈ (a.gathering k).receivers →
    ∃ n, a.tenant n = some k ∧ (a.places n).get? r.day = some r
  /-- No two connections have one place. -/
  alone : ∀ {n n' k d r}, a.tenant n = some k → a.tenant n' = some k →
    (a.places n).get? d = some r → (a.places n').get? d = some r → n = n'
  /-- No connection has more places than it may. -/
  few : ∀ n, (a.places n).size ≤ Service.maxRooms

/-- At first there is nobody. -/
theorem sound_empty : Sound {} where
  gathered _ := Gathering.sound_empty
  member h := nomatch h
  owner h := nomatch h
  alone _ _ h := nomatch h
  few _ := Nat.zero_le _

/-- The places of all connections after one of them entered a room. -/
theorem get?_places_entered (a : Attendance) (k : String) (n n' : Nat) (d d' : Day) :
    ((a.next (.entered k n d)).places n').get? d' =
      if n' = n ∧ d' = d then some ((a.gathering k).rooms.join d).1 else (a.places n').get? d' := by
  show (Function.update a.places n _ n').get? d' = _
  rw [Function.update_apply]
  by_cases same : n' = n
  · simp [same, SortedMap.get?_insert_eq]
  · simp [same]

/-- The places of all connections after one of them left a room. -/
theorem get?_places_left (there : (a.places n).get? d = some r) (k : String) (n' : Nat) (d' : Day) :
    ((a.next (.left k n d)).places n').get? d' =
      if n' = n ∧ d' = d then none else (a.places n').get? d' := by
  rw [next_left there]
  show (Function.update a.places n _ n').get? d' = _
  rw [Function.update_apply]
  by_cases same : n' = n
  · simp [same, SortedMap.get?_erase_eq]
  · simp [same]

/-- The members of all rooms after a connection entered one. -/
theorem receivers_entered (a : Attendance) (k k' : String) (n : Nat) (d : Day) :
    ((a.next (.entered k n d)).gathering k').receivers =
      if k' = k then (a.gathering k).receivers ++ [((a.gathering k).rooms.join d).1]
      else (a.gathering k').receivers := by
  show ((a.turn k (.join d)).gathering k').receivers = _
  rw [gathering_turn]
  split
  · exact (a.gathering k).receivers_join d
  · rfl

/-- The members of all rooms after a connection left one. -/
theorem receivers_left (there : (a.places n).get? d = some r) (k k' : String) :
    ((a.next (.left k n d)).gathering k').receivers =
      if k' = k then (a.gathering k).receivers.filter (· ≠ r) else (a.gathering k').receivers := by
  rw [next_left there]
  show ((a.turn k (.leave r)).gathering k').receivers = _
  rw [gathering_turn]
  split
  · exact (a.gathering k).receivers_leave r
  · rfl

namespace Sound

/-- Another place of the tenant belongs to another member. -/
theorem receiver_ne (sound : a.Sound) {r' : Receiver} (own : a.tenant n = some k)
    (own' : a.tenant n' = some k) (there : (a.places n).get? d = some r)
    (there' : (a.places n').get? d' = some r') (apart : ¬ (n' = n ∧ d' = d)) : r' ≠ r := by
  rintro rfl
  obtain ⟨rfl, -⟩ := sound.member there'
  obtain ⟨day, -⟩ := sound.member there
  subst day
  exact apart ⟨sound.alone own' own there' there, rfl⟩

/-- A tenant's rooms stay in order, whatever happens in them. -/
theorem gathered_turn (sound : a.Sound) (k : String) (t : Gathering.Turn) (k' : String) :
    ((a.turn k t).gathering k').Sound := by
  rw [gathering_turn]
  split
  · exact (sound.gathered k).next t
  · exact sound.gathered k'

/-- Something happens in the rooms by which nobody comes or goes. -/
theorem of_turn (sound : a.Sound) {b : Attendance} {t : Gathering.Turn}
    (gathering : b.gathering = (a.turn k t).gathering)
    (same : ((a.gathering k).next t).receivers = (a.gathering k).receivers)
    (tenant : b.tenant = a.tenant) (places : b.places = a.places) : b.Sound := by
  have receivers : ∀ k', (b.gathering k').receivers = (a.gathering k').receivers := by
    intro k'
    rw [gathering, gathering_turn]
    split
    · rename_i eq
      rw [same, eq]
    · rfl
  refine ⟨fun k' => gathering ▸ sound.gathered_turn k t k', ?_, ?_, ?_, ?_⟩
  · intro n d r there
    rw [places] at there
    obtain ⟨day, k', own, listens⟩ := sound.member there
    exact ⟨day, k', tenant ▸ own, receivers k' ▸ listens⟩
  · intro k' r listens
    rw [receivers] at listens
    rw [tenant, places]
    exact sound.owner listens
  · intro n n' k' d r own own' there there'
    rw [tenant] at own own'
    rw [places] at there there'
    exact sound.alone own own' there there'
  · intro n
    rw [places]
    exact sound.few n

/-- A connection begins. -/
theorem opened (sound : a.Sound) (new : a.tenant n = none) : (a.next (.opened k n)).Sound := by
  have old : ∀ {n' k'}, a.tenant n' = some k' → (a.next (.opened k n)).tenant n' = some k' :=
    tenant_next (m := .opened k n) new
  have kept : ∀ {n' d r}, (a.places n').get? d = some r → ∃ k', a.tenant n' = some k' :=
    fun there => let ⟨_, k', own, _⟩ := sound.member there; ⟨k', own⟩
  refine ⟨sound.gathered, ?_, ?_, ?_, sound.few⟩
  · intro n' d r there
    obtain ⟨day, k', own, listens⟩ := sound.member there
    exact ⟨day, k', old own, listens⟩
  · intro k' r listens
    obtain ⟨n', own, there⟩ := sound.owner listens
    exact ⟨n', old own, there⟩
  · intro n₁ n₂ k' d r own₁ own₂ there₁ there₂
    obtain ⟨k₁, own₁'⟩ := kept there₁
    obtain ⟨k₂, own₂'⟩ := kept there₂
    obtain rfl := Option.some.inj ((old own₁').symm.trans own₁)
    obtain rfl := Option.some.inj ((old own₂').symm.trans own₂)
    exact sound.alone own₁' own₂' there₁ there₂

/-- A connection enters a room. -/
theorem entered (sound : a.Sound) (fits : a.Fits (.entered k n d)) :
    (a.next (.entered k n d)).Sound := by
  obtain ⟨own, -, outside, room⟩ := fits
  let r := ((a.gathering k).rooms.join d).1
  have places := a.get?_places_entered k n
  have receivers := fun k' => a.receivers_entered k k' n d
  -- the number of the new place has not been given out, so no connection has it
  have fresh : r ∉ (a.gathering k).receivers := fun mem =>
    Nat.lt_irrefl _ ((sound.gathered k).lt_joined mem)
  have unplaced : ∀ n', a.tenant n' = some k → (a.places n').get? d ≠ some r := by
    intro n' own' there
    obtain ⟨-, k', own'', listens⟩ := sound.member there
    obtain rfl := Option.some.inj (own'.symm.trans own'')
    exact fresh listens
  refine ⟨fun k' => sound.gathered_turn k (.join d) k', ?_, ?_, ?_, ?_⟩
  · intro n' d' r' there
    rw [places] at there
    split at there
    · rename_i same
      obtain ⟨rfl, rfl⟩ := same
      obtain rfl := Option.some.inj there
      refine ⟨rfl, k, own, ?_⟩
      rw [receivers, if_pos rfl]
      exact List.mem_append_right _ List.mem_cons_self
    · obtain ⟨day, k', own', listens⟩ := sound.member there
      refine ⟨day, k', own', ?_⟩
      rw [receivers]
      split
      · rename_i eq
        exact List.mem_append_left _ (eq ▸ listens)
      · exact listens
  · intro k' r' listens
    rw [receivers] at listens
    split at listens
    · rename_i eq
      subst eq
      rcases List.mem_append.1 listens with listens | listens
      · obtain ⟨n', own', there⟩ := sound.owner listens
        refine ⟨n', own', ?_⟩
        rw [places, if_neg, there]
        rintro ⟨rfl, day⟩
        rw [day, outside] at there
        cases there
      · obtain rfl := List.mem_singleton.1 listens
        refine ⟨n, own, ?_⟩
        rw [places]
        exact if_pos ⟨rfl, rfl⟩
    · rename_i other
      obtain ⟨n', own', there⟩ := sound.owner listens
      refine ⟨n', own', ?_⟩
      rw [places, if_neg, there]
      rintro ⟨rfl, -⟩
      exact other (Option.some.inj (own'.symm.trans own))
  · intro n₁ n₂ k' d' r' own₁ own₂ there₁ there₂
    rw [places] at there₁ there₂
    split at there₁ <;> split at there₂
    · rename_i same₁ same₂
      exact same₁.1.trans same₂.1.symm
    · rename_i same₁ _
      obtain ⟨rfl, rfl⟩ := same₁
      obtain rfl := Option.some.inj there₁
      obtain rfl := Option.some.inj (own.symm.trans own₁)
      exact absurd there₂ (unplaced n₂ own₂)
    · rename_i _ same₂
      obtain ⟨rfl, rfl⟩ := same₂
      obtain rfl := Option.some.inj there₂
      obtain rfl := Option.some.inj (own.symm.trans own₂)
      exact absurd there₁ (unplaced n₁ own₁)
    · exact sound.alone own₁ own₂ there₁ there₂
  · intro n'
    show (Function.update a.places n _ n').size ≤ _
    rw [Function.update_apply]
    split
    · rw [SortedMap.size_insert outside]
      exact room
    · exact sound.few n'

/-- A connection leaves a room. -/
theorem left (sound : a.Sound) (own : a.tenant n = some k) (there : (a.places n).get? d = some r) :
    (a.next (.left k n d)).Sound := by
  have places := get?_places_left there k
  have gathering : (a.next (.left k n d)).gathering = (a.turn k (.leave r)).gathering := by
    rw [next_left there]
  have tenant : (a.next (.left k n d)).tenant = a.tenant := by
    rw [next_left there]
    rfl
  have receivers := receivers_left there k
  obtain ⟨rfl, -⟩ := sound.member there
  refine ⟨fun k' => gathering ▸ sound.gathered_turn k (.leave r) k', ?_, ?_, ?_, ?_⟩
  · intro n' d' r' there'
    rw [places] at there'
    split at there'
    · cases there'
    · rename_i other
      obtain ⟨day, k', own', listens⟩ := sound.member there'
      refine ⟨day, k', tenant ▸ own', ?_⟩
      rw [receivers]
      split
      · -- another connection of the tenant, or another day: so it is another place
        rename_i eq
        subst eq
        exact List.mem_filter.2
          ⟨listens, decide_eq_true (sound.receiver_ne own own' there there' other)⟩
      · exact listens
  · intro k' r' listens
    rw [receivers] at listens
    rw [tenant]
    split at listens
    · rename_i eq
      subst eq
      obtain ⟨listens, ne⟩ := List.mem_filter.1 listens
      obtain ⟨n', own', there'⟩ := sound.owner listens
      refine ⟨n', own', ?_⟩
      rw [places, if_neg, there']
      rintro ⟨rfl, day⟩
      rw [day, there] at there'
      exact of_decide_eq_true ne (Option.some.inj there').symm
    · rename_i other
      obtain ⟨n', own', there'⟩ := sound.owner listens
      refine ⟨n', own', ?_⟩
      rw [places, if_neg, there']
      rintro ⟨rfl, -⟩
      exact other (Option.some.inj (own'.symm.trans own))
  · intro n₁ n₂ k' d' r' own₁ own₂ there₁ there₂
    rw [places] at there₁ there₂
    rw [tenant] at own₁ own₂
    split at there₁
    · cases there₁
    split at there₂
    · cases there₂
    exact sound.alone own₁ own₂ there₁ there₂
  · intro n'
    rw [next_left there]
    show (Function.update a.places n _ n').size ≤ _
    rw [Function.update_apply]
    split
    · exact Nat.le_trans (List.length_filter_le _ _) (sound.few n)
    · exact sound.few n'

/-- **Whatever mark comes.** -/
theorem next (sound : a.Sound) (fits : a.Fits m) : (a.next m).Sound := by
  cases m with
  | opened k n => exact sound.opened fits
  | entered k n d => exact sound.entered fits
  | welcomed n shot => exact ⟨sound.gathered, sound.member, sound.owner, sound.alone, sound.few⟩
  | left k n d =>
    obtain ⟨own, ⟨r, there⟩, -⟩ := fits
    exact sound.left own there
  | told k e => exact sound.of_turn (t := .emit e) rfl rfl rfl rfl
  | passed k n d notice =>
    obtain ⟨own, -, r, there, -⟩ := fits
    rw [next_passed there]
    exact sound.of_turn (t := .receive r) rfl ((a.gathering k).receivers_receive r) rfl rfl
  | put n o => exact ⟨sound.gathered, sound.member, sound.owner, sound.alone, sound.few⟩

/-- **Whatever marks come**, one after the other. -/
theorem after (sound : a.Sound) {marks : List Mark} (valid : a.Valid marks) :
    (a.after marks).Sound := by
  induction marks generalizing a with
  | nil => exact sound
  | cons m marks ih => exact ih (sound.next valid.1) valid.2

end Sound

end Attendance
end Holdfast
