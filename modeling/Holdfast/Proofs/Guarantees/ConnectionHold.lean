import Holdfast.Proofs.Register.Connections

/-!
# One hold for each connection

Calls come one after the other, with time, other days to be held, bookings past all holds and changes
of the rooms in between. Each connection is used by one holder only, and what is acquired through it
is acquired by the operation for that (`Call.Minds`). Then in every state that can be reached
(`World.Reached`) a connection has at most one live hold, which its entry leads to; and the end of a
connection takes this hold away and no other one (`Reached.endSession_takes_own_hold`).

The invariant is that the world mirrors a register, and in it live holds can be found from their
connections (`Reached.links`).
-/

namespace Holdfast.Reservation

/-- **The call minds whose connection it is**: who acquires through a connection, or ends it, is the
user of the connection, and other acquires are not through a connection. -/
def Call.Minds (users : SessionId → HolderId) : Call → Prop
  | acquire _ claimant _ => claimant.session = none
  | acquireForSession _ holder session => holder = users session
  | endSession holder session => holder = users session
  | _ => True

/-- **What can be reached** by calls that come one after the other. The slots that there are stay the
same. -/
inductive World.Reached (policy : Policy) (users : SessionId → HolderId) (start : World) : World → Prop
    where
  | start : Reached policy users start start
  | call {w : World} (reached : Reached policy users start w) (c : Call) (minds : c.Minds users) :
    Reached policy users start (w.run (c.program policy)).2
  | outside {w : World} (reached : Reached policy users start w) (move : Move)
    (fixed : ∀ r, move ≠ .insert r) : Reached policy users start (w.drift move)

/-- The live hold on a slot, with its deadline. -/
def World.hold? (w : World) (slot : SlotId) : Option (HoldRecord × Nat) :=
  (w.store.live? w.clock (Key.hold slot)).bind fun e =>
    (HoldRecord.decode? e.value).map (·, e.deadline)

/-- A live hold on the slot is recorded for the connection. -/
def World.Records (w : World) (session : SessionId) (slot : SlotId) : Prop :=
  ∃ hold deadline, w.hold? slot = some (hold, deadline) ∧ hold.session = some session

namespace World.Mirrors

variable {policy : Policy} {calendar : Calendar} {users : SessionId → HolderId} {w : World}
  {m : Register} (mirrors : w.Mirrors policy calendar m)

include mirrors

/-- The live hold on a slot is the register's. -/
theorem hold?_eq (slot : SlotId) :
    w.hold? slot = (m.live? slot).map fun h => (h.record slot, h.deadline) := by
  have same := mirrors.live?_hold slot
  unfold hold?
  cases there : w.store.live? w.clock (Key.hold slot) with
  | none =>
    rw [there, Option.map_none, eq_comm, Option.map_eq_none_iff] at same
    rw [same]
    rfl
  | some e =>
    rw [there, Option.map_some, eq_comm, Option.map_eq_some_iff] at same
    obtain ⟨h, live, content⟩ := same
    obtain ⟨value, deadline⟩ := Prod.mk.inj content
    rw [live, Option.bind_some, ← value, (h.record slot).decode?_encode, ← deadline]
    rfl

/-- A hold is recorded for a connection if the register says so. -/
theorem records_iff {session : SessionId} {slot : SlotId} :
    w.Records session slot ↔ ∃ h, m.live? slot = some h ∧ h.session = some session := by
  unfold Records
  rw [mirrors.hold?_eq slot]
  constructor
  · rintro ⟨hold, deadline, there, connected⟩
    obtain ⟨h, live, content⟩ := Option.map_eq_some_iff.1 there
    obtain ⟨rfl, rfl⟩ := Prod.mk.inj content
    exact ⟨h, live, connected⟩
  · rintro ⟨h, live, connected⟩
    exact ⟨h.record slot, h.deadline, by rw [live]; rfl, connected⟩

/-! ## One step -/

/-- **A call keeps links.** -/
theorem links_call (links : w.Links users m) (attempts : 1 ≤ policy.maxAttempts) {c : Call}
    (minds : c.Minds users) :
    ∃ m', (w.run (c.program policy)).2.Mirrors policy calendar m' ∧
      (w.run (c.program policy)).2.Links users m' := by
  -- What a call makes of the value of its operation changes nothing.
  have value : ∀ {α : Type} {p : Program Failure α} (f : α → Answer),
      (∃ m', (w.run p).2.Mirrors policy calendar m' ∧ (w.run p).2.Links users m') →
      ∃ m', (w.run (p >>= fun a => pure (f a))).2.Mirrors policy calendar m' ∧
        (w.run (p >>= fun a => pure (f a))).2.Links users m' := by
    intro α p f kept
    rwa [run_map]
  have look : ∀ {α : Type} {p : Program Failure α}, p.Looks →
      ∃ m', (w.run p).2.Mirrors policy calendar m' ∧ (w.run p).2.Links users m' := by
    intro α p looks
    obtain ⟨metrics, same⟩ := run_of_looks looks w
    rw [same]
    exact ⟨m, mirrors.beside _ _, links.of_same rfl fun _ _ => id⟩
  cases c with
  | acquire slot claimant ttl =>
    refine value _ ⟨_, (mirrors.follows_acquireFor attempts slot claimant ttl).2,
      mirrors.links_acquireFor links attempts slot claimant ttl ?_ ?_⟩
    · intro session connected
      rw [minds] at connected
      cases connected
    · intro session connected
      rw [minds] at connected
      cases connected
  | release slot claimant =>
    exact value _ ⟨_, (mirrors.follows_release attempts slot claimant).2,
      mirrors.links_release links attempts slot claimant⟩
  | commit slot claimant =>
    exact value _ ⟨_, (mirrors.follows_commit attempts slot claimant).2,
      mirrors.links_commit links attempts slot claimant⟩
  | acquireForSession slot holder session =>
    obtain rfl : holder = users session := minds
    exact value _ (mirrors.links_acquireForSession links attempts slot session)
  | endSession holder session =>
    obtain rfl : holder = users session := minds
    obtain ⟨o, w', m', run, mirrors', links', -⟩ := mirrors.run_endSession links attempts session
    refine value _ ⟨m', ?_⟩
    rw [run]
    exact ⟨mirrors', links'⟩
  | sessionSlot session => exact value _ (look (looks_readIndex _))
  | status slot => exact value _ (look (looks_status slot))
  | listHolds => exact value _ (look looks_listHolds)
  | snapshot day => exact value _ (look (looks_snapshot day))
  | reap =>
    refine value _ ⟨m.reap.2, ?_⟩
    rw [run_attempt]
    exact ⟨mirrors.follows_reap.2, mirrors.links_reap links⟩

/-- What happens outside keeps links, if the slots stay the same. -/
theorem links_drift (links : w.Links users m) (move : Move) (fixed : ∀ r, move ≠ .insert r) :
    ∃ m', (w.drift move).Mirrors policy calendar m' ∧ (w.drift move).Links users m' := by
  cases move with
  | wait milliseconds =>
    refine ⟨_, mirrors.wait milliseconds, links.of_same rfl fun slot h live => ?_⟩
    obtain ⟨there, early⟩ := Register.live?_eq_some_iff.1 live
    exact Register.live?_eq_some_iff.2 ⟨there, Nat.lt_of_le_of_lt (Nat.le_add_right _ _) early⟩
  | regulate a => exact ⟨_, mirrors.regulate a, links.of_same rfl fun _ _ => id⟩
  | insert r => exact absurd rfl (fixed r)
  | book slot =>
    refine ⟨_, (mirrors.book slot).2, links.of_same rfl fun slot' h live => ?_⟩
    unfold Register.book at live
    split at live
    · exact live
    · split at live <;> exact live
  | rooms h => exact ⟨m, mirrors.beside _ _, links.of_same rfl fun _ _ => id⟩
  | _ => exact ⟨m, mirrors, links⟩

end World.Mirrors

namespace World.Reached

variable {policy : Policy} {users : SessionId → HolderId} {start w : World}

/-- **In every state that can be reached, live holds can be found from their connections.** -/
theorem links (attempts : 1 ≤ policy.maxAttempts) (unused : start.store.entries = .empty)
    (reached : World.Reached policy users start w) :
    ∃ m, w.Mirrors policy start.calendar m ∧ w.Links users m := by
  induction reached with
  | start => exact ⟨start.register, .of_unused unused, .of_unheld rfl⟩
  | call reached c minds ih =>
    obtain ⟨m, mirrors, links⟩ := ih
    exact mirrors.links_call links attempts minds
  | outside reached move fixed ih =>
    obtain ⟨m, mirrors, links⟩ := ih
    exact mirrors.links_drift links move fixed

/-- **One hold for each connection, and its end takes that away.** Whatever was done before, one call
after the other: at most one live hold is recorded for a connection, and then the connection's entry
is live and names the slot. When the connection ends, this comes to an outcome. All live holds stay
but the one that is recorded for the connection, none is added, and no live entry is left for the
connection. -/
theorem endSession_takes_own_hold (attempts : 1 ≤ policy.maxAttempts)
    (unused : start.store.entries = .empty) (reached : World.Reached policy users start w)
    (session : SessionId) :
    (∀ slot slot', w.Records session slot → w.Records session slot' → slot = slot') ∧
      (∀ slot, w.Records session slot →
        w.store.read? w.clock (Key.session session) = some (SlotId.text slot)) ∧
      ∃ o w', w.run (endSession policy (users session) session) = (.ok o, w') ∧
        (∀ slot hold deadline, w'.hold? slot = some (hold, deadline) ↔
          w.hold? slot = some (hold, deadline) ∧ hold.session ≠ some session) ∧
        w'.store.read? w'.clock (Key.session session) = none := by
  obtain ⟨m, mirrors, links⟩ := reached.links attempts unused
  refine ⟨?_, ?_, ?_⟩
  · intro slot slot' here there
    obtain ⟨h, live, connected⟩ := mirrors.records_iff.1 here
    obtain ⟨h', live', connected'⟩ := mirrors.records_iff.1 there
    exact links.slot_eq mirrors live connected live' connected'
  · intro slot here
    obtain ⟨h, live, connected⟩ := mirrors.records_iff.1 here
    exact links.read? mirrors live connected
  · obtain ⟨o, w', m', run, mirrors', -, forgotten, left⟩ :=
      mirrors.run_endSession links attempts session
    refine ⟨o, w', run, fun slot hold deadline => ?_, forgotten⟩
    rw [mirrors.hold?_eq, mirrors'.hold?_eq, Option.map_eq_some_iff, Option.map_eq_some_iff]
    constructor
    · rintro ⟨h, live, content⟩
      obtain ⟨live, other⟩ := (left slot h).1 live
      obtain ⟨rfl, -⟩ := id (Prod.mk.inj content)
      exact ⟨⟨h, live, content⟩, other⟩
    · rintro ⟨⟨h, live, content⟩, other⟩
      obtain ⟨rfl, -⟩ := id (Prod.mk.inj content)
      exact ⟨h, (left slot h).2 ⟨live, other⟩, content⟩

/-- The world in which someone acquired a slot through a connection and then renewed the hold through
another one, while someone else has a hold on another slot. -/
def reconnected : World :=
  [Call.acquireForSession 1 ⟨"a"⟩ 1, .acquire 2 { holder := ⟨"b"⟩ } 1000,
    .acquireForSession 1 ⟨"a"⟩ 2].foldl (fun w c => (w.run (c.program {})).2)
    (.offering Run.openingDay [1, 2])

/-- The end of the other connection takes the hold away, and leaves the one of someone else. -/
theorem endSession_reconnected :
    1 ≤ ({} : Policy).maxAttempts ∧ (World.offering Run.openingDay [1, 2]).store.entries = .empty ∧
      World.Reached {} (fun _ => ⟨"a"⟩) (.offering Run.openingDay [1, 2]) reconnected ∧
      reconnected.Records 2 1 ∧
      ∃ o w', reconnected.run (endSession {} ⟨"a"⟩ 2) = (.ok o, w') ∧
        (∀ slot, ¬ w'.Records 2 slot) ∧ (w'.hold? 2).isSome = true := by
  let users : SessionId → HolderId := fun _ => ⟨"a"⟩
  have acquired : (Call.acquireForSession 1 ⟨"a"⟩ 1).Minds users := rfl
  have apart : (Call.acquire 2 { holder := ⟨"b"⟩ } 1000).Minds users := rfl
  have renewed : (Call.acquireForSession 1 ⟨"a"⟩ 2).Minds users := rfl
  have reached : World.Reached {} users (.offering Run.openingDay [1, 2]) reconnected :=
    .call (.call (.call .start _ acquired) _ apart) _ renewed
  have recorded : (reconnected.hold? 1).any (·.1.session = some 2) = true := by decide +kernel
  have other : (reconnected.hold? 2).any (·.1.session = none) = true := by decide +kernel
  obtain ⟨⟨hold, deadline⟩, there, connected⟩ := (Option.any_eq_true _ _).1 recorded
  obtain ⟨⟨hold', deadline'⟩, there', unconnected⟩ := (Option.any_eq_true _ _).1 other
  obtain ⟨-, -, o, w', run, left, -⟩ := reached.endSession_takes_own_hold (by decide) rfl 2
  refine ⟨by decide, rfl, reached, ⟨hold, deadline, there, of_decide_eq_true connected⟩, o, w', run,
    ?_, ?_⟩
  · rintro slot ⟨hold, deadline, there, connected⟩
    exact ((left slot hold deadline).1 there).2 connected
  · have none_recorded : hold'.session = none := of_decide_eq_true unconnected
    rw [(left 2 hold' deadline').2 ⟨there', by simp [none_recorded]⟩]
    rfl

end World.Reached
end Holdfast.Reservation
