import Holdfast.Proofs.Register.Announcing

/-!
# Connections in a world that mirrors a register

A hold may be recorded for a connection. If each connection is used by one holder only, and acquires
through it give up first what was held through it, then for as long as such a hold lasts it is the
connection's user who owns it, and the connection's entry names its slot (`World.Links`). So there is
no second live hold for the connection (`Links.slot_eq`).

An entry may be stale otherwise: a hold that is renewed through another connection leaves the entry of
the first one behind. But whoever takes entries away takes those that name a slot without a live hold,
and none of these is needed (`Links.of_spares`).
-/

namespace Holdfast.Reservation

/-- **Live holds can be found from their connections**: the connection's user owns the hold, and the
connection's entry names the slot, with the hold's deadline. -/
structure World.Links (users : SessionId → HolderId) (w : World) (m : Register) : Prop where
  owner : ∀ slot h session, m.live? slot = some h → h.session = some session →
    h.owner = users session
  entry : ∀ slot h session, m.live? slot = some h → h.session = some session →
    (w.store.entries.get? (Key.session session)).map Entry.content =
      some (SlotId.text slot, h.deadline)

/-- No live hold but one on the slot is recorded for the connection. -/
def Register.Confines (m : Register) (session : SessionId) (slot : SlotId) : Prop :=
  ∀ slot' h, m.live? slot' = some h → h.session = some session → slot' = slot

/-- No live hold is recorded for the connection. -/
def Register.Frees (m : Register) (session : SessionId) : Prop :=
  ∀ slot h, m.live? slot = some h → h.session ≠ some session

namespace World.Links

variable {policy : Policy} {calendar : Calendar} {users : SessionId → HolderId} {w w' : World}
  {m m' : Register} {slot slot' : SlotId} {h h' : Held} {session : SessionId}

/-- A register without holds. -/
theorem of_unheld (unheld : m.holds = .empty) : w.Links users m := by
  have nothing : ∀ slot h, m.live? slot ≠ some h := by
    intro slot h live
    have there := (Register.live?_eq_some_iff.1 live).1
    rw [unheld] at there
    cases there
  exact ⟨fun slot h _ live => absurd live (nothing slot h),
    fun slot h _ live => absurd live (nothing slot h)⟩

section reading

variable (links : w.Links users m) (mirrors : w.Mirrors policy calendar m)

include links mirrors

/-- The entry of a connection tells the slot of its live hold. -/
theorem read? (live : m.live? slot = some h) (connected : h.session = some session) :
    w.store.read? w.clock (Key.session session) = some (SlotId.text slot) := by
  obtain ⟨e, there, content⟩ := Option.map_eq_some_iff.1 (links.entry slot h session live connected)
  obtain ⟨value, deadline⟩ := Prod.mk.inj content
  have early : w.clock < e.deadline := by
    rw [deadline, mirrors.clock]
    exact (Register.live?_eq_some_iff.1 live).2
  rw [Store.read?, Store.live?_eq_some_iff.2 ⟨there, early⟩, Option.map_some, value]

/-- The entry of a connection names the slot of its live hold. -/
theorem names? (live : m.live? slot = some h) (connected : h.session = some session) :
    w.names? (Key.session session) = some slot := by
  rw [World.names?, links.read? mirrors live connected]
  exact SlotId.read?_text slot

/-- **A connection has one live hold at most.** -/
theorem slot_eq (live : m.live? slot = some h) (connected : h.session = some session)
    (live' : m.live? slot' = some h') (connected' : h'.session = some session) : slot = slot' := by
  have names := links.names? mirrors live connected
  rw [links.names? mirrors live' connected'] at names
  exact (Option.some.inj names).symm

/-- If the entry of a connection names a slot, a live hold of the connection is there. -/
theorem confines (names : w.names? (Key.session session) = some slot) :
    m.Confines session slot := by
  intro slot' h live connected
  rw [links.names? mirrors live connected] at names
  exact Option.some.inj names

/-- If the entry of a connection names no slot, the connection has no live hold. -/
theorem frees (names : w.names? (Key.session session) = none) : m.Frees session := by
  intro slot h live connected
  rw [links.names? mirrors live connected] at names
  cases names

end reading

/-! ## What links survive -/

/-- Holds go, and the entries of the connections of those that are left stay. -/
theorem of_left (links : w.Links users m)
    (left : ∀ slot h, m'.live? slot = some h → m.live? slot = some h)
    (stays : ∀ slot h session, m'.live? slot = some h → h.session = some session →
      w'.store.entries.get? (Key.session session) = w.store.entries.get? (Key.session session)) :
    w'.Links users m' where
  owner slot h session live := links.owner slot h session (left slot h live)
  entry slot h session live connected := by
    rw [stays slot h session live connected]
    exact links.entry slot h session (left slot h live) connected

/-- Writes other than to the entries of connections change nothing. -/
theorem of_same (links : w.Links users m) (store : w'.store = w.store)
    (left : ∀ slot h, m'.live? slot = some h → m.live? slot = some h) : w'.Links users m' :=
  links.of_left left fun _ _ _ _ _ => by rw [store]

section writing

variable (links : w.Links users m) (mirrors : w.Mirrors policy calendar m)

include links mirrors

/-- **Entries are taken away that name a slot, and no live hold is left on it.** -/
theorem of_spares (slot : SlotId)
    (left : ∀ slot' h, m'.live? slot' = some h → slot' ≠ slot ∧ m.live? slot' = some h)
    (spares : ∀ session, w.names? (Key.session session) ≠ some slot →
      w'.store.entries.get? (Key.session session) = w.store.entries.get? (Key.session session)) :
    w'.Links users m' := by
  refine links.of_left (fun slot' h live => (left slot' h live).2) ?_
  intro slot' h session live connected
  obtain ⟨other, before⟩ := left slot' h live
  refine spares session ?_
  rw [links.names? mirrors before connected]
  exact fun same => other (Option.some.inj same)

/-- What ran out is taken away. -/
theorem evict :
    { w with store := (w.store.evict w.clock).2 }.Links users m.reap.2 := by
  refine links.of_left (fun slot h left => Register.live?_reap left) ?_
  intro slot h session left connected
  have live := Register.live?_reap left
  obtain ⟨e, there, content⟩ := Option.map_eq_some_iff.1 (links.entry slot h session live connected)
  have early : e.isLive w.clock = true := by
    rw [Entry.isLive, decide_eq_true_iff, (Prod.mk.inj content).2, mirrors.clock]
    exact (Register.live?_eq_some_iff.1 live).2
  rw [Store.evict, SortedMap.get?_filter, there, Option.filter_some, if_pos early]

/-- **An acquire writes a hold**, whose connection has no live hold on another slot. -/
theorem keep {ttl : Nat} (deadline : h.deadline = m.clock + ttl)
    (owner : ∀ session, h.session = some session → h.owner = users session)
    (alone : ∀ session, h.session = some session → m.Confines session slot) :
    (w.write (placing policy (h.record slot) slot h.owner ttl)).Links users (m.keep slot h) where
  owner slot' h' session kept connected := by
    rcases Register.live?_keep kept with ⟨rfl, rfl⟩ | ⟨-, live⟩
    · exact owner session connected
    · exact links.owner slot' h' session live connected
  entry slot' h' session kept connected := by
    rw [write_store]
    rcases Register.live?_keep kept with ⟨rfl, rfl⟩ | ⟨other, live⟩
    · have told : (h'.record slot').session = some session := connected
      obtain ⟨v, there⟩ := @get?_placing_session w.clock w.store policy _ slot' h'.owner ttl session told
      rw [there, mirrors.clock, ← deadline]
      rfl
    · have untouched : Write.Misses (placing policy (h.record slot) slot h.owner ttl)
          (Key.session session) := by
        refine misses_placing_of_ne (Key.hold_ne_session slot session)
          (fun _ => Key.holder_ne_session h.owner session) ?_
        intro session' own same
        obtain rfl := Key.session_inj same
        exact other (alone session' own slot' h' live connected)
      rw [Store.get?_writes_ne untouched]
      exact links.entry slot' h' session live connected

end writing
end World.Links

namespace World.Mirrors

open Program

variable {policy : Policy} {calendar : Calendar} {users : SessionId → HolderId} {w : World}
  {m : Register} (mirrors : w.Mirrors policy calendar m) (links : w.Links users m)
  (attempts : 1 ≤ policy.maxAttempts)

include mirrors links attempts

/-! ## Operations -/

/-- An acquire keeps links, if its connection is its holder's and has no live hold on another slot. -/
theorem links_acquireFor (slot : SlotId) (claimant : Claimant) (ttl : Nat)
    (proper : ∀ session, claimant.session = some session → claimant.holder = users session)
    (alone : ∀ session, claimant.session = some session → m.Confines session slot) :
    (w.run (acquireFor policy slot claimant ttl)).2.Links users
      (m.acquireFor policy calendar slot claimant ttl).2 := by
  obtain ⟨metrics, rooms, run⟩ := mirrors.run_acquireFor attempts slot claimant ttl
  rw [run]
  unfold Register.acquireFor
  cases m.openDay calendar slot with
  | error e => exact links.of_same rfl fun _ _ => id
  | ok day =>
    have claimed := m.claimed policy slot day claimant ttl
    have settled : (w.settle policy slot (m.claim policy slot day claimant ttl).1).Links users
        (m.claim policy slot day claimant ttl).2 := by
      generalize m.claim policy slot day claimant ttl = claim at claimed ⊢
      obtain ⟨o, m'⟩ := claim
      cases claimed with
      | refused c => exact links
      | renewed old live own =>
        let renewed : Held :=
          { old with session := claimant.session.or old.session, deadline := m.clock + ttl }
        -- The connection is the claimant's, or still the one that the hold had.
        have either : ∀ session, renewed.session = some session →
            claimant.session = some session ∨ old.session = some session := by
          intro session connected
          rcases Option.or_eq_some_iff.1 connected with mine | ⟨-, before⟩
          · exact .inl mine
          · exact .inr before
        refine links.keep mirrors (h := renewed) rfl ?_ ?_
        · intro session connected
          rcases either session connected with mine | before
          · exact own.trans (proper session mine)
          · exact links.owner slot old session live before
        · intro session connected
          rcases either session connected with mine | before
          · exact alone session mine
          · exact fun slot' h' live' connected' =>
              links.slot_eq mirrors live' connected' live before
      | new unheld _ =>
        exact links.keep mirrors (h := ⟨claimant.holder, claimant.session, day, m.clock + ttl⟩) rfl
          proper alone
    exact settled.of_same rfl fun _ _ => id

omit mirrors links attempts in
/-- Deletes of entries that name a slot spare the entry of a connection that does not. -/
theorem misses_stale {slot : SlotId} (c : Claimant) {session : SessionId}
    (other : w.names? (Key.session session) ≠ some slot) :
    Write.Misses ((w.stale slot c).map .delete) (Key.session session) :=
  .deletes fun mem => other (mem_stale.1 mem).2

/-- A release keeps links. -/
theorem links_release (slot : SlotId) (claimant : Claimant) :
    (w.run (release policy slot claimant)).2.Links users (m.release slot claimant).2 := by
  obtain ⟨metrics, rooms, run⟩ := mirrors.run_release attempts slot claimant
  rw [run]
  have released := m.released slot claimant
  generalize m.release slot claimant = done at released ⊢
  obtain ⟨o, m'⟩ := done
  cases released with
  | noHold unheld =>
    refine links.of_spares mirrors slot (fun slot' h live => ⟨?_, live⟩) ?_
    · rintro rfl
      rw [unheld] at live
      cases live
    · exact fun session other => Store.get?_writes_ne (misses_stale _ other)
  | notOwner h live foreign => exact links.of_same rfl fun _ _ => id
  | released h live owned =>
    refine links.of_spares mirrors slot (fun slot' h' left => Register.live?_drop left) ?_
    exact fun session other => Store.get?_writes_ne
      (.cons (Key.hold_ne_session slot session) (misses_stale _ other))

/-- A commit keeps links. -/
theorem links_commit (slot : SlotId) (claimant : Claimant) :
    (w.run (commit policy slot claimant)).2.Links users (m.commit calendar slot claimant).2 := by
  obtain ⟨metrics, rooms, run⟩ := mirrors.run_commit attempts slot claimant
  rw [run]
  have committed := m.committed calendar slot claimant
  generalize m.commit calendar slot claimant = done at committed ⊢
  obtain ⟨r, m'⟩ := done
  cases committed with
  | failed e => exact links
  | noHold => exact links
  | notOwner => exact links
  | committed known free live owned =>
    refine links.of_spares mirrors slot (fun slot' h' left => Register.live?_drop left) ?_
    exact fun session other => Store.get?_writes_ne (.cons (Key.booked_ne_session slot session)
      (.cons (Key.hold_ne_session slot session) (misses_stale _ other)))

omit attempts in
/-- **After its slot is released for its user, a connection has no live hold.** -/
theorem frees_release {slot : SlotId} {session : SessionId}
    (names : w.names? (Key.session session) = some slot) :
    (m.release slot { holder := users session, session := some session }).2.Frees session := by
  have confines := links.confines mirrors names
  have released := m.released slot { holder := users session, session := some session }
  generalize m.release slot _ = done at released ⊢
  obtain ⟨o, m'⟩ := done
  intro slot' h live connected
  cases released with
  | noHold unheld =>
    obtain rfl := confines slot' h live connected
    rw [unheld] at live
    cases live
  | notOwner h' live' foreign =>
    obtain rfl := confines slot' h live connected
    obtain rfl := Option.some.inj (live'.symm.trans live)
    exact foreign ⟨links.owner slot' h' session live connected, .inr connected.symm⟩
  | released h' live' owned =>
    obtain ⟨other, before⟩ := Register.live?_drop live
    exact other (confines slot' h before connected)

omit attempts in
/-- The release of its slot takes the live hold of a connection away, and no other one. -/
theorem live?_release_iff {slot slot' : SlotId} {session : SessionId} {h : Held}
    (names : w.names? (Key.session session) = some slot) :
    (m.release slot { holder := users session, session := some session }).2.live? slot' = some h ↔
      m.live? slot' = some h ∧ h.session ≠ some session := by
  have frees := mirrors.frees_release links names
  have released := m.released slot { holder := users session, session := some session }
  generalize m.release slot _ = done at released frees ⊢
  obtain ⟨o, m'⟩ := done
  cases released with
  | noHold unheld => exact ⟨fun live => ⟨live, frees slot' h live⟩, And.left⟩
  | notOwner h' live' foreign => exact ⟨fun live => ⟨live, frees slot' h live⟩, And.left⟩
  | released h' live' owned =>
    refine ⟨fun left => ⟨(Register.live?_drop left).2, frees slot' h left⟩, fun ⟨live, other⟩ => ?_⟩
    refine Register.live?_drop_of_ne ?_ live
    rintro rfl
    obtain rfl := Option.some.inj (live'.symm.trans live)
    rcases owned.2 with none_given | same
    · cases none_given
    · exact other same.symm

/-! ## Operations of connections -/

/-- **An acquire through a connection keeps links**, by its user: what else the connection holds is
released first. -/
theorem links_acquireForSession (slot : SlotId) (session : SessionId) :
    ∃ m', (w.run (acquireForSession policy slot (users session) session)).2.Mirrors policy calendar
        m' ∧ (w.run (acquireForSession policy slot (users session) session)).2.Links users m' := by
  let claimant : Claimant := { holder := users session, session := some session }
  have index : Key.session session ∈ indexKeys (users session) (some session) := by simp [indexKeys]
  have acquires : ∀ (w₁ : World) (m₁ : Register), w₁.Mirrors policy calendar m₁ →
      w₁.Links users m₁ → m₁.Confines session slot →
      ∃ m', (w₁.run (acquire policy slot claimant)).2.Mirrors policy calendar m' ∧
        (w₁.run (acquire policy slot claimant)).2.Links users m' := by
    intro w₁ m₁ mirrors₁ links₁ confines
    refine ⟨_, (mirrors₁.follows_acquireFor attempts slot claimant policy.ttl).2,
      mirrors₁.links_acquireFor links₁ attempts slot claimant policy.ttl ?_ ?_⟩
    · rintro _ ⟨⟩
      rfl
    · rintro _ ⟨⟩
      exact confines
  unfold acquireForSession sessionSlot
  rw [run_seq (mirrors.legible.run_readIndex index)]
  cases names : w.names? (Key.session session) with
  | none =>
    have frees := links.frees mirrors names
    exact acquires w m mirrors links fun slot' h live connected =>
      absurd connected (frees slot' h live)
  | some previous =>
    by_cases same : previous = slot
    · subst same
      simp only [ne_eq, not_true, if_false]
      exact acquires w m mirrors links (links.confines mirrors names)
    · simp only [ne_eq, same, not_false_eq_true, if_true]
      rw [run_seq (run_attempt_eq (release policy previous claimant) w)]
      have frees := mirrors.frees_release links names
      exact acquires _ _ (mirrors.follows_release attempts previous claimant).2
        (mirrors.links_release links attempts previous claimant)
        fun slot' h live connected => absurd connected (frees slot' h live)

/-- **The end of a connection** comes to an outcome. It takes the live hold of the connection away and
no other one, and nothing is left that names a slot for the connection. -/
theorem run_endSession (session : SessionId) :
    ∃ o w' m', w.run (endSession policy (users session) session) = (.ok o, w') ∧
      w'.Mirrors policy calendar m' ∧ w'.Links users m' ∧
      w'.store.read? w'.clock (Key.session session) = none ∧
      ∀ slot h, m'.live? slot = some h ↔ m.live? slot = some h ∧ h.session ≠ some session := by
  let claimant : Claimant := { holder := users session, session := some session }
  have index : Key.session session ∈ indexKeys (users session) (some session) := by simp [indexKeys]
  unfold endSession sessionSlot
  rw [run_seq (mirrors.legible.run_readIndex index)]
  cases names : w.names? (Key.session session) with
  | none =>
    have frees := links.frees mirrors names
    refine ⟨none, w, m, rfl, mirrors, links, ?_, ?_⟩
    · exact mirrors.legible.read?_of_names?_eq_none index names
    · exact fun slot h => ⟨fun live => ⟨live, frees slot h live⟩, And.left⟩
  | some slot =>
    dsimp only
    have released := mirrors.follows_release attempts slot claimant
    have links₁ := mirrors.links_release links attempts slot claimant
    have frees := mirrors.frees_release links names
    rw [run_seq released.run]
    refine ⟨some (m.release slot claimant).1, _, (m.release slot claimant).2, rfl,
      released.2.forget_session session, ?_, ?_, ?_⟩
    · refine links₁.of_left (fun _ _ => id) ?_
      intro slot' h session' live connected
      refine SortedMap.get?_erase_ne _ fun same => ?_
      obtain rfl := Key.session_inj same
      exact frees slot' h live connected
    · exact Option.map_eq_none_iff.2 (Store.live?_remove_self _ _ _)
    · exact fun slot' h => mirrors.live?_release_iff links names

omit attempts in
/-- A pass over what ran out keeps links. -/
theorem links_reap : (w.run reap).2.Links users m.reap.2 := by
  obtain ⟨metrics, rooms, passed⟩ := run_reap w
  rw [passed]
  exact (links.evict mirrors).of_same rfl fun _ _ => id

end World.Mirrors
end Holdfast.Reservation
