import Holdfast.Proofs.Guarantees.Announcements
import Holdfast.Proofs.Guarantees.CommitTruth

/-!
# In which order events are announced

A call first does something to a slot and then announces it, and between the two anything may happen.
So the events of a slot need not come in the order of what they tell of: a call that waits with its
announcement can be overtaken by a later change that is announced meanwhile. But that is all that can
go wrong. Every event tells of one thing that its call did, nothing is announced twice, and a call that
is over has announced what it did, except for a commit that failed after its booking.

What an event says besides is no guess either. The day of a hold and that of a booking are those of the
record that the call had looked up, and the day of a release is that of the hold that the call had
looked at; the transaction of a release takes just this hold away. There is one exception: a hold that
came after the call had begun to watch the slot may be gone again when the transaction is committed.
Then the release is announced though it took nothing away (`Tells.missed`).

All that is particular to the program is in the accounts (`exists_accounts`, `accounts_of_over`). In
which order the events come follows from the accounts alone.

* `Acts`: a call does something to a slot that is to be announced.
* `Tells`: an event tells of what a call did at a move, with the grounds for what it says.
* `Accounts`: an event is announced at a move, and what it tells of was done at another one.
* `events_follow_changes`: each event with what it tells of, and in which order they come.
* `events_out_of_order`: a run in which the last event of a slot tells of its first change.
-/

namespace Holdfast.Reservation.Run

open Program

variable {ρ : Run} {p n i : Nat} {c : Call} {slot : SlotId} {e : RoomEvent}

/-! ## What is done to slots -/

/-- **At a move a call does something to a slot that is to be announced**: its transaction to write a
hold or to take one away is committed, it books the slot, or it evicts a hold. -/
inductive Acts (ρ : Run) (p i : Nat) : SlotId → Prop where
  | places {c : Call} {slot : SlotId} {claimant : Claimant} {w : Watch} {hold : HoldRecord}
    {ttl : Nat} (call : ρ.call? p i = some c) (acquires : c.Acquires slot claimant)
    (commits : ρ.Commits p i w (placing ρ.policy hold slot claimant.holder ttl)) : Acts ρ p i slot
  | removes {c : Call} {slot : SlotId} {claimant : Claimant} {w : Watch} {stale : List String}
    (call : ρ.call? p i = some c) (releases : c.Releases slot claimant)
    (commits : ρ.Commits p i w (.delete (Key.hold slot) :: stale.map .delete)) : Acts ρ p i slot
  | books {slot : SlotId} (books : ρ.Books p i slot) : Acts ρ p i slot
  | evicts {hold : HoldRecord} (performs : ρ.Performs p i (.store .evict))
    (evicted : (Key.hold hold.slot, hold.encode) ∈ ((ρ.store p).evict (ρ.clock p)).1) :
    Acts ρ p i hold.slot

/-- A call that does something to a slot hears so. -/
theorem Acts.changes (acts : ρ.Acts p i slot) : ∃ c h, ρ.call? p i = some c ∧
    ρ.Hears p i h.effect h.reply ∧ Changes ρ.policy c h slot := by
  cases acts with
  | @places c slot claimant w hold ttl call acquires commits =>
    exact ⟨c, committed w _, call, commits.hears, .held w hold ttl acquires⟩
  | @removes c slot claimant w stale call releases commits =>
    exact ⟨c, committed w _, call, commits.hears, .released w stale releases⟩
  | @books slot books =>
    obtain ⟨n₀, c, -, -, call, deed⟩ := deed books.1.hears
    refine ⟨c, booking slot, call, books_iff_hears.1 books, ?_⟩
    cases deed with
    | spare h => cases h
    | book commits f early late fenced => exact .booked commits
  | @evicts hold performs evicted =>
    obtain ⟨n₀, c, -, -, call, deed⟩ := deed performs.hears
    refine ⟨c, ⟨.store .evict, .ok ((ρ.store p).evict (ρ.clock p)).1⟩, call, performs.hears, ?_⟩
    cases deed with
    | spare h => cases h
    | evict reaps => exact .expired reaps evicted

/-- Only one call goes on with a move. -/
theorem hears_unique {j : Nat} {x y : Effect} {reply : x.Reply} {reply' : y.Reply}
    (hears : ρ.Hears p i x reply) (hears' : ρ.Hears p j y reply') : i = j := by
  obtain ⟨-, ⟨move, -⟩ | ⟨fault, move, -⟩⟩ := hears <;>
    obtain ⟨-, ⟨move', -⟩ | ⟨fault', move', -⟩⟩ := hears'
  · exact Move.proceed.inj (move.symm.trans move')
  · cases move.symm.trans move'
  · cases move.symm.trans move'
  · exact (Move.fail.inj (move.symm.trans move')).1

/-- A call does something to a slot once. -/
theorem acts_once {p' : Nat} (acts : ρ.Acts p i slot) (acts' : ρ.Acts p' i slot) : p' = p := by
  obtain ⟨c, h, call, hears, change⟩ := acts.changes
  obtain ⟨c', h', call', hears', change'⟩ := acts'.changes
  obtain rfl := call?_unique call call'
  rcases Nat.lt_trichotomy p p' with lt | same | gt
  · have follows := mayFollow_of_hears call' slot lt hears hears'
    exact absurd ⟨change', .inl change⟩ follows.1
  · exact same.symm
  · have follows := mayFollow_of_hears call slot gt hears' hears
    exact absurd ⟨change, .inl change'⟩ follows.1

/-! ## What events tell of -/

/-- **An event tells of what a call did at a move**, on the grounds that the call had for that. -/
inductive Tells (ρ : Run) (p i : Nat) : RoomEvent → Prop where
  /-- It wrote a hold, on the record of the slot that it had looked up. -/
  | held {n₀ : Nat} {c : Call} {slot : SlotId} {claimant : Claimant} {w : Watch}
    {hold : HoldRecord} {ttl : Nat} (begins : ρ.Begins n₀ i c) (acquires : c.Acquires slot claimant)
    (grounds : ρ.Placement n₀ p slot claimant w hold)
    (commits : ρ.Commits p i w (placing ρ.policy hold slot claimant.holder ttl)) :
    Tells ρ p i (.held slot grounds.record.day (secondsUp ttl))
  /-- It took away the hold that it had looked at, which the claimant owned. -/
  | released {n₀ : Nat} {c : Call} {slot : SlotId} {claimant : Claimant} {w : Watch}
    {hold : HoldRecord} {writes : List Write} (begins : ρ.Begins n₀ i c)
    (releases : c.Releases slot claimant) (owned : hold.isOwnedBy claimant = true)
    (grounds : ρ.Removal n₀ p slot w hold writes) (commits : ρ.Commits p i w writes)
    (there : ρ.Holds p slot hold) : Tells ρ p i (.released slot hold.day)
  /-- It would have taken that hold away, but the slot has none any more. -/
  | missed {n₀ : Nat} {c : Call} {slot : SlotId} {claimant : Claimant} {w : Watch}
    {hold : HoldRecord} {writes : List Write} (begins : ρ.Begins n₀ i c)
    (releases : c.Releases slot claimant) (owned : hold.isOwnedBy claimant = true)
    (grounds : ρ.Removal n₀ p slot w hold writes) (commits : ρ.Commits p i w writes)
    (gone : ρ.Unheld p slot) : Tells ρ p i (.released slot hold.day)
  /-- It booked the slot, whose record it had looked up. -/
  | booked {n₀ a : Nat} {claimant : Claimant} {record : SlotRecord} {slot : SlotId}
    (begins : ρ.Begins n₀ i (.commit slot claimant)) (begun : n₀ < a) (early : a < p)
    (known : (ρ.catalogue a).get? slot = some record) (books : ρ.Books p i slot) :
    Tells ρ p i (.booked slot record.day)
  /-- It evicted a hold. -/
  | expired {hold : HoldRecord} (performs : ρ.Performs p i (.store .evict))
    (evicted : (Key.hold hold.slot, hold.encode) ∈ ((ρ.store p).evict (ρ.clock p)).1) :
    Tells ρ p i (.released hold.slot hold.day)

/-- Whoever takes away a hold on its grounds acts on the slot. -/
theorem Removal.acts {n₀ : Nat} {claimant : Claimant} {w : Watch} {hold : HoldRecord}
    {writes : List Write} (grounds : ρ.Removal n₀ p slot w hold writes) (begins : ρ.Begins n₀ i c)
    (releases : c.Releases slot claimant) (commits : ρ.Commits p i w writes) : ρ.Acts p i slot := by
  have later : n₀ < p := grounds.begun_lt.trans grounds.looked_lt
  rw [grounds.writes_eq] at commits
  exact .removes (call?_of_begins begins later) releases commits

/-- What is told of was done. -/
theorem Tells.acts (tells : ρ.Tells p i e) : ρ.Acts p i e.slot := by
  cases tells with
  | held begins acquires grounds commits =>
    have later := grounds.begun_lt.trans (grounds.admitted_lt.trans
      (grounds.unfenced_lt.trans grounds.looked_lt))
    exact .places (call?_of_begins begins later) acquires commits
  | released begins releases owned grounds commits there =>
    exact grounds.acts begins releases commits
  | missed begins releases owned grounds commits gone => exact grounds.acts begins releases commits
  | booked begins begun early known books => exact .books books
  | expired performs evicted => exact .evicts performs evicted

/-- **Whatever is announced tells of what the call did before.** -/
theorem tells_of_announces (announces : ρ.Performs n i (.announce e)) :
    ∃ p < n, ρ.Tells p i e := by
  obtain ⟨n₀, c, p, before, begins, -, grounds⟩ := announcing_of_performs announces
  refine ⟨p, before, ?_⟩
  cases grounds with
  | held acquires grounds isRecord commits =>
    have told := Tells.held begins acquires grounds commits
    rwa [isRecord] at told
  | released releases owned grounds commits =>
    have le := Nat.le_of_lt grounds.looked_lt
    rcases unheld_or_holds grounds.covers le commits.2 with gone | stays
    · exact .missed begins releases owned grounds commits gone
    · exact .released begins releases owned grounds commits (stays _ grounds.held)
  | booked commits begun early known books =>
    subst commits
    exact .booked begins begun early known books
  | @expired key text hold reaps performs evicted isHold decoded =>
    obtain ⟨entry, there, rfl, -⟩ := Store.mem_evict.1 evicted
    obtain ⟨stood, rfl, text_eq⟩ := (written there).hold_of_isHold isHold
    rw [text_eq, stood.decode?_encode] at decoded
    obtain rfl := Option.some.inj decoded
    exact .expired performs (text_eq ▸ evicted)

/-! ## What was done and its announcement -/

/-- **An event is announced at a move, and what it tells of was done at another one**, by the same
call. The call did nothing else to the slot, and announced nothing else of it. -/
structure Accounts (ρ : Run) (slot : SlotId) (p n i : Nat) (e : RoomEvent) : Prop where
  isSlot : e.slot = slot
  before : p < n
  tells : ρ.Tells p i e
  announces : ρ.Performs n i (.announce e)
  sole_act : ∀ p', ρ.Acts p' i slot → p' = p
  sole_event : ∀ n' e', ρ.Performs n' i (.announce e') → e'.slot = slot → n' = n

/-- What is accounted for was done to the slot. -/
theorem Accounts.acts (accounts : ρ.Accounts slot p n i e) : ρ.Acts p i slot :=
  accounts.isSlot ▸ accounts.tells.acts

/-- A call announces one event of a slot. -/
theorem announces_once {n' : Nat} {e' : RoomEvent} (announces : ρ.Performs n i (.announce e))
    (announces' : ρ.Performs n' i (.announce e')) (isSlot : e.slot = slot)
    (isSlot' : e'.slot = slot) : n' = n := by
  obtain ⟨c, call⟩ := ρ.call?_of_hears i announces.hears
  obtain ⟨c', call'⟩ := ρ.call?_of_hears i announces'.hears
  obtain rfl := call?_unique call call'
  have tells := tellsOf_announce.2 isSlot
  have tells' := tellsOf_announce.2 isSlot'
  rcases Nat.lt_trichotomy n n' with lt | same | gt
  · have follows : MayFollow ρ.policy c' slot ⟨.announce e, ()⟩ ⟨.announce e', ()⟩ :=
      mayFollow_of_hears call' slot lt announces.hears announces'.hears
    exact absurd ⟨tells, tells'⟩ follows.2
  · exact same.symm
  · have follows : MayFollow ρ.policy c' slot ⟨.announce e', ()⟩ ⟨.announce e, ()⟩ :=
      mayFollow_of_hears call slot gt announces'.hears announces.hears
    exact absurd ⟨tells', tells⟩ follows.2

/-- **Whatever is announced of a slot is accounted for.** -/
theorem exists_accounts (announces : ρ.Performs n i (.announce e)) (isSlot : e.slot = slot) :
    ∃ p, ρ.Accounts slot p n i e := by
  obtain ⟨p, before, tells⟩ := tells_of_announces announces
  have acts : ρ.Acts p i slot := isSlot ▸ tells.acts
  exact ⟨p, isSlot, before, tells, announces, fun p' acts' => acts_once acts acts',
    fun n' e' announces' isSlot' => announces_once announces announces' isSlot isSlot'⟩

/-- **Whatever a call that is over did it announced**, unless it is a commit that failed. -/
theorem accounts_of_over {k : Nat} {r : Except Failure Answer} (acts : ρ.Acts p i slot)
    (early : p < k) (finished : ρ.Over k i r) :
    (∃ n e, n < k ∧ ρ.Accounts slot p n i e) ∨
      ∃ claimant failure, ρ.call? k i = some (.commit slot claimant) ∧ r = .error failure := by
  obtain ⟨c, h, call, hears, change⟩ := acts.changes
  have later := ρ.call?_of_le i call (Nat.le_of_lt early)
  rcases announces_of_changes later finished early hears change with
    ⟨⟨slot', claimant, rfl⟩, failure, rfl⟩ | ⟨n, e, lt, announces, isSlot⟩
  · obtain rfl : slot = slot' := change.of_commit.2
    exact .inr ⟨claimant, failure, later, rfl⟩
  · obtain ⟨p', accounts⟩ := exists_accounts announces isSlot
    obtain rfl := accounts.sole_act p acts
    exact .inl ⟨n, e, lt, accounts⟩

/-- Two events of a slot are the same if and only if they tell of the same. -/
theorem Accounts.same {p' n' i' : Nat} {e' : RoomEvent} (accounts : ρ.Accounts slot p n i e)
    (accounts' : ρ.Accounts slot p' n' i' e') : n = n' ↔ p = p' := by
  constructor
  · rintro rfl
    obtain rfl := hears_unique accounts.announces.hears accounts'.announces.hears
    exact accounts'.sole_act p accounts.acts
  · rintro rfl
    obtain ⟨c, h, -, hears, -⟩ := accounts.acts.changes
    obtain ⟨c', h', -, hears', -⟩ := accounts'.acts.changes
    obtain rfl := hears_unique hears hears'
    exact accounts'.sole_event n e accounts.announces accounts.isSlot

/-! ## The order of the events -/

/-- The events of the slot that are announced before a move come in the order of what they tell of. -/
def InOrder (ρ : Run) (slot : SlotId) (k : Nat) : Prop :=
  ∀ p n i e p' n' i' e', ρ.Accounts slot p n i e → ρ.Accounts slot p' n' i' e' →
    n < n' → n' < k → p < p'

/-- Before a move, something was done to the slot and announced while something earlier waited for its
announcement. -/
def Overtaken (ρ : Run) (slot : SlotId) (k : Nat) : Prop :=
  ∃ p n i e p' n' i' e', ρ.Accounts slot p n i e ∧ ρ.Accounts slot p' n' i' e' ∧
    p < p' ∧ p' < n' ∧ n' < n ∧ n < k

/-- **The order of the events of a slot.** Every event tells of one thing that the same call did to the
slot before; the call did nothing else to it, and announces nothing else of it. A call that is over has
announced what it did, or it is a commit that failed. The events come in the order of what they tell of
if and only if none of this waited for its announcement while something later was done and announced.
So what is later than that which the last event tells of is not announced yet, or it was announced
while the other one waited. -/
theorem events_follow_changes (ρ : Run) (slot : SlotId) :
    (∀ n i e, ρ.Performs n i (.announce e) → e.slot = slot → ∃ p, ρ.Accounts slot p n i e) ∧
    (∀ p i k r, ρ.Acts p i slot → p < k → ρ.Over k i r →
      (∃ n e, n < k ∧ ρ.Accounts slot p n i e) ∨
        ∃ claimant failure, ρ.call? k i = some (.commit slot claimant) ∧ r = .error failure) ∧
    ∀ k, (ρ.InOrder slot k ↔ ¬ ρ.Overtaken slot k) ∧
      ∀ p n i e, ρ.Accounts slot p n i e → n < k →
        (∀ n' i' e', ρ.Performs n' i' (.announce e') → e'.slot = slot → n' < k → n' ≤ n) →
        ∀ p' i', ρ.Acts p' i' slot → p < p' →
          (∀ n' e', ρ.Accounts slot p' n' i' e' → k ≤ n') ∨
            ∃ n' e', ρ.Accounts slot p' n' i' e' ∧ n' < n := by
  refine ⟨fun n i e => exists_accounts, fun p i k r => accounts_of_over, fun k => ⟨⟨?_, ?_⟩, ?_⟩⟩
  · rintro inOrder ⟨p, n, i, e, p', n', i', e', accounts, accounts', lt, -, before, early⟩
    exact Nat.lt_asymm lt (inOrder _ _ _ _ _ _ _ _ accounts' accounts before early)
  · intro steady p n i e p' n' i' e' accounts accounts' before early
    have ne : p ≠ p' := fun same => Nat.ne_of_lt before ((accounts.same accounts').2 same)
    refine Nat.lt_of_le_of_ne (Nat.le_of_not_lt fun lt => ?_) ne
    exact steady ⟨p', n', i', e', p, n, i, e, accounts', accounts, lt, accounts.before, before, early⟩
  · intro p n i e accounts early last p' i' acts lt
    by_cases announced : ∃ n' e', ρ.Accounts slot p' n' i' e' ∧ n' < k
    · obtain ⟨n', e', accounts', early'⟩ := announced
      have le := last n' i' e' accounts'.announces accounts'.isSlot early'
      have ne : n' ≠ n := fun same => Nat.ne_of_gt lt ((accounts'.same accounts).1 same)
      exact .inr ⟨n', e', accounts', Nat.lt_of_le_of_ne le ne⟩
    · exact .inl fun n' e' accounts' => Nat.le_of_not_lt fun early' =>
        announced ⟨n', e', accounts', early'⟩

/-- A slot is acquired; before that is announced, its holder releases the slot. -/
def overtaking : Run :=
  offering [1]
    ([.begin (.acquire 1 { holder := ⟨"a"⟩ } 120000)] ++ List.replicate 7 (.proceed 0) ++
      [.begin (.release 1 { holder := ⟨"a"⟩ })] ++ List.replicate 7 (.proceed 1) ++
      List.replicate 2 (.proceed 0))

theorem overtaking_announces :
    overtaking.Performs 15 1 (.announce (.released 1 openingDay)) ∧
      overtaking.Performs 17 0 (.announce (.held 1 openingDay 120)) :=
  ⟨⟨rfl, by decide +kernel⟩, rfl, by decide +kernel⟩

theorem overtaking_acts : overtaking.Acts 7 0 1 ∧ overtaking.Acts 13 1 1 := by
  have placed : overtaking.Commits 7 0
      ⟨[("hold:1", none), ("booked:1", none), ("holder:a", none)]⟩
      (placing {} (.new ⟨1, openingDay, false⟩ { holder := ⟨"a"⟩ }) 1 ⟨"a"⟩ 120000) :=
    ⟨⟨rfl, by decide +kernel⟩, by decide +kernel⟩
  have removed : overtaking.Commits 13 1 ⟨[("hold:1", some 1), ("holder:a", some 2)]⟩
      (.delete (Key.hold 1) :: ["holder:a"].map .delete) :=
    ⟨⟨rfl, by decide +kernel⟩, by decide +kernel⟩
  have acquire : overtaking.call? 7 0 = some (.acquire 1 { holder := ⟨"a"⟩ } 120000) := by
    decide +kernel
  have release : overtaking.call? 13 1 = some (.release 1 { holder := ⟨"a"⟩ }) := by
    decide +kernel
  exact ⟨.places acquire (.alone 1 _ _) placed, .removes release (.alone 1 _) removed⟩

/-- The release is made and announced while the acquire waits for its announcement. -/
theorem overtaking_overtaken :
    (∃ p, overtaking.Accounts 1 p 15 1 (.released 1 openingDay)) ∧
      (∃ p, overtaking.Accounts 1 p 17 0 (.held 1 openingDay 120)) ∧
      ¬ overtaking.InOrder 1 18 := by
  obtain ⟨told, -, order⟩ := events_follow_changes overtaking 1
  obtain ⟨p', released⟩ := told 15 1 _ overtaking_announces.1 rfl
  obtain ⟨p, held⟩ := told 17 0 _ overtaking_announces.2 rfl
  refine ⟨⟨p', released⟩, ⟨p, held⟩, fun inOrder => (order 18).1.1 inOrder ?_⟩
  obtain rfl := held.sole_act 7 overtaking_acts.1
  obtain rfl := released.sole_act 13 overtaking_acts.2
  exact ⟨7, 17, 0, _, 13, 15, 1, _, held, released, by decide, by decide, by decide, by decide⟩

/-- The events of a slot can come in another order than the changes that they tell of. -/
theorem events_out_of_order : ¬ ∀ (ρ : Run) (slot : SlotId) (k : Nat), ρ.InOrder slot k := by
  intro always
  obtain ⟨p', released⟩ := exists_accounts overtaking_announces.1 rfl
  obtain ⟨p, held⟩ := exists_accounts overtaking_announces.2 rfl
  have order : p' < p :=
    always overtaking 1 18 _ _ _ _ _ _ _ _ released held (by decide) (by decide)
  obtain rfl := held.sole_act 7 overtaking_acts.1
  obtain rfl := released.sole_act 13 overtaking_acts.2
  exact absurd order (by decide)

end Holdfast.Reservation.Run
