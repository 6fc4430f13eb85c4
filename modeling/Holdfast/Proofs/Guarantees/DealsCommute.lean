import Holdfast.Proofs.Conduct.Indifference
import Holdfast.Proofs.Register.Deals

/-!
# Deals for different holders commute

Take any history in which one thing happens after the other and each connection is used by one holder
only, and two deals on different slots for claimants with different holders. Back to back, they come
to the same answers in both orders, and leave the same bookings and the same live texts with the same
deadlines (`World.deals_commute`). Only the versions of what both orders write are different, and what
is told to the rooms comes in another order.

Each deal decides on what the other one does not change and writes keys that the other one does not
(`Deal.upshot_eq`, `Deal.misses_upshot`), although both may look at the same hold.
-/

namespace Holdfast

/-- After the same writes there are the same texts under a key, with the same deadlines, if this was so
before. -/
theorem Store.content_writes {now : Nat} {s t : Store} {key : String} (writes : List Write)
    (same : (s.entries.get? key).map Entry.content = (t.entries.get? key).map Entry.content) :
    ((writes.foldl (apply now) s).entries.get? key).map Entry.content =
      ((writes.foldl (apply now) t).entries.get? key).map Entry.content := by
  rw [content_writes_eq, content_writes_eq, same]

/-- What is live under a key is told by the text and its deadline. -/
theorem Store.live_content {now : Nat} {s t : Store} {key : String}
    (same : (s.entries.get? key).map Entry.content = (t.entries.get? key).map Entry.content) :
    (s.live? now key).map Entry.content = (t.live? now key).map Entry.content := by
  have filtered : ∀ u : Store, (u.live? now key).map Entry.content =
      ((u.entries.get? key).map Entry.content).filter (now < ·.2) := by
    intro u
    unfold live?
    rw [Option.filter_map]
    rfl
  rw [filtered, filtered, same]

namespace Reservation

namespace Deal

variable {policy : Policy} {calendar : Calendar} {users : SessionId → HolderId} {w : World}
  {m : Register} {a b : Deal}

/-- **One deal after another one for another holder and slot** comes to what it would have come to
before. -/
theorem run_both (mirrors : w.Mirrors policy calendar m) (attempts : 1 ≤ policy.maxAttempts)
    (owned : m.Owned users) (slots : a.slot ≠ b.slot)
    (holders : a.claimant.holder ≠ b.claimant.holder) (proper_a : a.claimant.Proper users)
    (proper_b : b.claimant.Proper users) :
    ∃ metrics rooms, w.episodes policy [.call a.call, .call b.call] =
      ([some (a.upshot policy calendar w m).answer, some (b.upshot policy calendar w m).answer],
        { (b.upshot policy calendar w m).apply b.slot ((a.upshot policy calendar w m).apply a.slot w)
          with metrics, rooms }) := by
  obtain ⟨metrics, rooms, first⟩ := run_deal mirrors attempts a
  have mirrors' := mirrors_deal mirrors attempts a
  rw [first] at mirrors'
  obtain ⟨metrics', rooms', second⟩ := run_deal mirrors' attempts b
  have same : b.upshot policy calendar
      { (a.upshot policy calendar w m).apply a.slot w with metrics, rooms }
      (a.left policy calendar m) = b.upshot policy calendar w m := by
    refine upshot_eq proper_b owned (touched_left policy calendar m a) slots.symm holders.symm ?_
    intro key entry
    have touches : b.Touches users key := .inr (.inr entry)
    have missed : Write.Misses (a.upshot policy calendar w m).writes key :=
      misses_upshot proper_a owned (touches.disjoint slots.symm holders.symm)
    exact congrArg (fun e => (Option.map _ e).bind SlotId.read?) (Store.live?_writes_ne missed)
  rw [same] at second
  refine ⟨metrics', rooms', ?_⟩
  rw [World.episodes_call first, World.episodes_call second]
  rfl

variable (policy calendar w) in
/-- The writes of two deals, in both orders, leave the same text under each key, with the same
deadline. -/
theorem content_both (owned : m.Owned users) (slots : a.slot ≠ b.slot)
    (holders : a.claimant.holder ≠ b.claimant.holder) (proper_a : a.claimant.Proper users)
    (proper_b : b.claimant.Proper users) (key : String) :
    (((w.write (a.upshot policy calendar w m).writes).write
        (b.upshot policy calendar w m).writes).store.entries.get? key).map Entry.content =
      (((w.write (b.upshot policy calendar w m).writes).write
        (a.upshot policy calendar w m).writes).store.entries.get? key).map Entry.content := by
  by_cases mine : a.Touches users key
  · -- The writes of the second deal miss the key, which therefore was as it is.
    have missed : Write.Misses (b.upshot policy calendar w m).writes key :=
      misses_upshot proper_b owned (mine.disjoint slots holders)
    rw [World.write_store, Store.get?_writes_ne missed]
    refine Store.content_writes _ ?_
    rw [World.write_store, Store.get?_writes_ne missed]
  · have missed : Write.Misses (a.upshot policy calendar w m).writes key :=
      misses_upshot proper_a owned mine
    rw [World.write_store (w.write _), World.write_store (w.write _), Store.get?_writes_ne missed]
    refine Store.content_writes _ ?_
    rw [World.write_store, Store.get?_writes_ne missed]

/-- Without any attempt, a deal only looks. -/
theorem looks_call (never : policy.maxAttempts = 0) (d : Deal) : (d.call.program policy).Looks := by
  obtain ⟨slot, claimant, dealing⟩ := d
  cases dealing with
  | acquire ttl => exact (looks_acquireFor never slot claimant ttl).bind fun _ => trivial
  | release => exact (looks_release never slot claimant).bind fun _ => trivial
  | commit => exact (looks_commit never slot claimant).bind fun _ => trivial

/-- A deal is no listing and no pass over what ran out. -/
theorem indifferent (policy : Policy) (d : Deal) : (d.call.program policy).Indifferent := by
  obtain ⟨slot, claimant, dealing⟩ := d
  cases dealing <;> exact indifferent_call policy nofun nofun

/-- Two deals that only look come to what each of them comes to alone. -/
theorem run_idle (never : policy.maxAttempts = 0) (w : World) (a b : Deal) :
    ∃ metrics, w.episodes policy [.call a.call, .call b.call] =
      ([some (w.run (a.call.program policy)).1, some (w.run (b.call.program policy)).1],
        { w with metrics }) := by
  obtain ⟨metrics, first⟩ := World.run_of_looks (looks_call never a) w
  obtain ⟨metrics', second⟩ := World.run_of_looks (looks_call never b) { w with metrics }
  have alike : World.Alike { w with metrics } w := ⟨rfl, rfl, rfl, .refl _ _⟩
  have same := (b.indifferent policy _ _ alike).1
  have ran : w.run (a.call.program policy) =
      ((w.run (a.call.program policy)).1, { w with metrics }) := Prod.ext rfl first
  have ran' : World.run (b.call.program policy) { w with metrics } =
      ((w.run (b.call.program policy)).1, { w with metrics := metrics' }) := Prod.ext same second
  refine ⟨metrics', ?_⟩
  rw [World.episodes_call ran, World.episodes_call ran']
  rfl

end Deal

/-- **Two deals on different slots for different holders commute**, after any history in which one thing
happens after the other, and whoever acquires through a connection is its user: in both orders each
comes to the same answer, and the same is left. -/
theorem World.deals_commute {policy : Policy} {users : SessionId → HolderId} {start : World}
    (unused : start.store.entries = .empty) {history : List Episode}
    (keeps : ∀ t ∈ history, t.KeepsSlots)
    (proper : ∀ t ∈ history, ∀ c, t.claimant? = some c → c.Proper users) {a b : Deal}
    (slots : a.slot ≠ b.slot) (holders : a.claimant.holder ≠ b.claimant.holder)
    (proper_a : a.claimant.Proper users) (proper_b : b.claimant.Proper users) :
    ∃ (x y : Except Failure Answer) (ab ba : World),
      (start.episodes policy history).2.episodes policy [.call a.call, .call b.call] =
        ([some x, some y], ab) ∧
      (start.episodes policy history).2.episodes policy [.call b.call, .call a.call] =
        ([some y, some x], ba) ∧
      ab.SameContents ba := by
  obtain ⟨m, mirrors, kept⟩ : ∃ m : Register,
      (start.episodes policy history).2.Mirrors policy start.calendar m ∧
        ∀ slot h, m.holds.get? slot = some h →
          ∀ session, h.session = some session → h.owner = users session := by
    refine exists_register unused keeps fun t mem m kept slot h stems => ?_
    cases stems with
    | kept there => exact kept slot h there
    | renewed claims there own deadline =>
      intro session through
      rcases Option.or_eq_some_iff.1 through with mine | ⟨-, before⟩
      · exact own.trans (proper t mem _ claims session mine)
      · exact kept slot _ there session before
    | new claims known deadline => exact proper t mem _ claims
  have owned : m.Owned users := fun slot h live => kept slot h (Register.live?_eq_some_iff.1 live).1
  generalize (start.episodes policy history).2 = w at mirrors ⊢
  rcases Nat.eq_zero_or_pos policy.maxAttempts with never | attempts
  · obtain ⟨metrics, ab⟩ := Deal.run_idle never w a b
    obtain ⟨metrics', ba⟩ := Deal.run_idle never w b a
    exact ⟨_, _, _, _, ab, ba, rfl, rfl, fun _ => rfl⟩
  · obtain ⟨metrics, rooms, ab⟩ :=
      Deal.run_both mirrors attempts owned slots holders proper_a proper_b
    obtain ⟨metrics', rooms', ba⟩ :=
      Deal.run_both mirrors attempts owned slots.symm holders.symm proper_b proper_a
    refine ⟨_, _, _, _, ab, ba, ?_, rfl, fun key => ?_⟩
    · simp only [Upshot.apply]
      cases (a.upshot policy start.calendar w m).books <;>
        cases (b.upshot policy start.calendar w m).books <;> simp [Catalogue.book_comm]
    · have same := Deal.content_both policy start.calendar w owned slots holders proper_a proper_b key
      exact Store.live_content same

/-- Someone acquires a slot through a connection, renews the hold through another one and gives it up;
someone else acquires the slot. -/
def handing : List Episode :=
  [.call (.acquireForSession 1 ⟨"a"⟩ 1), .call (.acquireForSession 1 ⟨"a"⟩ 2),
    .call (.release 1 { holder := ⟨"a"⟩ }), .call (.acquire 1 { holder := ⟨"b"⟩ } 1000)]

/-- The world after that. -/
def World.handed : World := ((World.offering Run.openingDay [1, 2]).episodes {} handing).2

/-- The entry of the first connection still names the slot that someone else commits while the
connection is used for another one. -/
theorem World.deals_commute_handed :
    (World.offering Run.openingDay [1, 2]).store.entries = .empty ∧
      (∀ t ∈ handing, t.KeepsSlots) ∧
      (∀ t ∈ handing, ∀ c, t.claimant? = some c → c.session.isSome = true → c.holder = ⟨"a"⟩) ∧
      handed.names? (Key.session 1) = some 1 ∧
      ∃ (x y : Except Failure Answer) (ab ba : World),
        handed.episodes {} [.call (.acquire 2 { holder := ⟨"a"⟩, session := some 1 } 500),
          .call (.commit 1 { holder := ⟨"b"⟩ })] = ([some x, some y], ab) ∧
        handed.episodes {} [.call (.commit 1 { holder := ⟨"b"⟩ }),
          .call (.acquire 2 { holder := ⟨"a"⟩, session := some 1 } 500)] = ([some y, some x], ba) ∧
        ab.SameContents ba := by
  let users : SessionId → HolderId := fun _ => ⟨"a"⟩
  let a : Deal := ⟨2, { holder := ⟨"a"⟩, session := some 1 }, .acquire 500⟩
  let b : Deal := ⟨1, { holder := ⟨"b"⟩ }, .commit⟩
  have unused : (World.offering Run.openingDay [1, 2]).store.entries = .empty := rfl
  have keeps : ∀ t ∈ handing, t.KeepsSlots := by simp [handing, Episode.KeepsSlots]
  have used : ∀ t ∈ handing, ∀ c, t.claimant? = some c → c.session.isSome = true →
      c.holder = ⟨"a"⟩ := by
    simp [handing, Episode.claimant?, Call.claimant?]
  have proper : ∀ t ∈ handing, ∀ c, t.claimant? = some c → c.Proper users :=
    fun t mem c claims session through => used t mem c claims (Option.isSome_of_eq_some through)
  have proper_a : a.claimant.Proper users := fun _ _ => rfl
  have proper_b : b.claimant.Proper users := nofun
  refine ⟨unused, keeps, used, by decide +kernel, ?_⟩
  exact World.deals_commute unused keeps proper (a := a) (b := b) (by decide) (by decide) proper_a
    proper_b

end Reservation
end Holdfast
