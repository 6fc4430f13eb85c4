import Holdfast.Proofs.Conduct.Contents
import Holdfast.Proofs.Guarantees.Announcements
import Holdfast.Proofs.Guarantees.HoldRemoval
import Holdfast.Proofs.Store.Scans

/-!
# What is announced of a slot after its booking

When the booking of a slot is announced, its commit has marked, booked and cleared the slot, so no
hold on it is ever written or found again. But an announcement comes later than what it announces.
And a hold that runs out between the mark and the clearing is not cleared: the clearing looks for a
live hold only, and leaves the entry to the next pass over what expired, which announces that the
slot is released.

* `Belated`: the announcements that may still come, with what lies before them.
* `belated_after_booking`: there are no others.
* `released_after_booking`: a run in which a booked slot is announced to be released.
-/

namespace Holdfast.Reservation.Run

variable {ρ : Run} {n m k i j b f x p : Nat} {slot : SlotId} {claimant : Claimant} {c : Call}
  {day : Day} {event : RoomEvent} {e : Entry}

/-- **What may still be announced of a slot** that a commit marked at one move and cleared at
another: a hold that was written before the mark; the removal of a hold that its release found no
later than the clearing; and the end of a hold that had run out when the slot was cleared. -/
inductive Belated (ρ : Run) (slot : SlotId) (f x k j : Nat) : RoomEvent → Prop where
  | acquired {c : Call} {claimant : Claimant} {w : Watch} {hold : HoldRecord}
    {record : SlotRecord} {ttl a p : Nat} (call : ρ.call? k j = some c)
    (acquires : c.Acquires slot claimant) (known : (ρ.catalogue a).get? slot = some record)
    (order : a < p) (before : p < f)
    (commits : ρ.Commits p j w (placing ρ.policy hold slot claimant.holder ttl)) :
    Belated ρ slot f x k j (.held slot record.day (secondsUp ttl))
  | released {c : Call} {claimant : Claimant} {w : Watch} {hold : HoldRecord} {stale : List String}
    {looked p : Nat} (call : ρ.call? k j = some c) (releases : c.Releases slot claimant)
    (found : ρ.Holds looked slot hold) (owned : hold.isOwnedBy claimant = true)
    (early : looked ≤ x) (order : looked < p) (before : p < k)
    (commits : ρ.Commits p j w (.delete (Key.hold slot) :: List.map .delete stale)) :
    Belated ρ slot f x k j (.released slot hold.day)
  | expired {e : Entry} {hold : HoldRecord} {p : Nat} (call : ρ.call? k j = some .reap)
    (before : p < k) (evicts : ρ.Performs p j (.store .evict))
    (left : ρ.stored? p (Key.hold slot) = some e) (value : e.value = hold.encode)
    (ranOut : e.deadline ≤ ρ.clock x) : Belated ρ slot f x k j (.released slot hold.day)

/-! ## A commit that is through -/

/-- **A commit that has announced the booking of a slot** before a move: it marked, booked and
cleared the slot, it does nothing more, and since its mark nobody has written a hold on the slot. -/
structure Final (ρ : Run) (m i : Nat) (slot : SlotId) (f b x : Nat) : Prop where
  marked_lt : f < b
  booked_lt : b < x
  cleared_lt : x < m
  fences : ρ.Fences f i slot
  books : ρ.Books b i slot
  clears : ρ.Clears x i slot
  idle : ∀ n, m ≤ n → ρ.Idle n i
  closed : ∀ n, f ≤ n → ∀ claimant hold ttl, ¬ ρ.Places n slot claimant hold ttl

/-- Whoever announces a booking is through with it. -/
theorem final_of_announced (brief : ρ.Brief) (fresh : ρ.NeverReinserted)
    (announced : ρ.Performs m i (.announce (.booked slot day))) :
    ∃ f b x, ρ.Final (m + 1) i slot f b x := by
  obtain ⟨n₁, c, p, -, -, call, grounds⟩ := announcing_of_performs announced
  cases grounds with
  | @booked _ claimant _ _ commits begun early known books =>
    subst commits
    obtain ⟨day', -, returned⟩ := returned_of_announces call announced
    obtain ⟨n₀, r, -, high, begins, quiet, ⟨done⟩⟩ :=
      settled (ρ.call?_of_le i call (Nat.le_succ m)) returned
    have kept := done.kept quiet returned
    obtain ⟨f, b, x, begun, marked, booked, cleared, fences, books, clears, -⟩ := done
    refine ⟨f, b, x, marked, booked, by omega, fences, books, clears, ?_, ?_⟩
    · exact fun n le => ρ.idle_of_returned i (ρ.returned_of_le i returned le)
    · intro n le claimant' hold ttl places
      rcases Nat.eq_or_lt_of_le le with rfl | later
      · exact fences.not_places places
      · obtain ⟨-, begins', -, acquires, commits, grounds⟩ := places
        exact no_placement brief fresh begins begun fences marked books
          (fun k reply low high => kept n k reply (by omega) high) later acquires begins'
          commits.1.hears commits.2 grounds

namespace Final

/-- After the clearing there is no live hold. -/
theorem unheld (done : ρ.Final m i slot f b x) (later : x < n) : ρ.Unheld n slot := by
  have order₁ := done.marked_lt
  have order₂ := done.booked_lt
  refine unheld_of_clears done.clears later ?_
  intro k le j w writes text ttl commits puts
  obtain ⟨claimant, hold, places, -⟩ := places_of_puts commits puts
  exact done.closed k (by omega) _ _ _ places

/-- What stands under the key of the hold after the mark stood there at the mark. -/
theorem stored_before (done : ρ.Final m i slot f b x) (late : f ≤ n) (le : n ≤ p)
    (there : ρ.stored? p (Key.hold slot) = some e) : ρ.stored? n (Key.hold slot) = some e := by
  induction le with
  | refl => exact there
  | @step p le ih =>
    rcases hold_stored_succ there with before | ⟨claimant, hold, ttl, places, -, -⟩
    · exact ih before
    · exact absurd places (done.closed p (Nat.le_trans late le) _ _ _)

/-- **A hold that is found to have run out had run out when the slot was cleared**: a live one would
have been taken away. -/
theorem expired (done : ρ.Final m i slot f b x) (there : ρ.stored? p (Key.hold slot) = some e)
    (ranOut : e.deadline ≤ ρ.clock p) : e.deadline ≤ ρ.clock x := by
  have order₁ := done.marked_lt
  have order₂ := done.booked_lt
  rcases Nat.lt_or_ge x p with later | earlier
  · rcases done.clears with unheld | ⟨w, stale, commits⟩
    · have left := done.stored_before (by omega) (Nat.le_of_lt later) there
      refine Nat.le_of_not_lt fun early => ?_
      rw [Unheld, read?_eq_none_iff, live?_iff_stored.2 ⟨left, early⟩] at unheld
      cases unheld
    · have left := done.stored_before (show f ≤ x + 1 by omega) later there
      rw [stored?_of_commits commits, ← List.map_cons, Store.get?_deletes List.mem_cons_self] at left
      cases left
  · exact Nat.le_trans ranOut (ρ.clock_le earlier)

/-- A slot is booked by one commit only. -/
theorem unique (fresh : ρ.NeverReinserted) {m' f' b' x' : Nat} (done : ρ.Final m i slot f b x)
    (done' : ρ.Final m' j slot f' b' x') : j = i := by
  -- The later of two bookings would have found the slot booked.
  have first : ∀ {i j b b'}, ρ.Books b i slot → ρ.Books b' j slot → ¬ b < b' := by
    intro i j b b' books books' lt
    obtain ⟨r, known, booked⟩ := books.booked fresh lt
    obtain ⟨r', known', unbooked⟩ := Catalogue.book_eq_ok_iff.1 books'.2
    obtain rfl := Option.some.inj (known.symm.trans known')
    rw [booked] at unbooked
    cases unbooked
  have same : b' = b := by
    have ne₁ := first done.books done'.books
    have ne₂ := first done'.books done.books
    omega
  subst same
  exact Move.proceed.inj (done'.books.1.1.symm.trans done.books.1.1)

end Final

/-! ## Announcements after that -/

/-- **What is announced of a slot after its booking.** If every call is brief and no slot is put
into the catalogue twice, then the commit that announces the booking of a slot has marked and cleared
it, and whatever is announced of the slot afterwards is belated: a hold that was written before the
mark, the removal of a hold that was found before the clearing, or the end of a hold that had run
out by the clearing. In particular the booking is announced once. -/
theorem belated_after_booking (brief : ρ.Brief) (fresh : ρ.NeverReinserted)
    (booked : ρ.Performs m i (.announce (.booked slot day))) :
    ∃ f x, f < x ∧ x ≤ m ∧ ρ.Fences f i slot ∧ ρ.Clears x i slot ∧
      ∀ k j event, m < k → ρ.Performs k j (.announce event) → event.slot = slot →
        ρ.Belated slot f x k j event := by
  obtain ⟨f, b, x, done⟩ := final_of_announced brief fresh booked
  have order₁ := done.marked_lt
  have order₂ := done.booked_lt
  refine ⟨f, x, by omega, Nat.le_of_lt_succ done.cleared_lt, done.fences, done.clears, ?_⟩
  rintro k j event later announced rfl
  obtain ⟨n₀, c, p, before, begins, call, grounds⟩ := announcing_of_performs announced
  cases grounds with
  | @held record claimant w hold ttl acquires grounds isRecord commits =>
    have order := grounds.admitted_lt.trans (grounds.unfenced_lt.trans grounds.looked_lt)
    have known := grounds.known
    rw [isRecord] at known
    refine .acquired call acquires known order (Nat.lt_of_not_le fun late => ?_) commits
    obtain ⟨claimant', hold', places, -⟩ := places_of_puts commits
      (List.mem_append_left _ (List.mem_append_left _ List.mem_cons_self))
    exact done.closed p late _ _ _ places
  | @released slot claimant w hold writes releases owned grounds commits =>
    rw [grounds.writes_eq] at commits
    refine .released call releases grounds.held owned (Nat.le_of_not_lt fun late => ?_)
      grounds.looked_lt before commits
    exact not_unheld_of_holds grounds.held (done.unheld late)
  | @expired key text hold reaps performs evicted isHold decoded =>
    obtain ⟨e, left, rfl, ranOut⟩ := Store.mem_evict.1 evicted
    obtain ⟨stood, rfl, value⟩ := (written (show ρ.stored? p key = some e from left)).hold_of_isHold isHold
    rw [value, stood.decode?_encode] at decoded
    obtain rfl := Option.some.inj decoded
    exact .expired (reaps ▸ call) before performs left value (done.expired left ranOut)
  | booked commits begun early known books =>
    obtain ⟨f', b', x', done'⟩ := final_of_announced brief fresh announced
    obtain rfl := done.unique fresh done'
    exact absurd announced.hears (done.idle k later _ _)

/-- A hold runs out after its commit has booked the slot; then the commit ends, and a pass over what
expired follows. -/
def outliving : Run :=
  offering [1]
    ([.begin (.acquire 1 { holder := ⟨"a"⟩ } 120000)] ++ List.replicate 9 (.proceed 0) ++
      [.begin (.commit 1 { holder := ⟨"a"⟩ })] ++ List.replicate 6 (.proceed 1) ++ [.wait 120000] ++
      List.replicate 4 (.proceed 1) ++ [.begin .reap] ++ List.replicate 2 (.proceed 2))

theorem outliving_brief : outliving.Brief := by
  intro n₀ i c n e reply engine begins lt hears
  have short : outliving.clock n ≤ 120000 :=
    Nat.le_trans (playing_clock_le _ _ _ _ n) (by decide +kernel)
  omega

theorem outliving_fresh : outliving.NeverReinserted :=
  playing_fresh (by simp)

theorem outliving_booked : outliving.Performs 21 1 (.announce (.booked 1 openingDay)) :=
  ⟨rfl, by decide +kernel⟩

theorem outliving_released : outliving.Performs 24 2 (.announce (.released 1 openingDay)) :=
  ⟨rfl, by decide +kernel⟩

/-- The announcement that the booked slot is released is belated. -/
theorem outliving_belated :
    outliving.Brief ∧ outliving.NeverReinserted ∧
      outliving.Performs 21 1 (.announce (.booked 1 openingDay)) ∧
      outliving.Performs 24 2 (.announce (.released 1 openingDay)) ∧
      ∃ f x, f < x ∧ x ≤ 21 ∧ outliving.Belated 1 f x 24 2 (.released 1 openingDay) := by
  obtain ⟨f, x, lt, le, -, -, later⟩ :=
    belated_after_booking outliving_brief outliving_fresh outliving_booked
  exact ⟨outliving_brief, outliving_fresh, outliving_booked, outliving_released, f, x, lt, le,
    later 24 2 _ (by decide) outliving_released rfl⟩

/-- A slot can be announced to be released after its booking was announced. -/
theorem released_after_booking :
    ¬ ∀ (ρ : Run) (m i k j : Nat) (slot : SlotId) (day day' : Day) (ttl : UInt64) (event : RoomEvent),
      ρ.Brief → ρ.NeverReinserted → ρ.Performs m i (.announce (.booked slot day)) → m < k →
        ρ.Performs k j (.announce event) →
          event ≠ .held slot day' ttl ∧ event ≠ .released slot day' := by
  intro never
  exact (never outliving 21 1 24 2 1 openingDay openingDay 0 _ outliving_brief outliving_fresh
    outliving_booked (by decide) outliving_released).2 rfl

end Holdfast.Reservation.Run
