import Holdfast.Proofs.Guarantees.CommitSoundness

/-!
# A slot that is committed is never held again

The mark of a booking keeps acquires out from the moment when a commit puts it. Nobody else takes it
off: another commit would have had to find the slot unmarked. And it outlasts two calls, the rest of
the commit that put it and any acquire that looked the slot up before it was booked; every later
acquire finds the slot booked in the catalogue.

* `marks_stand`: the mark stands for its time unless its own commit takes it off.
* `no_placement`: no acquire of the slot commits after the mark.
* `booked_for_good`: from its commit on, nobody acquires the slot, and once the commit has returned
  there is no live hold on it.
-/

namespace Holdfast.Reservation.Run

variable {ρ : Run} {n m i n₀ f b : Nat} {w : Watch} {slot : SlotId} {claimant : Claimant}
  {c : Call} {hold : HoldRecord} {writes : List Write}

/-- No call lasts half as long as the mark of a booking. How long the passes over what expired take
does not matter. -/
def Brief (ρ : Run) : Prop :=
  ∀ n₀ i c n e reply, c ≠ .reap → ρ.Begins n₀ i c → n₀ < n → ρ.Hears n i e reply →
    ρ.clock n < ρ.clock n₀ + 43200000

/-! ## The mark of a booking -/

/-- Whoever marks a slot finds it unmarked. -/
theorem Fencing.unmarked_now (grounds : ρ.Fencing n₀ n slot claimant w hold)
    (agrees : (ρ.store n).agrees (ρ.clock n) w = true) : ρ.live? n (Key.booked slot) = none := by
  have covers := grounds.covers (Key.booked slot) (by simp)
  have lt := Nat.lt_trans grounds.unfenced_lt grounds.looked_lt
  exact read?_eq_none_iff.1
    (read?_eq_none_of_covers covers (Nat.le_of_lt lt) agrees grounds.unmarked)

/-- Whoever marks a slot finds it unmarked, and is a commit of it. -/
theorem Fences.unmarked (fences : ρ.Fences n i slot) : ρ.live? n (Key.booked slot) = none := by
  obtain ⟨w, text, commits⟩ := fences
  obtain ⟨c, call⟩ := ρ.call?_of_hears i commits.1.hears
  obtain ⟨n₀, claimant, hold, -, -, -, ⟨grounds⟩⟩ := commits.fencing call
  exact grounds.unmarked_now commits.2

/-- The entries that go with a hold are no marks of bookings. -/
theorem booked_ne_of_index {holder : HolderId} {session : Option SessionId} {key : String}
    (h : key ∈ indexKeys holder session) : key ≠ Key.booked slot := by
  rcases mem_indexKeys h with rfl | ⟨s, rfl⟩
  · exact (Key.booked_ne_holder slot holder).symm
  · exact (Key.booked_ne_session slot s).symm

/-- Only another mark touches the mark of a booking. -/
theorem live?_booked_of_exec (deed : ρ.Deed i n₀ c n (.store (.exec w writes)))
    (other : ∀ text, writes ≠ [.put (Key.booked slot) text fenceTtl]) {now t : Nat} {s : Store} :
    (writes.foldl (Store.apply now) s).live? t (Key.booked slot) =
      s.live? t (Key.booked slot) := by
  cases deed with
  | spare h => cases h
  | place acquires grounds => exact Store.live?_writes_ne misses_placing_booked
  | @remove slot' w hold writes entitled grounds =>
    refine Store.live?_writes_ne (grounds.misses (Key.hold_ne_booked slot' slot) ?_)
    exact fun stale => booked_ne_of_index (grounds.named _ stale).1 rfl
  | clear releases index b early late covers names =>
    exact Store.live?_writes_ne (.single (booked_ne_of_index index))
  | @fence slot' claimant w hold commits grounds =>
    refine Store.live?_writes_ne (.single ?_)
    intro same
    obtain rfl := Key.booked_inj same
    exact other _ rfl

/-- The marks put on the slot before a move still stand if their commits left them alone and their
time is not up. -/
def MarksStand (ρ : Run) (slot : SlotId) (n : Nat) : Prop :=
  ∀ i f, ρ.Fences f i slot → f < n → ρ.clock n < ρ.clock f + fenceTtl →
    ρ.Avoids i (unmarking slot) f n →
      ∃ e, ρ.live? n (Key.booked slot) = some e ∧ e.deadline = ρ.clock f + fenceTtl

/-- As long as marks stand, of two commits that marked a slot the one that takes its mark off is the
one whose mark it is: the other one cannot have put its own. -/
theorem unmarks_own (brief : ρ.Brief) (stand : ∀ m ≤ n, ρ.MarksStand slot m)
    (fences : ρ.Fences f i slot) (before : f < n) (early : ρ.clock n < ρ.clock f + fenceTtl)
    (kept : ρ.Avoids i (unmarking slot) f n) {j n₁ f' : Nat} (lt : n₁ < n)
    (commits : c = .commit slot claimant) (begins : ρ.Begins n₁ j c) (performs : ρ.Performs n j (unmarking slot)) (begun : n₁ < f')
    (late : f' < n) (fences' : ρ.Fences f' j slot) (once : ρ.Avoids j (unmarking slot) f' n) :
    j = i := by
  have soon := brief n₁ j c n _ _ (by simp [commits]) begins lt performs.hears
  have le₁ := ρ.clock_le (Nat.le_of_lt begun)
  have le₂ := ρ.clock_le (Nat.le_of_lt before)
  have le₃ := ρ.clock_le (Nat.le_of_lt late)
  rcases Nat.lt_trichotomy f' f with first | rfl | second
  · obtain ⟨e, live, -⟩ := stand f (Nat.le_of_lt before) j f' fences' first
      (by unfold fenceTtl; omega) fun k reply low high => once k reply low (by omega)
    rw [fences.unmarked] at live
    cases live
  · obtain ⟨w, text, commits⟩ := fences
    obtain ⟨w', text', commits'⟩ := fences'
    exact Move.proceed.inj (commits'.1.1.symm.trans commits.1.1)
  · obtain ⟨e, live, -⟩ := stand f' (Nat.le_of_lt late) i f fences second (by omega)
      fun k reply low high => kept k reply low (by omega)
    rw [fences'.unmarked] at live
    cases live

/-- Marks stand for one more move. -/
theorem marksStand_succ (brief : ρ.Brief) (stand : ∀ m ≤ n, ρ.MarksStand slot m) :
    ρ.MarksStand slot (n + 1) := by
  intro i f fences later early kept
  have le : ρ.clock n ≤ ρ.clock (n + 1) := ρ.clock_le_succ n
  rcases Nat.lt_succ_iff_lt_or_eq.1 later with before | rfl
  · have kept' : ρ.Avoids i (unmarking slot) f n :=
      fun k reply low high => kept k reply low (by omega)
    obtain ⟨e, live, deadline⟩ := stand n (Nat.le_refl n) i f fences before (by omega) kept'
    refine ⟨e, ?_, deadline⟩
    cases ρ.step n with
    | still live' => exact (live' _ e).2 ⟨live, by omega⟩
    | @exec j n₁ c w writes lt begins call commits deed clock live' =>
      rw [live', live?_booked_of_exec deed]
      · exact live
      · rintro text rfl
        rw [Fences.unmarked ⟨w, text, commits⟩] at live
        cases live
    | @delete j n₁ c key lt begins call performs deed clock live' =>
      rw [live']
      cases deed with
      | spare h => cases h
      | @forget holder session ends =>
        exact (Store.live?_remove_ne _ _ (Key.booked_ne_session slot session)).trans live
      | @unmark slot' claimant commits f' begun late fences' once =>
        by_cases same : slot' = slot
        · subst same
          obtain rfl := unmarks_own brief stand fences before (by omega) kept' lt commits begins
            performs begun late fences' once
          exact absurd performs.hears (kept n _ before (Nat.lt_succ_self n))
        · refine (Store.live?_remove_ne _ _ ?_).trans live
          exact fun key => same (Key.booked_inj key).symm
  · obtain ⟨w, text, commits⟩ := fences
    obtain ⟨-, live⟩ := live?_of_commits commits (Key.booked slot)
    exact ⟨_, live.trans (Store.live?_put_iff.2 ⟨rfl, by omega⟩), rfl⟩

/-- **The mark of a booking stands for its time**, unless the commit that put it takes it off. -/
theorem marks_stand (brief : ρ.Brief) (slot : SlotId) (n : Nat) : ρ.MarksStand slot n := by
  induction n using Nat.strongRecOn with
  | ind n ih =>
    cases n with
    | zero => exact fun i f _ before => absurd before (Nat.not_lt_zero f)
    | succ n => exact marksStand_succ brief fun m le => ih m (Nat.lt_succ_of_le le)

/-! ## No acquire after the mark -/

/-- A booking shows in the catalogue from then on. -/
theorem Books.booked (books : ρ.Books b i slot) (fresh : ρ.NeverReinserted) (later : b < n) :
    ∃ r, (ρ.catalogue n).get? slot = some r ∧ r.booked = true := by
  obtain ⟨r, known, booked⟩ := Catalogue.get?_book books.2
  have after : ρ.catalogue (b + 1) = ((ρ.catalogue b).book slot).2 := by
    rw [catalogue, ρ.world_of_performs books.1]
    rfl
  rw [← after] at known
  exact ⟨r, booked_of_le fresh known booked later, booked⟩

/-- **No acquire of the slot commits while the mark of a commit stands**: it would have looked for
the mark, and it rests on having found none. -/
theorem no_placement_marked (brief : ρ.Brief) (fences : ρ.Fences f i slot)
    (kept : ρ.Avoids i (unmarking slot) f n) (later : f < n)
    (early : ρ.clock n < ρ.clock f + fenceTtl) {n₁ : Nat}
    (agrees : (ρ.store n).agrees (ρ.clock n) w = true)
    (grounds : ρ.Placement n₁ n slot claimant w hold) : False := by
  have order₁ := grounds.unfenced_lt
  have order₂ := grounds.looked_lt
  obtain ⟨e, live, -⟩ := marks_stand brief slot n i f fences later early kept
  have covers := grounds.covers (Key.booked slot) (by simp [watchedKeys])
  have absent := read?_eq_none_of_covers covers (by omega) agrees grounds.unmarked
  rw [read?_eq_none_iff.1 absent] at live
  cases live

/-- **No acquire of the slot commits after the mark of a commit that books it.** One that looked for
the mark before it was put is aborted, one that looked later saw it; and when the mark is gone,
whoever looks the slot up finds it booked. -/
theorem no_placement (brief : ρ.Brief) (fresh : ρ.NeverReinserted) {committer : Claimant}
    (begins : ρ.Begins n₀ i (.commit slot committer)) (begun : n₀ < f)
    (fences : ρ.Fences f i slot) (marked : f < b) (books : ρ.Books b i slot)
    (kept : ρ.Avoids i (unmarking slot) f n) (later : f < n) {j n₁ : Nat} {e : Effect}
    {reply : e.Reply} (acquires : c.Acquires slot claimant) (begins' : ρ.Begins n₁ j c)
    (hears : ρ.Hears n j e reply) (agrees : (ρ.store n).agrees (ρ.clock n) w = true)
    (grounds : ρ.Placement n₁ n slot claimant w hold) : False := by
  have order₁ := grounds.admitted_lt
  have order₂ := grounds.unfenced_lt
  have order₃ := grounds.looked_lt
  by_cases early : ρ.clock n < ρ.clock f + fenceTtl
  · exact no_placement_marked brief fences kept later early agrees grounds
  · rcases Nat.lt_or_ge b grounds.admitted with after | before
    · obtain ⟨r, known, booked⟩ := books.booked fresh after
      obtain rfl := Option.some.inj (known.symm.trans grounds.known)
      rw [grounds.unbooked] at booked
      cases booked
    · -- The two calls together are too short for the mark to be gone.
      have order₄ := grounds.begun_lt
      have acquiring : c ≠ .reap := by
        rintro rfl
        cases acquires
      have soon := brief n₀ i _ b _ _ (by simp) begins (by omega) books.1.hears
      have soon' := brief n₁ j c n e reply acquiring begins' (by omega) hears
      have le₁ := ρ.clock_le (Nat.le_of_lt begun)
      have le₂ : ρ.clock n₁ ≤ ρ.clock b := ρ.clock_le (by omega)
      unfold fenceTtl at early
      omega

/-- A commit that has returned takes its mark off no more. -/
theorem Settled.kept {answer : Answer} {r : Nat} (done : ρ.Settled i n₀ slot r)
    (quiet : ρ.Quiet i r n) (returned : ρ.Returned n i answer) (m : Nat) :
    ρ.Avoids i (unmarking slot) n₀ m := by
  refine done.marked.quiet ?_
  intro k late _
  rcases Nat.lt_or_ge k n with early | late'
  · exact quiet k late early
  · exact ρ.idle_of_returned i (ρ.returned_of_le i returned late')

/-- A call marks a slot once, unless it takes the mark off. -/
theorem fences_unique (brief : ρ.Brief) {f' : Nat} (fences : ρ.Fences f i slot)
    (fences' : ρ.Fences f' i slot) (begins : ρ.Begins n₀ i (.commit slot claimant))
    (kept : ∀ m, ρ.Avoids i (unmarking slot) n₀ m) : f' = f := by
  -- The later of two marks would have found the earlier one.
  have first : ∀ {f f'}, ρ.Fences f i slot → ρ.Fences f' i slot → ¬ f < f' := by
    intro f f' fences fences' lt
    obtain ⟨w, text, commits⟩ := fences
    obtain ⟨w', text', commits'⟩ := fences'
    have begun := ρ.lt_of_hears i begins commits.1.hears
    have soon := brief n₀ i _ f' _ _ (by simp) begins (by omega) commits'.1.hears
    have le := ρ.clock_le (Nat.le_of_lt begun)
    obtain ⟨e, live, -⟩ := marks_stand brief slot f' i f ⟨w, text, commits⟩ lt
      (by unfold fenceTtl; omega) fun k reply low high => kept f' k reply (by omega) high
    rw [Fences.unmarked ⟨w', text', commits'⟩] at live
    cases live
  have ne₁ := first fences fences'
  have ne₂ := first fences' fences
  omega

/-! ## No hold after the clearing -/

/-- A slot without a hold gets none from a move that writes none. -/
theorem unheld_succ (unheld : ρ.Unheld n slot)
    (untouched : ∀ i w writes text ttl, ρ.Commits n i w writes →
      .put (Key.hold slot) text ttl ∉ writes) : ρ.Unheld (n + 1) slot := by
  rw [Unheld, read?_eq_none_iff] at unheld ⊢
  rw [Option.eq_none_iff_forall_ne_some]
  intro e live
  rcases hold_succ live with before | ⟨claimant, hold, ttl, ⟨-, -, -, -, commits, -⟩, -, -⟩
  · rw [unheld] at before
    cases before
  · exact untouched _ _ _ hold.encode ttl commits
      (List.mem_append_left _ (List.mem_append_left _ List.mem_cons_self))

/-- After its clearing a slot stays without a hold as long as nobody acquires it. -/
theorem unheld_of_clears (clears : ρ.Clears b i slot) (later : b < n)
    (untouched : ∀ m, b ≤ m → ∀ j w writes text ttl, ρ.Commits m j w writes →
      .put (Key.hold slot) text ttl ∉ writes) : ρ.Unheld n slot := by
  induction later with
  | refl =>
    rcases clears with unheld | ⟨w, stale, commits⟩
    · exact unheld_succ unheld (untouched b (Nat.le_refl b))
    · rw [Unheld, read?_eq_none_iff, (live?_of_commits commits _).2]
      rw [← List.map_cons]
      exact Store.live?_deletes List.mem_cons_self
  | step later ih => exact unheld_succ ih (untouched _ (Nat.le_of_succ_le later))

/-- **A slot that is committed is never held again.** If every call is brief and no slot is put into
the catalogue twice, then a commit that returns that it committed has marked the slot once; from
that mark on no call that acquires the slot commits a transaction that writes a hold on it, and a
call to acquire it commits nothing at all; and from its return on there is no live hold on the slot.
-/
theorem booked_for_good {day : Day} (brief : ρ.Brief) (fresh : ρ.NeverReinserted)
    (call : ρ.call? n i = some (.commit slot claimant))
    (returned : ρ.Returned n i (.commit (.committed day))) :
    ∃ f, f < n ∧ ρ.Fences f i slot ∧ (∀ f', ρ.Fences f' i slot → f' = f) ∧
      (∀ m j w writes, f < m → ρ.Commits m j w writes →
        (∀ claimant' ttl, ρ.call? m j ≠ some (.acquire slot claimant' ttl)) ∧
        ∀ text ttl, .put (Key.hold slot) text ttl ∉ writes) ∧
      ∀ m, n ≤ m → ρ.Unheld m slot := by
  obtain ⟨n₀, r, low, high, begins, quiet, ⟨done⟩⟩ := settled call returned
  have kept := done.kept quiet returned
  obtain ⟨f, b, x, begun, marked, booked, cleared, fences, books, clears, -⟩ := done
  have untouched : ∀ m j w writes text ttl, f < m → ρ.Commits m j w writes →
      .put (Key.hold slot) text ttl ∉ writes := by
    intro m j w writes text ttl after commits puts
    obtain ⟨n₁, c, -, begins', -, deed⟩ := deed commits.1.hears
    obtain ⟨claimant', hold, acquires, -, ⟨grounds⟩⟩ := deed.placement puts
    exact no_placement brief fresh begins begun fences marked books
      (fun k reply low high => kept m k reply (by omega) high) after acquires begins'
      commits.1.hears commits.2 grounds
  refine ⟨f, by omega, fences, fun f' fences' => fences_unique brief fences fences' begins kept,
    ?_, ?_⟩
  · intro m j w writes after commits
    refine ⟨?_, fun text ttl => untouched m j w writes text ttl after commits⟩
    intro claimant' ttl call'
    obtain ⟨n₁, -, -, deed⟩ := deed_of_call call' commits.1.hears
    rcases deed.acquire (.alone slot claimant' ttl) with
      ⟨hold, ttl', puts⟩ | ⟨⟨other, -, releases⟩, -⟩
    · exact untouched m j w writes _ _ after commits puts
    · cases releases
  · intro m le
    exact unheld_of_clears clears (by omega) fun k after j w writes text ttl commits =>
      untouched k j w writes text ttl (by omega) commits

/-- The day for which a call has returned that it committed. -/
def committed? (ρ : Run) (n i : Nat) : Option Day :=
  (ρ.state n).calls[i]?.bind fun r =>
    match r.rest with
    | .done (.commit (.committed day)) => some day
    | _ => none

/-- A call that has returned that it committed has returned. -/
theorem returned_of_committed {day : Day} (h : ρ.committed? n i = some day) :
    ρ.Returned n i (.commit (.committed day)) := by
  obtain ⟨r, there, answers⟩ := Option.bind_eq_some_iff.1 h
  refine ⟨r, there, ?_⟩
  split at answers
  · rename_i finished
    obtain rfl := Option.some.inj answers
    exact finished
  · cases answers

/-- A slot is committed while another holder, who looked it up before, acquires it. -/
def committing : Run :=
  offering [1]
    ([.begin (.acquire 1 { holder := ⟨"a"⟩ } 120000)] ++ List.replicate 9 (.proceed 0) ++
      [.begin (.commit 1 { holder := ⟨"a"⟩ }), .begin (.acquire 1 { holder := ⟨"b"⟩ } 120000)] ++
      List.replicate 2 (.proceed 2) ++ List.replicate 6 (.proceed 1) ++
      [.wait 1000, .proceed 2, .proceed 2] ++ List.replicate 7 (.proceed 1))

theorem committing_brief : committing.Brief := by
  intro n₀ i c n e reply engine begins lt hears
  have short : committing.clock n ≤ 1000 :=
    Nat.le_trans (playing_clock_le _ _ _ _ n) (by decide +kernel)
  omega

theorem committing_fresh : committing.NeverReinserted :=
  playing_fresh (by simp)

/-- The commit keeps the slot to itself though its own hold is still there when it marks the slot.
-/
theorem committing_for_good :
    committing.Brief ∧ committing.NeverReinserted ∧
      committing.call? 30 1 = some (.commit 1 { holder := ⟨"a"⟩ }) ∧
      committing.Returned 30 1 (.commit (.committed openingDay)) ∧
      ∀ m, 30 ≤ m → committing.Unheld m 1 := by
  have call : committing.call? 30 1 = some (.commit 1 { holder := ⟨"a"⟩ }) := by decide +kernel
  have returned : committing.Returned 30 1 (.commit (.committed openingDay)) :=
    returned_of_committed (by decide +kernel)
  obtain ⟨f, -, -, -, -, unheld⟩ := booked_for_good committing_brief committing_fresh call returned
  exact ⟨committing_brief, committing_fresh, call, returned, unheld⟩

end Holdfast.Reservation.Run
