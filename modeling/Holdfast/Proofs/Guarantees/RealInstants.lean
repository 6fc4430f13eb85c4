import Holdfast.Proofs.Conduct.Contents
import Holdfast.Proofs.Conduct.Passage

/-!
# Whether what is reported was ever so

The status of a slot is put together from looks at different moments: at the catalogue, at the hold,
and at the time that the hold has left. A look alone is true of its moment, but nothing makes sure
that the looks are true together, and the conflict that an acquire reports has the same gap. If the
slot is booked after the look at the catalogue, it is reported free once its hold is gone; and if
another holder takes the slot over after the look at the hold, the one holder is reported with the
other's time.

* `Shows`: the state that a slot is in at an instant. `Reports`: what a call reports of it.
* `Torn`: the two ways in which a report comes to be true of no instant.
* `report_instant_iff`: there are no others.
* `reported_never_so`: runs in which reports are true of no instant.
-/

namespace Holdfast.Reservation

namespace Run

variable {ρ : Run} {i b n : Nat} {slot : SlotId} {status : SlotStatus}

/-- The slot is booked. -/
def Booked (ρ : Run) (k : Nat) (slot : SlotId) : Prop :=
  ∃ record, (ρ.catalogue k).get? slot = some record ∧ record.booked = true

/-- **The slot is in a state at an instant**: neither booked nor held; or held by someone for just so
much longer; or booked. -/
def Shows (ρ : Run) (k : Nat) (slot : SlotId) : SlotStatus → Prop
  | .free => ¬ ρ.Booked k slot ∧ ρ.Unheld k slot
  | .held owner ttl => ∃ hold, ρ.Holds k slot hold ∧ hold.owner = owner ∧
      (ρ.store k).remaining? (ρ.clock k) (Key.hold slot) = some ttl
  | .booked => ρ.Booked k slot

/-- **Between two moves a call reports a state of the slot**: as its status, or as the conflict that
keeps an acquire from it. -/
inductive Reports (ρ : Run) (i b n : Nat) (slot : SlotId) : SlotStatus → Prop where
  | status {status : SlotStatus}
    (passes : ρ.Passes i b n (Reservation.status slot) (.ok status)) : Reports ρ i b n slot status
  | conflict {claimant : Claimant} {ttl left : Nat} {owner : HolderId}
    (passes : ρ.Passes i b n (acquireFor ρ.policy slot claimant ttl)
      (.ok (.conflict (.heldByOther owner left)))) : Reports ρ i b n slot (.held owner left)

/-- **A report that is true of no instant.** The slot was not booked at first, and when its hold was
missed it was, and as long as it was not booked it was held. Or a holder's hold was found, then
another holder placed one, and the time that this one had left was taken for the time of the first,
which never had just that time left. -/
inductive Torn (ρ : Run) (b n : Nat) (slot : SlotId) : SlotStatus → Prop where
  | free {a z : Nat} (low : b ≤ a) (lt : a < z) (high : z < n) (before : ¬ ρ.Booked a slot)
    (after : ρ.Booked z slot) (missed : ρ.Unheld z slot)
    (held : ∀ k, b ≤ k → k ≤ n → ¬ ρ.Booked k slot → ¬ ρ.Unheld k slot) : Torn ρ b n slot .free
  | held {a q z ttl ttl' : Nat} {owner : HolderId} {claimant : Claimant} {old new : HoldRecord}
    (low : b ≤ a) (le : a ≤ q) (lt : q < z) (high : z < n) (found : ρ.Holds a slot old)
    (own : old.owner = owner) (places : ρ.Places q slot claimant new ttl')
    (other : new.owner ≠ owner) (shows : ρ.Shows z slot (.held new.owner ttl))
    (never : ∀ k, b ≤ k → k ≤ n → ¬ ρ.Shows k slot (.held owner ttl)) :
    Torn ρ b n slot (.held owner ttl)

/-! ## What was looked at -/

/-- What a report is made of: the slot was booked; or first it was not booked and then it had no
hold; or first it had a hold of the owner and then a hold with so much time left. -/
inductive Looked (ρ : Run) (b n : Nat) (slot : SlotId) : SlotStatus → Prop where
  | booked {a : Nat} (low : b ≤ a) (high : a < n) (booked : ρ.Booked a slot) :
    Looked ρ b n slot .booked
  | free {a z : Nat} (low : b ≤ a) (lt : a < z) (high : z < n) (before : ¬ ρ.Booked a slot)
    (missed : ρ.Unheld z slot) : Looked ρ b n slot .free
  | held {a z ttl : Nat} {hold : HoldRecord} (low : b ≤ a) (lt : a < z) (high : z < n)
    (found : ρ.Holds a slot hold)
    (left : (ρ.store z).remaining? (ρ.clock z) (Key.hold slot) = some ttl) :
    Looked ρ b n slot (.held hold.owner ttl)

/-- What a status is made of. -/
theorem looked_of_status (passes : ρ.Passes i b n (Reservation.status slot) (.ok status)) :
    ρ.Looked b n slot status := by
  obtain ⟨m, record, looked_up, rest⟩ := passes_bind_ok passes
  obtain ⟨a, low, lt, known⟩ := passes_find looked_up
  obtain rfl := (ρ.catalogue a).keyed slot record known
  unfold statusOf at rest
  split at rest
  · rename_i booked
    obtain rfl := passes_done rest
    exact .booked low (Nat.lt_of_lt_of_le lt rest.1) ⟨record, known, booked⟩
  · rename_i unbooked
    have before : ¬ ρ.Booked a record.id := by
      rintro ⟨record', known', booked⟩
      obtain rfl := Option.some.inj (known.symm.trans known')
      exact unbooked booked
    obtain ⟨m', found, looked, rest'⟩ := passes_bind_ok rest
    obtain ⟨k, after, lt', held⟩ := passes_readHold looked
    cases found with
    | none =>
      obtain rfl := passes_done rest'
      exact .free low (Nat.lt_of_lt_of_le lt after) (Nat.lt_of_lt_of_le lt' rest'.1) before held
    | some hold =>
      obtain ⟨m'', left, asked, last⟩ := passes_bind_ok rest'
      obtain ⟨z, late, lt'', eq⟩ := passes_remaining asked
      have high : z < n := Nat.lt_of_lt_of_le lt'' last.1
      cases left with
      | none =>
        obtain rfl := passes_done last
        exact .free low (by omega) high before (unheld_of_remaining eq.symm)
      | some ttl =>
        obtain rfl := passes_done last
        exact .held (by omega) (by omega) high held eq.symm

/-- What a conflict over a hold is made of. -/
theorem passes_conflictOver {key : String} {conflict : Nat → Conflict} {o : AcquireOutcome}
    (passes : ρ.Passes i b n (conflictOver key conflict) (.ok (some o))) :
    ∃ z ttl, b ≤ z ∧ z < n ∧ (ρ.store z).remaining? (ρ.clock z) key = some ttl ∧
      o = .conflict (conflict ttl) := by
  obtain ⟨m, left, asked, last⟩ := passes_bind_ok passes
  obtain ⟨z, low, lt, eq⟩ := passes_remaining asked
  obtain ⟨ttl, rfl, same⟩ := Option.map_eq_some_iff.1 (passes_done last).symm
  exact ⟨z, ttl, low, Nat.lt_of_lt_of_le lt last.1, eq.symm, same.symm⟩

/-- Who acquires a slot without a hold runs into no other holder. -/
theorem not_heldByOther_of_placeNew {policy : Policy} {w : Watch} {record : SlotRecord}
    {claimant : Claimant} {ttl left : Nat} {owner : HolderId} :
    ¬ ρ.Passes i b n (placeNew policy w record claimant ttl)
      (.ok (some (.conflict (.heldByOther owner left)))) := by
  intro passes
  have placed : ∀ {b w hold renewed}, ¬ ρ.Passes i b n
      (place policy w record.id claimant hold ttl renewed)
      (.ok (some (.conflict (.heldByOther owner left)))) :=
    fun passes => nomatch (passes_transact passes).1
  obtain ⟨m, named, looked, rest⟩ := passes_bind_ok passes
  cases named with
  | none => exact placed rest
  | some other =>
    obtain ⟨m', later, watched, rest'⟩ := passes_bind_ok rest
    obtain ⟨m'', found, looked', last⟩ := passes_bind_ok rest'
    cases found with
    | none => exact placed last
    | some hold =>
      dsimp only at last
      split at last
      · obtain ⟨z, ttl', -, -, -, eq⟩ := passes_conflictOver last
        cases eq
      · exact placed last

/-- What a conflict with another holder is made of. -/
theorem looked_of_conflict {policy : Policy} {claimant : Claimant} {ttl left : Nat}
    {owner : HolderId} (passes : ρ.Passes i b n (acquireFor policy slot claimant ttl)
      (.ok (.conflict (.heldByOther owner left)))) : ρ.Looked b n slot (.held owner left) := by
  obtain ⟨m₁, record, opened, rest⟩ := passes_bind_ok passes
  obtain ⟨q, -, -, found⟩ := mem_heard.1 (ends_openSlot opened.2)
  obtain rfl := (ρ.catalogue q).keyed slot record (known_of_hears found)
  obtain ⟨m₂, outcome, tried, told⟩ := passes_bind_ok rest
  obtain rfl : outcome = .conflict (.heldByOther owner left) := by
    cases outcome with
    | acquired hold ttl renewed =>
      obtain ⟨_, _, -, rest'⟩ := passes_bind_ok told
      obtain ⟨_, _, -, last⟩ := passes_bind_ok rest'
      cases passes_done last
    | conflict c =>
      obtain ⟨_, _, -, last⟩ := passes_bind_ok told
      exact (passes_done last).symm
  obtain ⟨m₀, low, attempt⟩ := passes_retrying tried
  obtain ⟨m₃, w, watched, attempt⟩ := passes_bind_ok attempt
  obtain ⟨m₄, fenced, looked, attempt⟩ := passes_bind_ok attempt
  split at attempt
  · cases (Program.ends_fail.1 attempt.2).2
  · obtain ⟨m₅, found, looked', attempt⟩ := passes_bind_ok attempt
    obtain ⟨a, early, lt, held⟩ := passes_readHold looked'
    cases found with
    | none => exact absurd attempt not_heldByOther_of_placeNew
    | some hold =>
      dsimp only at attempt held
      split at attempt
      · cases (passes_transact attempt).1
      · obtain ⟨z, ttl', late, high, left', eq⟩ := passes_conflictOver attempt
        obtain ⟨rfl, rfl⟩ := Conflict.heldByOther.inj (AcquireOutcome.conflict.inj eq)
        have := opened.1
        have := watched.1
        have := looked.1
        have := told.1
        exact .held (by omega) (by omega) (by omega) held left'

/-- What a report is made of. -/
theorem Reports.looked (report : ρ.Reports i b n slot status) : ρ.Looked b n slot status := by
  cases report with
  | status passes => exact looked_of_status passes
  | conflict passes => exact looked_of_conflict passes

/-! ## What the looks are true of together -/

/-- A live hold was live before, or was placed since. -/
theorem live_or_placed {a z : Nat} {e : Entry} (le : a ≤ z)
    (live : ρ.live? z (Key.hold slot) = some e) : ρ.live? a (Key.hold slot) = some e ∨
      ∃ q claimant hold ttl, a ≤ q ∧ q < z ∧ ρ.Places q slot claimant hold ttl ∧
        e.value = hold.encode := by
  induction le with
  | refl => exact .inl live
  | @step z le ih =>
    rcases hold_succ live with before | ⟨claimant, hold, ttl, places, -, value⟩
    · rcases ih before with since | ⟨q, claimant, hold, ttl, low, high, placed⟩
      · exact .inl since
      · exact .inr ⟨q, claimant, hold, ttl, low, Nat.lt_succ_of_lt high, placed⟩
    · exact .inr ⟨z, claimant, hold, ttl, le, Nat.lt_succ_self z, places, value⟩

/-- **What is reported was so at some instant during the call, unless the report is torn.** A slot
that is reported booked was booked; one that is reported free was neither booked nor held at some
instant, unless it went from a hold to a booking meanwhile; and a holder that is reported with some
time left had just that time left at some instant, unless another holder's time was taken for its. -/
theorem report_instant_iff (report : ρ.Reports i b n slot status) :
    (∃ k, b ≤ k ∧ k ≤ n ∧ ρ.Shows k slot status) ↔ ¬ ρ.Torn b n slot status := by
  constructor
  · rintro ⟨k, low, high, shows⟩ torn
    cases torn with
    | free _ _ _ _ _ _ held => exact held k low high shows.1 shows.2
    | held _ _ _ _ _ _ _ _ _ never => exact never k low high shows
  · intro whole
    refine Classical.byContradiction fun no => whole ?_
    have never : ∀ k, b ≤ k → k ≤ n → ¬ ρ.Shows k slot status :=
      fun k low high shows => no ⟨k, low, high, shows⟩
    cases report.looked with
    | @booked a low high booked => exact absurd booked (never a low (Nat.le_of_lt high))
    | @free a z low lt high before missed =>
      refine .free low lt high before ?_ missed ?_
      · refine Classical.byContradiction fun unbooked => ?_
        exact never z (by omega) (Nat.le_of_lt high) ⟨unbooked, missed⟩
      · exact fun k low high unbooked unheld => never k low high ⟨unbooked, unheld⟩
    | @held a z ttl hold low lt high found left =>
      obtain ⟨e, live, rest⟩ := Option.map_eq_some_iff.1 left
      obtain ⟨new, value, held⟩ := holds_of_live live
      have other : new.owner ≠ hold.owner := by
        intro same
        exact never z (by omega) (Nat.le_of_lt high) ⟨new, held, same, left⟩
      rcases live_or_placed (Nat.le_of_lt lt) live with since | ⟨q, claimant, placed, ttl', placing⟩
      · have there : ρ.Holds a slot new :=
          holds_iff_live.2 ⟨e, since, by rw [value, new.decode?_encode]⟩
        obtain rfl := Option.some.inj (there.symm.trans found)
        exact absurd rfl other
      · obtain ⟨le, lt', places, value'⟩ := placing
        have same : placed = new := by
          have decoded := placed.decode?_encode
          rw [← value', value, new.decode?_encode] at decoded
          exact (Option.some.inj decoded).symm
        subst same
        exact .held low le lt' high found rfl places other ⟨placed, held, rfl, left⟩ never

/-! ## Reports that are true of no instant -/

/-- What a call has returned as the state of a slot. -/
def reported? (ρ : Run) (n i : Nat) : Option SlotStatus :=
  (ρ.state n).calls[i]?.bind fun r =>
    match r.rest with
    | .done (.status status) => some status
    | .done (.acquire (.conflict (.heldByOther owner ttl))) => some (.held owner ttl)
    | _ => none

/-- What a call has returned as the state of the slot that it was called for, it reports. -/
theorem reports_of_reported {n₀ : Nat} {c : Call}
    (asked : c = .status slot ∨ ∃ claimant ttl, c = .acquire slot claimant ttl)
    (begins : ρ.Begins n₀ i c) (later : n₀ < n) (h : ρ.reported? n i = some status) :
    ρ.Reports i (n₀ + 1) n slot status := by
  obtain ⟨r, there, answers⟩ := Option.bind_eq_some_iff.1 h
  split at answers
  · rename_i status' finished
    obtain rfl := Option.some.inj answers
    rcases asked with rfl | ⟨claimant, ttl, rfl⟩
    · obtain ⟨a, passes, answer⟩ := passes_of_returned rfl begins later ⟨r, there, finished⟩
      exact .status (Answer.status.inj answer ▸ passes)
    · obtain ⟨a, -, answer⟩ := passes_of_returned rfl begins later ⟨r, there, finished⟩
      cases answer
  · rename_i owner left finished
    obtain rfl := Option.some.inj answers
    rcases asked with rfl | ⟨claimant, ttl, rfl⟩
    · obtain ⟨a, -, answer⟩ := passes_of_returned rfl begins later ⟨r, there, finished⟩
      cases answer
    · obtain ⟨a, passes, answer⟩ := passes_of_returned rfl begins later ⟨r, there, finished⟩
      exact .conflict (Answer.acquire.inj answer ▸ passes)
  · cases answers

/-- A slot is looked up that is held and not booked; then its holder commits it; and then its hold is
looked for. -/
def passing : Run :=
  offering [1]
    ([.begin (.acquire 1 { holder := ⟨"a"⟩ } 120000)] ++ List.replicate 9 (.proceed 0) ++
      [.begin (.status 1), .proceed 1, .begin (.commit 1 { holder := ⟨"a"⟩ })] ++
      List.replicate 13 (.proceed 2) ++ [.proceed 1])

theorem passing_reports : passing.Reports 1 11 27 1 .free :=
  reports_of_reported (.inl rfl) ⟨rfl, rfl⟩ (by decide) (by decide +kernel)

/-- Until it is booked the slot is held. -/
theorem passing_never_free (k : Nat) (low : 11 ≤ k) (high : k ≤ 27) :
    ¬ passing.Shows k 1 .free := by
  have covered : ∀ k < 28, 11 ≤ k → ((passing.catalogue k).get? 1).any (·.booked) = true ∨
      (passing.read? k (Key.hold 1)).isSome = true := by decide +kernel
  rintro ⟨unbooked, unheld⟩
  rcases covered k (by omega) low with booked | held
  · obtain ⟨record, known, booked⟩ := (Option.any_eq_true _ _).1 booked
    exact unbooked ⟨record, known, booked⟩
  · rw [unheld] at held
    cases held

/-- Another holder asks for a slot and finds the hold on it; then its holder gives it up, and a third
one acquires it for a minute; and then the time is looked at that the hold has left. -/
def mingling : Run :=
  offering [1]
    ([.begin (.acquire 1 { holder := ⟨"a"⟩ } 120000)] ++ List.replicate 9 (.proceed 0) ++
      [.begin (.acquire 1 { holder := ⟨"c"⟩ } 120000)] ++ List.replicate 5 (.proceed 1) ++
      [.begin (.release 1 { holder := ⟨"a"⟩ })] ++ List.replicate 7 (.proceed 2) ++
      [.begin (.acquire 1 { holder := ⟨"b"⟩ } 60000)] ++ List.replicate 9 (.proceed 3) ++
      List.replicate 2 (.proceed 1))

theorem mingling_reports : mingling.Reports 1 11 36 1 (.held ⟨"a"⟩ 60000) :=
  reports_of_reported (.inr ⟨_, _, rfl⟩) ⟨rfl, rfl⟩ (by decide) (by decide +kernel)

/-- Whenever a hold has a minute left, it is the third holder's. -/
theorem mingling_never_so (k : Nat) (high : k ≤ 36) :
    ¬ mingling.Shows k 1 (.held ⟨"a"⟩ 60000) := by
  have third : ∀ k < 37, (mingling.store k).remaining? (mingling.clock k) (Key.hold 1) = some 60000 →
      mingling.read? k (Key.hold 1) =
        some (HoldRecord.encode { owner := ⟨"b"⟩, slot := 1, day := openingDay }) := by
    decide +kernel
  rintro ⟨hold, held, own, left⟩
  rw [Holds, third k (by omega) left, Option.bind_some, HoldRecord.decode?_encode] at held
  obtain rfl := Option.some.inj held
  simp at own

/-- The conflict that the second holder runs into is torn: it names the first holder with the time of
the third. -/
theorem mingling_torn : mingling.Reports 1 11 36 1 (.held ⟨"a"⟩ 60000) ∧
    mingling.Torn 11 36 1 (.held ⟨"a"⟩ 60000) := by
  refine ⟨mingling_reports, Classical.byContradiction fun whole => ?_⟩
  obtain ⟨k, -, high, shows⟩ := (report_instant_iff mingling_reports).2 whole
  exact mingling_never_so k high shows

/-- A slot can be reported free though it was at no instant of the call; and a holder can be reported
with a time that it had left at no instant of the call. -/
theorem reported_never_so :
    ¬ (∀ (ρ : Run) (i b n : Nat) (slot : SlotId), ρ.Reports i b n slot .free →
        ∃ k, b ≤ k ∧ k ≤ n ∧ ρ.Shows k slot .free) ∧
    ¬ (∀ (ρ : Run) (i b n : Nat) (slot : SlotId) (owner : HolderId) (ttl : Nat),
        ρ.Reports i b n slot (.held owner ttl) →
          ∃ k, b ≤ k ∧ k ≤ n ∧ ρ.Shows k slot (.held owner ttl)) := by
  constructor
  · intro always
    obtain ⟨k, low, high, shows⟩ := always passing 1 11 27 1 passing_reports
    exact passing_never_free k low high shows
  · intro always
    obtain ⟨k, -, high, shows⟩ := always mingling 1 11 36 1 _ _ mingling_reports
    exact mingling_never_so k high shows

end Run
end Holdfast.Reservation
