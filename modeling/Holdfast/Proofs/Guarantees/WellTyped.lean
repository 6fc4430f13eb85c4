import Holdfast.Proofs.Conduct.Decoding

/-!
# The store stays well typed

Whatever calls do among each other, and whatever fails them, each entry of the store is of the kind
that its key says. Under the key of a hold there is a hold on that slot, and its day is the one that
the catalogue gave when the hold was made: an acquire made it of what it had looked up, and since then
it was only renewed (`Run.Lineage`). So no call fails because it cannot decode something, and no
listing of holds and no pass over what expired skips anything.
-/

namespace Holdfast.Reservation.Run

variable {ρ : Run} {n i m : Nat} {slot : SlotId} {record : SlotRecord} {hold : HoldRecord}
  {key : String} {e : Entry}

/-! ## Where holds come from -/

/-- **The next move makes a hold**: it commits the transaction of an acquire, which writes a hold made
of the record that the catalogue had of the slot when the acquire looked it up; after that the acquire
found no hold on the slot. -/
inductive Creates (ρ : Run) (n : Nat) (slot : SlotId) (record : SlotRecord) (hold : HoldRecord) :
    Prop where
  | intro {i n₀ admitted looked ttl : Nat} {c : Call} {claimant : Claimant} {w : Watch}
    (begins : ρ.Begins n₀ i c) (acquires : c.Acquires slot claimant) (begun_lt : n₀ < admitted)
    (admitted_lt : admitted < looked) (looked_lt : looked < n)
    (known : (ρ.catalogue admitted).get? slot = some record) (isSlot : record.id = slot)
    (unheld : ρ.Unheld looked slot)
    (commits : ρ.Commits n i w (placing ρ.policy hold slot claimant.holder ttl))
    (eq : hold = .new record claimant)

/-- **Where a hold comes from that a move writes**: the move makes it, or it renews a hold that was
live and comes from an earlier move. -/
inductive Lineage (ρ : Run) (slot : SlotId) (record : SlotRecord) : Nat → HoldRecord → Prop where
  | created {n : Nat} {hold : HoldRecord} (creates : ρ.Creates n slot record hold) :
    Lineage ρ slot record n hold
  | renewed {m n looked ttl : Nat} {old : HoldRecord} {claimant : Claimant}
    (from_old : Lineage ρ slot record m old) (since : m < looked) (held : ρ.Holds looked slot old)
    (before : looked < n) (own : old.owner = claimant.holder)
    (places : ρ.Places n slot claimant (renewal old claimant) ttl) :
    Lineage ρ slot record n (renewal old claimant)

/-- A hold is for the day that the catalogue gave when it was made. -/
theorem Lineage.day_eq (lineage : ρ.Lineage slot record n hold) : hold.day = record.day := by
  induction lineage with
  | created creates =>
    obtain ⟨-, -, -, -, -, -, -, -, -, rfl⟩ := creates
    rfl
  | renewed from_old since held before own places ih => exact ih

/-- **Every hold in the store comes from somewhere.** -/
theorem lineage_of_stored (there : ρ.stored? n (Key.hold slot) = some e) :
    ∃ hold record m, HoldRecord.decode? e.value = some hold ∧ m < n ∧
      ρ.Lineage slot record m hold := by
  induction n using Nat.strongRecOn generalizing e with
  | ind n ih =>
    cases n with
    | zero =>
      rw [stored?, store, world_zero, ρ.unused] at there
      cases there
    | succ n =>
      rcases hold_stored_succ there with before | ⟨claimant, hold, ttl, places, value, -⟩
      · obtain ⟨hold, record, m, decoded, lt, lineage⟩ := ih n (Nat.lt_succ_self n) before
        exact ⟨hold, record, m, decoded, Nat.lt_succ_of_lt lt, lineage⟩
      · have decoded : HoldRecord.decode? e.value = some hold := by rw [value, hold.decode?_encode]
        have written := places
        obtain ⟨-, begins, -, acquires, commits, grounds⟩ := written
        have early := grounds.begun_lt
        have middle := grounds.admitted_lt
        have late := grounds.unfenced_lt
        have last := grounds.looked_lt
        have isSlot := grounds.isSlot
        cases grounds.decided with
        | new unheld alone eq =>
          rw [isSlot] at unheld
          exact ⟨hold, grounds.record, n, decoded, Nat.lt_succ_self n,
            .created ⟨begins, acquires, early, by omega, last, grounds.known, isSlot, unheld,
              commits, eq⟩⟩
        | renewed old held own eq =>
          rw [isSlot] at held
          obtain ⟨e', live, decoded'⟩ := holds_iff_live.1 held
          obtain ⟨old', record, m, decoded'', lt, lineage⟩ :=
            ih grounds.looked (Nat.lt_succ_of_lt last) (live?_iff_stored.1 live).1
          obtain rfl := Option.some.inj (decoded'.symm.trans decoded'')
          subst eq
          exact ⟨_, record, n, decoded, Nat.lt_succ_self n,
            .renewed lineage lt held last own places⟩

/-! ## Kinds of entries -/

/-- **The entry is of the kind that its key says.** -/
structure Typed (ρ : Run) (n : Nat) (key : String) (e : Entry) : Prop where
  /-- A key that begins like that of a hold is the key of a hold. -/
  isHold : Key.isHold key = true → ∃ slot, key = Key.hold slot
  /-- Under the key of a hold on a slot there is a hold on that slot, for the day that the catalogue
  gave of the slot when the hold was made. -/
  hold : ∀ slot, key = Key.hold slot → ∃ hold record m, HoldRecord.decode? e.value = some hold ∧
    hold.slot = slot ∧ hold.day = record.day ∧ m < n ∧ ρ.Lineage slot record m hold
  /-- Under a key that begins like that of a holder or of a connection there is a slot. -/
  index : Store.startsWith Key.holderStart key = true ∨
    Store.startsWith Key.sessionStart key = true → ∃ slot, SlotId.read? e.value = some slot

/-- Each entry in the store is of the kind that its key says. -/
theorem typed_of_stored (there : ρ.stored? n key = some e) : ρ.Typed n key e where
  isHold isHold := by
    obtain ⟨hold, eq, -⟩ := (written there).hold_of_isHold isHold
    exact ⟨hold.slot, eq⟩
  hold slot := by
    rintro rfl
    obtain ⟨hold, record, m, decoded, lt, lineage⟩ := lineage_of_stored there
    obtain ⟨hold', value, same⟩ := (written there).hold_of_key rfl
    rw [value, hold'.decode?_encode] at decoded
    obtain rfl := Option.some.inj decoded
    exact ⟨hold', record, m, by rw [value, hold'.decode?_encode], same, lineage.day_eq, lt,
      lineage⟩
  index := (written there).slot_of_startsWith

/-! ## Nothing that cannot be decoded -/

/-- No call fails because it cannot decode something. -/
theorem decodable_of_over {failure : Failure} (finished : ρ.Over n i (.error failure)) :
    failure.isUndecodable = false := by
  obtain ⟨running, there, -⟩ := id finished
  have call : ρ.call? n i = some running.call := Option.map_eq_some_iff.2 ⟨running, there, rfl⟩
  exact (decodes_call ρ.policy running.call).ends sound_heard ((over_iff call).1 finished)

/-- No pass over what expired answers that it cannot decode something. -/
theorem decodable_of_reaped {error : StoreError}
    (finished : ρ.Over n i (.ok (.reap (.error error)))) : error.isUndecodable = false := by
  obtain ⟨running, there, -⟩ := id finished
  have call : ρ.call? n i = some running.call := Option.map_eq_some_iff.2 ⟨running, there, rfl⟩
  have ends := (over_iff call).1 finished
  generalize running.call = c at ends
  cases c with
  | reap =>
    obtain ⟨t, u, r, heard, first, last⟩ := Program.ends_bind_ok.1 ends
    obtain ⟨rfl, eq⟩ := Program.ends_done.1 last
    obtain rfl := Answer.reap.inj (Except.ok.inj eq)
    rw [List.append_nil] at heard
    exact decodes_reap.ends (heard ▸ sound_heard) (Program.ends_attempt.1 first)
  | _ =>
    obtain ⟨t, u, r, -, -, last⟩ := Program.ends_bind_ok.1 ends
    cases (Program.ends_done.1 last).2

/-- No call waits to count a text that cannot be decoded. -/
theorem not_pending_decodeFailures (k : Nat) :
    (ρ.state n).pending i ≠ some (.count .decodeFailures k) := by
  intro waits
  obtain ⟨c, begun, next, there⟩ := System.pending_eq_some waits
  have call : ρ.call? n i = some c := Option.map_eq_some_iff.2 ⟨_, there, rfl⟩
  exact (decodes_call ρ.policy c).asks sound_heard (asks_of_pending call waits) k rfl

/-- **The store stays well typed**, in every run: each entry, expired or not, is of the kind that its
key says; no call fails because it cannot decode what it was given; no pass over what expired answers
so; and no text is ever counted as one that cannot be decoded, which is what a listing of holds and a
pass over what expired do when they skip one. -/
theorem store_well_typed (ρ : Run) :
    (∀ n key e, ρ.stored? n key = some e → ρ.Typed n key e) ∧
      (∀ n i failure, ρ.Over n i (.error failure) → failure.isUndecodable = false) ∧
      (∀ n i error, ρ.Over n i (.ok (.reap (.error error))) → error.isUndecodable = false) ∧
      ∀ n i k, (ρ.state n).pending i ≠ some (.count .decodeFailures k) :=
  ⟨fun _ _ _ => typed_of_stored, fun _ _ _ => decodable_of_over, fun _ _ _ => decodable_of_reaped,
    fun _ _ => not_pending_decodeFailures⟩

end Holdfast.Reservation.Run
