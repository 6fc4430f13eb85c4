import Holdfast.Proofs.Bookings
import Holdfast.Proofs.Guarantees.MutualExclusion

/-!
# Whose booking it is

A commit marks the slot in a transaction that rests on the hold that it found to be the claimant's.
If the hold was there when the transaction was prepared, it is there, untouched, when the mark is
put. But a watch that saw no hold is satisfied by no hold: then the hold that was found came later
and is gone again, and the slot is booked for a claimant who does not hold it.

* `booked_for_owner_iff`: at the mark of a commit the claimant owns a live hold exactly if the watch
  of the transaction saw a live hold; otherwise there is none.
* `booked_without_hold`: a run in which there is none.
-/

namespace Holdfast.Reservation.Run

variable {ρ : Run} {n i b n₀ : Nat} {w : Watch} {slot : SlotId} {claimant : Claimant} {c : Call}

/-- The claimant owns a live hold on the slot. -/
def Owns (ρ : Run) (n : Nat) (slot : SlotId) (claimant : Claimant) : Prop :=
  ∃ hold, ρ.Holds n slot hold ∧ hold.isOwnedBy claimant = true

/-- Only commits of a slot mark it as being booked. -/
theorem Deed.fencing {text : String} {ttl : Nat}
    (deed : ρ.Deed i n₀ c n (.store (.exec w [.put (Key.booked slot) text ttl]))) :
    ∃ claimant hold, c = .commit slot claimant ∧
      Nonempty (ρ.Fencing n₀ n slot claimant w hold) := by
  generalize only : [Write.put (Key.booked slot) text ttl] = writes at deed
  cases deed with
  | spare h => cases h
  | @place slot' claimant w hold ttl' acquires grounds =>
    have first :
        Write.put (Key.hold slot') hold.encode ttl' ∈ [.put (Key.booked slot) text ttl] := by
      rw [only]
      exact List.mem_append_left _ List.mem_cons_self
    exact absurd (Write.put.inj (List.mem_singleton.1 first)).1 (Key.hold_ne_booked slot' slot)
  | remove entitled grounds =>
    rw [grounds.writes_eq] at only
    cases (List.cons.inj only).1
  | clear releases index b early late covers names => cases (List.cons.inj only).1
  | @fence slot' claimant w hold commits grounds =>
    obtain rfl := Key.booked_inj (Write.put.inj (List.cons.inj only).1).1
    exact ⟨claimant, hold, commits, ⟨grounds⟩⟩

/-- A call that marks a slot commits it, on grounds. -/
theorem Commits.fencing {text : String} {ttl : Nat} (call : ρ.call? n i = some c)
    (commits : ρ.Commits n i w [.put (Key.booked slot) text ttl]) :
    ∃ n₀ claimant hold, n₀ < n ∧ ρ.Begins n₀ i c ∧ c = .commit slot claimant ∧
      Nonempty (ρ.Fencing n₀ n slot claimant w hold) := by
  obtain ⟨n₀, lt, begins, deed⟩ := deed_of_call call commits.1.hears
  obtain ⟨claimant, hold, commits, grounds⟩ := deed.fencing
  exact ⟨n₀, claimant, hold, lt, begins, commits, grounds⟩

/-! ## What the watch tells -/

/-- What is live under a key that a committed transaction rests on is what its watch saw. -/
theorem saw_of_covers {key : String} (covers : ρ.Covers w key b)
    (agrees : (ρ.store n).agrees (ρ.clock n) w = true) (version : Option Nat) :
    (ρ.store n).version? (ρ.clock n) key = version ↔ (key, version) ∈ w.versions := by
  constructor
  · rintro rfl
    obtain ⟨a, -, saw⟩ := covers
    rw [Store.version?_of_agrees saw agrees]
    exact saw
  · exact fun seen => Store.version?_of_agrees seen agrees

/-- A hold is live exactly if its key has a version. -/
theorem unheld_iff_version : ρ.Unheld n slot ↔
    (ρ.store n).version? (ρ.clock n) (Key.hold slot) = none := by
  rw [Unheld, read?, Store.read?, Store.version?, Option.map_eq_none_iff, Option.map_eq_none_iff]

/-- At the mark of a commit, the claimant owns whatever live hold there is. -/
theorem Fencing.owns_iff {hold : HoldRecord} (grounds : ρ.Fencing n₀ n slot claimant w hold)
    (agrees : (ρ.store n).agrees (ρ.clock n) w = true) :
    ρ.Owns n slot claimant ↔ ¬ ρ.Unheld n slot := by
  constructor
  · rintro ⟨hold', held, -⟩
    exact not_unheld_of_holds held
  · intro live
    have covers : ρ.Covers w (Key.hold slot) grounds.looked :=
      (grounds.covers _ List.mem_cons_self).mono (Nat.le_of_lt grounds.unfenced_lt)
    rcases unheld_or_holds covers (Nat.le_of_lt grounds.looked_lt) agrees with unheld | stays
    · exact absurd unheld live
    · exact ⟨hold, stays hold grounds.held, grounds.owned⟩

/-- **Whose booking it is.** A commit that books a slot has marked it before. And whenever a commit
marks a slot, its claimant owns a live hold on it at that instant if and only if the watch of the
transaction had seen a live hold; there is no live hold at all if and only if it had seen none. -/
theorem booked_for_owner_iff (call : ρ.call? b i = some (.commit slot claimant))
    (books : ρ.Books b i slot) :
    (∃ f, f < b ∧ ρ.Fences f i slot) ∧
    ∀ f w text, ρ.Commits f i w [.put (Key.booked slot) text fenceTtl] →
      (ρ.Owns f slot claimant ↔ ∃ version, (Key.hold slot, some version) ∈ w.versions) ∧
      (ρ.Unheld f slot ↔ (Key.hold slot, none) ∈ w.versions) := by
  constructor
  · obtain ⟨n₀, c, -, -, -, deed⟩ := deed books.1.hears
    cases deed with
    | spare h => cases h
    | book commits f early late fenced => exact ⟨f, late, fenced⟩
  · intro f w text commits
    have call' : ρ.call? f i = some (.commit slot claimant) := by
      obtain ⟨c, there⟩ := ρ.call?_of_hears i commits.1.hears
      rcases Nat.le_total f b with le | le
      · rw [there, ← call, ρ.call?_of_le i there le]
      · exact ρ.call?_of_le i call le
    obtain ⟨n₀, claimant', hold, -, -, same, ⟨grounds⟩⟩ := commits.fencing call'
    obtain ⟨-, rfl⟩ := Call.commit.inj same
    have covers := grounds.covers _ List.mem_cons_self
    refine ⟨?_, unheld_iff_version.trans (saw_of_covers covers commits.2 none)⟩
    rw [grounds.owns_iff commits.2, unheld_iff_version]
    cases version : (ρ.store f).version? (ρ.clock f) (Key.hold slot) with
    | none =>
      refine ⟨fun live => absurd rfl live, ?_⟩
      rintro ⟨v, seen⟩
      rw [← saw_of_covers covers commits.2, version] at seen
      cases seen
    | some v =>
      refine ⟨fun _ => ⟨v, (saw_of_covers covers commits.2 _).1 version⟩, ?_⟩
      exact fun _ h => by cases h

/-- A commit watches a free slot; then its claimant acquires the slot, so that the commit finds the
hold; then the claimant releases the slot, and the transaction finds it as free as it was watched.
-/
def overtaken : Run :=
  offering [1]
    ([.begin (.commit 1 { holder := ⟨"a"⟩ }), .proceed 0, .proceed 0,
        .begin (.acquire 1 { holder := ⟨"a"⟩ } 120000)] ++ List.replicate 9 (.proceed 1) ++
      [.proceed 0, .proceed 0, .begin (.release 1 { holder := ⟨"a"⟩ })] ++
      List.replicate 7 (.proceed 2) ++ [.proceed 0, .proceed 0])

theorem overtaken_call : overtaken.call? 24 0 = some (.commit 1 { holder := ⟨"a"⟩ }) := by
  decide +kernel

theorem overtaken_commits :
    overtaken.Commits 23 0 ⟨[("hold:1", none), ("booked:1", none)]⟩
      [.put (Key.booked 1) "a" fenceTtl] := ⟨⟨rfl, by decide +kernel⟩, by decide +kernel⟩

theorem overtaken_books : overtaken.Books 24 0 1 :=
  ⟨⟨rfl, by decide +kernel⟩,
    Catalogue.book_eq_ok_iff.2 ⟨⟨1, openingDay, false⟩, by decide +kernel, rfl⟩⟩

/-- The commit books the slot, and when it marked the slot nobody held it, as its watch had seen. -/
theorem overtaken_books_unheld :
    overtaken.call? 24 0 = some (.commit 1 { holder := ⟨"a"⟩ }) ∧ overtaken.Books 24 0 1 ∧
      overtaken.Commits 23 0 ⟨[("hold:1", none), ("booked:1", none)]⟩
        [.put (Key.booked 1) "a" fenceTtl] ∧
      overtaken.Unheld 23 1 ∧ ¬ overtaken.Owns 23 1 { holder := ⟨"a"⟩ } := by
  obtain ⟨owns, unheld⟩ :=
    (booked_for_owner_iff overtaken_call overtaken_books).2 23 _ "a" overtaken_commits
  refine ⟨overtaken_call, overtaken_books, overtaken_commits, unheld.2 (by decide +kernel), ?_⟩
  intro owned
  obtain ⟨version, seen⟩ := owns.1 owned
  have key : Key.hold 1 = "hold:1" := by decide +kernel
  simp [key] at seen

/-- A slot can be booked for a claimant who does not hold it when the commit marks it. -/
theorem booked_without_hold :
    ¬ ∀ (ρ : Run) (f b i : Nat) (slot : SlotId) (claimant : Claimant),
      ρ.call? b i = some (.commit slot claimant) → ρ.Fences f i slot → f < b →
        ρ.Books b i slot → ρ.Owns f slot claimant := by
  intro always
  obtain ⟨hold, held, -⟩ := always overtaken 23 24 0 1 { holder := ⟨"a"⟩ } overtaken_call
    ⟨_, "a", overtaken_commits⟩ (by decide) overtaken_books
  have unheld : overtaken.Unheld 23 1 := by
    unfold Unheld
    decide +kernel
  exact not_unheld_of_holds held unheld

end Holdfast.Reservation.Run
