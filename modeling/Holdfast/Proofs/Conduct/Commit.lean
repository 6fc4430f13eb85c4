import Holdfast.Proofs.Conduct.Release
import Holdfast.Reservation.Commit

/-!
# What a commit does

A commit marks the slot on the grounds that a `Fencing` lists, then books it, then takes away
whatever hold is left. It takes its own mark off again only when the booking failed, once, and then
it fails itself. So a commit that gives an answer of success has marked, booked and cleared the
slot, in this order, and its mark stayed (`Settled`).
-/

namespace Holdfast.Reservation.Run

variable {ρ : Run} {i n₀ n : Nat} {c : Call} {slot : SlotId} {claimant : Claimant}
  {pledge : Nat → Effect → Prop}

/-- What takes the mark of a booking off. -/
def unmarking (slot : SlotId) : Effect := .store (.delete (Key.booked slot))

/-- One attempt to mark a slot. -/
theorem keeps_tryFence {promise : CommitOutcome → Nat → Prop} (sparing : Sparing pledge)
    (begun : n₀ < n)
    (effect : ∀ m w hold, ρ.Fencing n₀ m slot claimant w hold →
      pledge m (.store (.exec w [.put (Key.booked slot) hold.owner.text fenceTtl])))
    (marked : ∀ m day, n ≤ m → ρ.Fences m i slot → promise (.committed day) (m + 1))
    (noHold : ∀ m, n ≤ m → promise .noHold m) (notOwner : ∀ m, n ≤ m → promise .notOwner m) :
    ρ.Keeps i pledge (tried (okay promise)) (tryFence slot claimant) n := by
  refine .bind (keeps_watch sparing ?_ fun _ _ _ => trivial)
  intro watched le
  refine .bind (keeps_isFenced sparing ?_ fun _ _ _ => trivial)
  intro unfenced lt fenced unmarked
  cases fenced with
  | true => exact trivial
  | false =>
    have covers : ∀ key ∈ [Key.hold slot, Key.booked slot],
        ρ.Covers ((ρ.store watched).watch (ρ.clock watched) [Key.hold slot, Key.booked slot]) key
          unfenced :=
      fun key mem => (covers_watch mem).mono (by omega)
    refine .bind (keeps_readHold sparing ?_ ?_ fun _ _ _ => trivial)
    · exact fun m low _ => noHold (m + 1) (by omega)
    · intro looked lt' hold held
      cases owned : hold.isOwnedBy claimant with
      | false =>
        simp only [andThen, owned, Bool.false_eq_true, if_false]
        exact notOwner (looked + 1) (by omega)
      | true =>
        simp only [andThen, owned, if_true]
        refine keeps_transact ?_ ?_ (fun _ _ => trivial) fun _ _ _ => trivial
        · exact fun m low => effect m _ hold
            ⟨unfenced, looked, by omega, by omega, by omega, covers, unmarked.1 rfl, held, owned⟩
        · exact fun m low commits => marked m _ (by omega) ⟨_, _, commits⟩

/-- One attempt to take away the hold that is left. -/
theorem keeps_tryClear {promise : Unit → Nat → Prop} (sparing : Sparing pledge) (begun : n₀ < n)
    (effect : ∀ m w hold writes, n ≤ m → ρ.Removal n₀ m slot w hold writes →
      pledge m (.store (.exec w writes)))
    (cleared : ∀ m, n ≤ m → ρ.Clears m i slot → promise () (m + 1)) :
    ρ.Keeps i pledge (tried (okay promise)) (tryClear slot) n := by
  refine .bind (keeps_watch sparing ?_ fun _ _ _ => trivial)
  intro m le
  refine .bind (keeps_readHold sparing ?_ ?_ fun _ _ _ => trivial)
  · exact fun m' le' unheld => cleared m' (by omega) (.inl unheld)
  · intro m' le' hold held
    have covers := (covers_watch (ρ := ρ) (b := m) (List.mem_singleton_self (Key.hold slot))).mono
      (show m ≤ m' by omega)
    exact keeps_removeHold sparing (by omega) (Nat.lt_succ_self m')
      ((seen_watch m _).mono (by omega)) covers held
      (fun k w' writes low grounds => effect k w' hold writes (by omega) grounds)
      (fun k w' _ low grounds commits =>
        cleared k (by omega) (.inr ⟨w', grounds.stale, grounds.writes_eq ▸ commits⟩))
      (fun _ _ => trivial) (fun _ _ _ => trivial)

/-- Booking, or taking the mark off again. -/
theorem keeps_bookOrUndo {promise : Unit → Nat → Prop}
    (commits : c = .commit slot claimant) {f : Nat} (early : n₀ < f) (late : f < n)
    (fences : ρ.Fences f i slot) (once : ρ.Avoids i (unmarking slot) f n)
    (booked : ∀ b reply, n ≤ b → ρ.Books b i slot → ρ.Quiet i n b →
      ρ.Hears b i (.book slot) reply → promise () (b + 1)) :
    ρ.Keeps i (ρ.Deed i n₀ c) (okay promise) (bookOrUndo slot) n := by
  intro b le quiet reply hears
  refine ⟨.book commits f early (by omega) fences, ?_⟩
  have untouched : ρ.Avoids i (unmarking slot) f (b + 1) :=
    (once.quiet quiet).hears hears (by simp [unmarking])
  -- Every error but one is followed by the same undoing.
  have undone : ∀ e, ρ.Keeps i (ρ.Deed i n₀ c) (okay promise)
      (ask (.delete (Key.booked slot)) >>= fun _ => .fail (.ofCatalogue e)) (b + 1) := by
    intro e m le' quiet' reply' hears'
    refine ⟨.unmark commits f early (by omega) fences (untouched.quiet quiet'), ?_⟩
    cases reply' <;> exact trivial
  cases reply with
  | ok done =>
    have heard := hears
    obtain ⟨waits, ⟨move, truth⟩ | ⟨fault, -, failed⟩⟩ := heard
    · exact booked b _ le ⟨⟨move, waits⟩, truth.symm⟩ quiet hears
    · cases fault <;> cases failed
  | error e =>
    cases e with
    | alreadyBooked other => exact trivial
    | unknown other => exact undone _
    | unavailable reason => exact undone _

/-- **A commit that succeeded**: it marked the slot, booked it and cleared it, and the mark stayed.
-/
structure Settled (ρ : Run) (i n₀ : Nat) (slot : SlotId) (n : Nat) where
  fenced : Nat
  booked : Nat
  cleared : Nat
  begun_lt : n₀ < fenced
  fenced_lt : fenced < booked
  booked_lt : booked < cleared
  cleared_lt : cleared < n
  fences : ρ.Fences fenced i slot
  books : ρ.Books booked i slot
  clears : ρ.Clears cleared i slot
  marked : ρ.Avoids i (unmarking slot) n₀ n

/-- What a commit does at a move when it does not take a mark off. -/
def Marking (ρ : Run) (i n₀ : Nat) (c : Call) (slot : SlotId) (m : Nat) (e : Effect) : Prop :=
  ρ.Deed i n₀ c m e ∧ e ≠ unmarking slot

/-- Whatever nobody notices takes no mark off. -/
theorem sparing_marking (ρ : Run) (i n₀ : Nat) (c : Call) (slot : SlotId) :
    Sparing (ρ.Marking i n₀ c slot) := by
  refine fun m e h => ⟨.spare h, ?_⟩
  rintro rfl
  cases h

/-- Marking a slot: if it says so, the last move marked it. -/
theorem keeps_fence (commits : c = .commit slot claimant) (begun : n₀ < n) :
    ρ.Keeps i (ρ.Marking i n₀ c slot)
      (okay fun o m => ∀ day, o = .committed day → ∃ f, n₀ < f ∧ m = f + 1 ∧ ρ.Fences f i slot)
      (retrying ρ.policy .commit (tryFence slot claimant)) n := by
  refine keeps_retrying (sparing_marking ρ i n₀ c slot) ?_ fun _ _ _ => trivial
  intro m le
  refine keeps_tryFence (sparing_marking ρ i n₀ c slot) (show n₀ < m by omega) ?_ ?_ (by simp)
    (by simp)
  · exact fun _ _ _ grounds => ⟨.fence commits grounds, by simp [unmarking]⟩
  · exact fun f _ low fences _ _ => ⟨f, by omega, rfl, fences⟩

/-- Clearing a slot that the call has marked: the last move cleared it. -/
theorem keeps_clear (commits : c = .commit slot claimant) {f : Nat} (early : n₀ < f) (late : f < n)
    (fences : ρ.Fences f i slot) :
    ρ.Keeps i (ρ.Marking i n₀ c slot) (okay fun _ m => ∃ x, n ≤ x ∧ m = x + 1 ∧ ρ.Clears x i slot)
      (retrying ρ.policy .commit (tryClear slot)) n := by
  refine keeps_retrying (sparing_marking ρ i n₀ c slot) ?_ fun _ _ _ => trivial
  intro m le
  refine keeps_tryClear (sparing_marking ρ i n₀ c slot) (show n₀ < m by omega) ?_ ?_
  · exact fun _ _ _ _ low grounds =>
      ⟨.remove (.inr ⟨claimant, f, commits, early, by omega, fences⟩) grounds, by simp [unmarking]⟩
  · exact fun x low clears => ⟨x, by omega, rfl, clears⟩

/-- What a commit still has to do when it has cleared the slot that it booked: it tells of that. -/
theorem keeps_telling {promise : CommitOutcome → Nat → Prop} {day day' : Day} {b : Nat}
    (early : n₀ < b) (late : b < n) (grounds : ρ.Announcing i n₀ c b (.booked slot day'))
    (fresh : ρ.Avoids i (unmarking slot) n₀ n)
    (value : ∀ m, n ≤ m → ρ.Avoids i (unmarking slot) n₀ m → promise (.committed day) m) :
    ρ.Keeps i (ρ.Deed i n₀ c) (okay promise)
      (count .holdsCommitted >>= fun _ => announce (.booked slot day') >>= fun _ =>
        .done (.committed day)) n := by
  have sparing := sparing_marking ρ i n₀ c slot
  have counted : ρ.Keeps i (ρ.Marking i n₀ c slot) (okay fun _ _ => True)
      (count .holdsCommitted) n := keeps_count sparing fun _ _ => trivial
  refine .bind_okay ((counted.avoid fresh).mono_okay ?_)
  rintro - m ⟨-, le, fresh'⟩
  have told : ρ.Keeps i (ρ.Marking i n₀ c slot) (okay fun _ _ => True)
      (announce (.booked slot day')) m :=
    keeps_announce (fun _ _ => ⟨.announce early (by omega) grounds, by simp [unmarking]⟩)
      fun _ _ => trivial
  refine .bind_okay ((told.avoid fresh').mono_okay ?_)
  rintro - m' ⟨-, le', fresh''⟩
  exact value m' (by omega) fresh''

/-- **What a commit does.** -/
theorem keeps_commit {promise : CommitOutcome → Nat → Prop} (commits : c = .commit slot claimant)
    (begun : n₀ < n) (fresh : ρ.Avoids i (unmarking slot) n₀ n)
    (value : ∀ m o, n ≤ m →
      (∀ day, o = .committed day → Nonempty (ρ.Settled i n₀ slot m)) → promise o m) :
    ρ.Keeps i (ρ.Deed i n₀ c) (okay promise) (commit ρ.policy slot claimant) n := by
  have found : ρ.Keeps i (ρ.Marking i n₀ c slot)
      (okay fun r m => ∃ a, n₀ < a ∧ a < m ∧ (ρ.catalogue a).get? slot = some r) (find slot) n :=
    keeps_find (sparing_marking ρ i n₀ c slot)
      (fun a le _ known => ⟨a, by omega, Nat.lt_succ_self a, known⟩) fun _ _ _ => trivial
  refine .bind_okay ((found.avoid fresh).mono_okay ?_)
  rintro r m₁ ⟨⟨a, begun', early', known⟩, le₁, fresh₁⟩
  cases r.booked with
  | true => exact trivial
  | false =>
    simp only [Bool.false_eq_true, if_false]
    refine .bind_okay (((keeps_fence commits (by omega)).avoid fresh₁).mono_okay ?_)
    rintro o m₂ ⟨success, le₂, fresh₂⟩
    cases o with
    | noHold => exact value m₂ _ (by omega) (by simp)
    | notOwner => exact value m₂ _ (by omega) (by simp)
    | committed day =>
      obtain ⟨f, early, rfl, fences⟩ := success day rfl
      refine .bind_okay (keeps_bookOrUndo commits early (Nat.lt_succ_self f) fences
        (fun k reply low high => fresh₂ k reply (by omega) high) ?_)
      intro b reply le₃ books quiet hears
      have fresh₃ : ρ.Avoids i (unmarking slot) n₀ (b + 1) :=
        (fresh₂.quiet quiet).hears hears (by simp [unmarking])
      refine .bind_okay
        (((keeps_clear commits early (by omega) fences).avoid fresh₃).mono_okay ?_)
      rintro - m₃ ⟨⟨x, low, rfl, clears⟩, le₄, fresh₄⟩
      refine keeps_telling (by omega) (by omega)
        (.booked commits begun' (by omega) known books) fresh₄ ?_
      intro m₄ le₅ fresh₅
      exact value m₄ _ (by omega) fun _ _ =>
        ⟨⟨f, b, x, early, by omega, low, by omega, fences, books, clears, fresh₅⟩⟩

end Holdfast.Reservation.Run
