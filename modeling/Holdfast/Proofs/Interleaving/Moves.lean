import Holdfast.Proofs.Bookings
import Holdfast.Proofs.Interleaving.Run

/-!
# What one move does

Everything that a move can do, once and for all: to the world (`world_succ`), to the store
(`store_succ`), to a booking in the catalogue (`booked_succ`) and to the calls (`calls_succ`,
`begins_of_new`). Time does not go back (`clock_le`), stores evolve (`evolves`), and every store of
a run numbers its writes (`numbered`).
-/

namespace Holdfast.Reservation

namespace System

/-- A call whose effect is carried out goes on with the reply. -/
theorem next_proceed {σ : System} {i : Nat} {call : Call} {begun : Nat} {e : Effect}
    {next : e.Reply → Program Failure Answer} (policy : Policy)
    (h : σ.calls[i]? = some ⟨call, begun, .ask e next⟩) :
    σ.next policy (.proceed i) =
      { world := (σ.world.perform e).2
        calls := σ.calls.set i ⟨call, begun, next (σ.world.perform e).1⟩ } := by
  simp only [System.next, resume, h]

/-- A call whose effect fails goes on with the reply, and nothing else happens. -/
theorem next_fail {σ : System} {i : Nat} {call : Call} {begun : Nat} {e : Effect}
    {next : e.Reply → Program Failure Answer} (policy : Policy)
    (h : σ.calls[i]? = some ⟨call, begun, .ask e next⟩) {fault : Fault} {reply : e.Reply}
    (some_reply : fault.reply? e = some reply) :
    σ.next policy (.fail i fault) =
      { σ with calls := σ.calls.set i ⟨call, begun, next reply⟩ } := by
  simp only [System.next, resume, h, some_reply, Option.map_some]

/-- A call whose effect gets no reply stays as it is. -/
theorem resume_of_none {σ : System} {i : Nat} {reply? : (e : Effect) → Option (e.Reply × World)}
    (h : ∀ e, σ.pending i = some e → reply? e = none) : σ.resume i reply? = σ := by
  unfold resume
  split
  · rename_i call begun e next there
    have waits : σ.pending i = some e := by rw [pending, there]; rfl
    rw [h e waits]
  · rfl

/-- A reply to one call leaves the others as they are. -/
theorem resume_calls_ne {σ : System} {i j : Nat} (h : j ≠ i)
    (reply? : (e : Effect) → Option (e.Reply × World)) :
    (σ.resume j reply?).calls[i]? = σ.calls[i]? := by
  unfold resume
  split
  · split
    · exact List.getElem?_set_ne h
    · rfl
  · rfl

/-- A call that waits for an effect has begun, and a reply lets it go on. -/
theorem pending_eq_some {σ : System} {i : Nat} {e : Effect} (h : σ.pending i = some e) :
    ∃ call begun next, σ.calls[i]? = some ⟨call, begun, .ask e next⟩ := by
  obtain ⟨⟨call, begun, rest⟩, there, waits⟩ := Option.bind_eq_some_iff.1 h
  cases rest with
  | done a => cases waits
  | fail e => cases waits
  | ask e' next =>
    obtain rfl := Option.some.inj waits
    exact ⟨call, begun, next, there⟩

end System

/-- No effect takes time. -/
@[simp] theorem World.perform_clock (w : World) (e : Effect) : (w.perform e).2.clock = w.clock := by
  cases e <;> rfl

/-- Nothing that happens outside the calls writes to the store. -/
@[simp] theorem World.drift_store (w : World) (move : Move) : (w.drift move).store = w.store := by
  cases move <;> rfl

/-- Nothing that happens outside the calls turns time back. -/
theorem World.le_drift_clock (w : World) (move : Move) : w.clock ≤ (w.drift move).clock := by
  cases move with
  | wait milliseconds => exact Nat.le_add_right _ _
  | _ => exact Nat.le_refl _

namespace Run

variable (ρ : Run)

/-- The state after one more move. -/
theorem state_succ (n : Nat) : ρ.state (n + 1) = (ρ.state n).next ρ.policy (ρ.moves n) := rfl

/-- A run starts at its start. -/
@[simp] theorem world_zero : ρ.world 0 = ρ.start := rfl

/-! ## The world -/

/-- **What a move does to the world**: it carries out an effect that a call waits for, or it is the
world's own. -/
theorem world_succ (n : Nat) :
    (∃ i e, ρ.Performs n i e ∧ ρ.world (n + 1) = ((ρ.world n).perform e).2) ∨
      ρ.world (n + 1) = (ρ.world n).drift (ρ.moves n) := by
  rw [world, world, state_succ]
  cases move : ρ.moves n with
  | proceed i =>
    cases waits : (ρ.state n).pending i with
    | none =>
      rw [System.next, System.resume_of_none (by simp [waits])]
      exact .inr rfl
    | some e =>
      obtain ⟨call, begun, next, there⟩ := System.pending_eq_some waits
      rw [System.next_proceed ρ.policy there]
      exact .inl ⟨i, e, ⟨move, waits⟩, rfl⟩
  | fail i fault =>
    right
    by_cases h : ∃ e reply, (ρ.state n).pending i = some e ∧ fault.reply? e = some reply
    · obtain ⟨e, reply, waits, some_reply⟩ := h
      obtain ⟨call, begun, next, there⟩ := System.pending_eq_some waits
      rw [System.next_fail ρ.policy there some_reply]
      rfl
    · rw [System.next, System.resume_of_none]
      · rfl
      · intro e waits
        rw [Option.map_eq_none_iff, Option.eq_none_iff_forall_ne_some]
        exact fun reply some_reply => h ⟨e, reply, waits, some_reply⟩
  | _ => exact .inr rfl

/-- An effect that is carried out changes the world as it does alone. -/
theorem world_of_performs {n i : Nat} {e : Effect} (h : ρ.Performs n i e) :
    ρ.world (n + 1) = ((ρ.world n).perform e).2 := by
  obtain ⟨move, waits⟩ := h
  obtain ⟨call, begun, next, there⟩ := System.pending_eq_some waits
  rw [world, world, state_succ, move, System.next_proceed ρ.policy there]

/-- Time does not go back with a move. -/
theorem clock_le_succ (n : Nat) : ρ.clock n ≤ ρ.clock (n + 1) := by
  rw [clock, clock]
  rcases ρ.world_succ n with ⟨i, e, -, after⟩ | after
  · exact Nat.le_of_eq (by rw [after, World.perform_clock])
  · rw [after]
    exact World.le_drift_clock _ _

/-- Time does not go back. -/
theorem clock_le {n m : Nat} (h : n ≤ m) : ρ.clock n ≤ ρ.clock m := by
  induction h with
  | refl => exact Nat.le_refl _
  | step _ ih => exact Nat.le_trans ih (ρ.clock_le_succ _)

/-- A schedule that is over waits. -/
theorem playing_moves (policy : Policy) (start : World) (unused : start.store = {})
    (schedule : List Move) (n : Nat) :
    (n < schedule.length ∧ (playing policy start unused schedule).moves n ∈ schedule) ∨
      (playing policy start unused schedule).moves n = .wait 0 := by
  simp only [playing, List.getD_eq_getElem?_getD]
  rcases Nat.lt_or_ge n schedule.length with lt | le
  · left
    rw [List.getElem?_eq_getElem lt]
    exact ⟨lt, List.getElem_mem lt⟩
  · right
    rw [List.getElem?_eq_none le]
    rfl

/-- A schedule that is over takes no more time. -/
theorem playing_clock_le (policy : Policy) (start : World) (unused : start.store = {})
    (schedule : List Move) (n : Nat) :
    (playing policy start unused schedule).clock n ≤
      (playing policy start unused schedule).clock schedule.length := by
  rcases Nat.le_total n schedule.length with le | le
  · exact clock_le _ le
  · induction le with
    | refl => exact Nat.le_refl _
    | @step n le ih =>
      have waits : (playing policy start unused schedule).moves n = .wait 0 :=
        (playing_moves policy start unused schedule n).resolve_left fun h =>
          absurd h.1 (Nat.not_lt.2 le)
      have still : (playing policy start unused schedule).clock (n + 1) =
          (playing policy start unused schedule).clock n := by
        rw [clock, world, state_succ, waits]
        rfl
      rw [still]
      exact ih

/-! ## The store -/

/-- **What a move does to the store**: nothing, unless it carries out a request, and then no time
passes. -/
theorem store_succ (n : Nat) :
    (∃ i r, ρ.Performs n i (.store r) ∧ ρ.clock (n + 1) = ρ.clock n ∧
        ρ.store (n + 1) = ((ρ.store n).answer (ρ.clock n) r).2) ∨
      ρ.store (n + 1) = ρ.store n := by
  rw [store, store, clock, clock]
  rcases ρ.world_succ n with ⟨i, e, performs, after⟩ | after
  · cases e with
    | store r => exact .inl ⟨i, r, performs, by rw [after, World.perform_clock], by rw [after]; rfl⟩
    | _ =>
      right
      rw [after]
      rfl
  · right
    rw [after, World.drift_store]

/-- The store evolves with a move. -/
theorem evolves_succ (n : Nat) : (ρ.store n).Evolves (ρ.store (n + 1)) := by
  rcases ρ.store_succ n with ⟨i, r, -, -, after⟩ | after
  · rw [after]
    exact Store.evolves_answer _ _ r
  · rw [after]
    exact .refl _

/-- A later store came out of an earlier one. -/
theorem evolves {n m : Nat} (h : n ≤ m) : (ρ.store n).Evolves (ρ.store m) := by
  induction h with
  | refl => exact .refl _
  | step _ ih => exact ih.trans (ρ.evolves_succ _)

/-- The writes to the store of a run are numbered. -/
theorem numbered (n : Nat) : (ρ.store n).Numbered := by
  refine (ρ.evolves (Nat.zero_le n)).numbered ?_
  rw [store, world_zero, ρ.unused]
  exact Store.numbered_empty

/-! ## The catalogue -/

/-- Slots are put into the catalogue only under numbers that it does not have. -/
def NeverReinserted : Prop :=
  ∀ n r, ρ.moves n = .insert r → (ρ.catalogue n).get? r.id = none

/-- A schedule that puts no slot into the catalogue puts none in twice. -/
theorem playing_fresh {policy : Policy} {start : World} {unused : start.store = {}}
    {schedule : List Move} (h : ∀ r, .insert r ∉ schedule) :
    (playing policy start unused schedule).NeverReinserted := by
  intro n r move
  rcases playing_moves policy start unused schedule n with ⟨-, mem⟩ | waits
  · exact absurd (move ▸ mem) (h r)
  · rw [move] at waits
    cases waits

variable {ρ}

/-- A booked slot stays booked with a move. -/
theorem booked_succ (fresh : ρ.NeverReinserted) {n : Nat} {slot : SlotId} {r : SlotRecord}
    (known : (ρ.catalogue n).get? slot = some r) (booked : r.booked = true) :
    (ρ.catalogue (n + 1)).get? slot = some r := by
  rw [catalogue] at known ⊢
  rcases ρ.world_succ n with ⟨i, e, -, after⟩ | after
  · rw [after]
    cases e with
    | book slot' => exact Catalogue.booked_of_book known booked slot'
    | _ => exact known
  · rw [after]
    cases move : ρ.moves n with
    | book slot' => exact Catalogue.booked_of_book known booked slot'
    | insert r' =>
      have other : slot ≠ r'.id := by
        rintro rfl
        rw [← catalogue, fresh n r' move] at known
        cases known
      exact (Catalogue.get?_insert_ne _ other).trans known
    | _ => exact known

/-- A booked slot stays booked. -/
theorem booked_of_le (fresh : ρ.NeverReinserted) {n m : Nat} {slot : SlotId} {r : SlotRecord}
    (known : (ρ.catalogue n).get? slot = some r) (booked : r.booked = true) (le : n ≤ m) :
    (ρ.catalogue m).get? slot = some r := by
  induction le with
  | refl => exact known
  | step _ ih => exact booked_succ fresh ih booked

variable (ρ)

/-! ## Calls -/

/-- The call hears nothing with the next move. -/
def Idle (n i : Nat) : Prop := ∀ e reply, ¬ ρ.Hears n i e reply

/-- A call that hears a reply goes on with it. -/
theorem calls_of_hears {n i : Nat} {call : Call} {begun : Nat} {e : Effect}
    {next : e.Reply → Program Failure Answer} {reply : e.Reply} (hears : ρ.Hears n i e reply)
    (there : (ρ.state n).calls[i]? = some ⟨call, begun, .ask e next⟩) :
    (ρ.state (n + 1)).calls[i]? = some ⟨call, begun, next reply⟩ := by
  have inside : i < (ρ.state n).calls.length := (List.getElem?_eq_some_iff.1 there).1
  obtain ⟨-, ⟨move, rfl⟩ | ⟨fault, move, some_reply⟩⟩ := hears
  · rw [state_succ, move, System.next_proceed ρ.policy there]
    exact List.getElem?_set_self inside
  · rw [state_succ, move, System.next_fail ρ.policy there some_reply]
    exact List.getElem?_set_self inside

/-- A call that hears nothing stays as it is. -/
theorem calls_of_idle {n i : Nat} {r : Running} (idle : ρ.Idle n i)
    (there : (ρ.state n).calls[i]? = some r) : (ρ.state (n + 1)).calls[i]? = some r := by
  have inside : i < (ρ.state n).calls.length := (List.getElem?_eq_some_iff.1 there).1
  rw [state_succ]
  cases move : ρ.moves n with
  | begin c =>
    rw [System.next, List.getElem?_append_left inside]
    exact there
  | proceed j =>
    by_cases same : j = i
    · subst same
      rw [System.next, System.resume_of_none]
      · exact there
      · intro e waits
        exact absurd ⟨waits, .inl ⟨move, rfl⟩⟩ (idle e ((ρ.world n).perform e).1)
    · rw [System.next, System.resume_calls_ne same]
      exact there
  | fail j fault =>
    by_cases same : j = i
    · subst same
      rw [System.next, System.resume_of_none]
      · exact there
      · intro e waits
        rw [Option.map_eq_none_iff, Option.eq_none_iff_forall_ne_some]
        intro reply some_reply
        exact idle e reply ⟨waits, .inr ⟨fault, move, some_reply⟩⟩
    · rw [System.next, System.resume_calls_ne same]
      exact there
  | _ => exact there

/-- **What a move does to a call**: it lets the call go on with a reply, or leaves it as it is. -/
theorem calls_succ {n i : Nat} {r : Running} (there : (ρ.state n).calls[i]? = some r) :
    (ρ.Idle n i ∧ (ρ.state (n + 1)).calls[i]? = some r) ∨
      ∃ e next reply, r.rest = .ask e next ∧ ρ.Hears n i e reply ∧
        (ρ.state (n + 1)).calls[i]? = some { r with rest := next reply } := by
  by_cases speaks : ∃ e reply, ρ.Hears n i e reply
  · right
    obtain ⟨e, reply, hears⟩ := speaks
    obtain ⟨call, begun, next, there'⟩ := System.pending_eq_some hears.1
    obtain rfl := Option.some.inj (there'.symm.trans there)
    exact ⟨e, next, reply, rfl, hears, ρ.calls_of_hears hears there⟩
  · left
    have idle : ρ.Idle n i := fun e reply hears => speaks ⟨e, reply, hears⟩
    exact ⟨idle, ρ.calls_of_idle idle there⟩

/-- **Where calls come from**: one that is new began with the move. -/
theorem begins_of_new {n i : Nat} {r : Running} (new : (ρ.state n).calls[i]? = none)
    (there : (ρ.state (n + 1)).calls[i]? = some r) :
    ∃ c, ρ.Begins n i c ∧ r = ⟨c, ρ.clock n, c.program ρ.policy⟩ := by
  have outside : (ρ.state n).calls.length ≤ i := List.getElem?_eq_none_iff.1 new
  rw [state_succ] at there
  have resumed : ∀ j reply?, ((ρ.state n).resume j reply?).calls[i]? ≠ some r := by
    intro j reply? there
    have inside := (List.getElem?_eq_some_iff.1 there).1
    unfold System.resume at inside
    split at inside
    · split at inside
      · rw [List.length_set] at inside
        exact absurd inside (Nat.not_lt.2 outside)
      · exact absurd inside (Nat.not_lt.2 outside)
    · exact absurd inside (Nat.not_lt.2 outside)
  cases move : ρ.moves n with
  | begin c =>
    rw [move, System.next, List.getElem?_append_right outside,
      List.getElem?_singleton] at there
    split at there
    · rename_i last
      exact ⟨c, ⟨move, by omega⟩, (Option.some.inj there).symm⟩
    · cases there
  | proceed j =>
    rw [move] at there
    exact absurd there (resumed j _)
  | fail j fault =>
    rw [move] at there
    exact absurd there (resumed j _)
  | _ =>
    rw [move] at there
    exact absurd (new.symm.trans there) (by simp)

end Run
end Holdfast.Reservation
