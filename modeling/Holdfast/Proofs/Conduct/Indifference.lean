import Holdfast.Proofs.Conduct.Composition
import Holdfast.Proofs.Conduct.Call
import Holdfast.Proofs.Conduct.Looking
import Holdfast.Proofs.Register.Announcing
import Holdfast.Proofs.Store.Sight

/-!
# Calls in worlds that look alike

Two worlds look alike if at most their stores, in what is no longer live, their rooms and their
counters differ. Calls that run alone in them give the same result and leave worlds that look alike
(`indifferent_call`); so does a listing of holds, as long as it has pages enough for the live holds
(`indifferent_listHolds`). A pass over what expired leaves a world that looks like the one before it
(`World.alike_reap`).
-/

namespace Holdfast.Reservation

/-- **The worlds look alike** to everyone who does not count and listens in no room. -/
structure World.Alike (w v : World) : Prop where
  clock : w.clock = v.clock
  catalogue : w.catalogue = v.catalogue
  admission : w.admission = v.admission
  store : w.store.Alike w.clock v.store

namespace World.Alike

variable {w v u : World}

theorem refl (w : World) : w.Alike w := ⟨rfl, rfl, rfl, .refl _ _⟩

theorem symm (alike : w.Alike v) : v.Alike w where
  clock := alike.clock.symm
  catalogue := alike.catalogue.symm
  admission := alike.admission.symm
  store := alike.clock ▸ alike.store.symm

theorem trans (first : w.Alike v) (second : v.Alike u) : w.Alike u where
  clock := first.clock.trans second.clock
  catalogue := first.catalogue.trans second.catalogue
  admission := first.admission.trans second.admission
  store := first.store.trans (first.clock ▸ second.store)

/-- Whatever happens outside leaves worlds that look alike. -/
theorem drift (alike : w.Alike v) (move : Move) : (w.drift move).Alike (v.drift move) := by
  obtain ⟨clock, catalogue, admission, store⟩ := alike
  cases move with
  | wait milliseconds =>
    exact ⟨congrArg (· + milliseconds) clock, catalogue, admission,
      store.later (Nat.le_add_right _ _)⟩
  | regulate a => exact ⟨clock, catalogue, rfl, store⟩
  | insert r => exact ⟨clock, congrArg (·.insert r) catalogue, admission, store⟩
  | book slot => exact ⟨clock, congrArg (fun c => (c.book slot).2) catalogue, admission, store⟩
  | _ => exact ⟨clock, catalogue, admission, store⟩

/-- An effect that is about single keys has the same reply. -/
theorem perform (alike : w.Alike v) {e : Effect} (plain : e.isPlain = true) :
    (w.perform e).1 = (v.perform e).1 ∧ (w.perform e).2.Alike (v.perform e).2 := by
  rcases w with ⟨⟨s, catalogue, admission, rooms⟩, clock, metrics⟩
  rcases v with ⟨⟨t, catalogue', admission', rooms'⟩, clock', metrics'⟩
  obtain ⟨same_clock, same_catalogue, same_admission, store⟩ := alike
  obtain rfl : clock = clock' := same_clock
  obtain rfl : catalogue = catalogue' := same_catalogue
  obtain rfl : admission = admission' := same_admission
  cases e with
  | store r =>
    have no_scan : ∀ start cursor count, r ≠ .scan start cursor count := by
      rintro start cursor count rfl
      cases plain
    have no_evict : r ≠ .evict := by
      rintro rfl
      cases plain
    obtain ⟨same, alike⟩ := store.answer no_scan no_evict
    exact ⟨congrArg Except.ok same, rfl, rfl, rfl, alike⟩
  | _ => exact ⟨rfl, rfl, rfl, rfl, store⟩

end World.Alike

open Program

/-! ## Programs that cannot tell -/

/-- **The program cannot tell worlds apart that look alike**: it has the same result in both and leaves
worlds that look alike. -/
def Program.Indifferent {ε α : Type} (p : Program ε α) : Prop :=
  ∀ w v : World, w.Alike v → (w.run p).1 = (v.run p).1 ∧ (w.run p).2.Alike (v.run p).2

namespace Program.Indifferent

variable {ε ε' α β : Type} {p : Program ε α}

/-- A program that is over. -/
theorem done (a : α) : (.done a : Program ε α).Indifferent := fun _ _ alike => ⟨rfl, alike⟩

/-- A program that has failed. -/
theorem fail (e : ε) : (.fail e : Program ε α).Indifferent := fun _ _ alike => ⟨rfl, alike⟩

/-- Programs one after the other. -/
theorem bind {f : α → Program ε β} (first : p.Indifferent) (rest : ∀ a, (f a).Indifferent) :
    (p >>= f).Indifferent := by
  intro w v alike
  obtain ⟨same, alike'⟩ := first w v alike
  rcases left : w.run p with ⟨r, w'⟩
  rcases right : v.run p with ⟨r', v'⟩
  rw [left, right] at same alike'
  obtain rfl : r = r' := same
  cases r with
  | error e =>
    rw [World.run_seq_error left, World.run_seq_error right]
    exact ⟨rfl, alike'⟩
  | ok a =>
    rw [World.run_seq left, World.run_seq right]
    exact rest a w' v' alike'

/-- A program whose error is a value. -/
theorem attempt (h : p.Indifferent) :
    (p.attempt : Program ε' (Except ε α)).Indifferent := by
  intro w v alike
  obtain ⟨same, alike'⟩ := h w v alike
  rw [World.run_attempt_eq, World.run_attempt_eq]
  exact ⟨congrArg Except.ok same, alike'⟩

/-- Asking for one effect that is about single keys. -/
theorem perform {e : Effect} (plain : e.isPlain = true) :
    (Program.perform e : Program ε e.Reply).Indifferent := by
  intro w v alike
  obtain ⟨same, alike'⟩ := alike.perform plain
  exact ⟨congrArg Except.ok same, alike'⟩

/-- Going on with a value, or failing. -/
theorem orFail (f : ε' → ε) (r : Except ε' α) : (Program.orFail f r).Indifferent := by
  cases r with
  | ok a => exact .done a
  | error e => exact .fail _

/-- Reading a text and decoding it. -/
theorem decoded {key : String} {f : Option String → Program Failure α}
    (rest : ∀ text, (f text).Indifferent) : (Reservation.ask (.read key) >>= f).Indifferent :=
  bind (bind (perform rfl) (orFail _)) rest

end Program.Indifferent

/-- Programs cannot tell worlds apart if their parts cannot. -/
theorem composes_indifferent : Composes fun α (p : Program Failure α) => p.Indifferent where
  done := .done
  fail _ := .fail _
  bind := .bind
  attempt := .attempt
  perform := .perform
  readHold slot := by
    refine .decoded fun text => ?_
    cases text with
    | none => exact .done _
    | some text => exact .orFail _ _
  readIndex index := by
    refine .decoded fun text => ?_
    cases text with
    | none => exact .done _
    | some text => exact .orFail _ _

/-- **Calls cannot tell worlds apart that look alike.** -/
theorem indifferent_call (policy : Policy) {c : Call} (no_listing : c ≠ .listHolds)
    (no_pass : c ≠ .reap) : (c.program policy).Indifferent :=
  composes_indifferent.call policy c (fun same => absurd same no_listing)
    fun same => absurd same no_pass

/-! ## Passes over what expired -/

/-- Whatever leaves the store and the catalogue as they are cannot be noticed. -/
theorem World.alike_of_spares {ε α : Type} {p : Program ε α} (spares : p.Spares) (w : World) :
    (w.run p).2.Alike w := by
  obtain ⟨metrics, rooms, same⟩ := run_of_spares spares w
  rw [same]
  exact ⟨rfl, rfl, rfl, .refl _ _⟩

/-- **A pass over what expired cannot be noticed.** -/
theorem World.alike_reap (w : World) : (w.run reap).2.Alike w := by
  obtain ⟨metrics, rooms, passed⟩ := World.Mirrors.run_reap w
  rw [passed]
  exact ⟨rfl, rfl, rfl, Store.alike_evict _ _⟩

/-! ## Listings -/

/-- The row of the hold that an entry writes, while it is live. -/
def World.rowOf? (w : World) (entry : String × String) : Option HoldRow := do
  let hold ← HoldRecord.decode? entry.2
  let ttl ← w.store.remaining? w.clock entry.1
  return ⟨hold.slot, hold.owner, hold.day, secondsUp ttl⟩

/-- The rows of a page. -/
theorem World.run_rowsOf (w : World) (entries : List (String × String)) :
    ∃ metrics, w.run (rowsOf entries) = (.ok (entries.filterMap w.rowOf?), { w with metrics }) := by
  induction entries generalizing w with
  | nil => exact ⟨w.metrics, rfl⟩
  | cons entry rest ih =>
    obtain ⟨key, text⟩ := entry
    unfold rowsOf HoldRecord.stored
    cases decoded : HoldRecord.decode? text with
    | none =>
      obtain ⟨metrics, later⟩ := ih { w with metrics := w.metrics.add .decodeFailures 1 }
      have counted : w.run (count .decodeFailures) =
          (.ok (), { w with metrics := w.metrics.add .decodeFailures 1 }) := rfl
      have no_row : w.rowOf? (key, text) = none := by simp [rowOf?, decoded]
      refine ⟨metrics, ?_⟩
      rw [List.filterMap_cons_none no_row]
      exact (World.run_seq counted).trans later
    | some hold =>
      obtain ⟨metrics, later⟩ := ih w
      have left : w.run (ask (.remaining key)) = (.ok (w.store.remaining? w.clock key), w) := rfl
      refine ⟨metrics, ?_⟩
      dsimp only
      rw [World.run_seq left]
      cases ttl : w.store.remaining? w.clock key with
      | none =>
        have no_row : w.rowOf? (key, text) = none := by simp [rowOf?, decoded, ttl]
        rw [List.filterMap_cons_none no_row]
        exact later
      | some ttl' =>
        have row : w.rowOf? (key, text) = some ⟨hold.slot, hold.owner, hold.day, secondsUp ttl'⟩ := by
          simp [rowOf?, decoded, ttl]
        rw [List.filterMap_cons_some row]
        exact World.run_seq later

/-- **The rows of all pages**, if there are pages enough. -/
theorem World.run_rowsFrom (w : World) {cursor : Option String} {pages : Nat}
    (begins : Store.Begins Key.holdStart cursor)
    (enough : (w.store.ahead w.clock Key.holdStart cursor).length < pageSize * pages) :
    ∃ metrics, w.run (rowsFrom cursor pages) =
      (.ok ((w.store.ahead w.clock Key.holdStart cursor).filterMap w.rowOf?),
        { w with metrics }) := by
  induction pages generalizing w cursor with
  | zero => exact absurd enough (Nat.not_lt_zero _)
  | succ pages ih =>
    have size : max pageSize 1 = pageSize := rfl
    have asked : w.run (ask (.scan Key.holdStart cursor pageSize)) =
        (.ok (w.store.scan w.clock Key.holdStart cursor pageSize), w) := rfl
    have page : (w.store.scan w.clock Key.holdStart cursor pageSize).entries = _ :=
      Store.entries_scan (begins.clear w.store) w.clock pageSize
    have next := Store.scan_next (begins.clear w.store) w.clock pageSize
    have parts := List.take_append_drop pageSize (w.store.ahead w.clock Key.holdStart cursor)
    obtain ⟨metrics, rows⟩ := w.run_rowsOf (w.store.scan w.clock Key.holdStart cursor pageSize).entries
    rw [size] at page next
    unfold rowsFrom
    rw [World.run_seq asked, World.run_seq rows, page]
    cases named : (w.store.scan w.clock Key.holdStart cursor pageSize).next with
    | none =>
      rw [named] at next
      rw [next, List.append_nil] at parts
      rw [parts]
      exact ⟨metrics, rfl⟩
    | some key =>
      rw [named] at next
      obtain ⟨begins', rest, many⟩ := next
      have fewer : (w.store.ahead w.clock Key.holdStart (some key)).length < pageSize * pages := by
        rw [rest, List.length_drop]
        rw [Nat.mul_succ] at enough
        omega
      obtain ⟨metrics', later⟩ := ih { w with metrics } begins' fewer
      refine ⟨metrics', ?_⟩
      dsimp only
      rw [World.run_seq later, rest, ← parts, List.filterMap_append, parts]
      rfl

/-- **Every live hold is listed**, if there are pages enough. -/
theorem World.run_listHolds (w : World)
    (enough : (w.store.ahead w.clock Key.holdStart none).length < pageSize * maxPages) :
    ∃ metrics, w.run listHolds =
      (.ok (((w.store.ahead w.clock Key.holdStart none).filterMap w.rowOf?).mergeSort
        fun a b => a.slot ≤ b.slot), { w with metrics }) := by
  obtain ⟨metrics, rows⟩ := w.run_rowsFrom (Store.begins_none _) enough
  exact ⟨metrics, World.run_seq rows⟩

/-- **A listing cannot tell worlds apart that look alike**, if it has pages enough. -/
theorem indifferent_listHolds {w v : World} (alike : w.Alike v)
    (enough : (w.store.ahead w.clock Key.holdStart none).length < pageSize * maxPages) :
    (w.run listHolds).1 = (v.run listHolds).1 ∧ (w.run listHolds).2.Alike (v.run listHolds).2 := by
  have same : w.store.ahead w.clock Key.holdStart none = v.store.ahead v.clock Key.holdStart none := by
    rw [alike.store.ahead, alike.clock]
  have rows : w.rowOf? = v.rowOf? := by
    funext entry
    rw [World.rowOf?, World.rowOf?, alike.store.remaining?, alike.clock]
  obtain ⟨metrics, left⟩ := w.run_listHolds enough
  obtain ⟨metrics', right⟩ := v.run_listHolds (same ▸ enough)
  rw [left, right, same, rows]
  exact ⟨rfl, alike.clock, alike.catalogue, alike.admission, alike.store⟩

end Holdfast.Reservation
