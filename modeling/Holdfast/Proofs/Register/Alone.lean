import Holdfast.Proofs.Register.Mirror
import Holdfast.Proofs.Store.Watches

/-!
# Programs that run alone

What the small programs come to when nothing else goes on. Whatever a transaction watched still
stands when it is carried out, so it is committed (`run_exec`) and one attempt is enough
(`run_retrying`). Where whatever is live can be read (`World.Legible`), nothing that is read is garbled;
and what is read in a world that mirrors a register is what the register says.

`World.Follows` is the contract of a program: it ends with a result, and leaves a world that mirrors
a register.
-/

namespace Holdfast.Reservation

namespace World

variable {ε ε' α β : Type} {w w' : World}

/-! ## Without a register -/

/-- A program goes on with the value of what it runs first. -/
theorem run_seq {p : Program ε α} {f : α → Program ε β} {a : α}
    (first : w.run p = (.ok a, w')) : w.run (p >>= f) = w'.run (f a) := by
  show w.run (p.bind f) = _
  rw [run_bind, first]

/-- A program fails with the error of what it runs first. -/
theorem run_seq_error {p : Program ε α} {f : α → Program ε β} {e : ε}
    (first : w.run p = (.error e, w')) : w.run (p >>= f) = (.error e, w') := by
  show w.run (p.bind f) = _
  rw [run_bind, first]

/-- A program that makes something of the value of another one. -/
theorem run_then {p : Program ε α} {r : Except ε α} (ended : w.run p = (r, w')) (f : α → β) :
    w.run (p >>= fun a => pure (f a)) = (r.map f, w') := by
  cases r with
  | error e => exact run_seq_error ended
  | ok a => exact run_seq ended

/-- A program whose error is a value does what the program does. -/
theorem run_attempt_eq (p : Program ε α) (w : World) :
    w.run (p.attempt : Program ε' (Except ε α)) = (.ok (w.run p).1, (w.run p).2) := by
  induction p generalizing w with
  | done a => rfl
  | fail e => rfl
  | ask e next ih => exact ih (w.perform e).1 (w.perform e).2

/-- Finding a slot. -/
theorem run_find_eq (w : World) (slot : SlotId) :
    w.run (find slot) =
      ((w.catalogue.get? slot).elim (.error (.slotNotFound slot)) .ok, w) := by
  have looked : w.run (lookup slot) = (.ok (w.catalogue.get? slot), w) := rfl
  unfold find
  rw [run_seq looked]
  cases w.catalogue.get? slot <;> rfl

/-- Looking at some keys. -/
theorem run_watch (w : World) (keys : List String) :
    w.run (ask (.watch keys)) = (.ok (w.store.watch w.clock keys), w) := rfl

/-- Whatever a watch saw still stands. -/
def Sees (w : World) (watch : Watch) : Prop := w.store.agrees w.clock watch = true

/-- What was just seen stands. -/
theorem sees_watch (w : World) (keys : List String) : w.Sees (w.store.watch w.clock keys) := by
  unfold Sees Store.agrees Store.watch
  rw [List.all_eq_true]
  intro seen mem
  obtain ⟨key, -, rfl⟩ := List.mem_map.1 mem
  exact decide_eq_true rfl

/-- What was seen at two looks stands. -/
theorem Sees.merge {watch later : Watch} (h : w.Sees watch) (h' : w.Sees later) :
    w.Sees (watch.merge later) := by
  unfold Sees Store.agrees at h h' ⊢
  rw [List.all_eq_true] at h h' ⊢
  intro seen mem
  rcases Watch.mem_of_mem_merge mem with mem | mem
  · exact h seen mem
  · exact h' seen mem

/-- **A transaction is committed** if what it rests on stands. -/
theorem run_exec {watch : Watch} (sees : w.Sees watch) (writes : List Write) :
    w.run (ask (.exec watch writes)) = (.ok .committed, w.write writes) := by
  have done : w.store.exec w.clock watch writes =
      (.committed, writes.foldl (Store.apply w.clock) w.store) := if_pos sees
  exact congrArg (fun out : ExecOutcome × Store =>
    ((.ok out.1 : Except Failure ExecOutcome), ({ w with store := out.2 } : World))) done

/-- A transaction gives its value if what it rests on stands. -/
theorem run_transact {watch : Watch} (sees : w.Sees watch) (writes : List Write) (a : α) :
    w.run (transact watch writes a) = (.ok (some a), w.write writes) := by
  unfold transact
  rw [run_seq (run_exec sees writes)]
  rfl

/-- An attempt that gives a value is the last one. -/
theorem run_retrying {policy : Policy} (attempts : 1 ≤ policy.maxAttempts) {op : Operation}
    {p : Program Failure (Option α)} {a : α} (first : w.run p = (.ok (some a), w')) :
    w.run (retrying policy op p) = (.ok a, w') := by
  obtain ⟨n, more⟩ := Nat.exists_eq_add_of_le' attempts
  unfold retrying
  rw [more, tryUpTo, run_seq first]
  rfl

/-- An attempt that fails is the last one, too. -/
theorem run_retrying_error {policy : Policy} (attempts : 1 ≤ policy.maxAttempts) {op : Operation}
    {p : Program Failure (Option α)} {e : Failure} (first : w.run p = (.error e, w')) :
    w.run (retrying policy op p) = (.error e, w') := by
  obtain ⟨n, more⟩ := Nat.exists_eq_add_of_le' attempts
  unfold retrying
  rw [more, tryUpTo, run_seq_error first]

/-- Without any attempt, trying again fails at once. -/
theorem run_retrying_none {policy : Policy} (never : policy.maxAttempts = 0) (op : Operation)
    (attempt : Program Failure (Option α)) (w : World) :
    w.run (retrying policy op attempt) = (.error (.retriesExhausted 0), w) := by
  unfold retrying
  rw [never]
  rfl

/-- What trying again comes to is what the first attempt came to, if that was not aborted. -/
theorem run_of_run_retrying {policy : Policy} {op : Operation} {p : Program Failure (Option α)}
    (decides : ∀ w₁, w.run p ≠ (.ok none, w₁)) {a : α}
    (run : w.run (retrying policy op p) = (.ok a, w')) :
    1 ≤ policy.maxAttempts ∧ w.run p = (.ok (some a), w') := by
  rcases Nat.eq_zero_or_pos policy.maxAttempts with never | attempts
  · rw [run_retrying_none never] at run
    cases run
  refine ⟨attempts, ?_⟩
  rcases first : w.run p with ⟨e | a' | a', w₁⟩
  · rw [run_retrying_error attempts first] at run
    cases run
  · exact absurd first (decides w₁)
  · rw [run_retrying attempts first] at run
    cases run
    rfl

/-! ## What is live -/

/-- **Worlds with the same bookings and the same live texts**, with the same deadlines. -/
structure SameContents (w v : World) : Prop where
  catalogue : w.catalogue = v.catalogue
  clock : w.clock = v.clock
  live : ∀ key, (w.store.live? w.clock key).map Entry.content =
    (v.store.live? v.clock key).map Entry.content

/-- The live hold on a slot. -/
def record? (w : World) (slot : SlotId) : Option HoldRecord :=
  (w.store.read? w.clock (Key.hold slot)).bind HoldRecord.decode?

/-- **Whatever is live can be read**: under each kind of key there are texts of one kind. -/
def Legible (w : World) : Prop :=
  ∀ key e, w.store.live? w.clock key = some e → Written key e.value

namespace Legible

variable (legible : w.Legible)

include legible

/-- Reading the hold on a slot. -/
theorem run_readHold (slot : SlotId) : w.run (readHold slot) = (.ok (w.record? slot), w) := by
  have read : w.run (ask (.read (Key.hold slot))) =
      (.ok (w.store.read? w.clock (Key.hold slot)), w) := rfl
  unfold readHold
  rw [run_seq read, record?]
  cases there : w.store.read? w.clock (Key.hold slot) with
  | none => rfl
  | some text =>
    obtain ⟨e, live, rfl⟩ := Option.map_eq_some_iff.1 there
    obtain ⟨hold, text_eq, -⟩ := (legible _ e live).hold_of_key rfl
    simp only [Option.bind_some, HoldRecord.stored, text_eq, hold.decode?_encode]
    rfl

/-- What is live under the keys of a holder and of a connection names a slot. -/
theorem slot_of_read? {holder : HolderId} {session : Option SessionId} {key text : String}
    (index : key ∈ indexKeys holder session) (there : w.store.read? w.clock key = some text) :
    ∃ slot, SlotId.read? text = some slot := by
  obtain ⟨e, live, rfl⟩ := Option.map_eq_some_iff.1 there
  exact (legible key e live).slot_of_index index

/-- Reading the entry of a holder or of a connection. -/
theorem run_readIndex {holder : HolderId} {session : Option SessionId} {key : String}
    (index : key ∈ indexKeys holder session) :
    w.run (readIndex key) = (.ok (w.names? key), w) := by
  have read : w.run (ask (.read key)) = (.ok (w.store.read? w.clock key), w) := rfl
  unfold readIndex
  rw [run_seq read, names?]
  cases there : w.store.read? w.clock key with
  | none => rfl
  | some text =>
    obtain ⟨slot, decoded⟩ := legible.slot_of_read? index there
    simp only [Option.bind_some, SlotId.stored, decoded]
    rfl

/-- An entry that names no slot cannot be read at all. -/
theorem read?_of_names?_eq_none {holder : HolderId} {session : Option SessionId} {key : String}
    (index : key ∈ indexKeys holder session) (names : w.names? key = none) :
    w.store.read? w.clock key = none := by
  cases there : w.store.read? w.clock key with
  | none => rfl
  | some text =>
    obtain ⟨slot, decoded⟩ := legible.slot_of_read? index there
    rw [names?, there, Option.bind_some, decoded] at names
    cases names

end Legible

/-! ## Contracts -/

/-- **The program runs to the register.** It ends with the result, and the world that it leaves
mirrors the register. -/
def Follows (policy : Policy) (calendar : Calendar) (w : World) (p : Program ε α)
    (r : Except ε α) (m : Register) : Prop :=
  (w.run p).1 = r ∧ (w.run p).2.Mirrors policy calendar m

namespace Follows

variable {policy : Policy} {calendar : Calendar} {m m₁ : Register} {p : Program ε α}
  {f : α → Program ε β} {a : α} {r : Except ε β}

/-- What a program comes to whose run is known. -/
theorem of_run {r : Except ε α} (run : w.run p = (r, w'))
    (mirrors : w'.Mirrors policy calendar m) : Follows policy calendar w p r m := by
  unfold Follows
  rw [run]
  exact ⟨rfl, mirrors⟩

/-- The run of a program that is known to follow. -/
theorem run {r : Except ε α} (h : Follows policy calendar w p r m) :
    w.run p = (r, (w.run p).2) := Prod.ext h.1 rfl

/-- One after the other. -/
theorem seq (first : Follows policy calendar w p (.ok a) m₁)
    (rest : ∀ w₁, w₁.Mirrors policy calendar m₁ → Follows policy calendar w₁ (f a) r m) :
    Follows policy calendar w (p >>= f) r m := by
  unfold Follows
  rw [run_seq first.run]
  exact rest _ first.2

end Follows

/-! ## In a world that mirrors a register -/

namespace Mirrors

variable {policy : Policy} {calendar : Calendar} {m : Register}
  (mirrors : w.Mirrors policy calendar m)

include mirrors

/-- Counting and announcing change nothing that a register knows of. -/
theorem beside (metrics : Metrics) (rooms : Hub) :
    { w with metrics, rooms }.Mirrors policy calendar m :=
  ⟨mirrors.clock, mirrors.admission, mirrors.known, mirrors.holds, mirrors.written, mirrors.marked,
    mirrors.indexed⟩

/-- Nothing is done. -/
theorem follows_pure (a : α) : Follows policy calendar w (pure a : Program ε α) (.ok a) m :=
  .of_run rfl mirrors

/-- Finding a slot that there is. -/
theorem run_find {slot : SlotId} {day : Day} (known : calendar slot = some day) :
    w.run (find slot) = (.ok ⟨slot, day, m.booked slot⟩, w) := by
  rw [run_find_eq, mirrors.get?_of_known known]
  rfl

/-- Finding a slot that there is not. -/
theorem run_find_unknown {slot : SlotId} (unknown : calendar slot = none) :
    w.run (find slot) = (.error (.slotNotFound slot), w) := by
  rw [run_find_eq, mirrors.known, unknown]
  rfl

omit mirrors in
/-- What is live in such a world can be read. -/
theorem legible (mirrors : w.Mirrors policy calendar m) : w.Legible :=
  fun key e live => mirrors.written key e (Store.live?_eq_some_iff.1 live).1

/-- The live hold on a slot is the register's. -/
theorem record?_eq (slot : SlotId) : w.record? slot = (m.live? slot).map (Held.record slot) := by
  rw [record?, mirrors.read?_hold]
  cases m.live? slot with
  | none => rfl
  | some h => rw [Option.map_some, Option.bind_some, HoldRecord.decode?_encode, Option.map_some]

/-- Reading the hold on a slot. -/
theorem run_readHold (slot : SlotId) :
    w.run (readHold slot) = (.ok ((m.live? slot).map (Held.record slot)), w) := by
  rw [mirrors.legible.run_readHold, mirrors.record?_eq]

/-- Looking for the mark of a booking. -/
theorem run_isFenced {slot : SlotId} (free : m.booked slot = false) :
    w.run (isFenced slot) = (.ok false, w) := by
  show ((.ok (w.store.read? w.clock (Key.booked slot)).isSome : Except Failure Bool), w) = _
  rw [mirrors.read?_booked free]
  rfl

end Mirrors
end World
end Holdfast.Reservation
