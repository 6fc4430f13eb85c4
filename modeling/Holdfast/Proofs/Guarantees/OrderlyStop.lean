import Holdfast.Service.Drain

/-!
# How long the service waits for its connections

After the signal the service looks at its permits at regular intervals, and goes on when it sees all of
them or the deadline has come. A look sees the permits that were given back before it and none that are
still out; one that comes back at the very instant may be seen or not (`Drain.Sees`). So there may be
several instants at which the service can stop (`Drain.Stops`), and it stops at one of them
(`Drain.stops_stop`).

At each of them no permit is out, unless the deadline has come; the deadline is never passed; and the
service stops soon after the last permit has come back (`Drain.Stops.timely`).
-/

namespace Holdfast

namespace Drain

/-- The permits that are free at an instant, those included that come back at it. -/
def free (permits : Nat) (heldFor : List Nat) (now : Nat) : Nat :=
  permits - (returns permits heldFor).countP (now < ·)

/-- The permits that were free before an instant. -/
def freeBefore (permits : Nat) (heldFor : List Nat) (now : Nat) : Nat :=
  permits - (returns permits heldFor).countP (now ≤ ·)

/-- **How many free permits a look may see.** -/
def Sees (permits : Nat) (heldFor : List Nat) (now seen : Nat) : Prop :=
  freeBefore permits heldFor now ≤ seen ∧ seen ≤ free permits heldFor now

/-- **When the service can stop**, from a look on, after a signal. -/
inductive Stops (permits : Nat) (heldFor : List Nat) (signal : Nat) : Nat → Nat → Prop where
  /-- The look sees all permits. -/
  | drained {now : Nat} (sees : Sees permits heldFor now permits) : Stops permits heldFor signal now now
  /-- The look does not, and the next one would not come before the deadline. -/
  | deadline {now seen : Nat} (sees : Sees permits heldFor now seen) (missing : seen ≠ permits)
    (late : signal + timeout ≤ now + interval) : Stops permits heldFor signal now (signal + timeout)
  /-- The look does not, and there is another one. -/
  | again {now seen stop : Nat} (sees : Sees permits heldFor now seen) (missing : seen ≠ permits)
    (early : now + interval < signal + timeout)
    (rest : Stops permits heldFor signal (now + interval) stop) : Stops permits heldFor signal now stop

/-- **A stop is timely.** -/
structure Timely (permits : Nat) (heldFor : List Nat) (signal stop : Nat) : Prop where
  /-- Before the deadline no permit is out. -/
  patient : stop < signal + 10000 → free permits heldFor stop = permits
  /-- The deadline is not passed. -/
  bounded : stop ≤ signal + 10000
  /-- It is not long since the signal and since the last permit came back. -/
  prompt : ∀ last, (∀ r ∈ returns permits heldFor, r ≤ last) → stop ≤ max signal last + 100

section looks

variable {permits now seen : Nat} {heldFor : List Nat}

/-- All permits are there if none of those that were taken is missing. -/
theorem sub_countP_eq_iff (p : Nat → Bool) :
    permits - (returns permits heldFor).countP p = permits ↔
      ∀ r ∈ returns permits heldFor, ¬ p r = true := by
  have few : (returns permits heldFor).countP p ≤ permits :=
    Nat.le_trans List.countP_le_length (List.length_take_le _ _)
  rw [← List.countP_eq_zero]
  omega

/-- All permits are free when all have come back. -/
theorem free_eq_iff : free permits heldFor now = permits ↔ ∀ r ∈ returns permits heldFor, r ≤ now := by
  rw [free, sub_countP_eq_iff]
  simp only [decide_eq_true_eq, Nat.not_lt]

/-- All permits were free before an instant if all had come back. -/
theorem freeBefore_eq_iff :
    freeBefore permits heldFor now = permits ↔ ∀ r ∈ returns permits heldFor, r < now := by
  rw [freeBefore, sub_countP_eq_iff]
  simp only [decide_eq_true_eq, Nat.not_le]

/-- A look that misses a permit misses one that has not come back before. -/
theorem Sees.exists_missing (sees : Sees permits heldFor now seen) (missing : seen ≠ permits) :
    ∃ r ∈ returns permits heldFor, now ≤ r := by
  obtain ⟨low, high⟩ := sees
  have less : freeBefore permits heldFor now ≠ permits := by
    have few : free permits heldFor now ≤ permits := Nat.sub_le _ _
    omega
  rw [ne_eq, freeBefore_eq_iff] at less
  simpa only [Classical.not_forall, exists_prop, Nat.not_lt] using less

/-- A look that sees all permits comes when all are free. -/
theorem Sees.free_eq (sees : Sees permits heldFor now permits) : free permits heldFor now = permits :=
  Nat.le_antisymm (Nat.sub_le _ _) sees.2

/-- When all have come back, a look may see all permits. -/
theorem sees_all (back : ∀ r ∈ returns permits heldFor, r ≤ now) : Sees permits heldFor now permits :=
  ⟨Nat.sub_le _ _, Nat.le_of_eq (free_eq_iff.2 back).symm⟩

/-- A look may miss what has not come back before. -/
theorem sees_freeBefore (permits : Nat) (heldFor : List Nat) (now : Nat) :
    Sees permits heldFor now (freeBefore permits heldFor now) := by
  have fewer : (returns permits heldFor).countP (now < ·) ≤ (returns permits heldFor).countP (now ≤ ·) :=
    List.countP_mono_left fun r _ out => by
      rw [decide_eq_true_eq] at out ⊢
      exact Nat.le_of_lt out
  exact ⟨Nat.le_refl _, Nat.sub_le_sub_left fewer permits⟩

end looks

section stops

variable {permits signal now stop : Nat} {heldFor : List Nat}

/-- The service does not stop while a permit is out, unless the deadline has come. -/
theorem Stops.free_eq (stops : Stops permits heldFor signal now stop) (early : stop < signal + timeout) :
    free permits heldFor stop = permits := by
  induction stops with
  | drained sees => exact sees.free_eq
  | deadline => exact absurd early (Nat.lt_irrefl _)
  | again _ _ _ _ ih => exact ih early

/-- It does not pass the deadline. -/
theorem Stops.le_deadline (stops : Stops permits heldFor signal now stop) (early : now ≤ signal + timeout) :
    stop ≤ signal + timeout := by
  induction stops with
  | drained => exact early
  | deadline => exact Nat.le_refl _
  | again _ _ next _ ih => exact ih (Nat.le_of_lt next)

/-- It stops within an interval after the last permit has come back: a look that misses a permit comes
before that, or at the same instant. -/
theorem Stops.le_of_last {last : Nat} (stops : Stops permits heldFor signal now stop)
    (back : ∀ r ∈ returns permits heldFor, r ≤ last) (soon : now ≤ max signal last + interval) :
    stop ≤ max signal last + interval := by
  -- along the looks: each comes at most an interval after the signal or after a permit that was out
  induction stops with
  | drained => exact soon
  | deadline sees missing late =>
    obtain ⟨r, mem, out⟩ := sees.exists_missing missing
    have := back r mem
    omega
  | again sees missing _ _ ih =>
    obtain ⟨r, mem, out⟩ := sees.exists_missing missing
    have := back r mem
    exact ih (by omega)

/-- **Whenever the service can stop, it is timely.** -/
theorem Stops.timely (stops : Stops permits heldFor signal signal stop) :
    Timely permits heldFor signal stop where
  patient := stops.free_eq
  bounded := stops.le_deadline (Nat.le_add_right _ _)
  prompt last back := stops.le_of_last back (by omega)

/-- The service takes the permits to be back only when they are. -/
theorem le_of_isDrained {returns : List Nat} (drained : isDrained signal now returns = true) :
    ∀ r ∈ returns, r ≤ now := by
  intro r mem
  have back := List.all_eq_true.1 drained r mem
  simp only [Bool.or_eq_true, Bool.and_eq_true, decide_eq_true_eq] at back
  omega

/-- Where it does not, a look may miss a permit. -/
theorem freeBefore_ne_of_not_isDrained (out : ¬ isDrained signal now (returns permits heldFor) = true) :
    freeBefore permits heldFor now ≠ permits := by
  rw [ne_eq, freeBefore_eq_iff]
  refine fun back => out (List.all_eq_true.2 fun r mem => ?_)
  rw [decide_eq_true (back r mem), Bool.true_or]

/-- A service that stops at a look, if it takes all permits to be back, and else when it can, stops when
it can. -/
theorem stops_look (rest : freeBefore permits heldFor now ≠ permits → Stops permits heldFor signal now stop) :
    Stops permits heldFor signal now
      (if isDrained signal now (returns permits heldFor) then now else stop) := by
  split
  · rename_i drained
    exact .drained (sees_all (le_of_isDrained drained))
  · rename_i out
    exact rest (freeBefore_ne_of_not_isDrained out)

/-- From any of its looks on, the service stops when it can. -/
theorem stops_stopFrom (looks : Nat) (left : now + (looks + 1) * interval = signal + timeout) :
    Stops permits heldFor signal now (stopFrom signal now (returns permits heldFor) (looks + 1)) := by
  induction looks generalizing now with
  | zero =>
    rw [stopFrom]
    refine stops_look fun missing => ?_
    exact .deadline (sees_freeBefore _ _ _) missing (by omega)
  | succ looks ih =>
    simp only [interval] at left ih
    rw [stopFrom]
    refine stops_look fun missing => ?_
    refine .again (sees_freeBefore _ _ _) missing ?_ (ih ?_)
    · rw [interval]
      omega
    · rw [interval]
      omega

/-- **The service stops when it can.** -/
theorem stops_stop (permits : Nat) (heldFor : List Nat) (signal : Nat) :
    Stops permits heldFor signal signal (Drain.stop permits heldFor signal) :=
  stops_stopFrom 99 rfl

end stops

end Drain

/-- **The service stops in time**, and is shut down then. -/
theorem Service.stops_in_time (s : Service) (heldFor : List Nat) (signal : Nat) :
    Drain.Stops s.permits heldFor signal signal (s.serve heldFor signal).clock ∧
      (∀ stop, Drain.Stops s.permits heldFor signal signal stop →
        Drain.Timely s.permits heldFor signal stop) ∧
      (s.serve heldFor signal).isShutDown = true :=
  ⟨Drain.stops_stop s.permits heldFor signal, fun _ stops => stops.timely, rfl⟩

end Holdfast
