import Holdfast.Proofs.Interleaving.Moves

/-!
# What a call can be trusted with

A call among others goes on with whatever the world replies at the moment when its effect is carried
out, or with a failure. `Run.Keeps` says of what is left of a call that, from a given move on, each
of its effects keeps a pledge and its result keeps a promise. It is computed along the program, so
it is proved program by program, and the proof sees no other call: all it learns are replies, and
the moves at which they were true.

* `Keeps.bind`, `Keeps.attempt`, `Keeps.mono`: how pledges compose.
* `Keeps.remember`: the result may rely on the pledges of all the effects before it.
* `hears_of_begins`, `returned_of_begins`: a call that keeps its pledge when it begins keeps it in
  the run.
-/

namespace Holdfast.Reservation.Run

variable (ρ : Run) (i : Nat)

/-- The call hears nothing from one move until another. -/
def Quiet (n m : Nat) : Prop := ∀ k, n ≤ k → k < m → ρ.Idle k i

/-- **From now on, each effect of the program keeps the pledge, and its result keeps the promise.**
-/
def Keeps {ε α : Type} (pledge : Nat → Effect → Prop) (promise : Except ε α → Nat → Prop) :
    Program ε α → Nat → Prop
  | .done a, n => promise (.ok a) n
  | .fail e, n => promise (.error e) n
  | .ask e next, n =>
    ∀ m, n ≤ m → ρ.Quiet i n m → ∀ reply, ρ.Hears m i e reply →
      pledge m e ∧ Keeps pledge promise (next reply) (m + 1)

/-- A promise about values; a failure may come at any time. -/
def okay {ε α : Type} (promise : α → Nat → Prop) : Except ε α → Nat → Prop
  | .ok a, n => promise a n
  | .error _, _ => True

/-- The call did not hear a reply to the effect between two moves. -/
def Avoids (x : Effect) (n₀ n : Nat) : Prop :=
  ∀ k reply, n₀ < k → k < n → ¬ ρ.Hears k i x reply

variable {ρ i} {ε ε' α β : Type} {pledge pledge' : Nat → Effect → Prop} {n : Nat}

/-- A call waits for one effect at a time. -/
theorem effect_unique {e e' : Effect} {reply : e.Reply} {reply' : e'.Reply}
    (h : ρ.Hears n i e reply) (h' : ρ.Hears n i e' reply') : e = e' :=
  Option.some.inj (h.1.symm.trans h'.1)

namespace Avoids

variable {x e : Effect} {n₀ b : Nat}

/-- Who hears nothing does not hear of the effect. -/
theorem quiet (before : ρ.Avoids i x n₀ n) (quiet : ρ.Quiet i n b) : ρ.Avoids i x n₀ b := by
  intro k reply low high hears
  rcases Nat.lt_or_ge k n with early | late
  · exact before k reply low early hears
  · exact quiet k late high x reply hears

/-- Who hears of another effect does not hear of this one. -/
theorem hears (before : ρ.Avoids i x n₀ b) {reply : e.Reply} (hears : ρ.Hears b i e reply)
    (ne : e ≠ x) : ρ.Avoids i x n₀ (b + 1) := by
  intro k reply' low high hears'
  rcases Nat.lt_succ_iff_lt_or_eq.1 high with early | rfl
  · exact before k reply' low early hears'
  · exact ne (effect_unique hears hears')

end Avoids

/-- What comes after a program: the rest, or its error. -/
def andThen (ρ : Run) (i : Nat) (pledge : Nat → Effect → Prop) (f : α → Program ε β)
    (promise : Except ε β → Nat → Prop) : Except ε α → Nat → Prop
  | .ok a, n => ρ.Keeps i pledge promise (f a) n
  | .error e, n => promise (.error e) n

namespace Keeps

variable {promise promise' : Except ε α → Nat → Prop} {p : Program ε α}

/-- A pledge may promise less. -/
theorem mono (h : ρ.Keeps i pledge promise p n) (effects : ∀ m e, pledge m e → pledge' m e)
    (results : ∀ r m, promise r m → promise' r m) : ρ.Keeps i pledge' promise' p n := by
  induction p generalizing n with
  | done a => exact results _ _ h
  | fail e => exact results _ _ h
  | ask e next ih =>
    intro m le quiet reply hears
    obtain ⟨now, rest⟩ := h m le quiet reply hears
    exact ⟨effects m e now, ih reply rest⟩

/-- Programs one after the other. -/
theorem bind {p : Program ε α} {f : α → Program ε β} {promise : Except ε β → Nat → Prop}
    (h : ρ.Keeps i pledge (andThen ρ i pledge f promise) p n) :
    ρ.Keeps i pledge promise (p >>= f) n := by
  induction p generalizing n with
  | done a => exact h
  | fail e => exact h
  | ask e next ih =>
    intro m le quiet reply hears
    obtain ⟨now, rest⟩ := h m le quiet reply hears
    exact ⟨now, ih reply rest⟩

/-- Programs one after the other, with a promise about values only. -/
theorem bind_okay {p : Program ε α} {f : α → Program ε β} {promise : β → Nat → Prop}
    (h : ρ.Keeps i pledge (okay fun a m => ρ.Keeps i pledge (okay promise) (f a) m) p n) :
    ρ.Keeps i pledge (okay promise) (p >>= f) n := by
  refine bind (h.mono (fun _ _ => id) ?_)
  rintro (e | a) m rest
  · exact trivial
  · exact rest

/-- A program whose error is a value. -/
theorem attempt {promise : Except ε' (Except ε α) → Nat → Prop}
    (h : ρ.Keeps i pledge (fun r => promise (.ok r)) p n) :
    ρ.Keeps i pledge promise p.attempt n := by
  induction p generalizing n with
  | done a => exact h
  | fail e => exact h
  | ask e next ih =>
    intro m le quiet reply hears
    obtain ⟨now, rest⟩ := h m le quiet reply hears
    exact ⟨now, ih reply rest⟩

/-- **The result may rely on all the effects before it**, and it comes no earlier. -/
theorem remember (h : ρ.Keeps i pledge promise p n) :
    ρ.Keeps i pledge (fun r m => promise r m ∧ n ≤ m ∧
      ∀ k e reply, n ≤ k → k < m → ρ.Hears k i e reply → pledge k e) p n := by
  induction p generalizing n with
  | done a => exact ⟨h, Nat.le_refl _, fun k e reply low high => absurd low (Nat.not_le.2 high)⟩
  | fail e => exact ⟨h, Nat.le_refl _, fun k e reply low high => absurd low (Nat.not_le.2 high)⟩
  | ask e next ih =>
    intro m le quiet reply hears
    obtain ⟨now, rest⟩ := h m le quiet reply hears
    refine ⟨now, (ih reply rest).mono (fun _ _ => id) ?_⟩
    rintro r m' ⟨keeps, later, all⟩
    refine ⟨keeps, by omega, ?_⟩
    intro k e' reply' low high hears'
    rcases Nat.lt_trichotomy k m with before | rfl | after
    · exact absurd hears' (quiet k low before e' reply')
    · exact effect_unique hears hears' ▸ now
    · exact all k e' reply' after high hears'

/-- A promise about values may promise less. -/
theorem mono_okay {promise promise' : α → Nat → Prop} (h : ρ.Keeps i pledge (okay promise) p n)
    (values : ∀ a m, promise a m → promise' a m) : ρ.Keeps i pledge (okay promise') p n := by
  refine h.mono (fun _ _ => id) ?_
  rintro (e | a) m value
  · exact trivial
  · exact values a m value

/-- A program none of whose effects is the given one goes on with not having done it. -/
theorem avoid {x : Effect} {n₀ : Nat} {promise : α → Nat → Prop}
    (h : ρ.Keeps i (fun m e => pledge m e ∧ e ≠ x) (okay promise) p n)
    (before : ρ.Avoids i x n₀ n) :
    ρ.Keeps i pledge (okay fun a m => promise a m ∧ n ≤ m ∧ ρ.Avoids i x n₀ m) p n := by
  refine h.remember.mono (fun _ _ => And.left) ?_
  rintro (e | a) m ⟨value, le, all⟩
  · exact trivial
  · refine ⟨value, le, ?_⟩
    intro k reply low high hears
    by_cases early : k < n
    · exact before k reply low early hears
    · exact (all k x reply (Nat.not_lt.1 early) high hears).2 rfl

end Keeps

/-! ## Calls in a run -/

section calls

variable (ρ) (i)

/-- A call that is there began earlier. -/
theorem begins_of_calls {r : Running} (h : (ρ.state n).calls[i]? = some r) :
    ∃ n₀ < n, ρ.Begins n₀ i r.call ∧ r.begun = ρ.clock n₀ := by
  induction n generalizing r with
  | zero => cases h
  | succ n ih =>
    cases before : (ρ.state n).calls[i]? with
    | none =>
      obtain ⟨c, begins, rfl⟩ := ρ.begins_of_new before h
      exact ⟨n, Nat.lt_succ_self n, begins, rfl⟩
    | some r' =>
      obtain ⟨n₀, lt, begins, begun⟩ := ih before
      rcases ρ.calls_succ before with ⟨-, after⟩ | ⟨e, next, reply, -, -, after⟩
      · obtain rfl := Option.some.inj (after.symm.trans h)
        exact ⟨n₀, Nat.lt_succ_of_lt lt, begins, begun⟩
      · obtain rfl := Option.some.inj (after.symm.trans h)
        exact ⟨n₀, Nat.lt_succ_of_lt lt, begins, begun⟩

/-- A call that has begun stays the call it is. -/
theorem call?_of_le {m : Nat} {c : Call} (h : ρ.call? n i = some c) (le : n ≤ m) :
    ρ.call? m i = some c := by
  induction le with
  | refl => exact h
  | step _ ih =>
    obtain ⟨r, there, rfl⟩ := Option.map_eq_some_iff.1 ih
    rcases ρ.calls_succ there with ⟨-, after⟩ | ⟨e, next, reply, -, -, after⟩
    · exact Option.map_eq_some_iff.2 ⟨r, after, rfl⟩
    · exact Option.map_eq_some_iff.2 ⟨_, after, rfl⟩

/-- A call is the same call whenever it is looked at. -/
theorem call?_unique {ρ : Run} {i m : Nat} {c c' : Call} (h : ρ.call? n i = some c)
    (h' : ρ.call? m i = some c') : c' = c := by
  rcases Nat.le_total n m with le | le
  · exact Option.some.inj (h'.symm.trans (ρ.call?_of_le i h le))
  · exact Option.some.inj ((ρ.call?_of_le i h' le).symm.trans h)

/-- A call that hears a reply has begun. -/
theorem call?_of_hears {e : Effect} {reply : e.Reply} (h : ρ.Hears n i e reply) :
    ∃ c, ρ.call? n i = some c := by
  obtain ⟨call, begun, next, there⟩ := System.pending_eq_some h.1
  exact ⟨call, by rw [call?, there]; rfl⟩

/-- A call hears nothing before it begins. -/
theorem lt_of_hears {n₀ : Nat} {c : Call} {e : Effect} {reply : e.Reply} (begins : ρ.Begins n₀ i c)
    (hears : ρ.Hears n i e reply) : n₀ < n := by
  rcases Nat.lt_or_ge n₀ n with lt | le
  · exact lt
  · obtain ⟨c', call⟩ := ρ.call?_of_hears i hears
    obtain ⟨r, there, -⟩ := Option.map_eq_some_iff.1 (ρ.call?_of_le i call le)
    have inside := (List.getElem?_eq_some_iff.1 there).1
    have outside := begins.2
    omega

/-- A call that is over stays over. -/
theorem returned_of_le {m : Nat} {answer : Answer} (h : ρ.Returned n i answer) (le : n ≤ m) :
    ρ.Returned m i answer := by
  induction le with
  | refl => exact h
  | step _ ih =>
    obtain ⟨r, there, finished⟩ := ih
    rcases ρ.calls_succ there with ⟨-, after⟩ | ⟨e, next, reply, waits, -, -⟩
    · exact ⟨r, after, finished⟩
    · rw [finished] at waits
      cases waits

/-- A call that is over hears nothing. -/
theorem idle_of_returned {answer : Answer} (h : ρ.Returned n i answer) : ρ.Idle n i := by
  intro e reply hears
  obtain ⟨call, begun, next, there⟩ := System.pending_eq_some hears.1
  obtain ⟨r, there', finished⟩ := h
  obtain rfl := Option.some.inj (there.symm.trans there')
  cases finished

end calls

section adequacy

variable {c : Call} {n₀ : Nat} {promise : Except Failure Answer → Nat → Prop}

/-- What is left of a call keeps the rest of its pledge. -/
theorem keeps_of_begins (begins : ρ.Begins n₀ i c)
    (keeps : ρ.Keeps i pledge promise (c.program ρ.policy) (n₀ + 1)) (later : n₀ < n) :
    ∃ rest since, n₀ < since ∧ since ≤ n ∧ ρ.Quiet i since n ∧
      (ρ.state n).calls[i]? = some ⟨c, ρ.clock n₀, rest⟩ ∧
      ρ.Keeps i pledge promise rest since := by
  induction later with
  | refl =>
    refine ⟨_, n₀ + 1, Nat.lt_succ_self _, Nat.le_refl _, ?_, ?_, keeps⟩
    · exact fun k low high => absurd low (Nat.not_le.2 high)
    · obtain ⟨move, rfl⟩ := begins
      rw [ρ.state_succ, move, System.next, List.getElem?_append_right (Nat.le_refl _)]
      simp only [Nat.sub_self, List.getElem?_cons_zero]
      rfl
  | @step n later ih =>
    obtain ⟨rest, since, low, high, quiet, there, keeps⟩ := ih
    rcases ρ.calls_succ there with ⟨idle, after⟩ | ⟨e, next, reply, waits, hears, after⟩
    · refine ⟨rest, since, low, Nat.le_succ_of_le high, ?_, after, keeps⟩
      intro k from_ below
      rcases Nat.lt_succ_iff_lt_or_eq.1 below with below | rfl
      · exact quiet k from_ below
      · exact idle
    · dsimp only at waits
      subst waits
      refine ⟨next reply, n + 1, by omega, Nat.le_refl _, ?_, after, ?_⟩
      · exact fun k low high => absurd low (Nat.not_le.2 high)
      · exact (keeps n high quiet reply hears).2

/-- **A call that keeps its pledge from its beginning keeps it in the run.** -/
theorem hears_of_begins (begins : ρ.Begins n₀ i c)
    (keeps : ρ.Keeps i pledge promise (c.program ρ.policy) (n₀ + 1)) (later : n₀ < n)
    {e : Effect} {reply : e.Reply} (hears : ρ.Hears n i e reply) : pledge n e := by
  obtain ⟨rest, since, low, high, quiet, there, keeps⟩ := keeps_of_begins begins keeps later
  obtain ⟨call, begun, next, waits⟩ := System.pending_eq_some hears.1
  obtain ⟨rfl, rfl, rfl⟩ := Running.mk.inj (Option.some.inj (there.symm.trans waits))
  exact (keeps n high quiet reply hears).1

/-- **A call that has returned kept its promise.** -/
theorem returned_of_begins (begins : ρ.Begins n₀ i c)
    (keeps : ρ.Keeps i pledge promise (c.program ρ.policy) (n₀ + 1)) (later : n₀ < n)
    {answer : Answer} (returned : ρ.Returned n i answer) :
    ∃ m, n₀ < m ∧ m ≤ n ∧ ρ.Quiet i m n ∧ promise (.ok answer) m := by
  obtain ⟨rest, since, low, high, quiet, there, keeps⟩ := keeps_of_begins begins keeps later
  obtain ⟨r, there', finished⟩ := returned
  obtain rfl := Option.some.inj (there.symm.trans there')
  dsimp only at finished
  subst finished
  exact ⟨since, low, high, quiet, keeps⟩

end adequacy

end Holdfast.Reservation.Run
