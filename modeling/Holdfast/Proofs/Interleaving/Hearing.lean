import Holdfast.Proofs.Interleaving.Pledge

/-!
# What a call has heard

Whatever goes on around it, all that a call learns is the list of the replies to its effects. So
what is left of it can be computed from its program and that list, and a fact about every list that a
program can hear is a fact about every run.

* `Program.Asks`, `Program.Ends`: having heard some replies a program asks for an effect, or is over.
  `asks_bind` and `ends_bind` split what two programs in a row have heard.
* `Program.Only`: all effects of a program are of one kind, whatever it hears.
* `Run.heard`: what a call hears from one move until another. `after_heard` says that its program
  leaves just what is left of the call.
* `Run.Over` and `Run.told`: how a call ended, and what it has announced.
-/

namespace Holdfast.Reservation

/-- An effect with the reply to it. -/
structure Heard where
  effect : Effect
  reply : effect.Reply

/-- The event that was announced. -/
def Heard.event? (h : Heard) : Option RoomEvent :=
  match h.effect with
  | .announce e => some e
  | _ => none

namespace Program

variable {ε ε' α β : Type}

/-- What is left of a program that has heard these replies, if they are replies to its effects. -/
def after : List Heard → Program ε α → Option (Program ε α)
  | [], p => some p
  | h :: t, ask e next => if same : h.effect = e then (next (same ▸ h.reply)).after t else none
  | _ :: _, _ => none

/-- The program that is over with a result. -/
def ended : Except ε α → Program ε α
  | .ok a => done a
  | .error e => fail e

/-- Having heard these replies the program asks for the effect. -/
def Asks (p : Program ε α) (t : List Heard) (x : Effect) : Prop :=
  ∃ next, p.after t = some (ask x next)

/-- Having heard these replies the program is over with the result. -/
def Ends (p : Program ε α) (t : List Heard) (r : Except ε α) : Prop := p.after t = some (ended r)

/-- What has heard some replies and then some more has heard all of them. -/
theorem after_append (t u : List Heard) (p : Program ε α) :
    p.after (t ++ u) = (p.after t).bind (after u) := by
  induction t generalizing p with
  | nil => rfl
  | cons h t ih =>
    cases p with
    | done a => rfl
    | fail e => rfl
    | ask e next =>
      simp only [List.cons_append, after]
      split
      · exact ih _
      · rfl

/-! ## Single steps -/

section steps

variable {t : List Heard} {x e : Effect} {next : e.Reply → Program ε α} {r : Except ε α} {a : α}
  {err : ε}

/-- What is left of a program that waits for one effect. -/
theorem after_ask_eq_some {q : Program ε α} : (ask e next).after t = some q ↔
    (t = [] ∧ q = ask e next) ∨ ∃ reply u, t = ⟨e, reply⟩ :: u ∧ (next reply).after u = some q := by
  cases t with
  | nil =>
    simp only [after, Option.some.injEq, true_and, reduceCtorEq, false_and, exists_false, or_false]
    exact eq_comm
  | cons h u =>
    obtain ⟨e', reply⟩ := h
    by_cases same : e' = e
    · subst same
      simp only [after, dite_true, reduceCtorEq, false_and, false_or]
      constructor
      · exact fun rest => ⟨reply, u, rfl, rest⟩
      · rintro ⟨reply', u', eq, rest⟩
        obtain ⟨heard, rfl⟩ := List.cons.inj eq
        obtain rfl := eq_of_heq (Heard.mk.inj heard).2
        exact rest
    · simp only [after, same, dite_false, reduceCtorEq, false_and, false_or, false_iff]
      rintro ⟨reply', u', eq, -⟩
      exact same (Heard.mk.inj (List.cons.inj eq).1).1

/-- A program that is over asks for nothing. -/
theorem not_asks_ended : ¬ (ended r : Program ε α).Asks t x := by
  rintro ⟨next, left⟩
  cases t <;> cases r <;> simp [after, ended] at left

/-- A program that is over has heard nothing more. -/
theorem ends_ended {r' : Except ε α} : (ended r : Program ε α).Ends t r' ↔ t = [] ∧ r' = r := by
  cases t <;> cases r <;> cases r' <;> simp [Ends, after, ended, eq_comm]

theorem not_asks_done : ¬ (done a : Program ε α).Asks t x := not_asks_ended (r := .ok a)

theorem not_asks_fail : ¬ (fail err : Program ε α).Asks t x := not_asks_ended (r := .error err)

theorem ends_done : (done a : Program ε α).Ends t r ↔ t = [] ∧ r = .ok a := ends_ended (r := .ok a)

theorem ends_fail : (fail err : Program ε α).Ends t r ↔ t = [] ∧ r = .error err :=
  ends_ended (r := .error err)

/-- A program that waits for an effect asks for it, or hears a reply and goes on. -/
theorem asks_ask : (ask e next).Asks t x ↔
    (t = [] ∧ x = e) ∨ ∃ reply u, t = ⟨e, reply⟩ :: u ∧ (next reply).Asks u x := by
  constructor
  · rintro ⟨rest, left⟩
    rcases after_ask_eq_some.1 left with ⟨none_heard, same⟩ | ⟨reply, u, eq, left⟩
    · exact .inl ⟨none_heard, (ask.inj same).1⟩
    · exact .inr ⟨reply, u, eq, rest, left⟩
  · rintro (⟨rfl, rfl⟩ | ⟨reply, u, eq, rest, left⟩)
    · exact ⟨next, rfl⟩
    · exact ⟨rest, after_ask_eq_some.2 (.inr ⟨reply, u, eq, left⟩)⟩

/-- A program that waits for an effect hears a reply before it is over. -/
theorem ends_ask : (ask e next).Ends t r ↔
    ∃ reply u, t = ⟨e, reply⟩ :: u ∧ (next reply).Ends u r := by
  rw [Ends, after_ask_eq_some]
  constructor
  · rintro (⟨-, same⟩ | rest)
    · cases r <;> cases same
    · exact rest
  · exact .inr

end steps

/-! ## Coming to an end -/

/-- A reply to any effect: whatever can be refused is. -/
def refusal : (e : Effect) → e.Reply
  | .store _ => .error ""
  | .slot _ => .error (.unavailable "")
  | .slotsOn _ => .error (.unavailable "")
  | .book _ => .error (.unavailable "")
  | .admission => .closed
  | .announce _ => ()
  | .count _ _ => ()

/-- Whatever a program has heard, refusals bring it to an end. -/
theorem exists_ends {t : List Heard} {p q : Program ε α} (left : p.after t = some q) :
    ∃ u r, p.Ends (t ++ u) r ∧ ∀ h ∈ u, h.reply = refusal h.effect := by
  have rest : ∃ u r, q.Ends u r ∧ ∀ h ∈ u, h.reply = refusal h.effect := by
    clear left
    induction q with
    | done a => exact ⟨[], .ok a, rfl, List.forall_mem_nil _⟩
    | fail e => exact ⟨[], .error e, rfl, List.forall_mem_nil _⟩
    | ask e next ih =>
      obtain ⟨u, r, ends, refused⟩ := ih (refusal e)
      exact ⟨⟨e, refusal e⟩ :: u, r, after_ask_eq_some.2 (.inr ⟨_, u, rfl, ends⟩),
        List.forall_mem_cons.2 ⟨rfl, refused⟩⟩
  obtain ⟨u, r, ends, refused⟩ := rest
  refine ⟨u, r, ?_, refused⟩
  rw [Ends, after_append, left]
  exact ends

/-! ## Programs in a row -/

section rows

variable {p : Program ε α} {f : α → Program ε β} {t : List Heard} {x : Effect}

/-- Of two programs in a row, the first one fails, or both come to an end. -/
theorem ends_bind {r : Except ε β} : (p >>= f).Ends t r ↔
    (∃ e, p.Ends t (.error e) ∧ r = .error e) ∨
      ∃ t₁ t₂ a, t = t₁ ++ t₂ ∧ p.Ends t₁ (.ok a) ∧ (f a).Ends t₂ r := by
  induction p generalizing t with
  | done a =>
    change (f a).Ends t r ↔ _
    simp only [ends_done, reduceCtorEq, and_false, false_and, exists_false, false_or, Except.ok.injEq]
    constructor
    · exact fun rest => ⟨[], t, a, rfl, ⟨rfl, rfl⟩, rest⟩
    · rintro ⟨t₁, t₂, a', rfl, ⟨rfl, rfl⟩, rest⟩
      exact rest
  | fail e =>
    change (fail e : Program ε β).Ends t r ↔ _
    simp only [ends_fail, reduceCtorEq, and_false, false_and, exists_false, or_false,
      Except.error.injEq]
    constructor
    · rintro ⟨none_heard, rfl⟩
      exact ⟨e, ⟨none_heard, rfl⟩, rfl⟩
    · rintro ⟨e', ⟨none_heard, rfl⟩, rfl⟩
      exact ⟨none_heard, rfl⟩
  | ask e next ih =>
    change (ask e fun reply => (next reply) >>= f).Ends t r ↔ _
    rw [ends_ask]
    constructor
    · rintro ⟨reply, u, rfl, rest⟩
      rcases (ih reply).1 rest with ⟨err, first, rfl⟩ | ⟨t₁, t₂, a, rfl, first, second⟩
      · exact .inl ⟨err, ends_ask.2 ⟨reply, u, rfl, first⟩, rfl⟩
      · exact .inr ⟨⟨e, reply⟩ :: t₁, t₂, a, rfl, ends_ask.2 ⟨reply, t₁, rfl, first⟩, second⟩
    · rintro (⟨err, whole, rfl⟩ | ⟨t₁, t₂, a, rfl, whole, second⟩)
      · obtain ⟨reply, u, rfl, first⟩ := ends_ask.1 whole
        exact ⟨reply, u, rfl, (ih reply).2 (.inl ⟨err, first, rfl⟩)⟩
      · obtain ⟨reply, u, rfl, first⟩ := ends_ask.1 whole
        exact ⟨reply, u ++ t₂, rfl, (ih reply).2 (.inr ⟨u, t₂, a, rfl, first, second⟩)⟩

/-- Two programs in a row give a value if both do. -/
theorem ends_bind_ok {b : β} : (p >>= f).Ends t (.ok b) ↔
    ∃ t₁ t₂ a, t = t₁ ++ t₂ ∧ p.Ends t₁ (.ok a) ∧ (f a).Ends t₂ (.ok b) := by
  rw [ends_bind]
  simp

/-- A program whose value is put into another form ends as the program does. -/
theorem ends_map {g : α → β} {r : Except ε β} (ends : (p >>= fun a => .done (g a)).Ends t r) :
    ∃ r', p.Ends t r' ∧ r = r'.map g := by
  rcases ends_bind.1 ends with ⟨e, failed, rfl⟩ | ⟨t₁, t₂, a, rfl, first, last⟩
  · exact ⟨_, failed, rfl⟩
  · obtain ⟨rfl, rfl⟩ := ends_done.1 last
    rw [List.append_nil]
    exact ⟨_, first, rfl⟩

/-- Of two programs in a row, the first one asks, or it is over and the second one asks. -/
theorem asks_bind : (p >>= f).Asks t x ↔
    p.Asks t x ∨ ∃ t₁ t₂ a, t = t₁ ++ t₂ ∧ p.Ends t₁ (.ok a) ∧ (f a).Asks t₂ x := by
  induction p generalizing t with
  | done a =>
    change (f a).Asks t x ↔ _
    simp only [ends_done, not_asks_done, false_or, Except.ok.injEq]
    constructor
    · exact fun rest => ⟨[], t, a, rfl, ⟨rfl, rfl⟩, rest⟩
    · rintro ⟨t₁, t₂, a', rfl, ⟨rfl, rfl⟩, rest⟩
      exact rest
  | fail e =>
    change (fail e : Program ε β).Asks t x ↔ _
    simp only [ends_fail, not_asks_fail, reduceCtorEq, and_false, false_and, exists_false, or_false]
  | ask e next ih =>
    change (ask e fun reply => (next reply) >>= f).Asks t x ↔ _
    rw [asks_ask, asks_ask]
    constructor
    · rintro (first | ⟨reply, u, rfl, rest⟩)
      · exact .inl (.inl first)
      · rcases (ih reply).1 rest with first | ⟨t₁, t₂, a, rfl, first, second⟩
        · exact .inl (.inr ⟨reply, u, rfl, first⟩)
        · exact .inr ⟨⟨e, reply⟩ :: t₁, t₂, a, rfl, ends_ask.2 ⟨reply, t₁, rfl, first⟩, second⟩
    · rintro ((first | ⟨reply, u, rfl, first⟩) | ⟨t₁, t₂, a, rfl, whole, second⟩)
      · exact .inl first
      · exact .inr ⟨reply, u, rfl, (ih reply).2 (.inl first)⟩
      · obtain ⟨reply, u, rfl, first⟩ := ends_ask.1 whole
        exact .inr ⟨reply, u ++ t₂, rfl, (ih reply).2 (.inr ⟨u, t₂, a, rfl, first, second⟩)⟩

/-- A program whose error is a value ends as the program does. -/
theorem ends_attempt {r : Except ε α} :
    (p.attempt : Program ε' (Except ε α)).Ends t (.ok r) ↔ p.Ends t r := by
  induction p generalizing t with
  | done a =>
    change (done (.ok a) : Program ε' (Except ε α)).Ends t _ ↔ _
    rw [ends_done, ends_done, Except.ok.injEq]
  | fail e =>
    change (done (.error e) : Program ε' (Except ε α)).Ends t _ ↔ _
    rw [ends_done, ends_fail, Except.ok.injEq]
  | ask e next ih =>
    change (ask e fun reply => (next reply).attempt : Program ε' (Except ε α)).Ends t _ ↔ _
    simp only [ends_ask, ih]

/-- A program whose error is a value does not fail. -/
theorem not_ends_attempt {e : ε'} :
    ¬ (p.attempt : Program ε' (Except ε α)).Ends t (.error e) := by
  induction p generalizing t with
  | done a => exact fun ends => by cases (ends_done.1 ends).2
  | fail err => exact fun ends => by cases (ends_done.1 ends).2
  | ask x next ih =>
    intro ends
    obtain ⟨reply, u, -, rest⟩ := ends_ask.1 ends
    exact ih reply rest

end rows

/-! ## Effects of one kind -/

/-- All effects of the program are of the kind, whatever it hears. -/
def Only (kind : Effect → Prop) : Program ε α → Prop
  | ask e next => kind e ∧ ∀ reply, (next reply).Only kind
  | _ => True

namespace Only

variable {kind kind' : Effect → Prop} {p : Program ε α} {t : List Heard}

/-- Programs one after the other. -/
theorem bind {f : α → Program ε β} (h : p.Only kind) (rest : ∀ a, (f a).Only kind) :
    (p >>= f).Only kind := by
  induction p with
  | done a => exact rest a
  | fail e => exact trivial
  | ask e next ih => exact ⟨h.1, fun reply => ih reply (h.2 reply)⟩

/-- A kind may be part of another one. -/
theorem mono (h : p.Only kind) (le : ∀ e, kind e → kind' e) : p.Only kind' := by
  induction p with
  | done a => exact trivial
  | fail e => exact trivial
  | ask e next ih => exact ⟨le e h.1, fun reply => ih reply (h.2 reply)⟩

/-- Going on with a value, or failing. -/
theorem orFail (f : ε' → ε) (r : Except ε' α) : (orFail f r).Only kind := by
  cases r <;> exact trivial

/-- What is left of the program has such effects only, and so has what it heard. -/
theorem after (h : p.Only kind) {q : Program ε α} (left : p.after t = some q) :
    q.Only kind ∧ ∀ heard ∈ t, kind heard.effect := by
  induction t generalizing p with
  | nil =>
    obtain rfl := Option.some.inj left
    exact ⟨h, by simp⟩
  | cons heard t ih =>
    cases p with
    | done a => cases left
    | fail e => cases left
    | ask e next =>
      rcases after_ask_eq_some.1 left with ⟨none_heard, -⟩ | ⟨reply, u, eq, left⟩
      · cases none_heard
      · obtain ⟨rfl, rfl⟩ := List.cons.inj eq
        obtain ⟨rest, kinds⟩ := ih (h.2 reply) left
        exact ⟨rest, List.forall_mem_cons.2 ⟨h.1, kinds⟩⟩

/-- What the program asks for is of the kind, and so is what it heard. -/
theorem asks (h : p.Only kind) {x : Effect} (asks : p.Asks t x) :
    kind x ∧ ∀ heard ∈ t, kind heard.effect := by
  obtain ⟨next, left⟩ := asks
  obtain ⟨rest, kinds⟩ := h.after left
  exact ⟨rest.1, kinds⟩

/-- What the program has heard when it is over is of the kind. -/
theorem ends (h : p.Only kind) {r : Except ε α} (ends : p.Ends t r) :
    ∀ heard ∈ t, kind heard.effect := (h.after ends).2

end Only

end Program

/-! ## In a run -/

namespace Run

variable (ρ : Run) (i : Nat)

/-- What a call hears with the next move. -/
def hearing (n : Nat) : Option Heard :=
  match ρ.moves n with
  | .proceed j =>
    if j = i then ((ρ.state n).pending i).map fun e => ⟨e, ((ρ.world n).perform e).1⟩ else none
  | .fail j fault =>
    if j = i then ((ρ.state n).pending i).bind fun e => (fault.reply? e).map fun reply => ⟨e, reply⟩
    else none
  | _ => none

/-- What a call hears from one move until another. -/
def heard (b n : Nat) : List Heard := (List.range' b (n - b)).filterMap (ρ.hearing i)

variable {ρ i} {b n m : Nat}

/-- A call hears a reply to the effect that it waits for. -/
theorem hearing_eq_some {h : Heard} :
    ρ.hearing i n = some h ↔ ρ.Hears n i h.effect h.reply := by
  obtain ⟨e, reply⟩ := h
  unfold hearing Hears
  cases move : ρ.moves n with
  | proceed j =>
    by_cases same : j = i
    · subst same
      simp only [if_true, Option.map_eq_some_iff, true_and, reduceCtorEq, false_and, exists_false,
        or_false]
      constructor
      · rintro ⟨e', waits, eq⟩
        obtain ⟨rfl, heard⟩ := Heard.mk.inj eq
        exact ⟨waits, (eq_of_heq heard).symm⟩
      · rintro ⟨waits, rfl⟩
        exact ⟨e, waits, rfl⟩
    · simp [same]
  | fail j fault =>
    by_cases same : j = i
    · subst same
      simp only [if_true, Option.bind_eq_some_iff, Option.map_eq_some_iff, reduceCtorEq, false_and,
        false_or, Move.fail.injEq, true_and, exists_eq_left']
      constructor
      · rintro ⟨e', waits, reply', some_reply, eq⟩
        obtain ⟨rfl, heard⟩ := Heard.mk.inj eq
        obtain rfl := eq_of_heq heard
        exact ⟨waits, some_reply⟩
      · rintro ⟨waits, some_reply⟩
        exact ⟨e, waits, reply, some_reply, rfl⟩
    · simp [same]
  | _ => simp

/-- A call that is idle hears nothing. -/
theorem hearing_eq_none (idle : ρ.Idle n i) : ρ.hearing i n = none := by
  rw [Option.eq_none_iff_forall_ne_some]
  intro h hears
  exact idle h.effect h.reply (hearing_eq_some.1 hears)

/-- What is heard until after a move is what is heard until then, and with that move. -/
theorem heard_succ (le : b ≤ n) :
    ρ.heard i b (n + 1) = ρ.heard i b n ++ (ρ.hearing i n).toList := by
  have more : n + 1 - b = (n - b) + 1 := by omega
  rw [heard, heard, more, List.range'_concat, List.filterMap_append, Nat.one_mul,
    Nat.add_sub_cancel' le]
  cases now : ρ.hearing i n <;> simp [now]

/-- What is heard is heard at some move. -/
theorem mem_heard {h : Heard} :
    h ∈ ρ.heard i b n ↔ ∃ k, b ≤ k ∧ k < n ∧ ρ.Hears k i h.effect h.reply := by
  simp only [heard, List.mem_filterMap, List.mem_range'_1, hearing_eq_some]
  constructor
  · rintro ⟨k, ⟨low, high⟩, hears⟩
    exact ⟨k, low, by omega, hears⟩
  · rintro ⟨k, low, high, hears⟩
    exact ⟨k, ⟨low, by omega⟩, hears⟩

/-- **Whatever stands in what is heard was heard at a move**, after what stands before it and before
what stands behind it. -/
theorem heard_split {h : Heard} {t u : List Heard} (le : b ≤ n)
    (eq : ρ.heard i b n = t ++ h :: u) :
    ∃ k, b ≤ k ∧ k < n ∧ ρ.Hears k i h.effect h.reply ∧ ρ.heard i b k = t ∧
      ρ.heard i (k + 1) n = u := by
  induction le generalizing u with
  | refl =>
    simp [heard] at eq
  | @step n le ih =>
    rw [heard_succ le] at eq
    have latest : ∀ k, k < n → ρ.heard i (k + 1) (n + 1) =
        ρ.heard i (k + 1) n ++ (ρ.hearing i n).toList := fun k lt => heard_succ lt
    cases now : ρ.hearing i n with
    | none =>
      rw [now, Option.toList_none, List.append_nil] at eq
      obtain ⟨k, low, high, hears, before, behind⟩ := ih eq
      refine ⟨k, low, by omega, hears, before, ?_⟩
      rw [latest k high, now, behind, Option.toList_none, List.append_nil]
    | some last =>
      rw [now, Option.toList_some] at eq
      rcases List.eq_nil_or_concat u with rfl | ⟨u', h', rfl⟩
      · obtain ⟨before, same⟩ := List.append_inj' eq rfl
        obtain rfl := (List.cons.inj same).1
        refine ⟨n, le, Nat.lt_succ_self n, hearing_eq_some.1 now, before, ?_⟩
        simp [heard]
      · rw [List.concat_eq_append, ← List.cons_append, ← List.append_assoc] at eq
        obtain ⟨before, same⟩ := List.append_inj' eq rfl
        obtain rfl := (List.cons.inj same).1
        obtain ⟨k, low, high, hears, before, behind⟩ := ih before
        refine ⟨k, low, by omega, hears, before, ?_⟩
        rw [latest k high, now, behind, Option.toList_some, List.concat_eq_append]

/-- **What is left of a call is what its program leaves after what the call has heard.** -/
theorem after_heard {r : Running} (there : (ρ.state n).calls[i]? = some r) :
    (r.call.program ρ.policy).after (ρ.heard i 0 n) = some r.rest := by
  induction n generalizing r with
  | zero => cases there
  | succ n ih =>
    rw [heard_succ (Nat.zero_le n)]
    cases before : (ρ.state n).calls[i]? with
    | none =>
      obtain ⟨c, begins, rfl⟩ := ρ.begins_of_new before there
      have silent : ∀ h, h ∉ ρ.heard i 0 (n + 1) := by
        intro h mem
        obtain ⟨k, -, high, hears⟩ := mem_heard.1 mem
        have later := ρ.lt_of_hears i begins hears
        omega
      rw [← heard_succ (Nat.zero_le n), List.eq_nil_iff_forall_not_mem.2 silent]
      rfl
    | some r' =>
      rcases ρ.calls_succ before with ⟨idle, after⟩ | ⟨e, next, reply, waits, hears, after⟩
      · obtain rfl := Option.some.inj (after.symm.trans there)
        rw [hearing_eq_none idle, Option.toList_none, List.append_nil]
        exact ih before
      · obtain rfl := Option.some.inj (after.symm.trans there)
        have now : ρ.hearing i n = some ⟨e, reply⟩ := hearing_eq_some.2 hears
        rw [now, Option.toList_some, Program.after_append, ih before, waits]
        exact Program.after_ask_eq_some.2 (.inr ⟨reply, [], rfl, rfl⟩)

/-- A call that waits for an effect asks for it after what it has heard. -/
theorem asks_of_pending {c : Call} {x : Effect} (call : ρ.call? n i = some c)
    (waits : (ρ.state n).pending i = some x) :
    (c.program ρ.policy).Asks (ρ.heard i 0 n) x := by
  obtain ⟨c', begun, next, there⟩ := System.pending_eq_some waits
  obtain rfl : c' = c := by
    rw [call?, there] at call
    exact Option.some.inj call
  exact ⟨next, after_heard there⟩

/-- A call is over by now, with a result. -/
def Over (ρ : Run) (n i : Nat) (r : Except Failure Answer) : Prop :=
  ∃ running, (ρ.state n).calls[i]? = some running ∧ running.rest = .ended r

/-- **A call is over exactly if its program is**, after what the call has heard. -/
theorem over_iff {c : Call} {r : Except Failure Answer} (call : ρ.call? n i = some c) :
    ρ.Over n i r ↔ (c.program ρ.policy).Ends (ρ.heard i 0 n) r := by
  obtain ⟨running, there, rfl⟩ := Option.map_eq_some_iff.1 call
  have left := after_heard there
  unfold Program.Ends
  rw [left, Option.some.injEq]
  constructor
  · rintro ⟨running', there', finished⟩
    obtain rfl := Option.some.inj (there.symm.trans there')
    exact finished
  · exact fun finished => ⟨running, there, finished⟩

/-- A call that is over with an answer has returned it. -/
theorem over_ok_iff {answer : Answer} : ρ.Over n i (.ok answer) ↔ ρ.Returned n i answer := Iff.rfl

/-- What a call has announced by now. -/
def told (ρ : Run) (n i : Nat) : List RoomEvent := (ρ.heard i 0 n).filterMap Heard.event?

end Run
end Holdfast.Reservation
