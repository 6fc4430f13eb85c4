import Holdfast.Proofs.Conduct.Deciding

/-!
# Going through a program

A call goes through its program piece by piece, each piece between two moves. What a piece has found
was so at some move in between, and what it came to depends on nothing else that happened meanwhile.

* `Run.Passes`: between two moves a call goes through a program, with a result; `Run.Reaches` says
  the same of the part of a program that a call has gone through so far.
* `passes_bind`: programs in a row are gone through one after the other. `passes_watch`,
  `passes_readHold` and so on: what a step found, and at which move.
* `reaches_of_begins`, `passes_of_over`: a call goes through its program from the move after it began.
-/

namespace Holdfast.Reservation

open Program

namespace Run

variable (ρ : Run) (i : Nat)

/-- Between two moves the call goes through so much of the first program that the second is left. -/
def Reaches {ε α : Type} (b n : Nat) (p rest : Program ε α) : Prop :=
  b ≤ n ∧ p.after (ρ.heard i b n) = some rest

/-- **Between two moves the call goes through the program, with a result.** -/
def Passes {ε α : Type} (b n : Nat) (p : Program ε α) (r : Except ε α) : Prop :=
  b ≤ n ∧ p.Ends (ρ.heard i b n) r

variable {ρ i} {ε ε' α β : Type} {b m n : Nat}

/-! ## What is heard in parts -/

/-- What is heard until a move and what is heard from it on. -/
theorem heard_append (low : b ≤ m) (high : m ≤ n) :
    ρ.heard i b n = ρ.heard i b m ++ ρ.heard i m n := by
  have parts : List.range' b (m - b) ++ List.range' m (n - m) = List.range' b (n - b) := by
    rw [show n - b = m - b + (n - m) by omega, ← List.range'_append_1,
      show b + (m - b) = m by omega]
  rw [heard, heard, heard, ← List.filterMap_append, parts]

/-- Whatever is heard in two parts is heard until some move and from it on. -/
theorem heard_eq_append {t u : List Heard} (le : b ≤ n) (eq : ρ.heard i b n = t ++ u) :
    ∃ m, b ≤ m ∧ m ≤ n ∧ ρ.heard i b m = t ∧ ρ.heard i m n = u := by
  cases u with
  | nil => exact ⟨n, le, Nat.le_refl n, by simpa using eq, by simp [heard]⟩
  | cons h u =>
    obtain ⟨k, low, high, -, before, -⟩ := heard_split le eq
    refine ⟨k, low, by omega, before, ?_⟩
    rw [heard_append low (Nat.le_of_lt high), before] at eq
    exact List.append_cancel_left eq

/-- Nothing is heard by a call before it begins. -/
theorem heard_of_begins {n₀ : Nat} {c : Call} (begins : ρ.Begins n₀ i c) (later : n₀ < n) :
    ρ.heard i 0 n = ρ.heard i (n₀ + 1) n := by
  have silent : ρ.heard i 0 (n₀ + 1) = [] := by
    rw [List.eq_nil_iff_forall_not_mem]
    intro h mem
    obtain ⟨k, -, high, hears⟩ := mem_heard.1 mem
    have := ρ.lt_of_hears i begins hears
    omega
  rw [heard_append (Nat.zero_le _) later, silent, List.nil_append]

/-! ## Programs in a row -/

section rows

variable {p : Program ε α} {f : α → Program ε β}

/-- Of two programs in a row, the first one fails, or both are gone through. -/
theorem passes_bind {r : Except ε β} (h : ρ.Passes i b n (p >>= f) r) :
    (∃ e, ρ.Passes i b n p (.error e) ∧ r = .error e) ∨
      ∃ m a, ρ.Passes i b m p (.ok a) ∧ ρ.Passes i m n (f a) r := by
  obtain ⟨le, ends⟩ := h
  rcases ends_bind.1 ends with ⟨e, failed, rfl⟩ | ⟨t₁, t₂, a, eq, first, second⟩
  · exact .inl ⟨e, ⟨le, failed⟩, rfl⟩
  · obtain ⟨m, low, high, rfl, rfl⟩ := heard_eq_append le eq
    exact .inr ⟨m, a, ⟨low, first⟩, ⟨high, second⟩⟩

/-- Two programs in a row that give a value are both gone through. -/
theorem passes_bind_ok {v : β} (h : ρ.Passes i b n (p >>= f) (.ok v)) :
    ∃ m a, ρ.Passes i b m p (.ok a) ∧ ρ.Passes i m n (f a) (.ok v) := by
  rcases passes_bind h with ⟨e, -, eq⟩ | rest
  · cases eq
  · exact rest

/-- What is over has the value that it is over with. -/
theorem passes_done {a v : α} (h : ρ.Passes i b n (.done a : Program ε α) (.ok v)) : v = a :=
  Except.ok.inj (ends_done.1 h.2).2

/-- A program whose value is put into another form. -/
theorem passes_map {g : α → β} {r : Except ε β}
    (h : ρ.Passes i b n (p >>= fun a => .done (g a)) r) :
    ∃ r', ρ.Passes i b n p r' ∧ r = r'.map g := by
  obtain ⟨r', ends, eq⟩ := ends_map h.2
  exact ⟨r', ⟨h.1, ends⟩, eq⟩

end rows

/-! ## Steps that gave a value -/

/-- The store was asked at some move. -/
theorem passes_ask {r : Store.Request} {a : r.Answer} (h : ρ.Passes i b n (ask r) (.ok a)) :
    ∃ k, b ≤ k ∧ k < n ∧ ρ.Hears k i (.store r) (.ok a) := by
  obtain ⟨le, ends⟩ := h
  rcases ends_store ends with ⟨a', heard, eq⟩ | ⟨reason, -, eq⟩
  · obtain rfl := Except.ok.inj eq
    obtain ⟨k, low, high, hears, -⟩ := heard_split le (t := []) heard
    exact ⟨k, low, high, hears⟩
  · cases eq

/-- The store was asked for something that it does not change, and told what was so at that move. -/
theorem passes_query {r : Store.Request} {a : r.Answer} (plain : ∀ w writes, r ≠ .exec w writes)
    (h : ρ.Passes i b n (ask r) (.ok a)) :
    ∃ k, b ≤ k ∧ k < n ∧ a = ((ρ.store k).answer (ρ.clock k) r).1 := by
  obtain ⟨k, low, high, hears⟩ := passes_ask h
  exact ⟨k, low, high, answer_of_hears hears plain⟩

/-- Watching keys. -/
theorem passes_watch {keys : List String} {w : Watch}
    (h : ρ.Passes i b n (ask (.watch keys)) (.ok w)) :
    ∃ k, b ≤ k ∧ k < n ∧ w = (ρ.store k).watch (ρ.clock k) keys :=
  passes_query (fun _ _ eq => by cases eq) h

/-- Asking for the time that is left. -/
theorem passes_remaining {key : String} {left : Option Nat}
    (h : ρ.Passes i b n (ask (.remaining key)) (.ok left)) :
    ∃ k, b ≤ k ∧ k < n ∧ left = (ρ.store k).remaining? (ρ.clock k) key :=
  passes_query (fun _ _ eq => by cases eq) h

/-- Nothing has time left where nothing is live. -/
theorem unheld_of_remaining {k : Nat} {slot : SlotId}
    (left : (ρ.store k).remaining? (ρ.clock k) (Key.hold slot) = none) : ρ.Unheld k slot := by
  rw [Store.remaining?, Option.map_eq_none_iff] at left
  exact read?_eq_none_iff.2 left

/-- Reading the hold on a slot. -/
theorem passes_readHold {slot : SlotId} {found : Option HoldRecord}
    (h : ρ.Passes i b n (readHold slot) (.ok found)) :
    ∃ k, b ≤ k ∧ k < n ∧ match found with
      | some hold => ρ.Holds k slot hold
      | none => ρ.Unheld k slot := by
  obtain ⟨m, text, asked, decoded⟩ := passes_bind_ok h
  obtain ⟨k, low, high, there⟩ := passes_query (fun _ _ eq => by cases eq) asked
  have before : ρ.read? k (Key.hold slot) = text := there.symm
  refine ⟨k, low, Nat.lt_of_lt_of_le high decoded.1, ?_⟩
  cases text with
  | none =>
    obtain rfl := passes_done decoded
    exact before
  | some text =>
    simp only [HoldRecord.stored] at decoded
    cases read : HoldRecord.decode? text with
    | none =>
      rw [read] at decoded
      cases (ends_fail.1 decoded.2).2
    | some hold =>
      rw [read] at decoded
      obtain rfl := passes_done decoded
      simp [Holds, before, read]

/-- A catalogue that is in reach answers truthfully. -/
theorem known_of_hears {slot : SlotId} {found : Option SlotRecord} {k : Nat}
    (hears : ρ.Hears k i (.slot slot) (.ok found)) : (ρ.catalogue k).get? slot = found := by
  obtain ⟨-, ⟨-, truth⟩ | ⟨fault, -, failed⟩⟩ := hears
  · exact (Except.ok.inj truth).symm
  · cases fault <;> cases failed

/-- Finding a slot in the catalogue. -/
theorem passes_find {slot : SlotId} {record : SlotRecord}
    (h : ρ.Passes i b n (find slot) (.ok record)) :
    ∃ k, b ≤ k ∧ k < n ∧ (ρ.catalogue k).get? slot = some record := by
  obtain ⟨le, ends⟩ := h
  obtain ⟨k, low, high, hears, -⟩ := heard_split le (t := []) (ends_find ends)
  exact ⟨k, low, high, known_of_hears hears⟩

/-- A transaction that gave a value was committed. -/
theorem passes_transact {w : Watch} {writes : List Write} {a v : α}
    (h : ρ.Passes i b n (transact w writes a) (.ok (some v))) :
    v = a ∧ ∃ k, b ≤ k ∧ k < n ∧ ρ.Commits k i w writes := by
  obtain ⟨m, outcome, asked, rest⟩ := passes_bind_ok h
  obtain ⟨k, low, high, hears⟩ := passes_ask asked
  cases outcome with
  | committed =>
    have value := Option.some.inj (passes_done rest)
    exact ⟨value, k, low, Nat.lt_of_lt_of_le high rest.1, commits_of_hears hears⟩
  | aborted => cases passes_done rest

/-- Trying again comes to a value with the last try. -/
theorem passes_retrying {policy : Policy} {op : Operation}
    {attempt : Program Failure (Option α)} {v : α}
    (h : ρ.Passes i b n (retrying policy op attempt) (.ok v)) :
    ∃ m, b ≤ m ∧ ρ.Passes i m n attempt (.ok (some v)) := by
  obtain ⟨le, ends⟩ := h
  obtain ⟨t₀, t₁, eq, last⟩ := ends_retrying ends
  obtain ⟨m, low, high, rfl, rfl⟩ := heard_eq_append le eq
  exact ⟨m, low, high, last⟩

/-! ## Calls -/

section calls

variable {c : Call} {n₀ : Nat}

/-- A call that began is the call that it began as. -/
theorem call?_of_begins (begins : ρ.Begins n₀ i c) (later : n₀ < n) : ρ.call? n i = some c := by
  refine ρ.call?_of_le i ?_ later
  obtain ⟨move, rfl⟩ := begins
  simp [call?, state_succ, move, System.next]

/-- **A call goes through its program** from the move after it began. -/
theorem reaches_of_begins {running : Running} (begins : ρ.Begins n₀ i c) (later : n₀ < n)
    (there : (ρ.state n).calls[i]? = some running) :
    ρ.Reaches i (n₀ + 1) n (c.program ρ.policy) running.rest := by
  have call := call?_of_begins begins later
  rw [call?, there] at call
  obtain rfl := Option.some.inj call
  refine ⟨later, ?_⟩
  rw [← heard_of_begins begins later]
  exact after_heard there

/-- A call that is over has gone through its program. -/
theorem passes_of_over {r : Except Failure Answer} (begins : ρ.Begins n₀ i c) (later : n₀ < n)
    (finished : ρ.Over n i r) : ρ.Passes i (n₀ + 1) n (c.program ρ.policy) r := by
  obtain ⟨running, there, rest⟩ := finished
  have reaches := reaches_of_begins begins later there
  rw [rest] at reaches
  exact reaches

/-- A call that has returned is over with its answer, and has gone through what it was called for. -/
theorem passes_of_returned {p : Program Failure α} {g : α → Answer} {answer : Answer}
    (program : c.program ρ.policy = p >>= fun a => .done (g a)) (begins : ρ.Begins n₀ i c)
    (later : n₀ < n) (returned : ρ.Returned n i answer) :
    ∃ a, ρ.Passes i (n₀ + 1) n p (.ok a) ∧ answer = g a := by
  have whole := passes_of_over begins later (over_ok_iff.2 returned)
  rw [program] at whole
  obtain ⟨r, passes, eq⟩ := passes_map whole
  cases r with
  | error e => cases eq
  | ok a => exact ⟨a, passes, Except.ok.inj eq⟩

end calls

end Run
end Holdfast.Reservation
