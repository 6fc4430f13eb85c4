import Holdfast.Proofs.Store.Versions

/-!
# A store through time

Any requests to a store, one after the other, with time passing between them (`Moment.after`). Time
does not go back and the store evolves (`clock_le_after`, `evolves_after`), so what is live under a
version that was given out earlier has been live all the time since (`live?_since`), and a version that
has gone out of sight does not come back (`shows_since`).
-/

namespace Holdfast.Store

/-- A store at some time. -/
structure Moment where
  clock : Nat := 0
  store : Store := {}

/-- Something that happens to a store. -/
inductive Happening where
  | request (r : Request)
  | wait (milliseconds : Nat)

namespace Moment

/-- The moment after something happened. -/
def step (m : Moment) : Happening → Moment
  | .request r => { m with store := (m.store.answer m.clock r).2 }
  | .wait milliseconds => { m with clock := m.clock + milliseconds }

/-- The moment after some things happened, one after the other. -/
def after (m : Moment) (hs : List Happening) : Moment := hs.foldl step m

/-- The live entry under a key at the moment. -/
def live? (m : Moment) (key : String) : Option Entry := m.store.live? m.clock key

/-- Some live entry has the version. -/
def Shows (m : Moment) (version : Nat) : Prop :=
  ∃ key e, m.live? key = some e ∧ e.version = version

variable {m : Moment} {hs : List Happening}

/-- First some things happen, and then some more. -/
theorem after_append (m : Moment) (hs hs' : List Happening) :
    m.after (hs ++ hs') = (m.after hs).after hs' := List.foldl_append

/-! ## What stays so -/

/-- Time does not go back. -/
theorem clock_le_after (m : Moment) (hs : List Happening) : m.clock ≤ (m.after hs).clock := by
  induction hs generalizing m with
  | nil => exact Nat.le_refl _
  | cons h rest ih =>
    apply Nat.le_trans ?_ (ih (m.step h))
    cases h with
    | request r => exact Nat.le_refl _
    | wait milliseconds => exact Nat.le_add_right _ _

/-- The store evolves. -/
theorem evolves_after (m : Moment) (hs : List Happening) : m.store.Evolves (m.after hs).store := by
  induction hs generalizing m with
  | nil => exact .refl _
  | cons h rest ih =>
    apply Evolves.trans ?_ (ih (m.step h))
    cases h with
    | request r => exact m.store.evolves_answer m.clock r
    | wait milliseconds => exact .refl _

/-- Versions stay numbered, and none of them comes to stand twice. -/
theorem orderly_after (numbered : m.store.Numbered) (distinct : m.store.Distinct) :
    (m.after hs).store.Numbered ∧ (m.after hs).store.Distinct := by
  induction hs generalizing m with
  | nil => exact ⟨numbered, distinct⟩
  | cons h rest ih =>
    cases h with
    | request r =>
      exact ih ((m.store.evolves_answer m.clock r).numbered numbered)
        (distinct_answer numbered distinct r)
    | wait milliseconds => exact ih numbered distinct

/-! ## Looking back -/

/-- **What is live under an old version was live before**, at every time since the version was given
out. -/
theorem live?_since {key : String} {e : Entry} (live : (m.after hs).live? key = some e)
    (old : e.version ≤ m.store.writes) {t : Nat} (time : t ≤ (m.after hs).clock) :
    m.store.live? t key = some e := (m.evolves_after hs).live? time old live

/-- **A version that is out of sight stays so.** -/
theorem shows_since {version : Nat} (old : version ≤ m.store.writes)
    (shows : (m.after hs).Shows version) : m.Shows version := by
  obtain ⟨key, e, live, rfl⟩ := shows
  exact ⟨key, e, live?_since live old (m.clock_le_after hs), rfl⟩

/-- A version that shows was given out. -/
theorem Shows.given {version : Nat} (numbered : m.store.Numbered) (shows : m.Shows version) :
    version ≤ m.store.writes := by
  obtain ⟨key, e, live, rfl⟩ := shows
  exact numbered key e (live?_eq_some_iff.1 live).1

end Moment
end Holdfast.Store
