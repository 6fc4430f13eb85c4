import Holdfast.Proofs.Store.Moments
import Holdfast.Proofs.Store.Writes

/-!
# What a transaction may rely on

Any requests to a store, with time passing between them. No version stands twice, and none comes back
that is out of sight. So a transaction that is committed vouches for what it watched: an entry that was
seen has been there all the time since, with its text and its deadline, and a key that was seen without
one is without one again, though there may have been one in between. A watch leaves out none of the keys
that it is asked for, so the transaction vouches for all of them.

A transaction that is aborted has found a watched key changed and writes nothing; one that is committed
leaves under each key what its last write to it says.
-/

namespace Holdfast.Store.Moment

variable {m : Moment} {key : String}

/-- What a watch sees of a key. -/
theorem version?_of_mem_watch {keys : List String} {version : Option Nat}
    (seen : (key, version) ∈ (m.store.watch m.clock keys).versions) :
    m.store.version? m.clock key = version := by
  obtain ⟨key', -, same⟩ := List.mem_map.1 seen
  obtain ⟨rfl, rfl⟩ := Prod.mk.inj same
  rfl

/-- Where no version is seen, nothing is live. -/
theorem live?_of_version?_eq_none (absent : m.store.version? m.clock key = none) :
    m.live? key = none := Option.map_eq_none_iff.1 absent

/-- **What is live under a version that was seen before** was live all the time since. -/
theorem live?_between (numbered : m.store.Numbered) {between : List Happening} {version : Nat}
    (saw : m.store.version? m.clock key = some version)
    (sees : (m.after between).store.version? (m.after between).clock key = some version) :
    ∃ e, e.version = version ∧ ∀ early late, between = early ++ late →
      ∀ t ≤ (m.after between).clock, (m.after early).store.live? t key = some e := by
  obtain ⟨e₀, live₀, same⟩ := Option.map_eq_some_iff.1 saw
  obtain ⟨e, live, rfl⟩ := Option.map_eq_some_iff.1 sees
  have given : e.version ≤ m.store.writes := by
    rw [← same]
    exact numbered key e₀ (live?_eq_some_iff.1 live₀).1
  refine ⟨e, rfl, ?_⟩
  intro early late rfl t time
  rw [after_append] at live time
  have old := Nat.le_trans given (m.evolves_after early).writes_le
  exact live?_since live old time

/-- A transaction is aborted exactly if a watched key has another version than it was watched with. -/
theorem exec_aborted_iff (m : Moment) (w : Watch) (writes : List Write) :
    (m.store.exec m.clock w writes).1 = .aborted ↔
      ∃ seen ∈ w.versions, m.store.version? m.clock seen.1 ≠ seen.2 := by
  unfold exec
  split
  · rename_i agrees
    refine iff_of_false (by simp) ?_
    rintro ⟨seen, mem, differs⟩
    exact differs (version?_of_agrees mem agrees)
  · rename_i differs
    rw [Bool.not_eq_true, agrees, List.all_eq_false] at differs
    obtain ⟨seen, mem, differs⟩ := differs
    exact iff_of_true rfl ⟨seen, mem, fun same => differs (decide_eq_true same)⟩

/-- **What a transaction may rely on** at a moment, and what whoever watches at that moment may rely on
later. -/
structure Vouches (m : Moment) : Prop where
  /-- No two entries have one version. -/
  distinct : m.store.Distinct
  /-- A watch reports every key that it is asked for, with the version of the live entry or without
  one. -/
  watched : ∀ keys, (m.store.watch m.clock keys).versions =
    keys.map fun key => (key, (m.live? key).map Entry.version)
  /-- A version that showed and does not any more never does again. -/
  gone : ∀ between later version, m.Shows version → ¬ (m.after between).Shows version →
    ¬ ((m.after between).after later).Shows version
  /-- An entry that was watched is there until the transaction is committed, at every time and in
  every store in between. -/
  kept : ∀ keys key version between (w : Watch) writes,
    (key, some version) ∈ (m.store.watch m.clock keys).versions →
    (key, some version) ∈ w.versions →
    ((m.after between).store.exec (m.after between).clock w writes).1 = .committed →
    ∃ e, e.version = version ∧ ∀ early late, between = early ++ late →
      ∀ t ≤ (m.after between).clock, (m.after early).store.live? t key = some e
  /-- A key that was watched without an entry had none, and has none when the transaction is
  committed. -/
  absent : ∀ keys key between (w : Watch) writes,
    (key, none) ∈ (m.store.watch m.clock keys).versions → (key, none) ∈ w.versions →
    ((m.after between).store.exec (m.after between).clock w writes).1 = .committed →
    m.live? key = none ∧ (m.after between).live? key = none
  /-- A transaction is aborted if and only if a watched key has changed; then it writes nothing. -/
  aborted : ∀ (w : Watch) writes,
    ((m.store.exec m.clock w writes).1 = .aborted ↔
      ∃ seen ∈ w.versions, m.store.version? m.clock seen.1 ≠ seen.2) ∧
    ((m.store.exec m.clock w writes).1 = .aborted → (m.store.exec m.clock w writes).2 = m.store)
  /-- One that is committed carries out its writes in order, and the last one to a key decides. -/
  committed : ∀ (w : Watch) writes, (m.store.exec m.clock w writes).1 = .committed →
    (m.store.exec m.clock w writes).2 = writes.foldl (apply m.clock) m.store ∧
    ∀ key, ((m.store.exec m.clock w writes).2.entries.get? key).map Entry.content =
      (Write.last? writes key).elim ((m.store.entries.get? key).map Entry.content)
        (·.leaves m.clock)

/-- **The law of optimistic locking.** Whatever happens to a store that was empty at the start, and
whatever time passes in between, transactions may rely on what they watched. -/
theorem vouches_after (start : Nat) (past : List Happening) :
    (Moment.after { clock := start } past).Vouches := by
  obtain ⟨numbered, distinct⟩ : (Moment.after { clock := start } past).store.Numbered ∧
      (Moment.after { clock := start } past).store.Distinct :=
    orderly_after numbered_empty distinct_empty
  generalize Moment.after { clock := start } past = m at numbered distinct
  refine ⟨distinct, fun keys => rfl, ?gone, ?kept, ?absent, ?aborted, ?committed⟩
  case gone =>
    intro between later version showed hidden shows
    have given := Nat.le_trans (showed.given numbered) (m.evolves_after between).writes_le
    exact hidden (shows_since given shows)
  case kept =>
    intro keys key version between w writes seen watched committed
    have agrees := (exec_committed_iff _ _ _ _).1 committed
    exact live?_between numbered (version?_of_mem_watch seen) (version?_of_agrees watched agrees)
  case absent =>
    intro keys key between w writes seen watched committed
    have agrees := (exec_committed_iff _ _ _ _).1 committed
    exact ⟨live?_of_version?_eq_none (version?_of_mem_watch seen),
      live?_of_version?_eq_none (version?_of_agrees watched agrees)⟩
  case aborted =>
    intro w writes
    exact ⟨exec_aborted_iff m w writes, exec_of_aborted⟩
  case committed =>
    intro w writes committed
    have done : (m.store.exec m.clock w writes).2 = writes.foldl (apply m.clock) m.store := by
      unfold exec
      rw [if_pos ((exec_committed_iff _ _ _ _).1 committed)]
    refine ⟨done, ?_⟩
    intro key
    rw [done]
    exact content_writes_eq writes

/-- Of two keys, the first one is written, and some time passes. -/
def written : Moment :=
  .after { clock := 0 } [.request (.tryCreate "kept" "text" 1000), .wait 5]

/-- The other one comes, and goes when its time is over. -/
def passing : List Happening := [.request (.tryCreate "brief" "text" 10), .wait 10]

/-- Both keys are watched, and a transaction that rests on the watch is committed later. The first key
has had its entry all the time. The other one is absent as it was, though it had an entry meanwhile. -/
theorem vouches_after_passing :
    (written.store.watch written.clock ["kept", "brief"]).versions =
        [("kept", some 1), ("brief", none)] ∧
      (∃ e, e.version = 1 ∧ ∀ early late, passing = early ++ late →
        ∀ t ≤ (written.after passing).clock, (written.after early).store.live? t "kept" = some e) ∧
      (written.after (passing.take 1)).live? "brief" ≠ none ∧
      (written.after passing).live? "brief" = none := by
  have vouches : written.Vouches := vouches_after 0 _
  have seen : (written.store.watch written.clock ["kept", "brief"]).versions =
      [("kept", some 1), ("brief", none)] := (vouches.watched _).trans (by decide +kernel)
  have committed : ((written.after passing).store.exec (written.after passing).clock
      (written.store.watch written.clock ["kept", "brief"]) []).1 = .committed := by decide +kernel
  refine ⟨seen, ?_, by decide +kernel, ?_⟩
  · have mem : ("kept", some 1) ∈ (written.store.watch written.clock ["kept", "brief"]).versions := by
      simp [seen]
    exact vouches.kept _ _ _ _ _ _ mem mem committed
  · have mem : ("brief", none) ∈ (written.store.watch written.clock ["kept", "brief"]).versions := by
      simp [seen]
    exact (vouches.absent _ _ _ _ _ mem mem committed).2

end Holdfast.Store.Moment
