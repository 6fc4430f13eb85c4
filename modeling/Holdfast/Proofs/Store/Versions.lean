import Holdfast.Store.Request

/-!
# What a version vouches for

Every write gives its entry a version above all earlier ones, and nothing else makes entries. So a
store that comes out of another by any requests (`Evolves`) holds an old version only where it was
held before, with the same text and deadline. A transaction that finds a key with the version it was
watched with therefore finds the entry that was there all the time since (`live?_of_agrees`), and no
two keys have entries with the same version (`distinct_answer`).

A key that was absent when it was watched may have come and gone in between: the transaction agrees
again as soon as the key is absent.
-/

namespace Holdfast.Store

/-- No entry has a version above the number of writes. -/
def Numbered (s : Store) : Prop :=
  ∀ key e, s.entries.get? key = some e → e.version ≤ s.writes

/-- The empty store is numbered. -/
theorem numbered_empty : Numbered {} := by
  intro key e h
  cases h

/-- **A store that came out of another.** It has seen more writes, and an entry of it whose version
is not among the new ones stood under the same key before. -/
structure Evolves (s s' : Store) : Prop where
  writes_le : s.writes ≤ s'.writes
  old : ∀ key e, s'.entries.get? key = some e → e.version ≤ s.writes → s.entries.get? key = some e
  numbered : s.Numbered → s'.Numbered

namespace Evolves

/-- A store comes out of itself. -/
theorem refl (s : Store) : Evolves s s := ⟨Nat.le_refl _, fun _ _ h _ => h, id⟩

/-- What came out of a store that came out of a third one came out of that. -/
theorem trans {s₁ s₂ s₃ : Store} (h : Evolves s₁ s₂) (h' : Evolves s₂ s₃) : Evolves s₁ s₃ := by
  refine ⟨Nat.le_trans h.writes_le h'.writes_le, ?_, h'.numbered ∘ h.numbered⟩
  intro key e there low
  exact h.old key e (h'.old key e there (Nat.le_trans low h.writes_le)) low

end Evolves

/-! ## Every request evolves the store -/

section requests

variable (now : Nat) (s : Store)

/-- A write evolves the store. -/
theorem evolves_put (key value : String) (ttl : Nat) : Evolves s (s.put now key value ttl) := by
  refine ⟨Nat.le_succ _, ?_, ?_⟩
  · intro key' e there low
    rw [put] at there
    by_cases same : key' = key
    · subst same
      rw [SortedMap.get?_insert_self] at there
      obtain rfl := Option.some.inj there
      exact absurd low (Nat.not_succ_le_self _)
    · rwa [s.entries.get?_insert_ne same] at there
  · intro numbered key' e there
    rw [put] at there ⊢
    by_cases same : key' = key
    · subst same
      rw [SortedMap.get?_insert_self] at there
      obtain rfl := Option.some.inj there
      exact Nat.le_refl _
    · rw [s.entries.get?_insert_ne same] at there
      exact Nat.le_succ_of_le (numbered key' e there)

/-- A store that keeps some of its entries evolves. -/
theorem evolves_filter (p : String × Entry → Bool) :
    Evolves s { s with entries := s.entries.filter p } := by
  have kept : ∀ key e, (s.entries.filter p).get? key = some e → s.entries.get? key = some e := by
    intro key e there
    rw [SortedMap.get?_filter, Option.filter_eq_some_iff] at there
    exact there.1
  exact ⟨Nat.le_refl _, fun key e there _ => kept key e there,
    fun numbered key e there => numbered key e (kept key e there)⟩

/-- Taking an entry away evolves the store. -/
theorem evolves_remove (key : String) : Evolves s (s.remove key) := s.evolves_filter _

/-- One write of a transaction evolves the store. -/
theorem evolves_apply (write : Write) : Evolves s (s.apply now write) := by
  cases write with
  | put key value ttl => exact s.evolves_put now key value ttl
  | delete key => exact s.evolves_remove key

/-- The writes of a transaction evolve the store. -/
theorem evolves_foldl (writes : List Write) : Evolves s (writes.foldl (apply now) s) := by
  induction writes generalizing s with
  | nil => exact .refl s
  | cons write writes ih => exact (s.evolves_apply now write).trans (ih (s.apply now write))

/-- A transaction evolves the store. -/
theorem evolves_exec (w : Watch) (writes : List Write) : Evolves s (s.exec now w writes).2 := by
  unfold exec
  split
  · exact s.evolves_foldl now writes
  · exact .refl s

/-- **Every request evolves the store.** -/
theorem evolves_answer (r : Request) : Evolves s (s.answer now r).2 := by
  cases r with
  | tryCreate key value ttl =>
    simp only [answer, tryCreate]
    split
    · exact .refl s
    · exact s.evolves_put now key value ttl
  | read key => exact .refl s
  | refresh key value ttl => exact s.evolves_put now key value ttl
  | delete key => exact s.evolves_remove key
  | remaining key => exact .refl s
  | scan start cursor count => exact .refl s
  | watch keys => exact .refl s
  | exec w writes => exact s.evolves_exec now w writes
  | evict => exact s.evolves_filter _

end requests

/-! ## No version stands twice -/

/-- No two keys have entries with the same version. -/
def Distinct (s : Store) : Prop :=
  ∀ key key' e e', s.entries.get? key = some e → s.entries.get? key' = some e' →
    e.version = e'.version → key = key'

/-- Nothing stands twice in the empty store. -/
theorem distinct_empty : Distinct {} := by
  intro key key' e e' h
  cases h

section distinct

variable {now : Nat} {s : Store}

/-- The version of a write is above all others. -/
theorem distinct_put (numbered : s.Numbered) (distinct : s.Distinct) (key value : String)
    (ttl : Nat) : (s.put now key value ttl).Distinct := by
  have new : ∀ k e, (s.put now key value ttl).entries.get? k = some e →
      k = key ∧ e.version = s.writes + 1 ∨ s.entries.get? k = some e ∧ e.version ≤ s.writes := by
    intro k e there
    rw [put] at there
    by_cases same : k = key
    · subst same
      rw [SortedMap.get?_insert_self] at there
      obtain rfl := Option.some.inj there
      exact .inl ⟨rfl, rfl⟩
    · rw [s.entries.get?_insert_ne same] at there
      exact .inr ⟨there, numbered k e there⟩
  intro k k' e e' there there' same
  rcases new k e there with ⟨rfl, top⟩ | ⟨before, low⟩
  · rcases new k' e' there' with ⟨rfl, -⟩ | ⟨-, low'⟩
    · rfl
    · omega
  · rcases new k' e' there' with ⟨rfl, top'⟩ | ⟨before', -⟩
    · omega
    · exact distinct k k' e e' before before' same

/-- A store that keeps some of its entries keeps their versions. -/
theorem distinct_filter (distinct : s.Distinct) (p : String × Entry → Bool) :
    Distinct { s with entries := s.entries.filter p } := by
  intro k k' e e' there there' same
  rw [SortedMap.get?_filter, Option.filter_eq_some_iff] at there there'
  exact distinct k k' e e' there.1 there'.1 same

/-- After the writes of a transaction no version stands twice. -/
theorem distinct_foldl (numbered : s.Numbered) (distinct : s.Distinct) (writes : List Write) :
    (writes.foldl (apply now) s).Distinct := by
  induction writes generalizing s with
  | nil => exact distinct
  | cons write writes ih =>
    refine ih ((s.evolves_apply now write).numbered numbered) ?_
    cases write with
    | put key value ttl => exact distinct_put numbered distinct key value ttl
    | delete key => exact distinct_filter distinct _

/-- **No request makes a version stand twice.** -/
theorem distinct_answer (numbered : s.Numbered) (distinct : s.Distinct) (r : Request) :
    (s.answer now r).2.Distinct := by
  cases r with
  | tryCreate key value ttl =>
    simp only [answer, tryCreate]
    split
    · exact distinct
    · exact distinct_put numbered distinct key value ttl
  | read key => exact distinct
  | refresh key value ttl => exact distinct_put numbered distinct key value ttl
  | delete key => exact distinct_filter distinct _
  | remaining key => exact distinct
  | scan start cursor count => exact distinct
  | watch keys => exact distinct
  | exec w writes =>
    simp only [answer, exec]
    split
    · exact distinct_foldl numbered distinct writes
    · exact distinct
  | evict => exact distinct_filter distinct _

end distinct

/-! ## What a watch rests on -/

/-- The version of the live entry under a key, if there is one. -/
def version? (now : Nat) (s : Store) (key : String) : Option Nat :=
  (s.live? now key).map (·.version)

/-- An entry that is not new was there before, and was live if it is live now. -/
theorem Evolves.live? {s s' : Store} {t t' : Nat} {key : String} {e : Entry} (h : Evolves s s')
    (time : t ≤ t') (low : e.version ≤ s.writes) (live : s'.live? t' key = some e) :
    s.live? t key = some e := by
  obtain ⟨there, early⟩ := live?_eq_some_iff.1 live
  exact live?_eq_some_iff.2 ⟨h.old key e there low, Nat.lt_of_le_of_lt time early⟩

section agreement

variable {s₁ s₂ s₃ : Store} {t₁ t₂ t₃ : Nat} {w : Watch} {key : String}

/-- A watched key has the version that it was watched with. -/
theorem version?_of_agrees {version : Option Nat} (seen : (key, version) ∈ w.versions)
    (agrees : s₃.agrees t₃ w = true) : s₃.version? t₃ key = version := by
  have all := List.all_eq_true.1 agrees (key, version) seen
  exact of_decide_eq_true all

/-- **An entry found under a watched key was there since the watch.** -/
theorem live?_of_agrees (numbered : s₁.Numbered) (h₁ : Evolves s₁ s₂) (h₂ : Evolves s₂ s₃)
    (time : t₂ ≤ t₃) (seen : (key, s₁.version? t₁ key) ∈ w.versions)
    (agrees : s₃.agrees t₃ w = true) {e : Entry} (live : s₃.live? t₃ key = some e) :
    s₂.live? t₂ key = some e := by
  have same : s₃.version? t₃ key = s₁.version? t₁ key := version?_of_agrees seen agrees
  rw [version?, live, Option.map_some] at same
  obtain ⟨e₁, live₁, eq⟩ := Option.map_eq_some_iff.1 same.symm
  have low : e.version ≤ s₂.writes := by
    rw [← eq]
    exact Nat.le_trans (numbered key e₁ (live?_eq_some_iff.1 live₁).1) h₁.writes_le
  exact h₂.live? time low live

end agreement

end Holdfast.Store
