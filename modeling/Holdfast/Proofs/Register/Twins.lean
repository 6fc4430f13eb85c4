import Holdfast.Proofs.Register.Connections
import Holdfast.Proofs.Register.Renaming
import Holdfast.Proofs.Register.Telling

/-!
# Two worlds under different names

Two worlds are twins if they mirror the same register under different names, and have the same entries
for connections (`World.Twins`). The same call under different names comes to the same in both, under
other names, announces the same in both, and leaves twins (`Twins.matches_call`).

Nothing has to be said of the entries of holders: all that they are good for is in the register. The
entries of connections may name anything that was once true.
-/

namespace Holdfast.Reservation

/-! ## Entries of connections -/

/-- What is stored for a connection, with its deadline. -/
def World.link (w : World) (s : SessionId) : Option (String × Nat) :=
  (w.store.entries.get? (Key.session s)).map Entry.content

/-- **The entries of connections are the same** under the other names. -/
def World.Linked (ρ : Renaming) (w v : World) : Prop :=
  ∀ s ∈ ρ.sessions, v.link (ρ.session s) = w.link s

namespace World

variable {policy : Policy} {w w' : World} {slot : SlotId} {s : SessionId}

/-- The slot that the entry of a connection names is told by the entry and the time. -/
theorem names?_session (w : World) (s : SessionId) :
    w.names? (Key.session s) = ((w.link s).filter (w.clock < ·.2)).bind (SlotId.read? ·.1) := by
  unfold names? link Store.read? Store.live?
  rw [Option.filter_map, Option.bind_map, Option.bind_map]
  rfl

/-- Writes under other keys leave the entry of a connection as it is. -/
theorem link_misses {writes : List Write} (misses : Write.Misses writes (Key.session s)) :
    (w.write writes).link s = w.link s :=
  congrArg (Option.map _) (Store.get?_writes_ne misses)

/-- An acquire through a connection gives it an entry. -/
theorem link_placing (policy : Policy) (w : World) (hold : HoldRecord) (slot : SlotId)
    (holder : HolderId) (ttl : Nat) (s : SessionId) :
    (w.write (placing policy hold slot holder ttl)).link s =
      if hold.session = some s then some (SlotId.text slot, w.clock + ttl) else w.link s := by
  by_cases connected : hold.session = some s
  · obtain ⟨v, there⟩ := @get?_placing_session w.clock w.store policy hold slot holder ttl s connected
    rw [if_pos connected, link, write_store, there]
    rfl
  · rw [if_neg connected]
    refine link_misses (misses_placing_of_ne (Key.hold_ne_session slot s)
      (fun _ => Key.holder_ne_session holder s) fun s' theirs same => ?_)
    obtain rfl := Key.session_inj same
    exact connected theirs

/-- The entry of a connection is among those that go with a hold if it names the slot. -/
theorem session_mem_stale {c : Claimant} :
    Key.session s ∈ w.stale slot c ↔
      c.session = some s ∧ w.names? (Key.session s) = some slot := by
  rw [mem_stale]
  refine and_congr_left fun _ => ?_
  unfold indexKeys
  rw [List.mem_append, List.mem_singleton, Option.mem_toList, Option.map_eq_some_iff]
  constructor
  · rintro (same | ⟨s', connected, same⟩)
    · exact absurd same.symm (Key.holder_ne_session c.holder s)
    · rwa [Key.session_inj same] at connected
  · exact fun connected => .inr ⟨s, connected, rfl⟩

/-- The entries that go with a hold are taken away. -/
theorem link_stale (w w' : World) (slot : SlotId) (c : Claimant) (s : SessionId) :
    (w'.write ((w.stale slot c).map .delete)).link s =
      if c.session = some s ∧ w.names? (Key.session s) = some slot then none else w'.link s := by
  by_cases goes : Key.session s ∈ w.stale slot c
  · rw [if_pos (session_mem_stale.1 goes), link, write_store, Store.get?_deletes goes]
    rfl
  · rw [if_neg (mt session_mem_stale.2 goes)]
    exact link_misses (.deletes goes)

/-- The entry of one connection is taken away. -/
theorem link_forget (w : World) (s' s : SessionId) :
    (w.write [.delete (Key.session s')]).link s = if s = s' then none else w.link s := by
  by_cases same : s = s'
  · subst same
    rw [if_pos rfl, link, write_store, List.foldl_cons, List.foldl_nil, Store.apply, Store.remove,
      SortedMap.get?_erase_self]
    rfl
  · rw [if_neg same]
    exact link_misses (.single fun keys => same (Key.session_inj keys).symm)

/-- Entries that ran out are taken away. -/
theorem link_evict (w : World) (s : SessionId) :
    ({ w with store := (w.store.evict w.clock).2 } : World).link s =
      (w.link s).filter (w.clock < ·.2) := by
  show ((w.store.entries.filter _).get? _).map _ = _
  rw [SortedMap.get?_filter, link, Option.filter_map]
  rfl

namespace Linked

variable {ρ : Renaming} {v v' : World} {c : Claimant} (linked : w.Linked ρ v)
  (clock : v.clock = w.clock)

include linked

/-- An entry names the same slot under its other name. -/
theorem names? (clock : v.clock = w.clock) (covers : s ∈ ρ.sessions) :
    v.names? (Key.session (ρ.session s)) = w.names? (Key.session s) := by
  rw [names?_session, names?_session, linked s covers, clock]

/-- Writes that miss the entries of all connections. -/
theorem write {writes writes' : List Write} (misses : ∀ s, Write.Misses writes (Key.session s))
    (misses' : ∀ s, Write.Misses writes' (Key.session s)) :
    (w.write writes).Linked ρ (v.write writes') := by
  intro s covers
  rw [link_misses (misses s), link_misses (misses' _)]
  exact linked s covers

include clock

/-- What an acquire writes that comes to the same outcome under another name. -/
theorem settle (policy : Policy) (slot : SlotId) {o : AcquireOutcome}
    (covers : ∀ hold ttl renewed, o = .acquired hold ttl renewed →
      ∀ s, hold.session = some s → s ∈ ρ.sessions) :
    (w.settle policy slot o).Linked ρ (v.settle policy slot (o.rename ρ)) := by
  cases o with
  | conflict c => exact linked
  | acquired hold ttl renewed =>
    intro s covered
    have same : (hold.rename ρ).session = some (ρ.session s) ↔ hold.session = some s :=
      Renaming.map_session_eq_iff (covers hold ttl renewed rfl) covered
    unfold World.settle AcquireOutcome.rename
    rw [link_placing, link_placing, linked s covered, clock]
    simp only [same]

omit linked in
/-- The entries that go with a hold are taken away. -/
theorem stale (linked : w.Linked ρ v) (rest : w'.Linked ρ v') (covers : ρ.Covers c) :
    (w'.write ((w.stale slot c).map .delete)).Linked ρ
      (v'.write ((v.stale slot (c.rename ρ)).map .delete)) := by
  intro s covered
  have same : (c.rename ρ).session = some (ρ.session s) ↔ c.session = some s :=
    Renaming.map_session_eq_iff covers.2 covered
  rw [link_stale, link_stale, rest s covered, linked.names? clock covered]
  simp only [same]

/-- What a release writes that comes to the same outcome. -/
theorem release (covers : ρ.Covers c) (o : ReleaseOutcome) :
    (w.write (o.writes slot (w.stale slot c))).Linked ρ
      (v.write (o.writes slot (v.stale slot (c.rename ρ)))) := by
  cases o with
  | noHold => exact linked.stale clock linked covers
  | notOwner => exact linked
  | released day =>
    have misses : ∀ s, Write.Misses [.delete (Key.hold slot)] (Key.session s) :=
      fun s => .single (Key.hold_ne_session slot s)
    have dropped := linked.write misses misses
    exact linked.stale clock dropped covers

omit clock in
/-- The entry of one connection is taken away. -/
theorem forget (covers : s ∈ ρ.sessions) :
    (w.write [.delete (Key.session s)]).Linked ρ
      (v.write [.delete (Key.session (ρ.session s))]) := by
  intro s' covered
  rw [link_forget, link_forget, linked s' covered]
  simp only [ρ.session_injOn.eq_iff covered covers]

/-- Entries that ran out are taken away. -/
theorem evict :
    ({ w with store := (w.store.evict w.clock).2 } : World).Linked ρ
      { v with store := (v.store.evict v.clock).2 } := by
  intro s covered
  rw [link_evict, link_evict, linked s covered, clock]

end Linked

/-! ## Twins -/

/-- **The worlds are twins**: they mirror the same register under different names, and have the same
entries for connections. -/
structure Twins (policy : Policy) (calendar : Calendar) (ρ : Renaming) (w v : World)
    (m n : Register) : Prop where
  mirrors : w.Mirrors policy calendar m
  mirrors' : v.Mirrors policy calendar n
  renamed : m.Renamed ρ n
  linked : w.Linked ρ v
  catalogue : v.catalogue = w.catalogue

/-- **The programs match** in the two worlds: the second one comes to what `f` makes of what the first
one comes to, or fails with the same error, both announce the same, and they leave twins. -/
def Matches {ε α β : Type} (policy : Policy) (calendar : Calendar) (ρ : Renaming) (f : α → β)
    (w v : World) (p : Program ε α) (q : Program ε β) : Prop :=
  (v.run q).1 = (w.run p).1.map f ∧ v.tells q = w.tells p ∧
    ∃ m n, Twins policy calendar ρ (w.run p).2 (v.run q).2 m n

namespace Matches

variable {ε ε' α β γ δ : Type} {policy : Policy} {calendar : Calendar} {ρ : Renaming} {v : World}
  {f : α → β} {g : γ → δ} {p : Program ε α} {q : Program ε β}

/-- One after the other. -/
theorem seq {k : α → Program ε γ} {l : β → Program ε δ}
    (first : Matches policy calendar ρ f w v p q)
    (rest : ∀ a w' v' m' n', Twins policy calendar ρ w' v' m' n' →
      Matches policy calendar ρ g w' v' (k a) (l (f a))) :
    Matches policy calendar ρ g w v (p >>= k) (q >>= l) := by
  obtain ⟨result, told, m, n, twins⟩ := first
  rcases ended : w.run p with ⟨r, w'⟩
  rcases ended' : v.run q with ⟨r', v'⟩
  rw [ended, ended'] at result twins
  obtain rfl : r' = r.map f := result
  unfold Matches
  cases r with
  | error e =>
    rw [run_seq_error ended, run_seq_error ended', tells_seq_error ended, tells_seq_error ended']
    exact ⟨rfl, told, m, n, twins⟩
  | ok a =>
    obtain ⟨result', told', later⟩ := rest a w' v' m n twins
    rw [run_seq ended, run_seq ended', tells_seq ended, tells_seq ended', told, told']
    exact ⟨result', rfl, later⟩

/-- A failure is taken as a value. -/
theorem attempt (h : Matches policy calendar ρ f w v p q) :
    Matches policy calendar ρ (Except.map f) w v (p.attempt : Program ε' (Except ε α))
      (q.attempt : Program ε' (Except ε β)) := by
  obtain ⟨result, told, later⟩ := h
  unfold Matches
  rw [run_attempt_eq, run_attempt_eq, tells_attempt, tells_attempt, result]
  exact ⟨rfl, told, later⟩

end Matches

namespace Twins

variable {ε α β γ δ : Type} {policy : Policy} {calendar : Calendar} {ρ : Renaming} {v : World}
  {m n : Register} {f : α → β} {p : Program ε α} {q : Program ε β}
  (twins : Twins policy calendar ρ w v m n)

include twins

/-- Twins have the same time. -/
theorem clock : v.clock = w.clock :=
  twins.mirrors'.clock.trans (twins.renamed.clock.trans twins.mirrors.clock.symm)

/-- Counting and announcing change nothing of them. -/
theorem beside (metrics metrics' : Metrics) (rooms rooms' : Hub) :
    Twins policy calendar ρ { w with metrics, rooms }
      { v with metrics := metrics', rooms := rooms' } m n :=
  ⟨twins.mirrors.beside _ _, twins.mirrors'.beside _ _, twins.renamed, twins.linked, twins.catalogue⟩

/-- **Programs that only look match** if they come to the same. -/
theorem matches_of_looks (looks : p.Looks) (looks' : q.Looks)
    (same : (v.run q).1 = (w.run p).1.map f) : Matches policy calendar ρ f w v p q := by
  obtain ⟨metrics, left⟩ := run_of_looks looks w
  obtain ⟨metrics', left'⟩ := run_of_looks looks' v
  refine ⟨same, ?_, m, n, ?_⟩
  · rw [tells_of_tries looks.tries, tells_of_tries looks'.tries]
  · rw [left, left']
    exact twins.beside metrics metrics' w.rooms v.rooms

omit twins in
/-- Making something of values that match. -/
theorem matches_map {g : γ → δ} {k : α → γ} {l : β → δ} (h : Matches policy calendar ρ f w v p q)
    (fits : ∀ a, l (f a) = g (k a)) :
    Matches policy calendar ρ g w v (p >>= fun a => pure (k a)) (q >>= fun b => pure (l b)) :=
  h.seq fun a _ _ _ _ twins' =>
    twins'.matches_of_looks trivial trivial (congrArg Except.ok (fits a))

/-! ### Operations -/

/-- Without any attempt, acquires match. -/
theorem matches_acquireFor_never (never : policy.maxAttempts = 0) (slot : SlotId)
    (claimant : Claimant) (ttl : Nat) :
    Matches policy calendar ρ (AcquireOutcome.rename ρ) w v (acquireFor policy slot claimant ttl)
      (acquireFor policy slot (claimant.rename ρ) ttl) := by
  refine twins.matches_of_looks (looks_acquireFor never _ _ _) (looks_acquireFor never _ _ _) ?_
  have opened := twins.mirrors.run_openSlot slot
  have opened' := twins.mirrors'.run_openSlot slot
  rw [twins.renamed.openDay] at opened'
  unfold acquireFor
  cases isOpen : m.openDay calendar slot with
  | error e =>
    rw [isOpen] at opened opened'
    rw [run_seq_error opened, run_seq_error opened']
    rfl
  | ok day =>
    rw [isOpen] at opened opened'
    rw [run_seq opened, run_seq opened', run_seq_error (run_retrying_none never _ _ w),
      run_seq_error (run_retrying_none never _ _ v)]
    rfl

/-- **Acquires match.** -/
theorem matches_acquireFor (slot : SlotId) {claimant : Claimant} (covers : ρ.Covers claimant)
    (ttl : Nat) :
    Matches policy calendar ρ (AcquireOutcome.rename ρ) w v (acquireFor policy slot claimant ttl)
      (acquireFor policy slot (claimant.rename ρ) ttl) := by
  rcases Nat.eq_zero_or_pos policy.maxAttempts with never | attempts
  · exact twins.matches_acquireFor_never never slot claimant ttl
  obtain ⟨result, mirrors⟩ := twins.mirrors.follows_acquireFor attempts slot claimant ttl
  obtain ⟨result', mirrors'⟩ := twins.mirrors'.follows_acquireFor attempts slot (claimant.rename ρ) ttl
  obtain ⟨metrics, rooms, run⟩ := twins.mirrors.run_acquireFor attempts slot claimant ttl
  obtain ⟨metrics', rooms', run'⟩ :=
    twins.mirrors'.run_acquireFor attempts slot (claimant.rename ρ) ttl
  obtain ⟨same, renamed⟩ := twins.renamed.acquireFor policy calendar slot covers ttl
  refine ⟨?_, ?_, _, _, mirrors, mirrors', renamed, ?_, ?_⟩
  · rw [result, result', same]
  · rw [twins.mirrors.tells_acquireFor attempts, twins.mirrors'.tells_acquireFor attempts,
      twins.renamed.openDay]
    cases m.openDay calendar slot with
    | error e => rfl
    | ok day =>
      show AcquireOutcome.told slot day _ = AcquireOutcome.told slot day _
      rw [(twins.renamed.claim policy slot day covers ttl).1]
      cases (m.claim policy slot day claimant ttl).1 <;> rfl
  · rw [run, run', same]
    cases got : (m.acquireFor policy calendar slot claimant ttl).1 with
    | error e => exact twins.linked
    | ok o =>
      refine twins.linked.settle twins.clock policy slot fun hold ttl' renews is s connected => ?_
      obtain ⟨h, there, rfl⟩ := Register.kept_of_acquireFor (is ▸ got)
      exact (renamed.covers slot h there).2 s connected
  · have kept : ∀ (u : World) (r : Except Failure AcquireOutcome),
        (r.toOption.elim u (u.settle policy slot)).catalogue = u.catalogue := by
      intro u r
      rcases r with e | (⟨hold, ttl', renews⟩ | c) <;> rfl
    rw [run, run']
    exact (kept v _).trans (twins.catalogue.trans (kept w _).symm)

/-- **Releases match.** -/
theorem matches_release (slot : SlotId) {claimant : Claimant} (covers : ρ.Covers claimant) :
    Matches policy calendar ρ id w v (release policy slot claimant)
      (release policy slot (claimant.rename ρ)) := by
  rcases Nat.eq_zero_or_pos policy.maxAttempts with never | attempts
  · refine twins.matches_of_looks (looks_release never _ _) (looks_release never _ _) ?_
    unfold release
    rw [run_seq_error (run_retrying_none never _ _ w), run_seq_error (run_retrying_none never _ _ v)]
    rfl
  obtain ⟨metrics, rooms, run⟩ := twins.mirrors.run_release attempts slot claimant
  obtain ⟨metrics', rooms', run'⟩ := twins.mirrors'.run_release attempts slot (claimant.rename ρ)
  obtain ⟨same, renamed⟩ := twins.renamed.release slot covers
  rw [same, twins.renamed.leaver] at run'
  refine ⟨?_, ?_, _, _, (twins.mirrors.follows_release attempts slot claimant).2,
    (twins.mirrors'.follows_release attempts slot (claimant.rename ρ)).2, renamed, ?_, ?_⟩
  · rw [run, run']
    rfl
  · rw [twins.mirrors.tells_release attempts, twins.mirrors'.tells_release attempts, same]
  · rw [run, run']
    exact twins.linked.release twins.clock (twins.renamed.covers_leaver slot covers) _
  · rw [run, run']
    exact twins.catalogue

/-- **Commits match.** -/
theorem matches_commit (slot : SlotId) {claimant : Claimant} (covers : ρ.Covers claimant) :
    Matches policy calendar ρ id w v (commit policy slot claimant)
      (commit policy slot (claimant.rename ρ)) := by
  rcases Nat.eq_zero_or_pos policy.maxAttempts with never | attempts
  · refine twins.matches_of_looks (looks_commit never _ _) (looks_commit never _ _) ?_
    unfold commit
    cases known : calendar slot with
    | none =>
      rw [run_seq_error (twins.mirrors.run_find_unknown known),
        run_seq_error (twins.mirrors'.run_find_unknown known)]
      rfl
    | some day =>
      rw [run_seq (twins.mirrors.run_find known), run_seq (twins.mirrors'.run_find known),
        twins.renamed.booked]
      cases m.booked slot with
      | true => rfl
      | false =>
        simp only [Bool.false_eq_true, if_false]
        rw [run_seq_error (run_retrying_none never _ _ w),
          run_seq_error (run_retrying_none never _ _ v)]
        rfl
  obtain ⟨metrics, rooms, run⟩ := twins.mirrors.run_commit attempts slot claimant
  obtain ⟨metrics', rooms', run'⟩ := twins.mirrors'.run_commit attempts slot (claimant.rename ρ)
  obtain ⟨same, renamed⟩ := twins.renamed.commit calendar slot covers
  rw [same, twins.renamed.leaver] at run'
  refine ⟨?_, ?_, _, _, (twins.mirrors.follows_commit attempts slot claimant).2,
    (twins.mirrors'.follows_commit attempts slot (claimant.rename ρ)).2, renamed, ?_, ?_⟩
  · rw [run, run']
    cases (m.commit calendar slot claimant).1 <;> rfl
  · rw [twins.mirrors.tells_commit attempts, twins.mirrors'.tells_commit attempts, same]
  · rw [run, run']
    have misses : ∀ (holder : HolderId) s, Write.Misses
        [.put (Key.booked slot) holder.text fenceTtl, .delete (Key.hold slot)] (Key.session s) :=
      fun _ s => .cons (Key.booked_ne_session slot s) (.single (Key.hold_ne_session slot s))
    have marked := twins.linked.write (misses claimant.holder) (misses (claimant.rename ρ).holder)
    rcases (m.commit calendar slot claimant).1 with e | (day | _ | _)
    · exact twins.linked
    · exact Linked.stale twins.clock twins.linked marked (twins.renamed.covers_leaver slot covers)
    · exact twins.linked
    · exact twins.linked
  · rw [run, run']
    rcases (m.commit calendar slot claimant).1 with e | (day | _ | _)
    · exact twins.catalogue
    · exact congrArg (fun c : Catalogue => (c.book slot).2) twins.catalogue
    · exact twins.catalogue
    · exact twins.catalogue

/-- Reading the entry of a connection. -/
theorem matches_sessionSlot {session : SessionId} (covers : session ∈ ρ.sessions) :
    Matches policy calendar ρ id w v (sessionSlot session) (sessionSlot (ρ.session session)) := by
  have index : ∀ s, Key.session s ∈ indexKeys ⟨""⟩ (some s) := fun s => by simp [indexKeys]
  refine twins.matches_of_looks (looks_readIndex _) (looks_readIndex _) ?_
  unfold sessionSlot
  rw [twins.mirrors.legible.run_readIndex (index _), twins.mirrors'.legible.run_readIndex (index _),
    twins.linked.names? twins.clock covers]
  rfl

/-- Acquires through connections match. -/
theorem matches_acquireForSession (slot : SlotId) {holder : HolderId} {session : SessionId}
    (covers : ρ.Covers { holder, session := some session }) :
    Matches policy calendar ρ (AcquireOutcome.rename ρ) w v
      (acquireForSession policy slot holder session)
      (acquireForSession policy slot (ρ.holder holder) (ρ.session session)) := by
  unfold acquireForSession
  refine (twins.matches_sessionSlot (covers.2 session rfl)).seq fun named w₁ v₁ m₁ n₁ twins₁ => ?_
  cases named with
  | none => exact twins₁.matches_acquireFor slot covers policy.ttl
  | some previous =>
    dsimp only [id_eq]
    split
    · exact (twins₁.matches_release previous covers).attempt.seq
        fun _ w₂ v₂ m₂ n₂ twins₂ => twins₂.matches_acquireFor slot covers policy.ttl
    · exact twins₁.matches_acquireFor slot covers policy.ttl

/-- The ends of connections match. -/
theorem matches_endSession {holder : HolderId} {session : SessionId}
    (covers : ρ.Covers { holder, session := some session }) :
    Matches policy calendar ρ id w v (endSession policy holder session)
      (endSession policy (ρ.holder holder) (ρ.session session)) := by
  unfold endSession
  refine (twins.matches_sessionSlot (covers.2 session rfl)).seq fun named w₁ v₁ m₁ n₁ twins₁ => ?_
  cases named with
  | none => exact twins₁.matches_of_looks trivial trivial rfl
  | some slot =>
    have released := twins₁.matches_release slot covers
    refine released.seq fun o w₂ v₂ m₂ n₂ twins₂ => ?_
    have silent : ∀ (u : World) (s : SessionId), u.tells (ask (.delete (Key.session s)) >>= fun _ =>
        (pure (some o) : Program Failure (Option ReleaseOutcome))) = [] := fun _ _ => rfl
    refine ⟨rfl, (silent _ _).trans (silent _ _).symm, m₂, n₂, ?_⟩
    exact ⟨twins₂.mirrors.forget_session session, twins₂.mirrors'.forget_session _, twins₂.renamed,
      twins₂.linked.forget (covers.2 session rfl), twins₂.catalogue⟩

/-! ### Looks -/

/-- The status of a slot. -/
theorem matches_status (slot : SlotId) :
    Matches policy calendar ρ (SlotStatus.rename ρ) w v (status slot) (status slot) := by
  refine twins.matches_of_looks (looks_status slot) (looks_status slot) ?_
  rw [twins.mirrors.run_status, twins.mirrors'.run_status, twins.renamed.status]

/-- Listings. -/
theorem matches_listHolds :
    Matches policy calendar ρ (List.map (HoldRow.rename ρ)) w v listHolds listHolds := by
  obtain ⟨metrics, run⟩ := twins.mirrors.run_listHolds
  obtain ⟨metrics', run'⟩ := twins.mirrors'.run_listHolds
  refine twins.matches_of_looks looks_listHolds looks_listHolds ?_
  rw [run, run', twins.renamed.rows]
  rfl

/-- Snapshots. -/
theorem matches_snapshot (day : Day) :
    Matches policy calendar ρ id w v (snapshot day) (snapshot day) := by
  refine twins.matches_of_looks (looks_snapshot day) (looks_snapshot day) ?_
  rw [twins.mirrors.run_snapshot_eq, twins.mirrors'.run_snapshot_eq, twins.renamed.shot,
    twins.catalogue]
  rfl

/-! ### Passes -/

/-- A pass announces the same in both worlds. -/
theorem tells_reap : v.tells reap = w.tells reap := by
  rw [World.tells_reap, World.tells_reap]
  refine KeyOrder.eq_of_sorted twins.mirrors'.sorted_expiries twins.mirrors.sorted_expiries fun e => ?_
  rw [twins.mirrors.mem_expiries_iff, twins.mirrors'.mem_expiries_iff]
  refine exists_congr fun slot => ?_
  rw [twins.renamed.holds, twins.renamed.clock]
  cases m.holds.get? slot <;> simp [Held.isLive, Held.rename]

/-- Passes match. -/
theorem matches_reap : Matches policy calendar ρ id w v reap reap := by
  obtain ⟨result, mirrors⟩ := twins.mirrors.follows_reap
  obtain ⟨result', mirrors'⟩ := twins.mirrors'.follows_reap
  obtain ⟨same, renamed⟩ := twins.renamed.reap
  obtain ⟨metrics, rooms, passed⟩ := Mirrors.run_reap w
  obtain ⟨metrics', rooms', passed'⟩ := Mirrors.run_reap v
  refine ⟨?_, twins.tells_reap, _, _, mirrors, mirrors', renamed, ?_, ?_⟩
  · rw [result, result', same]
    rfl
  · rw [passed, passed']
    exact twins.linked.evict twins.clock
  · rw [passed, passed']
    exact twins.catalogue

end Twins
end World
end Holdfast.Reservation
