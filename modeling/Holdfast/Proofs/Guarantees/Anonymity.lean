import Holdfast.Proofs.Conduct.Episodes
import Holdfast.Proofs.Register.Twins

/-!
# Nobody can tell who holds

Give holders and connections other names, all different, throughout a history in which one thing
happens after the other. Then every call is answered the same, up to the names, and all that a
spectator gets to see is the same to the letter: what is announced in each episode, what is left in the
rooms, which slots are booked, and the snapshot of each day (`World.episodes_rename`).

Only the names of those who occur in the history have to stay apart. Each episode leaves twins, if there
were twins before.
-/

namespace Holdfast.Reservation

/-! ## Histories under other names -/

section names

variable (ρ : Renaming)

/-- An answer under other names. -/
def Answer.rename : Answer → Answer
  | acquire o => .acquire (o.rename ρ)
  | release o => .release o
  | commit o => .commit o
  | endSession o => .endSession o
  | sessionSlot slot => .sessionSlot slot
  | status s => .status (s.rename ρ)
  | listHolds rows => .listHolds (rows.map (HoldRow.rename ρ))
  | snapshot s => .snapshot s
  | reap r => .reap r

/-- A call under other names. -/
def Call.rename : Call → Call
  | acquire slot claimant ttl => .acquire slot (claimant.rename ρ) ttl
  | release slot claimant => .release slot (claimant.rename ρ)
  | commit slot claimant => .commit slot (claimant.rename ρ)
  | acquireForSession slot holder session =>
    .acquireForSession slot (ρ.holder holder) (ρ.session session)
  | endSession holder session => .endSession (ρ.holder holder) (ρ.session session)
  | sessionSlot session => .sessionSlot (ρ.session session)
  | status slot => .status slot
  | listHolds => .listHolds
  | snapshot day => .snapshot day
  | reap => .reap

/-- Whoever is named in the call is among those who stay apart. -/
def Call.CoveredBy : Call → Prop
  | acquire _ claimant _ | release _ claimant | commit _ claimant => ρ.Covers claimant
  | acquireForSession _ holder session | endSession holder session =>
    ρ.Covers { holder, session := some session }
  | sessionSlot session => session ∈ ρ.sessions
  | status _ | listHolds | snapshot _ | reap => True

/-- An episode under other names. -/
def Episode.rename : Episode → Episode
  | call c => .call (c.rename ρ)
  | outside move => .outside move

/-- Whoever is named in the episode is among those who stay apart. -/
def Episode.CoveredBy : Episode → Prop
  | call c => c.CoveredBy ρ
  | outside _ => True

end names

/-- What is announced in an episode. -/
def World.episodeTells (policy : Policy) (w : World) : Episode → List RoomEvent
  | .call c => w.tells (c.program policy)
  | .outside _ => []

/-- **What is announced in each episode of a history.** -/
def World.tellings (policy : Policy) (w : World) : List Episode → List (List RoomEvent)
  | [] => []
  | t :: rest => w.episodeTells policy t :: (w.episode policy t).2.tellings policy rest

/-- **A spectator sees the same in both worlds**: in the rooms, in the catalogue and in the snapshot
of each day. -/
structure World.SameToSee (w v : World) : Prop where
  rooms : v.rooms = w.rooms
  catalogue : v.catalogue = w.catalogue
  snapshot : ∀ day, (v.run (snapshot day)).1 = (w.run (snapshot day)).1

/-! ## One episode -/

namespace World.Twins

variable {policy : Policy} {calendar : Calendar} {ρ : Renaming} {w v : World} {m n : Register}
  (twins : Twins policy calendar ρ w v m n)

include twins

/-- **The same call under other names** matches. -/
theorem matches_call {c : Call} (covered : c.CoveredBy ρ) :
    Matches policy calendar ρ (Answer.rename ρ) w v (c.program policy)
      ((c.rename ρ).program policy) := by
  cases c with
  | acquire slot claimant ttl =>
    exact matches_map (twins.matches_acquireFor slot covered ttl) fun _ => rfl
  | release slot claimant => exact matches_map (twins.matches_release slot covered) fun _ => rfl
  | commit slot claimant => exact matches_map (twins.matches_commit slot covered) fun _ => rfl
  | acquireForSession slot holder session =>
    exact matches_map (twins.matches_acquireForSession slot covered) fun _ => rfl
  | endSession holder session => exact matches_map (twins.matches_endSession covered) fun _ => rfl
  | sessionSlot session => exact matches_map (twins.matches_sessionSlot covered) fun _ => rfl
  | status slot => exact matches_map (twins.matches_status slot) fun _ => rfl
  | listHolds => exact matches_map twins.matches_listHolds fun _ => rfl
  | snapshot day => exact matches_map (twins.matches_snapshot day) fun _ => rfl
  | reap =>
    refine matches_map twins.matches_reap.attempt fun r => ?_
    cases r <;> rfl

/-- What happens outside leaves twins, if the slots stay the same. -/
theorem drift {move : Move} (keeps : (Episode.outside move).KeepsSlots) :
    ∃ m' n', Twins policy calendar ρ (w.drift move) (v.drift move) m' n' := by
  obtain ⟨mirrors, mirrors', renamed, linked, catalogue⟩ := twins
  cases move with
  | wait milliseconds =>
    have later : Register.Renamed ρ { m with clock := m.clock + milliseconds }
        { n with clock := n.clock + milliseconds } :=
      ⟨congrArg (· + milliseconds) renamed.clock, renamed.admission, renamed.booked, renamed.holds,
        renamed.covers⟩
    exact ⟨_, _, mirrors.wait milliseconds, mirrors'.wait milliseconds, later, linked, catalogue⟩
  | regulate a =>
    have regulated : Register.Renamed ρ { m with admission := a } { n with admission := a } :=
      ⟨renamed.clock, rfl, renamed.booked, renamed.holds, renamed.covers⟩
    exact ⟨_, _, mirrors.regulate a, mirrors'.regulate a, regulated, linked, catalogue⟩
  | insert r => exact absurd rfl (keeps r)
  | book slot =>
    exact ⟨_, _, (mirrors.book slot).2, (mirrors'.book slot).2, renamed.book slot, linked,
      congrArg (fun c : Catalogue => (c.book slot).2) catalogue⟩
  | rooms h => exact ⟨m, n, mirrors.beside _ _, mirrors'.beside _ _, renamed, linked, catalogue⟩
  | _ => exact ⟨m, n, mirrors, mirrors', renamed, linked, catalogue⟩

/-- **One episode under other names**: it is answered the same, up to the names, announces the same, and
leaves the same rooms and twins. -/
theorem episode {t : Episode} (keeps : t.KeepsSlots) (covered : t.CoveredBy ρ)
    (rooms : v.rooms = w.rooms) :
    (v.episode policy (t.rename ρ)).1 =
        (w.episode policy t).1.map (Except.map (Answer.rename ρ)) ∧
      v.episodeTells policy (t.rename ρ) = w.episodeTells policy t ∧
      (v.episode policy (t.rename ρ)).2.rooms = (w.episode policy t).2.rooms ∧
      ∃ m' n',
        Twins policy calendar ρ (w.episode policy t).2 (v.episode policy (t.rename ρ)).2 m' n' := by
  cases t with
  | call c =>
    obtain ⟨result, told, left⟩ := twins.matches_call covered
    refine ⟨congrArg some result, told, ?_, left⟩
    show (v.run _).2.rooms = (w.run _).2.rooms
    rw [rooms_run, rooms_run, told, rooms]
  | outside move =>
    refine ⟨rfl, rfl, ?_, twins.drift keeps⟩
    show (v.drift move).rooms = (w.drift move).rooms
    cases move <;> first | exact rooms | rfl

end World.Twins

/-! ## Histories -/

/-- **Nobody can tell who holds.** In a history with other names for holders and connections, the calls
are answered the same, up to the names, and what is announced and what there is to see are the same,
if nothing was stored at first and the slots stay the same. -/
theorem World.episodes_rename (policy : Policy) (ρ : Renaming) {start : World}
    (unused : start.store.entries = .empty) {history : List Episode}
    (keeps : ∀ t ∈ history, t.KeepsSlots) (covered : ∀ t ∈ history, t.CoveredBy ρ) :
    (start.episodes policy (history.map (Episode.rename ρ))).1 =
        (start.episodes policy history).1.map (Option.map (Except.map (Answer.rename ρ))) ∧
      start.tellings policy (history.map (Episode.rename ρ)) = start.tellings policy history ∧
      (start.episodes policy history).2.SameToSee
        (start.episodes policy (history.map (Episode.rename ρ))).2 := by
  have go : ∀ (w v : World) (m n : Register), Twins policy start.calendar ρ w v m n →
      v.rooms = w.rooms →
      (v.episodes policy (history.map (Episode.rename ρ))).1 =
          (w.episodes policy history).1.map (Option.map (Except.map (Answer.rename ρ))) ∧
        v.tellings policy (history.map (Episode.rename ρ)) = w.tellings policy history ∧
        (w.episodes policy history).2.SameToSee
          (v.episodes policy (history.map (Episode.rename ρ))).2 := by
    induction history with
    | nil =>
      intro w v m n twins rooms
      refine ⟨rfl, rfl, rooms, twins.catalogue, fun day => ?_⟩
      rw [List.map_nil, episodes, episodes, (twins.matches_snapshot day).1]
      cases (w.run (snapshot day)).1 <;> rfl
    | cons t rest ih =>
      intro w v m n twins rooms
      obtain ⟨keeps_first, keeps_rest⟩ := List.forall_mem_cons.1 keeps
      obtain ⟨covered_first, covered_rest⟩ := List.forall_mem_cons.1 covered
      obtain ⟨result, told, rooms', m', n', twins'⟩ := twins.episode keeps_first covered_first rooms
      obtain ⟨results, tellings, same⟩ := ih keeps_rest covered_rest _ _ m' n' twins' rooms'
      exact ⟨congrArg₂ List.cons result results, congrArg₂ List.cons told tellings, same⟩
  have mirrors : start.Mirrors policy start.calendar start.register := .of_unused unused
  have renamed : start.register.Renamed ρ start.register := .of_unheld rfl
  have nothing : ∀ s, start.link s = none := fun s => by rw [link, unused]; rfl
  have linked : start.Linked ρ start := fun s _ => by rw [nothing, nothing]
  exact go start start _ _ ⟨mirrors, mirrors, renamed, linked, rfl⟩ rfl

/-- One of two holders takes the other one's name, and that one a new name. -/
def swapped : Renaming where
  holder h := if h = ⟨"a"⟩ then ⟨"b"⟩ else ⟨"c"⟩
  session s := s + 6
  holders := {⟨"a"⟩, ⟨"b"⟩}
  sessions := {1, 7}
  holder_injOn := by
    rintro _ (rfl | rfl) _ (rfl | rfl) same
    · rfl
    · exact absurd same (by decide)
    · exact absurd same (by decide)
    · rfl
  session_injOn := fun s _ s' _ same => by simpa using same

/-- Both want the same slot, one of them through two connections. -/
def contending : List Episode :=
  [.call (.acquireForSession 2 ⟨"a"⟩ 1), .call (.acquire 2 { holder := ⟨"b"⟩ } 2500),
    .call (.acquireForSession 2 ⟨"a"⟩ 7), .call (.endSession ⟨"a"⟩ 1), .outside (.wait 1000),
    .call (.commit 2 { holder := ⟨"a"⟩ }), .call (.release 2 { holder := ⟨"b"⟩ })]

/-- The one who holds the slot has the other one's name, and the rooms are told what they were told. -/
theorem World.episodes_swapped :
    (World.offering Run.openingDay [2]).store.entries = .empty ∧
      (∀ t ∈ contending, t.KeepsSlots) ∧ (∀ t ∈ contending, t.CoveredBy swapped) ∧
      ((World.offering Run.openingDay [2]).episodes {} (contending.map (Episode.rename swapped))).1 =
        ((World.offering Run.openingDay [2]).episodes {} contending).1.map
          (Option.map (Except.map (Answer.rename swapped))) ∧
      (World.offering Run.openingDay [2]).tellings {} (contending.map (Episode.rename swapped)) =
        [[.held 2 Run.openingDay 120], [], [.held 2 Run.openingDay 120], [], [],
          [.booked 2 Run.openingDay], []] := by
  have unused : (World.offering Run.openingDay [2]).store.entries = .empty := rfl
  have keeps : ∀ t ∈ contending, t.KeepsSlots := by simp [contending, Episode.KeepsSlots]
  have covered : ∀ t ∈ contending, t.CoveredBy swapped := by
    simp [contending, Episode.CoveredBy, Call.CoveredBy, Renaming.Covers, swapped]
  obtain ⟨results, tellings, -⟩ := World.episodes_rename {} swapped unused keeps covered
  have told : (World.offering Run.openingDay [2]).tellings {} contending =
      [[.held 2 Run.openingDay 120], [], [.held 2 Run.openingDay 120], [], [],
        [.booked 2 Run.openingDay], []] := by decide +kernel
  exact ⟨unused, keeps, covered, results, tellings.trans told⟩

end Holdfast.Reservation
