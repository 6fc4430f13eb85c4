import Holdfast.Proofs.Room.Attendance

/-!
# Deserted rooms

A room stands empty when its last member left it, and only something that is told on its day takes
it away then (`Hub.vacant_leave`, `Hub.vacant_emit`). So the log says which rooms stand empty: those
that somebody left and that nothing has stirred since (`Attendance.Deserts`).
-/

namespace Holdfast

namespace Hub

variable {h : Hub} {r : Receiver} {d d' : Day}

/-- A room stands, and nobody is in it. -/
def Vacant (h : Hub) (d : Day) : Prop := h.rooms.get? d = some []

/-- The rooms after a change to the members of one. -/
theorem get?_update (h : Hub) (d d' : Day) (f : List Member → List Member) :
    (h.update d f).rooms.get? d' =
      if d' = d then (h.rooms.get? d).map f else h.rooms.get? d' := by
  unfold update
  cases room : h.rooms.get? d with
  | none =>
    by_cases same : d' = d
    · simp [same, room]
    · simp [same]
  | some ms => exact h.rooms.get?_insert_eq d d' (f ms)

/-- In a vacant room there is nobody. -/
theorem Vacant.nobody (vacant : h.Vacant d) : h.membersOf d = [] := by
  rw [membersOf, vacant]
  rfl

/-- Nobody is in a room if nobody has a number there. -/
theorem nobody_iff : h.membersOf d = [] ↔ h.numbersOf d = [] := List.map_eq_nil_iff.symm

/-- A room that is joined is not empty. -/
theorem vacant_join : (h.join d).2.Vacant d' ↔ d' ≠ d ∧ h.Vacant d' := by
  show (h.rooms.insert d (h.membersOf d ++ [{ id := h.joined }])).get? d' = some [] ↔ _
  rw [SortedMap.get?_insert_eq]
  by_cases same : d' = d <;> simp [same, Vacant]

/-- A room that is left stands empty if nobody else is in it. -/
theorem vacant_leave {ms : List Member} (room : h.rooms.get? r.day = some ms) :
    (h.leave r).Vacant d ↔ if d = r.day then (h.leave r).membersOf d = [] else h.Vacant d := by
  have left : (h.leave r).rooms.get? d =
      if d = r.day then some (ms.filter (·.id ≠ r.id)) else h.rooms.get? d := by
    rw [leave, get?_update, room]
    rfl
  rw [Vacant, membersOf, left]
  by_cases same : d = r.day <;> simp [same, Vacant]

/-- **What is told on a day takes the room away if nobody is in it.** -/
theorem vacant_emit (h : Hub) (e : RoomEvent) (d : Day) :
    (h.emit e).2.Vacant d ↔ d ≠ e.day ∧ h.Vacant d := by
  unfold emit
  split
  · rename_i nobody
    show (h.prune e.day).Vacant d ↔ _
    rw [prune, if_pos nobody]
    show (h.rooms.erase e.day).get? d = some [] ↔ _
    rw [SortedMap.get?_erase_eq]
    by_cases same : d = e.day <;> simp [same, Vacant]
  · rename_i somebody
    show (h.update e.day _).rooms.get? d = some [] ↔ _
    rw [get?_update]
    by_cases same : d = e.day
    · subst same
      cases room : h.rooms.get? e.day with
      | none => simp
      | some ms =>
        have : ms ≠ [] := by
          rintro rfl
          exact somebody (Vacant.nobody room)
        simp [this]
    · simp [same, Vacant]

/-- Reading leaves no room empty. -/
theorem vacant_receive (h : Hub) (r : Receiver) (d : Day) :
    (h.receive r).2.Vacant d ↔ h.Vacant d := by
  unfold receive
  split
  · exact Iff.rfl
  · show (h.update r.day _).rooms.get? d = some [] ↔ _
    rw [get?_update]
    by_cases same : d = r.day
    · subst same
      rw [if_pos rfl, Vacant]
      cases h.rooms.get? r.day <;> simp
    · simp [same, Vacant]

end Hub

namespace Mark

variable {k : String} {d : Day} {m : Mark} {log : List Mark}

/-- The mark stirs the room of a day: somebody enters it, or something is told in it. -/
def Stirs (k : String) (d : Day) : Mark → Prop
  | entered k' _ d' => k' = k ∧ d' = d
  | told k' e => k' = k ∧ e.day = d
  | _ => False

/-- **Somebody left the room of a day, and nothing has stirred it since.** -/
def Deserted (k : String) (d : Day) (log : List Mark) : Prop :=
  ∃ before n after, log = before ++ .left k n d :: after ∧ ∀ m ∈ after, ¬ m.Stirs k d

/-- Nobody has left a room at first. -/
theorem not_deserted_nil : ¬ Deserted k d [] := by
  rintro ⟨before, n, after, split, -⟩
  cases before <;> cases split

/-- A room is deserted when somebody has just left it, or it was and nothing stirs it. -/
theorem deserted_concat :
    Deserted k d (log ++ [m]) ↔ (∃ n, m = .left k n d) ∨ Deserted k d log ∧ ¬ m.Stirs k d := by
  constructor
  · rintro ⟨before, n, after, split, still⟩
    rcases List.eq_nil_or_concat after with rfl | ⟨after', m', rfl⟩
    · exact .inl ⟨n, (List.append_inj' split rfl).2 |> List.cons.inj |>.1⟩
    · have split : log ++ [m] = (before ++ .left k n d :: after') ++ [m'] := by simpa using split
      obtain ⟨rfl, last⟩ := List.append_inj' split rfl
      obtain rfl := (List.cons.inj last).1
      exact .inr ⟨⟨before, n, after', rfl, fun m mem => still m (by simp [mem])⟩,
        still m (by simp)⟩
  · rintro (⟨n, rfl⟩ | ⟨⟨before, n, after, rfl, still⟩, quiet⟩)
    · exact ⟨log, n, [], rfl, by simp⟩
    · refine ⟨before, n, after ++ [m], by simp, fun m' mem => ?_⟩
      rcases List.mem_append.1 mem with mem | mem
      · exact still m' mem
      · exact List.mem_singleton.1 mem ▸ quiet

end Mark

namespace Attendance

open Mark

variable {a : Attendance} {m : Mark} {n : Nat} {d : Day} {k : String} {r : Receiver}

/-- The rooms that stand empty are those that are deserted and have no member. -/
def Deserts (a : Attendance) : Prop :=
  ∀ k d, (a.gathering k).rooms.Vacant d ↔
    (a.gathering k).rooms.membersOf d = [] ∧ Deserted k d a.log

/-- At first there are no rooms. -/
theorem deserts_empty : Deserts {} :=
  fun _ _ => ⟨(fun vacant => nomatch vacant), fun h => absurd h.2 not_deserted_nil⟩

/-- A mark that has nothing to do with a room changes nothing about it. -/
theorem Deserts.of_same (deserts : a.Deserts) {b : Attendance} (log : b.log = a.log ++ [m])
    (vacant : (b.gathering k).rooms.Vacant d ↔ (a.gathering k).rooms.Vacant d)
    (members : (b.gathering k).rooms.membersOf d = [] ↔ (a.gathering k).rooms.membersOf d = [])
    (stays : ∀ n, m ≠ .left k n d) (quiet : ¬ m.Stirs k d) :
    (b.gathering k).rooms.Vacant d ↔
      (b.gathering k).rooms.membersOf d = [] ∧ Deserted k d b.log := by
  rw [vacant, members, log, deserted_concat, deserts k d]
  refine and_congr_right fun _ => ?_
  constructor
  · exact fun deserted => .inr ⟨deserted, quiet⟩
  · rintro (⟨n, left⟩ | ⟨deserted, -⟩)
    · exact absurd left (stays n)
    · exact deserted

/-- What happens in the rooms of one tenant has to do with those only. -/
theorem Deserts.of_turn (deserts : a.Deserts) {b : Attendance} {t : Gathering.Turn}
    (gathering : b.gathering = (a.turn k t).gathering) (log : b.log = a.log ++ [m])
    (elsewhere : ∀ k' d, k' ≠ k → (∀ n, m ≠ .left k' n d) ∧ ¬ m.Stirs k' d)
    (here : ∀ d, ((a.gathering k).next t).rooms.Vacant d ↔
      ((a.gathering k).next t).rooms.membersOf d = [] ∧ Deserted k d (a.log ++ [m])) :
    b.Deserts := by
  intro k' d
  rcases a.gathering_turn_or k k' t with ⟨rfl, turned⟩ | ⟨other, same⟩
  · rw [gathering, turned, log]
    exact here d
  · obtain ⟨stays, quiet⟩ := elsewhere k' d other
    exact deserts.of_same log (by rw [gathering, same]) (by rw [gathering, same]) stays quiet

/-- Somebody is in a room that was entered. -/
theorem Deserts.entered (deserts : a.Deserts) : (a.next (.entered k n d)).Deserts := by
  refine deserts.of_turn (t := .join d) rfl rfl
    (fun k' d' other => ⟨by simp, fun stirs => other stirs.1.symm⟩) fun d' => ?_
  show ((a.gathering k).rooms.join d).2.Vacant d' ↔
    ((a.gathering k).rooms.join d).2.membersOf d' = [] ∧ _
  rw [Hub.vacant_join, Hub.membersOf_join, deserts k d', deserted_concat]
  by_cases same : d' = d
  · simp [same]
  · simp [same, Stirs, Ne.symm same]

/-- A room stands empty when its last member has left. -/
theorem Deserts.left (deserts : a.Deserts) (sound : a.Sound) (own : a.tenant n = some k)
    (there : (a.places n).get? d = some r) : (a.next (.left k n d)).Deserts := by
  obtain ⟨rfl, k', own', listens⟩ := sound.member there
  obtain rfl := Option.some.inj (own.symm.trans own')
  obtain ⟨ms, room, -⟩ := (sound.gathered k).room_of_mem listens
  refine deserts.of_turn (t := .leave r) (by rw [next_left there]) (by rw [next_left there])
    (fun k' d' other => ⟨by simp [Ne.symm other], by simp [Stirs]⟩) fun d' => ?_
  show ((a.gathering k).rooms.leave r).Vacant d' ↔
    ((a.gathering k).rooms.leave r).membersOf d' = [] ∧ _
  rw [Hub.vacant_leave room, deserted_concat]
  by_cases same : d' = r.day
  · simp [same]
  · have elsewhere : ((a.gathering k).rooms.leave r).membersOf d' =
        (a.gathering k).rooms.membersOf d' :=
      ((a.gathering k).rooms.membersOf_update r.day d' rfl).trans (if_neg same)
    rw [if_neg same, elsewhere, deserts k d']
    simp [Stirs, Ne.symm same]

/-- No room stands empty in which something was told. -/
theorem Deserts.told (deserts : a.Deserts) (k : String) (e : RoomEvent) :
    (a.next (.told k e)).Deserts := by
  refine deserts.of_turn (t := .emit e) rfl rfl
    (fun k' d' other => ⟨by simp, fun stirs => other stirs.1.symm⟩) fun d => ?_
  show ((a.gathering k).rooms.emit e).2.Vacant d ↔
    ((a.gathering k).rooms.emit e).2.membersOf d = [] ∧ _
  rw [Hub.vacant_emit, deserted_concat]
  by_cases same : d = e.day
  · simp [same, Stirs]
  · rw [Hub.membersOf_emit, if_neg same, deserts k d]
    simp [same, Stirs, Ne.symm same]

/-- Nothing about a room changes when something is read in it. -/
theorem Deserts.passed (deserts : a.Deserts) (there : (a.places n).get? d = some r)
    (notice : Notice) : (a.next (.passed k n d notice)).Deserts := by
  refine deserts.of_turn (t := .receive r) (by rw [next_passed there]) (by rw [next_passed there])
    (fun k' d' _ => ⟨by simp, by simp [Stirs]⟩) fun d' => ?_
  show ((a.gathering k).rooms.receive r).2.Vacant d' ↔
    ((a.gathering k).rooms.receive r).2.membersOf d' = [] ∧ _
  rw [Hub.vacant_receive, Hub.nobody_iff, Hub.numbersOf_receive, ← Hub.nobody_iff, deserts k d',
    deserted_concat]
  simp [Stirs]

/-- **Whatever mark comes.** -/
theorem Deserts.next (deserts : a.Deserts) (sound : a.Sound) (fits : a.Fits m) :
    (a.next m).Deserts := by
  cases m with
  | entered k n d => exact deserts.entered
  | left k n d =>
    obtain ⟨own, ⟨r, there⟩, -⟩ := fits
    exact deserts.left sound own there
  | told k e => exact deserts.told k e
  | passed k n d notice =>
    obtain ⟨-, -, r, there, -⟩ := fits
    exact deserts.passed there notice
  | _ =>
    exact fun k d => deserts.of_same rfl Iff.rfl Iff.rfl (by simp) (by simp [Stirs])

/-- **Whatever marks come**, one after the other. -/
theorem Deserts.after (deserts : a.Deserts) (sound : a.Sound) {marks : List Mark}
    (valid : a.Valid marks) : (a.after marks).Deserts := by
  induction marks generalizing a with
  | nil => exact deserts
  | cons m marks ih => exact ih (deserts.next sound valid.1) (sound.next valid.1) valid.2

/-- Nobody is in a room if no connection of the tenant has a place there. -/
theorem Sound.nobody_iff (sound : a.Sound) :
    (a.gathering k).rooms.membersOf d = [] ↔
      ∀ n, a.tenant n = some k → (a.places n).get? d = none := by
  rw [Hub.nobody_iff]
  constructor
  · intro nobody n own
    cases there : (a.places n).get? d with
    | none => rfl
    | some r =>
      obtain ⟨rfl, k', own', listens⟩ := sound.member there
      obtain rfl := Option.some.inj (own.symm.trans own')
      have number := (sound.gathered k).mem_numbersOf listens
      rw [nobody] at number
      cases number
  · intro outside
    rw [(sound.gathered k).numbers, Receiver.numbersOn, List.map_eq_nil_iff, List.filter_eq_nil_iff]
    intro r listens day
    obtain rfl := of_decide_eq_true day
    obtain ⟨n, own, there⟩ := sound.owner listens
    rw [outside n own] at there
    cases there

end Attendance
end Holdfast
