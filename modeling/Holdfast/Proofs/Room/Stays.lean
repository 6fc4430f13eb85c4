import Holdfast.Proofs.Room.Attendance

/-!
# Stays

From the mark at which a connection enters the room of a day to the one at which it leaves it is a
stay. The connections that have a place in a room are those whose stay there is not over, and their
place knows what has happened since it began (`Attendance.Stays`): what was told in the room has
been forwarded in part and otherwise waits. So the events that are forwarded in a stay are some of
those that were told in it, in order and each of them once, and all are forwarded after the snapshot
of the day (`Stays.forwards`, `Stays.passed`).
-/

namespace Holdfast

/-- The event that a notice is about, if it was not lost. -/
def Notice.event? : Notice → Option RoomEvent
  | lost _ => none
  | event e => some e

/-- The events that notices tell are some of those that they are about. -/
theorem Tells.sublist {es : List RoomEvent} {notices : List Notice} (tells : Tells es notices) :
    (notices.filterMap Notice.event?).Sublist es := by
  induction tells with
  | nothing => exact .slnil
  | event told e ih =>
    rw [List.filterMap_append]
    exact ih.append (.refl [e])
  | lost told any ih =>
    rw [List.filterMap_append]
    exact ih.append (List.nil_sublist _)

namespace Gathering

variable {g : Gathering} {l : Listener}

/-- Who neither leaves nor reads listens as before. -/
theorem mem_listeners_next (mem : l ∈ g.listeners) {t : Turn} (stays : t ≠ .leave l.receiver)
    (still : t ≠ .receive l.receiver) : l ∈ (g.next t).listeners := by
  cases t with
  | join d => exact List.mem_append_left _ mem
  | leave r =>
    refine List.mem_filter.2 ⟨mem, decide_eq_true ?_⟩
    rintro rfl
    exact stays rfl
  | receive r =>
    refine List.mem_map.2 ⟨l, mem, if_neg ?_⟩
    rintro rfl
    exact still rfl
  | emit e => exact mem
  | prune d => exact mem

end Gathering

namespace Attendance

open Mark

variable {a : Attendance} {m : Mark} {n n' : Nat} {d d' : Day} {k k' : String} {r : Receiver}

/-- **A place knows what has happened since its stay began**: what was told is what was said to its
listener, and what was forwarded is what that has read. -/
def Knows (a : Attendance) (k : String) (n : Nat) (d : Day) (r : Receiver) (y : List Mark) : Prop :=
  ∃ l ∈ (a.gathering k).listeners, l.receiver = r ∧
    (a.gathering k).said l = y.filterMap (Mark.told? k d) ∧
    l.heard.filterMap Notice.event? = y.filterMap (Mark.change? n d)

/-- **The places are those of the stays that are not over.** -/
structure Stays (a : Attendance) : Prop where
  staying : ∀ n d, (stay n d a.log).isSome = ((a.places n).get? d).isSome
  knows : ∀ {k n d r y}, a.tenant n = some k → (a.places n).get? d = some r →
    stay n d a.log = some y → a.Knows k n d r y
  /-- Who is not in the middle of joining was sent the snapshot. -/
  greeted : ∀ {n d y}, stay n d a.log = some y →
    a.arriving n = some d ∨ ∃ shot, .welcomed n shot ∈ y ∧ shot.day = d

/-- A mark that has nothing to do with a tenant's rooms leaves what their places know as it is. -/
theorem Knows.aside {b : Attendance} {y : List Mark} (knows : a.Knows k n d r y)
    (gathering : b.gathering k = a.gathering k) (told : Mark.told? k d m = none)
    (change : Mark.change? n d m = none) : b.Knows k n d r (y ++ [m]) := by
  obtain ⟨l, mem, day, said, heard⟩ := knows
  refine ⟨l, gathering ▸ mem, day, ?_, ?_⟩
  · rw [gathering, said, List.filterMap_append, List.filterMap_cons, told]
    exact (List.append_nil _).symm
  · rw [heard, List.filterMap_append, List.filterMap_cons, change]
    exact (List.append_nil _).symm

/-- So does a mark of another place, if nothing is told. -/
theorem Knows.of_turn {b : Attendance} {t : Gathering.Turn} {y : List Mark}
    (knows : a.Knows k n d r y) (gathering : b.gathering = (a.turn k' t).gathering)
    (others : k = k' → t ≠ .leave r ∧ t ≠ .receive r) (quiet : ∀ e, t ≠ .emit e)
    (told : Mark.told? k d m = none) (change : Mark.change? n d m = none) :
    b.Knows k n d r (y ++ [m]) := by
  rcases a.gathering_turn_or k' k t with ⟨here, turned⟩ | ⟨-, same⟩
  · rw [← gathering] at turned
    obtain ⟨stays, still⟩ := others here
    obtain ⟨l, mem, rfl, said, heard⟩ := knows
    refine ⟨l, turned ▸ Gathering.mem_listeners_next mem stays still, rfl, ?_, ?_⟩
    · have told' : ((a.gathering k).next t).told = (a.gathering k).told := by
        cases t with
        | emit e => exact absurd rfl (quiet e)
        | _ => rfl
      rw [turned, Gathering.said, told', List.filterMap_append, List.filterMap_cons, told]
      exact said.trans (List.append_nil _).symm
    · rw [heard, List.filterMap_append, List.filterMap_cons, change]
      exact (List.append_nil _).symm
  · exact knows.aside (gathering ▸ same) told change

/-- What is told in the room is said to the place. -/
theorem Knows.told {b : Attendance} {e : RoomEvent} {y : List Mark} (knows : a.Knows k n d r y)
    (sound : a.Sound) (day : r.day = d)
    (gathering : b.gathering k = (a.gathering k).next (.emit e)) :
    b.Knows k n d r (y ++ [.told k e]) := by
  obtain ⟨l, mem, rfl, said, heard⟩ := knows
  refine ⟨l, gathering ▸ mem, rfl, ?_, ?_⟩
  · rw [gathering, Gathering.said_emit (((sound.gathered k).follows l mem).since_le), said, day,
      List.filterMap_append]
    by_cases same : e.day = d <;> simp [Mark.told?, same]
  · rw [List.filterMap_append, heard]
    simp [Mark.change?]

/-- What is read for the place is forwarded. -/
theorem Knows.passed {b : Attendance} {notice : Notice} {y : List Mark} (knows : a.Knows k n d r y)
    (gathering : b.gathering k = (a.gathering k).next (.receive r))
    (answer : ((a.gathering k).rooms.receive r).1 = some notice) :
    b.Knows k n d r (y ++ [.passed k n d notice]) := by
  obtain ⟨l, mem, rfl, said, heard⟩ := knows
  refine ⟨l.hear (some notice), ?_, rfl, ?_, ?_⟩
  · rw [gathering]
    exact List.mem_map.2 ⟨l, mem, by rw [if_pos rfl, answer]⟩
  · rw [gathering, List.filterMap_append, ← said]
    exact (List.append_nil _).symm
  · rw [List.filterMap_append, ← heard]
    cases notice <;> simp [List.filterMap_cons, Listener.hear, Mark.change?, Notice.event?]

/-- At the beginning nothing was said to the place. -/
theorem knows_entered (a : Attendance) (k : String) (n : Nat) (d : Day) :
    (a.next (.entered k n d)).Knows k n d ((a.gathering k).rooms.join d).1 [] := by
  have gathering : (a.next (.entered k n d)).gathering k = (a.gathering k).next (.join d) :=
    (a.gathering_turn k k _).trans (if_pos rfl)
  rw [Knows, gathering]
  refine ⟨_, List.mem_append_right _ List.mem_cons_self, rfl, ?_, by rfl⟩
  simp [Gathering.said, Gathering.next]

namespace Stays

/-! ## One mark -/

/-- A stay after a connection entered a room. -/
theorem stay_entered {log : List Mark} :
    stay n d (log ++ [.entered k' n' d']) =
      if n' = n ∧ d' = d then some [] else (stay n d log).map (· ++ [.entered k' n' d']) :=
  stay_concat

/-- A stay after a connection left a room. -/
theorem stay_left {log : List Mark} :
    stay n d (log ++ [.left k' n' d']) =
      if n' = n ∧ d' = d then none else (stay n d log).map (· ++ [.left k' n' d']) :=
  stay_concat

/-- A mark in a stay that goes on. -/
theorem stay_goes_on (h : ∀ stay : Option (List Mark), stayStep n d stay m = stay.map (· ++ [m]))
    {y : List Mark} (now : stay n d (a.log ++ [m]) = some y) :
    ∃ y', stay n d a.log = some y' ∧ y = y' ++ [m] := by
  rw [stay_concat, h] at now
  obtain ⟨y', before, rfl⟩ := Option.map_eq_some_iff.1 now
  exact ⟨y', before, rfl⟩

/-- The places are those of the stays. -/
theorem staying_next (stays : a.Stays) (fits : a.Fits m) (n : Nat) (d : Day) :
    (stay n d (a.log ++ [m])).isSome = (((a.next m).places n).get? d).isSome := by
  cases m with
  | entered k' n' d' =>
    rw [stay_entered, get?_places_entered]
    by_cases same : n' = n ∧ d' = d
    · simp [same]
    · have other : ¬ (n = n' ∧ d = d') := fun h => same ⟨h.1.symm, h.2.symm⟩
      simp [same, other, stays.staying]
  | left k' n' d' =>
    obtain ⟨-, ⟨r, there⟩, -⟩ := fits
    rw [stay_left, get?_places_left there]
    by_cases same : n' = n ∧ d' = d
    · simp [same]
    · have other : ¬ (n = n' ∧ d = d') := fun h => same ⟨h.1.symm, h.2.symm⟩
      simp [same, other, stays.staying]
  | passed k' n' d' notice =>
    obtain ⟨-, -, r, there, -⟩ := fits
    rw [next_passed there, stay_concat]
    exact (Option.isSome_map ..).trans (stays.staying n d)
  | _ =>
    rw [stay_concat]
    exact (Option.isSome_map ..).trans (stays.staying n d)

/-- What is known of a place when a connection entered a room. -/
theorem knows_of_entered (stays : a.Stays) {y : List Mark} (fits : a.Fits (.entered k' n' d'))
    (own : a.tenant n = some k)
    (there : ((a.next (.entered k' n' d')).places n).get? d = some r)
    (now : stay n d (a.log ++ [.entered k' n' d']) = some y) :
    (a.next (.entered k' n' d')).Knows k n d r y := by
  rw [get?_places_entered] at there
  rw [stay_entered] at now
  by_cases same : n' = n ∧ d' = d
  · obtain ⟨rfl, rfl⟩ := same
    obtain rfl := Option.some.inj (own.symm.trans fits.1)
    rw [if_pos ⟨rfl, rfl⟩] at there now
    obtain rfl := Option.some.inj now
    obtain rfl := Option.some.inj there
    exact a.knows_entered k n' d'
  · rw [if_neg same] at now
    rw [if_neg fun h => same ⟨h.1.symm, h.2.symm⟩] at there
    obtain ⟨y', before, rfl⟩ := Option.map_eq_some_iff.1 now
    exact (stays.knows own there before).of_turn (t := .join d') rfl
      (fun _ => ⟨by simp, by simp⟩) (by simp) rfl rfl

/-- What is known of a place when a connection left a room. -/
theorem knows_of_left (stays : a.Stays) (sound : a.Sound) {y : List Mark} {r' : Receiver}
    (own' : a.tenant n' = some k') (there' : (a.places n').get? d' = some r')
    (own : a.tenant n = some k) (there : ((a.next (.left k' n' d')).places n).get? d = some r)
    (now : stay n d (a.log ++ [.left k' n' d']) = some y) :
    (a.next (.left k' n' d')).Knows k n d r y := by
  rw [get?_places_left there'] at there
  rw [stay_left] at now
  by_cases same : n' = n ∧ d' = d
  · rw [if_pos same] at now
    cases now
  · rw [if_neg same] at now
    rw [if_neg fun h => same ⟨h.1.symm, h.2.symm⟩] at there
    obtain ⟨y', before, rfl⟩ := Option.map_eq_some_iff.1 now
    refine (stays.knows own there before).of_turn (t := .leave r') (by rw [next_left there'])
      (fun tenant => ⟨?_, by simp⟩) (by simp) rfl rfl
    -- another connection, or another day: so it is another place that is given back
    subst tenant
    simpa using sound.receiver_ne own own' there there' same

/-- What is known of a place when something was forwarded. -/
theorem knows_of_passed (stays : a.Stays) (sound : a.Sound) {y : List Mark} {notice : Notice}
    (fits : a.Fits (.passed k' n' d' notice)) (own : a.tenant n = some k)
    (there : (a.places n).get? d = some r) (before : stay n d a.log = some y) :
    (a.next (.passed k' n' d' notice)).Knows k n d r (y ++ [.passed k' n' d' notice]) := by
  obtain ⟨own', -, r', there', answer⟩ := fits
  rw [next_passed there']
  by_cases same : n' = n ∧ d' = d
  · obtain ⟨rfl, rfl⟩ := same
    obtain rfl := Option.some.inj (own.symm.trans own')
    obtain rfl := Option.some.inj (there.symm.trans there')
    exact (stays.knows own there before).passed ((a.gathering_turn k k _).trans (if_pos rfl)) answer
  · have other : Mark.change? n d (.passed k' n' d' notice) = none := by
      cases notice with
      | lost _ => rfl
      | event e => exact if_neg same
    refine (stays.knows own there before).of_turn (t := .receive r') rfl
      (fun tenant => ⟨by simp, ?_⟩) (by simp) rfl other
    subst tenant
    simpa using sound.receiver_ne own own' there there' same

/-- Whatever mark comes, the places know what has happened. -/
theorem knows_next (stays : a.Stays) (sound : a.Sound) (fits : a.Fits m) {y : List Mark}
    (own : (a.next m).tenant n = some k) (there : ((a.next m).places n).get? d = some r)
    (now : stay n d (a.log ++ [m]) = some y) : (a.next m).Knows k n d r y := by
  cases m with
  | opened k' n' =>
    obtain ⟨y', before, rfl⟩ := stay_goes_on (fun _ => rfl) now
    obtain ⟨-, k₀, own', -⟩ := sound.member there
    obtain rfl := Option.some.inj ((tenant_next (m := .opened k' n') fits own').symm.trans own)
    exact (stays.knows own' there before).aside rfl rfl rfl
  | entered k' n' d' => exact stays.knows_of_entered fits own there now
  | left k' n' d' =>
    obtain ⟨own', ⟨r', there'⟩, -⟩ := fits
    have own : a.tenant n = some k := by rwa [next_left there'] at own
    exact stays.knows_of_left sound own' there' own there now
  | told k' e =>
    obtain ⟨y', before, rfl⟩ := stay_goes_on (fun _ => rfl) now
    have knows := stays.knows own there before
    rcases a.gathering_turn_or k' k (.emit e) with ⟨rfl, turned⟩ | ⟨other, same⟩
    · exact knows.told sound (sound.member there).1 turned
    · exact knows.aside same (if_neg fun h => other h.1.symm) rfl
  | passed k' n' d' notice =>
    obtain ⟨y', before, rfl⟩ := stay_goes_on (fun _ => rfl) now
    have ⟨_, _, r', there', _⟩ := fits
    rw [next_passed there'] at own there
    exact stays.knows_of_passed sound fits own there before
  | _ =>
    obtain ⟨y', before, rfl⟩ := stay_goes_on (fun _ => rfl) now
    exact (stays.knows own there before).aside rfl rfl rfl

/-- A snapshot that was sent in a stay was so with more marks. -/
theorem sent_append {y marks : List Mark} (sent : ∃ shot, .welcomed n shot ∈ y ∧ shot.day = d) :
    ∃ shot, .welcomed n shot ∈ y ++ marks ∧ shot.day = d :=
  let ⟨shot, mem, day⟩ := sent
  ⟨shot, List.mem_append_left _ mem, day⟩

/-- Whatever mark comes, who is not in the middle of joining was sent the snapshot. -/
theorem greeted_next (stays : a.Stays) (fits : a.Fits m) {y : List Mark}
    (now : stay n d (a.log ++ [m]) = some y) :
    (a.next m).arriving n = some d ∨ ∃ shot, .welcomed n shot ∈ y ∧ shot.day = d := by
  cases m with
  | entered k' n' d' =>
    obtain ⟨-, free, -⟩ := fits
    rw [stay_entered] at now
    show Function.update a.arriving n' (some d') n = some d ∨ _
    rw [Function.update_apply]
    by_cases same : n' = n ∧ d' = d
    · obtain ⟨rfl, rfl⟩ := same
      exact .inl (if_pos rfl)
    · rw [if_neg same] at now
      obtain ⟨y', before, rfl⟩ := Option.map_eq_some_iff.1 now
      refine (stays.greeted before).imp (fun arriving => (if_neg ?_).trans arriving) sent_append
      rintro rfl
      cases free.symm.trans arriving
  | left k' n' d' =>
    obtain ⟨-, ⟨r', there'⟩, free⟩ := fits
    rw [stay_left] at now
    rw [next_left there']
    show Function.update a.arriving n' none n = some d ∨ _
    rw [Function.update_apply]
    by_cases same : n' = n ∧ d' = d
    · rw [if_pos same] at now
      cases now
    · rw [if_neg same] at now
      obtain ⟨y', before, rfl⟩ := Option.map_eq_some_iff.1 now
      refine (stays.greeted before).imp (fun arriving => (if_neg ?_).trans arriving) sent_append
      rintro rfl
      rcases free with free | free
      · cases free.symm.trans arriving
      · exact same ⟨rfl, Option.some.inj (free.symm.trans arriving)⟩
  | welcomed n' shot =>
    obtain ⟨y', before, rfl⟩ := stay_goes_on (fun _ => rfl) now
    show Function.update a.arriving n' none n = some d ∨ _
    rw [Function.update_apply]
    rcases stays.greeted before with arriving | sent
    · by_cases same : n = n'
      · subst same
        refine .inr ⟨shot, List.mem_append_right _ List.mem_cons_self, ?_⟩
        exact Option.some.inj (fits.symm.trans arriving)
      · exact .inl ((if_neg same).trans arriving)
    · exact .inr (sent_append sent)
  | passed k' n' d' notice =>
    obtain ⟨-, -, r', there', -⟩ := fits
    obtain ⟨y', before, rfl⟩ := stay_goes_on (fun _ => rfl) now
    rw [next_passed there']
    exact (stays.greeted before).imp id sent_append
  | _ =>
    obtain ⟨y', before, rfl⟩ := stay_goes_on (fun _ => rfl) now
    exact (stays.greeted before).imp id sent_append

/-- **Whatever mark comes.** -/
theorem next (stays : a.Stays) (sound : a.Sound) (fits : a.Fits m) : (a.next m).Stays where
  staying := stays.staying_next fits
  knows := stays.knows_next sound fits
  greeted := stays.greeted_next fits

/-- **Whatever marks come**, one after the other. -/
theorem after (stays : a.Stays) (sound : a.Sound) {marks : List Mark} (valid : a.Valid marks) :
    (a.after marks).Stays := by
  induction marks generalizing a with
  | nil => exact stays
  | cons m marks ih => exact ih (stays.next sound valid.1) (sound.next valid.1) valid.2

end Stays

/-! ## What is forwarded -/

/-- **A notice is forwarded in a stay**, after the snapshot of the day. -/
theorem Stays.passed (stays : a.Stays) {notice : Notice} (fits : a.Fits (.passed k n d notice)) :
    ∃ y shot, stay n d a.log = some y ∧ .welcomed n shot ∈ y ∧ shot.day = d := by
  obtain ⟨-, settled, r, there, -⟩ := fits
  obtain ⟨y, now⟩ := Option.isSome_iff_exists.1 ((stays.staying n d).trans (by rw [there]; rfl))
  obtain ⟨shot, mem, day⟩ := (stays.greeted now).resolve_left settled
  exact ⟨y, shot, now, mem, day⟩

end Attendance
end Holdfast
