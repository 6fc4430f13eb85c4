import Holdfast.Proofs.Conduct.Decoding
import Holdfast.Proofs.Conduct.Passage
import Holdfast.Proofs.Conduct.Reporting
import Holdfast.Proofs.SortedMap

/-!
# Announcements in a run

Whatever a call has heard so far can be brought to an end, so it is the beginning of one of the three
ways in which a call can have to do with a slot. Hence a call changes a slot once and announces it once,
and whatever a call that is over changed it announced.

* `mayFollow_of_hears`: any two things that a call hears in a run.
* `announces_of_changes`: from the change to the announcement. The way back is among the grounds of the
  announcement.
* `returned_of_announces`: a commit that announces its booking is over with it.
-/

namespace Holdfast.Reservation.Run

open Program

variable {ρ : Run} {n i : Nat} {c : Call} {slot : SlotId} {e : RoomEvent}

/-! ## What a call hears in a run -/

/-- Whatever a call hears in a run fits. -/
theorem fits_of_hears {x : Effect} {reply : x.Reply} (hears : ρ.Hears n i x reply) :
    Heard.Fits ⟨x, reply⟩ := by
  cases x with
  | slot slot =>
    rcases reply with error | _ | record
    · exact trivial
    · exact trivial
    · exact (ρ.catalogue n).keyed slot record (known_of_hears hears)
  | store r =>
    cases r with
    | evict =>
      cases reply with
      | error reason => exact trivial
      | ok evicted =>
        refine ⟨?_, sound_of_hears hears⟩
        obtain rfl := answer_of_hears hears nofun
        rw [Store.answer, Store.evict, List.map_map]
        exact SortedMap.nodup_keys _
    | _ => exact trivial
  | _ => exact trivial

/-- Whatever a call has heard fits. -/
theorem fits_heard : ∀ h ∈ ρ.heard i 0 n, h.Fits := by
  intro h mem
  obtain ⟨k, -, -, hears⟩ := mem_heard.1 mem
  exact fits_of_hears hears

/-- What a call has heard so far is the beginning of one of the three ways. -/
theorem exists_reporting (call : ρ.call? n i = some c) (slot : SlotId) :
    ∃ u thwarted, Reporting ρ.policy c slot thwarted (ρ.heard i 0 n ++ u) := by
  obtain ⟨running, there, rfl⟩ := Option.map_eq_some_iff.1 call
  obtain ⟨u, r, ends, refused⟩ := exists_ends (after_heard there)
  exact ⟨u, _, reporting_of_ends ends (List.forall_mem_append.2
    ⟨fits_heard, fun h mem => fits_of_refused (refused h mem)⟩)⟩

/-- **Of two things that a call hears, the later one may be heard after the earlier one.** -/
theorem mayFollow_of_hears {p : Nat} {h h' : Heard} (call : ρ.call? n i = some c) (slot : SlotId)
    (order : p < n) (first : ρ.Hears p i h.effect h.reply) (second : ρ.Hears n i h'.effect h'.reply) :
    MayFollow ρ.policy c slot h h' := by
  obtain ⟨u, thwarted, reporting⟩ :=
    exists_reporting (ρ.call?_of_le i call (Nat.le_succ n)) slot
  have both := (List.pairwise_append.1 reporting.pairwise).1
  rw [heard_append (Nat.zero_le (p + 1)) (show p + 1 ≤ n + 1 by omega)] at both
  exact (List.pairwise_append.1 both).2.2 h (mem_heard.2 ⟨p, Nat.zero_le p, by omega, first⟩) h'
    (mem_heard.2 ⟨n, by omega, by omega, second⟩)

/-- **Whatever a call that is over changed, it announced**, unless it broke off. -/
theorem announces_of_changes {r : Except Failure Answer} {p : Nat} {h : Heard}
    (call : ρ.call? n i = some c) (finished : ρ.Over n i r) (early : p < n)
    (hears : ρ.Hears p i h.effect h.reply) (change : Changes ρ.policy c h slot) :
    c.BreaksOff r ∨ ∃ m e, m < n ∧ ρ.Performs m i (.announce e) ∧ e.slot = slot := by
  have mem : h ∈ ρ.heard i 0 n := mem_heard.2 ⟨p, Nat.zero_le p, early, hears⟩
  have reporting : Reporting ρ.policy c slot _ (ρ.heard i 0 n) :=
    reporting_of_ends ((over_iff call).1 finished) fits_heard
  refine (reporting.reported mem change).imp_right ?_
  rintro ⟨⟨effect, reply⟩, there, e, announced, isSlot⟩
  obtain ⟨m, -, high, told⟩ := mem_heard.1 there
  cases effect with
  | announce e' =>
    obtain rfl : e' = e := Option.some.inj announced
    refine ⟨m, e', high, ⟨?_, told.1⟩, isSlot⟩
    rcases told.2 with ⟨move, -⟩ | ⟨fault, -, failed⟩
    · exact move
    · cases fault <;> cases failed
  | _ => cases announced

/-- **What a commit announces is its booking**, and with that it is over. -/
theorem returned_of_announces {claimant : Claimant}
    (call : ρ.call? n i = some (.commit slot claimant)) (announces : ρ.Performs n i (.announce e)) :
    ∃ day, e = .booked slot day ∧ ρ.Returned (n + 1) i (.commit (.committed day)) := by
  rcases asks_bind.1 (asks_of_pending call announces.2) with asks | ⟨t₀, t₁, a, -, -, last⟩
  · obtain ⟨day, rfl, ends⟩ := announced_last asks
    have now : ρ.hearing i n = some ⟨.announce (.booked slot day), ()⟩ :=
      hearing_eq_some.2 announces.hears
    have call' := ρ.call?_of_le i call (Nat.le_succ n)
    refine ⟨day, rfl, over_ok_iff.1 ((over_iff call').2 ?_)⟩
    rw [heard_succ (Nat.zero_le n), now, Option.toList_some]
    exact ends_bind_ok.2 ⟨_, [], _, (List.append_nil _).symm, ends, ends_done.2 ⟨rfl, rfl⟩⟩
  · exact absurd last not_asks_done

end Holdfast.Reservation.Run
