import Holdfast.Proofs.Conduct.Course
import Holdfast.Proofs.Conduct.Step
import Holdfast.Proofs.Store.Written

/-!
# What the store of a run holds

An entry stays where it is, live or not, until it is taken away or written over. Each one was put
there by a transaction of some call, so under each kind of key there are texts of one kind only
(`written`). Hence nothing that a call reads is garbled (`not_garbled`), and a hold is on the slot
whose key it stands under (`slot_of_holds`).
-/

namespace Holdfast.Reservation.Run

variable {ρ : Run} {n i : Nat} {key : String} {e : Entry} {slot : SlotId}

/-- The entry under a key after so many moves, live or not. -/
def stored? (ρ : Run) (n : Nat) (key : String) : Option Entry := (ρ.store n).entries.get? key

/-- An entry is live until its deadline. -/
theorem live?_iff_stored :
    ρ.live? n key = some e ↔ ρ.stored? n key = some e ∧ ρ.clock n < e.deadline :=
  Store.live?_eq_some_iff

/-- **Where an entry comes from**: it was there before, or a transaction put it there. -/
theorem stored_succ (there : ρ.stored? (n + 1) key = some e) : ρ.stored? n key = some e ∨
    ∃ i w writes ttl, ρ.Commits n i w writes ∧ .put key e.value ttl ∈ writes ∧
      e.deadline = ρ.clock n + ttl := by
  rw [stored?] at there ⊢
  rcases ρ.store_succ n with ⟨i, r, performs, -, after⟩ | after
  · obtain ⟨n₀, c, -, -, -, deed⟩ := deed performs.hears
    rw [after] at there
    cases r with
    | exec w writes =>
      cases agrees : (ρ.store n).agrees (ρ.clock n) w with
      | true =>
        rw [Store.answer, Store.exec, if_pos agrees] at there
        rcases Store.get?_of_writes there with before | ⟨ttl, mem, deadline⟩
        · exact .inl before
        · exact .inr ⟨i, w, writes, ttl, ⟨performs, agrees⟩, mem, deadline⟩
      | false =>
        rw [Store.answer, Store.exec, if_neg (by simp [agrees])] at there
        exact .inl there
    | delete key' => exact .inl (Store.get?_of_remove there)
    | evict =>
      rw [Store.answer, Store.evict, SortedMap.get?_filter, Option.filter_eq_some_iff] at there
      exact .inl there.1
    | tryCreate key value ttl =>
      cases deed with
      | spare h => cases h
    | refresh key value ttl =>
      cases deed with
      | spare h => cases h
    | _ => exact .inl there
  · rw [after] at there
    exact .inl there

/-- Whatever a transaction puts under the key of a hold, an acquire places. -/
theorem places_of_puts {w : Watch} {writes : List Write} {text : String} {ttl : Nat}
    (commits : ρ.Commits n i w writes) (puts : .put (Key.hold slot) text ttl ∈ writes) :
    ∃ claimant hold, ρ.Places n slot claimant hold ttl ∧ text = hold.encode := by
  obtain ⟨n₀, c, lt, begins, call, deed⟩ := deed commits.1.hears
  obtain ⟨claimant, hold, acquires, rfl, ⟨grounds⟩⟩ := deed.placement puts
  rcases mem_placing puts with same | ⟨-, same⟩ | ⟨session, same⟩
  · exact ⟨claimant, hold, ⟨lt, begins, call, acquires, commits, grounds⟩, (Write.put.inj same).2.1⟩
  · exact absurd (Write.put.inj same).1 (Key.hold_ne_holder slot _)
  · exact absurd (Write.put.inj same).1 (Key.hold_ne_session slot session)

/-- Where the entry of a hold comes from: it was there before, or an acquire places it. -/
theorem hold_stored_succ (there : ρ.stored? (n + 1) (Key.hold slot) = some e) :
    ρ.stored? n (Key.hold slot) = some e ∨
      ∃ claimant hold ttl, ρ.Places n slot claimant hold ttl ∧ e.value = hold.encode ∧
        e.deadline = ρ.clock n + ttl := by
  rcases stored_succ there with before | ⟨i, w, writes, ttl, commits, puts, deadline⟩
  · exact .inl before
  · obtain ⟨claimant, hold, places, value⟩ := places_of_puts commits puts
    exact .inr ⟨claimant, hold, ttl, places, value, deadline⟩

/-- The hold that an acquire writes is on its slot, if the holds that it could find are on theirs. -/
theorem Placement.slot_eq_of_earlier {n₀ : Nat} {claimant : Claimant} {w : Watch}
    {hold : HoldRecord} (grounds : ρ.Placement n₀ n slot claimant w hold)
    (earlier : ∀ m < n, ∀ key e, ρ.stored? m key = some e → Written key e.value) :
    hold.slot = slot := by
  have isSlot := grounds.isSlot
  cases grounds.decided with
  | new unheld alone eq => rw [eq]; exact isSlot
  | renewed old held own eq =>
    obtain ⟨e, live, decoded⟩ := holds_iff_live.1 held
    obtain ⟨hold', value, same⟩ :=
      (earlier _ grounds.looked_lt _ e (live?_iff_stored.1 live).1).hold_of_key rfl
    rw [value, hold'.decode?_encode] at decoded
    obtain rfl := Option.some.inj decoded
    rw [eq]
    exact same.trans isSlot

/-- **Under each kind of key there are texts of one kind.** -/
theorem written (there : ρ.stored? n key = some e) : Written key e.value := by
  induction n using Nat.strongRecOn generalizing key e with
  | ind n ih =>
    cases n with
    | zero =>
      rw [stored?, store, world_zero, ρ.unused] at there
      cases there
    | succ n =>
      rcases stored_succ there with before | ⟨i, w, writes, ttl, commits, puts, -⟩
      · exact ih n (Nat.lt_succ_self n) before
      · obtain ⟨n₀, c, -, -, -, deed⟩ := deed commits.1.hears
        generalize e.value = text at puts
        cases deed with
        | spare h => cases h
        | @place slot claimant w hold ttl' acquires grounds =>
          obtain rfl := grounds.slot_eq_of_earlier fun m lt key e there =>
            ih m (Nat.lt_succ_of_lt lt) there
          exact written_of_placing puts
        | remove entitled grounds =>
          rw [grounds.writes_eq] at puts
          simp at puts
        | clear releases index b early late covers names => simp at puts
        | fence commits grounds =>
          obtain ⟨rfl, rfl, -⟩ := Write.put.inj (List.mem_singleton.1 puts)
          exact .booked _ _

/-- **A live hold says which slot it is on.** -/
theorem slot_of_holds {hold : HoldRecord} (held : ρ.Holds n slot hold) : hold.slot = slot := by
  obtain ⟨e, live, decoded⟩ := holds_iff_live.1 held
  obtain ⟨hold', value, same⟩ := (written (live?_iff_stored.1 live).1).hold_of_key rfl
  rw [value, hold'.decode?_encode] at decoded
  exact Option.some.inj decoded ▸ same

/-- A live entry under the key of a hold is a hold. -/
theorem holds_of_live (live : ρ.live? n (Key.hold slot) = some e) :
    ∃ hold : HoldRecord, e.value = hold.encode ∧ ρ.Holds n slot hold := by
  obtain ⟨hold, value, -⟩ := (written (live?_iff_stored.1 live).1).hold_of_key rfl
  exact ⟨hold, value, holds_iff_live.2 ⟨e, live, by rw [value, hold.decode?_encode]⟩⟩

/-- **Nothing that a call reads is garbled.** -/
theorem not_garbled {b : Nat} {h : Heard} (mem : h ∈ ρ.heard i b n) : ¬ h.Garbled := by
  obtain ⟨k, -, -, hears⟩ := mem_heard.1 mem
  have found : ∀ {key text}, h = ⟨.store (.read key), .ok (some text)⟩ →
      ∃ e, ρ.live? k key = some e ∧ e.value = text := by
    rintro key text rfl
    have answer : some text = ρ.read? k key := answer_of_hears hears (by simp)
    exact Option.map_eq_some_iff.1 answer.symm
  rintro (⟨undecodable⟩ | ⟨index, undecodable⟩)
  · obtain ⟨e, live, rfl⟩ := found rfl
    obtain ⟨hold, value, -⟩ := holds_of_live live
    rw [value, hold.decode?_encode] at undecodable
    cases undecodable
  · obtain ⟨e, live, rfl⟩ := found rfl
    obtain ⟨slot, decoded⟩ := (written (live?_iff_stored.1 live).1).slot_of_index index
    rw [decoded] at undecodable
    cases undecodable

end Holdfast.Reservation.Run
