import Holdfast.Proofs.Hold
import Holdfast.Proofs.Store.Writes
import Holdfast.Reservation.Release

/-!
# What stands under each kind of key

Reservations write texts of one kind under each kind of key (`Written`), so that what is read under
the key of a hold is a hold on that slot, and what is read under the key of a holder or a connection
names a slot.
-/

namespace Holdfast.Reservation

/-- The entries that go with a hold are the holder's and that of a connection. -/
theorem mem_indexKeys {holder : HolderId} {session : Option SessionId} {key : String}
    (h : key ∈ indexKeys holder session) : key = Key.holder holder ∨ ∃ s, key = Key.session s := by
  rcases List.mem_append.1 h with h | h
  · exact .inl (List.mem_singleton.1 h)
  · rw [Option.mem_toList] at h
    obtain ⟨s, -, rfl⟩ := Option.map_eq_some_iff.1 h
    exact .inr ⟨s, rfl⟩

/-- The entries that go with a hold are no holds. -/
theorem hold_ne_of_index {holder : HolderId} {session : Option SessionId} {key : String}
    {slot : SlotId} (h : key ∈ indexKeys holder session) : key ≠ Key.hold slot := by
  rcases mem_indexKeys h with rfl | ⟨s, rfl⟩
  · exact (Key.hold_ne_holder slot holder).symm
  · exact (Key.hold_ne_session slot s).symm

/-- What stands under the keys: holds under their slots' keys, anything for the mark of a booking,
and slots under the keys of holders and of connections. -/
inductive Written : String → String → Prop where
  | hold (hold : HoldRecord) : Written (Key.hold hold.slot) hold.encode
  | booked (slot : SlotId) (text : String) : Written (Key.booked slot) text
  | holder (holder : HolderId) (slot : SlotId) : Written (Key.holder holder) (SlotId.text slot)
  | session (session : SessionId) (slot : SlotId) :
    Written (Key.session session) (SlotId.text slot)

namespace Written

variable {key text : String}

/-- What stands under the key of a hold is a hold on that slot. -/
theorem hold_of_key {slot : SlotId} (h : Written key text) (isKey : key = Key.hold slot) :
    ∃ hold : HoldRecord, text = hold.encode ∧ hold.slot = slot := by
  cases h with
  | hold hold => exact ⟨hold, rfl, Key.hold_inj isKey⟩
  | booked slot' text => exact absurd isKey.symm (Key.hold_ne_booked slot slot')
  | holder holder slot' => exact absurd isKey.symm (Key.hold_ne_holder slot holder)
  | session session slot' => exact absurd isKey.symm (Key.hold_ne_session slot session)

/-- A key that looks like that of a hold is the key of the hold under it. -/
theorem hold_of_isHold (h : Written key text) (isHold : Key.isHold key = true) :
    ∃ hold : HoldRecord, key = Key.hold hold.slot ∧ text = hold.encode := by
  obtain ⟨rest, behind⟩ := List.isPrefixOf_iff_prefix.1 isHold
  have same : Key.holdStart ++ String.ofList rest = key := by
    rw [← String.toList_inj, String.toList_append, String.toList_ofList, behind]
  cases h with
  | hold hold => exact ⟨hold, rfl, rfl⟩
  | booked slot text => exact absurd same (Key.append_ne_append (by decide) (by decide) _ _)
  | holder holder slot => exact absurd same (Key.append_ne_append (by decide) (by decide) _ _)
  | session session slot => exact absurd same (Key.append_ne_append (by decide) (by decide) _ _)

/-- What stands under the keys of a holder and of a connection names a slot. -/
theorem slot_of_index {holder : HolderId} {session : Option SessionId} (h : Written key text)
    (index : key ∈ indexKeys holder session) : ∃ slot, SlotId.read? text = some slot := by
  cases h with
  | hold hold => exact absurd rfl (hold_ne_of_index index)
  | booked slot text =>
    rcases mem_indexKeys index with same | ⟨s, same⟩
    · exact absurd same (Key.booked_ne_holder slot holder)
    · exact absurd same (Key.booked_ne_session slot s)
  | holder holder slot => exact ⟨slot, SlotId.read?_text slot⟩
  | session session slot => exact ⟨slot, SlotId.read?_text slot⟩

end Written

/-- An acquire writes texts of the right kinds. -/
theorem written_of_placing {policy : Policy} {hold : HoldRecord} {holder : HolderId}
    {key text : String} {ttl ttl' : Nat}
    (h : .put key text ttl ∈ placing policy hold hold.slot holder ttl') : Written key text := by
  rcases mem_placing h with same | ⟨-, same⟩ | ⟨session, same⟩
  · obtain ⟨rfl, rfl, -⟩ := Write.put.inj same
    exact .hold hold
  · obtain ⟨rfl, rfl, -⟩ := Write.put.inj same
    exact .holder holder hold.slot
  · obtain ⟨rfl, rfl, -⟩ := Write.put.inj same
    exact .session session hold.slot

end Holdfast.Reservation
