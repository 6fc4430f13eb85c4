import Holdfast.Hold

/-!
# Key layout

Four kinds of entries share a store, each under keys with a word of its own in front: the hold on a
slot, the slot that a holder holds, the slot that a connection holds, and the mark that a slot is
being booked.
-/

namespace Holdfast.Key

/-- In front of the keys of holds. -/
def holdStart : String := "hold:"

/-- In front of the keys of holders. -/
def holderStart : String := "holder:"

/-- In front of the keys of connections. -/
def sessionStart : String := "session:"

/-- In front of the keys of bookings. -/
def bookedStart : String := "booked:"

/-- The key of the hold on a slot. -/
def hold (slot : SlotId) : String := holdStart ++ SlotId.text slot

/-- The key of the slot that a holder holds. -/
def holder (h : HolderId) : String := holderStart ++ h.text

/-- The key of the slot that is held through a connection. -/
def session (s : SessionId) : String := sessionStart ++ SessionId.text s

/-- The key of the mark that a slot is being booked. -/
def booked (slot : SlotId) : String := bookedStart ++ SlotId.text slot

/-- Is it the key of a hold? -/
def isHold (key : String) : Bool := holdStart.toList.isPrefixOf key.toList

end Holdfast.Key
