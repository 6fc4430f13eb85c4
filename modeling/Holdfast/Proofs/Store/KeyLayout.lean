import Holdfast.Proofs.SessionId
import Holdfast.Proofs.Text.Digits
import Holdfast.Store.Key

/-!
# The kinds of keys do not meet

Each kind of key starts with a word of its own, and no such word begins another one, so keys of
different kinds differ whatever stands behind the words (`append_ne_append`). Within a kind, the
text behind the word says which slot, holder or connection is meant (`hold_inj`, `booked_inj`,
`holder_inj`, `session_inj`).
-/

namespace Holdfast

namespace SlotId

/-- Reading the text of a slot's number gives the number. -/
theorem read?_text (slot : SlotId) : read? (text slot) = some slot := by
  have digits : Text.Decimal.readBelow? UInt64.size (text slot).toList = some slot.toNat := by
    rw [text, Text.Decimal.text, String.toList_ofList, Text.Decimal.readBelow?_digits slot.toNat_lt]
  rw [read?, digits]
  exact congrArg some UInt64.ofNat_toNat

/-- Two slots have different texts. -/
theorem text_inj {a b : SlotId} (h : text a = text b) : a = b := by
  have := read?_text a
  rw [h, read?_text b] at this
  exact (Option.some.inj this).symm

end SlotId

namespace Key

/-- Texts behind two words differ if neither word begins the other. -/
theorem append_ne_append {start start' : String} (h : ¬ start.toList <+: start'.toList)
    (h' : ¬ start'.toList <+: start.toList) (a b : String) : start ++ a ≠ start' ++ b := by
  intro e
  have lists : start.toList ++ a.toList = start'.toList ++ b.toList := by
    rw [← String.toList_append, ← String.toList_append, e]
  have inFront : start.toList <+: start'.toList ++ b.toList := ⟨a.toList, lists⟩
  rcases List.prefix_or_prefix_of_prefix inFront (List.prefix_append _ _) with p | p
  · exact h p
  · exact h' p

theorem hold_ne_booked (slot slot' : SlotId) : hold slot ≠ booked slot' :=
  append_ne_append (by decide) (by decide) _ _

theorem hold_ne_holder (slot : SlotId) (h : HolderId) : hold slot ≠ holder h :=
  append_ne_append (by decide) (by decide) _ _

theorem hold_ne_session (slot : SlotId) (s : SessionId) : hold slot ≠ session s :=
  append_ne_append (by decide) (by decide) _ _

theorem booked_ne_holder (slot : SlotId) (h : HolderId) : booked slot ≠ holder h :=
  append_ne_append (by decide) (by decide) _ _

theorem booked_ne_session (slot : SlotId) (s : SessionId) : booked slot ≠ session s :=
  append_ne_append (by decide) (by decide) _ _

theorem holder_ne_session (h : HolderId) (s : SessionId) : holder h ≠ session s :=
  append_ne_append (by decide) (by decide) _ _

/-- The key of a hold looks like one. -/
theorem isHold_hold (slot : SlotId) : isHold (hold slot) = true :=
  List.isPrefixOf_iff_prefix.2 ⟨(SlotId.text slot).toList, (String.toList_append).symm⟩

/-- A key of a hold names one slot. -/
theorem hold_inj {a b : SlotId} (h : hold a = hold b) : a = b :=
  SlotId.text_inj (String.append_right_inj _ |>.1 h)

/-- A key of a booking names one slot. -/
theorem booked_inj {a b : SlotId} (h : booked a = booked b) : a = b :=
  SlotId.text_inj (String.append_right_inj _ |>.1 h)

/-- A key of a holder names one holder. -/
theorem holder_inj {a b : HolderId} (h : holder a = holder b) : a = b := by
  cases a
  cases b
  exact congrArg HolderId.mk (String.append_right_inj _ |>.1 h)

/-- The key of a connection's entry says which connection it is. -/
theorem session_inj {a b : SessionId} (h : session a = session b) : a = b := by
  have same := congrArg SessionId.read? (String.append_right_inj _ |>.1 h)
  rw [SessionId.read?_text, SessionId.read?_text] at same
  exact Option.some.inj same

end Key
end Holdfast
