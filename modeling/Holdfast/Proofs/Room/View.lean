import Holdfast.Socket.Frame

/-!
# What a spectator makes of what it is told

A spectator has a view of the slots: each of them is free, held or booked. A change in a room says
so of one slot, and a snapshot of all slots of its day.

Of some changes the last one that is about a slot counts: `told?` is what it says.
-/

namespace Holdfast

/-- How a slot looks. -/
inductive Label where
  | free
  | held
  | booked
  deriving DecidableEq

/-- How a slot looks after a change. -/
def RoomEvent.label : RoomEvent → Label
  | held .. => .held
  | released .. => .free
  | booked .. => .booked

/-- How a slot looks in a snapshot. -/
def DaySnapshot.label (s : DaySnapshot) (slot : SlotId) : Label :=
  if slot ∈ s.booked then .booked
  else if slot ∈ s.held.map (·.slot) then .held
  else .free

/-- How all slots look. -/
abbrev View := SlotId → Label

namespace View

/-- The view after a change. -/
def change (v : View) (e : RoomEvent) : View := fun slot => if slot = e.slot then e.label else v slot

/-- The view after a frame. -/
def take (v : View) : Socket.ServerEvent → View
  | .snapshot s => s.label
  | .change e => v.change e
  | _ => v

/-- What is made of some frames. -/
def ofFrames (frames : List Socket.ServerEvent) : View := frames.foldl take fun _ => .free

/-- What is made of one more frame. -/
@[simp] theorem ofFrames_concat (frames : List Socket.ServerEvent) (frame : Socket.ServerEvent) :
    ofFrames (frames ++ [frame]) = (ofFrames frames).take frame := by
  simp [ofFrames]

end View

/-! ## The last change of a slot -/

/-- How a slot looks after some changes, if one of them is about it. -/
def told? (es : List RoomEvent) (slot : SlotId) : Option Label :=
  ((es.filter (·.slot = slot)).getLast?).map (·.label)

section told

variable {es es' : List RoomEvent} {e : RoomEvent} {slot : SlotId} {label : Label}

@[simp] theorem told?_nil : told? [] slot = none := rfl

/-- A later change counts more than an earlier one. -/
theorem told?_append : told? (es ++ es') slot = (told? es' slot).or (told? es slot) := by
  unfold told?
  rw [List.filter_append, List.getLast?_append]
  cases (es'.filter (·.slot = slot)).getLast? <;> rfl

/-- One change tells of its own slot. -/
theorem told?_singleton : told? [e] slot = if e.slot = slot then some e.label else none := by
  unfold told?
  by_cases same : e.slot = slot <;> simp [same]

/-- What is told after the first change, and otherwise by it. -/
theorem told?_cons :
    told? (e :: es) slot = (told? es slot).or (if e.slot = slot then some e.label else none) := by
  rw [← told?_singleton, ← told?_append]
  rfl

/-- Nothing is told of a slot that no change is about. -/
theorem told?_eq_none_iff : told? es slot = none ↔ ∀ e ∈ es, e.slot ≠ slot := by
  simp [told?]

/-- Whatever is told of a slot, one of the changes says. -/
theorem exists_of_told? (told : told? es slot = some label) :
    ∃ e ∈ es, e.slot = slot ∧ e.label = label := by
  obtain ⟨e, last, same⟩ := Option.map_eq_some_iff.1 told
  have mem := List.mem_of_getLast? last
  simp only [List.mem_filter, decide_eq_true_eq] at mem
  exact ⟨e, mem.1, mem.2, same⟩

/-- Changes of other slots may be left out. -/
theorem told?_filter {p : RoomEvent → Bool} (kept : ∀ e ∈ es, e.slot = slot → p e = true) :
    told? (es.filter p) slot = told? es slot := by
  unfold told?
  rw [List.filter_filter]
  congr 2
  refine List.filter_congr fun e mem => ?_
  by_cases same : e.slot = slot
  · simp [same, kept e mem same]
  · simp [same]

end told
end Holdfast
