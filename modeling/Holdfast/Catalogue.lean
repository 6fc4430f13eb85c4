import Holdfast.Slot

/-!
# The catalogue of slots

What is durably known: every slot with its day and whether it is booked. A slot is booked once.
-/

namespace Holdfast

/-- The known slots. -/
structure Catalogue where
  slots : SortedMap SlotId SlotRecord
  /-- Every record stands under its own number. -/
  keyed : ∀ id r, slots.get? id = some r → r.id = id

/-- Why the catalogue did not do what it was asked. -/
inductive CatalogueError where
  | unknown (slot : SlotId)
  | alreadyBooked (slot : SlotId)
  /-- The catalogue could not be reached. -/
  | unavailable (reason : String)
  deriving DecidableEq

namespace CatalogueError

/-- The error in words. -/
def message : CatalogueError → String
  | unknown slot => "slot " ++ SlotId.text slot ++ " not found"
  | alreadyBooked slot => "slot " ++ SlotId.text slot ++ " already booked"
  | unavailable reason => "repository unavailable: " ++ reason

end CatalogueError

namespace Catalogue

/-- The catalogue without slots. -/
def empty : Catalogue := ⟨.empty, by simp⟩

instance : Inhabited Catalogue := ⟨empty⟩

/-- What is known of a slot. -/
def get? (c : Catalogue) (id : SlotId) : Option SlotRecord := c.slots.get? id

/-- The catalogue with a slot, in place of the one with its number. -/
def insert (c : Catalogue) (r : SlotRecord) : Catalogue :=
  { slots := c.slots.insert r.id r
    keyed := by
      intro id r' h
      by_cases e : id = r.id
      · subst e
        rw [SortedMap.get?_insert_self] at h
        exact congrArg SlotRecord.id (Option.some.inj h).symm
      · rw [c.slots.get?_insert_ne e] at h
        exact c.keyed id r' h }

/-- The catalogue of a list of slots; of two with one number, the later stays. -/
def ofList (rs : List SlotRecord) : Catalogue := rs.foldl insert empty

/-- The slots of a day, in the order of their numbers. -/
def onDay (c : Catalogue) (d : Day) : List SlotRecord :=
  (c.slots.filter (·.2.day = d)).toList.map (·.2)

/-- Books a slot. -/
def book (c : Catalogue) (id : SlotId) : Except CatalogueError Unit × Catalogue :=
  match c.get? id with
  | none => (.error (.unknown id), c)
  | some r =>
    if r.booked then (.error (.alreadyBooked id), c)
    else (.ok (), c.insert { r with booked := true })

/-- The number of slots. -/
def size (c : Catalogue) : Nat := c.slots.size

@[simp] theorem get?_insert_self (c : Catalogue) (r : SlotRecord) :
    (c.insert r).get? r.id = some r := c.slots.get?_insert_self r.id r

theorem get?_insert_ne (c : Catalogue) {r : SlotRecord} {id : SlotId} (h : id ≠ r.id) :
    (c.insert r).get? id = c.get? id := c.slots.get?_insert_ne h r

end Catalogue

/-- Which days can be held at present. -/
inductive Admission where
  /-- None: no period is running. -/
  | closed
  | days (enabled : DaySet)

end Holdfast
