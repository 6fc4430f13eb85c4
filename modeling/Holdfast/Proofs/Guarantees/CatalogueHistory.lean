import Holdfast.Proofs.Bookings
import Holdfast.Proofs.Catalogue
import Holdfast.Seed

/-!
# What a history leaves in the catalogue

The catalogue of a seed, with records put in and slots booked afterwards in any order. Of the records
that were put in for a slot the last one stands, as a whole, and it is booked if it was so then or
somebody has tried to book the slot since (`Told`). The list of a day and the look-up of a slot never
disagree. A slot is not booked twice unless a record is put in for it in between, and an attempt that
fails changes nothing (`Follows`).
-/

namespace Holdfast.Catalogue

/-- Something that is done to a catalogue. -/
inductive Change where
  /-- A record is put in. -/
  | insert (r : SlotRecord)
  /-- Somebody tries to book a slot. -/
  | book (slot : SlotId)
  deriving DecidableEq

/-- The catalogue after something was done to it. -/
def next (c : Catalogue) : Change → Catalogue
  | .insert r => c.insert r
  | .book slot => (c.book slot).2

/-- The catalogue after some things were done to it, one after the other. -/
def after (c : Catalogue) (changes : List Change) : Catalogue := changes.foldl next c

/-- No record is put in for the slot. -/
def Unwritten (slot : SlotId) (changes : List Change) : Prop :=
  ∀ r, .insert r ∈ changes → r.id ≠ slot

/-- **What a history tells of a slot.** -/
inductive Told (history : List Change) (slot : SlotId) : Option SlotRecord → Prop where
  /-- Nothing, if no record was put in for it. -/
  | unknown (never : Unwritten slot history) : Told history slot none
  /-- Otherwise the last record; it is booked if it was or somebody has tried to book it since. -/
  | known {before later : List Change} {r : SlotRecord} (split : history = before ++ .insert r :: later)
    (same : r.id = slot) (last : Unwritten slot later) :
    Told history slot (some { r with booked := r.booked || decide (.book slot ∈ later) })

/-- **What an attempt to book a slot comes to.** -/
inductive Attempt (c : Catalogue) (slot : SlotId) : Except CatalogueError Unit × Catalogue → Prop where
  /-- A slot that is free becomes booked, and nothing else changes. -/
  | booked {r : SlotRecord} {c' : Catalogue} (known : c.get? slot = some r) (free : r.booked = false)
    (flips : ∀ other, c'.get? other =
      if other = slot then some { r with booked := true } else c.get? other) :
    Attempt c slot (.ok (), c')
  /-- Nothing changes if the slot is not known. -/
  | unknown (none : c.get? slot = none) : Attempt c slot (.error (.unknown slot), c)
  /-- Nothing changes if the slot is booked. -/
  | alreadyBooked {r : SlotRecord} (known : c.get? slot = some r) (booked : r.booked = true) :
    Attempt c slot (.error (.alreadyBooked slot), c)

/-- **The catalogue follows its history.** -/
structure Follows (history : List Change) (c : Catalogue) : Prop where
  /-- What is known of a slot is what the history tells of it. -/
  told : ∀ slot, Told history slot (c.get? slot)
  /-- The list of a day has the records of that day. -/
  listed : ∀ day r, r ∈ c.onDay day ↔ c.get? r.id = some r ∧ r.day = day
  /-- They come in the order of their numbers, each once. -/
  sorted : ∀ day, ((c.onDay day).map (·.id)).Pairwise (· < ·)
  /-- A slot is in the list of its day and in no other. -/
  oneDay : ∀ slot r, c.get? slot = some r → ∀ day, slot ∈ (c.onDay day).map (·.id) ↔ day = r.day
  /-- Whoever walks through the records in any order gets the list of a day by sorting those of it. -/
  walked : ∀ walk : List SlotRecord, walk.Perm c.records →
    ∀ day, (walk.filter (·.day = day)).mergeSort (fun a b => a.id ≤ b.id) = c.onDay day
  /-- What an attempt to book a slot would come to. -/
  attempt : ∀ slot, Attempt c slot (c.book slot)
  /-- Between two attempts that succeeded a record was put in. -/
  once : ∀ slot before between later,
    history = before ++ .book slot :: (between ++ .book slot :: later) →
    ((empty.after before).book slot).1 = .ok () →
    ((empty.after (before ++ .book slot :: between)).book slot).1 = .ok () →
    ¬ Unwritten slot between

variable {c : Catalogue} {slot : SlotId} {r : SlotRecord} {known : Option SlotRecord}
  {history changes changes' : List Change} {change : Change}

@[simp] theorem after_nil (c : Catalogue) : c.after [] = c := rfl

@[simp] theorem after_cons (c : Catalogue) (change : Change) (changes : List Change) :
    c.after (change :: changes) = (c.next change).after changes := rfl

theorem after_append (c : Catalogue) (changes changes' : List Change) :
    c.after (changes ++ changes') = (c.after changes).after changes' :=
  List.foldl_append

/-- The slots of a seed are put in one after the other. -/
theorem ofList_eq_after (rs : List SlotRecord) : ofList rs = empty.after (rs.map .insert) := by
  unfold ofList after
  rw [List.foldl_map]
  rfl

theorem unwritten_append :
    Unwritten slot (changes ++ changes') ↔ Unwritten slot changes ∧ Unwritten slot changes' := by
  simp only [Unwritten, List.mem_append, or_imp, forall_and]

/-- A record that is put in is told. -/
theorem told_insert (history : List Change) (r : SlotRecord) :
    Told (history ++ [.insert r]) r.id (some r) := by
  have last : Unwritten r.id [] := fun _ mem => absurd mem List.not_mem_nil
  simpa using Told.known (rfl : history ++ [.insert r] = history ++ .insert r :: []) rfl last

/-- Without another record for the slot it is told still, booked if somebody tries that. -/
theorem Told.append (told : Told history slot known) (unwritten : Unwritten slot changes) :
    Told (history ++ changes) slot
      (known.map fun r => { r with booked := r.booked || decide (.book slot ∈ changes) }) := by
  cases told with
  | unknown never => exact .unknown (unwritten_append.2 ⟨never, unwritten⟩)
  | @known before later r split same last =>
    have split' : history ++ changes = before ++ .insert r :: (later ++ changes) := by
      rw [split, List.append_assoc, List.cons_append]
    have told := Told.known split' same (unwritten_append.2 ⟨last, unwritten⟩)
    simpa only [List.mem_append, Bool.decide_or, Bool.or_assoc, Option.map_some] using told

/-- **What is known of a slot follows what is told of it**, whatever is done. -/
theorem Told.next (told : Told history slot (c.get? slot)) (change : Change) :
    Told (history ++ [change]) slot ((c.next change).get? slot) := by
  cases change with
  | insert r =>
    by_cases own : r.id = slot
    · subst own
      rw [Catalogue.next, get?_insert_self]
      exact told_insert history r
    · have unwritten : Unwritten slot [.insert r] := by simpa [Unwritten] using own
      rw [Catalogue.next, get?_insert_ne c (Ne.symm own)]
      simpa using told.append unwritten
  | book slot' =>
    -- a slot is told to be booked even if the attempt fails: then it is booked already, or not known
    have unwritten : Unwritten slot [.book slot'] := by simp [Unwritten]
    have told := told.append unwritten
    rw [Catalogue.next, get?_book_eq]
    by_cases own : slot = slot'
    · simpa [own] using told
    · simpa [own] using told

/-- So it does whatever is done one after the other. -/
theorem Told.after (told : Told history slot (c.get? slot)) (changes : List Change) :
    Told (history ++ changes) slot ((c.after changes).get? slot) := by
  induction changes generalizing c history with
  | nil => simpa using told
  | cons change changes ih => simpa using ih (told.next change)

/-- A slot that is booked stays booked until a record is put in for it. -/
theorem booked_after (known : c.get? slot = some r) (booked : r.booked = true)
    (unwritten : Unwritten slot changes) : (c.after changes).get? slot = some r := by
  induction changes generalizing c with
  | nil => exact known
  | cons change changes ih =>
    have rest : Unwritten slot changes := fun r mem => unwritten r (List.mem_cons_of_mem _ mem)
    refine ih ?_ rest
    cases change with
    | insert r' =>
      have other : r'.id ≠ slot := unwritten r' List.mem_cons_self
      exact (get?_insert_ne c (Ne.symm other)).trans known
    | book slot' => exact booked_of_book known booked slot'

/-- A slot that was booked is not booked again, unless a record is put in for it in between. -/
theorem written_between (first : (c.book slot).1 = .ok ())
    (second : ((c.after (.book slot :: changes)).book slot).1 = .ok ()) :
    ¬ Unwritten slot changes := by
  intro unwritten
  obtain ⟨r, known, booked⟩ := get?_book first
  obtain ⟨r', known', free⟩ := book_eq_ok_iff.1 second
  have still : (c.after (.book slot :: changes)).get? slot = some r :=
    booked_after (c := (c.book slot).2) known booked unwritten
  rw [still] at known'
  rw [← Option.some.inj known', booked] at free
  cases free

/-- An attempt to book a slot comes to one of three things. -/
theorem attempt_book (c : Catalogue) (slot : SlotId) : Attempt c slot (c.book slot) := by
  have outcome := get?_book_eq c slot
  unfold book at outcome ⊢
  cases known : c.get? slot with
  | none => exact .unknown known
  | some r =>
    simp only [known] at outcome ⊢
    cases booked : r.booked with
    | true => exact .alreadyBooked known booked
    | false =>
      simp only [booked, Bool.false_eq_true, if_false] at outcome ⊢
      exact .booked known booked outcome

/-- **Whatever is done to the catalogue of a seed, it follows its history.** -/
theorem follows_after (seed : Seed) (changes : List Change) :
    Follows (seed.slots.map .insert ++ changes) (seed.catalogue.after changes) where
  told slot := by
    have nothing : Told [] slot (empty.get? slot) := .unknown fun _ mem => absurd mem List.not_mem_nil
    rw [Seed.catalogue, ofList_eq_after, ← after_append]
    exact nothing.after _
  listed _ _ := mem_onDay
  sorted := sorted_onDay _
  oneDay _ _ known _ := mem_ids_onDay_iff known
  walked _ := mergeSort_walk
  attempt := attempt_book _
  once slot before between later _ first second := by
    rw [after_append] at second
    exact written_between first second

end Holdfast.Catalogue
