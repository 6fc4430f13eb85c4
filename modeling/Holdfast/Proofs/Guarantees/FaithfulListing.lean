import Holdfast.Proofs.Conduct.Listing
import Holdfast.Proofs.Register.Listing

/-!
# Listings while holds come and go

A listing of holds takes many looks at the store, and calls may place, renew and remove holds between
any two of them, and holds may run out. What it answers is true of no single moment then. But no slot
has two rows, the rows come in the order of the slots, each row shows someone who held the slot at some
moment of the listing, and no slot is missed that was held at all of them (`rows_of_listing`).

A slot whose hold came or went meanwhile may be listed or not, and the time that a row shows may be that
of another hold than the one whose owner it names (`Run.Showed`).
-/

namespace Holdfast.Reservation.Run

variable {ρ : Run} {n₀ n i : Nat} {rows : List HoldRow}

/-- A listing that has answered has listed all pages, and sorted the rows. -/
theorem lists_of_returned (begins : ρ.Begins n₀ i .listHolds) (later : n₀ < n)
    (returned : ρ.Returned n i (.listHolds rows)) :
    ∃ found, ρ.Lists none none (n₀ + 1) n found ∧
      rows = found.mergeSort fun a b => a.slot ≤ b.slot := by
  obtain ⟨_, passes, ⟨⟩⟩ := passes_of_returned (p := listHolds) rfl begins later returned
  obtain ⟨m, found, listed, sorted⟩ := passes_bind_ok passes
  exact ⟨found, (lists_of_passes (Store.begins_none _) listed).mono sorted.1, passes_done sorted⟩

/-- **A listing is faithful** to what there was while it went on: each slot has at most one row, and the
rows come in the order of the slots; every slot with a live hold at all moments of the listing has a
row; and every row shows a hold that there was at one of them. -/
theorem rows_of_listing (begins : ρ.Begins n₀ i .listHolds) (later : n₀ < n)
    (returned : ρ.Returned n i (.listHolds rows)) :
    rows.Pairwise (·.slot < ·.slot) ∧
      (∀ slot, ρ.HeldThrough (n₀ + 1) n slot → ∃ row ∈ rows, row.slot = slot) ∧
      ∀ row ∈ rows, ρ.Showed (n₀ + 1) n row := by
  obtain ⟨found, lists, rfl⟩ := lists_of_returned begins later returned
  refine ⟨?sorted, ?complete, ?showed⟩
  case sorted =>
    apply HoldRow.sorted_mergeSort
    apply (List.pairwise_map.1 lists.sorted).imp
    intro row row' lt same
    rw [same] at lt
    exact KeyOrder.irrefl _ lt
  case complete =>
    intro slot through
    have behind := Store.isAfter_none (Key.isHold_hold slot)
    rcases lists.complete slot behind through with listed | ⟨_, ⟨⟩, -⟩
    obtain ⟨row, mem, same⟩ := mem_keysOf.1 listed
    exact ⟨row, List.mem_mergeSort.2 mem, same⟩
  case showed =>
    intro row mem
    exact lists.showed row (List.mem_mergeSort.1 mem)

/-! ## A listing during which holds come and go -/

/-- A call has returned some listing. -/
def lists? (ρ : Run) (n i : Nat) : Bool :=
  match (ρ.state n).calls[i]?.map Running.rest with
  | some (.done (.listHolds _)) => true
  | _ => false

/-- What has been returned is returned. -/
theorem returned_of_lists (h : ρ.lists? n i = true) :
    ∃ rows, ρ.Returned n i (.listHolds rows) := by
  unfold lists? at h
  split at h
  · rename_i rows finished
    obtain ⟨r, there, rest⟩ := Option.map_eq_some_iff.1 finished
    exact ⟨rows, r, there, rest⟩
  · cases h

/-- Two slots are held when a listing begins. After it has looked at the one whose key comes first, a
third slot is acquired and that one released; then the listing looks at the other. -/
def churning : Run :=
  offering [2, 3, 10]
    ([.begin (.acquire 2 { holder := ⟨"a"⟩ } 120000)] ++ List.replicate 9 (.proceed 0) ++
      [.begin (.acquire 10 { holder := ⟨"b"⟩ } 60000)] ++ List.replicate 9 (.proceed 1) ++
      [.begin .listHolds] ++ List.replicate 2 (.proceed 2) ++
      [.begin (.acquire 3 { holder := ⟨"c"⟩ } 120000)] ++ List.replicate 9 (.proceed 3) ++
      [.begin (.release 10 { holder := ⟨"b"⟩ })] ++ List.replicate 7 (.proceed 4) ++
      [.proceed 2])

/-- The other slot is held all the time. -/
theorem churning_heldThrough : churning.HeldThrough 21 42 2 := by
  have held : ∀ k < 42, 21 ≤ k → (churning.read? k (Key.hold 2)).isSome = true := by
    decide +kernel
  intro k low high unheld
  have there := held k high low
  rw [unheld] at there
  cases there

/-- So the listing shows it, whatever else it shows. -/
theorem churning_rows : ∃ rows, churning.Returned 42 2 (.listHolds rows) ∧
    rows.Pairwise (·.slot < ·.slot) ∧ (∃ row ∈ rows, row.slot = 2) ∧
    ∀ row ∈ rows, churning.Showed 21 42 row := by
  obtain ⟨rows, returned⟩ := returned_of_lists (ρ := churning) (n := 42) (i := 2) (by decide +kernel)
  have begins : churning.Begins 20 2 .listHolds := ⟨rfl, by decide +kernel⟩
  obtain ⟨sorted, complete, showed⟩ := rows_of_listing begins (by decide) returned
  exact ⟨rows, returned, sorted, complete 2 churning_heldThrough, showed⟩

end Holdfast.Reservation.Run
