import Holdfast.Proofs.Store.KeyLayout
import Mathlib.Data.Set.Image

/-!
# A key says what it is about

Two keys are the same only if they are of one kind and about the same slot, holder or connection,
whatever a holder is called. Among the keys of all kinds those of holds are the ones that look like keys
of holds, for a listing and for a pass that tells of expired ones (`Key.apart`).
-/

namespace Holdfast.Key

/-- The keys of each kind. -/
def kinds : List (Set String) := [Set.range hold, Set.range booked, Set.range holder, Set.range session]

/-- **What keeps keys apart.** -/
structure Apart : Prop where
  injective_hold : Function.Injective hold
  injective_booked : Function.Injective booked
  injective_holder : Function.Injective holder
  injective_session : Function.Injective session
  /-- No key is of two kinds. -/
  disjoint : kinds.Pairwise fun kind other => ∀ key ∈ kind, key ∉ other
  /-- Of all keys those of holds begin as the key of a hold does. -/
  begins_iff : ∀ kind ∈ kinds, ∀ key ∈ kind, holdStart.toList <+: key.toList ↔ key ∈ Set.range hold

/-- A key of one kind is none of another if no key of the one is. -/
theorem not_mem_range {α β : Type} {f : α → String} {g : β → String} (ne : ∀ a b, f a ≠ g b) :
    ∀ key ∈ Set.range f, key ∉ Set.range g := by
  rintro _ ⟨a, rfl⟩ ⟨b, same⟩
  exact ne a b same.symm

/-- A key behind another word does not begin as the key of a hold, and is none, whatever stands behind
the word. -/
theorem begins_append_iff {start : String} (h : ¬ holdStart.toList <+: start.toList)
    (h' : ¬ start.toList <+: holdStart.toList) (rest : String) :
    holdStart.toList <+: (start ++ rest).toList ↔ start ++ rest ∈ Set.range hold := by
  have other := fun behind => append_ne_append h h' behind rest
  refine iff_of_false ?_ ?_
  · rintro ⟨behind, split⟩
    apply other (String.ofList behind)
    rw [← String.toList_inj, ← split, String.toList_append, String.toList_ofList]
  · rintro ⟨slot, same⟩
    exact other (SlotId.text slot) same

/-- **Keys are kept apart.** -/
theorem apart : Apart where
  injective_hold _ _ := hold_inj
  injective_booked _ _ := booked_inj
  injective_holder _ _ := holder_inj
  injective_session _ _ := session_inj
  disjoint := by
    simp only [kinds, List.pairwise_cons, List.forall_mem_cons]
    exact ⟨⟨not_mem_range hold_ne_booked, not_mem_range hold_ne_holder, not_mem_range hold_ne_session,
        by simp⟩, ⟨not_mem_range booked_ne_holder, not_mem_range booked_ne_session, by simp⟩,
      ⟨not_mem_range holder_ne_session, by simp⟩, by simp⟩
  begins_iff := by
    simp only [kinds, List.forall_mem_cons, Set.forall_mem_range]
    refine ⟨fun slot => ?_, fun slot => ?_, fun h => ?_, fun s => ?_, by simp⟩
    · exact iff_of_true (List.isPrefixOf_iff_prefix.1 (isHold_hold slot)) ⟨slot, rfl⟩
    · exact begins_append_iff (by decide) (by decide) _
    · exact begins_append_iff (by decide) (by decide) _
    · exact begins_append_iff (by decide) (by decide) _

end Holdfast.Key
