import Holdfast.Http.Header
import Mathlib.Data.List.Forall2

/-!
# What the fields of a request show

Names are the same up to the case of ASCII letters (`SameLetters`). A name is looked up as the first
field that has it (`Headers.get?_eq_some_iff`), and what is there is read only if it is plain text
(`Headers.text?_eq_some_iff`).
-/

namespace Holdfast.Http

/-- The characters are one character, or the two cases of one ASCII letter. -/
def SameLetter (c d : Char) : Prop :=
  c = d ∨ ∃ k < 26, c.toNat = 0x41 + k ∧ d.toNat = 0x61 + k ∨ c.toNat = 0x61 + k ∧ d.toNat = 0x41 + k

/-- **The texts are the same up to the case of ASCII letters.** -/
def SameLetters (s t : String) : Prop := List.Forall₂ SameLetter s.toList t.toList

/-- A letter in lower case is 32 places behind the same letter in upper case. -/
theorem toNat_toLower (c : Char) :
    c.toLower.toNat = if 0x41 ≤ c.toNat ∧ c.toNat ≤ 0x5A then c.toNat + 32 else c.toNat := by
  have upper : (c.val ≥ 'A'.val ∧ c.val ≤ 'Z'.val) ↔ 0x41 ≤ c.toNat ∧ c.toNat ≤ 0x5A := Iff.rfl
  unfold Char.toLower
  split
  · rename_i isUpper
    have bound : c.toNat + 32 < UInt32.size :=
      Nat.lt_of_le_of_lt (Nat.add_le_add_right (upper.1 isUpper).2 32) (by decide)
    rw [if_pos (upper.1 isUpper)]
    show (c.val + 32).toNat = c.val.toNat + 32
    rw [UInt32.toNat_add]
    exact Nat.mod_eq_of_lt bound
  · rename_i notUpper
    rw [if_neg (mt upper.2 notUpper)]

/-- A character is put in lower case to compare it with one that is in lower case. -/
theorem toLower_eq_iff_sameLetter {c d : Char} (lower : d.toLower = d) :
    c.toLower = d ↔ SameLetter c d := by
  have notUpper : ¬ (0x41 ≤ d.toNat ∧ d.toNat ≤ 0x5A) := by
    intro isUpper
    have moved := toNat_toLower d
    rw [lower, if_pos isUpper] at moved
    omega
  have same : c.toLower = d ↔ c.toLower.toNat = d.toNat :=
    ⟨congrArg Char.toNat, fun same => Char.ext (UInt32.toNat_inj.1 same)⟩
  have same' : c = d ↔ c.toNat = d.toNat :=
    ⟨congrArg Char.toNat, fun same => Char.ext (UInt32.toNat_inj.1 same)⟩
  rw [same, toNat_toLower, SameLetter, same']
  constructor
  · intro moved
    split at moved
    · exact .inr ⟨c.toNat - 0x41, by omega, .inl (by omega)⟩
    · exact .inl moved
  · rintro (same | ⟨k, small, ⟨upper, lower⟩ | ⟨lower, upper⟩⟩)
    · rw [if_neg (same ▸ notUpper), same]
    · rw [if_pos (by omega)]
      omega
    · omega

/-- A text is put in lower case to compare it with one that is in lower case. -/
theorem toLower_eq_iff_sameLetters {s t : String} (lower : t.toLower = t) :
    s.toLower = t ↔ SameLetters s t := by
  have each : ∀ d ∈ t.toList, d.toLower = d := by
    have mapped : t.toList.map Char.toLower = t.toList.map id := by
      rw [← String.toList_map, List.map_id]
      exact congrArg String.toList lower
    exact fun d mem => List.map_inj_left.1 mapped d mem
  have mapped : s.toLower = t ↔ s.toList.map Char.toLower = t.toList := by
    have same : s.toLower.toList = s.toList.map Char.toLower := String.toList_map
    rw [← String.toList_inj, same]
  rw [mapped, SameLetters]
  generalize s.toList = cs
  generalize t.toList = ds at each
  induction ds generalizing cs with
  | nil => cases cs <;> simp
  | cons d ds ih =>
    cases cs with
    | nil => simp
    | cons c cs =>
      have rest := ih cs fun d mem => each d (List.mem_cons_of_mem _ mem)
      rw [List.map_cons, List.cons.injEq, List.forall₂_cons]
      exact and_congr (toLower_eq_iff_sameLetter (each d List.mem_cons_self)) rest

namespace Headers

/-- **The value is that of the first field with the name.** -/
def First (h : Headers) (name value : String) : Prop :=
  ∃ before field after, h = before ++ field :: after ∧ SameLetters field.1 name ∧
    field.2 = value ∧ ∀ f ∈ before, ¬ SameLetters f.1 name

/-- **The first field with the name shows a text**: its value has no characters but printable ASCII
characters, spaces and tabs. -/
def Shows (h : Headers) (name value : String) : Prop :=
  h.First name value ∧ ∀ c ∈ value.toList, c = '\t' ∨ ' ' ≤ c ∧ c ≤ '~'

variable {h : Headers} {name value : String}

/-- The first field with a name is looked up. -/
theorem get?_eq_some_iff (lower : name.toLower = name) :
    h.get? name = some value ↔ h.First name value := by
  have reads : ∀ f : String × String, f.1.toLower = name ↔ SameLetters f.1 name :=
    fun f => toLower_eq_iff_sameLetters lower
  unfold get? First
  rw [Option.map_eq_some_iff]
  constructor
  · rintro ⟨field, found, same⟩
    obtain ⟨named, before, after, split, others⟩ := List.find?_eq_some_iff_append.1 found
    refine ⟨before, field, after, split, (reads field).1 (of_decide_eq_true named), same, ?_⟩
    intro f mem
    have other := others f mem
    rw [Bool.not_eq_true', decide_eq_false_iff_not] at other
    exact mt (reads f).2 other
  · rintro ⟨before, field, after, split, named, same, others⟩
    refine ⟨field, List.find?_eq_some_iff_append.2 ⟨?_, before, after, split, ?_⟩, same⟩
    · exact decide_eq_true ((reads field).2 named)
    · intro f mem
      rw [Bool.not_eq_true', decide_eq_false_iff_not]
      exact mt (reads f).1 (others f mem)

/-- It is read if it is plain text. -/
theorem text?_eq_some_iff (lower : name.toLower = name) :
    h.text? name = some value ↔ h.Shows name value := by
  rw [text?, Option.filter_eq_some_iff, get?_eq_some_iff lower, Shows]
  simp [isReadable]

end Headers
end Holdfast.Http
