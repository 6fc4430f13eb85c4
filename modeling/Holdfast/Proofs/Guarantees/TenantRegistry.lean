import Holdfast.Proofs.Tenancy

/-!
# Whom the registry of tenants serves

Any calls for the tenants of any names, with the tenants at work in between and their seeds coming and
going. The registry counts the tenants that it has loaded and has room for them; the key of each is safe
to look up in the data directory. A call that fails changes nothing. Two calls that succeed come to one
tenant exactly if the same counts of both names: that tenant is not loaded a second time, so the later
call finds what its work since the earlier one has made of it (`Turn.effect`). Who asks for a tenant that
is loaded, by a name that is not too long, gets it even if there is no room left.
-/

namespace Holdfast.Registry

/-- Something that happens to a registry. -/
inductive Turn where
  /-- Somebody asks for the tenant of a name. -/
  | ask (now : Nat) (name : String)
  /-- A tenant is at work, if it is loaded. The service gives it another backend by `setBackend`,
  which is work of this kind. -/
  | work (key : String) (deed : Tenant → Tenant)
  /-- There are other seeds in the data directory. -/
  | reseed (seeds : SortedMap String SeedFile)

/-- The registry after a tenant has been at work. -/
def work (r : Registry) (key : String) (deed : Tenant → Tenant) : Registry :=
  match r.tenants.get? key with
  | some t => { r with tenants := r.tenants.insert key (deed t) }
  | none => r

/-- The registry after something happened. -/
def turn (r : Registry) : Turn → Registry
  | .ask now name => (r.getOrLoad now name).2
  | .work key deed => r.work key deed
  | .reseed seeds => { r with seeds }

/-- The registry after some things happened, one after the other. -/
def after (r : Registry) (turns : List Turn) : Registry := turns.foldl turn r

/-- What something does to the tenant of a key: only its own work changes it. -/
def Turn.effect (key : String) (t : Tenant) : Turn → Tenant
  | .work key' deed => if key' = key then deed t else t
  | _ => t

variable {r : Registry} {key : String} {t : Tenant}

/-- A tenant that works stays in its place. -/
theorem Sound.work (sound : r.Sound) (key : String) (deed : Tenant → Tenant) :
    (r.work key deed).Sound := by
  unfold Registry.work
  split
  · rename_i t there
    have size : (r.tenants.insert key (deed t)).size = r.size :=
      SortedMap.size_insert_of_get? there _
    refine ⟨sound.reserved.trans size.symm, Nat.le_trans (Nat.le_of_eq size) sound.size_le, ?_⟩
    intro key' t' there'
    by_cases same : key' = key
    · rw [same]
      exact sound.safe key t there
    · rw [SortedMap.get?_insert_ne _ same] at there'
      exact sound.safe key' t' there'
  · exact sound

/-- A tenant's work changes that tenant only. -/
theorem get?_work (there : r.tenants.get? key = some t) (key' : String) (deed : Tenant → Tenant) :
    (r.work key' deed).tenants.get? key = some (if key' = key then deed t else t) := by
  unfold Registry.work
  by_cases same : key' = key
  · rw [same, there, if_pos rfl]
    exact SortedMap.get?_insert_self _ _ _
  · rw [if_neg same]
    split
    · rw [SortedMap.get?_insert_ne _ (Ne.symm same), there]
    · exact there

/-- A registry in order stays in order, whatever happens to it. -/
theorem Sound.turn (sound : r.Sound) (x : Turn) : (r.turn x).Sound := by
  cases x with
  | ask now name => exact (sound.gets now name).sound sound
  | work key deed => exact sound.work key deed
  | reseed seeds => exact sound.withSeeds seeds

/-- It stays in order whatever happens one after the other. -/
theorem Sound.after (sound : r.Sound) (turns : List Turn) : (r.after turns).Sound := by
  induction turns generalizing r with
  | nil => exact sound
  | cons x rest ih => exact ih (sound.turn x)

/-- A tenant that is loaded stays, and only its work changes it. -/
theorem Sound.get?_turn (sound : r.Sound) (there : r.tenants.get? key = some t) (x : Turn) :
    (r.turn x).tenants.get? key = some (x.effect key t) := by
  cases x with
  | ask now name => exact (sound.gets now name).stays there
  | work key' deed => exact get?_work there key' deed
  | reseed seeds => exact there

/-- A tenant is loaded once: later it is what its work has made of it. -/
theorem Sound.get?_after (sound : r.Sound) (there : r.tenants.get? key = some t)
    (turns : List Turn) :
    (r.after turns).tenants.get? key = some (turns.foldl (Turn.effect key) t) := by
  induction turns generalizing r t with
  | nil => exact there
  | cons x rest ih => exact ih (sound.turn x) (sound.get?_turn there x)

/-- **What holds of a registry** at any time, for whoever asks it now or later. -/
structure Serves (r : Registry) : Prop where
  /-- The places that are taken are those of the tenants, and they are not too many. -/
  counts : r.reserved = r.size ∧ r.size ≤ maxTenants
  /-- A tenant's key is not empty and not too long, and it has letters, digits, underscores and hyphens
  only; so the name of its seed leads nowhere else. -/
  safe : ∀ key t, r.tenants.get? key = some t → key ≠ "" ∧ key.utf8ByteSize ≤ maxName ∧
    (∀ c ∈ key.toList, Text.isAlphanumeric c = true ∨ c = '_' ∨ c = '-') ∧
    '/' ∉ (key ++ ".json").toList
  /-- A call that fails leaves everything as it is. -/
  failed : ∀ now name e, (r.getOrLoad now name).1 = .error e → (r.getOrLoad now name).2 = r
  /-- When a call succeeds; a tenant that is loaded needs no room and no seed. -/
  succeeds : ∀ now name key, (r.getOrLoad now name).1 = .ok key ↔
    key = safeName name ∧ name.utf8ByteSize ≤ maxName ∧
      ((∃ t, r.tenants.get? key = some t) ∨ key ≠ "" ∧ r.size < maxTenants ∧ r.Buildable key)
  /-- Two calls that succeed come to one tenant exactly if the same counts of both names, whatever
  happens between them; and the tenant is still the one of the first call. -/
  same : ∀ now name key between now' name' key',
    (r.getOrLoad now name).1 = .ok key →
    (((r.getOrLoad now name).2.after between).getOrLoad now' name').1 = .ok key' →
    (key = key' ↔ safeName name = safeName name') ∧
    ∃ t, (r.getOrLoad now name).2.tenants.get? key = some t ∧
      (((r.getOrLoad now name).2.after between).getOrLoad now' name').2.tenants.get? key =
        some (between.foldl (Turn.effect key) t)

/-- **Whom the registry serves.** Whatever happens to a registry that has no tenants at first. -/
theorem serves_after (past : List Turn) : (Registry.after {} past).Serves := by
  have sound := sound_empty.after past
  generalize Registry.after {} past = r at sound
  refine ⟨⟨sound.reserved, sound.size_le⟩, ?safe, ?failed, ?succeeds, ?same⟩
  case safe =>
    intro key t there
    have safe := sound.safe key t there
    refine ⟨safe.ne_empty, safe.size_le, ?_, ?_⟩
    · intro c mem
      simpa [isSafe, or_assoc] using safe.safe c mem
    · simpa using safe.slash_not_mem
  case failed =>
    intro now name e failed
    have gets := sound.gets now name
    rw [failed] at gets
    exact gets.eq_of_error
  case succeeds =>
    intro now name key
    exact (sound.gets now name).ok_iff
  case same =>
    intro now name key between now' name' key' first second
    have gets := sound.gets now name
    rw [first] at gets
    have sound' := (gets.sound sound).after between
    have gets' := sound'.gets now' name'
    rw [second] at gets'
    obtain ⟨counts, t, there⟩ := gets.loaded_of_ok
    refine ⟨?_, t, there, gets'.stays ((gets.sound sound).get?_after there between)⟩
    rw [counts, gets'.loaded_of_ok.1]

-- the same counts of both names, and a directory in place of a seed fails only a tenant that is not loaded
example :
    let first := Registry.getOrLoad 0 {} "../a b"
    let later := first.2.after [.reseed (.ofList [("ab", .directory), ("c", .directory)])]
    first.1 = .ok "ab" ∧ (later.getOrLoad 1 "ab/").1 = .ok "ab" ∧
      (later.getOrLoad 1 "c").1 = .error (.seed .isADirectory) := by
  exact ⟨rfl, rfl, rfl⟩

end Holdfast.Registry
