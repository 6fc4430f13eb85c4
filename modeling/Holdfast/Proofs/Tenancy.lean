import Holdfast.Proofs.SortedMap
import Holdfast.Tenancy

/-!
# The registry of tenants

A registry that is in order (`Registry.Sound`) has taken as many places as it has tenants, not more
than there are, and each tenant stands under a safe key. A safe key is what counts of itself
(`SafeKey.safeName_eq`), so a tenant that is found under a name as it was given is the tenant of the
name's safe part, and looking there first makes no difference: a registry in order finds the tenant,
refuses the name and stays as it is, or loads the tenant (`Sound.gets`). It is in order again after
that (`Sound.getOrLoad`).

Whether or not it is in order, the tenants that are there stay, and a new one has no rooms yet
(`getOrLoad_cases`, `rooms_getOrLoad`).
-/

namespace Holdfast

open Reservation

/-- Leaving out characters does not make a text longer. -/
theorem utf8ByteSize_filter_le (p : Char → Bool) (cs : List Char) :
    (String.ofList (cs.filter p)).utf8ByteSize ≤ (String.ofList cs).utf8ByteSize := by
  induction cs with
  | nil => exact Nat.le_refl _
  | cons c cs ih =>
    rw [List.filter_cons, String.ofList_cons, String.utf8ByteSize_append]
    split
    · rw [String.ofList_cons, String.utf8ByteSize_append]
      exact Nat.add_le_add_left ih _
    · exact Nat.le_add_left_of_le ih

namespace Registry

variable {r : Registry} {name key : String} {now : Nat}

/-! ## Safe keys -/

/-- A key under which a tenant may be loaded. -/
structure SafeKey (key : String) : Prop where
  ne_empty : key ≠ ""
  size_le : key.utf8ByteSize ≤ maxName
  safe : ∀ c ∈ key.toList, isSafe c = true

/-- What counts of a name is no longer than the name. -/
theorem utf8ByteSize_safeName_le (name : String) :
    (safeName name).utf8ByteSize ≤ name.utf8ByteSize := by
  have shorter := utf8ByteSize_filter_le isSafe name.toList
  rwa [String.ofList_toList] at shorter

/-- What counts of a name of the right length is a safe key, if anything does. -/
theorem safeKey_safeName (short : name.utf8ByteSize ≤ maxName) (counts : safeName name ≠ "") :
    SafeKey (safeName name) := by
  refine ⟨counts, Nat.le_trans (utf8ByteSize_safeName_le name) short, ?_⟩
  intro c mem
  rw [safeName, String.toList_ofList] at mem
  exact (List.mem_filter.1 mem).2

/-- All of a safe key counts. -/
theorem SafeKey.safeName_eq (h : SafeKey key) : safeName key = key := by
  rw [safeName, List.filter_eq_self.2 h.safe, String.ofList_toList]

/-- A safe key does not leave the directory that it is looked up in. -/
theorem SafeKey.slash_not_mem (h : SafeKey key) : '/' ∉ key.toList := by
  intro mem
  have unsafe_slash : isSafe '/' = false := by decide +kernel
  have safe_slash := h.safe '/' mem
  rw [unsafe_slash] at safe_slash
  cases safe_slash

/-! ## Registries in order -/

/-- **The registry is in order.** -/
structure Sound (r : Registry) : Prop where
  reserved : r.reserved = r.size
  size_le : r.size ≤ maxTenants
  safe : ∀ key t, r.tenants.get? key = some t → SafeKey key

/-- A registry without tenants is in order. -/
theorem sound_empty : Sound {} :=
  ⟨rfl, Nat.zero_le _, fun _ _ there => nomatch there⟩

/-- The seeds that lie in the data directory may change. -/
theorem Sound.withSeeds (sound : r.Sound) (seeds : SortedMap String SeedFile) :
    Sound { r with seeds } := ⟨sound.reserved, sound.size_le, sound.safe⟩

/-- Can the tenant of a key be built? -/
def Buildable (r : Registry) (key : String) : Prop := ∃ backend, r.build key = .ok backend

/-- **What asking for the tenant of a name comes to**: the tenant is loaded already; or it is not, and
there is a reason to refuse it; or it is loaded now. -/
inductive Gets (now : Nat) (r : Registry) (name : String) :
    Except TenantError String → Registry → Prop where
  | found {t : Tenant} (short : name.utf8ByteSize ≤ maxName)
    (there : r.tenants.get? (safeName name) = some t) : Gets now r name (.ok (safeName name)) r
  | refused (e : TenantError)
    (reason : maxName < name.utf8ByteSize ∨ r.tenants.get? (safeName name) = none ∧
      (safeName name = "" ∨ maxTenants ≤ r.size ∨ ¬ r.Buildable (safeName name))) :
    Gets now r name (.error e) r
  | loaded {backend : Backend} (short : name.utf8ByteSize ≤ maxName)
    (new : r.tenants.get? (safeName name) = none) (counts : safeName name ≠ "")
    (room : r.size < maxTenants) (built : r.build (safeName name) = .ok backend) :
    Gets now r name (.ok (safeName name)) { r with
      reserved := r.reserved + 1
      tenants := r.tenants.insert (safeName name) { backend, nextPass := now } }

/-- A place that was taken can be given back. -/
theorem giveBack_taken (r : Registry) : giveBack { r with reserved := r.reserved + 1 } = r := rfl

/-- Loading a tenant that is not loaded. -/
theorem Sound.gets_load (sound : r.Sound) (now : Nat) (short : name.utf8ByteSize ≤ maxName)
    (new : r.tenants.get? (safeName name) = none) (counts : safeName name ≠ "") :
    Gets now r name (r.load now (safeName name)).1 (r.load now (safeName name)).2 := by
  rw [load, giveBack_taken]
  split
  · rename_i full
    rw [sound.reserved] at full
    exact .refused _ (.inr ⟨new, .inr (.inl full)⟩)
  rename_i room
  rw [sound.reserved] at room
  split
  · rename_i e failed
    refine .refused _ (.inr ⟨new, .inr (.inr ?_)⟩)
    rintro ⟨backend, built⟩
    cases failed.symm.trans built
  · rename_i backend built
    exact .loaded short new counts (Nat.lt_of_not_le room) built

/-- **A registry in order deals with every name** as if it had looked for what counts of it. -/
theorem Sound.gets (sound : r.Sound) (now : Nat) (name : String) :
    Gets now r name (r.getOrLoad now name).1 (r.getOrLoad now name).2 := by
  rw [getOrLoad]
  split
  · -- a key that is loaded counts as a whole
    rename_i there
    obtain ⟨t, there⟩ := Option.isSome_iff_exists.1 there
    have safe := sound.safe name t there
    have counted : r.tenants.get? (safeName name) = some t := by rwa [safe.safeName_eq]
    have found : Gets now r name (.ok (safeName name)) r := .found safe.size_le counted
    rwa [safe.safeName_eq] at found
  split
  · rename_i long
    exact .refused _ (.inl long)
  rename_i long
  have short := Nat.le_of_not_lt long
  dsimp only
  cases there : r.tenants.get? (safeName name) with
  | some t =>
    rw [if_neg (sound.safe _ t there).ne_empty, if_pos Option.isSome_some]
    exact .found short there
  | none =>
    split
    · rename_i empty
      exact .refused _ (.inr ⟨there, .inl empty⟩)
    · rename_i counts
      exact sound.gets_load now short there counts

/-! ## What the outcome says -/

variable {answer : Except TenantError String} {r' : Registry}

/-- The registry is in order after dealing with a name. -/
theorem Gets.sound (gets : Gets now r name answer r') (sound : r.Sound) : r'.Sound := by
  cases gets with
  | found => exact sound
  | refused => exact sound
  | loaded short new counts room built =>
    refine ⟨?_, ?_, fun key t there => ?_⟩
    · rw [size, SortedMap.size_insert new, sound.reserved, size]
    · rw [size, SortedMap.size_insert new]
      exact room
    · by_cases same : key = safeName name
      · rw [same]
        exact safeKey_safeName short counts
      · rw [SortedMap.get?_insert_ne _ same] at there
        exact sound.safe key t there

/-- The registry stays as it is if there is no tenant for the name. -/
theorem Gets.eq_of_error {e : TenantError} (gets : Gets now r name (.error e) r') : r' = r := by
  cases gets
  rfl

/-- A tenant's key is what counts of the name that it was asked for by, and it is loaded then. -/
theorem Gets.loaded_of_ok (gets : Gets now r name (.ok key) r') :
    key = safeName name ∧ ∃ t, r'.tenants.get? key = some t := by
  cases gets with
  | found short there => exact ⟨rfl, _, there⟩
  | loaded => exact ⟨rfl, _, SortedMap.get?_insert_self _ _ _⟩

/-- Tenants that are loaded stay as they are. -/
theorem Gets.stays {t : Tenant} (gets : Gets now r name answer r')
    (there : r.tenants.get? key = some t) : r'.tenants.get? key = some t := by
  cases gets with
  | found => exact there
  | refused => exact there
  | loaded short new counts room built =>
    rw [SortedMap.get?_insert_ne, there]
    rintro rfl
    cases new.symm.trans there

/-- **When there is a tenant for a name.** -/
theorem Gets.ok_iff (gets : Gets now r name answer r') :
    answer = .ok key ↔ key = safeName name ∧ name.utf8ByteSize ≤ maxName ∧
      ((∃ t, r.tenants.get? key = some t) ∨
        key ≠ "" ∧ r.size < maxTenants ∧ r.Buildable key) := by
  constructor
  · rintro rfl
    cases gets with
    | found short there => exact ⟨rfl, short, .inl ⟨_, there⟩⟩
    | loaded short new counts room built => exact ⟨rfl, short, .inr ⟨counts, room, _, built⟩⟩
  · rintro ⟨rfl, short, reason⟩
    cases gets with
    | found => rfl
    | loaded => rfl
    | refused e why =>
      exfalso
      rcases why with long | ⟨new, why⟩
      · exact Nat.not_lt.2 short long
      rcases reason with ⟨t, there⟩ | ⟨counts, room, built⟩
      · cases new.symm.trans there
      · rcases why with empty | full | broken
        · exact counts empty
        · exact Nat.not_lt.2 full room
        · exact broken built

/-! ## Backends -/

section backends

variable (r : Registry) {key key' : String}

/-- Another tenant keeps its backend. -/
theorem backend_setBackend_ne (other : key' ≠ key) (b : Backend) :
    (r.setBackend key b).backend key' = r.backend key' := by
  unfold backend setBackend
  cases r.tenants.get? key with
  | none => rfl
  | some t =>
    dsimp only
    rw [SortedMap.get?_insert_ne _ other]

/-- The tenants that are loaded stay loaded. -/
theorem isSome_setBackend (key key' : String) (b : Backend) :
    ((r.setBackend key b).tenants.get? key').isSome = (r.tenants.get? key').isSome := by
  unfold setBackend
  cases there : r.tenants.get? key with
  | none => rfl
  | some t =>
    dsimp only
    rw [SortedMap.get?_insert_eq]
    by_cases same : key' = key <;> simp [same, there]

/-- A tenant may be given the backend that it has. -/
theorem setBackend_backend (key : String) : r.setBackend key (r.backend key) = r := by
  unfold setBackend backend
  cases there : r.tenants.get? key with
  | none => rfl
  | some t =>
    have same : r.tenants.insert key t = r.tenants := by
      refine SortedMap.ext_get? fun key' => ?_
      rw [SortedMap.get?_insert_eq]
      split
      · rename_i eq
        rw [eq, there]
      · rfl
    simp only [Option.map_some, Option.getD_some]
    rw [same]

/-- Asking for a tenant loads one without members in its rooms, if any. -/
theorem getOrLoad_cases (now : Nat) (name : String) :
    (r.getOrLoad now name).2 = r ∨ ∃ key t, r.tenants.get? key = none ∧ t.backend.rooms = {} ∧
      (r.getOrLoad now name).2 =
        { r with reserved := r.reserved + 1, tenants := r.tenants.insert key t } := by
  unfold getOrLoad
  dsimp only
  split
  · exact .inl rfl
  split
  · exact .inl rfl
  split
  · exact .inl rfl
  split
  · exact .inl rfl
  rename_i new
  unfold load
  dsimp only
  split
  · exact .inl rfl
  split
  · exact .inl rfl
  · rename_i backend built
    refine .inr ⟨safeName name, _, by simpa using new, ?_, rfl⟩
    unfold build at built
    cases seed : Seed.load ((r.seeds.get? (safeName name)).getD .missing) with
    | error e =>
      rw [seed] at built
      cases built
    | ok seed' =>
      rw [seed] at built
      obtain rfl := Except.ok.inj built
      rfl

/-- The rooms of all tenants are as they were. -/
theorem rooms_getOrLoad (now : Nat) (name key : String) :
    ((r.getOrLoad now name).2.backend key).rooms = (r.backend key).rooms := by
  rcases r.getOrLoad_cases now name with same | ⟨key', t, new, nobody, loaded⟩
  · rw [same]
  · rw [loaded]
    unfold backend
    dsimp only
    rw [SortedMap.get?_insert_eq]
    split
    · rename_i eq
      simp [eq, new, nobody]
    · rfl

/-- Who is loaded stays loaded. -/
theorem isSome_getOrLoad (now : Nat) (name : String) (loaded : (r.tenants.get? key).isSome) :
    ((r.getOrLoad now name).2.tenants.get? key).isSome := by
  rcases r.getOrLoad_cases now name with same | ⟨key', t, -, -, eq⟩
  · rwa [same]
  · rw [eq]
    dsimp only
    rw [SortedMap.get?_insert_eq]
    split
    · rfl
    · exact loaded

/-- The tenant that is found is loaded. -/
theorem isSome_of_getOrLoad {now : Nat} {name : String} (found : (r.getOrLoad now name).1 = .ok key) :
    ((r.getOrLoad now name).2.tenants.get? key).isSome := by
  revert found
  unfold getOrLoad
  dsimp only
  split
  · rename_i there
    rintro ⟨⟩
    exact there
  split
  · rintro ⟨⟩
  split
  · rintro ⟨⟩
  split
  · rename_i there
    rintro ⟨⟩
    exact there
  unfold load
  dsimp only
  split
  · rintro ⟨⟩
  split
  · rintro ⟨⟩
  · rintro ⟨⟩
    dsimp only
    rw [SortedMap.get?_insert_self]
    rfl

end backends

end Registry
end Holdfast
