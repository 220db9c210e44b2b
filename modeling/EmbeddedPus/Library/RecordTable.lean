import EmbeddedPus.Library.SlotTable

namespace SlotTable

open Function

variable {n : ℕ} {E K V : Type}

/-- How a record of a table keeps a key and a value, and a flag that tells whether it is in use. -/
structure Layout (E K V : Type) where
  used : E → Bool
  key : E → K
  val : E → V

namespace Layout

variable (φ : Layout E K V) (t : Fin n → E)

/-- A table of records as slots with a key and a value; what a record not in use still holds does
not show. -/
def slots : Slots n K V :=
  fun i ↦ if φ.used (t i) then some (φ.key (t i), φ.val (t i)) else none

def Tests (hit : Fin n → Bool) (k : K) : Prop := ∀ i, hit i ↔ φ.used (t i) ∧ φ.key (t i) = k

variable {φ t}

@[simp] theorem isSome_slots (i : Fin n) : (φ.slots t i).isSome = φ.used (t i) := by
  cases h : φ.used (t i) <;> simp [slots, h]

theorem slots_eq_some {i : Fin n} {k : K} {v : V} :
    φ.slots t i = some (k, v) ↔ φ.used (t i) ∧ φ.key (t i) = k ∧ φ.val (t i) = v := by
  cases h : φ.used (t i) <;> simp [slots, h]

theorem slots_update_used {i : Fin n} {e : E} (he : φ.used e) :
    φ.slots (update t i e) = update (φ.slots t) i (some (φ.key e, φ.val e)) := by
  funext j
  by_cases hj : j = i
  · subst hj
    simp [slots, he]
  · simp [slots, hj]

theorem slots_update_unused {i : Fin n} {e : E} (he : φ.used e = false) :
    φ.slots (update t i e) = update (φ.slots t) i none := by
  funext j
  by_cases hj : j = i
  · subst hj
    simp [slots, he]
  · simp [slots, hj]

namespace Tests

variable [DecidableEq K] {hit : Fin n → Bool} {k : K}

theorem holds (h : φ.Tests t hit k) : SlotTable.holds (φ.slots t) k = hit := by
  funext i
  apply Bool.eq_iff_iff.mpr
  rw [holds_iff, h i]
  simp only [slots_eq_some, exists_and_left, exists_eq', and_true]

theorem find (h : φ.Tests t hit k) : SlotTable.find (φ.slots t) k = Fin.find? hit := by
  rw [SlotTable.find, h.holds]

theorem lookup (h : φ.Tests t hit k) :
    SlotTable.lookup (φ.slots t) k = (Fin.find? hit).map fun i ↦ φ.val (t i) := by
  rw [SlotTable.lookup, h.find]
  cases hf : Fin.find? hit with
  | none => rfl
  | some i =>
    obtain ⟨hu, hk⟩ := (h i).mp (Fin.find?_eq_some_iff.mp hf).1
    rw [Option.bind_some, slots_eq_some.mpr ⟨hu, hk, rfl⟩]
    rfl

/-- The pass of a registration over the table ends in a slot for the key exactly when the map has
the key or has room, and a record of key and value put there enters the value into the map. -/
theorem scan_cases (h : φ.Tests t hit k) {m : Finmap fun _ : K ↦ V}
    (href : Refines (φ.slots t) m) (v : V) :
    ((k ∈ m ∨ m.keys.card < n) ∧ ∃ i, (scan (fun i ↦ φ.used (t i)) hit = .found i ∧ hit i ∨
        scan (fun i ↦ φ.used (t i)) hit = .free i) ∧
      ∀ e, φ.used e → φ.key e = k → φ.val e = v →
        Refines (φ.slots (update t i e)) (m.insert k v)) ∨
      (¬ (k ∈ m ∨ m.keys.card < n) ∧ scan (fun i ↦ φ.used (t i)) hit = .full) := by
  have hused : (fun i ↦ (φ.slots t i).isSome) = fun i ↦ φ.used (t i) :=
    funext fun i ↦ isSome_slots i
  have hput {i : Fin n} {s : Slots n K V} (hs : some (update (φ.slots t) i (some (k, v))) = some s)
      (href' : Refines s (m.insert k v)) (e : E) (hu : φ.used e) (hk : φ.key e = k)
      (hv : φ.val e = v) : Refines (φ.slots (update t i e)) (m.insert k v) := by
    rw [slots_update_used hu, hk, hv, Option.some.inj hs]
    exact href'
  have hscan := scan_spec (fun i ↦ φ.used (t i)) hit
  have hstore := href.store_cases k v
  rw [SlotTable.store, hused, h.holds] at hstore
  cases hs : scan (fun i ↦ φ.used (t i)) hit with
  | found i =>
    rw [hs] at hscan hstore
    obtain ⟨hroom, s, he, href'⟩ | ⟨-, he⟩ := hstore
    · exact .inl ⟨hroom, i, .inl ⟨rfl, hscan.2⟩, hput he href'⟩
    · cases he
  | free i =>
    rw [hs] at hstore
    obtain ⟨hroom, s, he, href'⟩ | ⟨-, he⟩ := hstore
    · exact .inl ⟨hroom, i, .inr rfl, hput he href'⟩
    · cases he
  | full =>
    rw [hs] at hstore
    obtain ⟨-, s, he, -⟩ | ⟨hroom, -⟩ := hstore
    · cases he
    · exact .inr ⟨hroom, rfl⟩

end Tests

end Layout

end SlotTable
