import Mathlib.Data.Finmap
import Mathlib.Data.Fintype.Card

namespace SlotTable

open Function

variable {n : ℕ} {K V : Type} [DecidableEq K]

/-- The outcome of one pass over a table in search of a key: the slot of the key, a slot not in
use, or neither. -/
inductive Slot (n : ℕ)
  | found (i : Fin n)
  | free (i : Fin n)
  | full
  deriving DecidableEq, Repr

def scanFrom (used hit : Fin n → Bool) : List (Fin n) → Option (Fin n) → Slot n
  | [], none => .full
  | [], some j => .free j
  | i :: is, firstFree =>
    if used i then
      if hit i then .found i else scanFrom used hit is firstFree
    else scanFrom used hit is (firstFree.or (some i))

/-- Visit the slots in order, stopping at a used one that is hit and remembering the first one not
in use. -/
def scan (used hit : Fin n → Bool) : Slot n := scanFrom used hit (List.finRange n) none

def Scanned (used hit : Fin n → Bool) : Slot n → Prop
  | .found i => used i ∧ hit i
  | .free j => ¬ used j ∧ ∀ i, used i → ¬ hit i
  | .full => ∀ i, used i ∧ ¬ hit i

theorem scanFrom_spec (used hit : Fin n → Bool) (is : List (Fin n)) (firstFree : Option (Fin n))
    (hmiss : ∀ i ∉ is, used i → ¬ hit i) (hsome : ∀ j, firstFree = some j → ¬ used j)
    (hnone : firstFree = none → ∀ i ∉ is, used i) :
    Scanned used hit (scanFrom used hit is firstFree) := by
  induction is generalizing firstFree with
  | nil =>
    cases firstFree with
    | none => exact fun i ↦ ⟨hnone rfl i List.not_mem_nil, hmiss i List.not_mem_nil
        (hnone rfl i List.not_mem_nil)⟩
    | some j => exact ⟨hsome j rfl, fun i ↦ hmiss i List.not_mem_nil⟩
  | cons i is ih =>
    have hmem {j : Fin n} (hj : j ∉ is) (hij : j ≠ i) : j ∉ i :: is := by
      simp only [List.mem_cons, hij, hj, or_self, not_false_eq_true]
    rw [scanFrom]
    split
    · rename_i hu
      split
      · rename_i hh
        exact ⟨hu, hh⟩
      · rename_i hh
        apply ih firstFree _ hsome
        · intro hn j hj
          by_cases hij : j = i
          · exact hij ▸ hu
          · exact hnone hn j (hmem hj hij)
        · intro j hj
          by_cases hij : j = i
          · exact fun _ ↦ hij ▸ hh
          · exact hmiss j (hmem hj hij)
    · rename_i hu
      apply ih
      · intro j hj
        by_cases hij : j = i
        · exact fun hj' ↦ absurd (hij ▸ hj') hu
        · exact hmiss j (hmem hj hij)
      · intro j hj
        cases firstFree with
        | none => exact Option.some.inj hj ▸ hu
        | some k => exact hsome j hj
      · intro hn
        cases firstFree <;> cases hn

theorem scan_spec (used hit : Fin n → Bool) : Scanned used hit (scan used hit) :=
  scanFrom_spec used hit _ none (fun i hi ↦ absurd (List.mem_finRange i) hi) (fun _ hj ↦ nomatch hj)
    (fun _ i hi ↦ absurd (List.mem_finRange i) hi)

/-- A table of `n` slots. A slot in use holds a key and a value. -/
abbrev Slots (n : ℕ) (K V : Type) := Fin n → Option (K × V)

def holds (t : Slots n K V) (k : K) (i : Fin n) : Bool := (t i).any fun e ↦ e.1 = k

def find (t : Slots n K V) (k : K) : Option (Fin n) := Fin.find? (holds t k)

def lookup (t : Slots n K V) (k : K) : Option V := (find t k).bind fun i ↦ (t i).map Prod.snd

/-- Put a value under a key: into the key's slot when there is one, else into the first slot not in
use. -/
def store (t : Slots n K V) (k : K) (v : V) : Option (Slots n K V) :=
  match scan (fun i ↦ (t i).isSome) (holds t k) with
  | .found i | .free i => some (update t i (some (k, v)))
  | .full => none

def remove (t : Slots n K V) (k : K) : Option (Slots n K V) :=
  (find t k).map fun i ↦ update t i none

theorem holds_iff {t : Slots n K V} {k : K} {i : Fin n} :
    holds t k i ↔ ∃ v, t i = some (k, v) := by
  cases h : t i with
  | none => simp [holds, h]
  | some e =>
    rcases e with ⟨k', v⟩
    simp [holds, h]

theorem keys_insert (m : Finmap fun _ : K ↦ V) (k : K) (v : V) :
    (m.insert k v).keys = insert k m.keys := by
  ext k'
  rw [Finmap.mem_keys, Finmap.mem_insert, Finset.mem_insert, Finmap.mem_keys]

theorem card_insert_of_mem {m : Finmap fun _ : K ↦ V} {k : K} (v : V) (h : k ∈ m) :
    (m.insert k v).keys.card = m.keys.card := by
  rw [keys_insert, Finset.insert_eq_of_mem (Finmap.mem_keys.mpr h)]

theorem card_insert_of_not_mem {m : Finmap fun _ : K ↦ V} {k : K} (v : V) (h : k ∉ m) :
    (m.insert k v).keys.card = m.keys.card + 1 := by
  rw [keys_insert, Finset.card_insert_of_notMem (mt Finmap.mem_keys.mp h)]

/-- The table is a picture of the finite map `m`: no key has two slots, and the map takes a key to a
value exactly when some slot holds the two. -/
structure Refines (t : Slots n K V) (m : Finmap fun _ : K ↦ V) : Prop where
  unique : ∀ {i j k v v'}, t i = some (k, v) → t j = some (k, v') → i = j
  lookup_iff : ∀ {k v}, m.lookup k = some v ↔ ∃ i, t i = some (k, v)

namespace Refines

variable {t : Slots n K V} {m : Finmap fun _ : K ↦ V}

theorem empty : Refines (fun _ ↦ none : Slots n K V) ∅ where
  unique h := nomatch h
  lookup_iff := by simp

theorem find_eq_some_iff (h : Refines t m) {k : K} {i : Fin n} :
    find t k = some i ↔ ∃ v, t i = some (k, v) := by
  rw [find, Fin.find?_eq_some_iff, holds_iff]
  constructor
  · exact And.left
  · rintro ⟨v, hv⟩
    refine ⟨⟨v, hv⟩, fun j hj ↦ Bool.eq_false_iff.mpr fun hh ↦ ?_⟩
    obtain ⟨v', hv'⟩ := holds_iff.mp hh
    exact hj.ne (h.unique hv' hv)

theorem lookup_eq (h : Refines t m) (k : K) : lookup t k = m.lookup k := by
  apply Option.ext
  intro v
  rw [h.lookup_iff, lookup, Option.bind_eq_some_iff]
  constructor
  · rintro ⟨i, hi, hv⟩
    obtain ⟨v', hv'⟩ := h.find_eq_some_iff.mp hi
    rw [hv', Option.map_some] at hv
    exact ⟨i, hv'.trans (congrArg (fun v ↦ some (k, v)) (Option.some.inj hv))⟩
  · rintro ⟨i, hi⟩
    exact ⟨i, h.find_eq_some_iff.mpr ⟨v, hi⟩, by rw [hi, Option.map_some]⟩

theorem mem_iff (h : Refines t m) {k : K} : k ∈ m ↔ ∃ i v, t i = some (k, v) := by
  rw [Finmap.mem_iff]
  constructor
  · rintro ⟨v, hv⟩
    obtain ⟨i, hi⟩ := h.lookup_iff.mp hv
    exact ⟨i, v, hi⟩
  · rintro ⟨i, v, hi⟩
    exact ⟨v, h.lookup_iff.mpr ⟨i, hi⟩⟩

theorem card_keys (h : Refines t m) :
    m.keys.card = (Finset.univ.filter fun i ↦ (t i).isSome).card := by
  symm
  apply Finset.card_bij fun i hi ↦ ((t i).get (Finset.mem_filter.mp hi).2).1
  · intro i hi
    exact Finmap.mem_keys.mpr (h.mem_iff.mpr ⟨i, _, (Option.some_get _).symm⟩)
  · intro i hi j hj he
    have hi' := (Option.some_get (Finset.mem_filter.mp hi).2).symm
    have hj' := (Option.some_get (Finset.mem_filter.mp hj).2).symm
    exact h.unique (k := ((t i).get _).1) hi' (by rw [he]; exact hj')
  · intro k hk
    obtain ⟨i, v, hi⟩ := h.mem_iff.mp (Finmap.mem_keys.mp hk)
    exact ⟨i, by simp [hi], by simp [hi]⟩

theorem card_le (h : Refines t m) : m.keys.card ≤ n := by
  rw [h.card_keys]
  exact (Finset.card_le_univ _).trans (Fintype.card_fin n).le

theorem card_lt_iff (h : Refines t m) : m.keys.card < n ↔ ∃ i, t i = none := by
  rw [h.card_keys, ← not_le]
  constructor
  · intro hn
    by_contra! hall
    apply hn
    rw [Finset.filter_true_of_mem fun i _ ↦ Option.isSome_iff_ne_none.mpr (hall i),
      Finset.card_univ, Fintype.card_fin]
  · rintro ⟨i, hi⟩ hn
    have hlt := Finset.card_lt_univ_of_notMem
      (s := Finset.univ.filter fun i ↦ (t i).isSome) (x := i) (by simp [hi])
    rw [Fintype.card_fin] at hlt
    exact absurd hn (not_le.mpr hlt)

theorem update_some (h : Refines t m) {i : Fin n} {k : K} (v : V)
    (hi : ∀ j v', t j = some (k, v') → j = i) (hold : ∀ k' v', t i = some (k', v') → k' = k) :
    Refines (update t i (some (k, v))) (m.insert k v) := by
  have hslot {j : Fin n} {k' : K} {v' : V} (hne : k' ≠ k) :
      update t i (some (k, v)) j = some (k', v') ↔ t j = some (k', v') := by
    by_cases hj : j = i
    · subst hj
      rw [update_self]
      exact ⟨fun he ↦ absurd (Prod.mk.inj (Option.some.inj he)).1.symm hne,
        fun he ↦ absurd (hold _ _ he) hne⟩
    · rw [update_of_ne hj]
  have hkey {j : Fin n} {v' : V} :
      update t i (some (k, v)) j = some (k, v') ↔ j = i ∧ v' = v := by
    by_cases hj : j = i
    · subst hj
      simp [eq_comm]
    · rw [update_of_ne hj]
      exact ⟨fun he ↦ absurd (hi j v' he) hj, fun he ↦ absurd he.1 hj⟩
  constructor
  · intro j j' k' v₁ v₂ h₁ h₂
    by_cases hk : k' = k
    · subst hk
      exact (hkey.mp h₁).1.trans (hkey.mp h₂).1.symm
    · exact h.unique ((hslot hk).mp h₁) ((hslot hk).mp h₂)
  · intro k' v'
    by_cases hk : k' = k
    · subst hk
      rw [Finmap.lookup_insert]
      simp only [hkey, exists_eq_left, Option.some.injEq]
      exact eq_comm
    · rw [Finmap.lookup_insert_of_ne _ hk, h.lookup_iff]
      simp only [hslot hk]

/-- A value is stored exactly when its key has an entry or the map has room, and then it is the
key's value; otherwise there is no new table. -/
theorem store_cases (h : Refines t m) (k : K) (v : V) :
    ((k ∈ m ∨ m.keys.card < n) ∧ ∃ t', store t k v = some t' ∧ Refines t' (m.insert k v)) ∨
      (¬ (k ∈ m ∨ m.keys.card < n) ∧ store t k v = none) := by
  have hs := scan_spec (fun i ↦ (t i).isSome) (holds t k)
  rw [store]
  cases he : scan (fun i ↦ (t i).isSome) (holds t k) with
  | found i =>
    rw [he] at hs
    obtain ⟨v', hv'⟩ := holds_iff.mp hs.2
    refine .inl ⟨.inl (h.mem_iff.mpr ⟨i, v', hv'⟩), _, rfl, h.update_some v ?_ ?_⟩
    · exact fun j w hj ↦ h.unique hj hv'
    · intro k' w hi
      exact (Prod.mk.inj (Option.some.inj (hi.symm.trans hv'))).1
  | free i =>
    rw [he] at hs
    have hi : t i = none := by simpa using hs.1
    refine .inl ⟨.inr (h.card_lt_iff.mpr ⟨i, hi⟩), _, rfl, h.update_some v ?_ ?_⟩
    · intro j w hj
      exact absurd (holds_iff.mpr ⟨w, hj⟩) (hs.2 j (by simp [hj]))
    · intro k' w hk
      rw [hi] at hk
      cases hk
  | full =>
    rw [he] at hs
    refine .inr ⟨?_, rfl⟩
    rintro (hk | hk)
    · obtain ⟨i, w, hi⟩ := h.mem_iff.mp hk
      exact (hs i).2 (holds_iff.mpr ⟨w, hi⟩)
    · obtain ⟨i, hi⟩ := h.card_lt_iff.mp hk
      simpa [hi] using (hs i).1

theorem remove_cases (h : Refines t m) (k : K) :
    (k ∈ m ∧ ∃ t', remove t k = some t' ∧ Refines t' (m.erase k)) ∨
      (k ∉ m ∧ remove t k = none) := by
  rw [remove]
  cases he : find t k with
  | none =>
    refine .inr ⟨fun hk ↦ ?_, rfl⟩
    obtain ⟨i, v, hi⟩ := h.mem_iff.mp hk
    exact nomatch he.symm.trans (h.find_eq_some_iff.mpr ⟨v, hi⟩)
  | some i =>
    obtain ⟨v, hv⟩ := h.find_eq_some_iff.mp he
    refine .inl ⟨h.mem_iff.mpr ⟨i, v, hv⟩, _, rfl, ?_⟩
    have hslot {j : Fin n} {k' : K} {v' : V} :
        update t i none j = some (k', v') ↔ k' ≠ k ∧ t j = some (k', v') := by
      by_cases hj : j = i
      · subst hj
        rw [update_self, hv]
        refine ⟨(nomatch ·), fun ⟨hne, heq⟩ ↦ ?_⟩
        exact absurd (Prod.mk.inj (Option.some.inj heq)).1.symm hne
      · rw [update_of_ne hj]
        refine ⟨fun heq ↦ ⟨fun hk ↦ ?_, heq⟩, And.right⟩
        exact hj (h.unique (hk ▸ heq) hv)
    constructor
    · intro j j' k' v₁ v₂ h₁ h₂
      exact h.unique (hslot.mp h₁).2 (hslot.mp h₂).2
    · intro k' v'
      by_cases hk : k' = k
      · subst hk
        simp [hslot]
      · rw [Finmap.lookup_erase_ne hk, h.lookup_iff]
        simp only [hslot, hk, ne_eq, not_false_eq_true, true_and]

end Refines

end SlotTable
