import Mathlib.Data.List.Basic

namespace Numbering

variable {M next : ℕ} {is : List ℕ}

/-- Places in a stream, in order, with fewer than `M` left out before each. -/
inductive Spaced (M : ℕ) : ℕ → List ℕ → Prop
  | nil (next : ℕ) : Spaced M next []
  | cons {next i : ℕ} {is : List ℕ} :
      next ≤ i → i < next + M → Spaced M (i + 1) is → Spaced M next (i :: is)

/-- The places of items that come with their places modulo `M`: for each the first one with that
number, from the place behind the last on. -/
def locate (M : ℕ) : ℕ → List ℕ → List ℕ
  | _, [] => []
  | next, n :: ns =>
    let i := next + (n + (M - next % M)) % M
    i :: locate M (i + 1) ns

theorem first_place {i : ℕ} (hi : next ≤ i) (hlt : i < next + M) :
    next + (i % M + (M - next % M)) % M = i := by
  obtain ⟨d, rfl⟩ := Nat.exists_eq_add_of_le hi
  have hd : d < M := Nat.lt_of_add_lt_add_left hlt
  have ha : next % M < M := Nat.mod_lt _ (Nat.zero_lt_of_lt hd)
  have hmod : (next + d) % M = (next % M + d) % M := by
    rw [Nat.add_mod, Nat.mod_eq_of_lt hd]
  rw [hmod]
  congr 1
  by_cases hwrap : next % M + d < M
  · have hsum : next % M + d + (M - next % M) = d + M := by omega
    rw [Nat.mod_eq_of_lt hwrap, hsum, Nat.add_mod_right, Nat.mod_eq_of_lt hd]
  · have hsub : (next % M + d) % M = next % M + d - M := by
      rw [Nat.mod_eq_sub_mod (Nat.le_of_not_lt hwrap), Nat.mod_eq_of_lt (by omega)]
    have hsum : next % M + d - M + (M - next % M) = d := by omega
    rw [hsub, hsum, Nat.mod_eq_of_lt hd]

theorem spaced_locate (hM : 0 < M) (ns : List ℕ) : Spaced M next (locate M next ns) := by
  induction ns generalizing next with
  | nil => exact .nil next
  | cons n ns ih =>
    apply Spaced.cons
    · exact Nat.le_add_right _ _
    · exact Nat.add_lt_add_left (Nat.mod_lt _ hM) _
    · exact ih

theorem locate_eq_iff (hM : 0 < M) : locate M next (is.map (· % M)) = is ↔ Spaced M next is := by
  constructor
  · intro h
    rw [← h]
    exact spaced_locate hM _
  · intro h
    induction h with
    | nil => rfl
    | cons hi hlt _ ih =>
      rw [List.map_cons, locate, first_place hi hlt, ih]

end Numbering
