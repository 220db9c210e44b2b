import Mathlib.Data.List.Basic

namespace Buffer

variable {α : Type}

/-- Store `xs` from offset `off` of a fixed-size buffer. What would fall past the end of the
buffer is dropped. -/
def writeAt (buf : List α) (off : ℕ) (xs : List α) : List α :=
  buf.take off ++ xs.take (buf.length - off) ++ buf.drop (off + xs.length)

@[simp] theorem length_writeAt (buf : List α) (off : ℕ) (xs : List α) :
    (writeAt buf off xs).length = buf.length := by
  simp only [writeAt, List.length_append, List.length_take, List.length_drop]
  omega

theorem take_writeAt_of_le {buf : List α} {off n : ℕ} {xs : List α} (hn : n ≤ xs.length)
    (h : off + n ≤ buf.length) :
    (writeAt buf off xs).take (off + n) = buf.take off ++ xs.take n := by
  have hoff : (buf.take off).length = off := by
    rw [List.length_take]
    omega
  have hx : (xs.take (buf.length - off)).take n = xs.take n := by
    rw [List.take_take, Nat.min_eq_left (by omega)]
  have hlen : n ≤ (xs.take (buf.length - off)).length := by
    rw [List.length_take]
    omega
  rw [writeAt, List.append_assoc, List.take_append, hoff, Nat.add_sub_cancel_left,
    List.take_append_of_le_length hlen, hx, List.take_of_length_le (by omega)]

/-- A buffer filled up to `off` is filled further by storing at `off`. -/
theorem take_writeAt {buf : List α} {off n : ℕ} {xs : List α} (hn : n = off + xs.length)
    (h : n ≤ buf.length) : (writeAt buf off xs).take n = buf.take off ++ xs := by
  subst hn
  rw [take_writeAt_of_le (Nat.le_refl _) h, List.take_length]

theorem writeAt_zero {buf xs : List α} (h : xs.length ≤ buf.length) :
    writeAt buf 0 xs = xs ++ buf.drop xs.length := by
  simp only [writeAt, List.take_zero, List.nil_append, Nat.sub_zero, Nat.zero_add,
    List.take_of_length_le h]

theorem drop_writeAt {buf : List α} {off n : ℕ} {xs : List α} (hn : off + xs.length ≤ n)
    (h : off + xs.length ≤ buf.length) : (writeAt buf off xs).drop n = buf.drop n := by
  have hx : xs.take (buf.length - off) = xs := List.take_of_length_le (by omega)
  have hl : (buf.take off ++ xs).length = off + xs.length := by
    simp only [List.length_append, List.length_take]
    omega
  rw [writeAt, hx, List.drop_append, hl, List.drop_of_length_le (by omega), List.drop_drop,
    List.nil_append]
  congr 1
  omega

theorem writeAt_writeAt {buf : List α} {off off' : ℕ} {xs : List α} (ys : List α)
    (hoff : off' = off + xs.length) (h : off + xs.length ≤ buf.length) :
    writeAt (writeAt buf off xs) off' ys = writeAt buf off (xs ++ ys) := by
  subst hoff
  have hx : xs.take (buf.length - off) = xs := List.take_of_length_le (by omega)
  rw [writeAt, take_writeAt rfl h, length_writeAt, drop_writeAt (by omega) h, writeAt,
    List.take_append, hx, List.length_append]
  simp only [List.append_assoc, Nat.add_assoc, Nat.sub_sub]

end Buffer
