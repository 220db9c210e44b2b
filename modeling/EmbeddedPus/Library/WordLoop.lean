import Mathlib.Algebra.Group.Nat.Defs
import Mathlib.Data.List.FinRange
import Mathlib.Data.List.Nodup
import Mathlib.Logic.Function.Iterate

namespace WordLoop

variable {w n : ℕ} {σ β : Type}

/-- A loop over the indices below `n`, with an index of `w` bits: what its body does with an index
and the loop's variables, which is to change them or to leave the loop with a result, and what the
loop results in when the index has passed the bound. -/
structure Loop (n : ℕ) (σ β : Type) where
  body : Fin n → σ → σ ⊕ β
  exit : σ → β

inductive State (w : ℕ) (σ β : Type)
  | running (i : BitVec w) (s : σ)
  | done (b : β)

namespace Loop

variable (L : Loop n σ β)

def step : State w σ β → State w σ β
  | .running i s =>
    if h : i.toNat < n then
      match L.body ⟨i.toNat, h⟩ s with
      | .inl s' => .running (i + 1) s'
      | .inr b => .done b
    else .done (L.exit s)
  | .done b => .done b

def examined : ℕ → State w σ β → List (Fin n)
  | 0, _ => []
  | _ + 1, .done _ => []
  | k + 1, .running i s =>
    if h : i.toNat < n then ⟨i.toNat, h⟩ :: examined k (L.step (.running i s)) else []

variable (w) in
/-- The loop comes to an end with `b`, having examined no index twice. -/
def EndsOnce (s : σ) (b : β) : Prop :=
  ∃ k, L.step^[k] (.running (0 : BitVec w) s) = .done b ∧
    (L.examined k (.running (0 : BitVec w) s)).Nodup

variable (w) in
def Diverges (s : σ) : Prop := ∀ k, ∃ i s', L.step^[k] (.running (0 : BitVec w) s) = .running i s'

/-- What the loop results in when its index never wraps: the indices one after the other. -/
def sweep : List (Fin n) → σ → β
  | [], s => L.exit s
  | i :: is, s =>
    match L.body i s with
    | .inl s' => sweep is s'
    | .inr b => b

def LeavesAt (p : Fin n → Bool) : Prop := ∀ i s, (L.body i s).isRight = p i

variable {L}

theorem iterate_done (k : ℕ) (b : β) : L.step^[k] (.done b : State w σ β) = .done b := by
  induction k with
  | zero => rfl
  | succ k ih => rw [Function.iterate_succ_apply]; exact ih

theorem toNat_ofNat {i : ℕ} (h : i < 2 ^ w) : (BitVec.ofNat w i).toNat = i := by
  rw [BitVec.toNat_ofNat, Nat.mod_eq_of_lt h]

theorem step_done {i : ℕ} {s : σ} (hi : i < 2 ^ w) (h : n ≤ i) :
    L.step (.running (BitVec.ofNat w i) s) = .done (L.exit s) := by
  have hn : ¬ (BitVec.ofNat w i).toNat < n := by
    rw [toNat_ofNat hi]
    exact Nat.not_lt.mpr h
  rw [step, dif_neg hn]

theorem step_body {i : ℕ} {s : σ} (hi : i < 2 ^ w) (h : i < n) :
    L.step (.running (BitVec.ofNat w i) s) =
      match L.body ⟨i, h⟩ s with
      | .inl s' => .running (BitVec.ofNat w (i + 1)) s'
      | .inr b => .done b := by
  have hi' := toNat_ofNat hi
  have hlt : (BitVec.ofNat w i).toNat < n := by rwa [hi']
  have hfin : (⟨(BitVec.ofNat w i).toNat, hlt⟩ : Fin n) = ⟨i, h⟩ := Fin.ext hi'
  rw [step, dif_pos hlt, hfin, ← BitVec.ofNat_add_ofNat]
  rfl

theorem examined_body {i : ℕ} {s : σ} (hi : i < 2 ^ w) (h : i < n) (k : ℕ) :
    L.examined (k + 1) (.running (BitVec.ofNat w i) s) =
      ⟨i, h⟩ :: L.examined k (L.step (.running (BitVec.ofNat w i) s)) := by
  have hi' := toNat_ofNat hi
  have hlt : (BitVec.ofNat w i).toNat < n := by rwa [hi']
  have hfin : (⟨(BitVec.ofNat w i).toNat, hlt⟩ : Fin n) = ⟨i, h⟩ := Fin.ext hi'
  rw [examined, dif_pos hlt, hfin]

theorem drop_finRange {i : ℕ} (h : i < n) :
    (List.finRange n).drop i = ⟨i, h⟩ :: (List.finRange n).drop (i + 1) := by
  rw [List.drop_eq_getElem_cons (by rwa [List.length_finRange]), List.getElem_finRange]
  rfl

variable (L w) in
def EndsFrom (i : ℕ) (s : σ) (b : β) : Prop :=
  ∃ k, L.step^[k] (.running (BitVec.ofNat w i) s) = .done b ∧
    (L.examined k (.running (BitVec.ofNat w i) s)).Nodup ∧
    ∀ x ∈ L.examined k (.running (BitVec.ofNat w i) s), i ≤ x.val

theorem endsFrom_exit {i : ℕ} {s : σ} (hi : i < 2 ^ w) (h : n ≤ i) :
    L.EndsFrom w i s (L.exit s) := by
  have hnone : L.examined 1 (.running (BitVec.ofNat w i) s) = [] := by
    rw [examined, dif_neg]
    rw [toNat_ofNat hi]
    exact Nat.not_lt.mpr h
  refine ⟨1, step_done hi h, ?_, ?_⟩
  · rw [hnone]
    exact List.nodup_nil
  · rw [hnone]
    exact List.forall_mem_nil _

theorem endsFrom_leave {i : ℕ} {s : σ} {b : β} (hi : i < 2 ^ w) (h : i < n)
    (hb : L.body ⟨i, h⟩ s = .inr b) : L.EndsFrom w i s b := by
  refine ⟨1, ?_, ?_, ?_⟩
  · rw [Function.iterate_one, step_body hi h, hb]
  · rw [examined_body hi h]
    exact List.nodup_singleton _
  · rw [examined_body hi h]
    exact List.forall_mem_singleton.mpr le_rfl

theorem EndsFrom.next {i : ℕ} {s s' : σ} {b : β} (hi : i < 2 ^ w) (h : i < n)
    (hb : L.body ⟨i, h⟩ s = .inl s') (hend : L.EndsFrom w (i + 1) s' b) : L.EndsFrom w i s b := by
  obtain ⟨k, hk, hnodup, hge⟩ := hend
  have hstep : L.step (.running (BitVec.ofNat w i) s) = .running (BitVec.ofNat w (i + 1)) s' := by
    rw [step_body hi h, hb]
  refine ⟨k + 1, ?_, ?_, ?_⟩
  · rw [Function.iterate_succ_apply, hstep, hk]
  · rw [examined_body hi h, hstep]
    refine List.nodup_cons.mpr ⟨fun hmem ↦ ?_, hnodup⟩
    exact absurd (hge _ hmem) (Nat.not_succ_le_self i)
  · rw [examined_body hi h, hstep]
    refine List.forall_mem_cons.mpr ⟨le_rfl, fun x hx ↦ ?_⟩
    exact (Nat.le_succ i).trans (hge x hx)

/-- A loop that meets its bound or leaves its body before the index wraps does what the indices in
turn do. -/
theorem endsFrom_sweep {p : Fin n → Bool} (hp : L.LeavesAt p) (d i : ℕ) (s : σ) (hd : i + d = n)
    (hi : i < 2 ^ w) (hend : n < 2 ^ w ∨ ∃ j : Fin n, i ≤ j.val ∧ j.val < 2 ^ w ∧ p j) :
    L.EndsFrom w i s (L.sweep ((List.finRange n).drop i) s) := by
  induction d generalizing i s with
  | zero =>
    have hdrop : (List.finRange n).drop i = [] := by
      rw [List.drop_eq_nil_iff, List.length_finRange]
      omega
    rw [hdrop]
    exact endsFrom_exit hi (by omega)
  | succ d ih =>
    have hin : i < n := by omega
    rw [drop_finRange hin, sweep]
    cases hb : L.body ⟨i, hin⟩ s with
    | inr b => exact endsFrom_leave hi hin hb
    | inl s' =>
      have hpi : ¬ p ⟨i, hin⟩ := by
        rw [← hp ⟨i, hin⟩ s, hb]
        exact Bool.false_ne_true
      have hend' : n < 2 ^ w ∨ ∃ j : Fin n, i + 1 ≤ j.val ∧ j.val < 2 ^ w ∧ p j := by
        obtain hn | ⟨j, hij, hj, hpj⟩ := hend
        · exact .inl hn
        · have hne : i ≠ j.val := by
            rintro rfl
            exact hpi hpj
          exact .inr ⟨j, by omega, hj, hpj⟩
      have hi' : i + 1 < 2 ^ w := by
        obtain hn | ⟨j, hij, hj, -⟩ := hend'
        · omega
        · omega
      exact (ih (i + 1) s' (by omega) hi' hend').next hi hin hb

theorem endsOnce_sweep {p : Fin n → Bool} (hp : L.LeavesAt p) (s : σ)
    (h : n < 2 ^ w ∨ ∃ i : Fin n, i.val < 2 ^ w ∧ p i) :
    L.EndsOnce w s (L.sweep (List.finRange n) s) := by
  obtain ⟨k, hk, hnodup, -⟩ := endsFrom_sweep hp n 0 s (Nat.zero_add n) (Nat.two_pow_pos w)
    (h.imp_right fun ⟨i, hi⟩ ↦ ⟨i, Nat.zero_le _, hi⟩)
  exact ⟨k, hk, hnodup⟩

theorem diverges {p : Fin n → Bool} (hp : L.LeavesAt p) (s : σ) (hn : 2 ^ w ≤ n)
    (h : ∀ i : Fin n, i.val < 2 ^ w → ¬ p i) : L.Diverges w s := by
  intro k
  induction k with
  | zero => exact ⟨0, s, rfl⟩
  | succ k ih =>
    obtain ⟨i, s', hk⟩ := ih
    have hi : i.toNat < n := i.isLt.trans_le hn
    rw [Function.iterate_succ_apply', hk, step, dif_pos hi]
    have hno := h ⟨i.toNat, hi⟩ i.isLt
    rw [← hp _ s'] at hno
    cases hb : L.body ⟨i.toNat, hi⟩ s' with
    | inl s'' => exact ⟨i + 1, s'', rfl⟩
    | inr b =>
      rw [hb] at hno
      exact absurd rfl hno

theorem Diverges.not_endsOnce {s : σ} (h : L.Diverges w s) (b : β) : ¬ L.EndsOnce w s b := by
  rintro ⟨k, hk, -⟩
  obtain ⟨i, s', hrun⟩ := h k
  exact nomatch hk.symm.trans hrun

/-- The loop ends exactly when its index reaches the bound, or its body is left, before the index
wraps. -/
theorem endsOnce_iff {p : Fin n → Bool} (hp : L.LeavesAt p) (s : σ) :
    (∃ b, L.EndsOnce w s b) ↔ n < 2 ^ w ∨ ∃ i : Fin n, i.val < 2 ^ w ∧ p i := by
  constructor
  · rintro ⟨b, hb⟩
    by_contra! hno
    exact (diverges hp s hno.1 hno.2).not_endsOnce b hb
  · intro h
    exact ⟨_, endsOnce_sweep hp s h⟩

theorem EndsOnce.unique {s : σ} {b b' : β} (h : L.EndsOnce w s b) (h' : L.EndsOnce w s b') :
    b = b' := by
  obtain ⟨k, hk, -⟩ := h
  obtain ⟨k', hk', -⟩ := h'
  have hb : L.step^[k' + k] (.running (0 : BitVec w) s) = .done b := by
    rw [Function.iterate_add_apply, hk, iterate_done]
  have hb' : L.step^[k + k'] (.running (0 : BitVec w) s) = .done b' := by
    rw [Function.iterate_add_apply, hk', iterate_done]
  rw [Nat.add_comm, hb'] at hb
  exact (State.done.inj hb).symm

end Loop

end WordLoop
