import EmbeddedPus.Library.Refinement
import Mathlib.Logic.Function.Basic

namespace CallTrace

open Function

variable {π κ σ ι E O α : Type}

/-- The account of one party when the others meanwhile put nothing out. -/
def Account.only (K : ι → Account σ π κ O) (i : ι) : Account σ π κ O where
  holds s t s' os := (K i).holds s t s' os ∧ ∀ j, j ≠ i → (K j).holds s t s' []
  nil s := ⟨(K i).nil s, fun j _ ↦ (K j).nil s⟩
  append h h' := ⟨(K i).append h.1 h'.1, fun j hj ↦ (K j).append (h.2 j hj) (h'.2 j hj)⟩

theorem Prog.Refines.only {S β : Type} {K : ι → Account σ π κ O} {R : σ → S → Prop}
    {V : α → β → Prop} {i : ι} {m : Prog σ π κ α} {f : Spec S O β} (h : m.Refines (K i) R V f)
    (hj : ∀ s x, R s x → ∀ j, j ≠ i → (K j).holds s (m s).trace (m s).state []) :
    m.Refines (.only K i) R V f := by
  intro s x hs
  obtain ⟨hval, hstate, hout⟩ := h s x hs
  exact ⟨hval, hstate, hout, hj s x hs⟩

def Prog.interleaved (f : ι → E → Prog σ π κ α) (es : List (ι × E)) : Prog σ π κ (List (ι × α)) :=
  Prog.each (fun e ↦ Prod.mk e.1 <$> f e.1 e.2) es

theorem Prog.interleaved_cons (f : ι → E → Prog σ π κ α) (i : ι) (e : E) (es : List (ι × E)) :
    Prog.interleaved f ((i, e) :: es) =
      f i e >>= fun a ↦ Prog.interleaved f es >>= fun as ↦ pure ((i, a) :: as) := by
  rw [interleaved, Prog.each, map_eq_pure_bind, bind_assoc]
  simp only [pure_bind]
  rfl

variable [DecidableEq ι] {S : ι → Type}

def part (i : ι) (es : List (ι × E)) : List E :=
  es.filterMap fun e ↦ if e.1 = i then some e.2 else none

@[simp] theorem part_nil (i : ι) : part i ([] : List (ι × E)) = [] := rfl

@[simp] theorem part_cons_self (i : ι) (e : E) (es : List (ι × E)) :
    part i ((i, e) :: es) = e :: part i es := by
  rw [part, List.filterMap_cons, if_pos rfl]
  rfl

theorem part_cons_of_ne {i j : ι} (h : i ≠ j) (e : E) (es : List (ι × E)) :
    part j ((i, e) :: es) = part j es := by
  rw [part, List.filterMap_cons, if_neg h]
  rfl

/-- What all parties show when the others stay as they are in `x`. -/
def among (R : (i : ι) → σ → S i → Prop) (x : (i : ι) → S i) (i : ι) (s : σ) (a : S i) : Prop :=
  ∀ j, R j s (update x i a j)

theorem among_self {R : (i : ι) → σ → S i → Prop} {x : (i : ι) → S i} {s : σ}
    (h : ∀ j, R j s (x j)) (i : ι) : among R x i s (x i) := by
  intro j
  rw [update_eq_self]
  exact h j

theorem among.own {R : (i : ι) → σ → S i → Prop} {x : (i : ι) → S i} {i : ι} {s : σ} {a : S i}
    (h : among R x i s a) : R i s a := by
  have hi := h i
  rwa [update_self] at hi

/-- When each step is that of its party and leaves the others alone, every party sees in an
interleaved run what it would see if its own events were all there are. -/
theorem Prog.Refines.interleaved {K : ι → Account σ π κ O} {R : (i : ι) → σ → S i → Prop}
    {f : ι → E → Prog σ π κ α} {g : (i : ι) → E → Spec (S i) O α} {es : List (ι × E)}
    (h : ∀ e ∈ es, ∀ x, (f e.1 e.2).Refines (.only K e.1) (among R x e.1) Eq (g e.1 e.2))
    {s : σ} {x : (i : ι) → S i} (hs : ∀ i, R i s (x i)) (i : ι) :
    (Prog.interleaved f es s).Meets (K i) (R i) (fun as bs ↦ part i as = bs) s
      (Prog.each (g i) (part i es) (x i)) := by
  induction es generalizing s x with
  | nil => exact ⟨rfl, hs i, (K i).nil s⟩
  | cons e es ih =>
    obtain ⟨i₀, e⟩ := e
    obtain ⟨he, hes⟩ := List.forall_mem_cons.mp h
    dsimp only at he
    obtain ⟨hval, hstate, hout, hquiet⟩ := he x s (x i₀) (among_self hs i₀)
    have hrest := ih hes hstate
    rw [Prog.interleaved_cons]
    by_cases hi : i₀ = i
    · subst hi
      rw [update_self] at hrest
      rw [part_cons_self]
      obtain ⟨hvals, hstates, houts⟩ := hrest
      refine ⟨?_, hstates, ?_⟩
      · simp only [Prog.bind_val, Prog.pure_apply, part_cons_self, hvals, hval, Prog.each]
      · simp only [Prog.bind_trace, Prog.pure_apply, Trace.append_nil, Prog.each,
          Trace.outputs_append]
        exact (K i₀).append hout houts
    · rw [update_of_ne (Ne.symm hi)] at hrest
      rw [part_cons_of_ne hi]
      obtain ⟨hvals, hstates, houts⟩ := hrest
      refine ⟨?_, hstates, ?_⟩
      · simp only [Prog.bind_val, Prog.pure_apply, part_cons_of_ne hi, hvals]
      · simp only [Prog.bind_trace, Prog.pure_apply, Trace.append_nil]
        exact (K i).append (hquiet i (Ne.symm hi)) houts

end CallTrace
