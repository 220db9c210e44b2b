import EmbeddedPus.Library.CallTrace

namespace CallTrace

variable {π κ σ α β : Type}

/-- All that happened was allowed, inside the calls too. -/
def Trace.All (p : π → Prop) (q : κ → Prop) : Trace π κ → Prop
  | .nil => True
  | .act a t => p a ∧ t.All p q
  | .call f i t => q f ∧ i.All p q ∧ t.All p q

section All

variable {p : π → Prop} {q : κ → Prop} {t u : Trace π κ}

@[simp] theorem Trace.all_nil : (nil : Trace π κ).All p q := trivial

@[simp] theorem Trace.all_act {a : π} : (act a t).All p q ↔ p a ∧ t.All p q := Iff.rfl

@[simp] theorem Trace.all_call {f : κ} {i : Trace π κ} :
    (call f i t).All p q ↔ q f ∧ i.All p q ∧ t.All p q := Iff.rfl

@[simp] theorem Trace.all_append : (t ++ u).All p q ↔ t.All p q ∧ u.All p q := by
  induction t with
  | nil => rw [nil_append, iff_true_intro all_nil, true_and]
  | act a t ih => rw [act_append, all_act, all_act, ih, and_assoc]
  | call f i t _ ih => rw [call_append, all_call, all_call, ih, and_assoc, and_assoc]

theorem Trace.All.act_mem (h : t.All p q) {g : π → List β} {b : β}
    (hb : b ∈ t.deep g fun _ ↦ []) : ∃ a, p a ∧ b ∈ g a := by
  induction t with
  | nil => cases hb
  | act a t ih =>
    rw [deep_act, List.mem_append] at hb
    obtain hb | hb := hb
    · exact ⟨a, h.1, hb⟩
    · exact ih h.2 hb
  | call f i t ihi iht =>
    rw [deep_call, List.nil_append, List.mem_append] at hb
    obtain hb | hb := hb
    · exact ihi h.2.1 hb
    · exact iht h.2.2 hb

theorem Trace.All.call_mem (h : t.All p q) {g : κ → List β} {b : β}
    (hb : b ∈ t.deep (fun _ ↦ []) g) : ∃ f, q f ∧ b ∈ g f := by
  induction t with
  | nil => cases hb
  | act a t ih => exact ih h.2 hb
  | call f i t ihi iht =>
    rw [deep_call, List.mem_append, List.mem_append] at hb
    obtain (hb | hb) | hb := hb
    · exact ⟨f, h.1, hb⟩
    · exact ihi h.2.1 hb
    · exact iht h.2.2 hb

end All

/-- What computations are to keep to: an invariant of the state, and the actions and calls that are
allowed. -/
structure Policy (σ π κ : Type) where
  inv : σ → Prop
  act : π → Prop
  call : κ → Prop

/-- Started where the invariant holds, the computation keeps it, does nothing but what is allowed,
and returns a value in `Q`. -/
def Prog.Safe (P : Policy σ π κ) (Q : α → Prop) (m : Prog σ π κ α) : Prop :=
  ∀ s, P.inv s → Q (m s).val ∧ P.inv (m s).state ∧ (m s).trace.All P.act P.call

namespace Prog.Safe

variable {P : Policy σ π κ} {Q : α → Prop} {R : β → Prop} {m n : Prog σ π κ α}
  {f : α → Prog σ π κ β}

theorem pure {a : α} (h : Q a) : Safe P Q (Pure.pure a : Prog σ π κ α) :=
  fun _ hs ↦ ⟨h, hs, trivial⟩

theorem bind (hm : Safe P Q m) (hf : ∀ a, Q a → Safe P R (f a)) : Safe P R (m >>= f) := by
  intro s hs
  obtain ⟨hval, hstate, htrace⟩ := hm s hs
  obtain ⟨hval', hstate', htrace'⟩ := hf _ hval _ hstate
  exact ⟨hval', hstate', Trace.all_append.mpr ⟨htrace, htrace'⟩⟩

theorem seq (hm : Safe P Q m) (hf : ∀ a, Safe P R (f a)) : Safe P R (m >>= f) :=
  hm.bind fun a _ ↦ hf a

theorem ite {c : Prop} [Decidable c] (hm : c → Safe P Q m) (hn : ¬ c → Safe P Q n) :
    Safe P Q (if c then m else n) := by
  split
  · rename_i h
    exact hm h
  · rename_i h
    exact hn h

theorem get : Safe P P.inv (Prog.get : Prog σ π κ σ) := fun _ hs ↦ ⟨hs, hs, trivial⟩

theorem modify {g : σ → σ} (h : ∀ s, P.inv s → P.inv (g s)) :
    Safe P (fun _ ↦ True) (Prog.modify g : Prog σ π κ Unit) :=
  fun s hs ↦ ⟨trivial, h s hs, trivial⟩

theorem act {a : π} (h : P.act a) : Safe P (fun _ ↦ True) (Prog.act a : Prog σ π κ Unit) :=
  fun _ hs ↦ ⟨trivial, hs, h, trivial⟩

theorem call {label : σ → α → κ} (h : ∀ s a, P.inv s → Q a → P.call (label s a))
    (hm : Safe P Q m) : Safe P Q (Prog.call label m) := by
  intro s hs
  obtain ⟨hval, hstate, htrace⟩ := hm s hs
  exact ⟨hval, hstate, h s _ hs hval, htrace, trivial⟩

end Prog.Safe

end CallTrace
