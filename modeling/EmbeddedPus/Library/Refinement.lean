import EmbeddedPus.Library.CallTrace
import Mathlib.Logic.Relation

namespace CallTrace

variable {π κ α β E S O σ : Type}

/-- A specification: a computation over an abstract state that puts values out and calls nothing. -/
abbrev Spec (S O α : Type) := Prog S O Empty α

def Spec.put (o : O) : Spec S O Unit := Prog.act o

def Trace.outputs (t : Trace O Empty) : List O := t.own (fun o ↦ [o]) fun _ ↦ []

@[simp] theorem Trace.outputs_nil : (nil : Trace O Empty).outputs = [] := rfl

@[simp] theorem Trace.outputs_append (t u : Trace O Empty) :
    (t ++ u).outputs = t.outputs ++ u.outputs := Trace.own_append ..

/-- An account of what runs put out: doing nothing puts nothing out, and two runs in sequence put
out one after the other. -/
structure Account (σ π κ O : Type) where
  holds : σ → Trace π κ → σ → List O → Prop
  nil : ∀ s, holds s .nil s []
  append : ∀ {s t s' os t' s'' os'}, holds s t s' os → holds s' t' s'' os' →
    holds s (t ++ t') s'' (os ++ os')

/-- A run that ends as the specification's does: with a value that `V` relates to its value, in a
state that shows the abstract one, and having put out what it puts out. -/
structure Outcome.Meets (K : Account σ π κ O) (R : σ → S → Prop) (V : α → β → Prop) (s : σ)
    (r : Outcome σ π κ α) (q : Outcome S O Empty β) : Prop where
  val : V r.val q.val
  state : R r.state q.state
  output : K.holds s r.trace r.state q.trace.outputs

def Prog.Refines (K : Account σ π κ O) (R : σ → S → Prop) (V : α → β → Prop) (m : Prog σ π κ α)
    (f : Spec S O β) : Prop :=
  ∀ s x, R s x → (m s).Meets K R V s (f x)

variable {K : Account σ π κ O} {R : σ → S → Prop} {V : α → β → Prop} {s : σ} {x : S}

theorem Outcome.Meets.bind {γ δ : Type} {W : γ → δ → Prop} {m : Prog σ π κ α} {f : Spec S O β}
    {n : α → Prog σ π κ γ} {g : β → Spec S O δ} (hm : (m s).Meets K R V s (f x))
    (hn : V (m s).val (f x).val → R (m s).state (f x).state →
      (n (m s).val (m s).state).Meets K R W (m s).state (g (f x).val (f x).state)) :
    ((m >>= n) s).Meets K R W s ((f >>= g) x) := by
  obtain ⟨hval, hstate, hout⟩ := hm
  obtain ⟨hval', hstate', hout'⟩ := hn hval hstate
  refine ⟨hval', hstate', ?_⟩
  rw [Prog.bind_trace, Prog.bind_trace, Trace.outputs_append]
  exact K.append hout hout'

namespace Prog.Refines

variable {γ δ : Type} {W : γ → δ → Prop} {m n : Prog σ π κ α} {f g : Spec S O β}

theorem pure {a : α} {b : β} (h : V a b) :
    Refines K R V (Pure.pure a : Prog σ π κ α) (Pure.pure b) :=
  fun s _ hs ↦ ⟨h, hs, K.nil s⟩

theorem ret (a : α) : Refines K R Eq (Pure.pure a : Prog σ π κ α) (Pure.pure a) := .pure rfl

theorem bind {n : α → Prog σ π κ γ} {g : β → Spec S O δ} (hm : Refines K R V m f)
    (hn : ∀ a b, V a b → Refines K R W (n a) (g b)) : Refines K R W (m >>= n) (f >>= g) :=
  fun s x hs ↦ (hm s x hs).bind fun hv hs' ↦ hn _ _ hv _ _ hs'

theorem result {h : α → γ} {W : γ → β → Prop} (hm : Refines K R V m f)
    (hv : ∀ a b, V a b → W (h a) b) : Refines K R W (m >>= fun a ↦ Pure.pure (h a)) f := by
  have hall : Refines K R W (m >>= fun a ↦ Pure.pure (h a)) (f >>= Pure.pure) :=
    hm.bind fun a b hab ↦ .pure (hv a b hab)
  rwa [bind_pure] at hall

theorem seq {f : Spec S O α} {n : α → Prog σ π κ γ} {g : α → Spec S O δ}
    (hm : Refines K R Eq m f) (hn : ∀ a, Refines K R W (n a) (g a)) :
    Refines K R W (m >>= n) (f >>= g) := by
  apply hm.bind
  rintro a _ rfl
  exact hn a

theorem andThen {ε : Type} {b : β} {f : Spec S O ε} {n : Prog σ π κ γ} {g : Spec S O δ}
    {W : γ → δ → Prop} (hm : Refines K R V m (f >>= fun _ ↦ Pure.pure b))
    (hn : Refines K R W n g) : Refines K R W (m >>= fun _ ↦ n) (f >>= fun _ ↦ g) := by
  have hall : Refines K R W (m >>= fun _ ↦ n) ((f >>= fun _ ↦ Pure.pure b) >>= fun _ ↦ g) :=
    hm.bind fun _ _ _ ↦ hn
  rwa [bind_assoc] at hall

theorem ite {c d : Prop} [Decidable c] [Decidable d] (hcd : c ↔ d)
    (hm : d → Refines K R V m f) (hn : ¬ d → Refines K R V n g) :
    Refines K R V (if c then m else n) (if d then f else g) := by
  by_cases hd : d
  · rw [if_pos (hcd.mpr hd), if_pos hd]
    exact hm hd
  · rw [if_neg (mt hcd.mp hd), if_neg hd]
    exact hn hd

theorem get {f : σ → Prog σ π κ α} {g : S → Spec S O β}
    (h : ∀ s x, R s x → Refines K R V (f s) (g x)) :
    Refines K R V (Prog.get >>= f) (Prog.get >>= g) :=
  fun s x hs ↦ h s x hs s x hs

/-- What comes first may be anything that neither shows nor puts anything out. -/
theorem silent {p : Prog σ π κ γ} {n : γ → Prog σ π κ α}
    (hp : ∀ s x, R s x → R (p s).state x ∧ K.holds s (p s).trace (p s).state [])
    (hn : ∀ s x, R s x → (n (p s).val (p s).state).Meets K R V (p s).state (f x)) :
    Refines K R V (p >>= n) f := by
  intro s x hs
  obtain ⟨-, hout⟩ := hp s x hs
  obtain ⟨hval, hstate, hout'⟩ := hn s x hs
  exact ⟨hval, hstate, K.append hout hout'⟩

theorem call {label : σ → α → κ}
    (hl : ∀ s t s' a os, K.holds s t s' os → K.holds s (.call (label s a) t .nil) s' os)
    (hm : Refines K R V m f) : Refines K R V (Prog.call label m) f := by
  intro s x hs
  obtain ⟨hval, hstate, hout⟩ := hm s x hs
  exact ⟨hval, hstate, hl _ _ _ _ _ hout⟩

end Prog.Refines

section Specifications

variable {T : Type}

def told (S O : Type) : Account S O Empty O where
  holds _ t _ os := t.outputs = os
  nil _ := rfl
  append h h' := by rw [Trace.outputs_append, h, h']

theorem Prog.Refines.put {R : S → T → Prop} (o : O) :
    Prog.Refines (told S O) R Eq (Spec.put o) (Spec.put o) := fun _ _ hs ↦ ⟨rfl, hs, rfl⟩

theorem Prog.Refines.trans {Q : S → T → Prop} {m : Prog σ π κ α} {f : Spec S O α} {g : Spec T O α}
    (hm : Prog.Refines K R Eq m f) (hf : Prog.Refines (told S O) Q Eq f g) :
    Prog.Refines K (Relation.Comp R Q) Eq m g := by
  rintro s y ⟨x, hs, hx⟩
  obtain ⟨hval, hstate, hout⟩ := hm s x hs
  obtain ⟨hval', hstate', hout'⟩ := hf x y hx
  have hout' : (f x).trace.outputs = (g y).trace.outputs := hout'
  refine ⟨hval.trans hval', ⟨_, hstate, hstate'⟩, ?_⟩
  rwa [← hout']

end Specifications

def Prog.each (f : E → Prog σ π κ α) : List E → Prog σ π κ (List α)
  | [] => pure []
  | e :: es => do
    let a ← f e
    let as ← Prog.each f es
    pure (a :: as)

theorem Prog.each_map {F : Type} (f : E → Prog σ π κ α) (g : F → E) (es : List F) :
    Prog.each f (es.map g) = Prog.each (fun e ↦ f (g e)) es := by
  induction es with
  | nil => rfl
  | cons e es ih => rw [List.map_cons, Prog.each, ih, Prog.each]

/-- A refinement of the steps is one of the runs. -/
theorem Prog.Refines.each {f : E → Prog σ π κ α} {g : E → Spec S O α} (es : List E)
    (h : ∀ e ∈ es, Prog.Refines K R Eq (f e) (g e)) :
    Prog.Refines K R Eq (Prog.each f es) (Prog.each g es) := by
  induction es with
  | nil => exact .ret []
  | cons e es ih =>
    obtain ⟨he, hes⟩ := List.forall_mem_cons.mp h
    exact .seq he fun a ↦ .seq (ih hes) fun as ↦ .ret (a :: as)

end CallTrace
