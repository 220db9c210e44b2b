import Mathlib.Data.List.Basic

namespace CallTrace

variable {π κ β : Type}

/-- What a computation did, in order: its own actions, and its calls into foreign code, each
with the trace of what the called code did before it returned. -/
inductive Trace (π κ : Type)
  | nil : Trace π κ
  | act : π → Trace π κ → Trace π κ
  | call : κ → Trace π κ → Trace π κ → Trace π κ
  deriving DecidableEq, Repr

namespace Trace

def append : Trace π κ → Trace π κ → Trace π κ
  | .nil, u => u
  | .act a t, u => .act a (t.append u)
  | .call f i t, u => .call f i (t.append u)

instance : Append (Trace π κ) := ⟨append⟩

@[simp] theorem nil_append (t : Trace π κ) : .nil ++ t = t := rfl

@[simp] theorem act_append (a : π) (t u : Trace π κ) : .act a t ++ u = .act a (t ++ u) := rfl

@[simp] theorem call_append (f : κ) (i t u : Trace π κ) :
    .call f i t ++ u = .call f i (t ++ u) := rfl

@[simp] theorem append_nil (t : Trace π κ) : t ++ .nil = t := by
  induction t with
  | nil => rfl
  | act a t ih => rw [act_append, ih]
  | call f i t _ ih => rw [call_append, ih]

theorem append_assoc (t u v : Trace π κ) : t ++ u ++ v = t ++ (u ++ v) := by
  induction t with
  | nil => rfl
  | act a t ih => simp only [act_append, ih]
  | call f i t _ ih => simp only [call_append, ih]

/-- What the computation did itself; what happened inside its calls is left out. -/
def own (g : π → List β) (h : κ → List β) : Trace π κ → List β
  | .nil => []
  | .act a t => g a ++ t.own g h
  | .call f _ t => h f ++ t.own g h

/-- Everything that happened, inside the calls too, in order. A call comes before what the
called code did. -/
def deep (g : π → List β) (h : κ → List β) : Trace π κ → List β
  | .nil => []
  | .act a t => g a ++ t.deep g h
  | .call f i t => h f ++ i.deep g h ++ t.deep g h

/-- What the computation did itself and inside the calls that `p` picks out, in order. -/
def through (p : κ → Bool) (g : π → List β) (h : κ → List β) : Trace π κ → List β
  | .nil => []
  | .act a t => g a ++ t.through p g h
  | .call f i t => h f ++ (if p f then i.through p g h else []) ++ t.through p g h

variable (g : π → List β) (h : κ → List β)

@[simp] theorem own_nil : (nil : Trace π κ).own g h = [] := rfl

@[simp] theorem own_act (a : π) (t : Trace π κ) : (act a t).own g h = g a ++ t.own g h := rfl

@[simp] theorem own_call (f : κ) (i t : Trace π κ) :
    (call f i t).own g h = h f ++ t.own g h := rfl

@[simp] theorem own_append (t u : Trace π κ) : (t ++ u).own g h = t.own g h ++ u.own g h := by
  induction t with
  | nil => rfl
  | act a t ih => simp only [act_append, own_act, ih, List.append_assoc]
  | call f i t _ ih => simp only [call_append, own_call, ih, List.append_assoc]

@[simp] theorem deep_nil : (nil : Trace π κ).deep g h = [] := rfl

@[simp] theorem deep_act (a : π) (t : Trace π κ) : (act a t).deep g h = g a ++ t.deep g h := rfl

@[simp] theorem deep_call (f : κ) (i t : Trace π κ) :
    (call f i t).deep g h = h f ++ i.deep g h ++ t.deep g h := rfl

@[simp] theorem deep_append (t u : Trace π κ) :
    (t ++ u).deep g h = t.deep g h ++ u.deep g h := by
  induction t with
  | nil => rfl
  | act a t ih => simp only [act_append, deep_act, ih, List.append_assoc]
  | call f i t _ ih => simp only [call_append, deep_call, ih, List.append_assoc]

variable (p : κ → Bool)

@[simp] theorem through_nil : (nil : Trace π κ).through p g h = [] := rfl

@[simp] theorem through_act (a : π) (t : Trace π κ) :
    (act a t).through p g h = g a ++ t.through p g h := rfl

@[simp] theorem through_call (f : κ) (i t : Trace π κ) : (call f i t).through p g h =
    h f ++ (if p f then i.through p g h else []) ++ t.through p g h := rfl

@[simp] theorem through_append (t u : Trace π κ) :
    (t ++ u).through p g h = t.through p g h ++ u.through p g h := by
  induction t with
  | nil => rfl
  | act a t ih => simp only [act_append, through_act, ih, List.append_assoc]
  | call f i t _ ih => simp only [call_append, through_call, ih, List.append_assoc]

end Trace

structure Outcome (σ π κ α : Type) where
  val : α
  state : σ
  trace : Trace π κ

/-- Computations over a state `σ` that record their actions `π` and foreign calls `κ`. -/
def Prog (σ π κ α : Type) := σ → Outcome σ π κ α

namespace Prog

variable {σ α : Type}

instance : Monad (Prog σ π κ) where
  pure a := fun s ↦ ⟨a, s, .nil⟩
  bind m f := fun s ↦
    let r := m s
    let r' := f r.val r.state
    ⟨r'.val, r'.state, r.trace ++ r'.trace⟩

instance : LawfulMonad (Prog σ π κ) := LawfulMonad.mk' _
  (fun m ↦ funext fun s ↦ congrArg (Outcome.mk _ _) (Trace.append_nil (m s).trace))
  (fun _ _ ↦ rfl)
  (fun m f g ↦ funext fun s ↦ congrArg (Outcome.mk _ _) (Trace.append_assoc (m s).trace _ _))

def get : Prog σ π κ σ := fun s ↦ ⟨s, s, .nil⟩

def modify (f : σ → σ) : Prog σ π κ Unit := fun s ↦ ⟨(), f s, .nil⟩

def act (a : π) : Prog σ π κ Unit := fun s ↦ ⟨(), s, .act a .nil⟩

/-- Run foreign code. The record of the call may mention the state it was made in and what the
code returned. -/
def call (label : σ → α → κ) (m : Prog σ π κ α) : Prog σ π κ α := fun s ↦
  let r := m s
  ⟨r.val, r.state, .call (label s r.val) r.trace .nil⟩

@[simp] theorem pure_apply (a : α) (s : σ) :
    (pure a : Prog σ π κ α) s = ⟨a, s, .nil⟩ := rfl

theorem bind_apply (m : Prog σ π κ α) (f : α → Prog σ π κ β) (s : σ) :
    (m >>= f) s = let r := m s; let r' := f r.val r.state
      ⟨r'.val, r'.state, r.trace ++ r'.trace⟩ := rfl

@[simp] theorem bind_val (m : Prog σ π κ α) (f : α → Prog σ π κ β) (s : σ) :
    ((m >>= f) s).val = (f (m s).val (m s).state).val := rfl

@[simp] theorem bind_state (m : Prog σ π κ α) (f : α → Prog σ π κ β) (s : σ) :
    ((m >>= f) s).state = (f (m s).val (m s).state).state := rfl

@[simp] theorem bind_trace (m : Prog σ π κ α) (f : α → Prog σ π κ β) (s : σ) :
    ((m >>= f) s).trace = (m s).trace ++ (f (m s).val (m s).state).trace := rfl

@[simp] theorem map_val (f : α → β) (m : Prog σ π κ α) (s : σ) :
    ((f <$> m) s).val = f (m s).val := rfl

@[simp] theorem map_state (f : α → β) (m : Prog σ π κ α) (s : σ) :
    ((f <$> m) s).state = (m s).state := rfl

@[simp] theorem map_trace (f : α → β) (m : Prog σ π κ α) (s : σ) :
    ((f <$> m) s).trace = (m s).trace := Trace.append_nil _

@[simp] theorem get_apply (s : σ) : (get : Prog σ π κ σ) s = ⟨s, s, .nil⟩ := rfl

@[simp] theorem modify_apply (f : σ → σ) (s : σ) :
    (modify f : Prog σ π κ Unit) s = ⟨(), f s, .nil⟩ := rfl

@[simp] theorem act_apply (a : π) (s : σ) :
    (act a : Prog σ π κ Unit) s = ⟨(), s, .act a .nil⟩ := rfl

@[simp] theorem call_val (label : σ → α → κ) (m : Prog σ π κ α) (s : σ) :
    (call label m s).val = (m s).val := rfl

@[simp] theorem call_state (label : σ → α → κ) (m : Prog σ π κ α) (s : σ) :
    (call label m s).state = (m s).state := rfl

@[simp] theorem call_trace (label : σ → α → κ) (m : Prog σ π κ α) (s : σ) :
    (call label m s).trace = .call (label s (m s).val) (m s).trace .nil := rfl

/-- Whatever state it starts in, the computation returns a value in `Q`. -/
def Returns (Q : α → Prop) (m : Prog σ π κ α) : Prop := ∀ s, Q (m s).val

namespace Returns

variable {Q : α → Prop} {R : β → Prop} {m n : Prog σ π κ α} {f : α → Prog σ π κ β}

theorem pure {a : α} (h : Q a) : Returns Q (Pure.pure a : Prog σ π κ α) := fun _ ↦ h

theorem bind (hm : Returns Q m) (hf : ∀ a, Q a → Returns R (f a)) : Returns R (m >>= f) :=
  fun s ↦ hf _ (hm s) _

/-- What comes before the last step does not matter, unless that looks at it. -/
theorem seq (hf : ∀ a, Returns R (f a)) : Returns R (m >>= f) :=
  fun _ ↦ hf _ _

theorem ite {c : Prop} [Decidable c] (hm : c → Returns Q m) (hn : ¬ c → Returns Q n) :
    Returns Q (if c then m else n) := by
  split
  · rename_i h
    exact hm h
  · rename_i h
    exact hn h

theorem call {label : σ → α → κ} (hm : Returns Q m) : Returns Q (Prog.call label m) := hm

theorem map {g : α → β} (hm : Returns (fun a ↦ R (g a)) m) : Returns R (g <$> m) := hm

end Returns

end Prog

/-- A law of what runs do: doing nothing obeys it, two runs in sequence obey it when both do,
and so does a call whose foreign code obeys it. -/
structure Law (σ π κ : Type) where
  holds : σ → Trace π κ → σ → Prop
  nil : ∀ s, holds s .nil s
  append : ∀ {s t s' t' s''}, holds s t s' → holds s' t' s'' → holds s (t ++ t') s''

def Prog.Obeys {σ α : Type} (L : Law σ π κ) (m : Prog σ π κ α) : Prop :=
  ∀ s, L.holds s (m s).trace (m s).state

namespace Prog.Obeys

variable {σ α : Type} {L : Law σ π κ}

theorem pure (a : α) : Obeys L (Pure.pure a : Prog σ π κ α) := L.nil

theorem get : Obeys L (Prog.get : Prog σ π κ σ) := L.nil

theorem bind {m : Prog σ π κ α} {f : α → Prog σ π κ β}
    (hm : Obeys L m) (hf : ∀ a, Obeys L (f a)) : Obeys L (m >>= f) :=
  fun s ↦ L.append (hm s) (hf _ _)

theorem ite {c : Prop} [Decidable c] {m n : Prog σ π κ α}
    (hm : Obeys L m) (hn : Obeys L n) : Obeys L (if c then m else n) := by
  split
  · exact hm
  · exact hn

end Prog.Obeys

end CallTrace
