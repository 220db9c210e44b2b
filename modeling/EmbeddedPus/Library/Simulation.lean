import EmbeddedPus.Library.CallTrace

namespace CallTrace

variable {π κ α β σ σ' : Type}

/-- The trace without the calls that `hide` picks, and without what happened inside them. -/
def Trace.erase (hide : κ → Bool) : Trace π κ → Trace π κ
  | .nil => .nil
  | .act a t => .act a (t.erase hide)
  | .call f i t => if hide f then t.erase hide else .call f (i.erase hide) (t.erase hide)

@[simp] theorem Trace.erase_nil (hide : κ → Bool) : (nil : Trace π κ).erase hide = nil := rfl

@[simp] theorem Trace.erase_append (hide : κ → Bool) (t u : Trace π κ) :
    (t ++ u).erase hide = t.erase hide ++ u.erase hide := by
  induction t with
  | nil => rfl
  | act a t ih => rw [act_append, erase, ih, erase, act_append]
  | call f i t _ ih =>
    rw [call_append, erase, ih, erase]
    split
    · rfl
    · rfl

/-- Two runs with the same result, in related states, that differ only in hidden calls. -/
structure Outcome.Agrees (R : σ → σ' → Prop) (hide : κ → Bool) (r : Outcome σ π κ α)
    (r' : Outcome σ' π κ α) : Prop where
  val : r.val = r'.val
  state : R r.state r'.state
  trace : r.trace.erase hide = r'.trace.erase hide

/-- Two computations that agree when they are run side by side from related states. -/
def Prog.Lockstep (R : σ → σ' → Prop) (hide : κ → Bool) (m : Prog σ π κ α) (m' : Prog σ' π κ α) :
    Prop :=
  ∀ s s', R s s' → (m s).Agrees R hide (m' s')

namespace Prog.Lockstep

variable {R : σ → σ' → Prop} {hide : κ → Bool} {m : Prog σ π κ α} {m' : Prog σ' π κ α}

theorem pure (a : α) : Lockstep R hide (Pure.pure a : Prog σ π κ α) (Pure.pure a) :=
  fun _ _ h ↦ ⟨rfl, h, rfl⟩

theorem bind {f : α → Prog σ π κ β} {f' : α → Prog σ' π κ β} (hm : Lockstep R hide m m')
    (hf : ∀ a, Lockstep R hide (f a) (f' a)) : Lockstep R hide (m >>= f) (m' >>= f') := by
  intro s s' h
  obtain ⟨hval, hstate, htrace⟩ := hm s s' h
  obtain ⟨hval', hstate', htrace'⟩ := hf (m s).val _ _ hstate
  rw [hval] at hval' hstate' htrace'
  refine ⟨?_, ?_, ?_⟩
  · rw [bind_val, bind_val, hval, hval']
  · rw [bind_state, bind_state, hval]
    exact hstate'
  · rw [bind_trace, bind_trace, Trace.erase_append, Trace.erase_append, htrace, hval, htrace']

theorem get_bind {f : σ → Prog σ π κ α} {f' : σ' → Prog σ' π κ α}
    (hf : ∀ s s', R s s' → Lockstep R hide (f s) (f' s')) :
    Lockstep R hide (Prog.get >>= f) (Prog.get >>= f') :=
  fun s s' h ↦ hf s s' h s s' h

theorem modify {g : σ → σ} {g' : σ' → σ'} (hg : ∀ s s', R s s' → R (g s) (g' s')) :
    Lockstep R hide (Prog.modify g : Prog σ π κ Unit) (Prog.modify g') :=
  fun s s' h ↦ ⟨rfl, hg s s' h, rfl⟩

theorem act (a : π) : Lockstep R hide (Prog.act a : Prog σ π κ Unit) (Prog.act a) :=
  fun _ _ h ↦ ⟨rfl, h, rfl⟩

theorem call {label : α → κ} (hm : Lockstep R hide m m') :
    Lockstep R hide (Prog.call (fun _ ↦ label) m) (Prog.call (fun _ ↦ label) m') := by
  intro s s' h
  obtain ⟨hval, hstate, htrace⟩ := hm s s' h
  refine ⟨hval, hstate, ?_⟩
  simp only [call_trace, Trace.erase, hval, htrace]

theorem pure_call {label : σ' → α → κ} {a : α} (hl : ∀ s, hide (label s a))
    (hm : ∀ s s', R s s' → (m' s').val = a ∧ R s (m' s').state) :
    Lockstep R hide (Pure.pure a) (Prog.call label m') := by
  intro s s' h
  obtain ⟨hval, hstate⟩ := hm s s' h
  refine ⟨hval.symm, hstate, ?_⟩
  rw [call_trace, hval, Trace.erase, if_pos (hl s')]
  rfl

end Prog.Lockstep

end CallTrace
