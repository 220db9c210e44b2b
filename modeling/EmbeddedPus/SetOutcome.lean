import EmbeddedPus.SetCommand

namespace EmbeddedPus

open CallTrace

variable {cfg : Config} {A : Type} {cb : Callbacks cfg A} {s : Ptr} {tc : TcPacket}

/-- The setter calls that carrying out instructions leads to: one for each of them, or one for each
up to the first whose setter fails. -/
inductive Performed (tc : TcPacket) : List Instruction → Status → List SetterCall → Prop
  | all (xs : List Instruction) : Performed tc xs .ok (xs.map (·.called tc .ok))
  | failed (ys : List Instruction) (x : Instruction) (zs : List Instruction) {st : Status}
      (hst : st ≠ .ok) :
      Performed tc (ys ++ x :: zs) st (ys.map (·.called tc .ok) ++ [x.called tc st])

theorem Performed.cons {x : Instruction} {xs : List Instruction} {st : Status}
    {calls : List SetterCall} (h : Performed tc xs st calls) :
    Performed tc (x :: xs) st (x.called tc .ok :: calls) := by
  cases h with
  | all xs => exact .all (x :: xs)
  | failed ys y zs hst => exact .failed (x :: ys) y zs hst

theorem Performed.ok_iff {xs : List Instruction} {st : Status} {calls : List SetterCall}
    (h : Performed tc xs st calls) : st = .ok ↔ calls = xs.map (·.called tc .ok) := by
  cases h with
  | all xs => exact iff_of_true rfl rfl
  | failed ys x zs hst =>
    refine iff_of_false hst fun he ↦ hst ?_
    rw [List.map_append, List.append_cancel_left_eq, List.map_cons, List.cons.injEq] at he
    exact congrArg SetterCall.st he.1

theorem CarriesOut.performed {xs : List Instruction} {w w' : World cfg A} {st : Status}
    {calls : List SetterCall} (h : CarriesOut cb tc xs w st calls w') :
    Performed tc xs st calls := by
  induction h with
  | done => exact .all []
  | failed xs _ hst => exact .failed [] _ xs hst
  | set _ _ _ ih => exact ih.cons

theorem noWrap_of_table (hk : KeepsParams cb s) (n off : ℕ) (w : World cfg A)
    (hl : ∀ i, (w.s20 s i).isUsed →
      tc.payloadLen.toNat + (w.s20 s i).valueLen.toNat < 65536) : NoWrap cb s tc n off w := by
  induction n generalizing off w with
  | zero => trivial
  | succ n ih =>
    intro hid e f he
    obtain ⟨i, hf, rfl, -⟩ := settable_eq_some.mp he
    have hlen := hl i (isUsed_of_findParam hf)
    refine ⟨by omega, fun _ _ ↦ ih _ _ ?_⟩
    have hkeep : (callSetter cb f (w.s20 s i).userData (idAt tc off) tc (off + 2)
      (w.s20 s i).valueLen w).state.s20 s = w.s20 s := hk ..
    rw [hkeep]
    exact hl

variable (tc) in
theorem length_instructions (t : Service20Ctx cfg) (n off : ℕ)
    (h : (readInstructions t tc n off).complete = true) :
    (readInstructions t tc n off).instructions.length = n := by
  induction n generalizing off with
  | zero => rfl
  | succ n ih =>
    obtain ⟨e, f, he, hend⟩ | ⟨hfaulty, -⟩ := readInstructions_cases t tc n off
    · rw [readInstructions_sound he hend] at h ⊢
      exact congrArg (· + 1) (ih _ h)
    · rw [hfaulty] at h
      cases h

structure Instruction.Sound (t : Service20Ctx cfg) (tc : TcPacket) (x : Instruction) : Prop where
  entry : ∃ i, ParamSlot t x.paramId i ∧ t i = x.entry
  setter : x.entry.setter = some x.setter
  room : x.off + x.entry.valueLen.toNat ≤ tc.payloadLen.toNat

theorem Reads.sound_of_mem {t : Service20Ctx cfg} {n off : ℕ} {xs : List Instruction}
    {complete : Bool} (h : Reads t tc n off xs complete) : ∀ x ∈ xs, x.Sound t tc := by
  induction h with
  | done => exact List.forall_mem_nil _
  | noId => exact List.forall_mem_nil _
  | unregistered => exact List.forall_mem_nil _
  | noValue => exact List.forall_mem_nil _
  | readOnly => exact List.forall_mem_nil _
  | sound h hset hend _ ih => exact List.forall_mem_cons.mpr ⟨⟨⟨_, h, rfl⟩, hset, hend⟩, ih⟩

/-- What `handle_tc_20_3` does with every command whose sums cannot wrap: it carries out the
instructions up to the first that is truncated or cannot be set or whose setter fails, and returns
OK when there is none. -/
theorem set_values_outcome (cb : Callbacks cfg A) (s : Ptr) (tc : TcPacket) (w : World cfg A)
    (hlen : tc.payloadLen.toNat + 2 < 65536)
    (hl : ∀ i, (w.s20 s i).isUsed → tc.payloadLen.toNat + (w.s20 s i).valueLen.toNat < 65536)
    (hk : KeepsParams cb s) :
    let r := handleTc20_3 cb tc s w
    ∃ xs complete st,
      ReadsCommand (w.s20 s) tc xs complete ∧
      (CarriesOut cb tc xs w st (setterCalls r.trace) r.state ∧
        Performed tc xs st (setterCalls r.trace) ∧ (st ≠ .ok → r.val = st)) ∧
      (r.val = .ok ↔ complete = true ∧ setterCalls r.trace = xs.map (·.called tc .ok)) ∧
      (complete = true → xs.length = (tc.payload.getD 0 0).toNat) ∧
      ∀ x ∈ xs, x.Sound (w.s20 s) tc := by
  intro r
  let n := (tc.payload.getD 0 0).toNat
  by_cases h0 : tc.payloadLen < 1
  · have hr : r = _ := handleTc20_3_empty h0
    rw [hr]
    exact ⟨[], false, .ok, .inl ⟨UInt16.lt_iff_toNat_lt.mp h0, rfl, rfl⟩,
      ⟨.done w, .all [], fun h ↦ absurd rfl h⟩, by simp, fun h ↦ absurd h Bool.false_ne_true,
      List.forall_mem_nil _⟩
  have hpos : 0 < tc.payloadLen.toNat :=
    Nat.le_of_not_lt fun h ↦ h0 (UInt16.lt_iff_toNat_lt.mpr h)
  have hr : r = _ := handleTc20_3_nonempty h0
  have h := setValuesLoop_accords (by omega) hk n 1 w hpos (noWrap_of_table hk _ _ w hl)
  have hreads := readInstructions_reads tc (w.s20 s) n 1
  have hlength := length_instructions tc (w.s20 s) n 1
  rw [UInt16.toNat_one] at h
  generalize readInstructions (w.s20 s) tc n 1 = d at h hreads hlength
  have hq := carryOut_carriesOut cb tc d.instructions w
  have hcalls : setterCalls r.trace = _ := (congrArg (setterCalls ·.trace) hr).trans h.calls
  have hstate : r.state = _ := (congrArg Outcome.state hr).trans h.state
  have hval : r.val = _ := congrArg Outcome.val hr
  rw [← hcalls, ← hstate] at hq
  refine ⟨d.instructions, d.complete, _, .inr ⟨hpos, hreads⟩,
    ⟨hq, hq.performed, fun hst ↦ hval.trans (h.failed hst)⟩, ?_, hlength, hreads.sound_of_mem⟩
  rw [← hq.performed.ok_iff, hval]
  constructor
  · intro hok
    have hdone : (carryOut cb tc d.instructions w).val = .ok := by
      by_contra hne
      exact hne ((h.failed hne).symm.trans hok)
    refine ⟨?_, hdone⟩
    by_contra hc
    exact h.faulty hdone (Bool.not_eq_true _ ▸ hc) hok
  · rintro ⟨hc, hdone⟩
    exact (h.complete hdone hc).1

def setTwice : TcPacket := ⟨⟨1, 0, 20, 3, 0, 0, 0⟩, [2, 0, 1, 0xAA, 0, 1, 0xBB], 7⟩

theorem set_values_outcome_twice :
    (handleTc20_3 .quiet setTwice 0 (oneParam 1)).val = .ok ∧
      setterCalls (handleTc20_3 .quiet setTwice 0 (oneParam 1)).trace =
        [⟨4, 0, 1, 3, 1, [0xAA], .ok⟩, ⟨4, 0, 1, 6, 1, [0xBB], .ok⟩] := by
  have hl : ∀ i, ((oneParam 1).s20 0 i).isUsed →
      setTwice.payloadLen.toNat + ((oneParam 1).s20 0 i).valueLen.toNat < 65536 := by
    decide +kernel
  have hslot : ParamSlot ((oneParam 1).s20 0) 1 ⟨0, by decide⟩ :=
    ⟨rfl, rfl, fun j hj ↦ absurd hj (Nat.not_lt_zero j)⟩
  have htwo : Reads ((oneParam 1).s20 0) setTwice 2 1 _ true :=
    .sound hslot rfl (by decide) (.sound hslot rfl (by decide) (.done 7))
  obtain ⟨xs, complete, st, hreads, -, hiff, -, -⟩ :=
    set_values_outcome .quiet 0 setTwice (oneParam 1) (by decide) hl (keepsParams_quiet 0)
  obtain ⟨hempty, -⟩ | ⟨-, hreads⟩ := hreads
  · exact absurd hempty (by decide)
  obtain ⟨rfl, rfl⟩ := hreads.unique htwo
  have hcalls : setterCalls (handleTc20_3 .quiet setTwice 0 (oneParam 1)).trace =
      [⟨4, 0, 1, 3, 1, [0xAA], .ok⟩, ⟨4, 0, 1, 6, 1, [0xBB], .ok⟩] := by
    decide +kernel
  exact ⟨hiff.mpr ⟨rfl, hcalls⟩, hcalls⟩

end EmbeddedPus
