import EmbeddedPus.SetValues

namespace EmbeddedPus

open CallTrace

variable {cfg : Config} {A : Type} {cb : Callbacks cfg A} {s : Ptr} {tc : TcPacket}

structure SetterCall where
  setter : Ptr
  userData : Ptr
  paramId : UInt16
  off : ℕ
  len : UInt16
  buf : List UInt8
  st : Status
  deriving DecidableEq, Repr

def setterCalls (t : History cfg) : List SetterCall :=
  t.own (fun _ ↦ []) fun
    | .setter f ud pid off len buf st => [⟨f, ud, pid, off, len, buf, st⟩]
    | _ => []

@[simp] theorem setterCalls_nil : setterCalls (.nil : History cfg) = [] := rfl

@[simp] theorem setterCalls_append (t u : History cfg) :
    setterCalls (t ++ u) = setterCalls t ++ setterCalls u := Trace.own_append ..

@[simp] theorem setterCalls_readId (off : ℕ) : setterCalls (readId off : History cfg) = [] := rfl

structure Instruction where
  entry : ParamEntry
  setter : Ptr
  paramId : UInt16
  off : ℕ

def Instruction.value (tc : TcPacket) (x : Instruction) : List UInt8 :=
  (tc.payload.drop x.off).take x.entry.valueLen.toNat

def Instruction.called (tc : TcPacket) (x : Instruction) (st : Status) : SetterCall :=
  ⟨x.setter, x.entry.userData, x.paramId, x.off, x.entry.valueLen, x.value tc, st⟩

/-- The instructions of a command up to its end or its first fault: one that is truncated, or names
a parameter that is not registered or cannot be set. -/
structure Reading where
  instructions : List Instruction
  complete : Bool
  next : ℕ

def readInstructions (t : Service20Ctx cfg) (tc : TcPacket) : ℕ → ℕ → Reading
  | 0, off => ⟨[], true, off⟩
  | n + 1, off =>
    if off + 2 ≤ tc.payloadLen.toNat then
      match settable t tc off with
      | none => ⟨[], false, off⟩
      | some (e, f) =>
        if off + 2 + e.valueLen.toNat ≤ tc.payloadLen.toNat then
          let r := readInstructions t tc n (off + 2 + e.valueLen.toNat)
          ⟨⟨e, f, idAt tc off, off + 2⟩ :: r.instructions, r.complete, r.next⟩
        else ⟨[], false, off⟩
    else ⟨[], false, off⟩

def carryOut (cb : Callbacks cfg A) (tc : TcPacket) : List Instruction → Pus cfg A Status
  | [] => pure .ok
  | x :: xs => do
    let st ← callSetter cb x.setter x.entry.userData x.paramId tc x.off x.entry.valueLen
    if st ≠ .ok then pure st else carryOut cb tc xs

def KeepsParams (cb : Callbacks cfg A) (s : Ptr) : Prop :=
  ∀ f pid buf len ud w, (cb.setter f pid buf len ud w).state.s20 s = w.s20 s

/-- The loop does what carrying out the instructions of a reading does, and returns OK only from a
complete one. -/
structure Accords (r : Outcome (World cfg A) Act (Call cfg) (Status × UInt16)) (d : Reading)
    (q : Outcome (World cfg A) Act (Call cfg) Status) : Prop where
  calls : setterCalls r.trace = setterCalls q.trace
  state : r.state = q.state
  failed : q.val ≠ .ok → r.val.1 = q.val
  complete : q.val = .ok → d.complete = true → r.val.1 = .ok ∧ r.val.2.toNat = d.next
  faulty : q.val = .ok → d.complete = false → r.val.1 ≠ .ok

theorem target_error {t : Service20Ctx cfg} {off : UInt16} {st : Status}
    (h : target t tc off = .error st) : st ≠ .ok := by
  rw [target] at h
  rintro rfl
  split at h
  · cases h
  · split at h
    · cases h
    · split at h <;> cases h

section Reading

variable {n : ℕ} {off : ℕ} {t : Service20Ctx cfg}

theorem readInstructions_faulty
    (h : ∀ e f, off + 2 ≤ tc.payloadLen.toNat → settable t tc off = some (e, f) →
      tc.payloadLen.toNat < off + 2 + e.valueLen.toNat) :
    readInstructions t tc (n + 1) off = ⟨[], false, off⟩ := by
  rw [readInstructions]
  split
  · rename_i hid
    cases hs : settable t tc off with
    | none => rfl
    | some ef =>
      have hlt := h ef.1 ef.2 hid hs
      simp only [if_neg (Nat.not_le.mpr hlt)]
  · rfl

theorem readInstructions_sound {e : ParamEntry} {f : Ptr} (hs : settable t tc off = some (e, f))
    (hend : off + 2 + e.valueLen.toNat ≤ tc.payloadLen.toNat) :
    readInstructions t tc (n + 1) off =
      let r := readInstructions t tc n (off + 2 + e.valueLen.toNat)
      ⟨⟨e, f, idAt tc off, off + 2⟩ :: r.instructions, r.complete, r.next⟩ := by
  rw [readInstructions, if_pos (by omega)]
  simp only [hs, if_pos hend]

end Reading

section CarryOut

variable {e : ParamEntry} {f : Ptr} {pid : UInt16} {off : ℕ} {xs : List Instruction}
  {w : World cfg A}

theorem carryOut_next
    (h : (callSetter cb f e.userData pid tc off e.valueLen w).val = .ok) :
    carryOut cb tc (⟨e, f, pid, off⟩ :: xs) w =
      let r := callSetter cb f e.userData pid tc off e.valueLen w
      let q := carryOut cb tc xs r.state
      ⟨q.val, q.state, r.trace ++ q.trace⟩ := by
  simp only [carryOut, Prog.bind_apply, h, ne_eq, not_true_eq_false, if_false]

theorem carryOut_failed
    (h : (callSetter cb f e.userData pid tc off e.valueLen w).val ≠ .ok) :
    carryOut cb tc (⟨e, f, pid, off⟩ :: xs) w =
      callSetter cb f e.userData pid tc off e.valueLen w := by
  simp only [carryOut, Prog.bind_apply, if_pos h, Prog.pure_apply, Trace.append_nil]

end CarryOut

theorem accords_faulty {st : Status} {next : ℕ} {w : World cfg A} {o : UInt16}
    {t : History cfg} (hst : st ≠ .ok) (ht : setterCalls t = []) :
    Accords ⟨(st, o), w, t⟩ ⟨[], false, next⟩ (carryOut cb tc [] w) where
  calls := ht
  state := rfl
  failed h := absurd rfl h
  complete _ h := nomatch h
  faulty _ _ := hst

/-- The next instruction is faulty and ends the loop before its setter, or it can be carried out. -/
theorem setValuesLoop_cases (hl : tc.payloadLen.toNat < 65534) {n : ℕ} {off : UInt16}
    {w : World cfg A} (ho : off.toNat ≤ tc.payloadLen.toNat)
    (hw : NoWrap cb s tc (n + 1) off.toNat w) :
    (∃ st o t, setValuesLoop cb s tc (n + 1) off w = ⟨(st, o), w, t⟩ ∧ st ≠ .ok ∧
      setterCalls t = [] ∧
      readInstructions (w.s20 s) tc (n + 1) off.toNat = ⟨[], false, off.toNat⟩) ∨
    ∃ e f, ¬ tc.payloadLen < off + 2 ∧ target (w.s20 s) tc off = .ok (e, f) ∧
      settable (w.s20 s) tc off.toNat = some (e, f) ∧
      off.toNat + 2 + e.valueLen.toNat ≤ tc.payloadLen.toNat := by
  have hshort : tc.payloadLen < off + 2 ↔ tc.payloadLen.toNat < off.toNat + 2 :=
    short_iff (by omega)
  by_cases hs : tc.payloadLen < off + 2
  · have hlt := hshort.mp hs
    exact .inl ⟨_, _, _, setValuesLoop_short hs, by decide, rfl,
      readInstructions_faulty fun e f hid ↦ absurd hlt (by omega)⟩
  have hid : off.toNat + 2 ≤ tc.payloadLen.toNat := Nat.le_of_not_lt fun h ↦ hs (hshort.mpr h)
  cases ht : target (w.s20 s) tc off with
  | error st =>
    exact .inl ⟨_, _, _, setValuesLoop_refused hs ht, target_error ht, rfl,
      readInstructions_faulty fun e f _ he ↦ (end_of_target_error hl hid ht he).2⟩
  | ok ef =>
    obtain ⟨e, f⟩ := ef
    obtain ⟨he, hend⟩ := target_eq_ok.mp ht
    rw [UInt16.lt_iff_toNat_lt, Nat.not_lt, end_toNat (hw hid e f he).1] at hend
    exact .inr ⟨e, f, hs, rfl, he, hend⟩

theorem setValuesLoop_faulty (hl : tc.payloadLen.toNat < 65534) {n : ℕ} (off : UInt16)
    {w : World cfg A} (ho : off.toNat ≤ tc.payloadLen.toNat) (hw : NoWrap cb s tc n off.toNat w)
    (hnil : (readInstructions (w.s20 s) tc n off.toNat).instructions = [])
    (hc : (readInstructions (w.s20 s) tc n off.toNat).complete = false) :
    let r := setValuesLoop cb s tc n off w
    r.val.1 ≠ .ok ∧ setterCalls r.trace = [] ∧ r.state = w := by
  intro r
  cases n with
  | zero => cases hc
  | succ n =>
    obtain ⟨st, o, t, hr, hst, ht, -⟩ | ⟨e, f, -, -, he, hend⟩ := setValuesLoop_cases hl ho hw
    · have hr : r = _ := hr
      rw [hr]
      exact ⟨hst, ht, rfl⟩
    · rw [readInstructions_sound he hend] at hnil
      cases hnil

theorem setValuesLoop_accords (hl : tc.payloadLen.toNat < 65534) (hk : KeepsParams cb s) (n : ℕ)
    (off : UInt16) (w : World cfg A) (ho : off.toNat ≤ tc.payloadLen.toNat)
    (hw : NoWrap cb s tc n off.toNat w) :
    Accords (setValuesLoop cb s tc n off w) (readInstructions (w.s20 s) tc n off.toNat)
      (carryOut cb tc (readInstructions (w.s20 s) tc n off.toNat).instructions w) := by
  induction n generalizing off w with
  | zero => exact ⟨rfl, rfl, fun h ↦ absurd rfl h, fun _ _ ↦ ⟨rfl, rfl⟩, fun _ h ↦ nomatch h⟩
  | succ n ih =>
    obtain ⟨st, o, t, hr, hst, ht, hd⟩ | ⟨e, f, hs, ht, he, hend⟩ := setValuesLoop_cases hl ho hw
    · rw [hr, hd]
      exact accords_faulty hst ht
    obtain ⟨hlt, hrest⟩ := hw (by omega) e f he
    rw [readInstructions_sound he hend]
    have h2 : (off + 2).toNat = off.toNat + 2 := toNat_add_two (by omega)
    by_cases hok : (callSetter cb f e.userData (idAt tc off.toNat) tc (off.toNat + 2)
        e.valueLen w).val = .ok
    · have h := ih (off + 2 + e.valueLen) _ (by rw [end_toNat hlt]; exact hend)
        (by rw [end_toNat hlt]; exact hrest hend hok)
      have hkeep : (callSetter cb f e.userData (idAt tc off.toNat) tc (off.toNat + 2)
        e.valueLen w).state.s20 s = w.s20 s := hk ..
      rw [end_toNat hlt, hkeep] at h
      rw [setValuesLoop_next hs ht (by rwa [h2]), h2, carryOut_next hok]
      exact ⟨by simp [h.calls], h.state, h.failed, h.complete, h.faulty⟩
    · rw [setValuesLoop_failed hs ht (by rwa [h2]), h2, carryOut_failed hok]
      exact ⟨by simp, rfl, fun _ ↦ rfl, fun h ↦ absurd h hok, fun h ↦ absurd h hok⟩

theorem noWrap_of_complete (hl : tc.payloadLen.toNat < 65534) (hk : KeepsParams cb s) (n off : ℕ)
    (w : World cfg A) (hc : (readInstructions (w.s20 s) tc n off).complete = true) :
    NoWrap cb s tc n off w := by
  induction n generalizing off w with
  | zero => trivial
  | succ n ih =>
    intro hid e f he
    have hend : off + 2 + e.valueLen.toNat ≤ tc.payloadLen.toNat := by
      by_contra hn
      simp only [readInstructions, if_pos hid, he, if_neg hn, Bool.false_eq_true] at hc
    rw [readInstructions_sound he hend] at hc
    refine ⟨by omega, fun _ _ ↦ ih _ _ ?_⟩
    have hkeep : (callSetter cb f e.userData (idAt tc off) tc (off + 2) e.valueLen w).state.s20 s =
      w.s20 s := hk ..
    rwa [hkeep]

variable (tc) in
theorem carryOut_accepted (hs : ∀ f pid buf len ud w, (cb.setter f pid buf len ud w).val = .ok)
    (xs : List Instruction) (w : World cfg A) :
    (carryOut cb tc xs w).val = .ok ∧
      setterCalls (carryOut cb tc xs w).trace = xs.map (·.called tc .ok) := by
  induction xs generalizing w with
  | nil => exact ⟨rfl, rfl⟩
  | cons x xs ih =>
    obtain ⟨e, f, pid, off⟩ := x
    have hok : (callSetter cb f e.userData pid tc off e.valueLen w).val = .ok := hs ..
    have hcalls : setterCalls (callSetter cb f e.userData pid tc off e.valueLen w).trace =
        [⟨f, e.userData, pid, off, e.valueLen, (tc.payload.drop off).take e.valueLen.toNat,
          (callSetter cb f e.userData pid tc off e.valueLen w).val⟩] := rfl
    rw [carryOut_next hok]
    refine ⟨(ih _).1, ?_⟩
    rw [setterCalls_append, hcalls, (ih _).2, hok]
    rfl

/-- How instructions are carried out, by what the setters do: the status it ends with, the setter
calls it makes and the world they leave. -/
inductive CarriesOut (cb : Callbacks cfg A) (tc : TcPacket) :
    List Instruction → World cfg A → Status → List SetterCall → World cfg A → Prop
  | done (w : World cfg A) : CarriesOut cb tc [] w .ok [] w
  | failed {x : Instruction} {w : World cfg A} {r : Outcome (World cfg A) Act (Call cfg) Status}
      (xs : List Instruction)
      (hr : cb.setter x.setter x.paramId (x.value tc) x.entry.valueLen x.entry.userData w = r)
      (hst : r.val ≠ .ok) : CarriesOut cb tc (x :: xs) w r.val [x.called tc r.val] r.state
  | set {x : Instruction} {w w' : World cfg A} {r : Outcome (World cfg A) Act (Call cfg) Status}
      {xs : List Instruction} {st : Status} {calls : List SetterCall}
      (hr : cb.setter x.setter x.paramId (x.value tc) x.entry.valueLen x.entry.userData w = r)
      (hst : r.val = .ok) (hrest : CarriesOut cb tc xs r.state st calls w') :
      CarriesOut cb tc (x :: xs) w st (x.called tc .ok :: calls) w'

variable (cb tc) in
theorem carryOut_carriesOut (xs : List Instruction) (w : World cfg A) :
    CarriesOut cb tc xs w (carryOut cb tc xs w).val (setterCalls (carryOut cb tc xs w).trace)
      (carryOut cb tc xs w).state := by
  induction xs generalizing w with
  | nil => exact .done w
  | cons x xs ih =>
    obtain ⟨e, f, pid, off⟩ := x
    let x : Instruction := ⟨e, f, pid, off⟩
    let r := cb.setter f pid (x.value tc) e.valueLen e.userData w
    have hcalls : setterCalls (callSetter cb f e.userData pid tc off e.valueLen w).trace =
        [x.called tc r.val] := rfl
    by_cases hok : r.val = .ok
    · rw [carryOut_next hok, setterCalls_append, hcalls, hok]
      exact .set (x := x) (r := r) rfl hok (ih r.state)
    · rw [carryOut_failed hok, hcalls]
      exact .failed (x := x) (r := r) xs rfl hok

theorem readInstructions_cases (t : Service20Ctx cfg) (tc : TcPacket) (n off : ℕ) :
    (∃ e f, settable t tc off = some (e, f) ∧
      off + 2 + e.valueLen.toNat ≤ tc.payloadLen.toNat) ∨
      (readInstructions t tc (n + 1) off = ⟨[], false, off⟩ ∧
        ∀ e f, settable t tc off = some (e, f) →
          tc.payloadLen.toNat < off + 2 + e.valueLen.toNat) := by
  by_cases hsound : ∃ e f, settable t tc off = some (e, f) ∧
      off + 2 + e.valueLen.toNat ≤ tc.payloadLen.toNat
  · exact .inl hsound
  · have hno (e : ParamEntry) (f : Ptr) (he : settable t tc off = some (e, f)) :
        tc.payloadLen.toNat < off + 2 + e.valueLen.toNat := by
      by_contra hend
      exact hsound ⟨e, f, he, Nat.not_lt.mp hend⟩
    exact .inr ⟨readInstructions_faulty fun e f _ ↦ hno e f, hno⟩

/-- How the `n` instructions from `off` on read on the slots of the table: those up to the first
that is truncated or names a parameter that is not registered or cannot be set, and whether there
is none such. -/
inductive Reads (t : Service20Ctx cfg) (tc : TcPacket) : ℕ → ℕ → List Instruction → Bool → Prop
  | done (off : ℕ) : Reads t tc 0 off [] true
  | noId (n : ℕ) {off : ℕ} (hid : tc.payloadLen.toNat < off + 2) : Reads t tc (n + 1) off [] false
  | unregistered (n : ℕ) {off : ℕ} (hid : off + 2 ≤ tc.payloadLen.toNat)
      (h : Unregistered t (idAt tc off)) : Reads t tc (n + 1) off [] false
  | noValue (n : ℕ) {off : ℕ} {i : Fin cfg.service20MaxParams}
      (hid : off + 2 ≤ tc.payloadLen.toNat) (h : ParamSlot t (idAt tc off) i)
      (hend : tc.payloadLen.toNat < off + 2 + (t i).valueLen.toNat) :
      Reads t tc (n + 1) off [] false
  | readOnly (n : ℕ) {off : ℕ} {i : Fin cfg.service20MaxParams}
      (hid : off + 2 ≤ tc.payloadLen.toNat) (h : ParamSlot t (idAt tc off) i)
      (hset : (t i).setter = none) : Reads t tc (n + 1) off [] false
  | sound {n off : ℕ} {i : Fin cfg.service20MaxParams} {f : Ptr} {xs : List Instruction}
      {complete : Bool} (h : ParamSlot t (idAt tc off) i) (hset : (t i).setter = some f)
      (hend : off + 2 + (t i).valueLen.toNat ≤ tc.payloadLen.toNat)
      (hrest : Reads t tc n (off + 2 + (t i).valueLen.toNat) xs complete) :
      Reads t tc (n + 1) off (⟨t i, f, idAt tc off, off + 2⟩ :: xs) complete

variable (tc) in
theorem readInstructions_reads (t : Service20Ctx cfg) (n off : ℕ) :
    Reads t tc n off (readInstructions t tc n off).instructions
      (readInstructions t tc n off).complete := by
  induction n generalizing off with
  | zero => exact .done off
  | succ n ih =>
    obtain ⟨e, f, he, hend⟩ | ⟨hr, hno⟩ := readInstructions_cases t tc n off
    · rw [readInstructions_sound he hend]
      obtain ⟨i, hi, rfl, hf⟩ := settable_eq_some.mp he
      exact .sound (findParam_eq_some_iff.mp hi) hf hend (ih _)
    rw [hr]
    by_cases hid : off + 2 ≤ tc.payloadLen.toNat
    swap
    · exact .noId n (Nat.lt_of_not_le hid)
    cases hf : findParam t (idAt tc off) with
    | none => exact .unregistered n hid (findParam_eq_none_iff.mp hf)
    | some i =>
      have hslot := findParam_eq_some_iff.mp hf
      cases hs : (t i).setter with
      | none => exact .readOnly n hid hslot hs
      | some f =>
        exact .noValue n hid hslot (hno (t i) f (settable_eq_some.mpr ⟨i, hf, rfl, hs⟩))

theorem Reads.eq_readInstructions {t : Service20Ctx cfg} {n off : ℕ} {xs : List Instruction}
    {complete : Bool} (h : Reads t tc n off xs complete) :
    xs = (readInstructions t tc n off).instructions ∧
      complete = (readInstructions t tc n off).complete := by
  have faulty {n off : ℕ} (h : ∀ e f, off + 2 ≤ tc.payloadLen.toNat →
      settable t tc off = some (e, f) → tc.payloadLen.toNat < off + 2 + e.valueLen.toNat) :
      [] = (readInstructions t tc (n + 1) off).instructions ∧
        false = (readInstructions t tc (n + 1) off).complete := by
    rw [readInstructions_faulty h]
    exact ⟨rfl, rfl⟩
  induction h with
  | done => exact ⟨rfl, rfl⟩
  | noId n hid => exact faulty fun e f h ↦ absurd hid (Nat.not_lt.mpr h)
  | unregistered n hid h =>
    refine faulty fun e f _ he ↦ ?_
    obtain ⟨i, hi, -, -⟩ := settable_eq_some.mp he
    rw [findParam_eq_none_iff.mpr h] at hi
    cases hi
  | noValue n hid h hend =>
    refine faulty fun e f _ he ↦ ?_
    obtain ⟨i, hi, rfl, -⟩ := settable_eq_some.mp he
    rw [findParam_eq_some_iff.mpr h] at hi
    cases hi
    exact hend
  | readOnly n hid h hset =>
    refine faulty fun e f _ he ↦ ?_
    obtain ⟨i, hi, rfl, hf⟩ := settable_eq_some.mp he
    rw [findParam_eq_some_iff.mpr h] at hi
    cases hi
    rw [hset] at hf
    cases hf
  | sound h hset hend hrest ih =>
    rw [readInstructions_sound
      (settable_eq_some.mpr ⟨_, findParam_eq_some_iff.mpr h, rfl, hset⟩) hend]
    exact ⟨congrArg _ ih.1, ih.2⟩

theorem Reads.unique {t : Service20Ctx cfg} {n off : ℕ} {xs ys : List Instruction} {b c : Bool}
    (hx : Reads t tc n off xs b) (hy : Reads t tc n off ys c) : xs = ys ∧ b = c :=
  ⟨hx.eq_readInstructions.1.trans hy.eq_readInstructions.1.symm,
    hx.eq_readInstructions.2.trans hy.eq_readInstructions.2.symm⟩

def ReadsCommand (t : Service20Ctx cfg) (tc : TcPacket) (xs : List Instruction)
    (complete : Bool) : Prop :=
  tc.payloadLen.toNat < 1 ∧ xs = [] ∧ complete = false ∨
    1 ≤ tc.payloadLen.toNat ∧ Reads t tc (tc.payload.getD 0 0).toNat 1 xs complete

/-- A command with a fault in it is refused. With the fault in its first instruction it does nothing
at all; otherwise, as long as the table stays as it is, it carries out the instructions before the
fault and nothing else. -/
theorem set_values_refused (cb : Callbacks cfg A) (s : Ptr) (tc : TcPacket) (w : World cfg A)
    (xs : List Instruction) (hl : tc.payloadLen.toNat ≤ 65525)
    (hw : 0 < tc.payloadLen.toNat → NoWrap cb s tc (tc.payload.getD 0 0).toNat 1 w)
    (hf : ReadsCommand (w.s20 s) tc xs false) :
    let r := handleTc20_3 cb tc s w
    (xs = [] → r.val ≠ .ok ∧ setterCalls r.trace = [] ∧ r.state = w) ∧
    (KeepsParams cb s →
      r.val ≠ .ok ∧ ∃ st, CarriesOut cb tc xs w st (setterCalls r.trace) r.state) := by
  intro r
  obtain ⟨hempty, rfl, -⟩ | ⟨hpos, hreads⟩ := hf
  · have h0 : tc.payloadLen < 1 := UInt16.lt_iff_toNat_lt.mpr hempty
    have hr : r = _ := handleTc20_3_empty h0
    have hbad : Status.badLength ≠ .ok := by decide
    rw [hr]
    exact ⟨fun _ ↦ ⟨hbad, rfl, rfl⟩, fun _ ↦ ⟨hbad, .ok, .done w⟩⟩
  have h0 : ¬ tc.payloadLen < 1 := mt UInt16.lt_iff_toNat_lt.mp (Nat.not_lt.mpr hpos)
  have hr : r = _ := handleTc20_3_nonempty h0
  obtain ⟨rfl, hfault⟩ := hreads.eq_readInstructions
  rw [hr]
  constructor
  · exact fun hnil ↦ setValuesLoop_faulty (by omega) 1 hpos (hw hpos) hnil hfault.symm
  · intro hk
    have h := setValuesLoop_accords (Nat.lt_of_le_of_lt hl (by decide)) hk
      (tc.payload.getD 0 0).toNat 1 w hpos (hw hpos)
    have hq := carryOut_carriesOut cb tc
      (readInstructions (w.s20 s) tc (tc.payload.getD 0 0).toNat 1).instructions w
    rw [UInt16.toNat_one] at h
    rw [← h.calls, ← h.state] at hq
    refine ⟨fun hok ↦ ?_, _, hq⟩
    by_cases hdone : (carryOut cb tc (readInstructions (w.s20 s) tc
        (tc.payload.getD 0 0).toNat 1).instructions w).val = .ok
    · exact h.faulty hdone hfault.symm hok
    · exact hdone ((h.failed hdone).symm.trans hok)

def setTwo : TcPacket := ⟨⟨1, 0, 20, 3, 0, 0, 0⟩, [2, 0, 1, 0xAA, 0, 2, 0xBB], 7⟩

theorem keepsParams_quiet (s : Ptr) : KeepsParams (.quiet : Callbacks cfg A) s :=
  fun _ _ _ _ _ _ ↦ rfl

theorem set_values_refused_second :
    (handleTc20_3 .quiet setTwo 0 (oneParam 1)).val ≠ .ok ∧
      setterCalls (handleTc20_3 .quiet setTwo 0 (oneParam 1)).trace =
        [⟨4, 0, 1, 3, 1, [0xAA], .ok⟩] := by
  have hw : NoWrap .quiet 0 setTwo 2 1 (oneParam 1) :=
    (setValuesLoop_inPayload (by decide) 2 1 (oneParam 1) (by decide)).mp (by decide)
  have hslot : ParamSlot ((oneParam 1).s20 0) 1 ⟨0, by decide⟩ :=
    ⟨rfl, rfl, fun j hj ↦ absurd hj (Nat.not_lt_zero j)⟩
  have hreads : Reads ((oneParam 1).s20 0) setTwo 2 1 _ false :=
    .sound hslot rfl (by decide) (.unregistered 0 (by decide) (by decide))
  obtain ⟨-, h⟩ := set_values_refused .quiet 0 setTwo (oneParam 1) _ (by decide) (fun _ ↦ hw)
    (.inr ⟨by decide, hreads⟩)
  obtain ⟨hval, st, hc⟩ := h (keepsParams_quiet 0)
  refine ⟨hval, ?_⟩
  generalize setterCalls (handleTc20_3 .quiet setTwo 0 (oneParam 1)).trace = calls at hc ⊢
  generalize (handleTc20_3 .quiet setTwo 0 (oneParam 1)).state = w' at hc
  cases hc with
  | failed _ hr hst =>
    cases hr
    exact absurd rfl hst
  | set _ _ hrest =>
    cases hrest
    rfl

def registering : Callbacks .default Unit :=
  { Callbacks.quiet with
    setter := fun _ _ _ _ _ ↦ pusService20RegisterParam (some 0) 2 1 (some 3) (some 4) 0 }

/-- The second instruction names a parameter that is not registered; the first has been carried out
when that is found, and a setter that registers it in time has the command accepted. -/
theorem refused_after_write :
    findParam ((oneParam 1).s20 0) (idAt setTwo 4) = none ∧
      (handleTc20_3 .quiet setTwo 0 (oneParam 1)).val = .noHandler ∧
      setterCalls (handleTc20_3 .quiet setTwo 0 (oneParam 1)).trace =
        [⟨4, 0, 1, 3, 1, [0xAA], .ok⟩] ∧
      (handleTc20_3 registering setTwo 0 (oneParam 1)).val = .ok := by
  decide

end EmbeddedPus
