import EmbeddedPus.Service20

namespace EmbeddedPus

open CallTrace Buffer

variable {cfg : Config} {A : Type} {cb : Callbacks cfg A} {s : Ptr}

structure GetterCall where
  getter : Ptr
  userData : Ptr
  paramId : UInt16
  off : ℕ
  capacity : UInt16
  st : Status
  bytes : List UInt8
  deriving DecidableEq, Repr

def getterCalls (t : History cfg) : List GetterCall :=
  t.own (fun _ ↦ []) fun
    | .getter f ud pid off capacity st bytes => [⟨f, ud, pid, off, capacity, st, bytes⟩]
    | _ => []

@[simp] theorem getterCalls_nil : getterCalls (.nil : History cfg) = [] := rfl

@[simp] theorem getterCalls_append (t u : History cfg) :
    getterCalls (t ++ u) = getterCalls t ++ getterCalls u := Trace.own_append ..

theorem getterCalls_callGetter (e : ParamEntry) (pid : UInt16) (off : ℕ) (capacity : UInt16)
    (w : World cfg A) :
    let r := (callGetter cb e pid off capacity w).val
    getterCalls (callGetter cb e pid off capacity w).trace =
      [⟨e.getter, e.userData, pid, off, capacity, r.st, r.bytes⟩] := rfl

def putParam (payload : List UInt8) (off : UInt16) (pid : UInt16) (bytes : List UInt8) :
    List UInt8 :=
  writeAt (writeAt (writeAt payload off.toNat [(pid >>> 8).toUInt8]) (off.toNat + 1)
    [(pid &&& 0xFF).toUInt8]) (off + 2).toNat bytes

section Step

variable {pid : UInt16} {ids : List UInt16} {payload : List UInt8} {off : UInt16}
  {w : World cfg A}

theorem emitReportLoop_unknown (hf : findParam (w.s20 s) pid = none) :
    emitReportLoop cb s (pid :: ids) payload off w = ⟨⟨.noHandler, payload, off⟩, w, .nil⟩ := by
  rw [emitReportLoop, readS20_bind_apply, hf]
  rfl

variable {i : Fin cfg.service20MaxParams}

theorem emitReportLoop_full (hf : findParam (w.s20 s) pid = some i)
    (hl : off + 2 + (w.s20 s i).valueLen > UInt16.ofNat cfg.maxTmPayloadLen) :
    emitReportLoop cb s (pid :: ids) payload off w =
      ⟨⟨.bufferTooSmall, payload, off⟩, w, .nil⟩ := by
  rw [emitReportLoop, readS20_bind_apply, hf]
  simp only [if_pos hl, Prog.pure_apply]

theorem emitReportLoop_get (hf : findParam (w.s20 s) pid = some i)
    (hl : ¬ off + 2 + (w.s20 s i).valueLen > UInt16.ofNat cfg.maxTmPayloadLen) :
    emitReportLoop cb s (pid :: ids) payload off w =
      (callGetter cb (w.s20 s i) pid (off + 2).toNat (w.s20 s i).valueLen >>= fun r ↦
        if r.st ≠ .ok then pure ⟨r.st, putParam payload off pid r.bytes, off + 2⟩
        else emitReportLoop cb s ids (putParam payload off pid r.bytes)
          (off + 2 + (w.s20 s i).valueLen)) w := by
  rw [emitReportLoop, readS20_bind_apply, hf]
  simp only [if_neg hl]
  rfl

theorem emitReportLoop_next (hf : findParam (w.s20 s) pid = some i)
    (hl : ¬ off + 2 + (w.s20 s i).valueLen > UInt16.ofNat cfg.maxTmPayloadLen)
    (hr : (callGetter cb (w.s20 s i) pid (off + 2).toNat (w.s20 s i).valueLen w).val.st = .ok) :
    emitReportLoop cb s (pid :: ids) payload off w =
      let r := callGetter cb (w.s20 s i) pid (off + 2).toNat (w.s20 s i).valueLen w
      let q := emitReportLoop cb s ids (putParam payload off pid r.val.bytes)
        (off + 2 + (w.s20 s i).valueLen) r.state
      ⟨q.val, q.state, r.trace ++ q.trace⟩ := by
  simp only [emitReportLoop_get hf hl, Prog.bind_apply, hr, ne_eq, not_true_eq_false, if_false]

theorem emitReportLoop_failed (hf : findParam (w.s20 s) pid = some i)
    (hl : ¬ off + 2 + (w.s20 s i).valueLen > UInt16.ofNat cfg.maxTmPayloadLen)
    (hr : (callGetter cb (w.s20 s i) pid (off + 2).toNat (w.s20 s i).valueLen w).val.st ≠ .ok) :
    emitReportLoop cb s (pid :: ids) payload off w =
      let r := callGetter cb (w.s20 s i) pid (off + 2).toNat (w.s20 s i).valueLen w
      ⟨⟨r.val.st, putParam payload off pid r.val.bytes, off + 2⟩, r.state, r.trace⟩ := by
  simp only [emitReportLoop_get hf hl, Prog.bind_apply, if_pos hr, Prog.pure_apply,
    Trace.append_nil]

end Step

/-- Every getter call ends inside an array of `n` bytes and starts no earlier than the last. -/
def InArray (n : ℕ) (gs : List GetterCall) : Prop :=
  (∀ g ∈ gs, g.off + g.capacity.toNat ≤ n) ∧ gs.Pairwise fun g h ↦ g.off ≤ h.off

/-- No id that is reached and registered has a value whose end wraps to a number that the array
could hold. -/
def NoFalseRoom (cb : Callbacks cfg A) (s : Ptr) : List UInt16 → ℕ → World cfg A → Prop
  | [], _, _ => True
  | pid :: ids, off, w =>
    match findParam (w.s20 s) pid with
    | none => True
    | some i =>
      let stop := off + 2 + (w.s20 s i).valueLen.toNat
      ¬ (65536 ≤ stop ∧ stop ≤ 65536 + cfg.maxTmPayloadLen) ∧
      (stop ≤ cfg.maxTmPayloadLen →
        let r := callGetter cb (w.s20 s i) pid (off + 2) (w.s20 s i).valueLen w
        r.val.st = .ok → NoFalseRoom cb s ids stop r.state)

variable (cfg) in
/-- The check of the room for a value lets it pass when it fits, and when its end wraps to a number
that would. -/
theorem room_iff {off : UInt16} (len : UInt16) (ho : off.toNat < 65534) :
    ¬ off + 2 + len > UInt16.ofNat cfg.maxTmPayloadLen ↔
      off.toNat + 2 + len.toNat ≤ cfg.maxTmPayloadLen ∨
        (65536 ≤ off.toNat + 2 + len.toNat ∧
          off.toNat + 2 + len.toNat ≤ 65536 + cfg.maxTmPayloadLen) := by
  have hm := cfg.payload_le
  have hmax : (UInt16.ofNat cfg.maxTmPayloadLen).toNat = cfg.maxTmPayloadLen := by
    rw [UInt16.toNat_ofNat']
    exact Nat.mod_eq_of_lt (by omega)
  rw [gt_iff_lt, UInt16.lt_iff_toNat_lt, hmax, Nat.not_lt]
  by_cases hw : off.toNat + 2 + len.toNat < 65536
  · rw [end_toNat hw]
    omega
  · rw [end_wrapped (by omega) (by omega)]
    omega

theorem emitReportLoop_inArray (ids : List UInt16) (payload : List UInt8) (off : UInt16)
    (w : World cfg A) (ho : off.toNat < 65534)
    (hw : NoFalseRoom cb s ids off.toNat w) :
    (∀ g ∈ getterCalls (emitReportLoop cb s ids payload off w).trace,
      off.toNat ≤ g.off ∧ g.off + g.capacity.toNat ≤ cfg.maxTmPayloadLen) ∧
    (getterCalls (emitReportLoop cb s ids payload off w).trace).Pairwise
      fun g h ↦ g.off ≤ h.off := by
  have hm := cfg.payload_le
  induction ids generalizing payload off w with
  | nil => exact ⟨List.forall_mem_nil _, .nil⟩
  | cons pid ids ih =>
    cases hf : findParam (w.s20 s) pid with
    | none =>
      rw [emitReportLoop_unknown hf]
      exact ⟨List.forall_mem_nil _, .nil⟩
    | some i =>
      simp only [NoFalseRoom, hf] at hw
      obtain ⟨hfalse, hrest⟩ := hw
      have hroom := room_iff cfg (w.s20 s i).valueLen ho
      by_cases hl : off + 2 + (w.s20 s i).valueLen > UInt16.ofNat cfg.maxTmPayloadLen
      · rw [emitReportLoop_full hf hl]
        exact ⟨List.forall_mem_nil _, .nil⟩
      have hstop := (hroom.mp hl).resolve_right hfalse
      have h2 : (off + 2).toNat = off.toNat + 2 := toNat_add_two (by omega)
      have hend : (off + 2 + (w.s20 s i).valueLen).toNat =
          off.toNat + 2 + (w.s20 s i).valueLen.toNat := end_toNat (by omega)
      by_cases hr : (callGetter cb (w.s20 s i) pid (off.toNat + 2) (w.s20 s i).valueLen w).val.st =
          .ok
      · rw [emitReportLoop_next hf hl (by rwa [h2]), getterCalls_append, getterCalls_callGetter, h2]
        have h (payload : List UInt8) := ih payload (off + 2 + (w.s20 s i).valueLen) _
          (by omega) (by rw [hend]; exact hrest hstop hr)
        rw [hend] at h
        refine ⟨List.forall_mem_cons.mpr ⟨⟨Nat.le_add_right _ _, hstop⟩, fun g hg ↦ ?_⟩,
          List.pairwise_cons.mpr ⟨fun g hg ↦ ?_, (h _).2⟩⟩
        · have hg' := (h _).1 g hg
          exact ⟨by omega, hg'.2⟩
        · have hg' := (h _).1 g hg
          simp only
          omega
      · rw [emitReportLoop_failed hf hl (by rwa [h2]), getterCalls_callGetter, h2]
        exact ⟨List.forall_mem_singleton.mpr ⟨Nat.le_add_right _ _, hstop⟩,
          List.pairwise_singleton _ _⟩

theorem noFalseRoom_of_emitReportLoop (ids : List UInt16) (payload : List UInt8) (off : UInt16)
    (w : World cfg A) (ho : off.toNat < 65534)
    (h : ∀ g ∈ getterCalls (emitReportLoop cb s ids payload off w).trace,
      g.off + g.capacity.toNat ≤ cfg.maxTmPayloadLen) :
    NoFalseRoom cb s ids off.toNat w := by
  have hm := cfg.payload_le
  induction ids generalizing payload off w with
  | nil => trivial
  | cons pid ids ih =>
    cases hf : findParam (w.s20 s) pid with
    | none => simp only [NoFalseRoom, hf]
    | some i =>
      simp only [NoFalseRoom, hf]
      have hroom := room_iff cfg (w.s20 s i).valueLen ho
      have h2 : (off + 2).toNat = off.toNat + 2 := toNat_add_two (by omega)
      by_cases hl : off + 2 + (w.s20 s i).valueLen > UInt16.ofNat cfg.maxTmPayloadLen
      · have hn := mt hroom.mpr (not_not_intro hl)
        exact ⟨fun hfalse ↦ hn (.inr hfalse), fun hstop ↦ absurd (.inl hstop) hn⟩
      by_cases hr : (callGetter cb (w.s20 s i) pid (off.toNat + 2) (w.s20 s i).valueLen w).val.st =
          .ok
      · rw [emitReportLoop_next hf hl (by rwa [h2]), getterCalls_append, getterCalls_callGetter, h2,
          List.forall_mem_append, List.forall_mem_singleton] at h
        have hstop : off.toNat + 2 + (w.s20 s i).valueLen.toNat ≤ cfg.maxTmPayloadLen := h.1
        have hend : (off + 2 + (w.s20 s i).valueLen).toNat =
            off.toNat + 2 + (w.s20 s i).valueLen.toNat := end_toNat (by omega)
        refine ⟨by omega, fun _ _ ↦ ?_⟩
        rw [← hend]
        exact ih _ _ _ (by omega) h.2
      · rw [emitReportLoop_failed hf hl (by rwa [h2]), getterCalls_callGetter, h2,
          List.forall_mem_singleton] at h
        have hstop : off.toNat + 2 + (w.s20 s i).valueLen.toNat ≤ cfg.maxTmPayloadLen := h
        exact ⟨by omega, fun _ hok ↦ absurd hok hr⟩

theorem requested_eq {ids : List UInt16} (h : ids.length ≤ 255) :
    (List.range (UInt8.ofNat ids.length).toNat).map (ids.getD · 0) = ids := by
  have hlen : (UInt8.ofNat ids.length).toNat = ids.length := by
    rw [UInt8.toNat_ofNat']
    exact Nat.mod_eq_of_lt (by omega)
  rw [hlen]
  apply List.ext_getElem
  · rw [List.length_map, List.length_range]
  · intro i h₁ h₂
    rw [List.getElem_map, List.getElem_range, List.getD_eq_getElem _ _ h₂]

def reportArray (cfg : Config) (count : UInt8) (w : World cfg A) : List UInt8 :=
  writeAt ((List.range cfg.maxTmPayloadLen).map w.stack) 0 [count]

variable (cb s) in
theorem getterCalls_emitReport (c : Ptr) {ids : List UInt16} (h : ids.length ≤ 255)
    (w : World cfg A) :
    getterCalls (pusService20EmitReport cb (some c) (some s) (some ids) (UInt8.ofNat ids.length)
      w).trace =
      getterCalls (emitReportLoop cb s ids (reportArray cfg (UInt8.ofNat ids.length) w) 1
        w).trace := by
  rw [pusService20EmitReport, localArray_bind_apply, localArray_bind_apply, requested_eq h,
    ← reportArray, Prog.bind_trace, getterCalls_append]
  split
  · rw [Prog.pure_apply, getterCalls_nil, List.append_nil]
  · have hbuild (w : World cfg A) (dest : UInt16) (r : Filled) (o : List UInt8) (l : UInt16) :
        getterCalls (pusTmBuild cb (some c) pusServiceParameterManagement
          pusSubtypeParameterValueReport dest (some r.payload) r.off (some o) l (some 0) w).trace =
            [] :=
      own_pusTmBuild cb w (fun _ _ ↦ rfl) (fun _ _ _ _ ↦ rfl) (fun _ _ _ _ _ ↦ rfl) 0
    rw [readCtx_bind_apply, Prog.bind_trace, getterCalls_append, hbuild, Prog.pure_apply,
      getterCalls_nil, List.append_nil, List.append_nil]

/-- Whatever the table and the getters: every getter gets the room it is promised, at offsets that
never go back, exactly when no value's end wraps to a number that the payload array could
hold. -/
theorem getters_in_array_iff (cb : Callbacks cfg A) (c s : Ptr) (ids : List UInt16)
    (w : World cfg A) (h : ids.length ≤ 255) :
    InArray cfg.maxTmPayloadLen (getterCalls (pusService20EmitReport cb (some c) (some s)
      (some ids) (UInt8.ofNat ids.length) w).trace) ↔ NoFalseRoom cb s ids 1 w := by
  rw [getterCalls_emitReport cb s c h]
  constructor
  · exact fun hin ↦ noFalseRoom_of_emitReportLoop ids _ 1 w (by decide) hin.1
  · intro hw
    obtain ⟨hall, hmono⟩ := emitReportLoop_inArray ids
      (reportArray cfg (UInt8.ofNat ids.length) w) 1 w (by decide) hw
    exact ⟨fun g hg ↦ (hall g hg).2, hmono⟩

instance (n : ℕ) (gs : List GetterCall) : Decidable (InArray n gs) :=
  inferInstanceAs (Decidable (_ ∧ _))

theorem getters_in_array_iff_byte : NoFalseRoom .quiet 0 [1, 1] 1 (oneParam 1) :=
  (getters_in_array_iff .quiet 0 0 [1, 1] (oneParam 1) (by decide)).mp (by decide +kernel)

/-- With the registered length 65535 the sum is 2, and a getter is promised 65535 bytes from offset
3 of 256. -/
theorem getter_out_of_array :
    getterCalls (pusService20EmitReport .quiet (some 0) (some 0) (some [1]) 1
        (oneParam 65535)).trace = [⟨3, 0, 1, 3, 65535, .ok, []⟩] ∧
      ¬ InArray 256 (getterCalls (pusService20EmitReport .quiet (some 0) (some 0) (some [1]) 1
        (oneParam 65535)).trace) := by
  decide +kernel

end EmbeddedPus
