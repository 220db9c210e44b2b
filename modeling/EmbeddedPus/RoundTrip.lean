import EmbeddedPus.Emission
import EmbeddedPus.ReportValues
import EmbeddedPus.SetCommand

namespace EmbeddedPus

open CallTrace Buffer ByteOrder

variable {cfg : Config} {A : Type} {cb : Callbacks cfg A} {c s : Ptr}

def GetterCall.encode (g : GetterCall) : List UInt8 := split16 g.paramId ++ g.bytes

/-- The getters fill the room they are given, and leave the table of parameters alone. -/
structure Fills (cb : Callbacks cfg A) (s : Ptr) : Prop where
  length : ∀ f pid capacity ud w, (cb.getter f pid capacity ud w).val.st = .ok →
    (cb.getter f pid capacity ud w).val.bytes.length = capacity.toNat
  keeps : ∀ f pid capacity ud w, (cb.getter f pid capacity ud w).state.s20 s = w.s20 s

structure GetterCall.Registered (t : Service20Ctx cfg) (g : GetterCall) : Prop where
  entry : ∃ i, ParamSlot t g.paramId i ∧ (t i).getter = g.getter ∧
    (t i).userData = g.userData ∧ (t i).valueLen = g.capacity
  length : g.bytes.length = g.capacity.toNat

theorem putParam_eq (payload : List UInt8) {off : UInt16} (pid : UInt16) {bytes : List UInt8}
    (h2 : (off + 2).toNat = off.toNat + 2)
    (h : off.toNat + 2 + bytes.length ≤ payload.length) :
    putParam payload off pid bytes = writeAt payload off.toNat (split16 pid ++ bytes) := by
  have hid : writeAt (writeAt payload off.toNat [(pid >>> 8).toUInt8]) (off.toNat + 1)
      [(pid &&& 0xFF).toUInt8] = writeAt payload off.toNat (split16 pid) :=
    writeAt_writeAt _ rfl (by simp; omega)
  have hvalue : writeAt (writeAt payload off.toNat (split16 pid)) (off.toNat + 2) bytes =
      writeAt payload off.toNat (split16 pid ++ bytes) :=
    writeAt_writeAt _ rfl (by simp; omega)
  rw [putParam, h2, hid]
  exact hvalue

/-- What a successful run of the loop of the report leaves: the getter calls, one for each id, have
their encodings in the payload. -/
structure Reported (t : Service20Ctx cfg) (ids : List UInt16) (payload : List UInt8) (off : ℕ)
    (gs : List GetterCall) (r : Filled) : Prop where
  ids : gs.map (·.paramId) = ids
  registered : ∀ g ∈ gs, g.Registered t
  stop : r.off.toNat = off + (gs.flatMap (·.encode)).length
  room : r.off.toNat ≤ cfg.maxTmPayloadLen
  length : r.payload.length = cfg.maxTmPayloadLen
  bytes : r.payload.take r.off.toNat = payload.take off ++ gs.flatMap (·.encode)

theorem GetterCall.length_encode (g : GetterCall) : g.encode.length = 2 + g.bytes.length := by
  rw [GetterCall.encode, List.length_append, length_split16]

theorem GetterCall.Registered.cons {t : Service20Ctx cfg} {ids : List UInt16} {payload : List UInt8}
    {off stop : ℕ} {g : GetterCall} {gs : List GetterCall} {r : Filled} (hreg : g.Registered t)
    (hstop : stop = off + 2 + g.bytes.length) (hle : stop ≤ payload.length)
    (h : Reported t ids (writeAt payload off g.encode) stop gs r) :
    Reported t (g.paramId :: ids) payload off (g :: gs) r where
  ids := by rw [List.map_cons, h.ids]
  registered := List.forall_mem_cons.mpr ⟨hreg, h.registered⟩
  stop := by
    rw [h.stop, hstop, List.flatMap_cons, List.length_append, g.length_encode]
    omega
  room := h.room
  length := h.length
  bytes := by
    have hn : stop = off + g.encode.length := by
      rw [g.length_encode]
      omega
    rw [h.bytes, take_writeAt hn hle, List.flatMap_cons, List.append_assoc]

theorem emitReportLoop_reported (hcfg : cfg.maxTmPayloadLen ≤ 32766) (hg : Fills cb s)
    (ids : List UInt16) (payload : List UInt8) (off : UInt16) (w : World cfg A)
    (hl : ∀ pid ∈ ids, ∀ i, findParam (w.s20 s) pid = some i →
      (w.s20 s i).valueLen.toNat ≤ cfg.maxTmPayloadLen)
    (hp : payload.length = cfg.maxTmPayloadLen) (ho : off.toNat ≤ cfg.maxTmPayloadLen)
    (hok : (emitReportLoop cb s ids payload off w).val.st = .ok) :
    Reported (w.s20 s) ids payload off.toNat
      (getterCalls (emitReportLoop cb s ids payload off w).trace)
      (emitReportLoop cb s ids payload off w).val := by
  induction ids generalizing payload off w with
  | nil => exact ⟨rfl, List.forall_mem_nil _, rfl, ho, hp, (List.append_nil _).symm⟩
  | cons pid ids ih =>
    cases hf : findParam (w.s20 s) pid with
    | none =>
      rw [emitReportLoop_unknown hf] at hok
      cases hok
    | some i =>
      have hlen := hl pid List.mem_cons_self i hf
      by_cases hroom : off + 2 + (w.s20 s i).valueLen > UInt16.ofNat cfg.maxTmPayloadLen
      · rw [emitReportLoop_full hf hroom] at hok
        cases hok
      have hstop : off.toNat + 2 + (w.s20 s i).valueLen.toNat ≤ cfg.maxTmPayloadLen := by
        have := (room_iff cfg _ (by omega)).mp hroom
        omega
      have h2 : (off + 2).toNat = off.toNat + 2 := toNat_add_two (by omega)
      have hend : (off + 2 + (w.s20 s i).valueLen).toNat =
          off.toNat + 2 + (w.s20 s i).valueLen.toNat := end_toNat (by omega)
      by_cases hr : (callGetter cb (w.s20 s i) pid (off.toNat + 2) (w.s20 s i).valueLen w).val.st =
          .ok
      · rw [emitReportLoop_next hf hroom (by rwa [h2]), h2] at hok ⊢
        have hkeep : (callGetter cb (w.s20 s i) pid (off.toNat + 2) (w.s20 s i).valueLen
          w).state.s20 s = w.s20 s := hg.keeps ..
        have hbytes : (callGetter cb (w.s20 s i) pid (off.toNat + 2) (w.s20 s i).valueLen
          w).val.bytes.length = (w.s20 s i).valueLen.toNat := hg.length _ _ _ _ _ hr
        have hput := putParam_eq payload pid h2 (by rw [hbytes, hp]; exact hstop)
        have h := ih _ (off + 2 + (w.s20 s i).valueLen) _
          (by rw [hkeep]; exact fun p hp ↦ hl p (List.mem_cons_of_mem _ hp))
          (by rw [hput, length_writeAt, hp]) (by rw [hend]; exact hstop) hok
        rw [hkeep, hend, hput] at h
        rw [getterCalls_append, getterCalls_callGetter, List.singleton_append]
        generalize callGetter cb (w.s20 s i) pid (off.toNat + 2) (w.s20 s i).valueLen w = q at *
        have hreg : GetterCall.Registered (w.s20 s) ⟨(w.s20 s i).getter, (w.s20 s i).userData, pid,
          off.toNat + 2, (w.s20 s i).valueLen, q.val.st, q.val.bytes⟩ :=
          ⟨⟨i, findParam_eq_some_iff.mp hf, rfl, rfl, rfl⟩, hbytes⟩
        simp only [hput]
        refine hreg.cons ?_ ?_ h
        · simp only [hbytes]
        · rw [hp]
          exact hstop
      · rw [emitReportLoop_failed hf hroom (by rwa [h2]), h2] at hok
        exact absurd hok hr

/-- A setter call gives the registered setter of a parameter the bytes a getter call produced. -/
structure Returns (t : Service20Ctx cfg) (g : GetterCall) (x : SetterCall) : Prop where
  paramId : x.paramId = g.paramId
  buf : x.buf = g.bytes
  entry : ∃ i, ParamSlot t g.paramId i ∧ (t i).setter = some x.setter ∧
    (t i).userData = x.userData ∧ (t i).valueLen = x.len

theorem idAt_of_drop {tc : TcPacket} {off : ℕ} {pid : UInt16} {rest : List UInt8}
    (h : tc.payload.drop off = split16 pid ++ rest) : idAt tc off = pid := by
  have hget (k : ℕ) : tc.payload.getD (off + k) 0 = (split16 pid ++ rest).getD k 0 := by
    rw [← h, List.getD_eq_getElem?_getD, List.getD_eq_getElem?_getD, List.getElem?_drop]
  have h₀ := hget 0
  rw [Nat.add_zero] at h₀
  rw [idAt, h₀, hget 1]
  exact join16_split16 pid

theorem readInstructions_encode {t : Service20Ctx cfg} {tc : TcPacket}
    (hl : tc.payloadLen.toNat = tc.payload.length) (gs : List GetterCall)
    (hreg : ∀ g ∈ gs, g.Registered t)
    (hset : ∀ g ∈ gs, ∀ i, ParamSlot t g.paramId i → (t i).setter ≠ none)
    (off : ℕ) (ho : off ≤ tc.payload.length)
    (hd : tc.payload.drop off = gs.flatMap (·.encode)) :
    (readInstructions t tc gs.length off).complete = true ∧
      (readInstructions t tc gs.length off).next = tc.payload.length ∧
      List.Forall₂ (Returns t) gs
        ((readInstructions t tc gs.length off).instructions.map (·.called tc .ok)) := by
  induction gs generalizing off with
  | nil =>
    have hle := List.drop_eq_nil_iff.mp hd
    exact ⟨rfl, Nat.le_antisymm ho hle, .nil⟩
  | cons g gs ih =>
    obtain ⟨⟨i, hi, -, hud, hcap⟩, hlen⟩ := hreg g List.mem_cons_self
    obtain ⟨f, hs⟩ := Option.ne_none_iff_exists'.mp (hset g List.mem_cons_self i hi)
    rw [List.flatMap_cons, GetterCall.encode, List.append_assoc] at hd
    have hsum := congrArg List.length hd
    rw [List.length_drop, List.length_append, List.length_append, length_split16, hlen] at hsum
    have hid := idAt_of_drop hd
    have hsettable : settable t tc off = some (t i, f) := by
      rw [settable, hid, findParam_eq_some_iff.mpr hi, Option.bind_some, hs, Option.map_some]
    have hend : off + 2 + (t i).valueLen.toNat ≤ tc.payloadLen.toNat := by
      rw [hcap]
      omega
    have hvalue : tc.payload.drop (off + 2) = g.bytes ++ gs.flatMap (·.encode) := by
      rw [← List.drop_drop, hd]
      rfl
    have hrest : tc.payload.drop (off + 2 + (t i).valueLen.toNat) = gs.flatMap (·.encode) := by
      rw [← List.drop_drop, hvalue, hcap, ← hlen, List.drop_left]
    obtain ⟨hc, hn, hall⟩ := ih (fun g hg ↦ hreg g (List.mem_cons_of_mem _ hg))
      (fun g hg ↦ hset g (List.mem_cons_of_mem _ hg)) _ (by rw [← hl]; exact hend) hrest
    rw [List.length_cons, readInstructions_sound hsettable hend]
    refine ⟨hc, hn, .cons ⟨hid, ?_, i, hi, hs, rfl, rfl⟩ hall⟩
    simp only [Instruction.called, Instruction.value]
    rw [hvalue, hcap, ← hlen, List.take_left]

section Emit

variable {ids : List UInt16} {w : World cfg A}

variable (cb c) in
theorem emitReport_assembled (h : ids.length ≤ 255)
    (hok : (emitReportLoop cb s ids (reportArray cfg (UInt8.ofNat ids.length) w) 1 w).val.st = .ok)
    (hoff : (emitReportLoop cb s ids (reportArray cfg (UInt8.ofNat ids.length) w) 1
      w).val.off.toNat ≤ cfg.maxTmPayloadLen) :
    let q := emitReportLoop cb s ids (reportArray cfg (UInt8.ofNat ids.length) w) 1 w
    let e := emitPacket cb c 20 2 (q.state.ctx c).defaultDestinationId
      (payloadBytes (some q.val.payload) q.val.off) q.state
    pusService20EmitReport cb (some c) (some s) (some ids) (UInt8.ofNat ids.length) w =
      ⟨e.val, e.state, q.trace ++ e.trace⟩ := by
  have hm := cfg.payload_le
  rw [pusService20EmitReport, localArray_bind_apply, localArray_bind_apply, requested_eq h,
    ← reportArray, Prog.bind_apply]
  simp only [hok, ne_eq, not_true_eq_false, if_false, readCtx_bind_apply]
  have hout : (UInt16.ofNat ((List.range (pusTmSecHeaderLen.toNat + cfg.maxTmPayloadLen)).map
      w.stack).length).toNat = 12 + cfg.maxTmPayloadLen := by
    rw [List.length_map, List.length_range, UInt16.toNat_ofNat']
    exact Nat.mod_eq_of_lt (show 12 + cfg.maxTmPayloadLen < 65536 by omega)
  have hlen : ((List.range (pusTmSecHeaderLen.toNat + cfg.maxTmPayloadLen)).map w.stack).length =
      12 + cfg.maxTmPayloadLen := by
    rw [List.length_map, List.length_range]
    rfl
  rw [pusTmBuild_emits cb 0 hoff (by omega) (by omega)]

theorem emitReport_stopped (h : ids.length ≤ 255)
    (hst : (emitReportLoop cb s ids (reportArray cfg (UInt8.ofNat ids.length) w) 1 w).val.st ≠
      .ok) :
    pusService20EmitReport cb (some c) (some s) (some ids) (UInt8.ofNat ids.length) w =
      let q := emitReportLoop cb s ids (reportArray cfg (UInt8.ofNat ids.length) w) 1 w
      ⟨q.val.st, q.state, q.trace⟩ := by
  rw [pusService20EmitReport, localArray_bind_apply, localArray_bind_apply, requested_eq h,
    ← reportArray, Prog.bind_apply]
  simp only [if_pos hst, Prog.pure_apply, Trace.append_nil]

variable (cb c w) in
theorem packets_emitPacket (service subtype : UInt8) (dest : UInt16) (payload : List UInt8) :
    ∃ counter time, packets (emitPacket cb c service subtype dest payload w).trace =
      [(c, tmSecHeaderBytes (tmHeader service subtype counter dest time) ++ payload)] :=
  ⟨_, _, own_emitPacket _ _ (fun _ _ _ _ ↦ rfl) (fun _ _ _ _ _ ↦ rfl) _⟩

variable (cb s) in
theorem own_emitReportLoop {β : Type} {g : Act → List β} {h : Call cfg → List β}
    (hg : ∀ f ud pid off capacity st bytes, h (.getter f ud pid off capacity st bytes) = [])
    (ids : List UInt16) (payload : List UInt8) (off : UInt16) (w : World cfg A) :
    (emitReportLoop cb s ids payload off w).trace.own g h = [] := by
  induction ids generalizing payload off w with
  | nil => rfl
  | cons pid ids ih =>
    cases hf : findParam (w.s20 s) pid with
    | none =>
      rw [emitReportLoop_unknown hf]
      rfl
    | some i =>
      by_cases hroom : off + 2 + (w.s20 s i).valueLen > UInt16.ofNat cfg.maxTmPayloadLen
      · rw [emitReportLoop_full hf hroom]
        rfl
      · have hcall : (callGetter cb (w.s20 s i) pid (off + 2).toNat (w.s20 s i).valueLen
            w).trace.own g h = [] := by
          simp only [callGetter, Prog.call_trace, Trace.own_call, hg, Trace.own_nil,
            List.append_nil]
        rw [emitReportLoop_get hf hroom, Prog.bind_trace, Trace.own_append, hcall,
          List.nil_append]
        split
        · rfl
        · exact ih ..

variable (cb s) in
theorem packets_emitReportLoop (ids : List UInt16) (payload : List UInt8) (off : UInt16)
    (w : World cfg A) : packets (emitReportLoop cb s ids payload off w).trace = [] :=
  own_emitReportLoop cb s (fun _ _ _ _ _ _ _ ↦ rfl) ids payload off w

variable (c) in
/-- A report whose loop succeeds emits the count and then, for each id, what its getter call
contributed. -/
theorem emitReport_emits (hcfg : cfg.maxTmPayloadLen ≤ 32766) (hids : ids.length ≤ 255)
    (hg : Fills cb s)
    (ht : ∀ pid ∈ ids, ∀ i, findParam (w.s20 s) pid = some i →
      (w.s20 s i).valueLen.toNat ≤ cfg.maxTmPayloadLen)
    (hst : (emitReportLoop cb s ids (reportArray cfg (UInt8.ofNat ids.length) w) 1 w).val.st =
      .ok) :
    let q := emitReportLoop cb s ids (reportArray cfg (UInt8.ofNat ids.length) w) 1 w
    let payload := UInt8.ofNat ids.length :: (getterCalls q.trace).flatMap (·.encode)
    let e := emitPacket cb c 20 2 (q.state.ctx c).defaultDestinationId payload q.state
    pusService20EmitReport cb (some c) (some s) (some ids) (UInt8.ofNat ids.length) w =
      ⟨e.val, e.state, q.trace ++ e.trace⟩ ∧ payload.length ≤ cfg.maxTmPayloadLen ∧
      Reported (w.s20 s) ids (reportArray cfg (UInt8.ofNat ids.length) w) 1 (getterCalls q.trace)
        q.val := by
  intro q payload
  have hpos := cfg.payload_pos
  have harray : (reportArray cfg (UInt8.ofNat ids.length) w).length = cfg.maxTmPayloadLen := by
    rw [reportArray, length_writeAt, List.length_map, List.length_range]
  have hcount : (reportArray cfg (UInt8.ofNat ids.length) w).take 1 = [UInt8.ofNat ids.length] :=
    take_writeAt rfl (by rw [List.length_map, List.length_range]; exact hpos)
  have hrep : Reported _ _ _ _ (getterCalls q.trace) q.val :=
    emitReportLoop_reported hcfg hg ids _ 1 w ht harray hpos hst
  have hpayload : payloadBytes (some q.val.payload) q.val.off = payload := by
    rw [payloadBytes_some (by rw [hrep.length]; exact hrep.room), hrep.bytes, UInt16.toNat_one,
      hcount]
    rfl
  have he := emitReport_assembled cb c hids hst hrep.room
  simp only at he
  rw [hpayload] at he
  refine ⟨he, ?_, hrep⟩
  rw [← hpayload, length_payloadBytes]
  exact hrep.room

variable (c) in
theorem emitReport_sent (hcfg : cfg.maxTmPayloadLen ≤ 32766) (hids : ids.length ≤ 255)
    (hg : Fills cb s)
    (ht : ∀ pid ∈ ids, ∀ i, findParam (w.s20 s) pid = some i →
      (w.s20 s i).valueLen.toNat ≤ cfg.maxTmPayloadLen)
    (hok : (pusService20EmitReport cb (some c) (some s) (some ids) (UInt8.ofNat ids.length)
      w).val = .ok) :
    let e := pusService20EmitReport cb (some c) (some s) (some ids) (UInt8.ofNat ids.length) w
    let payload := UInt8.ofNat ids.length :: (getterCalls e.trace).flatMap (·.encode)
    (getterCalls e.trace).map (·.paramId) = ids ∧
      (∀ g ∈ getterCalls e.trace, g.Registered (w.s20 s)) ∧ payload.length < 65534 ∧
      ∃ counter dest time, packets e.trace =
        [(c, tmSecHeaderBytes (tmHeader 20 2 counter dest time) ++ payload)] := by
  intro e payload
  by_cases hst : (emitReportLoop cb s ids (reportArray cfg (UInt8.ofNat ids.length) w) 1
      w).val.st = .ok
  swap
  · rw [emitReport_stopped hids hst] at hok
    exact absurd hok hst
  have hm := cfg.payload_le
  obtain ⟨hrun, hlen, hrep⟩ := emitReport_emits c hcfg hids hg ht hst
  have hgs := getterCalls_emitReport cb s c hids w
  have hloop := packets_emitReportLoop cb s ids
    (reportArray cfg (UInt8.ofNat ids.length) w) 1 w
  generalize emitReportLoop cb s ids (reportArray cfg (UInt8.ofNat ids.length) w) 1 w = q at *
  obtain ⟨counter, time, hpackets⟩ := packets_emitPacket cb c q.state 20 2
    (q.state.ctx c).defaultDestinationId
    (UInt8.ofNat ids.length :: (getterCalls q.trace).flatMap (·.encode))
  simp only [e, payload, hgs]
  refine ⟨hrep.ids, hrep.registered, by omega, counter, (q.state.ctx c).defaultDestinationId,
    time, ?_⟩
  rw [hrun, packets_append, hloop, List.nil_append, hpackets]

end Emit

structure Accepts (cb : Callbacks cfg A) (s : Ptr) : Prop where
  ok : ∀ f pid buf len ud w, (cb.setter f pid buf len ud w).val = .ok
  keeps : KeepsParams cb s

theorem set_values_of_report (ha : Accepts cb s) {gs : List GetterCall} {tc : TcPacket}
    {w : World cfg A} (hlen : gs.length ≤ 255) (hreg : ∀ g ∈ gs, g.Registered (w.s20 s))
    (hset : ∀ g ∈ gs, ∀ i, ParamSlot (w.s20 s) g.paramId i → (w.s20 s i).setter ≠ none)
    (hp : tc.payload = UInt8.ofNat gs.length :: gs.flatMap (·.encode))
    (hl : tc.payloadLen.toNat = tc.payload.length) (hle : tc.payload.length < 65534) :
    (handleTc20_3 cb tc s w).val = .ok ∧
      List.Forall₂ (Returns (w.s20 s)) gs (setterCalls (handleTc20_3 cb tc s w).trace) ∧
      (setValuesLoop cb s tc (tc.payload.getD 0 0).toNat 1 w).val.2.toNat = tc.payload.length := by
  have hn : (tc.payload.getD 0 0).toNat = gs.length := by
    rw [hp, List.getD_cons_zero, UInt8.toNat_ofNat']
    exact Nat.mod_eq_of_lt (by omega)
  have hpos : 1 ≤ tc.payload.length := by
    rw [hp, List.length_cons]
    exact Nat.le_add_left _ _
  have h0 : ¬ tc.payloadLen < 1 := by
    rw [UInt16.lt_iff_toNat_lt, hl]
    exact Nat.not_lt.mpr hpos
  obtain ⟨hc, hnext, hall⟩ := readInstructions_encode hl gs hreg hset 1 hpos (by rw [hp]; rfl)
  have hw := noWrap_of_complete (by omega) ha.keeps gs.length 1 w hc
  have h := setValuesLoop_accords (by omega) ha.keeps gs.length 1 w (by rw [hl]; exact hpos) hw
  rw [UInt16.toNat_one] at h
  obtain ⟨hok, hcalls⟩ := carryOut_accepted tc ha.ok
    (readInstructions (w.s20 s) tc gs.length 1).instructions w
  obtain ⟨hval, hoff⟩ := h.complete hok hc
  rw [handleTc20_3_nonempty h0, hn]
  refine ⟨hval, ?_, hoff.trans hnext⟩
  rw [← hcalls, ← h.calls] at hall
  exact hall

/-- The payload of a report, sent back as a command on the same table, sets every reported parameter
to the reported value, once for each time it was asked for and in that order. -/
theorem report_round_trip (cb : Callbacks cfg A) (c s : Ptr) (ids : List UInt16)
    (w : World cfg A) (hcfg : cfg.maxTmPayloadLen ≤ 32766) (hids : ids.length ≤ 255)
    (hg : Fills cb s) (ha : Accepts cb s)
    (ht : ∀ pid ∈ ids, ∀ i, ParamSlot (w.s20 s) pid i → (w.s20 s i).setter ≠ none ∧
      (w.s20 s i).valueLen.toNat ≤ cfg.maxTmPayloadLen)
    (hok : (pusService20EmitReport cb (some c) (some s) (some ids) (UInt8.ofNat ids.length)
      w).val = .ok) :
    let e := pusService20EmitReport cb (some c) (some s) (some ids) (UInt8.ofNat ids.length) w
    ∃ bytes, packets e.trace = [(c, bytes)] ∧ (tmSecHeaderOf bytes).serviceTypeId = 20 ∧
      (tmSecHeaderOf bytes).subtypeId = 2 ∧ (getterCalls e.trace).map (·.paramId) = ids ∧
      ∀ (w' : World cfg A) (tc : TcPacket), w'.s20 s = w.s20 s → tc.payload = bytes.drop 12 →
        tc.payloadLen.toNat = tc.payload.length →
        (handleTc20_3 cb tc s w').val = .ok ∧
        List.Forall₂ (Returns (w.s20 s)) (getterCalls e.trace)
          (setterCalls (handleTc20_3 cb tc s w').trace) ∧
        (setValuesLoop cb s tc (tc.payload.getD 0 0).toNat 1 w').val.2.toNat =
          tc.payload.length := by
  intro e
  obtain ⟨hids', hreg, hrange, counter, dest, time, hpackets⟩ := emitReport_sent c hcfg hids hg
    (fun pid hp i hf ↦ (ht pid hp i (findParam_eq_some_iff.mp hf)).2) hok
  have hcard : (getterCalls e.trace).length = ids.length := by
    rw [← List.length_map (·.paramId), hids']
  have hhdr := tmSecHeaderOf_bytes (h := tmHeader 20 2 counter dest time)
    (show pusVersion < 16 by decide) (show (0 : UInt8) < 16 by decide)
    (UInt8.ofNat ids.length :: (getterCalls e.trace).flatMap (·.encode))
  refine ⟨_, hpackets, congrArg TmSecHeader.serviceTypeId hhdr,
    congrArg TmSecHeader.subtypeId hhdr, hids', fun w' tc hw' hp hlen ↦ ?_⟩
  have hp' : tc.payload =
      UInt8.ofNat (getterCalls e.trace).length :: (getterCalls e.trace).flatMap (·.encode) := by
    rw [hp, hcard]
    rfl
  rw [← hw'] at ht ⊢
  refine set_values_of_report ha (by rw [hcard]; exact hids) (by rw [hw']; exact hreg) ?_ hp' hlen
    ?_
  · intro g hg i hi
    exact (ht g.paramId (hids' ▸ List.mem_map_of_mem hg) i hi).1
  · rw [hp', hcard]
    exact hrange

def filling : Callbacks .default Unit :=
  { Callbacks.quiet with
    getter _ _ capacity _ := pure ⟨.ok, List.replicate capacity.toNat 0x5A⟩ }

theorem filling_fills (s : Ptr) : Fills filling s :=
  ⟨fun _ _ _ _ _ _ ↦ List.length_replicate, fun _ _ _ _ _ ↦ rfl⟩

def sentBack : TcPacket := ⟨⟨1, 0, 20, 3, 0, 0, 0⟩, [2, 0, 1, 0x5A, 0x5A, 0, 1, 0x5A, 0x5A], 9⟩

theorem report_round_trip_twice :
    let e := pusService20EmitReport filling (some 0) (some 0) (some [1, 1]) 2 (oneParam 2)
    let r := handleTc20_3 filling sentBack 0 (oneParam 2)
    packets e.trace =
      [(0, [0x10, 20, 2, 0, 0, 0, 0, 0, 0, 0, 0, 0, 2, 0, 1, 0x5A, 0x5A, 0, 1, 0x5A, 0x5A])] ∧
    r.val = .ok ∧
    setterCalls r.trace = [⟨4, 0, 1, 3, 2, [0x5A, 0x5A], .ok⟩, ⟨4, 0, 1, 7, 2, [0x5A, 0x5A], .ok⟩] ∧
    List.Forall₂ (Returns ((oneParam 2).s20 0)) (getterCalls e.trace) (setterCalls r.trace) := by
  intro e r
  have ha : Accepts filling 0 := ⟨fun _ _ _ _ _ _ ↦ rfl, fun _ _ _ _ _ _ ↦ rfl⟩
  have hfind : findParam ((oneParam 2).s20 0) 1 = some ⟨0, by decide⟩ := by decide
  have ht : ∀ pid ∈ [1, 1], ∀ i, ParamSlot ((oneParam 2).s20 0) pid i →
      ((oneParam 2).s20 0 i).setter ≠ none ∧ ((oneParam 2).s20 0 i).valueLen.toNat ≤ 256 := by
    intro pid hpid i hi
    obtain rfl : pid = 1 := by simpa using hpid
    obtain rfl := Option.some.inj (hfind.symm.trans (findParam_eq_some_iff.mpr hi))
    decide
  obtain ⟨bytes, hp, -, -, -, h⟩ := report_round_trip filling 0 0 [1, 1] (oneParam 2) (by decide)
    (by decide) (filling_fills 0) ha ht (by decide +kernel)
  have hpackets : packets e.trace =
      [(0, [0x10, 20, 2, 0, 0, 0, 0, 0, 0, 0, 0, 0, 2, 0, 1, 0x5A, 0x5A, 0, 1, 0x5A, 0x5A])] := by
    decide +kernel
  obtain rfl := (Prod.mk.inj (List.cons.inj (hp.symm.trans hpackets)).1).2
  obtain ⟨hval, hback, -⟩ := h (oneParam 2) sentBack rfl rfl rfl
  exact ⟨hpackets, hval, by decide +kernel, hback⟩

end EmbeddedPus
