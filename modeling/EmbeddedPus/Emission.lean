import EmbeddedPus.TmBuild

namespace EmbeddedPus

open CallTrace Buffer ByteOrder

variable {cfg : Config} {A : Type} {cb : Callbacks cfg A} {c : Ptr}

/-- The packets a computation built itself. -/
def packets (t : History cfg) : List (Ptr × List UInt8) :=
  t.own (fun | .packet c bytes => [(c, bytes)] | .read _ => []) fun _ ↦ []

@[simp] theorem packets_nil : packets (.nil : History cfg) = [] := rfl

@[simp] theorem packets_append (t u : History cfg) : packets (t ++ u) = packets t ++ packets u :=
  Trace.own_append ..

@[simp] theorem packets_act (c : Ptr) (bytes : List UInt8) (t : History cfg) :
    packets (.act (.packet c bytes) t) = (c, bytes) :: packets t := rfl

structure Delivery where
  ctx : Ptr
  sink : Ptr
  userData : Ptr
  data : List UInt8
  st : Status
  deriving DecidableEq, Repr

def deliveries (t : History cfg) : List Delivery :=
  t.own (fun _ ↦ []) fun
    | .tmSink c sink ud data st => [⟨c, sink, ud, data, st⟩]
    | _ => []

@[simp] theorem deliveries_nil : deliveries (.nil : History cfg) = [] := rfl

@[simp] theorem deliveries_append (t u : History cfg) :
    deliveries (t ++ u) = deliveries t ++ deliveries u := Trace.own_append ..

@[simp] theorem deliveries_act (a : Act) (t : History cfg) :
    deliveries (.act a t) = deliveries t := rfl

structure ClockCall where
  ctx : Ptr
  source : Ptr
  userData : Ptr
  time : UInt32
  deriving DecidableEq, Repr

def clockCalls (t : History cfg) : List ClockCall :=
  t.own (fun _ ↦ []) fun
    | .timeSource c source ud time => [⟨c, source, ud, time⟩]
    | _ => []

@[simp] theorem clockCalls_append (t u : History cfg) :
    clockCalls (t ++ u) = clockCalls t ++ clockCalls u := Trace.own_append ..

@[simp] theorem clockCalls_act (a : Act) (t : History cfg) :
    clockCalls (.act a t) = clockCalls t := rfl

/-- What the time source configured in `k` answers and the world it leaves; zero without one. -/
def Context.askTime (cb : Callbacks cfg A) (k : Context cfg) (w : World cfg A) :
    UInt32 × World cfg A :=
  match k.timeSource with
  | none => (0, w)
  | some f =>
    let r := cb.timeSource f k.timeSourceUserData w
    (r.val, r.state)

def Context.timeCalls (c : Ptr) (k : Context cfg) (time : UInt32) : List ClockCall :=
  match k.timeSource with
  | none => []
  | some f => [⟨c, f, k.timeSourceUserData, time⟩]

/-- What the sink configured in `k` returns for `bytes` and the world it leaves; OK without one. -/
def Context.handOver (cb : Callbacks cfg A) (k : Context cfg) (bytes : List UInt8)
    (w : World cfg A) : Status × World cfg A :=
  match k.tmSink with
  | none => (.ok, w)
  | some f =>
    let r := cb.tmSink f k.tmSinkUserData bytes w
    (r.val, r.state)

def Context.deliver (c : Ptr) (k : Context cfg) (bytes : List UInt8) (st : Status) :
    List Delivery :=
  match k.tmSink with
  | none => []
  | some f => [⟨c, f, k.tmSinkUserData, bytes, st⟩]

/-- What sending the one packet `bytes` for `c` looks like when `k` has the sink: it is built once,
given to the sink once, and the status is the sink's. -/
structure Sends (c : Ptr) (k : Context cfg) (bytes : List UInt8) (st : Status)
    (t : History cfg) : Prop where
  packets : packets t = [(c, bytes)]
  deliveries : deliveries t = k.deliver c bytes st
  status : k.tmSink = none → st = .ok

theorem Sends.congr {k : Context cfg} {bytes : List UInt8} {st : Status} {t u : History cfg}
    (h : Sends c k bytes st u) (hp : EmbeddedPus.packets t = EmbeddedPus.packets u)
    (hd : EmbeddedPus.deliveries t = EmbeddedPus.deliveries u) : Sends c k bytes st t :=
  ⟨hp.trans h.packets, hd.trans h.deliveries, h.status⟩

section Calls

variable (w : World cfg A)

theorem packets_callTimeSource : packets (callTimeSource cb c w).trace = [] :=
  own_callTimeSource cb w fun _ _ _ _ ↦ rfl

theorem packets_callTmSink (data : List UInt8) : packets (callTmSink cb c data w).trace = [] :=
  own_callTmSink cb w (fun _ _ _ _ _ ↦ rfl) data

theorem deliveries_callTimeSource : deliveries (callTimeSource cb c w).trace = [] :=
  own_callTimeSource cb w fun _ _ _ _ ↦ rfl

theorem deliveries_callTmSink (data : List UInt8) :
    deliveries (callTmSink cb c data w).trace =
      (w.ctx c).deliver c data (callTmSink cb c data w).val := by
  cases hk : (w.ctx c).tmSink with
  | none =>
    rw [callTmSink_none cb hk, Context.deliver, hk]
    rfl
  | some f =>
    rw [callTmSink_some cb hk, Context.deliver, hk]
    rfl

theorem callTimeSource_asked : (w.ctx c).askTime cb w =
    ((callTimeSource cb c w).val, (callTimeSource cb c w).state) := by
  cases hk : (w.ctx c).timeSource with
  | none => rw [callTimeSource_none cb hk, Context.askTime, hk]
  | some f =>
    rw [callTimeSource_some cb hk, Context.askTime, hk]
    rfl

theorem clockCalls_callTimeSource : clockCalls (callTimeSource cb c w).trace =
    (w.ctx c).timeCalls c (callTimeSource cb c w).val := by
  cases hk : (w.ctx c).timeSource with
  | none =>
    rw [callTimeSource_none cb hk, Context.timeCalls, hk]
    rfl
  | some f =>
    rw [callTimeSource_some cb hk, Context.timeCalls, hk]
    rfl

theorem callTmSink_handed (data : List UInt8) : (w.ctx c).handOver cb data w =
    ((callTmSink cb c data w).val, (callTmSink cb c data w).state) := by
  cases hk : (w.ctx c).tmSink with
  | none => rw [callTmSink_none cb hk, Context.handOver, hk]
  | some f =>
    rw [callTmSink_some cb hk, Context.handOver, hk]
    rfl

theorem clockCalls_callTmSink (data : List UInt8) :
    clockCalls (callTmSink cb c data w).trace = [] :=
  own_callTmSink cb w (fun _ _ _ _ _ ↦ rfl) data

end Calls

variable (cb c) in
def stampedHeader (service subtype : UInt8) (dest : UInt16) (w : World cfg A) : TmSecHeader :=
  tmHeader service subtype (w.ctx c).tmCounter dest (callTimeSource cb c w).val

theorem emitPacket_apply (service subtype : UInt8) (dest : UInt16) (payload : List UInt8)
    (w : World cfg A) :
    emitPacket cb c service subtype dest payload w =
      let q := callTimeSource cb c w
      let k := q.state.ctx c
      let bytes := tmSecHeaderBytes (stampedHeader cb c service subtype dest w) ++ payload
      let r := callTmSink cb c bytes (q.state.setCtx c { k with tmCounter := k.tmCounter + 1 })
      ⟨r.val, r.state, q.trace ++ .act (.packet c bytes) r.trace⟩ := by
  simp only [emitPacket, Prog.bind_apply, buildPacket_apply, Trace.append_assoc, Trace.act_append,
    Trace.nil_append, stampedHeader]

variable (cb c) in
/-- What an emission sends. The sink is the one the time source leaves in the context. -/
theorem emitPacket_sends (service subtype : UInt8) (dest : UInt16) (payload : List UInt8)
    (w : World cfg A) :
    let e := emitPacket cb c service subtype dest payload w
    Sends c ((callTimeSource cb c w).state.ctx c)
      (tmSecHeaderBytes (stampedHeader cb c service subtype dest w) ++ payload) e.val e.trace := by
  simp only [emitPacket_apply]
  constructor
  · rw [packets_append, packets_callTimeSource, packets_act, packets_callTmSink, List.nil_append]
  · rw [deliveries_append, deliveries_callTimeSource, deliveries_act, deliveries_callTmSink,
      List.nil_append, World.setCtx_ctx]
    rfl
  · intro h
    exact congrArg Outcome.val (callTmSink_none cb (by rw [World.setCtx_ctx]; exact h) _)

theorem pusTmSecHeaderDecode_packet (service subtype : UInt8) (counter dest : UInt16)
    (time : UInt32) (payload : List UInt8) {len : UInt16} (hl : 12 ≤ len) (h : TmSecHeader) :
    pusTmSecHeaderDecode
        (some (tmSecHeaderBytes (tmHeader service subtype counter dest time) ++ payload)) len
        (some h) = (.ok, some (tmHeader service subtype counter dest time)) := by
  have hv : (tmHeader service subtype counter dest time).version < 16 :=
    show pusVersion < 16 by decide
  have ht : (tmHeader service subtype counter dest time).timeRefStatus < 16 :=
    show (0 : UInt8) < 16 by decide
  rw [pusTmSecHeaderDecode_fits h hl, tmSecHeaderOf_bytes hv ht]

theorem payloadBytes_eq {payload : Option (List UInt8)} {payloadLen : UInt16}
    (h : ∀ p, payload = some p → payloadLen.toNat ≤ p.length) :
    payloadBytes payload payloadLen =
      payload.elim (List.replicate payloadLen.toNat 0) (·.take payloadLen.toNat) := by
  cases payload with
  | none => rw [payloadBytes, List.map_const', List.length_range]; rfl
  | some p => exact payloadBytes_some (h p rfl)

theorem pusTmBuild_apply {service subtype : UInt8} {dest : UInt16} {payload : Option (List UInt8)}
    {payloadLen capacity : UInt16} {o : List UInt8} (l : UInt16) (w : World cfg A)
    (hp : payloadLen.toNat ≤ cfg.maxTmPayloadLen) (hc : 12 + payloadLen.toNat ≤ capacity.toNat)
    (ho : capacity.toNat ≤ o.length) :
    pusTmBuild cb (some c) service subtype dest payload payloadLen (some o) capacity (some l) w =
      let e := emitPacket cb c service subtype dest (payloadBytes payload payloadLen) w
      let bytes := tmSecHeaderBytes (stampedHeader cb c service subtype dest w) ++
        payloadBytes payload payloadLen
      ⟨⟨e.val, some (writeAt o 0 bytes), some (pusTmSecHeaderLen + payloadLen)⟩, e.state,
        e.trace⟩ := by
  rw [pusTmBuild_fits cb l hp hc ho]
  simp only [Prog.bind_apply, buildPacket_apply, emitPacket_apply, Prog.pure_apply,
    Trace.append_nil, Trace.append_assoc, Trace.act_append, Trace.nil_append, stampedHeader]

theorem clockCalls_emitPacket (service subtype : UInt8) (dest : UInt16) (payload : List UInt8)
    (w : World cfg A) : clockCalls (emitPacket cb c service subtype dest payload w).trace =
      (w.ctx c).timeCalls c (callTimeSource cb c w).val := by
  rw [emitPacket_apply, clockCalls_append, clockCalls_callTimeSource, clockCalls_act,
    clockCalls_callTmSink, List.append_nil]

/-- On a context that its time source leaves alone, an emission ends as its sink does. -/
theorem Undisturbed.emitPacket_handed {w : World cfg A} (hu : Undisturbed cb c (w.ctx c))
    (service subtype : UInt8) (dest : UInt16) (payload : List UInt8) :
    let e := emitPacket cb c service subtype dest payload w
    (w.ctx c).handOver cb
        (tmSecHeaderBytes (stampedHeader cb c service subtype dest w) ++ payload)
        (((w.ctx c).askTime cb w).2.setCtx c
          { w.ctx c with tmCounter := (w.ctx c).tmCounter + 1 }) = (e.val, e.state) := by
  let w' := (callTimeSource cb c w).state.setCtx c
    { w.ctx c with tmCounter := (w.ctx c).tmCounter + 1 }
  let bytes := tmSecHeaderBytes (stampedHeader cb c service subtype dest w) ++ payload
  have hhand : (w'.ctx c).handOver cb bytes w' = _ := callTmSink_handed w' bytes
  rw [World.setCtx_ctx] at hhand
  simp only [emitPacket_apply, hu.callTimeSource_ctx, callTimeSource_asked]
  exact hhand

/-- `pus_tm_build` on a context that its sink and its time source leave alone. -/
theorem tm_build_contract (cb : Callbacks cfg A) (c : Ptr) (service subtype : UInt8)
    (dest : UInt16) (payload : Option (List UInt8)) (payloadLen : UInt16) (o : List UInt8)
    (capacity l : UInt16) (w : World cfg A) (ho : capacity.toNat ≤ o.length)
    (hp : ∀ p, payload = some p → payloadLen.toNat ≤ p.length)
    (hu : Undisturbed cb c (w.ctx c)) :
    let r := pusTmBuild cb (some c) service subtype dest payload payloadLen (some o) capacity
      (some l) w
    let n := payloadLen.toNat
    let k := w.ctx c
    let k' := { k with tmCounter := k.tmCounter + 1 }
    let (time, w') := k.askTime cb w
    (cfg.maxTmPayloadLen < n ∨ capacity.toNat < 12 + n →
      r = ⟨⟨.bufferTooSmall, some o, some l⟩, w, .nil⟩) ∧
    (n ≤ cfg.maxTmPayloadLen → 12 + n ≤ capacity.toNat → ∃ bytes len,
      r.val.out = some (bytes ++ o.drop (12 + n)) ∧ bytes.length = 12 + n ∧
      r.val.outLen = some len ∧ len.toNat = 12 + n ∧
      (∀ h, pusTmSecHeaderDecode (some bytes) len (some h) = (.ok, some
        { version := pusVersion
          timeRefStatus := 0
          serviceTypeId := service
          subtypeId := subtype
          msgTypeCounter := k.tmCounter
          destinationId := dest
          time := time
          spare := 0 })) ∧
      bytes.drop 12 = payload.elim (List.replicate n 0) (·.take n) ∧
      clockCalls r.trace = k.timeCalls c time ∧
      Sends c k bytes r.val.st r.trace ∧
      k.handOver cb bytes (w'.setCtx c k') = (r.val.st, r.state) ∧ r.state.ctx c = k') := by
  intro r n k k'
  have htime : k.askTime cb w = _ := callTimeSource_asked w
  rw [htime]
  constructor
  · intro h
    exact congrFun (pusTmBuild_rejects cb l h) w
  · intro hn hc
    have hlen := header_add_toNat hn
    have hr : r = _ := pusTmBuild_apply l w hn hc ho
    have hbytes : (tmSecHeaderBytes (stampedHeader cb c service subtype dest w) ++
        payloadBytes payload payloadLen).length = 12 + n := by
      rw [List.length_append, length_tmSecHeaderBytes, length_payloadBytes]
    have hsends := emitPacket_sends cb c service subtype dest
      (payloadBytes payload payloadLen) w
    rw [hu.callTimeSource_ctx] at hsends
    have hhand := hu.emitPacket_handed service subtype dest (payloadBytes payload payloadLen)
    rw [callTimeSource_asked] at hhand
    have h12 : (12 : UInt16) ≤ pusTmSecHeaderLen + payloadLen := by
      rw [UInt16.le_iff_toNat_le, hlen]
      exact Nat.le_add_right _ _
    refine ⟨_, pusTmSecHeaderLen + payloadLen, ?_, hbytes, by rw [hr], hlen, ?_, ?_, ?_, ?_, ?_, ?_⟩
    · rw [hr, ← hbytes]
      exact congrArg some (writeAt_zero (by omega))
    · exact pusTmSecHeaderDecode_packet service subtype _ dest _ _ h12
    · rw [← payloadBytes_eq hp]
      rfl
    · rw [hr]
      exact clockCalls_emitPacket ..
    · rw [hr]
      exact hsends
    · rw [hr]
      exact hhand
    · rw [hr]
      exact hu.emitPacket_ctx _

def attended : World .default Unit :=
  (World.cleared ()).setCtx 0
    { Context.zero .default with
      tmSink := some 7
      timeSource := some 8 }

/-- A clock that does not stand at zero, and a sink that fails. -/
def clocked : Callbacks .default Unit :=
  { Callbacks.quiet with
    timeSource := fun _ _ ↦ pure 0x01020304
    tmSink := fun _ _ _ ↦ pure .handlerFailed }

theorem tm_build_contract_alive :
    let r := pusTmBuild clocked (some 0) 17 2 5 (some [0xAB]) 1 (some (List.replicate 14 0xFF)) 14
      (some 0) attended
    let bytes : List UInt8 := [0x10, 17, 2, 0, 0, 0, 5, 1, 2, 3, 4, 0, 0xAB]
    r.val = ⟨.handlerFailed, some (bytes ++ [0xFF]), some 13⟩ ∧
      clockCalls r.trace = [⟨0, 8, 0, 0x01020304⟩] ∧
      deliveries r.trace = [⟨0, 7, 0, bytes, .handlerFailed⟩] := by
  have hu : Undisturbed clocked 0 (attended.ctx 0) := ⟨fun _ _ _ _ ↦ rfl, fun _ _ _ ↦ rfl⟩
  obtain ⟨-, h⟩ := tm_build_contract clocked 0 17 2 5 (some [0xAB]) 1 (List.replicate 14 0xFF) 14 0
    attended (by decide) (by rintro _ ⟨⟩; decide) hu
  obtain ⟨bytes, len, hout, hlen, -, -, -, -, hclock, hsends, -, -⟩ := h (by decide) (by decide)
  have hval : (pusTmBuild clocked (some 0) 17 2 5 (some [0xAB]) 1 (some (List.replicate 14 0xFF)) 14
      (some 0) attended).val = ⟨.handlerFailed, some ([0x10, 17, 2, 0, 0, 0, 5, 1, 2, 3, 4, 0, 0xAB]
        ++ [0xFF]), some 13⟩ := by
    decide
  rw [hval] at hout
  have hbytes := (List.append_inj (Option.some.inj hout) hlen.symm).1
  have hdelivered := hsends.deliveries
  rw [← hbytes, hval] at hdelivered
  exact ⟨hval, hclock, hdelivered⟩

def FitsBehindId (cfg : Config) (n : ℕ) : Prop :=
  2 + n ≤ cfg.maxTmPayloadLen ∧ cfg.maxTmPayloadLen ≤ 65521

instance (cfg : Config) (n : ℕ) : Decidable (FitsBehindId cfg n) :=
  inferInstanceAs (Decidable (_ ∧ _))

/-- The last step of the emitters that put two bytes in front of the data they are given: the array
they assemble is two bytes longer than what `pus_tm_build` takes. -/
theorem pusTmBuild_local {service subtype : UInt8} {dest id n : UInt16}
    {array out data : List UInt8} (harray : array.length = 2 + cfg.maxTmPayloadLen)
    (hout : out.length = 14 + cfg.maxTmPayloadLen) (hn : n.toNat ≤ cfg.maxTmPayloadLen)
    (hdata : n.toNat ≤ data.length) :
    (do
      let r ← pusTmBuild cb (some c) service subtype dest
        (some (writeAt (writeAt array 0 (split16 id)) 2 data)) (2 + n) (some out)
        (UInt16.ofNat out.length) (some 0)
      pure r.st : Pus cfg A Status) =
      if FitsBehindId cfg n.toNat then
        emitPacket cb c service subtype dest (split16 id ++ data.take n.toNat)
      else pure .bufferTooSmall := by
  have hm := cfg.payload_le
  have h2 : (2 : UInt16).toNat = 2 := rfl
  have hlen : (2 + n).toNat = 2 + n.toNat := by
    rw [UInt16.toNat_add, h2]
    exact Nat.mod_eq_of_lt (by omega)
  have hcap : (UInt16.ofNat out.length).toNat = (14 + cfg.maxTmPayloadLen) % 65536 := by
    rw [UInt16.toNat_ofNat', hout]
  split
  · rename_i h
    obtain ⟨hle, hmax⟩ := h
    have hpayload : payloadBytes (some (writeAt (writeAt array 0 (split16 id)) 2 data)) (2 + n) =
        split16 id ++ data.take n.toNat := by
      have hid : (writeAt array 0 (split16 id)).take 2 = split16 id :=
        take_writeAt rfl (by omega)
      rw [payloadBytes_some (by rw [length_writeAt, length_writeAt]; omega), hlen,
        take_writeAt_of_le hdata (by rw [length_writeAt]; omega), hid]
    rw [pusTmBuild_emits cb 0 (by omega) (by omega) (by omega), hpayload]
  · rename_i h
    have hrej := not_and_or.mp h
    rw [pusTmBuild_rejects cb 0 (by omega)]
    rfl

end EmbeddedPus
