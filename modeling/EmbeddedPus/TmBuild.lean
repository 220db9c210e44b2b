import EmbeddedPus.Codec
import EmbeddedPus.Context

namespace EmbeddedPus

open CallTrace Buffer

variable {cfg : Config} {A : Type} (cb : Callbacks cfg A)

/-- `ctx->time_source(ctx->time_source_user_data)`, or zero without a time source. -/
def callTimeSource (c : Ptr) : Pus cfg A UInt32 := do
  let k ← readCtx c
  match k.timeSource with
  | none => pure 0
  | some f =>
    Prog.call (fun _ t ↦ .timeSource c f k.timeSourceUserData t)
      (cb.timeSource f k.timeSourceUserData)

def callTmSink (c : Ptr) (data : List UInt8) : Pus cfg A Status := do
  let k ← readCtx c
  match k.tmSink with
  | none => pure .ok
  | some f =>
    Prog.call (fun _ st ↦ .tmSink c f k.tmSinkUserData data st)
      (cb.tmSink f k.tmSinkUserData data)

def tmHeader (service subtype : UInt8) (counter destId : UInt16) (time : UInt32) :
    TmSecHeader where
  version := pusVersion
  timeRefStatus := 0
  serviceTypeId := service
  subtypeId := subtype
  msgTypeCounter := counter
  destinationId := destId
  time := time
  spare := 0

def pusTmHdrFill (c : Ptr) (service subtype : UInt8) (destId : UInt16) :
    Pus cfg A TmSecHeader := do
  let k ← readCtx c
  let time ← callTimeSource cb c
  pure (tmHeader service subtype k.tmCounter destId time)

/-- `ctx->tm_counter++`, which also marks the packet as built. -/
def countPacket (c : Ptr) (bytes : List UInt8) : Pus cfg A Unit := do
  Prog.act (.packet c bytes)
  let k ← readCtx c
  writeCtx c { k with tmCounter := k.tmCounter + 1 }

/-- The bytes the copy loop of `pus_tm_build` stores: the payload, or zeros without one. -/
def payloadBytes (payload : Option (List UInt8)) (payloadLen : UInt16) : List UInt8 :=
  (List.range payloadLen.toNat).map fun i ↦
    match payload with
    | some p => p.getD i 0
    | none => 0

def pusTmBuild (ctx : Option Ptr) (service subtype : UInt8) (destinationId : UInt16)
    (payload : Option (List UInt8)) (payloadLen : UInt16) (out : Option (List UInt8))
    (outCapacity : UInt16) (outLen : Option UInt16) : Pus cfg A Written :=
  match ctx, out, outLen with
  | some c, some o, some l =>
    if payloadLen.toNat > cfg.maxTmPayloadLen then pure ⟨.bufferTooSmall, some o, some l⟩
    else if outCapacity < pusTmSecHeaderLen + payloadLen then
      pure ⟨.bufferTooSmall, some o, some l⟩
    else do
      let hdr ← pusTmHdrFill cb c service subtype destinationId
      let enc := pusTmSecHeaderEncode (some hdr) (some o) outCapacity (some 0)
      let hdrLen := enc.outLen.getD 0
      let o := writeAt (enc.out.getD o) hdrLen.toNat (payloadBytes payload payloadLen)
      let len := hdrLen + payloadLen
      countPacket c (o.take len.toNat)
      let st ← callTmSink cb c (o.take len.toNat)
      pure ⟨st, some o, some len⟩
  | _, out, outLen => pure ⟨.null, out, outLen⟩

/-- The building of a packet, as `pus_tm_build` and `build_report` both have it. -/
def buildPacket (c : Ptr) (service subtype : UInt8) (destId : UInt16) (payload : List UInt8) :
    Pus cfg A (List UInt8) := do
  let hdr ← pusTmHdrFill cb c service subtype destId
  let bytes := tmSecHeaderBytes hdr ++ payload
  countPacket c bytes
  pure bytes

def emitPacket (c : Ptr) (service subtype : UInt8) (destId : UInt16) (payload : List UInt8) :
    Pus cfg A Status := do
  let bytes ← buildPacket cb c service subtype destId payload
  callTmSink cb c bytes

@[simp] theorem length_payloadBytes (payload : Option (List UInt8)) (payloadLen : UInt16) :
    (payloadBytes payload payloadLen).length = payloadLen.toNat := by
  rw [payloadBytes, List.length_map, List.length_range]

theorem payloadBytes_some {p : List UInt8} {payloadLen : UInt16}
    (h : payloadLen.toNat ≤ p.length) :
    payloadBytes (some p) payloadLen = p.take payloadLen.toNat := by
  apply List.ext_getElem
  · rw [length_payloadBytes, List.length_take, Nat.min_eq_left h]
  · intro i h₁ h₂
    have hi : i < p.length := by
      simp only [List.length_take] at h₂
      omega
    simp [payloadBytes, hi]

variable {c : Ptr} {service subtype : UInt8} {dest : UInt16} {payload : Option (List UInt8)}
  {payloadLen capacity : UInt16} {o : List UInt8}

theorem header_add_toNat (hp : payloadLen.toNat ≤ cfg.maxTmPayloadLen) :
    (pusTmSecHeaderLen + payloadLen).toNat = 12 + payloadLen.toNat := by
  have hm := cfg.payload_le
  have h12 : pusTmSecHeaderLen.toNat = 12 := rfl
  rw [UInt16.toNat_add, h12]
  exact Nat.mod_eq_of_lt (by omega)

theorem writeAt_header (hdr : TmSecHeader) {payload : List UInt8}
    (h : 12 + payload.length ≤ o.length) :
    writeAt (writeAt o 0 (tmSecHeaderBytes hdr)) 12 payload =
      writeAt o 0 (tmSecHeaderBytes hdr ++ payload) := by
  have hlen : (tmSecHeaderBytes hdr).length = 12 := length_tmSecHeaderBytes hdr
  exact writeAt_writeAt _ (by omega) (by omega)

theorem take_packet (hdr : TmSecHeader) {payload : List UInt8} {n : ℕ}
    (hn : n = 12 + payload.length) (h : n ≤ o.length) :
    (writeAt o 0 (tmSecHeaderBytes hdr ++ payload)).take n = tmSecHeaderBytes hdr ++ payload := by
  have hlen : (tmSecHeaderBytes hdr ++ payload).length = 12 + payload.length := by
    rw [List.length_append, length_tmSecHeaderBytes]
  exact take_writeAt (by omega) h

/-- `pus_tm_build` turns a payload down for its length or for the room there is, and then does
nothing at all. -/
theorem pusTmBuild_rejects (l : UInt16)
    (h : cfg.maxTmPayloadLen < payloadLen.toNat ∨ capacity.toNat < 12 + payloadLen.toNat) :
    (pusTmBuild cb (some c) service subtype dest payload payloadLen (some o) capacity (some l) :
      Pus cfg A Written) = pure ⟨.bufferTooSmall, some o, some l⟩ := by
  by_cases hp : cfg.maxTmPayloadLen < payloadLen.toNat
  · simp only [pusTmBuild, if_pos hp]
  · have hc : capacity < pusTmSecHeaderLen + payloadLen := by
      rw [UInt16.lt_iff_toNat_lt, header_add_toNat (Nat.le_of_not_lt hp)]
      exact h.resolve_left hp
    simp only [pusTmBuild, if_neg hp, if_pos hc]

theorem pusTmBuild_fits (l : UInt16) (hp : payloadLen.toNat ≤ cfg.maxTmPayloadLen)
    (hc : 12 + payloadLen.toNat ≤ capacity.toNat) (ho : capacity.toNat ≤ o.length) :
    (pusTmBuild cb (some c) service subtype dest payload payloadLen (some o) capacity (some l) :
      Pus cfg A Written) = (do
        let bytes ← buildPacket cb c service subtype dest (payloadBytes payload payloadLen)
        let st ← callTmSink cb c bytes
        pure ⟨st, some (writeAt o 0 bytes), some (pusTmSecHeaderLen + payloadLen)⟩) := by
  have hn := header_add_toNat hp
  have hcap : ¬ capacity < pusTmSecHeaderLen + payloadLen := by
    rw [UInt16.lt_iff_toNat_lt, hn]
    omega
  have h12 : (12 : UInt16) ≤ capacity := by
    rw [UInt16.le_iff_toNat_le]
    exact (Nat.le_add_right _ _).trans hc
  have hlen : (payloadBytes payload payloadLen).length = payloadLen.toNat :=
    length_payloadBytes payload payloadLen
  have hroom : 12 + (payloadBytes payload payloadLen).length ≤ o.length := by omega
  have ht (hdr : TmSecHeader) := take_packet hdr (congrArg (12 + ·) hlen.symm) (hc.trans ho)
  simp only [pusTmBuild, buildPacket, if_neg (Nat.not_lt.mpr hp), if_neg hcap,
    pusTmSecHeaderEncode_fits _ _ _ h12, Option.getD_some, UInt16.reduceToNat,
    writeAt_header _ hroom, hn, ht, bind_assoc, pure_bind]

theorem pusTmBuild_emits (l : UInt16) (hp : payloadLen.toNat ≤ cfg.maxTmPayloadLen)
    (hc : 12 + payloadLen.toNat ≤ capacity.toNat) (ho : capacity.toNat ≤ o.length) :
    (do
      let r ← pusTmBuild cb (some c) service subtype dest payload payloadLen (some o) capacity
        (some l)
      pure r.st : Pus cfg A Status) =
      emitPacket cb c service subtype dest (payloadBytes payload payloadLen) := by
  simp only [pusTmBuild_fits cb l hp hc ho, emitPacket, bind_assoc, pure_bind, bind_pure]

theorem buildPacket_apply (payload : List UInt8) (w : World cfg A) :
    buildPacket cb c service subtype dest payload w =
      let r := callTimeSource cb c w
      let k := r.state.ctx c
      let bytes := tmSecHeaderBytes
        (tmHeader service subtype (w.ctx c).tmCounter dest r.val) ++ payload
      ⟨bytes, r.state.setCtx c { k with tmCounter := k.tmCounter + 1 },
        r.trace ++ .act (.packet c bytes) .nil⟩ := by
  simp only [buildPacket, pusTmHdrFill, countPacket, bind_assoc, readCtx_apply, Prog.bind_apply,
    Prog.act_apply, writeCtx_apply, Prog.pure_apply, Trace.append_nil, Trace.nil_append]

theorem callTimeSource_none {w : World cfg A} (h : (w.ctx c).timeSource = none) :
    callTimeSource cb c w = ⟨0, w, .nil⟩ := by
  rw [callTimeSource, readCtx_bind_apply, h]
  rfl

theorem callTimeSource_some {f : Ptr} {w : World cfg A} (h : (w.ctx c).timeSource = some f) :
    callTimeSource cb c w =
      Prog.call (fun _ t ↦ .timeSource c f (w.ctx c).timeSourceUserData t)
        (cb.timeSource f (w.ctx c).timeSourceUserData) w := by
  rw [callTimeSource, readCtx_bind_apply, h]

theorem callTmSink_none {w : World cfg A} (h : (w.ctx c).tmSink = none) (data : List UInt8) :
    callTmSink cb c data w = ⟨.ok, w, .nil⟩ := by
  rw [callTmSink, readCtx_bind_apply, h]
  rfl

theorem callTmSink_some {f : Ptr} {w : World cfg A} (h : (w.ctx c).tmSink = some f)
    (data : List UInt8) : callTmSink cb c data w =
      Prog.call (fun _ st ↦ .tmSink c f (w.ctx c).tmSinkUserData data st)
        (cb.tmSink f (w.ctx c).tmSinkUserData data) w := by
  rw [callTmSink, readCtx_bind_apply, h]

section Trace

variable {β : Type} {g : Act → List β} {h : Call cfg → List β} (w : World cfg A)

theorem own_callTimeSource (ht : ∀ c f ud t, h (.timeSource c f ud t) = []) :
    (callTimeSource cb c w).trace.own g h = [] := by
  cases hk : (w.ctx c).timeSource with
  | none => rw [callTimeSource_none cb hk, Trace.own_nil]
  | some f =>
    simp only [callTimeSource_some cb hk, Prog.call_trace, Trace.own_call, ht, Trace.own_nil,
      List.append_nil]

theorem own_callTmSink (hs : ∀ c f ud d st, h (.tmSink c f ud d st) = []) (data : List UInt8) :
    (callTmSink cb c data w).trace.own g h = [] := by
  cases hk : (w.ctx c).tmSink with
  | none => rw [callTmSink_none cb hk, Trace.own_nil]
  | some f =>
    simp only [callTmSink_some cb hk, Prog.call_trace, Trace.own_call, hs, Trace.own_nil,
      List.append_nil]

theorem own_pusTmBuild (hg : ∀ c b, g (.packet c b) = [])
    (ht : ∀ c f ud t, h (.timeSource c f ud t) = [])
    (hs : ∀ c f ud d st, h (.tmSink c f ud d st) = []) (l : UInt16) :
    (pusTmBuild cb (some c) service subtype dest payload payloadLen (some o) capacity (some l)
      w).trace.own g h = [] := by
  rw [pusTmBuild]
  split
  · rfl
  · split
    · rfl
    · simp only [pusTmHdrFill, countPacket, bind_assoc, pure_bind, readCtx_bind_apply,
        Prog.bind_trace, Prog.act_apply, writeCtx_apply, Prog.pure_apply, Trace.own_append,
        Trace.own_act, Trace.own_nil, Trace.nil_append, own_callTimeSource cb w ht,
        own_callTmSink cb _ hs, hg, List.append_nil]

theorem own_emitPacket (ht : ∀ c f ud t, h (.timeSource c f ud t) = [])
    (hs : ∀ c f ud d st, h (.tmSink c f ud d st) = []) (payload : List UInt8) :
    (emitPacket cb c service subtype dest payload w).trace.own g h =
      g (.packet c (tmSecHeaderBytes
        (tmHeader service subtype (w.ctx c).tmCounter dest (callTimeSource cb c w).val) ++
          payload)) := by
  simp only [emitPacket, buildPacket, pusTmHdrFill, countPacket, bind_assoc, pure_bind,
    readCtx_bind_apply, Prog.bind_trace, Prog.act_apply, writeCtx_apply, Trace.own_append,
    Trace.own_act, Trace.own_nil, Trace.nil_append, own_callTimeSource cb w ht,
    own_callTmSink cb _ hs, List.append_nil, List.nil_append]

end Trace

def Keeps (c : Ptr) {α : Type} (m : Pus cfg A α) : Prop := ∀ w, (m w).state.ctx c = w.ctx c

/-- The sink and the time source configured in `k` leave the context alone. -/
structure Undisturbed (c : Ptr) (k : Context cfg) : Prop where
  tmSink : ∀ f, k.tmSink = some f → ∀ data, Keeps c (cb.tmSink f k.tmSinkUserData data)
  timeSource : ∀ f, k.timeSource = some f → Keeps c (cb.timeSource f k.timeSourceUserData)

variable {cb} {w : World cfg A}

section Undisturbed

variable {d : Ptr}

theorem Undisturbed.callTimeSource_other (h : Undisturbed cb d (w.ctx c)) :
    (callTimeSource cb c w).state.ctx d = w.ctx d := by
  cases hk : (w.ctx c).timeSource with
  | none => rw [callTimeSource_none cb hk]
  | some f =>
    rw [callTimeSource_some cb hk]
    exact h.timeSource f hk w

theorem Undisturbed.callTmSink_other (h : Undisturbed cb d (w.ctx c)) (data : List UInt8) :
    (callTmSink cb c data w).state.ctx d = w.ctx d := by
  cases hk : (w.ctx c).tmSink with
  | none => rw [callTmSink_none cb hk]
  | some f =>
    rw [callTmSink_some cb hk]
    exact h.tmSink f hk data w

end Undisturbed

theorem Undisturbed.callTimeSource_ctx (h : Undisturbed cb c (w.ctx c)) :
    (callTimeSource cb c w).state.ctx c = w.ctx c := h.callTimeSource_other

theorem Undisturbed.of_counter {k : Context cfg} (h : Undisturbed cb c k) (n : UInt16) :
    Undisturbed cb c { k with tmCounter := n } := ⟨h.tmSink, h.timeSource⟩

/-- All an emission does to its context is to advance the counter. -/
theorem Undisturbed.emitPacket_ctx (h : Undisturbed cb c (w.ctx c)) (payload : List UInt8) :
    (emitPacket cb c service subtype dest payload w).state.ctx c =
      { w.ctx c with tmCounter := (w.ctx c).tmCounter + 1 } := by
  have ht := h.callTimeSource_ctx
  simp only [emitPacket, buildPacket, pusTmHdrFill, countPacket, bind_assoc, pure_bind,
    readCtx_bind_apply, Prog.bind_state, Prog.act_apply, writeCtx_apply, ht]
  rw [Undisturbed.callTmSink_other, World.setCtx_ctx]
  rw [World.setCtx_ctx]
  exact h.of_counter _

end EmbeddedPus
