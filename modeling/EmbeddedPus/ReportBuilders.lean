import EmbeddedPus.Emission
import EmbeddedPus.Service1

namespace EmbeddedPus

open CallTrace Buffer ByteOrder

variable {cfg : Config} {A : Type} (cb : Callbacks cfg A) {c : Ptr}

def reportByTmBuild (c : Ptr) (tc : TcPacket) (subtype : UInt8) (payload : List UInt8)
    (out : List UInt8) (capacity l : UInt16) : Pus cfg A Status := do
  let r ← pusTmBuild cb (some c) pusServiceRequestVerification subtype tc.secHeader.sourceId
    (some payload) (UInt16.ofNat payload.length) (some out) capacity (some l)
  pure r.st

/-- A build function that needs room for `n` bytes makes the packet that the emission `e` makes, or
does nothing at all. -/
structure BuildsSame (c : Ptr) (n : ℕ) (out : List UInt8) (capacity l : UInt16) (w : World cfg A)
    (e : Outcome (World cfg A) Act (Call cfg) Status)
    (r : Outcome (World cfg A) Act (Call cfg) Written) : Prop where
  built : n ≤ capacity.toNat → ∃ bytes, bytes.length = n ∧ packets e.trace = [(c, bytes)] ∧
    packets r.trace = [(c, bytes)] ∧
    r.val = ⟨.ok, some (bytes ++ out.drop n), some (UInt16.ofNat n)⟩
  refused : capacity.toNat < n → r = ⟨⟨.bufferTooSmall, some out, some l⟩, w, .nil⟩

variable {cb} {tc : TcPacket} {subtype : UInt8} {failureCode : UInt16} {inc : Bool}

variable (tc failureCode inc)

theorem length_reportPayload_le : (reportPayload tc failureCode inc).length ≤ 6 := by
  rw [length_reportPayload]
  cases inc <;> decide

theorem reportByTmBuild_eq {out : List UInt8} {capacity : UInt16} (l : UInt16)
    (hm : 6 ≤ cfg.maxTmPayloadLen)
    (hc : 12 + (reportPayload tc failureCode inc).length ≤ capacity.toNat)
    (ho : capacity.toNat ≤ out.length) :
    reportByTmBuild cb c tc subtype (reportPayload tc failureCode inc) out capacity l =
      emitPacket cb c pusServiceRequestVerification subtype tc.secHeader.sourceId
        (reportPayload tc failureCode inc) := by
  have hle := length_reportPayload_le tc failureCode inc
  have hlen : (UInt16.ofNat (reportPayload tc failureCode inc).length).toNat =
      (reportPayload tc failureCode inc).length := toNat_ofNat_length (by omega)
  rw [reportByTmBuild, pusTmBuild_emits cb l (by omega) (by omega) ho,
    payloadBytes_some (by omega), hlen, List.take_length]

theorem buildReport_same (out : List UInt8) (capacity l : UInt16) (w : World cfg A)
    (ho : capacity.toNat ≤ out.length) :
    BuildsSame c (12 + (reportPayload tc failureCode inc).length) out capacity l w
      (emitPacket cb c pusServiceRequestVerification subtype tc.secHeader.sourceId
        (reportPayload tc failureCode inc) w)
      (buildReport cb (some c) (some tc) subtype failureCode inc (some out) capacity (some l)
        w) where
  built hn := by
    have hlen : (tmSecHeaderBytes (stampedHeader cb c pusServiceRequestVerification subtype
        tc.secHeader.sourceId w) ++ reportPayload tc failureCode inc).length =
        12 + (reportPayload tc failureCode inc).length := by
      rw [List.length_append, length_tmSecHeaderBytes]
    have hnum : UInt16.ofNat (12 + (reportPayload tc failureCode inc).length) =
        pusTmSecHeaderLen + if inc then failurePayloadLen else successPayloadLen := by
      rw [← reportLen_toNat, UInt16.ofNat_toNat]
    refine ⟨_, hlen, (emitPacket_sends ..).packets, ?_, ?_⟩
    · rw [buildReport_fits l hn ho, Prog.bind_trace, buildPacket_apply, packets_append,
        packets_append, packets_callTimeSource]
      rfl
    · rw [buildReport_fits l hn ho, Prog.bind_val, buildPacket_apply, hnum, ← hlen,
        ← writeAt_zero (by omega)]
      rfl
  refused hn := congrFun (buildReport_rejects l hn) w

/-- ST[01] fills headers, copies payloads and delivers packets in code of its own, to the same
effect as `pus_tm_build`. -/
theorem packet_builders_agree (cb : Callbacks cfg A) (c : Ptr) (tc : TcPacket) (subtype : UInt8)
    (failureCode : UInt16) (out : List UInt8) (capacity l : UInt16) (w : World cfg A)
    (hm : 6 ≤ cfg.maxTmPayloadLen) (ho : capacity.toNat ≤ out.length) :
    let success := tc.secHeader.serviceTypeId :: tc.secHeader.subtypeId ::
      split16 tc.secHeader.sourceId
    let failure := success ++ split16 failureCode
    let emitSuccess := pusService1EmitSuccess cb (some c) (some tc) subtype
    let emitFailure := pusService1EmitFailure cb (some c) (some tc) subtype failureCode
    (16 ≤ capacity.toNat →
      emitSuccess = reportByTmBuild cb c tc subtype success out capacity l) ∧
    (18 ≤ capacity.toNat →
      emitFailure = reportByTmBuild cb c tc subtype failure out capacity l) ∧
    BuildsSame c 16 out capacity l w (emitSuccess w)
      (pusService1BuildSuccess cb (some c) (some tc) subtype (some out) capacity (some l) w) ∧
    BuildsSame c 18 out capacity l w (emitFailure w)
      (pusService1BuildFailure cb (some c) (some tc) subtype failureCode (some out) capacity
        (some l) w) := by
  intro success failure emitSuccess emitFailure
  have hs : emitSuccess = _ := emitSuccess_eq
  have hf : emitFailure = _ := emitFailure_eq
  refine ⟨fun hc ↦ ?_, fun hc ↦ ?_, ?_, ?_⟩
  · rw [hs]
    exact (reportByTmBuild_eq tc 0 false l hm hc ho).symm
  · rw [hf]
    exact (reportByTmBuild_eq tc failureCode true l hm hc ho).symm
  · rw [hs]
    exact buildReport_same tc 0 false out capacity l w ho
  · rw [hf]
    exact buildReport_same tc failureCode true out capacity l w ho

theorem packet_builders_agree_attended :
    let tc : TcPacket := ⟨⟨1, 0x0F, 128, 1, 0x0102, 0, 0⟩, [9], 1⟩
    let out : List UInt8 := List.replicate 18 0xFF
    let success := pusService1EmitSuccess clocked (some 0) (some tc) 7
    let failure := pusService1EmitFailure clocked (some 0) (some tc) 8 6
    let accepted : List UInt8 := [0x10, 1, 7, 0, 0, 1, 2, 1, 2, 3, 4, 0, 128, 1, 1, 2]
    let failed : List UInt8 := [0x10, 1, 8, 0, 0, 1, 2, 1, 2, 3, 4, 0, 128, 1, 1, 2, 0, 6]
    (success = reportByTmBuild clocked 0 tc 7 [128, 1, 1, 2] out 18 0 ∧
      failure = reportByTmBuild clocked 0 tc 8 [128, 1, 1, 2, 0, 6] out 18 0) ∧
    (packets (success attended).trace = [(0, accepted)] ∧
      (pusService1BuildSuccess clocked (some 0) (some tc) 7 (some out) 18 (some 0) attended).val =
        ⟨.ok, some (accepted ++ [0xFF, 0xFF]), some 16⟩) ∧
    (packets (failure attended).trace = [(0, failed)] ∧
      (pusService1BuildFailure clocked (some 0) (some tc) 8 6 (some out) 18 (some 0) attended).val =
        ⟨.ok, some failed, some 18⟩) ∧
    pusService1BuildFailure clocked (some 0) (some tc) 8 6 (some out) 17 (some 0) attended =
      ⟨⟨.bufferTooSmall, some out, some 0⟩, attended, .nil⟩ := by
  intro tc out success failure accepted failed
  obtain ⟨hs, -, hsuccess, -⟩ := packet_builders_agree clocked 0 tc 7 6 out 18 0 attended
    (by decide) (by decide)
  obtain ⟨-, hf, -, hfailure⟩ := packet_builders_agree clocked 0 tc 8 6 out 18 0 attended
    (by decide) (by decide)
  obtain ⟨-, -, -, hshort⟩ := packet_builders_agree clocked 0 tc 8 6 out 17 0 attended
    (by decide) (by decide)
  have hrequest : tc.secHeader.serviceTypeId :: tc.secHeader.subtypeId ::
      split16 tc.secHeader.sourceId = [128, 1, 1, 2] := by
    decide
  have hcode : [128, 1, 1, 2] ++ split16 6 = [128, 1, 1, 2, 0, 6] := by decide
  rw [hrequest] at hs hf
  rw [hcode] at hf
  have hsent : packets (success attended).trace = [(0, accepted)] := by decide
  have hreported : packets (failure attended).trace = [(0, failed)] := by decide
  obtain ⟨bytes, -, hp, -, hval⟩ := hsuccess.built (by decide)
  rw [(Prod.mk.inj (List.cons.inj (hp.symm.trans hsent)).1).2] at hval
  obtain ⟨bytes, -, hp, -, hval'⟩ := hfailure.built (by decide)
  rw [(Prod.mk.inj (List.cons.inj (hp.symm.trans hreported)).1).2] at hval'
  exact ⟨⟨hs (by decide), hf (by decide)⟩, ⟨hsent, hval⟩, ⟨hreported, hval'⟩,
    hshort.refused (by decide)⟩

end EmbeddedPus
