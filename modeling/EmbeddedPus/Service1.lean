import EmbeddedPus.TmBuild

namespace EmbeddedPus

open CallTrace Buffer ByteOrder

variable {cfg : Config} {A : Type} (cb : Callbacks cfg A)

abbrev successPayloadLen : UInt16 := 4
abbrev failurePayloadLen : UInt16 := 6
abbrev reportBufLen : UInt16 := pusTmSecHeaderLen + failurePayloadLen

/-- The payload `build_report` assembles. -/
def reportPayload (tc : TcPacket) (failureCode : UInt16) (includeFailureCode : Bool) :
    List UInt8 :=
  [tc.secHeader.serviceTypeId, tc.secHeader.subtypeId] ++ split16 tc.secHeader.sourceId ++
    if includeFailureCode then split16 failureCode else []

def buildReport (ctx : Option Ptr) (tc : Option TcPacket) (subtype : UInt8) (failureCode : UInt16)
    (includeFailureCode : Bool) (out : Option (List UInt8)) (capacity : UInt16)
    (outLen : Option UInt16) : Pus cfg A Written :=
  match ctx, tc, out, outLen with
  | some c, some tc, some o, some l =>
    let payloadLen := if includeFailureCode then failurePayloadLen else successPayloadLen
    if capacity < pusTmSecHeaderLen + payloadLen then pure ⟨.bufferTooSmall, some o, some l⟩
    else do
      let hdr ← pusTmHdrFill cb c pusServiceRequestVerification subtype tc.secHeader.sourceId
      let enc := pusTmSecHeaderEncode (some hdr) (some o) capacity (some 0)
      let hdrLen := enc.outLen.getD 0
      let o := writeAt (enc.out.getD o) hdrLen.toNat
        (reportPayload tc failureCode includeFailureCode)
      let len := hdrLen + payloadLen
      countPacket c (o.take len.toNat)
      pure ⟨.ok, some o, some len⟩
  | _, _, out, outLen => pure ⟨.null, out, outLen⟩

def pusService1BuildSuccess (ctx : Option Ptr) (tc : Option TcPacket) (subtype : UInt8)
    (out : Option (List UInt8)) (capacity : UInt16) (outLen : Option UInt16) : Pus cfg A Written :=
  buildReport cb ctx tc subtype 0 false out capacity outLen

def pusService1BuildFailure (ctx : Option Ptr) (tc : Option TcPacket) (subtype : UInt8)
    (failureCode : UInt16) (out : Option (List UInt8)) (capacity : UInt16)
    (outLen : Option UInt16) : Pus cfg A Written :=
  buildReport cb ctx tc subtype failureCode true out capacity outLen

/-- What the two emit functions do with a report once it is built. -/
def forwardReport (c : Ptr) (r : Written) : Pus cfg A Status :=
  if r.st ≠ .ok then pure r.st
  else callTmSink cb c ((r.out.getD []).take (r.outLen.getD 0).toNat)

def pusService1EmitSuccess (ctx : Option Ptr) (tc : Option TcPacket) (subtype : UInt8) :
    Pus cfg A Status :=
  match ctx, tc with
  | some c, some tc => do
    let out ← localArray reportBufLen.toNat
    let r ← pusService1BuildSuccess cb (some c) (some tc) subtype (some out) reportBufLen (some 0)
    forwardReport cb c r
  | _, _ => pure .null

def pusService1EmitFailure (ctx : Option Ptr) (tc : Option TcPacket) (subtype : UInt8)
    (failureCode : UInt16) : Pus cfg A Status :=
  match ctx, tc with
  | some c, some tc => do
    let out ← localArray reportBufLen.toNat
    let r ← pusService1BuildFailure cb (some c) (some tc) subtype failureCode (some out)
      reportBufLen (some 0)
    forwardReport cb c r
  | _, _ => pure .null

variable {cb} {c : Ptr} {tc : TcPacket} {subtype : UInt8} {failureCode : UInt16} {inc : Bool}

theorem length_reportPayload : (reportPayload tc failureCode inc).length =
    (if inc then failurePayloadLen else successPayloadLen).toNat := by
  cases inc <;> rfl

variable (tc failureCode inc) in
theorem reportLen_toNat :
    (pusTmSecHeaderLen + if inc then failurePayloadLen else successPayloadLen).toNat =
      12 + (reportPayload tc failureCode inc).length := by
  cases inc <;> rfl

theorem buildReport_rejects {o : List UInt8} {capacity : UInt16} (l : UInt16)
    (hc : capacity.toNat < 12 + (reportPayload tc failureCode inc).length) :
    buildReport cb (some c) (some tc) subtype failureCode inc (some o) capacity (some l) =
      pure ⟨.bufferTooSmall, some o, some l⟩ := by
  have hcap : capacity <
      pusTmSecHeaderLen + if inc then failurePayloadLen else successPayloadLen := by
    rw [UInt16.lt_iff_toNat_lt, reportLen_toNat]
    exact hc
  simp only [buildReport, if_pos hcap]

theorem buildReport_fits {o : List UInt8} {capacity : UInt16} (l : UInt16)
    (hc : 12 + (reportPayload tc failureCode inc).length ≤ capacity.toNat)
    (ho : capacity.toNat ≤ o.length) :
    buildReport cb (some c) (some tc) subtype failureCode inc (some o) capacity (some l) = (do
      let bytes ← buildPacket cb c pusServiceRequestVerification subtype tc.secHeader.sourceId
        (reportPayload tc failureCode inc)
      pure ⟨.ok, some (writeAt o 0 bytes),
        some (pusTmSecHeaderLen + if inc then failurePayloadLen else successPayloadLen)⟩) := by
  have hlen := reportLen_toNat tc failureCode inc
  have hcap : ¬ capacity <
      pusTmSecHeaderLen + if inc then failurePayloadLen else successPayloadLen := by
    rw [UInt16.lt_iff_toNat_lt, hlen]
    exact Nat.not_lt.mpr hc
  have h12 : (12 : UInt16) ≤ capacity := by
    rw [UInt16.le_iff_toNat_le]
    exact (Nat.le_add_right _ _).trans hc
  have hroom : 12 + (reportPayload tc failureCode inc).length ≤ o.length := hc.trans ho
  simp only [buildReport, buildPacket, if_neg hcap, pusTmSecHeaderEncode_fits _ _ _ h12,
    Option.getD_some, UInt16.reduceToNat, writeAt_header _ hroom, hlen, take_packet _ rfl hroom,
    bind_assoc, pure_bind]

theorem buildReport_forward {o : List UInt8} (ho : o.length = reportBufLen.toNat) :
    (buildReport cb (some c) (some tc) subtype failureCode inc (some o) reportBufLen (some 0) >>=
      forwardReport cb c) =
      emitPacket cb c pusServiceRequestVerification subtype tc.secHeader.sourceId
        (reportPayload tc failureCode inc) := by
  have h18 : reportBufLen.toNat = 18 := rfl
  have hp : (reportPayload tc failureCode inc).length ≤ 6 := by
    rw [length_reportPayload]
    cases inc <;> decide
  have hlen := reportLen_toNat tc failureCode inc
  have hroom : 12 + (reportPayload tc failureCode inc).length ≤ o.length := by omega
  rw [buildReport_fits 0 (by omega) ho.ge]
  simp only [forwardReport, emitPacket, buildPacket, bind_assoc, pure_bind, ne_eq,
    not_true_eq_false, if_false, Option.getD_some, hlen, take_packet _ rfl hroom]

theorem emitSuccess_eq : pusService1EmitSuccess cb (some c) (some tc) subtype =
    emitPacket cb c pusServiceRequestVerification subtype tc.secHeader.sourceId
      (reportPayload tc 0 false) := by
  funext w
  rw [pusService1EmitSuccess, localArray_bind_apply]
  exact congrFun (buildReport_forward (by simp)) w

theorem emitFailure_eq : pusService1EmitFailure cb (some c) (some tc) subtype failureCode =
    emitPacket cb c pusServiceRequestVerification subtype tc.secHeader.sourceId
      (reportPayload tc failureCode true) := by
  funext w
  rw [pusService1EmitFailure, localArray_bind_apply]
  exact congrFun (buildReport_forward (by simp)) w

end EmbeddedPus
