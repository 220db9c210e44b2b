import EmbeddedPus.Responses

namespace EmbeddedPus

open CallTrace ByteOrder

variable {cfg : Config} {A : Type} {cb : Callbacks cfg A} {c : Ptr} {w : World cfg A}

/-- What an ST[17] TC asks for. -/
structure TestRequest where
  acceptance : Bool
  start : Bool
  completion : Bool
  subtype : UInt8
  source : UInt16
  payload : List UInt8

namespace TestRequest

def ofTc (tc : TcPacket) : TestRequest where
  acceptance := tc.secHeader.ackFlags &&& 0x08 != 0
  start := tc.secHeader.ackFlags &&& 0x04 != 0
  completion := tc.secHeader.ackFlags &&& 0x01 != 0
  subtype := tc.secHeader.subtypeId
  source := tc.secHeader.sourceId
  payload := tc.payload.take tc.payloadLen.toNat

def ofBytes (data : List UInt8) (len : UInt16) : TestRequest where
  acceptance := data.getD 0 0 &&& 0x08 != 0
  start := data.getD 0 0 &&& 0x04 != 0
  completion := data.getD 0 0 &&& 0x01 != 0
  subtype := data.getD 2 0
  source := join16 (data.getD 3 0) (data.getD 4 0)
  payload := (data.take len.toNat).drop 10

variable (q : TestRequest)

def verification (subtype : UInt8) (failureCode : Option UInt16) : Report :=
  ⟨1, subtype, q.source, [17, q.subtype] ++ split16 q.source ++ (failureCode.map split16).getD []⟩

def status : Status := if q.subtype = 3 ∧ q.payload.length < 2 then .badLength else .ok

def reply : List Report :=
  if q.subtype = 1 then [⟨17, 2, q.source, []⟩]
  else if q.payload.length < 2 then []
  else [⟨17, 4, q.source, q.payload.take 2⟩]

def opening : List Report :=
  (if q.acceptance then [q.verification 1 none] else []) ++
    if q.start then [q.verification 3 none] else []

def closing : List Report :=
  if q.completion then
    [if q.status = .ok then q.verification 7 none else q.verification 8 (some q.status.code)]
  else []

def reports : List Report := q.opening ++ q.reply ++ q.closing

end TestRequest

section Run

variable {tc : TcPacket} (h : Reliable cb c (w.ctx c)) (hs : tc.secHeader.serviceTypeId = 17)

include hs in
theorem verificationReport_eq (subtype : UInt8) (failureCode : Option UInt16) :
    verificationReport tc subtype failureCode =
      (TestRequest.ofTc tc).verification subtype failureCode := by
  simp only [verificationReport, TestRequest.verification, TestRequest.ofTc, hs]

include h

theorem Reliable.responds_emitSuccess (subtype : UInt8) :
    Responds c [verificationReport tc subtype none] .ok w
      (pusService1EmitSuccess cb (some c) (some tc) subtype) := by
  rw [emitSuccess_eq]
  exact h.responds_emitPacket (verificationReport tc subtype none)

theorem Reliable.responds_emitFailure (subtype : UInt8) (code : UInt16) :
    Responds c [verificationReport tc subtype (some code)] .ok w
      (pusService1EmitFailure cb (some c) (some tc) subtype code) := by
  rw [emitFailure_eq]
  exact h.responds_emitPacket (verificationReport tc subtype (some code))

variable (tc) in
theorem Reliable.responds_reportIf (flag subtype : UInt8) :
    Responds c (if tc.secHeader.ackFlags &&& flag != 0 then [verificationReport tc subtype none]
      else []) () w (reportIf cb c tc flag subtype) := by
  rw [reportIf]
  by_cases ha : tc.secHeader.ackFlags &&& flag = 0
  · simp only [ha, ne_eq, not_true_eq_false, if_false, bne_self_eq_false, Bool.false_eq_true]
    exact .pure ()
  · simp only [ha, ne_eq, not_false_eq_true, if_true, bne_iff_ne]
    exact (h.responds_emitSuccess subtype).bind (.pure ())

include hs

theorem Reliable.responds_reportAcceptance :
    Responds c (TestRequest.ofTc tc).opening () w (reportAcceptance cb c tc) := by
  have h₁ := h.responds_reportIf tc pusAckAcceptance pusSubtypeVerificationAcceptanceSuccess
  have h₂ := (h₁.reliable h).responds_reportIf tc pusAckStart pusSubtypeVerificationStartSuccess
  rw [verificationReport_eq hs] at h₁ h₂
  exact h₁.bind h₂

theorem Reliable.responds_reportCompletion :
    Responds c (TestRequest.ofTc tc).closing () w
      (reportCompletion cb c tc (TestRequest.ofTc tc).status) := by
  have hv (subtype : UInt8) (failureCode : Option UInt16) :=
    verificationReport_eq hs subtype failureCode
  rw [reportCompletion, TestRequest.closing]
  by_cases ha : tc.secHeader.ackFlags &&& pusAckCompletion = 0
  · have hc : (TestRequest.ofTc tc).completion = false := bne_eq_false_iff_eq.mpr ha
    simp only [ha, hc, ne_eq, not_true_eq_false, if_false, Bool.false_eq_true]
    exact .pure ()
  · have hc : (TestRequest.ofTc tc).completion = true := bne_iff_ne.mpr ha
    simp only [ha, hc, ne_eq, not_false_eq_true, if_true]
    by_cases hst : (TestRequest.ofTc tc).status = .ok
    · simp only [hst, if_true, ← hv]
      exact (h.responds_emitSuccess _).bind (.pure ())
    · simp only [hst, if_false, ← hv]
      exact (h.responds_emitFailure _ _).bind (.pure ())

end Run

section Handlers

variable {tc : TcPacket}

theorem responds_readPayload (tc : TcPacket) (i : ℕ) :
    Responds c [] (tc.payload.getD i 0) w (readPayload tc i) := by
  obtain ⟨hsent, hctx⟩ := Answers.nil (c := c) w
  exact ⟨rfl, hsent, hctx⟩

theorem Reliable.responds_handleTc17_1 (h : Reliable cb c (w.ctx c))
    (ht : tc.secHeader.subtypeId = 1) :
    Responds c (TestRequest.ofTc tc).reply (TestRequest.ofTc tc).status w
      (handleTc17_1 cb c tc) := by
  have hq : (TestRequest.ofTc tc).subtype = 1 := ht
  have hne : (1 : UInt8) ≠ 3 := by decide
  rw [handleTc17_1_eq, TestRequest.reply, TestRequest.status, hq, if_pos rfl,
    if_neg fun hn ↦ hne hn.1]
  exact h.responds_emitPacket ⟨17, 2, tc.secHeader.sourceId, []⟩

theorem take_two {xs : List UInt8} (hl : 2 ≤ xs.length) :
    xs.take 2 = [xs.getD 0 0, xs.getD 1 0] := by
  match xs, hl with
  | _ :: _ :: _, _ => rfl

theorem Reliable.responds_handleTc17_3 (h : Reliable cb c (w.ctx c)) (hm : 2 ≤ cfg.maxTmPayloadLen)
    (hp : tc.payloadLen.toNat ≤ tc.payload.length) (ht : tc.secHeader.subtypeId = 3) :
    Responds c (TestRequest.ofTc tc).reply (TestRequest.ofTc tc).status w
      (handleTc17_3 cb c tc) := by
  have hq : (TestRequest.ofTc tc).subtype = 3 := ht
  have hne : (3 : UInt8) ≠ 1 := by decide
  have hlen : (TestRequest.ofTc tc).payload.length = tc.payloadLen.toNat :=
    (List.length_take ..).trans (Nat.min_eq_left hp)
  rw [TestRequest.reply, TestRequest.status, hq, hlen, if_neg hne]
  by_cases hl : tc.payloadLen < 2
  · have hl' : tc.payloadLen.toNat < 2 := UInt16.lt_iff_toNat_lt.mp hl
    rw [handleTc17_3_short hl, if_pos hl', if_pos ⟨rfl, hl'⟩]
    exact .pure _
  · have hl' : ¬ tc.payloadLen.toNat < 2 := fun hn ↦ hl (UInt16.lt_iff_toNat_lt.mpr hn)
    have hpay : (TestRequest.ofTc tc).payload.take 2 =
        [tc.payload.getD 0 0, tc.payload.getD 1 0] := by
      rw [TestRequest.ofTc, List.take_take, Nat.min_eq_left (by omega), take_two (by omega)]
    rw [handleTc17_3_long hm hl, if_neg hl', if_neg fun hn ↦ hl' hn.2, hpay]
    have hsent := h.responds_emitPacket ⟨17, 4, tc.secHeader.sourceId,
      [tc.payload.getD 0 0, tc.payload.getD 1 0]⟩
    exact (responds_readPayload tc 0).bind ((responds_readPayload tc 1).bind hsent)

/-- Whichever of the two handlers the TC finds, it answers as asked. -/
theorem Reliable.responds_callHandler (h : Reliable cb c (w.ctx c)) (hm : 2 ≤ cfg.maxTmPayloadLen)
    (hp : tc.payloadLen.toNat ≤ tc.payload.length) {i : Fin cfg.maxTcHandlers}
    (hi : tc.secHeader.subtypeId = 1 ∧ ((w.ctx c).handlerTable i).handler = .handleTc17_1 ∨
      tc.secHeader.subtypeId = 3 ∧ ((w.ctx c).handlerTable i).handler = .handleTc17_3) :
    Responds c (TestRequest.ofTc tc).reply (TestRequest.ofTc tc).status w
      (callHandler cb c tc i) := by
  obtain ⟨hrun, hlib⟩ : Responds c (TestRequest.ofTc tc).reply (TestRequest.ofTc tc).status w
      (runHandler cb c tc ((w.ctx c).handlerTable i).userData
        ((w.ctx c).handlerTable i).handler) ∧
      ((w.ctx c).handlerTable i).handler.isLibrary = true := by
    obtain ⟨ht, he⟩ | ⟨ht, he⟩ := hi
    · rw [he]
      exact ⟨h.responds_handleTc17_1 ht, rfl⟩
    · rw [he]
      exact ⟨h.responds_handleTc17_3 hm hp ht, rfl⟩
  exact (hrun.call (fun _ st ↦ .handler c ((w.ctx c).handlerTable i).handler
    ((w.ctx c).handlerTable i).userData tc (w.ctx c).handlerTable st) hlib rfl).congr rfl

variable (c w) in
structure TestHandlers : Prop where
  areYouAlive : ∃ ud, (w.ctx c).handlerTable.lookup 17 1 = some (.handleTc17_1, ud)
  onBoardConnection : ∃ ud, (w.ctx c).handlerTable.lookup 17 3 = some (.handleTc17_3, ud)

theorem TestHandlers.find (h : TestHandlers c w) (hs : tc.secHeader.serviceTypeId = 17)
    (ht : tc.secHeader.subtypeId = 1 ∨ tc.secHeader.subtypeId = 3) :
    ∃ i, (w.ctx c).handlerTable.find tc.secHeader.serviceTypeId tc.secHeader.subtypeId = some i ∧
      (tc.secHeader.subtypeId = 1 ∧ ((w.ctx c).handlerTable i).handler = .handleTc17_1 ∨
        tc.secHeader.subtypeId = 3 ∧ ((w.ctx c).handlerTable i).handler = .handleTc17_3) := by
  rw [hs]
  obtain ht | ht := ht
  · obtain ⟨ud, hl⟩ := h.areYouAlive
    obtain ⟨i, hf, hi⟩ := Option.map_eq_some_iff.mp hl
    rw [ht]
    exact ⟨i, hf, .inl ⟨rfl, (Prod.mk.inj hi).1⟩⟩
  · obtain ⟨ud, hl⟩ := h.onBoardConnection
    obtain ⟨i, hf, hi⟩ := Option.map_eq_some_iff.mp hl
    rw [ht]
    exact ⟨i, hf, .inr ⟨rfl, (Prod.mk.inj hi).1⟩⟩

theorem Reliable.responds_pusTcProcess {data : List UInt8} {len : UInt16}
    (h : Reliable cb c (w.ctx c)) (hh : TestHandlers c w) (hm : 2 ≤ cfg.maxTmPayloadLen)
    (hd : pusTcDecode (some data) len (some .fresh) = (.ok, some tc))
    (hp : tc.payloadLen.toNat ≤ tc.payload.length) (hs : tc.secHeader.serviceTypeId = 17)
    (ht : tc.secHeader.subtypeId = 1 ∨ tc.secHeader.subtypeId = 3) :
    Responds c (TestRequest.ofTc tc).reports (TestRequest.ofTc tc).status w
      (pusTcProcess cb (some c) (some data) len) := by
  obtain ⟨i, hf, hi⟩ := hh.find hs ht
  have hopen := h.responds_reportAcceptance hs
  have htable : ((reportAcceptance cb c tc w).state.ctx c).handlerTable =
      (w.ctx c).handlerTable := by rw [hopen.answers.ctx]
  have hreply := (hopen.reliable h).responds_callHandler hm hp (htable ▸ hi)
  have hclose := (hreply.reliable (hopen.reliable h)).responds_reportCompletion hs
  have hall : Responds c _ _ w (do
      reportAcceptance cb c tc
      let st ← callHandler cb c tc i
      reportCompletion cb c tc st
      pure st) :=
    hopen.bind (hreply.bind (hclose.bind (.pure (TestRequest.ofTc tc).status)))
  rw [List.append_nil, ← List.append_assoc] at hall
  exact hall.congr (pusTcProcess_routed hd hf)

end Handlers

section Bytes

variable {data : List UInt8} {len : UInt16}

theorem ackFlags_and (data : List UInt8) {flag : UInt8} (hf : 0x0F &&& flag = flag) :
    (tcSecHeaderOf data).ackFlags &&& flag = data.getD 0 0 &&& flag := by
  rw [tcSecHeaderOf, UInt8.and_assoc, hf]

theorem ofTc_decoded (hl : 10 ≤ len) :
    TestRequest.ofTc ⟨tcSecHeaderOf data, data.drop 10, len - 10⟩ =
      TestRequest.ofBytes data len := by
  have hsource : (tcSecHeaderOf data).sourceId = join16 (data.getD 3 0) (data.getD 4 0) := by
    simp only [tcSecHeaderOf, readU16Be, List.getD_eq_getElem?_getD, List.getElem?_drop,
      Nat.add_zero, Nat.reduceAdd]
  have hlen : (len - 10).toNat = len.toNat - 10 := UInt16.toNat_sub_of_le _ _ hl
  simp only [TestRequest.ofTc, TestRequest.ofBytes,
    ackFlags_and data (show 0x0F &&& 8 = 8 by decide),
    ackFlags_and data (show 0x0F &&& 4 = 4 by decide),
    ackFlags_and data (show 0x0F &&& 1 = 1 by decide), hsource, hlen, List.drop_take]
  rfl

end Bytes

/-- A context with a sink and the two handlers of ST[17], about to number its packets afresh. -/
def testing : World .default Unit :=
  (pusService17RegisterHandlers (some 0)
    ((World.cleared ()).setCtx 0
      { Context.zero .default with
        tmSink := some 7
        tmCounter := 65534 })).state

/-- All flags set, source `0x1234`, three bytes of payload. -/
def connectionTc : List UInt8 := [0x1D, 17, 3, 0x12, 0x34, 0, 0, 0, 9, 0x5A, 0xBE, 0xEF, 0x99]

end EmbeddedPus
