import EmbeddedPus.OperationRules

namespace EmbeddedPus

open CallTrace ByteOrder

variable {cfg : Config} {A : Type} {cb : Callbacks cfg A}

structure Report where
  service : UInt8
  subtype : UInt8
  destination : UInt16
  payload : List UInt8
  deriving DecidableEq, Repr

def Report.ofPacket (bytes : List UInt8) : Report :=
  let h := tmSecHeaderOf bytes
  ⟨h.serviceTypeId, h.subtypeId, h.destinationId, bytes.drop 12⟩

/-- The ST[01] report on a TC: sent to its source, it carries the request and, for a failure, the
code. -/
def verificationReport (tc : TcPacket) (subtype : UInt8) (failureCode : Option UInt16) :
    Report where
  service := 1
  subtype := subtype
  destination := tc.secHeader.sourceId
  payload := [tc.secHeader.serviceTypeId, tc.secHeader.subtypeId] ++
    split16 tc.secHeader.sourceId ++ (failureCode.map split16).getD []

/-- What shows of the processing of a TC: the reports it emits by itself, and its invocations of a
handler. -/
inductive Mark
  | report (ctx : Ptr) (r : Report)
  | handler (ctx : Ptr) (handler : TcHandler) (userData : Ptr) (tc : TcPacket) (st : Status)
  deriving DecidableEq, Repr

def Mark.ofAct : Act → List Mark
  | .packet c bytes => [.report c (.ofPacket bytes)]
  | .read _ => []

def Mark.ofCall : Call cfg → List Mark
  | .handler c h ud tc _ st => [.handler c h ud tc st]
  | _ => []

def marks (t : History cfg) : List Mark := t.own Mark.ofAct Mark.ofCall

@[simp] theorem marks_nil : marks (.nil : History cfg) = [] := rfl

@[simp] theorem marks_append (t u : History cfg) : marks (t ++ u) = marks t ++ marks u :=
  Trace.own_append ..

theorem ofPacket_tmHeader (service subtype : UInt8) (counter dest : UInt16) (time : UInt32)
    (payload : List UInt8) :
    Report.ofPacket (tmSecHeaderBytes (tmHeader service subtype counter dest time) ++ payload) =
      ⟨service, subtype, dest, payload⟩ := by
  have hh := tmSecHeaderOf_bytes (h := tmHeader service subtype counter dest time)
    (show pusVersion < 16 by decide) (show (0 : UInt8) < 16 by decide) payload
  rw [Report.ofPacket, hh]
  rfl

theorem marks_emitPacket (c : Ptr) (service subtype : UInt8) (dest : UInt16)
    (payload : List UInt8) (w : World cfg A) :
    marks (emitPacket cb c service subtype dest payload w).trace =
      [.report c ⟨service, subtype, dest, payload⟩] := by
  rw [marks, own_emitPacket _ _ (fun _ _ _ _ ↦ rfl) (fun _ _ _ _ _ ↦ rfl), Mark.ofAct,
    ofPacket_tmHeader]

theorem marks_emitSuccess (c : Ptr) (tc : TcPacket) (subtype : UInt8) (w : World cfg A) :
    marks (pusService1EmitSuccess cb (some c) (some tc) subtype w).trace =
      [.report c (verificationReport tc subtype none)] := by
  rw [emitSuccess_eq, marks_emitPacket]
  rfl

theorem marks_emitFailure (c : Ptr) (tc : TcPacket) (subtype : UInt8) (code : UInt16)
    (w : World cfg A) :
    marks (pusService1EmitFailure cb (some c) (some tc) subtype code w).trace =
      [.report c (verificationReport tc subtype (some code))] := by
  rw [emitFailure_eq, marks_emitPacket]
  rfl

def ackMarks (c : Ptr) (tc : TcPacket) (flag subtype : UInt8) : List Mark :=
  if tc.secHeader.ackFlags &&& flag = 0 then []
  else [.report c (verificationReport tc subtype none)]

def completionMarks (c : Ptr) (tc : TcPacket) (st : Status) : List Mark :=
  if tc.secHeader.ackFlags &&& 0x01 = 0 then []
  else if st = .ok then [.report c (verificationReport tc 7 none)]
  else [.report c (verificationReport tc 8 (some st.code))]

theorem marks_reportIf (c : Ptr) (tc : TcPacket) (flag subtype : UInt8) (w : World cfg A) :
    marks (reportIf cb c tc flag subtype w).trace = ackMarks c tc flag subtype := by
  rw [reportIf, ackMarks]
  by_cases ha : tc.secHeader.ackFlags &&& flag = 0
  · simp [ha]
  · simp [ha, marks_emitSuccess]

theorem marks_reportAcceptance (c : Ptr) (tc : TcPacket) (w : World cfg A) :
    marks (reportAcceptance cb c tc w).trace =
      ackMarks c tc 0x08 1 ++ ackMarks c tc 0x04 3 := by
  rw [reportAcceptance, Prog.bind_trace, marks_append, marks_reportIf, marks_reportIf]

theorem marks_reportCompletion (c : Ptr) (tc : TcPacket) (st : Status) (w : World cfg A) :
    marks (reportCompletion cb c tc st w).trace = completionMarks c tc st := by
  rw [reportCompletion, completionMarks]
  by_cases ha : tc.secHeader.ackFlags &&& 0x01 = 0
  · simp [ha]
  · by_cases hs : st = .ok
    · simp [ha, hs, marks_emitSuccess]
    · simp [ha, hs, marks_emitFailure]

section Process

variable {c : Ptr} {data : List UInt8} {len : UInt16} {tc : TcPacket} {w : World cfg A}

theorem marks_callHandler (i : Fin cfg.maxTcHandlers) :
    marks (callHandler cb c tc i w).trace =
      [.handler c ((w.ctx c).handlerTable i).handler ((w.ctx c).handlerTable i).userData tc
        (callHandler cb c tc i w).val] := rfl

variable (cb) in
/-- What shows of a TC that found the slot `i` of the table. The slot is read again when the
reports have been delivered. -/
theorem marks_routed {i : Fin cfg.maxTcHandlers}
    (hd : pusTcDecode (some data) len (some .fresh) = (.ok, some tc))
    (hf : (w.ctx c).handlerTable.find tc.secHeader.serviceTypeId tc.secHeader.subtypeId =
      some i) :
    let st := (pusTcProcess cb (some c) (some data) len w).val
    let e := ((reportAcceptance cb c tc w).state.ctx c).handlerTable i
    marks (pusTcProcess cb (some c) (some data) len w).trace =
      ackMarks c tc 0x08 1 ++ ackMarks c tc 0x04 3 ++
        [.handler c e.handler e.userData tc st] ++ completionMarks c tc st := by
  simp only [pusTcProcess_routed hd hf, Prog.bind_trace, Prog.bind_val, Prog.pure_apply,
    marks_append, marks_nil, marks_reportAcceptance, marks_reportCompletion, marks_callHandler,
    List.append_nil, List.append_assoc]

variable (tc) in
theorem Undisturbed.reportIf_ctx (h : Undisturbed cb c (w.ctx c)) (flag subtype : UInt8) :
    ∃ n, (reportIf cb c tc flag subtype w).state.ctx c = { w.ctx c with tmCounter := n } := by
  apply reportIf_cases cb c tc (P := fun m ↦
    ∃ n, (m w).state.ctx c = { w.ctx c with tmCounter := n })
  · exact ⟨(w.ctx c).tmCounter, rfl⟩
  · intro payload
    exact ⟨(w.ctx c).tmCounter + 1, h.emitPacket_ctx payload⟩

variable (tc) in
theorem Undisturbed.reportAcceptance_ctx (h : Undisturbed cb c (w.ctx c)) :
    ∃ n, (reportAcceptance cb c tc w).state.ctx c = { w.ctx c with tmCounter := n } := by
  obtain ⟨n, hn⟩ := h.reportIf_ctx tc pusAckAcceptance
    pusSubtypeVerificationAcceptanceSuccess
  obtain ⟨m, hm⟩ := (hn ▸ h.of_counter n).reportIf_ctx tc pusAckStart
    pusSubtypeVerificationStartSuccess
  exact ⟨m, by rw [reportAcceptance, Prog.bind_state, hm, hn]⟩

theorem marks_unrouted
    (hd : pusTcDecode (some data) len (some .fresh) = (.ok, some tc))
    (hl : (w.ctx c).handlerTable.lookup tc.secHeader.serviceTypeId tc.secHeader.subtypeId = none) :
    (pusTcProcess cb (some c) (some data) len w).val = .noHandler ∧
      marks (pusTcProcess cb (some c) (some data) len w).trace =
        [.report c (verificationReport tc 10 (some 1))] := by
  rw [HandlerTable.lookup, Option.map_eq_none_iff] at hl
  rw [pusTcProcess_unrouted hd hl]
  exact ⟨rfl, by rw [Prog.bind_trace, marks_append, marks_emitFailure]; rfl⟩

theorem marks_routed_undisturbed {h : TcHandler} {userData : Ptr}
    (hu : Undisturbed cb c (w.ctx c))
    (hd : pusTcDecode (some data) len (some .fresh) = (.ok, some tc))
    (hl : (w.ctx c).handlerTable.lookup tc.secHeader.serviceTypeId tc.secHeader.subtypeId =
      some (h, userData)) :
    let st := (pusTcProcess cb (some c) (some data) len w).val
    marks (pusTcProcess cb (some c) (some data) len w).trace =
      ackMarks c tc 0x08 1 ++ ackMarks c tc 0x04 3 ++ [.handler c h userData tc st] ++
        completionMarks c tc st := by
  obtain ⟨i, hf, hi⟩ := Option.map_eq_some_iff.mp hl
  obtain ⟨rfl, rfl⟩ := Prod.mk.inj hi
  obtain ⟨n, hn⟩ := hu.reportAcceptance_ctx tc
  have hm := marks_routed cb hd hf
  rwa [hn] at hm

end Process

/-- What the world sees of the processing of a TC: the reports handed to the sink, and the
invocations of a handler. -/
def shown (t : History cfg) : List Mark :=
  t.own (fun _ ↦ []) fun
    | .handler c h ud tc _ st => [.handler c h ud tc st]
    | .tmSink c _ _ data _ => [.report c (.ofPacket data)]
    | _ => []

section Shown

variable {c : Ptr} {tc : TcPacket} {w : World cfg A}

@[simp] theorem shown_nil : shown (.nil : History cfg) = [] := rfl

@[simp] theorem shown_append (t u : History cfg) : shown (t ++ u) = shown t ++ shown u :=
  Trace.own_append ..

theorem shown_callTmSink (hs : (w.ctx c).tmSink ≠ none) (data : List UInt8) :
    shown (callTmSink cb c data w).trace = [.report c (.ofPacket data)] := by
  obtain ⟨f, hf⟩ := Option.ne_none_iff_exists'.mp hs
  rw [callTmSink_some cb hf]
  rfl

/-- With a sink every report that is built is shown. -/
theorem shown_emitPacket (h : Undisturbed cb c (w.ctx c)) (hs : (w.ctx c).tmSink ≠ none)
    (service subtype : UInt8) (dest : UInt16) (payload : List UInt8) :
    shown (emitPacket cb c service subtype dest payload w).trace =
      marks (emitPacket cb c service subtype dest payload w).trace := by
  have htime : shown (callTimeSource cb c w).trace = [] := own_callTimeSource cb w fun _ _ _ _ ↦ rfl
  have hsink {k : Context cfg} (hk : k.tmSink = (w.ctx c).tmSink) (data : List UInt8) :
      shown (callTmSink cb c data ((callTimeSource cb c w).state.setCtx c k)).trace =
        [.report c (.ofPacket data)] :=
    shown_callTmSink (by rwa [World.setCtx_ctx, hk]) data
  rw [marks_emitPacket, emitPacket, Prog.bind_trace, buildPacket_apply, shown_append, shown_append,
    htime, hsink (by rw [h.callTimeSource_ctx]), ofPacket_tmHeader]
  rfl

theorem shown_reportIf (h : Undisturbed cb c (w.ctx c)) (hs : (w.ctx c).tmSink ≠ none)
    (flag subtype : UInt8) : shown (reportIf cb c tc flag subtype w).trace =
      marks (reportIf cb c tc flag subtype w).trace := by
  apply reportIf_cases cb c tc (P := fun m ↦ shown (m w).trace = marks (m w).trace)
  · rfl
  · intro payload
    rw [Prog.bind_trace, shown_append, marks_append, shown_emitPacket h hs]
    rfl

theorem shown_reportAcceptance (h : Undisturbed cb c (w.ctx c)) (hs : (w.ctx c).tmSink ≠ none) :
    shown (reportAcceptance cb c tc w).trace = marks (reportAcceptance cb c tc w).trace := by
  obtain ⟨n, hn⟩ := h.reportIf_ctx tc pusAckAcceptance pusSubtypeVerificationAcceptanceSuccess
  rw [reportAcceptance, Prog.bind_trace, shown_append, marks_append, shown_reportIf h hs,
    shown_reportIf]
  · rw [hn]
    exact h.of_counter n
  · rw [hn]
    exact hs

theorem shown_reportCompletion (h : Undisturbed cb c (w.ctx c)) (hs : (w.ctx c).tmSink ≠ none)
    (st : Status) : shown (reportCompletion cb c tc st w).trace =
      marks (reportCompletion cb c tc st w).trace := by
  apply reportCompletion_cases cb c tc (P := fun m ↦ shown (m w).trace = marks (m w).trace)
  · rfl
  · intro subtype payload
    rw [Prog.bind_trace, shown_append, marks_append, shown_emitPacket h hs]
    rfl

/-- The output callbacks leave the context alone, and whatever handler runs, there is a sink
afterwards if there was one before. -/
structure KeepsSink (cb : Callbacks cfg A) (c : Ptr) : Prop where
  tmSink : ∀ f ud data, Keeps c (cb.tmSink f ud data)
  timeSource : ∀ f ud, Keeps c (cb.timeSource f ud)
  handler : ∀ tc ud h (w : World cfg A), (w.ctx c).tmSink ≠ none →
    ((runHandler cb c tc ud h w).state.ctx c).tmSink ≠ none

theorem KeepsSink.undisturbed (h : KeepsSink cb c) (k : Context cfg) : Undisturbed cb c k :=
  ⟨fun f _ ↦ h.tmSink f _, fun f _ ↦ h.timeSource f _⟩

/-- A computation after which `c` has a sink if it had one before. -/
def LeavesSink (c : Ptr) {α : Type} (m : Pus cfg A α) : Prop :=
  ∀ w, (w.ctx c).tmSink ≠ none → ((m w).state.ctx c).tmSink ≠ none

theorem leavesSink_rules (tmSink : ∀ f ud data, Keeps c (cb.tmSink f ud data))
    (timeSource : ∀ f ud, Keeps c (cb.timeSource f ud))
    (handler : ∀ f d tc ud, LeavesSink c (cb.handler f d tc ud))
    (provider : ∀ f sid capacity ud, LeavesSink c (cb.provider f sid capacity ud))
    (getter : ∀ f pid capacity ud, LeavesSink c (cb.getter f pid capacity ud))
    (setter : ∀ f pid buf len ud, LeavesSink c (cb.setter f pid buf len ud)) :
    OpRules cb False (LeavesSink c) where
  pure _ _ hw := hw
  bind hm hf w hw := hf _ _ (hm w hw)
  readCtx d _ _ _ hf w := hf _ w
  localArray n _ _ hf w := hf ((List.range n).map w.stack) (by simp) w
  readS3 _ _ hw := hw
  readS20 _ _ hw := hw
  readPayload _ _ _ hw := hw
  call _ hm := hm
  emission d service subtype dest payload _ f hf w hw := by
    have hu (d : Ptr) (w : World cfg A) : Undisturbed cb c (w.ctx d) :=
      ⟨fun f _ ↦ tmSink f _, fun f _ ↦ timeSource f _⟩
    refine hf _ _ _ ?_
    rw [(hu _ _).callTmSink_other, buildPacket_apply]
    by_cases hd : c = d
    · subst hd
      simp only [World.setCtx_ctx, (hu _ _).callTimeSource_ctx]
      exact hw
    · simp only [World.setCtx_ctx_of_ne _ _ _ hd, (hu _ _).callTimeSource_other]
      exact hw
  buildPacket h := h.elim
  handler := handler
  provider := provider
  getter := getter
  setter := setter

theorem OpRules.keepsSink (h : OpRules cb False (LeavesSink c))
    (tmSink : ∀ f ud data, Keeps c (cb.tmSink f ud data))
    (timeSource : ∀ f ud, Keeps c (cb.timeSource f ud)) : KeepsSink cb c :=
  ⟨tmSink, timeSource, fun tc ud f ↦ h.runHandler c tc ud f⟩

theorem shown_tcProcess (h : KeepsSink cb c) (hs : (w.ctx c).tmSink ≠ none) (data : List UInt8)
    (len : UInt16) : shown (pusTcProcess cb (some c) (some data) len w).trace =
      marks (pusTcProcess cb (some c) (some data) len w).trace := by
  by_cases hd : (pusTcDecode (some data) len (some .fresh)).1 = .ok
  swap
  · rw [pusTcProcess_undecoded hd]
    rfl
  obtain ⟨tc, hd⟩ : ∃ tc, pusTcDecode (some data) len (some .fresh) = (.ok, some tc) :=
    pusTcDecode_some hd
  cases hf : (w.ctx c).handlerTable.find tc.secHeader.serviceTypeId tc.secHeader.subtypeId with
  | none =>
    rw [pusTcProcess_unrouted hd hf, emitFailure_eq, Prog.bind_trace, shown_append, marks_append,
      shown_emitPacket (h.undisturbed _) hs]
    rfl
  | some i =>
    obtain ⟨n, hn⟩ := (h.undisturbed (w.ctx c)).reportAcceptance_ctx tc
    have hs' : ((reportAcceptance cb c tc w).state.ctx c).tmSink ≠ none := by
      rw [hn]
      exact hs
    have hafter : ((callHandler cb c tc i (reportAcceptance cb c tc w).state).state.ctx c).tmSink ≠
        none := h.handler _ _ _ _ hs'
    simp only [pusTcProcess_routed hd hf, Prog.bind_trace, Prog.pure_apply, shown_append,
      marks_append, shown_reportAcceptance (h.undisturbed _) hs,
      shown_reportCompletion (h.undisturbed _) hafter]
    rfl

end Shown

def isInvocation : Mark → Bool
  | .report .. => false
  | .handler .. => true

def isCompletionFailure : Mark → Bool
  | .report _ r => r.service == 1 && r.subtype == 8
  | .handler .. => false

section Filter

variable (c : Ptr) (tc : TcPacket) (st : Status)

theorem invocation_filter {e : Mark} (he : isInvocation e) :
    (ackMarks c tc 0x08 1 ++ ackMarks c tc 0x04 3 ++ [e] ++ completionMarks c tc st).filter
      isInvocation = [e] := by
  have hack (flag subtype : UInt8) : (ackMarks c tc flag subtype).filter isInvocation = [] := by
    rw [ackMarks]
    split <;> rfl
  have hcompletion : (completionMarks c tc st).filter isInvocation = [] := by
    rw [completionMarks]
    split
    · rfl
    · split <;> rfl
  simp only [List.filter_append, hack, hcompletion, List.filter_singleton, he, cond_true,
    List.nil_append, List.append_nil]

theorem completionFailure_filter {e : Mark} (he : isCompletionFailure e = false) :
    (ackMarks c tc 0x08 1 ++ ackMarks c tc 0x04 3 ++ [e] ++ completionMarks c tc st).filter
      isCompletionFailure = if tc.secHeader.ackFlags &&& 0x01 = 0 ∨ st = .ok then []
        else [.report c (verificationReport tc 8 (some st.code))] := by
  have hack (flag subtype : UInt8) (hs : subtype ≠ 8) :
      (ackMarks c tc flag subtype).filter isCompletionFailure = [] := by
    rw [ackMarks]
    split <;> simp [isCompletionFailure, verificationReport, hs]
  have hcompletion : (completionMarks c tc st).filter isCompletionFailure =
      if tc.secHeader.ackFlags &&& 0x01 = 0 ∨ st = .ok then []
        else [.report c (verificationReport tc 8 (some st.code))] := by
    rw [completionMarks]
    by_cases ha : tc.secHeader.ackFlags &&& 0x01 = 0
    · simp [ha]
    · by_cases hs : st = .ok <;> simp [ha, hs, isCompletionFailure, verificationReport]
  simp only [List.filter_append, hack 0x08 1 (by decide), hack 0x04 3 (by decide), hcompletion,
    List.filter_singleton, he, cond_false, List.nil_append]

end Filter

/-- The reports a raw buffer gives rise to: none when it does not decode, TM[1,10] when nothing is
registered for it, and else those its acknowledgement flags ask for, around one run of the handler
registered for it. As long as there is a sink, it is shown all of them. -/
theorem tc_process_reports (cb : Callbacks cfg A) (c : Ptr) (data : List UInt8) (len : UInt16)
    (w : World cfg A) (hu : Undisturbed cb c (w.ctx c)) :
    let d := pusTcDecode (some data) len (some .fresh)
    let r := pusTcProcess cb (some c) (some data) len w
    (d.1 ≠ .ok → r = ⟨d.1, w, .nil⟩) ∧
    (∀ tc, d = (.ok, some tc) →
      match (w.ctx c).handlerTable.lookup tc.secHeader.serviceTypeId tc.secHeader.subtypeId with
      | none => r.val = .noHandler ∧
          marks r.trace = [.report c (verificationReport tc 10 (some 1))]
      | some (h, userData) =>
          marks r.trace = ackMarks c tc 0x08 1 ++ ackMarks c tc 0x04 3 ++
            [.handler c h userData tc r.val] ++ completionMarks c tc r.val) ∧
    (KeepsSink cb c → (w.ctx c).tmSink ≠ none → shown r.trace = marks r.trace) := by
  intro d r
  refine ⟨fun hd ↦ congrFun (pusTcProcess_undecoded hd) w, fun tc hd ↦ ?_,
    fun hk hs ↦ shown_tcProcess hk hs data len⟩
  cases hl : (w.ctx c).handlerTable.lookup tc.secHeader.serviceTypeId tc.secHeader.subtypeId with
  | none => exact marks_unrouted hd hl
  | some e => exact marks_routed_undisturbed hu hd hl

/-- A context on which user handler 5 is registered for service 128, subtype 1. -/
def oneHandler : World .default Unit :=
  (pusHandlerRegister (some 0) 128 1 (some (.user 5)) 9 (.cleared ())).state

def oneHandlerSink : World .default Unit :=
  (pusSetTmSink (some 0) (some 1) 0 oneHandler).state

/-- A handler that fails, and a sink that fails. -/
def failing : Callbacks .default Unit where
  handler _ _ _ _ := pure .handlerFailed
  tmSink _ _ _ := pure .tableFull
  timeSource := Callbacks.quiet.timeSource
  provider := Callbacks.quiet.provider
  getter := Callbacks.quiet.getter
  setter := Callbacks.quiet.setter

theorem failing_keepsSink (c : Ptr) : KeepsSink failing c :=
  (leavesSink_rules (fun _ _ _ _ ↦ rfl) (fun _ _ _ ↦ rfl) (fun _ _ _ _ _ hw ↦ hw)
    (fun _ _ _ _ _ hw ↦ hw) (fun _ _ _ _ _ hw ↦ hw) (fun _ _ _ _ _ _ hw ↦ hw)).keepsSink
      (fun _ _ _ _ ↦ rfl) fun _ _ _ ↦ rfl

theorem tc_process_reports_all_flags :
    let r := pusTcProcess failing (some 0) (some [0x1D, 128, 1, 0, 3, 0, 0, 0, 0, 0]) 10
      oneHandlerSink
    let sent : List Mark := [.report 0 ⟨1, 1, 3, [128, 1, 0, 3]⟩,
      .report 0 ⟨1, 3, 3, [128, 1, 0, 3]⟩,
      .handler 0 (.user 5) 9 ⟨⟨1, 13, 128, 1, 3, 0, 0⟩, [], 0⟩ .handlerFailed,
      .report 0 ⟨1, 8, 3, [128, 1, 0, 3, 0, 6]⟩]
    marks r.trace = sent ∧ shown r.trace = sent := by
  intro r sent
  have hkeep := failing_keepsSink 0
  obtain ⟨-, hmarks, hshown⟩ := tc_process_reports failing 0 [0x1D, 128, 1, 0, 3, 0, 0, 0, 0, 0] 10
    oneHandlerSink (hkeep.undisturbed _)
  have hsent : marks r.trace = sent :=
    hmarks ⟨⟨1, 13, 128, 1, 3, 0, 0⟩, [], 0⟩ (by decide)
  exact ⟨hsent, (hshown hkeep (by decide)).trans hsent⟩

/-- A handler that fails is reported by TM[1,8] exactly when the TC asks for the report on its
completion; and as long as there is a sink, the sink is handed the report then and only then. -/
theorem failure_reported_iff (cb : Callbacks cfg A) (c : Ptr) (data : List UInt8) (len : UInt16)
    (w : World cfg A) (tc : TcPacket) (h : TcHandler) (userData : Ptr) (st : Status)
    (hd : pusTcDecode (some data) len (some .fresh) = (.ok, some tc))
    (hl : (w.ctx c).handlerTable.lookup tc.secHeader.serviceTypeId tc.secHeader.subtypeId ≠ none)
    (hm : .handler c h userData tc st ∈
      marks (pusTcProcess cb (some c) (some data) len w).trace) (hst : st ≠ .ok) :
    let r := pusTcProcess cb (some c) (some data) len w
    let report : List Mark := [.report c (verificationReport tc 8 (some st.code))]
    ((marks r.trace).filter isCompletionFailure = report ↔
      tc.secHeader.ackFlags &&& pusAckCompletion ≠ 0) ∧
    (KeepsSink cb c → (w.ctx c).tmSink ≠ none →
      ((shown r.trace).filter isCompletionFailure = report ↔
        tc.secHeader.ackFlags &&& pusAckCompletion ≠ 0)) := by
  intro r report
  obtain ⟨i, hi⟩ : ∃ i, (w.ctx c).handlerTable.find tc.secHeader.serviceTypeId
      tc.secHeader.subtypeId = some i := by
    rwa [HandlerTable.lookup, ne_eq, Option.map_eq_none_iff, ← ne_eq,
      Option.ne_none_iff_exists'] at hl
  have hr := marks_routed cb hd hi
  have hv : st = r.val := by
    have hmem := List.mem_filter.mpr ⟨hm, (rfl : isInvocation (.handler c h userData tc st) = true)⟩
    rw [hr, invocation_filter _ _ _ rfl, List.mem_singleton] at hmem
    exact (Mark.handler.inj hmem).2.2.2.2
  have hbuilt : (marks r.trace).filter isCompletionFailure = report ↔
      tc.secHeader.ackFlags &&& pusAckCompletion ≠ 0 := by
    rw [hr, completionFailure_filter _ _ _ rfl, ← hv]
    simp [report, hst]
  refine ⟨hbuilt, fun hk hs ↦ ?_⟩
  rw [shown_tcProcess hk hs]
  exact hbuilt

theorem failure_reported_iff_flagged :
    (shown (pusTcProcess failing (some 0) (some [0x11, 128, 1, 0, 3, 0, 0, 0, 0, 0]) 10
      oneHandlerSink).trace).filter isCompletionFailure =
        [.report 0 ⟨1, 8, 3, [128, 1, 0, 3, 0, 6]⟩] := by
  obtain ⟨-, hshown⟩ := failure_reported_iff failing 0 [0x11, 128, 1, 0, 3, 0, 0, 0, 0, 0] 10
    oneHandlerSink ⟨⟨1, 1, 128, 1, 3, 0, 0⟩, [], 0⟩ (.user 5) 9 .handlerFailed (by decide)
    (by decide) (by decide) (by decide)
  exact (hshown (failing_keepsSink 0) (by decide)).mpr (by decide)

theorem failure_silent_unflagged :
    pusTcDecode (some [0x10, 128, 1, 0, 3, 0, 0, 0, 0, 0]) 10 (some .fresh) =
        (.ok, some ⟨⟨1, 0, 128, 1, 3, 0, 0⟩, [], 0⟩) ∧
      (oneHandlerSink.ctx 0).handlerTable.lookup 128 1 = some (.user 5, 9) ∧
      (oneHandlerSink.ctx 0).tmSink = some 1 ∧
      let r := pusTcProcess failing (some 0) (some [0x10, 128, 1, 0, 3, 0, 0, 0, 0, 0]) 10
        oneHandlerSink
      let handled : List Mark :=
        [.handler 0 (.user 5) 9 ⟨⟨1, 0, 128, 1, 3, 0, 0⟩, [], 0⟩ .handlerFailed]
      marks r.trace = handled ∧ shown r.trace = handled := by
  decide

end EmbeddedPus
