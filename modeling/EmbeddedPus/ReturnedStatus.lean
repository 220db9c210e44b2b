import EmbeddedPus.Process
import EmbeddedPus.Service3
import EmbeddedPus.Service5

namespace EmbeddedPus

open CallTrace ByteOrder

variable {cfg : Config} {A : Type} {cb : Callbacks cfg A}

/-- Callbacks that do not return `PUS_STATUS_NULL` themselves. -/
structure Polite (cb : Callbacks cfg A) : Prop where
  handler : ∀ f c tc ud, (cb.handler f c tc ud).Returns fun st ↦ st ≠ .null
  tmSink : ∀ f ud data, (cb.tmSink f ud data).Returns fun st ↦ st ≠ .null
  provider : ∀ f sid capacity ud, (cb.provider f sid capacity ud).Returns fun r ↦ r.st ≠ .null
  getter : ∀ f pid capacity ud, (cb.getter f pid capacity ud).Returns fun r ↦ r.st ≠ .null
  setter : ∀ f pid buf len ud, (cb.setter f pid buf len ud).Returns fun st ↦ st ≠ .null

theorem Polite.quiet : Polite (.quiet : Callbacks cfg A) where
  handler _ _ _ _ := .pure Status.noConfusion
  tmSink _ _ _ := .pure Status.noConfusion
  provider _ _ _ _ := .pure Status.noConfusion
  getter _ _ _ _ := .pure Status.noConfusion
  setter _ _ _ _ _ := .pure Status.noConfusion

theorem pusTcDecode_ne_null (data : List UInt8) (len : UInt16) (tc : TcPacket) :
    (pusTcDecode (some data) len (some tc)).1 ≠ .null := by
  by_cases hl : len < 10
  · rw [pusTcDecode_short tc hl]
    exact Status.noConfusion
  by_cases hv : data.getD 0 0 >>> 4 = pusVersion
  · rw [pusTcDecode_accepted tc hl hv]
    exact Status.noConfusion
  · rw [pusTcDecode_badVersion tc hl hv]
    exact Status.noConfusion

theorem buildReport_ne_null {c : Ptr} {tc : TcPacket} {subtype : UInt8} {code : UInt16}
    {inc : Bool} {o : List UInt8} {capacity l : UInt16} :
    (buildReport cb (some c) (some tc) subtype code inc (some o) capacity (some l)).Returns
      fun r ↦ r.st ≠ .null :=
  .ite (fun _ ↦ .pure Status.noConfusion) fun _ ↦ .seq fun _ ↦ .seq fun _ ↦
    .pure Status.noConfusion

namespace Polite

variable (h : Polite cb) {c s : Ptr}

include h

theorem callTmSink (data : List UInt8) :
    (callTmSink cb c data).Returns fun st ↦ st ≠ .null := by
  refine .seq fun k ↦ ?_
  cases k.tmSink with
  | none => exact .pure Status.noConfusion
  | some f => exact .call (h.tmSink _ _ _)

theorem emitPacket (service subtype : UInt8) (dest : UInt16) (payload : List UInt8) :
    (emitPacket cb c service subtype dest payload).Returns fun st ↦ st ≠ .null :=
  .seq fun _ ↦ h.callTmSink _

theorem emitSuccess (tc : TcPacket) (subtype : UInt8) :
    (pusService1EmitSuccess cb (some c) (some tc) subtype).Returns fun st ↦ st ≠ .null := by
  rw [emitSuccess_eq]
  exact h.emitPacket _ _ _ _

theorem emitFailure (tc : TcPacket) (subtype : UInt8) (code : UInt16) :
    (pusService1EmitFailure cb (some c) (some tc) subtype code).Returns
      fun st ↦ st ≠ .null := by
  rw [emitFailure_eq]
  exact h.emitPacket _ _ _ _

theorem tmBuild (service subtype : UInt8) (dest : UInt16) (payload : Option (List UInt8))
    (payloadLen capacity : UInt16) (o : List UInt8) (l : UInt16) :
    (pusTmBuild cb (some c) service subtype dest payload payloadLen (some o) capacity
      (some l)).Returns fun r ↦ r.st ≠ .null :=
  .ite (fun _ ↦ .pure Status.noConfusion) fun _ ↦ .ite (fun _ ↦ .pure Status.noConfusion) fun _ ↦
    .seq fun _ ↦ .seq fun _ ↦ .bind (h.callTmSink _) fun _ hst ↦ .pure hst

/-- The last step of the emitters. -/
theorem emitBuilt (service subtype : UInt8) (dest : UInt16) (payload : Option (List UInt8))
    (payloadLen capacity : UInt16) (o : List UInt8) (l : UInt16) :
    (do
      let r ← pusTmBuild cb (some c) service subtype dest payload payloadLen (some o) capacity
        (some l)
      pure r.st : Pus cfg A Status).Returns fun st ↦ st ≠ .null :=
  .bind (h.tmBuild _ _ _ _ _ _ _ _) fun _ hr ↦ .pure hr

theorem buildAndEmit (subtype : UInt8) (dest : UInt16) (payload : Option (List UInt8))
    (payloadLen : UInt16) :
    (buildAndEmit cb (some c) subtype dest payload payloadLen).Returns fun st ↦ st ≠ .null :=
  .seq fun _ ↦ h.emitBuilt _ _ _ _ _ _ _ _

theorem service5Emit (subtype : UInt8) (eventId : UInt16) {auxData : Option (List UInt8)}
    {auxLen : UInt16} (ha : ¬ (auxLen > 0 ∧ auxData = none)) :
    (pusService5Emit cb (some c) subtype eventId auxData auxLen).Returns fun st ↦ st ≠ .null :=
  .ite (fun hn ↦ absurd hn ha) fun _ ↦ .ite (fun _ ↦ .pure Status.noConfusion) fun _ ↦
    .seq fun _ ↦ .seq fun _ ↦ .seq fun _ ↦ h.emitBuilt _ _ _ _ _ _ _ _

theorem emitReport (sid : UInt16) (kind : UInt8) :
    (emitReport cb (some c) (some s) sid kind).Returns fun st ↦ st ≠ .null := by
  refine .seq fun t ↦ ?_
  cases findEntry t sid kind with
  | none => exact .pure Status.noConfusion
  | some i =>
    exact .seq fun _ ↦ .seq fun _ ↦ .bind (.call (h.provider _ _ _ _)) fun _ hr ↦
      .ite (fun _ ↦ .pure hr) fun _ ↦ .ite (fun _ ↦ .pure Status.noConfusion) fun _ ↦
        .seq fun _ ↦ h.emitBuilt _ _ _ _ _ _ _ _

theorem emitReportLoop (ids : List UInt16) (payload : List UInt8) (off : UInt16) :
    (emitReportLoop cb s ids payload off).Returns fun r ↦ r.st ≠ .null := by
  induction ids generalizing payload off with
  | nil => exact .pure Status.noConfusion
  | cons pid ids ih =>
    refine .seq fun t ↦ ?_
    cases findParam t pid with
    | none => exact .pure Status.noConfusion
    | some i =>
      exact .ite (fun _ ↦ .pure Status.noConfusion) fun _ ↦
        .bind (.call (h.getter _ _ _ _)) fun _ hr ↦ .ite (fun _ ↦ .pure hr) fun _ ↦ ih _ _

theorem service20EmitReport (ids : List UInt16) (count : UInt8) :
    (pusService20EmitReport cb (some c) (some s) (some ids) count).Returns
      fun st ↦ st ≠ .null :=
  .seq fun _ ↦ .seq fun _ ↦ .bind (h.emitReportLoop _ _ _) fun _ hr ↦
    .ite (fun _ ↦ .pure hr) fun _ ↦ .seq fun _ ↦ h.emitBuilt _ _ _ _ _ _ _ _

theorem setValuesLoop (tc : TcPacket) (n : ℕ) (off : UInt16) :
    (setValuesLoop cb s tc n off).Returns fun r ↦ r.1 ≠ .null := by
  induction n generalizing off with
  | zero => exact .pure Status.noConfusion
  | succ n ih =>
    refine .ite (fun _ ↦ .pure Status.noConfusion) fun _ ↦ .seq fun hi ↦ .seq fun lo ↦
      .seq fun t ↦ ?_
    cases findParam t (join16 hi lo) with
    | none => exact .pure Status.noConfusion
    | some i =>
      refine .ite (fun _ ↦ .pure Status.noConfusion) fun _ ↦ ?_
      cases (t i).setter with
      | none => exact .pure Status.noConfusion
      | some f =>
        exact .bind (.call (h.setter _ _ _ _ _)) fun _ hst ↦ .ite (fun _ ↦ .pure hst) fun _ ↦ ih _

theorem runHandler (tc : TcPacket) (ud : Ptr) (f : TcHandler) :
    (runHandler cb c tc ud f).Returns fun st ↦ st ≠ .null := by
  cases f with
  | handleTc17_1 => exact h.buildAndEmit _ _ _ _
  | handleTc17_3 =>
    exact .ite (fun _ ↦ .pure Status.noConfusion) fun _ ↦ .seq fun _ ↦ .seq fun _ ↦
      h.buildAndEmit _ _ _ _
  | handleTc20_1 =>
    exact .ite (fun _ ↦ .pure Status.noConfusion) fun _ ↦ .seq fun _ ↦
      .ite (fun _ ↦ .pure Status.noConfusion) fun _ ↦
        .ite (fun _ ↦ .pure Status.noConfusion) fun _ ↦ .seq fun _ ↦ h.service20EmitReport _ _
  | handleTc20_3 =>
    exact .ite (fun _ ↦ .pure Status.noConfusion) fun _ ↦ .seq fun _ ↦
      .bind (h.setValuesLoop _ _ _) fun _ hr ↦ .pure hr
  | user f => exact h.handler _ _ _ _

theorem callHandler (tc : TcPacket) (i : Fin cfg.maxTcHandlers) :
    (callHandler cb c tc i).Returns fun st ↦ st ≠ .null :=
  .seq fun _ ↦ .call (h.runHandler _ _ _)

theorem handlerInvoke (service subtype : UInt8) (tc : TcPacket) :
    (pusHandlerInvoke cb (some c) service subtype (some tc)).Returns fun st ↦ st ≠ .null := by
  refine .seq fun k ↦ ?_
  cases pusHandlerFind (some k) service subtype with
  | none => exact .pure Status.noConfusion
  | some i => exact h.callHandler _ _

theorem tcProcess (data : List UInt8) (len : UInt16) :
    (pusTcProcess cb (some c) (some data) len).Returns fun st ↦ st ≠ .null := by
  by_cases hd : (pusTcDecode (some data) len (some .fresh)).1 = .ok
  · obtain ⟨tc, htc⟩ := pusTcDecode_some hd
    rw [pusTcProcess, htc]
    refine .seq fun k ↦ ?_
    cases pusHandlerFind (some k) tc.secHeader.serviceTypeId tc.secHeader.subtypeId with
    | none => exact .seq fun _ ↦ .pure Status.noConfusion
    | some i =>
      exact .seq fun _ ↦ .bind (h.callHandler _ _) fun _ hst ↦ .seq fun _ ↦ .pure hst
  · rw [pusTcProcess_undecoded hd]
    exact .pure (pusTcDecode_ne_null data len .fresh)

end Polite

theorem HandlerTable.register_ne_null {n : ℕ} (t : HandlerTable n) (service subtype : UInt8)
    (f : Option TcHandler) (ud : Ptr) : (t.register service subtype f ud).1 ≠ .null := by
  cases f with
  | none =>
    simp only [HandlerTable.register]
    split
    · exact Status.noConfusion
    · exact Status.noConfusion
  | some f =>
    simp only [HandlerTable.register]
    split
    · exact Status.noConfusion
    · exact Status.noConfusion
    · exact Status.noConfusion

theorem handlerRegister_ne_null (c : Ptr) (service subtype : UInt8) (f : Option TcHandler)
    (ud : Ptr) : (pusHandlerRegister (some c) service subtype f ud : Pus cfg A Status).Returns
      fun st ↦ st ≠ .null :=
  .seq fun k ↦ .seq fun _ ↦ .pure (k.handlerTable.register_ne_null service subtype f ud)

theorem registerTwo_ne_null (c : Ptr) (service subtype₁ subtype₂ : UInt8) (f₁ f₂ : TcHandler)
    (ud : Ptr) : (registerTwo c service subtype₁ subtype₂ f₁ f₂ ud : Pus cfg A Status).Returns
      fun st ↦ st ≠ .null :=
  .bind (handlerRegister_ne_null _ _ _ _ _) fun _ hst ↦ .ite (fun _ ↦ .pure hst) fun _ ↦
    handlerRegister_ne_null _ _ _ _ _

theorem registerStructure_ne_null (s p : Ptr) (sid : UInt16) (kind : UInt8) (ud : Ptr) :
    (registerStructure (some s) sid kind (some p) ud : Pus cfg A Status).Returns
      fun st ↦ st ≠ .null := by
  refine .seq fun t ↦ ?_
  split
  · exact .seq fun _ ↦ .pure Status.noConfusion
  · exact .pure Status.noConfusion
  · exact .seq fun _ ↦ .pure Status.noConfusion

theorem registerParam_ne_null (s g : Ptr) (pid valueLen : UInt16) (setter : Option Ptr)
    (ud : Ptr) : (pusService20RegisterParam (some s) pid valueLen (some g) setter ud :
      Pus cfg A Status).Returns fun st ↦ st ≠ .null := by
  refine .seq fun t ↦ ?_
  split
  · exact .seq fun _ ↦ .pure Status.noConfusion
  · exact .pure Status.noConfusion
  · exact .seq fun _ ↦ .pure Status.noConfusion

theorem pusTcSecHeaderDecode_ne_null (data : List UInt8) (len : UInt16) (header : TcSecHeader) :
    (pusTcSecHeaderDecode (some data) len (some header)).1 ≠ .null := by
  simp only [pusTcSecHeaderDecode]
  split
  · exact Status.noConfusion
  · split
    · exact Status.noConfusion
    · exact Status.noConfusion

theorem pusTmSecHeaderDecode_ne_null (data : List UInt8) (len : UInt16) (header : TmSecHeader) :
    (pusTmSecHeaderDecode (some data) len (some header)).1 ≠ .null := by
  simp only [pusTmSecHeaderDecode]
  split
  · exact Status.noConfusion
  · exact Status.noConfusion

theorem pusTcSecHeaderEncode_ne_null (header : TcSecHeader) (o : List UInt8)
    (capacity l : UInt16) :
    (pusTcSecHeaderEncode (some header) (some o) capacity (some l)).st ≠ .null := by
  simp only [pusTcSecHeaderEncode]
  split
  · exact Status.noConfusion
  · exact Status.noConfusion

theorem pusTmSecHeaderEncode_ne_null (header : TmSecHeader) (o : List UInt8)
    (capacity l : UInt16) :
    (pusTmSecHeaderEncode (some header) (some o) capacity (some l)).st ≠ .null := by
  simp only [pusTmSecHeaderEncode]
  split
  · exact Status.noConfusion
  · exact Status.noConfusion

theorem pusInit_ne_null (c : Ptr) :
    (pusInit (some c) : Pus cfg A Status).Returns fun st ↦ st ≠ .null :=
  .seq fun _ ↦ .pure Status.noConfusion

end EmbeddedPus
