import EmbeddedPus.Service1
import EmbeddedPus.Service17
import EmbeddedPus.Service20

namespace EmbeddedPus

open CallTrace

variable {cfg : Config} {A : Type} (cb : Callbacks cfg A)

def runHandler (c : Ptr) (tc : TcPacket) (userData : Ptr) (h : TcHandler) : Pus cfg A Status :=
  match h with
  | .handleTc17_1 => handleTc17_1 cb c tc
  | .handleTc17_3 => handleTc17_3 cb c tc
  | .handleTc20_1 => handleTc20_1 cb c tc userData
  | .handleTc20_3 => handleTc20_3 cb tc userData
  | .user f => cb.handler f c tc userData

/-- Call the handler that a slot of the dispatch table points to, whether the slot is in use or
not. -/
def callHandler (c : Ptr) (tc : TcPacket) (i : Fin cfg.maxTcHandlers) : Pus cfg A Status := do
  let k ← readCtx c
  let e := k.handlerTable i
  Prog.call (fun _ st ↦ .handler c e.handler e.userData tc k.handlerTable st)
    (runHandler cb c tc e.userData e.handler)

def pusHandlerInvoke (ctx : Option Ptr) (service subtype : UInt8) (tc : Option TcPacket) :
    Pus cfg A Status :=
  match ctx, tc with
  | some c, some tc => do
    let k ← readCtx c
    match pusHandlerFind (some k) service subtype with
    | none => pure .noHandler
    | some i => callHandler cb c tc i
  | _, _ => pure .null

/-- `if (ack & flag)`, the success report of that subtype. -/
def reportIf (c : Ptr) (tc : TcPacket) (flag subtype : UInt8) : Pus cfg A Unit := do
  if tc.secHeader.ackFlags &&& flag ≠ 0 then
    let _ ← pusService1EmitSuccess cb (some c) (some tc) subtype

/-- The reports of `pus_tc_process` before it calls the handler. -/
def reportAcceptance (c : Ptr) (tc : TcPacket) : Pus cfg A Unit := do
  reportIf cb c tc pusAckAcceptance pusSubtypeVerificationAcceptanceSuccess
  reportIf cb c tc pusAckStart pusSubtypeVerificationStartSuccess

def reportCompletion (c : Ptr) (tc : TcPacket) (st : Status) : Pus cfg A Unit := do
  if tc.secHeader.ackFlags &&& pusAckCompletion ≠ 0 then
    if st = .ok then
      let _ ← pusService1EmitSuccess cb (some c) (some tc) pusSubtypeVerificationCompletionSuccess
    else
      let _ ← pusService1EmitFailure cb (some c) (some tc) pusSubtypeVerificationCompletionFailure
        st.code

def pusTcProcess (ctx : Option Ptr) (data : Option (List UInt8)) (len : UInt16) :
    Pus cfg A Status :=
  match ctx, data with
  | some c, some data =>
    match pusTcDecode (some data) len (some .fresh) with
    | (.ok, some tc) => do
      let k ← readCtx c
      match pusHandlerFind (some k) tc.secHeader.serviceTypeId tc.secHeader.subtypeId with
      | none =>
        let _ ← pusService1EmitFailure cb (some c) (some tc) pusSubtypeVerificationRoutingFailure 1
        pure .noHandler
      | some i =>
        reportAcceptance cb c tc
        -- the slot found above is used here, whatever became of it in between
        let st ← callHandler cb c tc i
        reportCompletion cb c tc st
        pure st
    | (st, _) => pure st
  | _, _ => pure .null

section Reports

variable (c : Ptr) (tc : TcPacket) {P : Pus cfg A Unit → Prop}

theorem reportIf_cases (flag subtype : UInt8) (hnone : P (pure ()))
    (hsent : ∀ payload, P (do
      let _ ← emitPacket cb c pusServiceRequestVerification subtype tc.secHeader.sourceId payload
      pure ())) : P (reportIf cb c tc flag subtype) := by
  rw [reportIf, emitSuccess_eq]
  split
  · exact hsent _
  · exact hnone

theorem reportCompletion_cases (st : Status) (hnone : P (pure ()))
    (hsent : ∀ subtype payload, P (do
      let _ ← emitPacket cb c pusServiceRequestVerification subtype tc.secHeader.sourceId payload
      pure ())) : P (reportCompletion cb c tc st) := by
  rw [reportCompletion, emitSuccess_eq, emitFailure_eq]
  split
  · split
    · exact hsent _ _
    · exact hsent _ _
  · exact hnone

end Reports

section Cases

variable {cb} {c : Ptr} {data : List UInt8} {len : UInt16} {tc : TcPacket} {w : World cfg A}

theorem pusTcProcess_undecoded
    (hd : (pusTcDecode (some data) len (some .fresh)).1 ≠ .ok) :
    pusTcProcess cb (some c) (some data) len =
      pure (pusTcDecode (some data) len (some .fresh)).1 := by
  rw [pusTcProcess]
  generalize pusTcDecode (some data) len (some .fresh) = r at hd ⊢
  rcases r with ⟨st, tc⟩
  cases st with
  | ok => exact absurd rfl hd
  | _ => rfl

theorem pusTcProcess_unrouted
    (hd : pusTcDecode (some data) len (some .fresh) = (.ok, some tc))
    (hf : (w.ctx c).handlerTable.find tc.secHeader.serviceTypeId tc.secHeader.subtypeId = none) :
    pusTcProcess cb (some c) (some data) len w = (do
      let _ ← pusService1EmitFailure cb (some c) (some tc) pusSubtypeVerificationRoutingFailure 1
      pure Status.noHandler : Pus cfg A Status) w := by
  simp only [pusTcProcess, hd, readCtx_bind_apply, pusHandlerFind, hf]

theorem pusTcProcess_routed {i : Fin cfg.maxTcHandlers}
    (hd : pusTcDecode (some data) len (some .fresh) = (.ok, some tc))
    (hf : (w.ctx c).handlerTable.find tc.secHeader.serviceTypeId tc.secHeader.subtypeId =
      some i) :
    pusTcProcess cb (some c) (some data) len w = (do
      reportAcceptance cb c tc
      let st ← callHandler cb c tc i
      reportCompletion cb c tc st
      pure st : Pus cfg A Status) w := by
  simp only [pusTcProcess, hd, readCtx_bind_apply, pusHandlerFind, hf]

end Cases

end EmbeddedPus
