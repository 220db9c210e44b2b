import EmbeddedPus.Library.Refinement
import EmbeddedPus.Dispatch
import EmbeddedPus.OperationRules
import EmbeddedPus.Responses

namespace EmbeddedPus

open CallTrace ByteOrder SlotTable

variable {cfg : Config} {A S : Type}

structure Request where
  acceptance : Bool
  start : Bool
  completion : Bool
  service : UInt8
  subtype : UInt8
  source : UInt16
  payload : List UInt8
  deriving DecidableEq, Repr

namespace Request

def ofTc (tc : TcPacket) : Request where
  acceptance := tc.secHeader.ackFlags &&& 0x08 != 0
  start := tc.secHeader.ackFlags &&& 0x04 != 0
  completion := tc.secHeader.ackFlags &&& 0x01 != 0
  service := tc.secHeader.serviceTypeId
  subtype := tc.secHeader.subtypeId
  source := tc.secHeader.sourceId
  payload := tc.payload.take tc.payloadLen.toNat

def ofFrame (frame : List UInt8) : Request where
  acceptance := frame.getD 0 0 &&& 0x08 != 0
  start := frame.getD 0 0 &&& 0x04 != 0
  completion := frame.getD 0 0 &&& 0x01 != 0
  service := frame.getD 1 0
  subtype := frame.getD 2 0
  source := join16 (frame.getD 3 0) (frame.getD 4 0)
  payload := frame.drop 10

variable (q : Request)

def verification (subtype : UInt8) (failureCode : Option UInt16) : Report :=
  ⟨1, subtype, q.source,
    [q.service, q.subtype] ++ split16 q.source ++ (failureCode.map split16).getD []⟩

def successIf (asked : Bool) (subtype : UInt8) : Spec S Report Unit :=
  if asked then Spec.put (q.verification subtype none) else pure ()

def conclude (st : Status) : Spec S Report Unit :=
  if q.completion then
    Spec.put (if st = .ok then q.verification 7 none else q.verification 8 (some st.code))
  else pure ()

/-- What becomes of a TC: its handler's part between the reports that were asked for, or the report
that there is no handler. -/
def served : Option (Spec S Report Status) → Spec S Report Status
  | none => do
    Spec.put (q.verification 10 (some 1))
    pure .noHandler
  | some handler => do
    q.successIf q.acceptance 1
    q.successIf q.start 3
    let st ← handler
    q.conclude st
    pure st

end Request

/-- What a frame from the ground leads to, when `route` has the handlers. -/
def command (route : Request → Option (Spec S Report Status)) (frame : List UInt8) :
    Spec S Report Status :=
  if frame.length < 10 then pure .badLength
  else if frame.getD 0 0 >>> 4 ≠ 1 then pure .badVersion
  else (Request.ofFrame frame).served (route (.ofFrame frame))

section Decoding

variable {data : List UInt8} {len : UInt16}

theorem getD_take_of_lt {xs : List UInt8} {n i : ℕ} (h : i < n) :
    (xs.take n).getD i 0 = xs.getD i 0 := by
  rw [List.getD_eq_getElem?_getD, List.getD_eq_getElem?_getD, List.getElem?_take_of_lt h]

theorem Request.ofTc_decoded (hl : 10 ≤ len) :
    Request.ofTc ⟨tcSecHeaderOf data, data.drop 10, len - 10⟩ = .ofFrame (data.take len.toNat) := by
  have hl' : 10 ≤ len.toNat := UInt16.le_iff_toNat_le.mp hl
  have hsource : (tcSecHeaderOf data).sourceId = join16 (data.getD 3 0) (data.getD 4 0) := by
    simp only [tcSecHeaderOf, readU16Be, List.getD_eq_getElem?_getD, List.getElem?_drop,
      Nat.add_zero, Nat.reduceAdd]
  have hack {flag : UInt8} (hf : 0x0F &&& flag = flag) :
      (tcSecHeaderOf data).ackFlags &&& flag = data.getD 0 0 &&& flag := by
    rw [tcSecHeaderOf, UInt8.and_assoc, hf]
  have hlen : (len - 10).toNat = len.toNat - 10 := UInt16.toNat_sub_of_le _ _ hl
  simp only [ofTc, ofFrame, hack (show 0x0F &&& 8 = 8 by decide),
    hack (show 0x0F &&& 4 = 4 by decide), hack (show 0x0F &&& 1 = 1 by decide), hsource, hlen,
    List.drop_take, getD_take_of_lt (show 0 < len.toNat by omega),
    getD_take_of_lt (show 1 < len.toNat by omega), getD_take_of_lt (show 2 < len.toNat by omega),
    getD_take_of_lt (show 3 < len.toNat by omega), getD_take_of_lt (show 4 < len.toNat by omega)]
  rfl

end Decoding

variable {cb : Callbacks cfg A} {c : Ptr} {tc : TcPacket}

section Downlinked

variable (c)

/-- The packets of `c` that sinks were handed, other than by a sink or a time source. -/
def downlinked (t : History cfg) : List Delivery :=
  t.through (fun f ↦ !f.isOutput) (fun _ ↦ []) fun f ↦ (Delivery.ofCall f).filter (·.ctx = c)

@[simp] theorem downlinked_nil : downlinked c (.nil : History cfg) = [] := rfl

@[simp] theorem downlinked_append (t u : History cfg) :
    downlinked c (t ++ u) = downlinked c t ++ downlinked c u := Trace.through_append ..

@[simp] theorem downlinked_act (a : Act) (t : History cfg) :
    downlinked c (.act a t) = downlinked c t := rfl

theorem downlinked_call {f : Call cfg} (hf : f.isOutput = false) (t : History cfg) :
    downlinked c (.call f t .nil) = downlinked c t := by
  have hnone : Delivery.ofCall f = [] := by
    cases f <;> first | rfl | cases hf
  simp [downlinked, hf, hnone]

variable (cb)

theorem downlinked_callTimeSource (d : Ptr) (w : World cfg A) :
    downlinked d (callTimeSource cb c w).trace = [] := by
  cases hk : (w.ctx c).timeSource with
  | none => rw [callTimeSource_none cb hk, downlinked_nil]
  | some f =>
    rw [callTimeSource_some cb hk]
    rfl

theorem downlinked_callTmSink (data : List UInt8) (w : World cfg A) :
    downlinked c (callTmSink cb c data w).trace =
      (w.ctx c).deliver c data (callTmSink cb c data w).val := by
  cases hk : (w.ctx c).tmSink with
  | none =>
    rw [callTmSink_none cb hk, Context.deliver, hk]
    rfl
  | some f =>
    rw [callTmSink_some cb hk, Context.deliver, hk]
    simp [downlinked, Delivery.ofCall, Call.isOutput]

end Downlinked

/-- An account that overlooks reads of a payload, and sees what a callback other than a sink or a
time source puts out as put out by its caller. -/
structure Overlooks (K : Account (World cfg A) Act (Call cfg) Report) : Prop where
  read : ∀ w i, K.holds w (.act (.read i) .nil) w []
  call : ∀ {w t w' os} {f : Call cfg}, f.isOutput = false → K.holds w t w' os →
    K.holds w (.call f t .nil) w' os

section Overlooks

variable {α β : Type} {K : Account (World cfg A) Act (Call cfg) Report} {R : World cfg A → S → Prop}
  {V : α → β → Prop} (h : Overlooks K)

include h

theorem Overlooks.readPayload {f : UInt8 → Pus cfg A α} {g : Spec S Report β} (tc : TcPacket)
    (i : ℕ) (hf : (f (tc.payload.getD i 0)).Refines K R V g) :
    (readPayload tc i >>= f).Refines K R V g :=
  .silent (fun w _ hw ↦ ⟨hw, h.read w i⟩) fun w x hw ↦ hf w x hw

theorem Overlooks.call_refines {label : World cfg A → α → Call cfg} {p : Pus cfg A α}
    {f : Spec S Report β} (hl : ∀ w a, (label w a).isOutput = false) (hp : p.Refines K R V f) :
    (Prog.call label p).Refines K R V f :=
  .call (fun w _ _ a _ hk ↦ h.call (hl w a) hk) hp

end Overlooks

/-- In the worlds that show a state the context `c` has the dispatch table `t`, and an emission for
it puts out a report, without fail, and does nothing else. -/
structure Emits (K : Account (World cfg A) Act (Call cfg) Report) (R : World cfg A → S → Prop)
    (cb : Callbacks cfg A) (c : Ptr) (t : HandlerTable cfg.maxTcHandlers) : Prop
    extends Overlooks K where
  table : ∀ {w x}, R w x → (w.ctx c).handlerTable = t
  emission : ∀ r : Report,
    (emitPacket cb c r.service r.subtype r.destination r.payload).Refines K R Eq (do
      Spec.put r
      pure .ok)

structure Routes (K : Account (World cfg A) Act (Call cfg) Report) (R : World cfg A → S → Prop)
    (cb : Callbacks cfg A) (c : Ptr) (t : HandlerTable cfg.maxTcHandlers)
    (route : Request → Option (Spec S Report Status)) (tc : TcPacket) : Prop where
  none : t.find tc.secHeader.serviceTypeId tc.secHeader.subtypeId = none →
    route (.ofTc tc) = none
  some : ∀ {i}, t.find tc.secHeader.serviceTypeId tc.secHeader.subtypeId = some i →
    ∃ f, route (.ofTc tc) = some f ∧
      (runHandler cb c tc (t i).userData (t i).handler).Refines K R Eq f

namespace Emits

variable {K : Account (World cfg A) Act (Call cfg) Report} {R : World cfg A → S → Prop}
  {t : HandlerTable cfg.maxTcHandlers} (h : Emits K R cb c t)

include h

theorem emitSuccess (subtype : UInt8) :
    (do
      let _ ← pusService1EmitSuccess cb (some c) (some tc) subtype
      pure () : Pus cfg A Unit).Refines K R Eq
        (Spec.put ((Request.ofTc tc).verification subtype none)) := by
  have hemit := h.emission (verificationReport tc subtype none)
  have hall := hemit.seq fun _ ↦ .ret ()
  rw [bind_assoc] at hall
  simp only [pure_bind, bind_pure_unit] at hall
  rw [emitSuccess_eq]
  exact hall

theorem emitFailure (subtype : UInt8) (code : UInt16) :
    (do
      let _ ← pusService1EmitFailure cb (some c) (some tc) subtype code
      pure () : Pus cfg A Unit).Refines K R Eq
        (Spec.put ((Request.ofTc tc).verification subtype (some code))) := by
  have hemit := h.emission (verificationReport tc subtype (some code))
  have hall := hemit.seq fun _ ↦ .ret ()
  rw [bind_assoc] at hall
  simp only [pure_bind, bind_pure_unit] at hall
  rw [emitFailure_eq]
  exact hall

variable (tc)

theorem reportIf (flag subtype : UInt8) :
    (reportIf cb c tc flag subtype).Refines K R Eq
      ((Request.ofTc tc).successIf (tc.secHeader.ackFlags &&& flag != 0) subtype) :=
  .ite bne_iff_ne.symm (fun _ ↦ h.emitSuccess subtype) fun _ ↦ .ret ()

theorem reportCompletion (st : Status) :
    (reportCompletion cb c tc st).Refines K R Eq ((Request.ofTc tc).conclude st) := by
  refine .ite bne_iff_ne.symm (fun _ ↦ ?_) fun _ ↦ .ret ()
  by_cases hst : st = .ok
  · rw [if_pos hst, if_pos hst]
    exact h.emitSuccess _
  · rw [if_neg hst, if_neg hst]
    exact h.emitFailure _ _

theorem callHandler {i : Fin cfg.maxTcHandlers} {f : Spec S Report Status}
    (hf : (runHandler cb c tc (t i).userData (t i).handler).Refines K R Eq f) :
    (callHandler cb c tc i).Refines K R Eq f := by
  intro w x hw
  rw [EmbeddedPus.callHandler, readCtx_bind_apply, h.table hw]
  exact h.call_refines (fun _ _ ↦ rfl) hf w x hw

variable {tc}

theorem served {route : Request → Option (Spec S Report Status)} (hr : Routes K R cb c t route tc)
    {data : List UInt8} {len : UInt16}
    (hd : pusTcDecode (some data) len (some .fresh) = (.ok, some tc)) :
    (pusTcProcess cb (some c) (some data) len).Refines K R Eq
      ((Request.ofTc tc).served (route (.ofTc tc))) := by
  intro w x hw
  cases hf : t.find tc.secHeader.serviceTypeId tc.secHeader.subtypeId with
  | none =>
    rw [pusTcProcess_unrouted hd (by rw [h.table hw]; exact hf), hr.none hf]
    have hemit : Prog.Refines K R Eq (do
        let _ ← pusService1EmitFailure cb (some c) (some tc) 10 1
        pure () : Pus cfg A Unit) _ := h.emitFailure 10 1
    have hall := hemit.seq fun _ ↦ .ret Status.noHandler
    rw [bind_assoc] at hall
    exact hall w x hw
  | some i =>
    obtain ⟨f, hroute, hrun⟩ := hr.some hf
    rw [pusTcProcess_routed hd (by rw [h.table hw]; exact hf), hroute]
    have hopen : (reportAcceptance cb c tc).Refines K R Eq _ :=
      (h.reportIf tc 0x08 1).seq fun _ ↦ h.reportIf tc 0x04 3
    have hall := hopen.seq fun _ ↦ (h.callHandler tc hrun).seq fun st ↦
      (h.reportCompletion tc st).seq fun _ ↦ .ret st
    rw [bind_assoc] at hall
    exact hall w x hw

theorem tcProcess {route : Request → Option (Spec S Report Status)} {data : List UInt8}
    {len : UInt16} (hlen : len.toNat ≤ data.length)
    (hr : 10 ≤ len → Routes K R cb c t route ⟨tcSecHeaderOf data, data.drop 10, len - 10⟩) :
    (pusTcProcess cb (some c) (some data) len).Refines K R Eq
      (command route (data.take len.toNat)) := by
  have hframe : (data.take len.toNat).length = len.toNat := by
    rw [List.length_take, Nat.min_eq_left hlen]
  rw [command, hframe]
  by_cases hl : len < 10
  · have hlt : len.toNat < 10 := UInt16.lt_iff_toNat_lt.mp hl
    have hd : pusTcDecode (some data) len (some .fresh) = _ := pusTcDecode_short .fresh hl
    rw [if_pos hlt, pusTcProcess_undecoded (by rw [hd]; exact fun h ↦ nomatch h), hd]
    exact .ret _
  have hge : 10 ≤ len := UInt16.not_lt.mp hl
  have hnlt : ¬ len.toNat < 10 := fun hn ↦ hl (UInt16.lt_iff_toNat_lt.mpr hn)
  have hpos : 0 < len.toNat := Nat.lt_of_lt_of_le (by decide) (UInt16.le_iff_toNat_le.mp hge)
  rw [if_neg hnlt, getD_take_of_lt hpos]
  by_cases hv : data.getD 0 0 >>> 4 = pusVersion
  · have hd := pusTcDecode_accepted .fresh hl hv
    rw [if_neg (not_not_intro hv), ← Request.ofTc_decoded hge]
    exact h.served (hr hge) hd
  · have hd := pusTcDecode_badVersion .fresh hl hv
    rw [if_pos hv, pusTcProcess_undecoded (by rw [hd]; exact fun h ↦ nomatch h), hd]
    exact .ret _

end Emits

end EmbeddedPus
