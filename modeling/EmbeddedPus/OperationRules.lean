import EmbeddedPus.Operations

namespace EmbeddedPus

open CallTrace Buffer ByteOrder

variable {cfg : Config} {A α : Type} {cb : Callbacks cfg A}

/-- The context without its sink. -/
def Context.withoutSink (k : Context cfg) : Context cfg :=
  { k with tmSink := none, tmSinkUserData := 0 }

/-- The calls an emission makes, as against those of handlers, providers, getters and setters. -/
def Call.isOutput : Call cfg → Bool
  | .tmSink .. | .timeSource .. => true
  | _ => false

/-- What it takes for every call of the library to have a property: programs have it with their
parts, reading anything but a sink has it, and emitting a packet has it as a whole. `buildOnly`
tells whether building a packet that is not delivered is to have it as well. -/
structure OpRules (cb : Callbacks cfg A) (buildOnly : Prop)
    (P : ∀ {α : Type}, Pus cfg A α → Prop) : Prop where
  pure : ∀ {α : Type} (a : α), P (Pure.pure a : Pus cfg A α)
  bind : ∀ {α β : Type} {m : Pus cfg A α} {f : α → Pus cfg A β}, P m → (∀ a, P (f a)) → P (m >>= f)
  readCtx : ∀ (d : Ptr) {α : Type} {f : Context cfg → Pus cfg A α}, (∀ k, f k.withoutSink = f k) →
    (∀ k, P (f k)) → P (readCtx d >>= f)
  localArray : ∀ (n : ℕ) {α : Type} {f : List UInt8 → Pus cfg A α},
    (∀ o, o.length = n → P (f o)) → P (localArray n >>= f)
  readS3 : ∀ s, P (readS3 s : Pus cfg A _)
  readS20 : ∀ s, P (readS20 s : Pus cfg A _)
  readPayload : ∀ tc i, P (readPayload tc i : Pus cfg A _)
  call : ∀ {α : Type} {label : α → Call cfg} {m : Pus cfg A α}, (∀ a, (label a).isOutput = false) →
    P m → P (Prog.call (fun _ ↦ label) m)
  emission : ∀ (d : Ptr) (service subtype : UInt8) (dest : UInt16) (payload : List UInt8)
    {α : Type} {f : List UInt8 → Status → Pus cfg A α}, (∀ bytes st, P (f bytes st)) →
      P (buildPacket cb d service subtype dest payload >>= fun bytes ↦
        callTmSink cb d bytes >>= f bytes)
  buildPacket : buildOnly → ∀ (d : Ptr) (service subtype : UInt8) (dest : UInt16)
    (payload : List UInt8), P (buildPacket cb d service subtype dest payload)
  handler : ∀ f d tc ud, P (cb.handler f d tc ud)
  provider : ∀ f sid capacity ud, P (cb.provider f sid capacity ud)
  getter : ∀ f pid capacity ud, P (cb.getter f pid capacity ud)
  setter : ∀ f pid buf len ud, P (cb.setter f pid buf len ud)

/-- The capacity the emitters state for a local array they build a packet in. -/
theorem localCapacity_le (o : List UInt8) : (UInt16.ofNat o.length).toNat ≤ o.length := by
  rw [UInt16.toNat_ofNat']
  exact Nat.mod_le _ _

namespace OpRules

variable {buildOnly : Prop} {P : ∀ {α : Type}, Pus cfg A α → Prop}

theorem ite (_ : OpRules cb buildOnly P) {p : Prop} [Decidable p] {m n : Pus cfg A α} (hm : P m)
    (hn : P n) : P (if p then m else n) := by
  split
  · exact hm
  · exact hn

variable (h : OpRules cb buildOnly P)

include h

theorem readIds (tc : TcPacket) (n i : ℕ) : P (EmbeddedPus.readIds tc n i : Pus cfg A _) := by
  induction n generalizing i with
  | zero => exact h.pure _
  | succ n ih =>
    exact h.bind (h.readPayload _ _) fun hi ↦ h.bind (h.readPayload _ _) fun lo ↦
      h.bind (ih _) fun ids ↦ h.pure _

theorem emitPacket (d : Ptr) (service subtype : UInt8) (dest : UInt16) (payload : List UInt8) :
    P (emitPacket cb d service subtype dest payload) := by
  have hall := h.emission d service subtype dest payload fun _ st ↦ h.pure st
  simpa only [bind_pure, EmbeddedPus.emitPacket] using hall

theorem tmBuild (ctx : Option Ptr) (service subtype : UInt8) (dest : UInt16)
    (payload : Option (List UInt8)) (payloadLen : UInt16) {out : Option (List UInt8)}
    {capacity : UInt16} (outLen : Option UInt16)
    (ho : ∀ o, out = some o → capacity.toNat ≤ o.length) :
    P (pusTmBuild cb ctx service subtype dest payload payloadLen out capacity outLen) := by
  rcases ctx with - | d
  · exact h.pure _
  rcases out with - | o
  · exact h.pure _
  rcases outLen with - | l
  · exact h.pure _
  by_cases hr : cfg.maxTmPayloadLen < payloadLen.toNat ∨ capacity.toNat < 12 + payloadLen.toNat
  · rw [pusTmBuild_rejects cb l hr]
    exact h.pure _
  · rw [not_or, Nat.not_lt, Nat.not_lt] at hr
    rw [pusTmBuild_fits cb l hr.1 hr.2 (ho o rfl)]
    exact h.emission _ _ _ _ _ fun _ _ ↦ h.pure _

theorem emitSuccess (ctx : Option Ptr) (tc : Option TcPacket) (subtype : UInt8) :
    P (pusService1EmitSuccess cb ctx tc subtype) := by
  rcases ctx with - | d
  · exact h.pure _
  rcases tc with - | tc
  · exact h.pure _
  rw [emitSuccess_eq]
  exact h.emitPacket _ _ _ _ _

theorem emitFailure (ctx : Option Ptr) (tc : Option TcPacket) (subtype : UInt8) (code : UInt16) :
    P (pusService1EmitFailure cb ctx tc subtype code) := by
  rcases ctx with - | d
  · exact h.pure _
  rcases tc with - | tc
  · exact h.pure _
  rw [emitFailure_eq]
  exact h.emitPacket _ _ _ _ _

theorem buildReport (hb : buildOnly) (ctx : Option Ptr) (tc : Option TcPacket) (subtype : UInt8)
    (code : UInt16) (inc : Bool) {out : Option (List UInt8)} {capacity : UInt16}
    (outLen : Option UInt16) (ho : ∀ o, out = some o → capacity.toNat ≤ o.length) :
    P (buildReport cb ctx tc subtype code inc out capacity outLen) := by
  rcases ctx with - | d
  · exact h.pure _
  rcases tc with - | tc
  · exact h.pure _
  rcases out with - | o
  · exact h.pure _
  rcases outLen with - | l
  · exact h.pure _
  -- a buffer that is too small is turned down before the clock is read
  by_cases hc : 12 + (reportPayload tc code inc).length ≤ capacity.toNat
  · rw [buildReport_fits l hc (ho o rfl)]
    exact h.bind (h.buildPacket hb _ _ _ _ _) fun _ ↦ h.pure _
  · rw [buildReport_rejects l (Nat.lt_of_not_le hc)]
    exact h.pure _

theorem buildAndEmit (ctx : Option Ptr) (subtype : UInt8) (dest : UInt16)
    (payload : Option (List UInt8)) (payloadLen : UInt16) :
    P (buildAndEmit cb ctx subtype dest payload payloadLen) := by
  refine h.localArray _ fun o ho ↦ h.bind (h.tmBuild _ _ _ _ _ _ _ ?_) fun _ ↦ h.pure _
  rintro o' ⟨⟩
  exact ho.ge

theorem emitAliveReport (ctx : Option Ptr) (dest : UInt16) :
    P (pusService17EmitAliveReport cb ctx dest) := by
  rcases ctx with - | d
  · exact h.pure _
  exact h.buildAndEmit _ _ _ _ _

theorem emitConnectionReport (ctx : Option Ptr) (apid dest : UInt16) :
    P (pusService17EmitConnectionReport cb ctx apid dest) := by
  rcases ctx with - | d
  · exact h.pure _
  exact h.buildAndEmit _ _ _ _ _

/-- The last step of the emitters of reports of their own: a packet to the default destination,
built in a local array. -/
theorem emitToDefault (d : Ptr) (service subtype : UInt8) (payload out : List UInt8)
    (payloadLen : UInt16) :
    P (do
      let k ← EmbeddedPus.readCtx d
      let r ← pusTmBuild cb (some d) service subtype k.defaultDestinationId (some payload)
        payloadLen (some out) (UInt16.ofNat out.length) (some 0)
      Pure.pure r.st) := by
  refine h.readCtx d (fun _ ↦ rfl) fun k ↦ h.bind (h.tmBuild _ _ _ _ _ _ _ ?_) fun _ ↦ h.pure _
  rintro o ⟨⟩
  exact localCapacity_le out

theorem service5Emit (ctx : Option Ptr) (subtype : UInt8) (eventId : UInt16)
    (auxData : Option (List UInt8)) (auxLen : UInt16) :
    P (pusService5Emit cb ctx subtype eventId auxData auxLen) := by
  rcases ctx with - | d
  · exact h.pure _
  refine h.ite (h.pure _) (h.ite (h.pure _) ?_)
  exact h.localArray _ fun payload _ ↦ h.localArray _ fun out _ ↦ h.emitToDefault d _ _ _ out _

theorem callProvider (e : HkEntry) (sid capacity : UInt16) : P (callProvider cb e sid capacity) :=
  h.call (fun _ ↦ rfl) (h.provider _ _ _ _)

theorem callGetter (e : ParamEntry) (pid : UInt16) (off : ℕ) (capacity : UInt16) :
    P (callGetter cb e pid off capacity) :=
  h.call (fun _ ↦ rfl) (h.getter _ _ _ _)

theorem callSetter (f ud : Ptr) (pid : UInt16) (tc : TcPacket) (off : ℕ) (len : UInt16) :
    P (callSetter cb f ud pid tc off len) :=
  h.call (fun _ ↦ rfl) (h.setter _ _ _ _ _)

theorem emitReport (ctx s3 : Option Ptr) (sid : UInt16) (kind : UInt8) :
    P (emitReport cb ctx s3 sid kind) := by
  rcases ctx with - | d
  · exact h.pure _
  rcases s3 with - | s
  · exact h.pure _
  refine h.bind (h.readS3 s) fun t ↦ ?_
  cases findEntry t sid kind with
  | none => exact h.pure _
  | some i =>
    exact h.localArray _ fun payload _ ↦ h.localArray _ fun out _ ↦
      h.bind (h.callProvider _ _ _) fun r ↦ h.ite (h.pure _) (h.ite (h.pure _)
        (h.emitToDefault d _ _ _ out _))

theorem emitReportLoop (s : Ptr) (ids : List UInt16) (payload : List UInt8) (off : UInt16) :
    P (emitReportLoop cb s ids payload off) := by
  induction ids generalizing payload off with
  | nil => exact h.pure _
  | cons pid ids ih =>
    refine h.bind (h.readS20 s) fun t ↦ ?_
    cases findParam t pid with
    | none => exact h.pure _
    | some i =>
      exact h.ite (h.pure _) (h.bind (h.callGetter _ _ _ _) fun r ↦ h.ite (h.pure _) (ih _ _))

theorem service20EmitReport (ctx s20 : Option Ptr) (paramIds : Option (List UInt16))
    (count : UInt8) : P (pusService20EmitReport cb ctx s20 paramIds count) := by
  rcases ctx with - | d
  · exact h.pure _
  rcases s20 with - | s
  · exact h.pure _
  rcases paramIds with - | ids
  · exact h.pure _
  exact h.localArray _ fun payload _ ↦ h.localArray _ fun out _ ↦
    h.bind (h.emitReportLoop s _ _ _) fun r ↦ h.ite (h.pure _) (h.emitToDefault d _ _ _ out _)

theorem setValuesLoop (s : Ptr) (tc : TcPacket) (n : ℕ) (off : UInt16) :
    P (setValuesLoop cb s tc n off) := by
  induction n generalizing off with
  | zero => exact h.pure _
  | succ n ih =>
    refine h.ite (h.pure _) (h.bind (h.readPayload _ _) fun hi ↦
      h.bind (h.readPayload _ _) fun lo ↦ h.bind (h.readS20 s) fun t ↦ ?_)
    cases findParam t (join16 hi lo) with
    | none => exact h.pure _
    | some i =>
      refine h.ite (h.pure _) ?_
      cases (t i).setter with
      | none => exact h.pure _
      | some f =>
        exact h.bind (h.callSetter _ _ _ _ _ _) fun st ↦ h.ite (h.pure _) (ih _)

theorem runHandler (d : Ptr) (tc : TcPacket) (ud : Ptr) (f : TcHandler) :
    P (runHandler cb d tc ud f) := by
  cases f with
  | handleTc17_1 => exact h.emitAliveReport (some d) tc.secHeader.sourceId
  | handleTc17_3 =>
    exact h.ite (h.pure _) (h.bind (h.readPayload _ _) fun hi ↦
      h.bind (h.readPayload _ _) fun lo ↦ h.emitConnectionReport _ _ _)
  | handleTc20_1 =>
    exact h.ite (h.pure _) (h.bind (h.readPayload _ _) fun n ↦ h.ite (h.pure _) (h.ite (h.pure _)
      (h.bind (h.readIds _ _ _) fun ids ↦ h.service20EmitReport _ _ _ _)))
  | handleTc20_3 =>
    exact h.ite (h.pure _) (h.bind (h.readPayload _ _) fun n ↦
      h.bind (h.setValuesLoop _ _ _ _) fun r ↦ h.pure _)
  | user f => exact h.handler _ _ _ _

theorem callHandler (d : Ptr) (tc : TcPacket) (i : Fin cfg.maxTcHandlers) :
    P (callHandler cb d tc i) :=
  h.readCtx d (fun _ ↦ rfl) fun _ ↦ h.call (fun _ ↦ rfl) (h.runHandler _ _ _ _)

theorem handlerInvoke (ctx : Option Ptr) (service subtype : UInt8) (tc : Option TcPacket) :
    P (pusHandlerInvoke cb ctx service subtype tc) := by
  rcases ctx with - | d
  · exact h.pure _
  rcases tc with - | tc
  · exact h.pure _
  refine h.readCtx d (fun _ ↦ rfl) fun k ↦ ?_
  cases pusHandlerFind (some k) service subtype with
  | none => exact h.pure _
  | some i => exact h.callHandler _ _ _

theorem reportIf (d : Ptr) (tc : TcPacket) (flag subtype : UInt8) :
    P (reportIf cb d tc flag subtype) :=
  h.ite (h.bind (h.emitSuccess _ _ _) fun _ ↦ h.pure _) (h.pure _)

theorem reportCompletion (d : Ptr) (tc : TcPacket) (st : Status) :
    P (reportCompletion cb d tc st) :=
  h.ite (h.ite (h.bind (h.emitSuccess _ _ _) fun _ ↦ h.pure _)
    (h.bind (h.emitFailure _ _ _ _) fun _ ↦ h.pure _)) (h.pure _)

theorem tcProcess (ctx : Option Ptr) (data : Option (List UInt8)) (len : UInt16) :
    P (pusTcProcess cb ctx data len) := by
  rcases ctx with - | d
  · exact h.pure _
  rcases data with - | data
  · exact h.pure _
  rw [pusTcProcess]
  split
  · rename_i tc _
    refine h.readCtx d (fun _ ↦ rfl) fun k ↦ ?_
    cases pusHandlerFind (some k) tc.secHeader.serviceTypeId tc.secHeader.subtypeId with
    | none => exact h.bind (h.emitFailure _ _ _ _) fun _ ↦ h.pure _
    | some i =>
      exact h.bind (h.bind (h.reportIf _ _ _ _) fun _ ↦ h.reportIf _ _ _ _)
        fun _ ↦ h.bind (h.callHandler _ _ _) fun st ↦
          h.bind (h.reportCompletion _ _ _) fun _ ↦ h.pure _
  · exact h.pure _

/-- Every call of the library has the property; one that only builds, where that is asked for. -/
theorem exec (o : Op α) (ho : o.buildsOnly → buildOnly) : P (o.exec cb) := by
  cases o with
  | tcProcess ctx data len => exact h.tcProcess _ _ _
  | handlerInvoke ctx service subtype tc => exact h.handlerInvoke _ _ _ _
  | tmBuild ctx service subtype dest payload payloadLen b outLen =>
    exact h.tmBuild _ _ _ _ _ _ _ b.fits
  | service1BuildSuccess ctx tc subtype b outLen =>
    exact h.buildReport (ho rfl) _ _ _ _ _ _ b.fits
  | service1BuildFailure ctx tc subtype code b outLen =>
    exact h.buildReport (ho rfl) _ _ _ _ _ _ b.fits
  | service1EmitSuccess ctx tc subtype => exact h.emitSuccess _ _ _
  | service1EmitFailure ctx tc subtype code => exact h.emitFailure _ _ _ _
  | service3EmitHk ctx s3 sid => exact h.emitReport _ _ _ _
  | service3EmitDiag ctx s3 sid => exact h.emitReport _ _ _ _
  | service5Emit ctx subtype eventId auxData auxLen => exact h.service5Emit _ _ _ _ _
  | service17EmitAliveReport ctx dest => exact h.emitAliveReport _ _
  | service17EmitConnectionReport ctx apid dest => exact h.emitConnectionReport _ _ _
  | service20EmitReport ctx s20 ids count => exact h.service20EmitReport _ _ _ _

end OpRules

end EmbeddedPus
