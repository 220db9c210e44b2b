import EmbeddedPus.Registration
import EmbeddedPus.OperationRules
import EmbeddedPus.ReportBuilders
import EmbeddedPus.Library.Safety

namespace EmbeddedPus

open CallTrace Buffer ByteOrder SlotTable

variable {cfg : Config} {A α β : Type} {L : ℕ}

variable (cfg) in
/-- A TM packet as the library makes them. -/
structure TmWellFormed (bytes : List UInt8) : Prop where
  header : 12 ≤ bytes.length
  payload : bytes.length ≤ 12 + max 6 cfg.maxTmPayloadLen
  version : (tmSecHeaderOf bytes).version = pusVersion
  timeRefStatus : (tmSecHeaderOf bytes).timeRefStatus = 0
  spare : (tmSecHeaderOf bytes).spare = 0

/-- The payload is there, and so short that no value of `L` bytes in it ends where sixteen bits
wrap. -/
structure TcPacket.Sound (L : ℕ) (tc : TcPacket) : Prop where
  payload : tc.payloadLen.toNat ≤ tc.payload.length
  values : tc.payloadLen.toNat + 2 + L < 65536

/-- Every table is a picture of a finite map, and no value registered is longer than `L`. -/
structure Sane (L : ℕ) (w : World cfg A) : Prop where
  handlers : ∀ c, ∃ m, Refines (w.ctx c).handlerTable.slots m
  structures : ∀ s, ∃ m, Refines (hkView s w) m
  parameters : ∀ s, ∃ m, Refines (paramView s w) m ∧
    ∀ pid d, m.lookup pid = some d → d.valueLen.toNat ≤ L

variable (cfg) in
def Act.Allowed : Act → Prop
  | .packet _ bytes => TmWellFormed cfg bytes
  | .read _ => True

/-- A handler is handed a sound TC and sinks get well-formed packets; what a provider or a getter
may write is inside the array of its caller, and a setter gets as many bytes as it is told. -/
def Call.Allowed (L : ℕ) : Call cfg → Prop
  | .handler _ _ _ tc table _ => tc.Sound L ∧ ∃ m, Refines table.slots m
  | .tmSink _ _ _ data _ => TmWellFormed cfg data
  | .timeSource .. => True
  | .provider _ _ _ capacity _ _ _ => capacity.toNat ≤ cfg.maxTmPayloadLen
  | .getter _ _ _ off capacity _ _ => off + capacity.toNat ≤ cfg.maxTmPayloadLen
  | .setter _ _ _ _ len buf _ => buf.length = len.toNat

def policy (L : ℕ) : Policy (World cfg A) Act (Call cfg) where
  inv := Sane L
  act := Act.Allowed cfg
  call := Call.Allowed L

/-- A computation that keeps the tables sane and does nothing but what is allowed. -/
abbrev Kept (L : ℕ) (m : Pus cfg A α) : Prop := m.Safe (policy L) fun _ ↦ True

structure SafeCallbacks (L : ℕ) (cb : Callbacks cfg A) : Prop where
  handler : ∀ f c tc ud, tc.Sound L → Kept L (cb.handler f c tc ud)
  tmSink : ∀ f ud data, Kept L (cb.tmSink f ud data)
  timeSource : ∀ f ud, Kept L (cb.timeSource f ud)
  provider : ∀ f sid capacity ud, Kept L (cb.provider f sid capacity ud)
  getter : ∀ f pid capacity ud, Kept L (cb.getter f pid capacity ud)
  setter : ∀ f pid buf len ud, Kept L (cb.setter f pid buf len ud)

section Parts

theorem kept_pure (a : α) : Kept L (pure a : Pus cfg A α) := .pure trivial

theorem readCtx_safe (c : Ptr) : (readCtx c : Pus cfg A _).Safe (policy L) fun k ↦
    ∃ m, Refines k.handlerTable.slots m :=
  .bind .get fun _ hw ↦ .pure (hw.handlers c)

theorem readS3_safe (s : Ptr) : Kept L (readS3 s : Pus cfg A _) :=
  .bind .get fun _ _ ↦ kept_pure _

theorem readS20_safe (s : Ptr) : (readS20 s : Pus cfg A _).Safe (policy L) fun t ↦
    ∀ pid i, findParam t pid = some i → (t i).valueLen.toNat ≤ L := by
  refine .bind .get fun w hw ↦ .pure fun pid i hf ↦ ?_
  obtain ⟨m, href, hlen⟩ := hw.parameters s
  have hlookup : m.lookup pid = some ⟨(w.s20 s i).valueLen, (w.s20 s i).getter,
      (w.s20 s i).setter, (w.s20 s i).userData⟩ := by
    rw [← href.lookup_eq, paramView, (paramMatches_tests (w.s20 s) pid).lookup]
    exact congrArg (Option.map _) hf
  exact hlen pid _ hlookup

theorem readPayload_safe (tc : TcPacket) (i : ℕ) : Kept L (readPayload tc i : Pus cfg A _) :=
  .seq (.act trivial) fun _ ↦ kept_pure _

theorem localArray_safe {n : ℕ} {Q : β → Prop} {f : List UInt8 → Pus cfg A β}
    (hf : ∀ o, o.length = n → (f o).Safe (policy L) Q) :
    (localArray n >>= f).Safe (policy L) Q := by
  intro w hw
  rw [localArray_bind_apply]
  exact hf _ (by rw [List.length_map, List.length_range]) w hw

theorem readIds_safe (tc : TcPacket) (n i : ℕ) : Kept L (readIds tc n i : Pus cfg A _) := by
  induction n generalizing i with
  | zero => exact kept_pure _
  | succ n ih =>
    exact .seq (readPayload_safe _ _) fun _ ↦ .seq (readPayload_safe _ _) fun _ ↦
      .seq (ih _) fun _ ↦ kept_pure _

end Parts

theorem tmWellFormed (service subtype : UInt8) (counter dest : UInt16) (time : UInt32)
    {payload : List UInt8} (hp : payload.length ≤ max 6 cfg.maxTmPayloadLen) :
    TmWellFormed cfg
      (tmSecHeaderBytes (tmHeader service subtype counter dest time) ++ payload) := by
  have hlen : (tmSecHeaderBytes (tmHeader service subtype counter dest time) ++ payload).length =
      12 + payload.length := by
    rw [List.length_append, length_tmSecHeaderBytes]
  have hv : (tmHeader service subtype counter dest time).version < 16 :=
    show pusVersion < 16 by decide
  have ht : (tmHeader service subtype counter dest time).timeRefStatus < 16 :=
    show (0 : UInt8) < 16 by decide
  have hof := tmSecHeaderOf_bytes hv ht payload
  exact ⟨by omega, by omega, by rw [hof]; rfl, by rw [hof]; rfl, by rw [hof]; rfl⟩

theorem Sane.of_tables {w w' : World cfg A} (h : Sane L w)
    (hh : ∀ c, (w'.ctx c).handlerTable = (w.ctx c).handlerTable) (hs : w'.s3 = w.s3)
    (hp : w'.s20 = w.s20) : Sane L w' := by
  refine ⟨fun c ↦ ?_, fun s ↦ ?_, fun s ↦ ?_⟩
  · rw [hh]
    exact h.handlers c
  · rw [hkView, hs]
    exact h.structures s
  · rw [paramView, hp]
    exact h.parameters s

theorem Sane.setCtx {w : World cfg A} (h : Sane L w) (c : Ptr) {k : Context cfg}
    (hk : ∃ m, Refines k.handlerTable.slots m) : Sane L (w.setCtx c k) := by
  refine ⟨fun d ↦ ?_, h.structures, h.parameters⟩
  by_cases hd : d = c
  · subst hd
    rw [World.setCtx_ctx]
    exact hk
  · rw [World.setCtx_ctx_of_ne _ _ _ hd]
    exact h.handlers d

namespace SafeCallbacks

variable {cb : Callbacks cfg A} (h : SafeCallbacks L cb)

include h

theorem callTimeSource (c : Ptr) : Kept L (callTimeSource cb c) := by
  refine .seq (readCtx_safe c) fun k ↦ ?_
  cases k.timeSource with
  | none => exact kept_pure _
  | some f => exact .call (fun _ _ _ _ ↦ trivial) (h.timeSource _ _)

theorem callTmSink (c : Ptr) {data : List UInt8} (hd : TmWellFormed cfg data) :
    Kept L (callTmSink cb c data) := by
  refine .seq (readCtx_safe c) fun k ↦ ?_
  cases k.tmSink with
  | none => exact kept_pure _
  | some f => exact .call (fun _ _ _ _ ↦ hd) (h.tmSink _ _ _)

theorem buildPacket (c : Ptr) (service subtype : UInt8) (dest : UInt16) {payload : List UInt8}
    (hp : payload.length ≤ max 6 cfg.maxTmPayloadLen) :
    (buildPacket cb c service subtype dest payload).Safe (policy L) (TmWellFormed cfg) := by
  intro w hw
  obtain ⟨-, hstate, htrace⟩ := h.callTimeSource c w hw
  have hwf := tmWellFormed service subtype (w.ctx c).tmCounter dest
    (EmbeddedPus.callTimeSource cb c w).val hp
  rw [buildPacket_apply]
  exact ⟨hwf, hstate.setCtx c (hstate.handlers c), Trace.all_append.mpr ⟨htrace, hwf, trivial⟩⟩

/-- A packet is built and handed to the sink, and then the computation goes on. -/
theorem emission (c : Ptr) (service subtype : UInt8) (dest : UInt16) {payload : List UInt8}
    (hp : payload.length ≤ max 6 cfg.maxTmPayloadLen) {Q : α → Prop}
    {f : List UInt8 → Status → Pus cfg A α} (hf : ∀ bytes st, (f bytes st).Safe (policy L) Q) :
    (EmbeddedPus.buildPacket cb c service subtype dest payload >>= fun bytes ↦
      EmbeddedPus.callTmSink cb c bytes >>= f bytes).Safe (policy L) Q :=
  .bind (h.buildPacket c service subtype dest hp) fun _ hwf ↦
    .seq (h.callTmSink c hwf) fun _ ↦ hf _ _

theorem emitPacket (c : Ptr) (service subtype : UInt8) (dest : UInt16) {payload : List UInt8}
    (hp : payload.length ≤ max 6 cfg.maxTmPayloadLen) :
    Kept L (emitPacket cb c service subtype dest payload) := by
  have hall := h.emission c service subtype dest hp fun _ st ↦ kept_pure st
  simpa only [bind_pure, EmbeddedPus.emitPacket] using hall

theorem tmBuild (ctx : Option Ptr) (service subtype : UInt8) (dest : UInt16)
    (payload : Option (List UInt8)) (payloadLen : UInt16) {out : Option (List UInt8)}
    {capacity : UInt16} (outLen : Option UInt16)
    (ho : ∀ o, out = some o → capacity.toNat ≤ o.length) :
    Kept L (pusTmBuild cb ctx service subtype dest payload payloadLen out capacity outLen) := by
  cases ctx with
  | none => exact kept_pure _
  | some c =>
    cases out with
    | none => exact kept_pure _
    | some o =>
      cases outLen with
      | none => exact kept_pure _
      | some l =>
        by_cases hr : cfg.maxTmPayloadLen < payloadLen.toNat ∨
            capacity.toNat < 12 + payloadLen.toNat
        · rw [pusTmBuild_rejects cb l hr]
          exact kept_pure _
        · rw [not_or, Nat.not_lt, Nat.not_lt] at hr
          rw [pusTmBuild_fits cb l hr.1 hr.2 (ho o rfl)]
          apply h.emission
          · rw [length_payloadBytes]
            exact hr.1.trans (Nat.le_max_right _ _)
          · exact fun _ _ ↦ kept_pure _

theorem emitSuccess (ctx : Option Ptr) (tc : Option TcPacket) (subtype : UInt8) :
    Kept L (pusService1EmitSuccess cb ctx tc subtype) := by
  cases ctx with
  | none => exact kept_pure _
  | some c =>
    cases tc with
    | none => exact kept_pure _
    | some tc =>
      rw [emitSuccess_eq]
      exact h.emitPacket _ _ _ _ (le_max_of_le_left (length_reportPayload_le _ _ _))

theorem emitFailure (ctx : Option Ptr) (tc : Option TcPacket) (subtype : UInt8) (code : UInt16) :
    Kept L (pusService1EmitFailure cb ctx tc subtype code) := by
  cases ctx with
  | none => exact kept_pure _
  | some c =>
    cases tc with
    | none => exact kept_pure _
    | some tc =>
      rw [emitFailure_eq]
      exact h.emitPacket _ _ _ _ (le_max_of_le_left (length_reportPayload_le _ _ _))

theorem buildReport (ctx : Option Ptr) (tc : Option TcPacket) (subtype : UInt8) (code : UInt16)
    (inc : Bool) {out : Option (List UInt8)} {capacity : UInt16} (outLen : Option UInt16)
    (ho : ∀ o, out = some o → capacity.toNat ≤ o.length) :
    Kept L (buildReport cb ctx tc subtype code inc out capacity outLen) := by
  rcases ctx with - | c
  · exact kept_pure _
  rcases tc with - | tc
  · exact kept_pure _
  rcases out with - | o
  · exact kept_pure _
  rcases outLen with - | l
  · exact kept_pure _
  by_cases hc : 12 + (reportPayload tc code inc).length ≤ capacity.toNat
  · rw [buildReport_fits l hc (ho o rfl)]
    exact .seq (h.buildPacket _ _ _ _ (le_max_of_le_left (length_reportPayload_le _ _ _)))
      fun _ ↦ kept_pure _
  · rw [buildReport_rejects l (Nat.lt_of_not_le hc)]
    exact kept_pure _

theorem buildAndEmit (ctx : Option Ptr) (subtype : UInt8) (dest : UInt16)
    (payload : Option (List UInt8)) (payloadLen : UInt16) :
    Kept L (buildAndEmit cb ctx subtype dest payload payloadLen) := by
  refine localArray_safe fun o ho ↦ .seq (h.tmBuild _ _ _ _ _ _ _ ?_) fun _ ↦ kept_pure _
  rintro o' ⟨⟩
  exact ho.ge

theorem emitAliveReport (ctx : Option Ptr) (dest : UInt16) :
    Kept L (pusService17EmitAliveReport cb ctx dest) := by
  cases ctx with
  | none => exact kept_pure _
  | some c => exact h.buildAndEmit _ _ _ _ _

theorem emitConnectionReport (ctx : Option Ptr) (apid dest : UInt16) :
    Kept L (pusService17EmitConnectionReport cb ctx apid dest) := by
  cases ctx with
  | none => exact kept_pure _
  | some c => exact h.buildAndEmit _ _ _ _ _

theorem emitToDefault (c : Ptr) (service subtype : UInt8) (payload out : List UInt8)
    (payloadLen : UInt16) :
    Kept L (do
      let k ← readCtx c
      let r ← pusTmBuild cb (some c) service subtype k.defaultDestinationId (some payload)
        payloadLen (some out) (UInt16.ofNat out.length) (some 0)
      pure r.st) := by
  refine .seq (readCtx_safe c) fun k ↦ .seq (h.tmBuild _ _ _ _ _ _ _ ?_) fun _ ↦ kept_pure _
  rintro o ⟨⟩
  exact localCapacity_le out

theorem service5Emit (ctx : Option Ptr) (subtype : UInt8) (eventId : UInt16)
    (auxData : Option (List UInt8)) (auxLen : UInt16) :
    Kept L (pusService5Emit cb ctx subtype eventId auxData auxLen) := by
  cases ctx with
  | none => exact kept_pure _
  | some c =>
    refine .ite (fun _ ↦ kept_pure _) fun _ ↦ .ite (fun _ ↦ kept_pure _) fun _ ↦ ?_
    exact localArray_safe fun payload _ ↦ localArray_safe fun out _ ↦
      h.emitToDefault c _ _ _ out _

theorem emitReport (ctx s3 : Option Ptr) (sid : UInt16) (kind : UInt8) :
    Kept L (emitReport cb ctx s3 sid kind) := by
  cases ctx with
  | none => exact kept_pure _
  | some c =>
    cases s3 with
    | none => exact kept_pure _
    | some s =>
      refine .seq (readS3_safe s) fun t ↦ ?_
      cases findEntry t sid kind with
      | none => exact kept_pure _
      | some i =>
        refine localArray_safe fun payload hpayload ↦ localArray_safe fun out _ ↦ .seq
          (Q := fun _ ↦ True) (.call (fun w r _ _ ↦ ?_) (h.provider _ _ _ _)) fun r ↦
            .ite (fun _ ↦ kept_pure _) fun _ ↦ .ite (fun _ ↦ kept_pure _) fun _ ↦
              h.emitToDefault c _ _ _ out _
        -- the provider is offered what lies behind the SID
        have hroom : (writeAt payload 0 (split16 sid)).length - sidLen.toNat =
            cfg.maxTmPayloadLen := by
          rw [length_writeAt, hpayload]
          exact Nat.add_sub_cancel_left _ _
        show (UInt16.ofNat _).toNat ≤ _
        rw [hroom, UInt16.toNat_ofNat']
        exact Nat.mod_le _ _

/-- Each getter of a report may write up to the end of its value, which is in the array. -/
theorem emitReportLoop (hL : cfg.maxTmPayloadLen + 2 + L < 65536) (s : Ptr) (ids : List UInt16)
    (payload : List UInt8) {off : UInt16} (hoff : off.toNat ≤ cfg.maxTmPayloadLen) :
    Kept L (emitReportLoop cb s ids payload off) := by
  induction ids generalizing payload off with
  | nil => exact kept_pure _
  | cons pid ids ih =>
    refine .bind (readS20_safe s) fun t ht ↦ ?_
    cases hf : findParam t pid with
    | none => exact kept_pure _
    | some i =>
      have hlen := ht pid i hf
      refine .ite (fun _ ↦ kept_pure _) fun hroom ↦ ?_
      have h2 : (off + 2).toNat = off.toNat + 2 := toNat_add_two (by omega)
      have hend : (off + 2 + (t i).valueLen).toNat = off.toNat + 2 + (t i).valueLen.toNat :=
        end_toNat (by omega)
      have hmax : (UInt16.ofNat cfg.maxTmPayloadLen).toNat = cfg.maxTmPayloadLen := by
        rw [UInt16.toNat_ofNat']
        exact Nat.mod_eq_of_lt (by omega)
      have hle : off.toNat + 2 + (t i).valueLen.toNat ≤ cfg.maxTmPayloadLen := by
        rw [← hend, ← hmax]
        exact UInt16.le_iff_toNat_le.mp (UInt16.not_lt.mp hroom)
      refine .seq (Q := fun _ ↦ True) (.call (fun _ _ _ _ ↦ ?_) (h.getter _ _ _ _)) fun r ↦
        .ite (fun _ ↦ kept_pure _) fun _ ↦ ih _ (hend.trans_le hle)
      show (off + 2).toNat + _ ≤ _
      rw [h2]
      exact hle

theorem service20EmitReport (hL : cfg.maxTmPayloadLen + 2 + L < 65536) (ctx s20 : Option Ptr)
    (paramIds : Option (List UInt16)) (count : UInt8) :
    Kept L (pusService20EmitReport cb ctx s20 paramIds count) := by
  rcases ctx with - | c
  · exact kept_pure _
  rcases s20 with - | s
  · exact kept_pure _
  rcases paramIds with - | ids
  · exact kept_pure _
  exact localArray_safe fun payload _ ↦ localArray_safe fun out _ ↦
    .seq (h.emitReportLoop hL s _ _ cfg.payload_pos) fun r ↦ .ite (fun _ ↦ kept_pure _) fun _ ↦
      h.emitToDefault c _ _ _ out _

/-- Each setter of a command is handed the whole of its value, which is in the payload. -/
theorem setValuesLoop (s : Ptr) {tc : TcPacket} (htc : tc.Sound L) (n : ℕ) {off : UInt16}
    (hoff : off.toNat ≤ tc.payloadLen.toNat) : Kept L (setValuesLoop cb s tc n off) := by
  have hpay := htc.payload
  have hval := htc.values
  induction n generalizing off with
  | zero => exact kept_pure _
  | succ n ih =>
    refine .ite (fun _ ↦ kept_pure _) fun hid ↦ .seq (readPayload_safe _ _) fun hi ↦
      .seq (readPayload_safe _ _) fun lo ↦ .bind (readS20_safe s) fun t ht ↦ ?_
    cases hf : findParam t (join16 hi lo) with
    | none => exact kept_pure _
    | some i =>
      have hlen := ht _ i hf
      refine .ite (fun _ ↦ kept_pure _) fun hroom ↦ ?_
      cases (t i).setter with
      | none => exact kept_pure _
      | some f =>
        have h2 : (off + 2).toNat = off.toNat + 2 := toNat_add_two (by omega)
        have hend : (off + 2 + (t i).valueLen).toNat = off.toNat + 2 + (t i).valueLen.toNat :=
          end_toNat (by omega)
        have hle : off.toNat + 2 + (t i).valueLen.toNat ≤ tc.payloadLen.toNat := by
          rw [← hend]
          exact UInt16.le_iff_toNat_le.mp (UInt16.not_lt.mp hroom)
        refine .seq (Q := fun _ ↦ True) (.call (fun _ _ _ _ ↦ ?_) (h.setter _ _ _ _ _)) fun st ↦
          .ite (fun _ ↦ kept_pure _) fun _ ↦ ih (hend.trans_le hle)
        show ((tc.payload.drop (off + 2).toNat).take (t i).valueLen.toNat).length = _
        rw [List.length_take, List.length_drop, h2]
        omega

theorem runHandler (hL : cfg.maxTmPayloadLen + 2 + L < 65536) (c : Ptr) {tc : TcPacket}
    (htc : tc.Sound L) (ud : Ptr) (f : TcHandler) : Kept L (runHandler cb c tc ud f) := by
  cases f with
  | handleTc17_1 => exact h.emitAliveReport (some c) tc.secHeader.sourceId
  | handleTc17_3 =>
    exact .ite (fun _ ↦ kept_pure _) fun _ ↦ .seq (readPayload_safe _ _) fun hi ↦
      .seq (readPayload_safe _ _) fun lo ↦ h.emitConnectionReport _ _ _
  | handleTc20_1 =>
    exact .ite (fun _ ↦ kept_pure _) fun _ ↦ .seq (readPayload_safe _ _) fun n ↦
      .ite (fun _ ↦ kept_pure _) fun _ ↦ .ite (fun _ ↦ kept_pure _) fun _ ↦
        .seq (readIds_safe _ _ _) fun ids ↦ h.service20EmitReport hL _ _ _ _
  | handleTc20_3 =>
    refine .ite (fun _ ↦ kept_pure _) fun hl ↦ .seq (readPayload_safe _ _) fun n ↦
      .seq (h.setValuesLoop _ htc _ ?_) fun r ↦ kept_pure _
    exact UInt16.le_iff_toNat_le.mp (UInt16.not_lt.mp hl)
  | user f => exact h.handler _ _ _ _ htc

theorem callHandler (hL : cfg.maxTmPayloadLen + 2 + L < 65536) (c : Ptr) {tc : TcPacket}
    (htc : tc.Sound L) (i : Fin cfg.maxTcHandlers) : Kept L (callHandler cb c tc i) :=
  .bind (readCtx_safe c) fun _ hk ↦ .call (fun _ _ _ _ ↦ ⟨htc, hk⟩) (h.runHandler hL _ htc _ _)

theorem reportIf (c : Ptr) (tc : TcPacket) (flag subtype : UInt8) :
    Kept L (reportIf cb c tc flag subtype) :=
  .ite (fun _ ↦ .seq (h.emitSuccess _ _ _) fun _ ↦ kept_pure _) fun _ ↦ kept_pure _

theorem reportCompletion (c : Ptr) (tc : TcPacket) (st : Status) :
    Kept L (reportCompletion cb c tc st) :=
  .ite (fun _ ↦ .ite (fun _ ↦ .seq (h.emitSuccess _ _ _) fun _ ↦ kept_pure _)
    fun _ ↦ .seq (h.emitFailure _ _ _ _) fun _ ↦ kept_pure _) fun _ ↦ kept_pure _

end SafeCallbacks

/-- What the callers of the library see to: that buffers are as long as they say, and that no TC is
so long that the end of a value could wrap. -/
def Op.Sound (L : ℕ) : Op α → Prop
  | .tcProcess _ data len => (∀ d, data = some d → len.toNat ≤ d.length) ∧ len.toNat + L < 65544
  | .handlerInvoke _ _ _ tc => ∀ tc', tc = some tc' → tc'.Sound L
  | _ => True

namespace SafeCallbacks

variable {cb : Callbacks cfg A} (h : SafeCallbacks L cb)

include h

theorem handlerInvoke (hL : cfg.maxTmPayloadLen + 2 + L < 65536) (ctx : Option Ptr)
    (service subtype : UInt8) {tc : Option TcPacket} (htc : ∀ tc', tc = some tc' → tc'.Sound L) :
    Kept L (pusHandlerInvoke cb ctx service subtype tc) := by
  rcases ctx with - | c
  · exact kept_pure _
  rcases tc with - | tc
  · exact kept_pure _
  refine .seq (readCtx_safe c) fun k ↦ ?_
  cases pusHandlerFind (some k) service subtype with
  | none => exact kept_pure _
  | some i => exact h.callHandler hL c (htc tc rfl) i

theorem tcProcess (hL : cfg.maxTmPayloadLen + 2 + L < 65536) (ctx : Option Ptr)
    {data : Option (List UInt8)} {len : UInt16} (hd : ∀ d, data = some d → len.toNat ≤ d.length)
    (hlen : len.toNat + L < 65544) : Kept L (pusTcProcess cb ctx data len) := by
  rcases ctx with - | c
  · exact kept_pure _
  rcases data with - | data
  · exact kept_pure _
  rw [pusTcProcess]
  split
  · rename_i tc hdec
    obtain ⟨hshort, -, rfl⟩ := (pusTcDecode_ok_iff .fresh tc).mp hdec
    have hsub : (len - 10).toNat = len.toNat - 10 :=
      UInt16.toNat_sub_of_le _ _ (UInt16.not_lt.mp hshort)
    have hge : 10 ≤ len.toNat := UInt16.le_iff_toNat_le.mp (UInt16.not_lt.mp hshort)
    have htc : TcPacket.Sound L ⟨tcSecHeaderOf data, data.drop 10, len - 10⟩ := by
      constructor
      · rw [hsub, List.length_drop]
        exact Nat.sub_le_sub_right (hd data rfl) 10
      · rw [hsub]
        omega
    refine .seq (readCtx_safe c) fun k ↦ ?_
    split
    · exact .seq (h.emitFailure _ _ _ _) fun _ ↦ kept_pure _
    · exact .seq (.seq (h.reportIf _ _ _ _) fun _ ↦ h.reportIf _ _ _ _) fun _ ↦
        .seq (h.callHandler hL c htc _) fun st ↦
          .seq (h.reportCompletion _ _ _) fun _ ↦ kept_pure _
  · exact kept_pure _

theorem exec (hL : cfg.maxTmPayloadLen + 2 + L < 65536) (o : Op α) (ho : o.Sound L) :
    Kept L (o.exec cb) := by
  cases o with
  | tcProcess ctx data len => exact h.tcProcess hL _ ho.1 ho.2
  | handlerInvoke ctx service subtype tc => exact h.handlerInvoke hL _ _ _ ho
  | tmBuild ctx service subtype dest payload payloadLen b outLen =>
    exact h.tmBuild _ _ _ _ _ _ _ b.fits
  | service1BuildSuccess ctx tc subtype b outLen => exact h.buildReport _ _ _ _ _ _ b.fits
  | service1BuildFailure ctx tc subtype code b outLen => exact h.buildReport _ _ _ _ _ _ b.fits
  | service1EmitSuccess ctx tc subtype => exact h.emitSuccess _ _ _
  | service1EmitFailure ctx tc subtype code => exact h.emitFailure _ _ _ _
  | service3EmitHk ctx s3 sid => exact h.emitReport _ _ _ _
  | service3EmitDiag ctx s3 sid => exact h.emitReport _ _ _ _
  | service5Emit ctx subtype eventId auxData auxLen => exact h.service5Emit _ _ _ _ _
  | service17EmitAliveReport ctx dest => exact h.emitAliveReport _ _
  | service17EmitConnectionReport ctx apid dest => exact h.emitConnectionReport _ _ _
  | service20EmitReport ctx s20 ids count => exact h.service20EmitReport hL _ _ _ _

end SafeCallbacks

end EmbeddedPus
