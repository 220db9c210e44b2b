import EmbeddedPus.NullArguments
import EmbeddedPus.RegisterHandlers
import EmbeddedPus.Safety

namespace EmbeddedPus

open CallTrace Function SlotTable

variable {cfg : Config} {A α : Type} {L : ℕ}

theorem Sane.setS3 {w : World cfg A} (h : Sane L w) (s : Ptr) {t : Service3Ctx cfg}
    (ht : ∃ m, Refines (hkLayout.slots t) m) : Sane L { w with s3 := update w.s3 s t } := by
  refine ⟨h.handlers, fun s' ↦ ?_, h.parameters⟩
  by_cases hs : s' = s
  · subst hs
    simp only [hkView, update_self]
    exact ht
  · simp only [hkView, update_of_ne hs]
    exact h.structures s'

theorem Sane.setS20 {w : World cfg A} (h : Sane L w) (s : Ptr) {t : Service20Ctx cfg}
    (ht : ∃ m, Refines (paramLayout.slots t) m ∧
      ∀ pid d, m.lookup pid = some d → d.valueLen.toNat ≤ L) :
    Sane L { w with s20 := update w.s20 s t } := by
  refine ⟨h.handlers, h.structures, fun s' ↦ ?_⟩
  by_cases hs : s' = s
  · subst hs
    simp only [paramView, update_self]
    exact ht
  · simp only [paramView, update_of_ne hs]
    exact h.parameters s'

theorem handlerRegister_safe (ctx : Option Ptr) (service subtype : UInt8)
    (handler : Option TcHandler) (userData : Ptr) :
    Kept L (pusHandlerRegister ctx service subtype handler userData : Pus cfg A Status) := by
  cases ctx with
  | none => exact kept_pure _
  | some c =>
    intro w hw
    obtain ⟨m, hm⟩ := hw.handlers c
    have href := (register_refines hm ⟨service, subtype, handler, userData⟩).2.1
    rw [pusHandlerRegister_apply]
    exact ⟨trivial, hw.setCtx c ⟨_, href⟩, trivial⟩

theorem registerTwo_safe (c : Ptr) (service subtype₁ subtype₂ : UInt8)
    (handler₁ handler₂ : TcHandler) (userData : Ptr) : Kept L
      (registerTwo c service subtype₁ subtype₂ handler₁ handler₂ userData : Pus cfg A Status) :=
  .seq (handlerRegister_safe _ _ _ _ _) fun _ ↦ .ite (fun _ ↦ kept_pure _) fun _ ↦
    handlerRegister_safe _ _ _ _ _

theorem registerStructure_safe (s3 : Option Ptr) (sid : UInt16) (kind : UInt8)
    (provider : Option Ptr) (userData : Ptr) :
    Kept L (registerStructure s3 sid kind provider userData : Pus cfg A Status) := by
  cases s3 with
  | none => exact kept_pure _
  | some s =>
    intro w hw
    obtain ⟨m, hm⟩ := hw.structures s
    have href := ((registerStructure_registers s sid kind provider userData).refines w m hm).2
    obtain ⟨st, t, he⟩ := registerStructure_frame s sid kind provider userData w
    rw [he] at href ⊢
    simp only [hkView, update_self] at href
    exact ⟨trivial, hw.setS3 s ⟨_, href⟩, trivial⟩

theorem registerParam_safe (s20 : Option Ptr) (pid valueLen : UInt16)
    (getter setter : Option Ptr) (userData : Ptr) (hl : valueLen.toNat ≤ L) :
    Kept L (pusService20RegisterParam s20 pid valueLen getter setter userData :
      Pus cfg A Status) := by
  cases s20 with
  | none => exact kept_pure _
  | some s =>
    intro w hw
    obtain ⟨m, hm, hlen⟩ := hw.parameters s
    have href :=
      ((registerParam_registers s pid valueLen getter setter userData).refines w m hm).2
    obtain ⟨st, t, he⟩ := registerParam_frame s pid valueLen getter setter userData w
    rw [he] at href ⊢
    simp only [paramView, update_self] at href
    refine ⟨trivial, hw.setS20 s ⟨_, href, put_forall hlen fun d hd ↦ ?_⟩, trivial⟩
    obtain ⟨g, -, rfl⟩ := Option.map_eq_some_iff.mp hd
    exact hl

theorem pusInit_safe (ctx : Option Ptr) : Kept L (pusInit ctx : Pus cfg A Status) := by
  cases ctx with
  | none => exact kept_pure _
  | some c =>
    intro w hw
    have href := init_refines c w
    exact ⟨trivial, hw.setCtx c ⟨∅, by rwa [← World.setCtx_ctx w c (.zero cfg)]⟩, trivial⟩

theorem writeCtx_safe (c : Ptr) {k : Context cfg} (hk : ∃ m, Refines k.handlerTable.slots m) :
    Kept L (writeCtx c k : Pus cfg A Unit) :=
  .modify fun _ hw ↦ hw.setCtx c hk

theorem pusInitWithConfig_safe (ctx : Option Ptr) (config : Option PusConfig) :
    Kept L (pusInitWithConfig ctx config : Pus cfg A Status) := by
  refine .seq (pusInit_safe ctx) fun st ↦ .ite (fun _ ↦ kept_pure _) fun _ ↦ ?_
  cases ctx with
  | none => exact kept_pure _
  | some c =>
    cases config with
    | none => exact kept_pure _
    | some config =>
      exact .bind (readCtx_safe c) fun k hk ↦ .seq (writeCtx_safe c hk) fun _ ↦ kept_pure _

theorem pusSetTmSink_safe (ctx sink : Option Ptr) (userData : Ptr) :
    Kept L (pusSetTmSink ctx sink userData : Pus cfg A Status) := by
  cases ctx with
  | none => exact kept_pure _
  | some c => exact .bind (readCtx_safe c) fun k hk ↦ .seq (writeCtx_safe c hk) fun _ ↦ kept_pure _

theorem service3Init_safe (s3 : Option Ptr) : Kept L (pusService3Init s3 : Pus cfg A Status) := by
  cases s3 with
  | none => exact kept_pure _
  | some s => exact .seq (.modify fun _ hw ↦ hw.setS3 s ⟨∅, .empty⟩) fun _ ↦ kept_pure _

theorem service20Init_safe (s20 : Option Ptr) :
    Kept L (pusService20Init s20 : Pus cfg A Status) := by
  cases s20 with
  | none => exact kept_pure _
  | some s =>
    refine .seq (.modify fun _ hw ↦ hw.setS20 s ⟨∅, .empty, fun pid d hd ↦ ?_⟩) fun _ ↦ kept_pure _
    cases hd

/-- What an application is to see to: that it registers no longer values than `L`, beside what
`Op.Sound` asks for. -/
def ApiCall.Sound (L : ℕ) : ApiCall → Prop
  | .register (.service20Param _ _ valueLen _ _ _) => valueLen.toNat ≤ L
  | .op o => o.Sound L
  | _ => True

theorem RegisterOp.exec_safe (r : RegisterOp) (hr : (ApiCall.register r).Sound L) :
    Kept L (r.exec : Pus cfg A Status) := by
  cases r with
  | handler ctx service subtype h ud => exact handlerRegister_safe _ _ _ _ _
  | service3Init s3 => exact service3Init_safe s3
  | service3Hk s3 sid provider ud => exact registerStructure_safe _ _ _ _ _
  | service3Diag s3 sid provider ud => exact registerStructure_safe _ _ _ _ _
  | service17Handlers ctx =>
    cases ctx with
    | none => exact kept_pure _
    | some c => exact registerTwo_safe _ _ _ _ _ _ _
  | service20Init s20 => exact service20Init_safe s20
  | service20Param s20 pid valueLen getter setter ud => exact registerParam_safe _ _ _ _ _ _ hr
  | service20Handlers ctx s20 =>
    cases ctx with
    | none => exact kept_pure _
    | some c =>
      cases s20 with
      | none => exact kept_pure _
      | some s => exact registerTwo_safe _ _ _ _ _ _ _

theorem kept_map {β : Type} {m : Pus cfg A α} (h : Kept L m) (f : α → β) : Kept L (f <$> m) := by
  rw [map_eq_pure_bind]
  exact .seq h fun _ ↦ kept_pure _

theorem SafeCallbacks.apiCall {cb : Callbacks cfg A} (h : SafeCallbacks L cb)
    (hL : cfg.maxTmPayloadLen + 2 + L < 65536) (call : ApiCall) (hc : call.Sound L) :
    Kept L (call.exec cb) := by
  cases call with
  | init ctx => exact kept_map (pusInit_safe ctx) _
  | initWithConfig ctx config => exact kept_map (pusInitWithConfig_safe ctx config) _
  | setTmSink ctx sink ud => exact kept_map (pusSetTmSink_safe ctx sink ud) _
  | tcDecode data len tc => exact kept_pure _
  | tcSecHeaderDecode data len header => exact kept_pure _
  | tcSecHeaderEncode header b outLen => exact kept_pure _
  | tmSecHeaderDecode data len header => exact kept_pure _
  | tmSecHeaderEncode header b outLen => exact kept_pure _
  | register r => exact kept_map (r.exec_safe hc) _
  | op o => exact kept_map (h.exec hL o hc) _

/-- A step of the application that leaves contexts and tables to the library. -/
structure OwnStep (m : Pus cfg A α) : Prop where
  ctx : ∀ w, (m w).state.ctx = w.ctx
  s3 : ∀ w, (m w).state.s3 = w.s3
  s20 : ∀ w, (m w).state.s20 = w.s20
  trace : ∀ w, (m w).trace = .nil

theorem OwnStep.kept {m : Pus cfg A α} (h : OwnStep m) : Kept L m := by
  intro w hw
  refine ⟨trivial, hw.of_tables (fun c ↦ ?_) (h.s3 w) (h.s20 w), ?_⟩
  · rw [h.ctx w]
  · rw [h.trace w]
    trivial

/-- All that an application can do: steps of its own and calls of the library, one after the other,
with callbacks that do such things themselves, sinks and time sources included. -/
inductive Session (L : ℕ) : {α : Type} → Pus cfg A α → Prop
  | own {α : Type} {m : Pus cfg A α} (h : OwnStep m) : Session L m
  | bind {α β : Type} {m : Pus cfg A α} {f : α → Pus cfg A β} (hm : Session L m)
      (hf : ∀ a, Session L (f a)) : Session L (m >>= f)
  | call (cb : Callbacks cfg A) (call : ApiCall) (hc : call.Sound L)
      (handler : ∀ f c tc ud, tc.Sound L → Session L (cb.handler f c tc ud))
      (tmSink : ∀ f ud data, Session L (cb.tmSink f ud data))
      (timeSource : ∀ f ud, Session L (cb.timeSource f ud))
      (provider : ∀ f sid capacity ud, Session L (cb.provider f sid capacity ud))
      (getter : ∀ f pid capacity ud, Session L (cb.getter f pid capacity ud))
      (setter : ∀ f pid buf len ud, Session L (cb.setter f pid buf len ud)) :
      Session L (call.exec cb)

theorem Session.kept {m : Pus cfg A α} (h : Session L m)
    (hL : cfg.maxTmPayloadLen + 2 + L < 65536) : Kept L m := by
  induction h with
  | own h => exact h.kept
  | bind _ _ ihm ihf => exact .seq ihm ihf
  | call cb call hc _ _ _ _ _ _ handler tmSink timeSource provider getter setter =>
    have hcb : SafeCallbacks L cb := ⟨handler, tmSink, timeSource, provider, getter, setter⟩
    exact hcb.apiCall hL call hc

/-- The calls that were made, inside others too, in order. -/
def calls (t : History cfg) : List (Call cfg) := t.deep (fun _ ↦ []) fun f ↦ [f]

/-- Whatever an application does, and however its callbacks come back to the library: the tables
stay pictures of finite maps, each packet built is well formed, and each call is one that is
allowed. -/
theorem session_safe {m : Pus cfg A α} (h : Session L m) (hL : cfg.maxTmPayloadLen + 2 + L < 65536)
    (w : World cfg A) (hw : Sane L w) :
    let r := m w
    Sane L r.state ∧ (∀ c, ∀ bytes ∈ built c r.trace, TmWellFormed cfg bytes) ∧
      ∀ f ∈ calls r.trace, f.Allowed L := by
  intro r
  obtain ⟨-, hstate, htrace⟩ := h.kept hL w hw
  refine ⟨hstate, fun c bytes hb ↦ ?_, fun f hf ↦ ?_⟩
  · obtain ⟨a, ha, hmem⟩ := htrace.act_mem hb
    cases a with
    | packet d bytes' =>
      rw [packetOf] at hmem
      split at hmem
      · exact List.mem_singleton.mp hmem ▸ ha
      · cases hmem
    | read i => cases hmem
  · obtain ⟨f', hf', hmem⟩ := htrace.call_mem hf
    exact List.mem_singleton.mp hmem ▸ hf'

theorem sane_cleared (a : A) : Sane L (World.cleared a : World cfg A) :=
  ⟨fun _ ↦ ⟨∅, .empty⟩, fun _ ↦ ⟨∅, .empty⟩, fun _ ↦ ⟨∅, .empty, fun _ _ h ↦ nomatch h⟩⟩

theorem Session.call_quiet (call : ApiCall) (hc : call.Sound L) :
    Session L (call.exec (.quiet : Callbacks cfg A)) := by
  have hpure {β : Type} (b : β) : Session L (pure b : Pus cfg A β) :=
    .own ⟨fun _ ↦ rfl, fun _ ↦ rfl, fun _ ↦ rfl, fun _ ↦ rfl⟩
  exact .call _ call hc (fun _ _ _ _ _ ↦ hpure _) (fun _ _ _ ↦ hpure _) (fun _ _ ↦ hpure _)
    (fun _ _ _ _ ↦ hpure _) (fun _ _ _ _ ↦ hpure _) (fun _ _ _ _ _ ↦ hpure _)

/-- An application whose sink comes back to the library: for each packet it takes, it registers a
parameter anew and announces an event on another context. -/
def restless : Callbacks .default Unit where
  handler := Callbacks.quiet.handler
  tmSink _ _ _ := do
    let _ ← ApiCall.exec .quiet (.register (.service20Param (some 0) 1 8 (some 3) (some 4) 0))
    let r ← ApiCall.exec .quiet (.op (.service5Emit (some 1) 2 9 none 0))
    pure r.st
  timeSource := Callbacks.quiet.timeSource
  provider := Callbacks.quiet.provider
  getter := Callbacks.quiet.getter
  setter := Callbacks.quiet.setter

def restlessSession : Pus .default Unit Reply := do
  let _ ← ApiCall.exec restless (.initWithConfig (some 0) (some ⟨0, 0, some 7, 0, none, 0⟩))
  let _ ← ApiCall.exec restless (.register (.service20Param (some 0) 1 4 (some 3) (some 4) 0))
  let _ ← ApiCall.exec restless (.register (.service20Handlers (some 0) (some 0)))
  -- the value is set, then asked for
  let _ ← ApiCall.exec restless (.op (.tcProcess (some 0)
    (some [0x19, 20, 3, 0, 5, 0, 0, 0, 0, 0, 1, 0, 1, 0, 0, 0, 0, 0, 0, 0, 9]) 21))
  ApiCall.exec restless (.op (.tcProcess (some 0)
    (some [0x19, 20, 1, 0, 5, 0, 0, 0, 0, 0, 1, 0, 1]) 13))

theorem session_safe_restless :
    let r := restlessSession (.cleared ())
    Sane 8 r.state ∧ (built 0 r.trace).length = 5 ∧ (calls r.trace).length = 9 ∧
      ∀ f ∈ calls r.trace, f.Allowed 8 := by
  intro r
  have hpure {β : Type} (b : β) : Session 8 (pure b : Pus .default Unit β) :=
    .own ⟨fun _ ↦ rfl, fun _ ↦ rfl, fun _ ↦ rfl, fun _ ↦ rfl⟩
  have hcall (call : ApiCall) (hc : call.Sound 8) : Session 8 (call.exec restless) :=
    .call _ call hc (fun _ _ _ _ _ ↦ hpure _)
      (fun _ _ _ ↦ .bind (.call_quiet _ (Nat.le_refl 8)) fun _ ↦
        .bind (.call_quiet _ trivial) fun _ ↦ hpure _)
      (fun _ _ ↦ hpure _) (fun _ _ _ _ ↦ hpure _) (fun _ _ _ _ ↦ hpure _) fun _ _ _ _ _ ↦ hpure _
  have hsession : Session 8 restlessSession :=
    .bind (hcall _ trivial) fun _ ↦ .bind (hcall _ (show 4 ≤ 8 by decide)) fun _ ↦
      .bind (hcall _ trivial) fun _ ↦ .bind (hcall _ ⟨by rintro _ ⟨⟩; decide, by decide⟩) fun _ ↦
        hcall _ ⟨by rintro _ ⟨⟩; decide, by decide⟩
  obtain ⟨hsane, -, hcalls⟩ := session_safe hsession (by decide) (.cleared ()) (sane_cleared ())
  exact ⟨hsane, by decide +kernel, by decide +kernel, hcalls⟩

end EmbeddedPus
