import EmbeddedPus.OperationRules
import EmbeddedPus.Library.Simulation

namespace EmbeddedPus

open CallTrace Function SlotTable

variable {cfg : Config} {A V α : Type} {cb : Callbacks cfg A}

/-- A context and a sink for it, and what of the application's state the callbacks see; the rest is
the sink's own memory. -/
structure Attachment (A V : Type) where
  ctx : Ptr
  sink : Ptr
  userData : Ptr
  view : A → V

/-- The context has no sink in one world and the sink in the other, and there is no other
difference but in what the sink keeps for itself. -/
structure Alike (x : Attachment A V) (w w' : World cfg A) : Prop where
  same : ∀ d, (w.ctx d).withoutSink = (w'.ctx d).withoutSink
  others : ∀ d, d ≠ x.ctx → w.ctx d = w'.ctx d
  detached : (w.ctx x.ctx).tmSink = none
  attached : (w'.ctx x.ctx).tmSink = some x.sink ∧ (w'.ctx x.ctx).tmSinkUserData = x.userData
  s3 : w.s3 = w'.s3
  s20 : w.s20 = w'.s20
  stack : w.stack = w'.stack
  app : x.view w.app = x.view w'.app

def Attachment.attach (x : Attachment A V) (w : World cfg A) : World cfg A :=
  w.setCtx x.ctx { w.ctx x.ctx with tmSink := some x.sink, tmSinkUserData := x.userData }

theorem Attachment.alike (x : Attachment A V) {w : World cfg A}
    (h : (w.ctx x.ctx).tmSink = none) : Alike x w (x.attach w) where
  same d := by
    by_cases hd : d = x.ctx
    · subst hd
      rw [attach, World.setCtx_ctx]
      rfl
    · rw [attach, World.setCtx_ctx_of_ne _ _ _ hd]
  others d hd := (World.setCtx_ctx_of_ne _ _ _ hd).symm
  detached := h
  attached := by
    rw [attach, World.setCtx_ctx]
    exact ⟨rfl, rfl⟩
  s3 := rfl
  s20 := rfl
  stack := rfl
  app := rfl

def Call.deliversTo (c : Ptr) : Call cfg → Bool
  | .tmSink d _ _ _ _ => d == c
  | _ => false

/-- A computation that does the same with and without the sink, the deliveries apart. -/
abbrev Blind (x : Attachment A V) (m : Pus cfg A α) : Prop :=
  m.Lockstep (Alike x) (Call.deliversTo x.ctx) m

/-- A computation that neither inspects nor changes the sink: it does the very same whether the sink
is there or not. -/
def IgnoresSink (x : Attachment A V) (m : Pus cfg A α) : Prop :=
  ∀ w w', Alike x w w' → (m w).val = (m w').val ∧ Alike x (m w).state (m w').state ∧
    (m w).trace = (m w').trace

/-- The sink always returns OK, and changes its own memory at most. -/
def Delivers (x : Attachment A V) (cb : Callbacks cfg A) : Prop :=
  ∀ data w, let r := cb.tmSink x.sink x.userData data w
    r.val = .ok ∧ ∃ a, r.state = { w with app := a } ∧ x.view a = x.view w.app

inductive RegisterOp
  | handler (ctx : Option Ptr) (service subtype : UInt8) (handler : Option TcHandler)
      (userData : Ptr)
  | service3Init (s3 : Option Ptr)
  | service3Hk (s3 : Option Ptr) (sid : UInt16) (provider : Option Ptr) (userData : Ptr)
  | service3Diag (s3 : Option Ptr) (sid : UInt16) (provider : Option Ptr) (userData : Ptr)
  | service17Handlers (ctx : Option Ptr)
  | service20Init (s20 : Option Ptr)
  | service20Param (s20 : Option Ptr) (paramId valueLen : UInt16) (getter setter : Option Ptr)
      (userData : Ptr)
  | service20Handlers (ctx s20 : Option Ptr)

def RegisterOp.exec : RegisterOp → Pus cfg A Status
  | .handler ctx service subtype h ud => pusHandlerRegister ctx service subtype h ud
  | .service3Init s3 => pusService3Init s3
  | .service3Hk s3 sid provider ud => pusService3RegisterHk s3 sid provider ud
  | .service3Diag s3 sid provider ud => pusService3RegisterDiag s3 sid provider ud
  | .service17Handlers ctx => pusService17RegisterHandlers ctx
  | .service20Init s20 => pusService20Init s20
  | .service20Param s20 pid valueLen getter setter ud =>
    pusService20RegisterParam s20 pid valueLen getter setter ud
  | .service20Handlers ctx s20 => pusService20RegisterHandlers ctx s20

/-- The runs of an application that neither inspects nor changes the sink: steps of its own,
registrations and library calls one after the other, in which the callbacks are such runs
themselves. -/
inductive SinkFree (x : Attachment A V) : {α : Type} → Pus cfg A α → Prop
  | own {α : Type} {m : Pus cfg A α} (h : IgnoresSink x m) : SinkFree x m
  | bind {α β : Type} {m : Pus cfg A α} {f : α → Pus cfg A β} (hm : SinkFree x m)
      (hf : ∀ a, SinkFree x (f a)) : SinkFree x (m >>= f)
  | register (r : RegisterOp) : SinkFree x (r.exec : Pus cfg A Status)
  | call {α : Type} (cb : Callbacks cfg A) (o : Op α) (hs : Delivers x cb)
      (handler : ∀ f d tc ud, SinkFree x (cb.handler f d tc ud))
      (provider : ∀ f sid capacity ud, SinkFree x (cb.provider f sid capacity ud))
      (getter : ∀ f pid capacity ud, SinkFree x (cb.getter f pid capacity ud))
      (setter : ∀ f pid buf len ud, SinkFree x (cb.setter f pid buf len ud))
      (timeSource : ∀ f ud, SinkFree x (cb.timeSource f ud))
      (tmSink : ∀ f ud data, SinkFree x (cb.tmSink f ud data)) : SinkFree x (o.exec cb)

variable {x : Attachment A V}

theorem IgnoresSink.blind {m : Pus cfg A α} (h : IgnoresSink x m) : Blind x m := by
  intro w w' hw
  obtain ⟨hval, hstate, htrace⟩ := h w w' hw
  exact ⟨hval, hstate, by rw [htrace]⟩

namespace Blind

theorem pure (a : α) : Blind x (Pure.pure a : Pus cfg A α) := Prog.Lockstep.pure a

theorem ite {p : Prop} [Decidable p] {m n : Pus cfg A α} (hm : Blind x m) (hn : Blind x n) :
    Blind x (if p then m else n) := by
  split
  · exact hm
  · exact hn

theorem readCtx (d : Ptr) {f : Context cfg → Pus cfg A α} (hf : ∀ k, f k.withoutSink = f k)
    (hb : ∀ k, Blind x (f k)) : Blind x (readCtx d >>= f) := by
  have hget : Blind x (Prog.get >>= fun w : World cfg A ↦ f (w.ctx d)) := by
    apply Prog.Lockstep.get_bind
    intro w w' h
    have hk : f (w.ctx d) = f (w'.ctx d) := by rw [← hf, h.same, hf]
    rw [hk]
    exact hb _
  exact hget

theorem setCtx {w w' : World cfg A} (h : Alike x w w') (d : Ptr) {g : Context cfg → Context cfg}
    (hg : ∀ k, g k.withoutSink = (g k).withoutSink) (hsink : ∀ k, (g k).tmSink = k.tmSink)
    (hud : ∀ k, (g k).tmSinkUserData = k.tmSinkUserData) :
    Alike x (w.setCtx d (g (w.ctx d))) (w'.setCtx d (g (w'.ctx d))) where
  same e := by
    by_cases he : e = d
    · subst he
      rw [World.setCtx_ctx, World.setCtx_ctx, ← hg, ← hg, h.same]
    · rw [World.setCtx_ctx_of_ne _ _ _ he, World.setCtx_ctx_of_ne _ _ _ he, h.same]
  others e hx := by
    by_cases he : e = d
    · subst he
      rw [World.setCtx_ctx, World.setCtx_ctx, h.others e hx]
    · rw [World.setCtx_ctx_of_ne _ _ _ he, World.setCtx_ctx_of_ne _ _ _ he, h.others e hx]
  detached := by
    by_cases he : x.ctx = d
    · subst he
      rw [World.setCtx_ctx, hsink, h.detached]
    · rw [World.setCtx_ctx_of_ne _ _ _ he, h.detached]
  attached := by
    by_cases he : x.ctx = d
    · subst he
      rw [World.setCtx_ctx, hsink, hud]
      exact h.attached
    · rw [World.setCtx_ctx_of_ne _ _ _ he]
      exact h.attached
  s3 := h.s3
  s20 := h.s20
  stack := h.stack
  app := h.app

theorem updateCtx (d : Ptr) {g : Context cfg → Context cfg} {f : Context cfg → Pus cfg A α}
    (hg : ∀ k, g k.withoutSink = (g k).withoutSink) (hsink : ∀ k, (g k).tmSink = k.tmSink)
    (hud : ∀ k, (g k).tmSinkUserData = k.tmSinkUserData) (hf : ∀ k, f k.withoutSink = f k)
    (hb : ∀ k, Blind x (f k)) :
    Blind x (do
      let k ← EmbeddedPus.readCtx d
      writeCtx d (g k)
      f k) := by
  intro w w' h
  have hk : f (w.ctx d) = f (w'.ctx d) := by rw [← hf, h.same, hf]
  have hset := setCtx h d hg hsink hud
  have hrest := hb (w'.ctx d) _ _ hset
  rw [readCtx_bind_apply, readCtx_bind_apply, hk]
  exact hrest

theorem localArray (n : ℕ) {f : List UInt8 → Pus cfg A α}
    (hf : ∀ o, o.length = n → Blind x (f o)) : Blind x (localArray n >>= f) := by
  have hget : Blind x (Prog.get >>= fun w : World cfg A ↦ f ((List.range n).map w.stack)) := by
    apply Prog.Lockstep.get_bind
    intro w w' h
    rw [h.stack]
    exact hf _ (by rw [List.length_map, List.length_range])
  exact hget

theorem readS3 (s : Ptr) : Blind x (readS3 s : Pus cfg A _) := by
  apply Prog.Lockstep.get_bind
  intro w w' h
  rw [h.s3]
  exact .pure _

theorem readS20 (s : Ptr) : Blind x (readS20 s : Pus cfg A _) := by
  apply Prog.Lockstep.get_bind
  intro w w' h
  rw [h.s20]
  exact .pure _

theorem writeS3 (s : Ptr) (t : Service3Ctx cfg) : Blind x (writeS3 s t : Pus cfg A _) :=
  Prog.Lockstep.modify fun _ _ h ↦ { h with s3 := by rw [h.s3] }

theorem writeS20 (s : Ptr) (t : Service20Ctx cfg) : Blind x (writeS20 s t : Pus cfg A _) :=
  Prog.Lockstep.modify fun _ _ h ↦ { h with s20 := by rw [h.s20] }

theorem registerStructure (s3 : Option Ptr) (sid : UInt16) (kind : UInt8) (provider : Option Ptr)
    (ud : Ptr) : Blind x (registerStructure s3 sid kind provider ud : Pus cfg A _) := by
  rcases s3 with - | s
  · exact .pure _
  rcases provider with - | p
  · exact .pure _
  refine .bind (readS3 s) fun t ↦ ?_
  cases scan (fun i ↦ (t i).isUsed) (hkMatches t sid kind) with
  | found i => exact .bind (writeS3 s _) fun _ ↦ .pure _
  | full => exact .pure _
  | free i => exact .bind (writeS3 s _) fun _ ↦ .pure _

theorem registerParam (s20 : Option Ptr) (pid valueLen : UInt16) (getter setter : Option Ptr)
    (ud : Ptr) :
    Blind x (pusService20RegisterParam s20 pid valueLen getter setter ud : Pus cfg A _) := by
  rcases s20 with - | s
  · exact .pure _
  rcases getter with - | g
  · exact .pure _
  refine .bind (readS20 s) fun t ↦ ?_
  cases scan (fun i ↦ (t i).isUsed) (paramMatches t pid) with
  | found i => exact .bind (writeS20 s _) fun _ ↦ .pure _
  | full => exact .pure _
  | free i => exact .bind (writeS20 s _) fun _ ↦ .pure _

theorem handlerRegister (ctx : Option Ptr) (service subtype : UInt8) (handler : Option TcHandler)
    (ud : Ptr) : Blind x (pusHandlerRegister ctx service subtype handler ud : Pus cfg A _) := by
  rcases ctx with - | d
  · exact .pure _
  exact updateCtx d (fun _ ↦ rfl) (fun _ ↦ rfl) (fun _ ↦ rfl) (fun _ ↦ rfl) fun _ ↦ .pure _

theorem registerTwo (d : Ptr) (service subtype₁ subtype₂ : UInt8) (handler₁ handler₂ : TcHandler)
    (ud : Ptr) :
    Blind x (registerTwo d service subtype₁ subtype₂ handler₁ handler₂ ud : Pus cfg A _) :=
  .bind (handlerRegister _ _ _ _ _) fun _ ↦ ite (.pure _) (handlerRegister _ _ _ _ _)

theorem register (r : RegisterOp) : Blind x (r.exec : Pus cfg A Status) := by
  cases r with
  | handler ctx service subtype h ud => exact handlerRegister _ _ _ _ _
  | service3Init s3 =>
    rcases s3 with - | s
    · exact .pure _
    · exact .bind (writeS3 s _) fun _ ↦ .pure _
  | service3Hk s3 sid provider ud => exact registerStructure _ _ _ _ _
  | service3Diag s3 sid provider ud => exact registerStructure _ _ _ _ _
  | service17Handlers ctx =>
    rcases ctx with - | d
    · exact .pure _
    · exact registerTwo _ _ _ _ _ _ _
  | service20Init s20 =>
    rcases s20 with - | s
    · exact .pure _
    · exact .bind (writeS20 s _) fun _ ↦ .pure _
  | service20Param s20 pid valueLen getter setter ud => exact registerParam _ _ _ _ _ _
  | service20Handlers ctx s20 =>
    rcases ctx with - | d
    · exact .pure _
    rcases s20 with - | s
    · exact .pure _
    · exact registerTwo _ _ _ _ _ _ _

theorem callTimeSource (ht : ∀ f ud, Blind x (cb.timeSource f ud)) (d : Ptr) :
    Blind x (callTimeSource cb d) := by
  refine readCtx d (fun _ ↦ rfl) fun k ↦ ?_
  cases k.timeSource with
  | none => exact .pure _
  | some f => exact .call (ht _ _)

theorem buildPacket (ht : ∀ f ud, Blind x (cb.timeSource f ud)) (d : Ptr) (service subtype : UInt8)
    (dest : UInt16) (payload : List UInt8) :
    Blind x (buildPacket cb d service subtype dest payload) := by
  have hfill : Blind x (pusTmHdrFill cb d service subtype dest) :=
    readCtx d (fun _ ↦ rfl) fun _ ↦ .bind (callTimeSource ht d) fun _ ↦ .pure _
  have hcount (bytes : List UInt8) : Blind x (countPacket d bytes : Pus cfg A _) := by
    have hupdate : Blind x (do
        let k ← EmbeddedPus.readCtx d
        writeCtx d { k with tmCounter := k.tmCounter + 1 }
        Pure.pure () : Pus cfg A Unit) :=
      updateCtx d (fun _ ↦ rfl) (fun _ ↦ rfl) (fun _ ↦ rfl) (fun _ ↦ rfl) fun _ ↦ .pure ()
    exact .bind (.act _) fun _ ↦ hupdate
  exact .bind hfill fun _ ↦ .bind (hcount _) fun _ ↦ .pure _

/-- The one place where the two runs part: one delivers, and the other does not. -/
theorem callTmSink (hs : Delivers x cb) (ht : ∀ f ud data, Blind x (cb.tmSink f ud data)) (d : Ptr)
    (data : List UInt8) : Blind x (callTmSink cb d data) := by
  intro w w' h
  rw [EmbeddedPus.callTmSink, readCtx_bind_apply, readCtx_bind_apply]
  by_cases hd : d = x.ctx
  · subst hd
    rw [h.detached, h.attached.1, h.attached.2]
    have hkeep (v v' : World cfg A) (hv : Alike x v v') :
        let r := cb.tmSink x.sink x.userData data v'
        r.val = .ok ∧ Alike x v r.state := by
      obtain ⟨hval, a, hstate, hview⟩ := hs data v'
      refine ⟨hval, ?_⟩
      rw [hstate]
      exact { hv with app := hv.app.trans hview.symm }
    have hhide (_ : World cfg A) : Call.deliversTo x.ctx
        (.tmSink x.ctx x.sink x.userData data .ok : Call cfg) := beq_self_eq_true x.ctx
    exact Prog.Lockstep.pure_call hhide hkeep w w' h
  · rw [h.others d hd]
    cases (w'.ctx d).tmSink with
    | none => exact Prog.Lockstep.pure _ w w' h
    | some f => exact Prog.Lockstep.call (ht _ _ _) w w' h

end Blind

structure BlindCallbacks (x : Attachment A V) (cb : Callbacks cfg A) : Prop where
  sink : Delivers x cb
  handler : ∀ f d tc ud, Blind x (cb.handler f d tc ud)
  provider : ∀ f sid capacity ud, Blind x (cb.provider f sid capacity ud)
  getter : ∀ f pid capacity ud, Blind x (cb.getter f pid capacity ud)
  setter : ∀ f pid buf len ud, Blind x (cb.setter f pid buf len ud)
  timeSource : ∀ f ud, Blind x (cb.timeSource f ud)
  tmSink : ∀ f ud data, Blind x (cb.tmSink f ud data)

theorem BlindCallbacks.rules (h : BlindCallbacks x cb) : OpRules cb True (Blind x) where
  pure := .pure
  bind := .bind
  readCtx d _ _ := Blind.readCtx d
  localArray n _ _ := Blind.localArray n
  readS3 := Blind.readS3
  readS20 := Blind.readS20
  readPayload _ _ := fun _ _ hw ↦ ⟨rfl, hw, rfl⟩
  call _ hm := .call hm
  emission d _ _ _ _ _ _ hf :=
    .bind (Blind.buildPacket h.timeSource _ _ _ _ _) fun bytes ↦
      .bind (Blind.callTmSink h.sink h.tmSink d bytes) (hf bytes)
  buildPacket _ := Blind.buildPacket h.timeSource
  handler := h.handler
  provider := h.provider
  getter := h.getter
  setter := h.setter

/-- By induction over what the application does, callbacks included. -/
theorem SinkFree.blind {m : Pus cfg A α} (h : SinkFree x m) : Blind x m := by
  induction h with
  | own h => exact h.blind
  | bind _ _ ihm ihf => exact .bind ihm ihf
  | register r => exact Blind.register r
  | call cb o hs _ _ _ _ _ _ handler provider getter setter timeSource tmSink =>
    have h : BlindCallbacks x cb := ⟨hs, handler, provider, getter, setter, timeSource, tmSink⟩
    exact h.rules.exec o fun _ ↦ trivial

/-- Whatever an application does with the library, without looking at the sink: with a sink that
always returns OK and without one it gets the same results, which may be all that its calls
returned, and makes the same calls, and its context ends up the same but for the sink. -/
theorem sink_makes_no_difference {m : Pus cfg A α} (hm : SinkFree x m) {w w' : World cfg A}
    (hw : Alike x w w') :
    let r := m w
    let r' := m w'
    r.val = r'.val ∧
    r.trace.erase (Call.deliversTo x.ctx) = r'.trace.erase (Call.deliversTo x.ctx) ∧
    (r.state.ctx x.ctx).withoutSink = (r'.state.ctx x.ctx).withoutSink ∧
    (r.state.ctx x.ctx).tmCounter = (r'.state.ctx x.ctx).tmCounter ∧
    Alike x r.state r'.state := by
  intro r r'
  obtain ⟨hval, hstate, htrace⟩ := hm.blind w w' hw
  have hctx := hstate.same x.ctx
  exact ⟨hval, htrace, hctx, congrArg (fun k ↦ k.tmCounter) hctx, hstate⟩

abbrev Recorded := List (List UInt8) × ℕ

def recorder : Attachment Recorded ℕ := ⟨0, 7, 0, Prod.snd⟩

def recording : Callbacks .default Recorded :=
  { Callbacks.quiet with
    tmSink := fun _ _ data ↦ do
      Prog.modify fun w ↦ { w with app := (data :: w.app.1, w.app.2) }
      pure .ok }

/-- The handler sends an event, and returns what that returned. -/
def eventful : Callbacks .default Recorded :=
  { recording with
    handler := fun _ c _ _ ↦ do
      Prog.modify fun w ↦ { w with app := (w.app.1, w.app.2 + 1) }
      (Op.service5Emit (some c) 1 9 none 0).exec recording }

def session : Pus .default Recorded (Status × Status × Status) := do
  let st₁ ← RegisterOp.exec (.handler (some 0) 8 1 (some (.user 3)) 0)
  let st₂ ← (Op.tcProcess (some 0) (some [0x1F, 8, 1, 0, 5, 0, 0, 0, 0, 0]) 10).exec eventful
  let st₃ ← (Op.service17EmitAliveReport (some 0) 5).exec eventful
  pure (st₁, st₂, st₃)

theorem SinkFree.pure (a : α) : SinkFree x (Pure.pure a : Pus cfg A α) :=
  .own fun _ _ h ↦ ⟨rfl, h, rfl⟩

theorem recording_sinkFree (f ud : Ptr) (data : List UInt8) :
    SinkFree recorder (recording.tmSink f ud data) :=
  .own fun _ _ h ↦ ⟨rfl, { h with app := h.app }, rfl⟩

theorem recording_delivers : Delivers recorder recording :=
  fun _ _ ↦ ⟨rfl, _, rfl, rfl⟩

theorem recording_call (o : Op α) : SinkFree recorder (o.exec recording) :=
  .call recording o recording_delivers (fun _ _ _ _ ↦ .pure _) (fun _ _ _ _ ↦ .pure _)
    (fun _ _ _ _ ↦ .pure _) (fun _ _ _ _ _ ↦ .pure _) (fun _ _ ↦ .pure _) recording_sinkFree

theorem eventful_call (o : Op α) : SinkFree recorder (o.exec eventful) := by
  refine .call eventful o recording_delivers (fun _ c _ _ ↦ ?_) (fun _ _ _ _ ↦ .pure _)
    (fun _ _ _ _ ↦ .pure _) (fun _ _ _ _ _ ↦ .pure _) (fun _ _ ↦ .pure _) recording_sinkFree
  refine .bind (.own fun w w' h ↦ ⟨rfl, { h with app := ?_ }, rfl⟩) fun _ ↦ recording_call _
  exact congrArg (· + 1) h.app

theorem sink_makes_no_difference_session :
    let w : World .default Recorded := .cleared ([], 0)
    let r := session w
    let r' := session (recorder.attach w)
    r.val = r'.val ∧ Alike recorder r.state r'.state ∧ r'.val = (.ok, .ok, .ok) ∧
      r.state.app = ([], 1) ∧ r'.state.app.1.length = 5 := by
  intro w r r'
  have hm : SinkFree recorder session :=
    .bind (.register _) fun _ ↦ .bind (eventful_call _) fun _ ↦
      .bind (eventful_call _) fun _ ↦ .pure _
  have hw : Alike recorder w (recorder.attach w) := recorder.alike rfl
  obtain ⟨hval, -, -, -, hstate⟩ := sink_makes_no_difference hm hw
  exact ⟨hval, hstate, by decide +kernel, by decide +kernel, by decide +kernel⟩

end EmbeddedPus
