import EmbeddedPus.Dispatch
import EmbeddedPus.ReturnedStatus
import EmbeddedPus.SinkFree

namespace EmbeddedPus

open CallTrace Buffer ByteOrder

variable {cfg : Config} {A : Type} {cb : Callbacks cfg A}

/-- The objects of the caller that a call writes to, apart from contexts and tables. -/
inductive Outputs
  | nothing
  | buffer (out : Option (List UInt8)) (outLen : Option UInt16)
  | tcHeader (header : Option TcSecHeader)
  | tmHeader (header : Option TmSecHeader)
  | tc (tc : Option TcPacket)
  deriving DecidableEq, Repr

structure Reply where
  st : Status
  outputs : Outputs
  deriving DecidableEq, Repr

def Reply.ofStatus (st : Status) : Reply := ⟨st, .nothing⟩

def Reply.ofWritten (r : Written) : Reply := ⟨r.st, .buffer r.out r.outLen⟩

def Op.reply {α : Type} : Op α → α → Reply
  | .tcProcess .., st => .ofStatus st
  | .handlerInvoke .., st => .ofStatus st
  | .tmBuild .., r => .ofWritten r
  | .service1BuildSuccess .., r => .ofWritten r
  | .service1BuildFailure .., r => .ofWritten r
  | .service1EmitSuccess .., st => .ofStatus st
  | .service1EmitFailure .., st => .ofStatus st
  | .service3EmitHk .., st => .ofStatus st
  | .service3EmitDiag .., st => .ofStatus st
  | .service5Emit .., st => .ofStatus st
  | .service17EmitAliveReport .., st => .ofStatus st
  | .service17EmitConnectionReport .., st => .ofStatus st
  | .service20EmitReport .., st => .ofStatus st

/-- The calls of the library's interface that return a status. -/
inductive ApiCall
  | init (ctx : Option Ptr)
  | initWithConfig (ctx : Option Ptr) (config : Option PusConfig)
  | setTmSink (ctx sink : Option Ptr) (userData : Ptr)
  | tcDecode (data : Option (List UInt8)) (len : UInt16) (tc : Option TcPacket)
  | tcSecHeaderDecode (data : Option (List UInt8)) (len : UInt16) (header : Option TcSecHeader)
  | tcSecHeaderEncode (header : Option TcSecHeader) (b : OutBuf) (outLen : Option UInt16)
  | tmSecHeaderDecode (data : Option (List UInt8)) (len : UInt16) (header : Option TmSecHeader)
  | tmSecHeaderEncode (header : Option TmSecHeader) (b : OutBuf) (outLen : Option UInt16)
  | register (r : RegisterOp)
  | op {α : Type} (o : Op α)

def ApiCall.exec (cb : Callbacks cfg A) : ApiCall → Pus cfg A Reply
  | .init ctx => .ofStatus <$> pusInit ctx
  | .initWithConfig ctx config => .ofStatus <$> pusInitWithConfig ctx config
  | .setTmSink ctx sink ud => .ofStatus <$> pusSetTmSink ctx sink ud
  | .tcDecode data len tc =>
    let r := pusTcDecode data len tc
    pure ⟨r.1, .tc r.2⟩
  | .tcSecHeaderDecode data len header =>
    let r := pusTcSecHeaderDecode data len header
    pure ⟨r.1, .tcHeader r.2⟩
  | .tcSecHeaderEncode header b outLen =>
    pure (.ofWritten (pusTcSecHeaderEncode header b.out b.capacity outLen))
  | .tmSecHeaderDecode data len header =>
    let r := pusTmSecHeaderDecode data len header
    pure ⟨r.1, .tmHeader r.2⟩
  | .tmSecHeaderEncode header b outLen =>
    pure (.ofWritten (pusTmSecHeaderEncode header b.out b.capacity outLen))
  | .register r => .ofStatus <$> r.exec
  | .op o => o.reply <$> o.exec cb

def Op.outputs {α : Type} : Op α → Outputs
  | .tmBuild _ _ _ _ _ _ b outLen => .buffer b.out outLen
  | .service1BuildSuccess _ _ _ b outLen => .buffer b.out outLen
  | .service1BuildFailure _ _ _ _ b outLen => .buffer b.out outLen
  | _ => .nothing

def ApiCall.outputs : ApiCall → Outputs
  | .tcDecode _ _ tc => .tc tc
  | .tcSecHeaderDecode _ _ header => .tcHeader header
  | .tcSecHeaderEncode _ b outLen => .buffer b.out outLen
  | .tmSecHeaderDecode _ _ header => .tmHeader header
  | .tmSecHeaderEncode _ b outLen => .buffer b.out outLen
  | .op o => o.outputs
  | _ => .nothing

def Op.nullArgs {α : Type} : Op α → Bool
  | .tcProcess ctx data _ => ctx.isNone || data.isNone
  | .handlerInvoke ctx _ _ tc => ctx.isNone || tc.isNone
  | .tmBuild ctx _ _ _ _ _ b outLen => ctx.isNone || b.out.isNone || outLen.isNone
  | .service1BuildSuccess ctx tc _ b outLen =>
    ctx.isNone || tc.isNone || b.out.isNone || outLen.isNone
  | .service1BuildFailure ctx tc _ _ b outLen =>
    ctx.isNone || tc.isNone || b.out.isNone || outLen.isNone
  | .service1EmitSuccess ctx tc _ => ctx.isNone || tc.isNone
  | .service1EmitFailure ctx tc _ _ => ctx.isNone || tc.isNone
  | .service3EmitHk ctx s3 _ => ctx.isNone || s3.isNone
  | .service3EmitDiag ctx s3 _ => ctx.isNone || s3.isNone
  | .service5Emit ctx _ _ auxData auxLen => ctx.isNone || (auxLen > 0 && auxData.isNone)
  | .service17EmitAliveReport ctx _ => ctx.isNone
  | .service17EmitConnectionReport ctx _ _ => ctx.isNone
  | .service20EmitReport ctx s20 paramIds _ => ctx.isNone || s20.isNone || paramIds.isNone

def RegisterOp.nullArgs : RegisterOp → Bool
  | .handler ctx _ _ _ _ => ctx.isNone
  | .service3Init s3 => s3.isNone
  | .service3Hk s3 _ provider _ => s3.isNone || provider.isNone
  | .service3Diag s3 _ provider _ => s3.isNone || provider.isNone
  | .service17Handlers ctx => ctx.isNone
  | .service20Init s20 => s20.isNone
  | .service20Param s20 _ _ getter _ _ => s20.isNone || getter.isNone
  | .service20Handlers ctx s20 => ctx.isNone || s20.isNone

def ApiCall.nullArgs : ApiCall → Bool
  | .init ctx => ctx.isNone
  | .initWithConfig ctx config => ctx.isNone || config.isNone
  | .setTmSink ctx _ _ => ctx.isNone
  | .tcDecode data _ tc => data.isNone || tc.isNone
  | .tcSecHeaderDecode data _ header => data.isNone || header.isNone
  | .tcSecHeaderEncode header b outLen => header.isNone || b.out.isNone || outLen.isNone
  | .tmSecHeaderDecode data _ header => data.isNone || header.isNone
  | .tmSecHeaderEncode header b outLen => header.isNone || b.out.isNone || outLen.isNone
  | .register r => r.nullArgs
  | .op o => o.nullArgs

/-- The call returns `PUS_STATUS_NULL` on account of its own arguments: it does so whatever the
callbacks are and whatever state it is made in. -/
def ApiCall.Rejected (cfg : Config) (call : ApiCall) : Prop :=
  ∀ (cb : Callbacks cfg Unit) (w : World cfg Unit), (call.exec cb w).val.st = .null

def ApiCall.Untouched (cb : Callbacks cfg A) (call : ApiCall) (w : World cfg A) : Prop :=
  call.exec cb w = ⟨⟨.null, call.outputs⟩, w, .nil⟩

/-- What a rejected call leaves of the state. Only `pus_init_with_config` does something before it
has looked at all its arguments. -/
def ApiCall.leaves (call : ApiCall) (w : World cfg A) : World cfg A :=
  match call with
  | .initWithConfig (some c) none => w.setCtx c (.zero cfg)
  | _ => w

/-- A call that looks at its arguments before anything else. If one is missing it returns
`PUS_STATUS_NULL` and that is all, and if none is it returns that only when a callback did. -/
structure Checks (cb : Callbacks cfg A) (null : Bool) (outputs : Outputs)
    (m : Pus cfg A Reply) : Prop where
  rejects : null = true → m = pure ⟨.null, outputs⟩
  accepts : null = false → Polite cb → m.Returns fun r ↦ r.st ≠ .null

section Checks

variable {outputs : Outputs} {m : Pus cfg A Reply}

theorem Checks.rejected : Checks cb true outputs (pure ⟨.null, outputs⟩) :=
  ⟨fun _ ↦ rfl, fun h ↦ absurd h.symm Bool.false_ne_true⟩

theorem Checks.accepted (h : Polite cb → m.Returns fun r ↦ r.st ≠ .null) :
    Checks cb false outputs m :=
  ⟨fun hn ↦ absurd hn Bool.false_ne_true, fun _ ↦ h⟩

theorem Op.checks {α : Type} (o : Op α) :
    Checks cb o.nullArgs o.outputs (o.reply <$> o.exec cb) := by
  cases o with
  | tcProcess ctx data len =>
    rcases ctx, data with ⟨- | c, - | d⟩ <;>
      first | exact .rejected | exact .accepted fun h ↦ .map (h.tcProcess _ _)
  | handlerInvoke ctx service subtype tc =>
    rcases ctx, tc with ⟨- | c, - | t⟩ <;>
      first | exact .rejected | exact .accepted fun h ↦ .map (h.handlerInvoke _ _ _)
  | tmBuild ctx service subtype dest payload payloadLen b outLen =>
    obtain ⟨out, capacity, fits⟩ := b
    rcases ctx, out, outLen with ⟨- | c, - | o, - | l⟩ <;>
      first | exact .rejected | exact .accepted fun h ↦ .map (h.tmBuild _ _ _ _ _ _ _ _)
  | service1BuildSuccess ctx tc subtype b outLen =>
    obtain ⟨out, capacity, fits⟩ := b
    rcases ctx, tc, out, outLen with ⟨- | c, - | t, - | o, - | l⟩ <;>
      first | exact .rejected | exact .accepted fun _ ↦ .map buildReport_ne_null
  | service1BuildFailure ctx tc subtype code b outLen =>
    obtain ⟨out, capacity, fits⟩ := b
    rcases ctx, tc, out, outLen with ⟨- | c, - | t, - | o, - | l⟩ <;>
      first | exact .rejected | exact .accepted fun _ ↦ .map buildReport_ne_null
  | service1EmitSuccess ctx tc subtype =>
    rcases ctx, tc with ⟨- | c, - | t⟩ <;>
      first | exact .rejected | exact .accepted fun h ↦ .map (h.emitSuccess _ _)
  | service1EmitFailure ctx tc subtype code =>
    rcases ctx, tc with ⟨- | c, - | t⟩ <;>
      first | exact .rejected | exact .accepted fun h ↦ .map (h.emitFailure _ _ _)
  | service3EmitHk ctx s3 sid =>
    rcases ctx, s3 with ⟨- | c, - | s⟩ <;>
      first | exact .rejected | exact .accepted fun h ↦ .map (h.emitReport _ _)
  | service3EmitDiag ctx s3 sid =>
    rcases ctx, s3 with ⟨- | c, - | s⟩ <;>
      first | exact .rejected | exact .accepted fun h ↦ .map (h.emitReport _ _)
  | service5Emit ctx subtype eventId auxData auxLen =>
    rcases ctx with - | c
    · exact .rejected
    have hnull : (Op.service5Emit (some c) subtype eventId auxData auxLen).nullArgs = true ↔
        auxLen > 0 ∧ auxData = none := by simp [Op.nullArgs]
    constructor
    · intro hn
      simp only [Op.exec, pusService5Emit, if_pos (hnull.mp hn)]
      rfl
    · intro hn h
      refine .map (h.service5Emit subtype eventId fun ha ↦ ?_)
      exact Bool.false_ne_true (hn.symm.trans (hnull.mpr ha))
  | service17EmitAliveReport ctx dest =>
    rcases ctx with - | c
    · exact .rejected
    · exact .accepted fun h ↦ .map (h.buildAndEmit _ _ _ _)
  | service17EmitConnectionReport ctx apid dest =>
    rcases ctx with - | c
    · exact .rejected
    · exact .accepted fun h ↦ .map (h.buildAndEmit _ _ _ _)
  | service20EmitReport ctx s20 paramIds count =>
    rcases ctx, s20, paramIds with ⟨- | c, - | s, - | ids⟩ <;>
      first | exact .rejected | exact .accepted fun h ↦ .map (h.service20EmitReport _ _)

theorem RegisterOp.checks (r : RegisterOp) :
    Checks cb r.nullArgs .nothing (Reply.ofStatus <$> r.exec) := by
  cases r with
  | handler ctx service subtype f ud =>
    rcases ctx with - | c
    · exact .rejected
    · exact .accepted fun _ ↦ .map (handlerRegister_ne_null _ _ _ _ _)
  | service3Init s3 =>
    rcases s3 with - | s
    · exact .rejected
    · exact .accepted fun _ ↦ .map (.seq fun _ ↦ .pure Status.noConfusion)
  | service3Hk s3 sid provider ud =>
    rcases s3, provider with ⟨- | s, - | p⟩ <;>
      first | exact .rejected | exact .accepted fun _ ↦ .map (registerStructure_ne_null _ _ _ _ _)
  | service3Diag s3 sid provider ud =>
    rcases s3, provider with ⟨- | s, - | p⟩ <;>
      first | exact .rejected | exact .accepted fun _ ↦ .map (registerStructure_ne_null _ _ _ _ _)
  | service17Handlers ctx =>
    rcases ctx with - | c
    · exact .rejected
    · exact .accepted fun _ ↦ .map (registerTwo_ne_null _ _ _ _ _ _ _)
  | service20Init s20 =>
    rcases s20 with - | s
    · exact .rejected
    · exact .accepted fun _ ↦ .map (.seq fun _ ↦ .pure Status.noConfusion)
  | service20Param s20 pid valueLen getter setter ud =>
    rcases s20, getter with ⟨- | s, - | g⟩ <;>
      first | exact .rejected | exact .accepted fun _ ↦ .map (registerParam_ne_null _ _ _ _ _ _)
  | service20Handlers ctx s20 =>
    rcases ctx, s20 with ⟨- | c, - | s⟩ <;>
      first | exact .rejected | exact .accepted fun _ ↦ .map (registerTwo_ne_null _ _ _ _ _ _ _)

end Checks

namespace ApiCall

theorem checks (call : ApiCall) (hi : ∀ c, call ≠ .initWithConfig (some c) none) :
    Checks cb call.nullArgs call.outputs (call.exec cb) := by
  cases call with
  | init ctx =>
    rcases ctx with - | c
    · exact .rejected
    · exact .accepted fun _ ↦ .map (pusInit_ne_null c)
  | initWithConfig ctx config =>
    rcases ctx, config with ⟨- | c, - | k⟩
    · exact .rejected
    · exact .rejected
    · exact absurd rfl (hi c)
    · exact .accepted fun _ ↦ .map (.bind (pusInit_ne_null c) fun _ hst ↦
        .ite (fun _ ↦ .pure hst) fun _ ↦ .seq fun _ ↦ .seq fun _ ↦ .pure Status.noConfusion)
  | setTmSink ctx sink ud =>
    rcases ctx with - | c
    · exact .rejected
    · exact .accepted fun _ ↦ .map (.seq fun _ ↦ .seq fun _ ↦ .pure Status.noConfusion)
  | tcDecode data len tc =>
    rcases data, tc with ⟨- | d, - | t⟩ <;>
      first | exact .rejected | exact .accepted fun _ ↦ .pure (pusTcDecode_ne_null _ _ _)
  | tcSecHeaderDecode data len header =>
    rcases data, header with ⟨- | d, - | k⟩ <;>
      first | exact .rejected | exact .accepted fun _ ↦ .pure (pusTcSecHeaderDecode_ne_null _ _ _)
  | tcSecHeaderEncode header b outLen =>
    obtain ⟨out, capacity, fits⟩ := b
    rcases header, out, outLen with ⟨- | k, - | o, - | l⟩ <;>
      first | exact .rejected | exact .accepted fun _ ↦ .pure (pusTcSecHeaderEncode_ne_null _ _ _ _)
  | tmSecHeaderDecode data len header =>
    rcases data, header with ⟨- | d, - | k⟩ <;>
      first | exact .rejected | exact .accepted fun _ ↦ .pure (pusTmSecHeaderDecode_ne_null _ _ _)
  | tmSecHeaderEncode header b outLen =>
    obtain ⟨out, capacity, fits⟩ := b
    rcases header, out, outLen with ⟨- | k, - | o, - | l⟩ <;>
      first | exact .rejected | exact .accepted fun _ ↦ .pure (pusTmSecHeaderEncode_ne_null _ _ _ _)
  | register r => exact r.checks
  | op o => exact o.checks

theorem leaves_eq_self_iff (call : ApiCall) (w : World cfg A) :
    call.leaves w = w ↔ ∀ c, call = .initWithConfig (some c) none → w.ctx c = .zero cfg := by
  unfold leaves
  split
  · rename_i c
    rw [World.setCtx_eq_self_iff]
    constructor
    · rintro h c' ⟨⟩
      exact h
    · intro h
      exact h c rfl
  · rename_i hne
    exact ⟨fun _ c hc ↦ (hne c hc).elim, fun _ ↦ rfl⟩

theorem exec_null (call : ApiCall) (h : call.nullArgs = true) (w : World cfg A) :
    call.exec cb w = ⟨⟨.null, call.outputs⟩, call.leaves w, .nil⟩ := by
  by_cases hi : ∃ c, call = .initWithConfig (some c) none
  · obtain ⟨c, rfl⟩ := hi
    rfl
  · have hi' : ∀ c, call ≠ .initWithConfig (some c) none := not_exists.mp hi
    have hl : call.leaves w = w :=
      (call.leaves_eq_self_iff w).mpr fun c hc ↦ absurd hc (hi' c)
    rw [(call.checks hi').rejects h, hl]
    rfl

theorem rejected_iff (cfg : Config) (call : ApiCall) :
    call.Rejected cfg ↔ call.nullArgs = true := by
  constructor
  · intro h
    by_contra hn
    have hi : ∀ c, call ≠ .initWithConfig (some c) none := by
      rintro c rfl
      exact hn rfl
    have hc : Checks (.quiet : Callbacks cfg Unit) _ _ _ := call.checks hi
    exact hc.accepts (Bool.eq_false_iff.mpr hn) .quiet (.cleared ()) (h .quiet (.cleared ()))
  · intro h cb w
    rw [call.exec_null h]

theorem untouched_iff (call : ApiCall) (hc : call.nullArgs = true) (w : World cfg A) :
    call.Untouched cb w ↔ ∀ c, call = .initWithConfig (some c) none → w.ctx c = .zero cfg := by
  rw [Untouched, call.exec_null hc, ← leaves_eq_self_iff]
  constructor
  · intro h
    exact congrArg Outcome.state h
  · intro h
    rw [h]

end ApiCall

def runCalls (cb : Callbacks cfg A) : List ApiCall → Pus cfg A Unit
  | [] => pure ()
  | call :: calls => do
    let _ ← call.exec cb
    runCalls cb calls

theorem runCalls_cons (call : ApiCall) (calls : List ApiCall) (w : World cfg A) :
    runCalls cb (call :: calls) w =
      ⟨(), (runCalls cb calls (call.exec cb w).state).state,
        (call.exec cb w).trace ++ (runCalls cb calls (call.exec cb w).state).trace⟩ := rfl

/-- No call of the run from `w` is `pus_init_with_config` without a configuration on a context in
use. -/
inductive Spares (cb : Callbacks cfg A) : List ApiCall → World cfg A → Prop
  | nil (w : World cfg A) : Spares cb [] w
  | cons {call : ApiCall} {calls : List ApiCall} {w : World cfg A}
      (hc : ∀ c, call = .initWithConfig (some c) none → w.ctx c = .zero cfg)
      (h : Spares cb calls (call.exec cb w).state) : Spares cb (call :: calls) w

theorem Spares.runCalls {calls : List ApiCall} {w : World cfg A} (h : Spares cb calls w) :
    runCalls cb calls w = runCalls cb (calls.filter fun call ↦ !call.nullArgs) w := by
  induction h with
  | nil w => rfl
  | @cons call calls w hc _ ih =>
    cases hn : call.nullArgs with
    | true =>
      have hu : call.exec cb w = _ := (call.untouched_iff hn w).mpr hc
      rw [hu] at ih
      rw [runCalls_cons, hu, List.filter_cons_of_neg (by simp [hn])]
      exact ih
    | false =>
      rw [List.filter_cons_of_pos (by simp [hn]), runCalls_cons, runCalls_cons, ih]

theorem Spares.reached {pre post : List ApiCall} {call : ApiCall} {w : World cfg A}
    (h : Spares cb (pre ++ call :: post) w) :
    ∀ c, call = .initWithConfig (some c) none →
      ((EmbeddedPus.runCalls cb pre w).state.ctx c) = .zero cfg := by
  induction pre generalizing w with
  | nil =>
    cases h with
    | cons hc _ => exact hc
  | cons first pre ih =>
    cases h with
    | cons _ h => exact ih h

/-- A call rejected for a `NULL` argument does nothing, except that `pus_init_with_config` has
cleared the context by the time it looks at the configuration. In a run that keeps clear of this
every rejected call does nothing, and the run goes as it would without them. -/
theorem null_arguments_noop_iff (cb : Callbacks cfg A) :
    (∀ call : ApiCall, call.Rejected cfg ↔ call.nullArgs = true) ∧
    (∀ (call : ApiCall) (w : World cfg A), call.Rejected cfg →
      (call.Untouched cb w ↔
        ∀ c, call = .initWithConfig (some c) none → w.ctx c = .zero cfg)) ∧
    (∀ (calls : List ApiCall) (w : World cfg A), Spares cb calls w →
      (∀ pre call post, calls = pre ++ call :: post → call.Rejected cfg →
        call.Untouched cb (runCalls cb pre w).state) ∧
      runCalls cb calls w = runCalls cb (calls.filter fun call ↦ !call.nullArgs) w) := by
  refine ⟨fun call ↦ call.rejected_iff cfg, fun call w hr ↦ ?_, fun calls w hs ↦ ⟨?_, ?_⟩⟩
  · exact call.untouched_iff ((call.rejected_iff cfg).mp hr) w
  · rintro pre call post rfl hr
    exact (call.untouched_iff ((call.rejected_iff cfg).mp hr) _).mpr hs.reached
  · exact hs.runCalls

/-- A TC without data and a packet without a buffer, between two TCs for a context in use. -/
theorem null_arguments_noop_iff_no_data :
    let received : ApiCall :=
      .op (.tcProcess (some 0) (some [0x11, 128, 1, 0, 3, 0, 0, 0, 0, 0]) 10)
    let noData : ApiCall := .op (.tcProcess (some 0) none 10)
    let noOut : ApiCall := .op (.tmBuild (some 0) 17 2 3 none 0 ⟨none, 12, nofun⟩ (some 0))
    let w := (runCalls failing [received] oneHandlerSink).state
    ((w.ctx 0).tmCounter = 1 ∧ (w.ctx 0).handlerTable.lookup 128 1 = some (.user 5, 9)) ∧
      noData.Untouched failing w ∧ noOut.Untouched failing w ∧
      runCalls failing [received, noData, noOut, received] oneHandlerSink =
        runCalls failing [received, received] oneHandlerSink := by
  intro received noData noOut w
  obtain ⟨hiff, hone, hrun⟩ := null_arguments_noop_iff failing
  have hspares : Spares failing [received, noData, noOut, received] oneHandlerSink :=
    .cons nofun (.cons nofun (.cons nofun (.cons nofun (.nil _))))
  obtain ⟨hnoop, hruns⟩ := hrun _ _ hspares
  exact ⟨by decide, hnoop [received] noData [noOut, received] rfl ((hiff noData).mpr rfl),
    (hone noOut w ((hiff noOut).mpr rfl)).mpr nofun, hruns⟩

theorem missing_config_clears_context :
    let call : ApiCall := .initWithConfig (some 0) none
    oneHandlerSink = (runCalls .quiet
      [.register (.handler (some 0) 128 1 (some (.user 5)) 9), .setTmSink (some 0) (some 1) 0]
      (.cleared ())).state ∧
    call.Rejected .default ∧ ¬ call.Untouched .quiet oneHandlerSink ∧
    (oneHandlerSink.ctx 0).handlerTable.lookup 128 1 = some (.user 5, 9) ∧
    (oneHandlerSink.ctx 0).tmSink = some 1 ∧
    ((call.exec .quiet oneHandlerSink).state.ctx 0).handlerTable.lookup 128 1 = none ∧
    ((call.exec .quiet oneHandlerSink).state.ctx 0).tmSink = none := by
  intro call
  have hbefore : (oneHandlerSink.ctx 0).tmSink = some 1 := by decide
  have hafter : ((call.exec .quiet oneHandlerSink).state.ctx 0).tmSink = none := by decide
  refine ⟨rfl, fun _ _ ↦ rfl, fun h ↦ ?_, by decide, hbefore, by decide, hafter⟩
  have hstate : (call.exec .quiet oneHandlerSink).state = oneHandlerSink :=
    congrArg Outcome.state h
  rw [hstate, hbefore] at hafter
  cases hafter

end EmbeddedPus
