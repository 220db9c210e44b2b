import EmbeddedPus.ApplicationRun
import EmbeddedPus.RegisteredData
import EmbeddedPus.RegisterHandlers

namespace EmbeddedPus

open CallTrace ByteOrder Function SlotTable

variable {cfg : Config} {A S : Type}

/-- What is registered: the handlers of a context, and the structures and parameters of each ST[03]
and ST[20] table. -/
structure Registry where
  handlers : Dispatch
  structures : Ptr → HkMap
  parameters : Ptr → ParamMap

structure Meaning (S : Type) where
  handler : Ptr → Ptr → Request → Spec S Report Status
  provided : UInt16 × UInt8 → Ptr × Ptr → Spec S Report (Except Status (List UInt8))
  parameter : UInt16 → ParamData → Parameter S

inductive Enrolment
  | handler (r : RegisterCall)
  | service17Handlers
  | service20Handlers (s : Ptr)
  | service3Init (s : Ptr)
  | service3Structure (s : Ptr) (r : HkCall)
  | service20Init (s : Ptr)
  | service20Param (s : Ptr) (r : ParamCall)

def Enrolment.exec (c : Ptr) : Enrolment → Pus cfg A Status
  | handler r => pusHandlerRegister (some c) r.service r.subtype r.handler r.userData
  | service17Handlers => pusService17RegisterHandlers (some c)
  | service20Handlers s => pusService20RegisterHandlers (some c) (some s)
  | service3Init s => pusService3Init (some s)
  | service3Structure s r => r.exec s
  | service20Init s => pusService20Init (some s)
  | service20Param s r => r.exec s

def Dispatch.registerTwo (n : ℕ) (m : Dispatch) (service subtype₁ subtype₂ : UInt8)
    (handler₁ handler₂ : TcHandler) (userData : Ptr) : Status × Dispatch :=
  let q := m.register n ⟨service, subtype₁, some handler₁, userData⟩
  if q.1 ≠ .ok then q else q.2.register n ⟨service, subtype₂, some handler₂, userData⟩

namespace Registry

variable (g : Registry)

def withHandlers (q : Status × Dispatch) : Status × Registry := (q.1, { g with handlers := q.2 })

variable (cfg) in
def enrol : Enrolment → Status × Registry
  | .handler r => g.withHandlers (g.handlers.register cfg.maxTcHandlers r)
  | .service17Handlers =>
    g.withHandlers (g.handlers.registerTwo cfg.maxTcHandlers 17 1 3 .handleTc17_1 .handleTc17_3 0)
  | .service20Handlers s =>
    g.withHandlers (g.handlers.registerTwo cfg.maxTcHandlers 20 1 3 .handleTc20_1 .handleTc20_3 s)
  | .service3Init s => (.ok, { g with structures := update g.structures s ∅ })
  | .service3Structure s r =>
    let q := put cfg.service3MaxStructures (g.structures s) r.key r.val
    (q.1, { g with structures := update g.structures s q.2 })
  | .service20Init s => (.ok, { g with parameters := update g.parameters s ∅ })
  | .service20Param s r =>
    let q := put cfg.service20MaxParams (g.parameters s) r.paramId r.val
    (q.1, { g with parameters := update g.parameters s q.2 })

end Registry

/-- An application of the library: its callbacks, its context as it is configured, its ST[03] and
ST[20] tables, how its data shows a state, what its functions are there for, and how long a value of
a parameter may be. -/
structure Application (cfg : Config) (A S : Type) where
  cb : Callbacks cfg A
  ctx : Ptr
  config : Context cfg
  structureTables : Set Ptr
  parameterTables : Set Ptr
  shows : A → S → Prop
  meaning : Meaning S
  maxLength : ℕ

inductive LifeStep
  | enrolment (e : Enrolment)
  | activity (a : Activity)

namespace Application

variable (P : Application cfg A S)

def services (g : Registry) : Services S where
  dispatch := g.handlers
  user := P.meaning.handler
  structureTables := P.structureTables
  structures s key := ((g.structures s).lookup key).map (P.meaning.provided key)
  parameterTables := P.parameterTables
  parameters s pid := ((g.parameters s).lookup pid).map (P.meaning.parameter pid)
  destination := P.config.defaultDestinationId

def exec : LifeStep → Pus cfg A Status
  | .enrolment e => e.exec P.ctx
  | .activity a => a.exec P.cb P.ctx

def perform : LifeStep → Spec (Registry × S) Report Status
  | .enrolment e => fun y ↦
    let q := y.1.enrol cfg e
    ⟨q.1, (q.2, y.2), .nil⟩
  | .activity a => fun y ↦
    let q := (P.services y.1).perform cfg a y.2
    ⟨q.val, (y.1, q.state), q.trace⟩

/-- The worlds that show a state while `g` is registered, the handlers in the table `t`. -/
structure Holds (t : HandlerTable cfg.maxTcHandlers) (g : Registry) (w : World cfg A) (x : S) :
    Prop where
  app : P.shows w.app x
  context : w.ctx P.ctx = { P.config with
    handlerTable := t, tmCounter := (w.ctx P.ctx).tmCounter }
  structures : ∀ s ∈ P.structureTables, Refines (hkView s w) (g.structures s)
  parameters : ∀ s ∈ P.parameterTables, Refines (paramView s w) (g.parameters s)

def Handles (ud : Ptr) : TcHandler → Prop
  | .handleTc17_1 | .handleTc17_3 => True
  | .handleTc20_1 | .handleTc20_3 => ud ∈ P.parameterTables
  | .user f => ∀ t g tc, tc.payloadLen.toNat ≤ tc.payload.length →
      (P.cb.handler f P.ctx tc ud).Refines (downlink P.ctx) (P.Holds t g) Eq
        (P.meaning.handler f ud (.ofTc tc))

def Provides (key : UInt16 × UInt8) (e : Ptr × Ptr) : Prop :=
  ∀ t g, (P.cb.provider e.1 key.1 (offered cfg) e.2).Refines (downlink P.ctx) (P.Holds t g)
    (Provided.Yields cfg) (P.meaning.provided key e)

def Keeps (pid : UInt16) (e : ParamData) : Prop :=
  e.valueLen.toNat ≤ P.maxLength ∧
    ∀ t g, Realizes (downlink P.ctx) (P.Holds t g) P.cb pid e (P.meaning.parameter pid e)

/-- What is registered does what it is there for. -/
structure Admits (g : Registry) : Prop where
  handlers : ∀ {pair h ud}, g.handlers.lookup pair = some (h, ud) → P.Handles ud h
  structures : ∀ s key e, (g.structures s).lookup key = some e → P.Provides key e
  parameters : ∀ s pid e, (g.parameters s).lookup pid = some e → P.Keeps pid e

/-- Only functions that do what they are there for are registered, and in the tables of the
application. -/
def Proper : LifeStep → Prop
  | .enrolment (.handler r) => ∀ h, r.handler = some h → P.Handles r.userData h
  | .enrolment (.service20Handlers s) => s ∈ P.parameterTables
  | .enrolment (.service3Structure s r) =>
    s ∈ P.structureTables ∧ ∀ e, r.val = some e → P.Provides r.key e
  | .enrolment (.service20Param s r) =>
    s ∈ P.parameterTables ∧ ∀ e, r.val = some e → P.Keeps r.paramId e
  | .enrolment _ => True
  | .activity a => ∀ g, P.Admits g → a.Sound (P.services g)

/-- The time source, and a sink that takes every packet, leave the context, the tables and what is
shown alone. -/
structure Outputs : Prop where
  timeSource : ∀ {f} w x, P.config.timeSource = some f → P.shows w.app x →
    let r := P.cb.timeSource f P.config.timeSourceUserData w
    P.shows r.state.app x ∧ r.state.ctx P.ctx = w.ctx P.ctx ∧ r.state.s3 = w.s3 ∧
      r.state.s20 = w.s20
  tmSink : ∀ {f} w x data, P.config.tmSink = some f → P.shows w.app x →
    let r := P.cb.tmSink f P.config.tmSinkUserData data w
    r.val = .ok ∧ P.shows r.state.app x ∧ r.state.ctx P.ctx = w.ctx P.ctx ∧ r.state.s3 = w.s3 ∧
      r.state.s20 = w.s20

end Application

/-- Reports are delivered in packets numbered on from the counter of `c`, and all else that this
leaves in the context is the handlers. -/
def Relayed (c : Ptr) (w : World cfg A) (t : History cfg) (w' : World cfg A) (rs : List Report) :
    Prop :=
  (∃ ps, Carries (w.ctx c).tmCounter rs ps ∧
    downlinked c t = ps.flatMap fun bytes ↦ (w.ctx c).deliver c bytes .ok) ∧
  w'.ctx c = { w.ctx c with
    handlerTable := (w'.ctx c).handlerTable
    tmCounter := (w.ctx c).tmCounter + UInt16.ofNat rs.length }

theorem Relayed.append {c : Ptr} {w w' w'' : World cfg A} {t t' : History cfg}
    {rs rs' : List Report} (h : Relayed c w t w' rs) (h' : Relayed c w' t' w'' rs') :
    Relayed c w (t ++ t') w'' (rs ++ rs') := by
  obtain ⟨⟨ps, hps, hs⟩, hk⟩ := h
  obtain ⟨⟨ps', hps', hs'⟩, hk'⟩ := h'
  have hd (bytes : List UInt8) : (w'.ctx c).deliver c bytes .ok =
      (w.ctx c).deliver c bytes .ok := by
    rw [hk]
    rfl
  rw [hk] at hps'
  refine ⟨⟨ps ++ ps', hps.append hps', ?_⟩, ?_⟩
  · simp only [downlinked_append, hs, hs', hd, List.flatMap_append]
  · rw [hk', hk, List.length_append, UInt16.ofNat_add, UInt16.add_assoc]

def relay (c : Ptr) : Account (World cfg A) Act (Call cfg) Report where
  holds := Relayed c
  nil w := (downlink c).nil w
  append := Relayed.append

theorem relay_of_downlink {c : Ptr} {w w' : World cfg A} {t : History cfg} {rs : List Report}
    (h : (downlink c).holds w t w' rs) : (relay c).holds w t w' rs := by
  obtain ⟨hsent, hk⟩ := h
  exact ⟨hsent, by rw [hk]⟩

section Registering

theorem Dispatch.register_forall {Q : Ptr → TcHandler → Prop} {n : ℕ} {m : Dispatch}
    (hm : ∀ {pair h ud}, m.lookup pair = some (h, ud) → Q ud h) (r : RegisterCall)
    (hr : ∀ h, r.handler = some h → Q r.userData h) {pair : UInt8 × UInt8} {h : TcHandler}
    {ud : Ptr} (hl : (m.register n r).2.lookup pair = some (h, ud)) : Q ud h := by
  obtain ⟨service, subtype, handler, userData⟩ := r
  cases handler with
  | some f =>
    simp only [Dispatch.register] at hl
    split at hl
    · by_cases hp : pair = (service, subtype)
      · rw [hp, Finmap.lookup_insert] at hl
        cases hl
        exact hr h rfl
      · rw [Finmap.lookup_insert_of_ne _ hp] at hl
        exact hm hl
    · exact hm hl
  | none =>
    simp only [Dispatch.register] at hl
    split at hl
    · by_cases hp : pair = (service, subtype)
      · rw [hp, Finmap.lookup_erase] at hl
        cases hl
      · rw [Finmap.lookup_erase_ne hp] at hl
        exact hm hl
    · exact hm hl

theorem Dispatch.registerTwo_forall {Q : Ptr → TcHandler → Prop} {n : ℕ} {m : Dispatch}
    (hm : ∀ {pair h ud}, m.lookup pair = some (h, ud) → Q ud h) {service subtype₁ subtype₂ : UInt8}
    {handler₁ handler₂ : TcHandler} {userData : Ptr} (h₁ : Q userData handler₁)
    (h₂ : Q userData handler₂) {pair : UInt8 × UInt8} {h : TcHandler} {ud : Ptr}
    (hl : (m.registerTwo n service subtype₁ subtype₂ handler₁ handler₂ userData).2.lookup pair =
      some (h, ud)) : Q ud h := by
  have hfirst {pair : UInt8 × UInt8} {h : TcHandler} {ud : Ptr} (hl : (m.register n
      ⟨service, subtype₁, some handler₁, userData⟩).2.lookup pair = some (h, ud)) : Q ud h :=
    Dispatch.register_forall hm _ (fun _ he ↦ Option.some.inj he ▸ h₁) hl
  rw [Dispatch.registerTwo] at hl
  split at hl
  · exact hfirst hl
  · exact Dispatch.register_forall hfirst _ (fun _ he ↦ Option.some.inj he ▸ h₂) hl

theorem registerTwo_refines {n : ℕ} {t : HandlerTable n} {m : Dispatch} (h : Refines t.slots m)
    (service subtype₁ subtype₂ : UInt8) (handler₁ handler₂ : TcHandler) (userData : Ptr) :
    let q := t.registerTwo service subtype₁ subtype₂ handler₁ handler₂ userData
    let p := m.registerTwo n service subtype₁ subtype₂ handler₁ handler₂ userData
    q.1 = p.1 ∧ Refines q.2.slots p.2 := by
  obtain ⟨hst, href, -⟩ := register_refines h ⟨service, subtype₁, some handler₁, userData⟩
  intro q p
  simp only [q, p, HandlerTable.registerTwo, Dispatch.registerTwo, hst]
  split
  · exact ⟨hst, href⟩
  · obtain ⟨hst', href', -⟩ := register_refines href ⟨service, subtype₂, some handler₂, userData⟩
    exact ⟨hst', href'⟩

theorem registerTwo_eq (c : Ptr) (service subtype₁ subtype₂ : UInt8)
    (handler₁ handler₂ : TcHandler) (userData : Ptr) (w : World cfg A) :
    registerTwo c service subtype₁ subtype₂ handler₁ handler₂ userData w =
      let q := (w.ctx c).handlerTable.registerTwo service subtype₁ subtype₂ handler₁ handler₂
        userData
      ⟨q.1, w.setCtx c { w.ctx c with handlerTable := q.2 }, .nil⟩ := by
  rw [registerTwo, Prog.bind_apply, pusHandlerRegister_apply, HandlerTable.registerTwo]
  by_cases hst :
      ((w.ctx c).handlerTable.register service subtype₁ (some handler₁) userData).1 = .ok
  · simp only [hst, ne_eq, not_true_eq_false, if_false, pusHandlerRegister_apply,
      World.setCtx_ctx, World.setCtx_setCtx, Trace.nil_append]
  · simp only [hst, ne_eq, not_false_eq_true, if_true, Prog.pure_apply, Trace.nil_append]

end Registering

namespace Application

variable {P : Application cfg A S} {t : HandlerTable cfg.maxTcHandlers} {g : Registry}

theorem Admits.setHandlers (hg : P.Admits g) {m : Dispatch}
    (hm : ∀ {pair h ud}, m.lookup pair = some (h, ud) → P.Handles ud h) :
    P.Admits { g with handlers := m } :=
  ⟨hm, hg.structures, hg.parameters⟩

theorem Admits.setStructures (hg : P.Admits g) (s : Ptr) {m : HkMap}
    (hm : ∀ key e, m.lookup key = some e → P.Provides key e) :
    P.Admits { g with structures := update g.structures s m } :=
  ⟨hg.handlers, (forall_update_iff g.structures fun _ m ↦ ∀ key e, m.lookup key = some e →
    P.Provides key e).mpr ⟨hm, fun s _ ↦ hg.structures s⟩, hg.parameters⟩

theorem Admits.setParameters (hg : P.Admits g) (s : Ptr) {m : ParamMap}
    (hm : ∀ pid e, m.lookup pid = some e → P.Keeps pid e) :
    P.Admits { g with parameters := update g.parameters s m } :=
  ⟨hg.handlers, hg.structures, (forall_update_iff g.parameters fun _ m ↦ ∀ pid e,
    m.lookup pid = some e → P.Keeps pid e).mpr ⟨hm, fun s _ ↦ hg.parameters s⟩⟩

theorem Admits.enrol (hg : P.Admits g) (e : Enrolment) (he : P.Proper (.enrolment e)) :
    P.Admits (g.enrol cfg e).2 := by
  cases e with
  | handler r => exact hg.setHandlers (Dispatch.register_forall hg.handlers r he)
  | service17Handlers =>
    exact hg.setHandlers (Dispatch.registerTwo_forall hg.handlers
      (show P.Handles 0 .handleTc17_1 from trivial) (show P.Handles 0 .handleTc17_3 from trivial))
  | service20Handlers s =>
    exact hg.setHandlers (Dispatch.registerTwo_forall hg.handlers
      (show P.Handles s .handleTc20_1 from he) (show P.Handles s .handleTc20_3 from he))
  | service3Init s => exact hg.setStructures s fun _ _ hl ↦ nomatch hl
  | service3Structure s r => exact hg.setStructures s (put_forall (hg.structures s) he.2)
  | service20Init s => exact hg.setParameters s fun _ _ hl ↦ nomatch hl
  | service20Param s r => exact hg.setParameters s (put_forall (hg.parameters s) he.2)

variable (P) in
def Shown (w : World cfg A) (y : Registry × S) : Prop :=
  P.Admits y.1 ∧ ∃ t, Refines t.slots y.1.handlers ∧ P.Holds t y.1 w y.2

section Enrolling

variable {w : World cfg A} {x : S}

theorem Holds.setHandlers (hw : P.Holds t g w x) (t' : HandlerTable cfg.maxTcHandlers)
    (m : Dispatch) : P.Holds t' { g with handlers := m }
      (w.setCtx P.ctx { w.ctx P.ctx with handlerTable := t' }) x where
  app := hw.app
  context := by rw [World.setCtx_ctx, hw.context]
  structures := hw.structures
  parameters := hw.parameters

theorem Holds.setStructures (hw : P.Holds t g w x) (s : Ptr) {t' : Service3Ctx cfg} {m : HkMap}
    (hm : s ∈ P.structureTables → Refines (hkLayout.slots t') m) :
    P.Holds t { g with structures := update g.structures s m }
      { w with s3 := update w.s3 s t' } x where
  app := hw.app
  context := hw.context
  structures s' hs := by
    by_cases he : s' = s
    · subst he
      simp only [hkView, update_self]
      exact hm hs
    · simp only [hkView, update_of_ne he]
      exact hw.structures s' hs
  parameters := hw.parameters

theorem Holds.setParameters (hw : P.Holds t g w x) (s : Ptr) {t' : Service20Ctx cfg} {m : ParamMap}
    (hm : s ∈ P.parameterTables → Refines (paramLayout.slots t') m) :
    P.Holds t { g with parameters := update g.parameters s m }
      { w with s20 := update w.s20 s t' } x where
  app := hw.app
  context := hw.context
  structures := hw.structures
  parameters s' hs := by
    by_cases he : s' = s
    · subst he
      simp only [paramView, update_self]
      exact hm hs
    · simp only [paramView, update_of_ne he]
      exact hw.parameters s' hs

/-- An enrolment does to the tables what it does to the maps, and nothing else. -/
theorem Holds.enrol (hw : P.Holds t g w x) (ht : Refines t.slots g.handlers) (e : Enrolment)
    (he : P.Proper (.enrolment e)) :
    ∃ w' t', e.exec P.ctx w = ⟨(g.enrol cfg e).1, w', .nil⟩ ∧
      Refines t'.slots (g.enrol cfg e).2.handlers ∧ P.Holds t' (g.enrol cfg e).2 w' x ∧
      (w'.ctx P.ctx).tmCounter = (w.ctx P.ctx).tmCounter := by
  have htable : (w.ctx P.ctx).handlerTable = t := by rw [hw.context]
  have htwo (service subtype₁ subtype₂ : UInt8) (handler₁ handler₂ : TcHandler) (userData : Ptr) :
      let q := g.withHandlers (g.handlers.registerTwo cfg.maxTcHandlers service subtype₁ subtype₂
        handler₁ handler₂ userData)
      ∃ w' t', registerTwo P.ctx service subtype₁ subtype₂ handler₁ handler₂ userData w =
          ⟨q.1, w', .nil⟩ ∧ Refines t'.slots q.2.handlers ∧ P.Holds t' q.2 w' x ∧
          (w'.ctx P.ctx).tmCounter = (w.ctx P.ctx).tmCounter := by
    obtain ⟨hst, href⟩ :=
      registerTwo_refines ht service subtype₁ subtype₂ handler₁ handler₂ userData
    rw [registerTwo_eq, htable]
    exact ⟨_, _, congrArg (Outcome.mk · _ _) hst, href, hw.setHandlers _ _,
      by rw [World.setCtx_ctx]⟩
  cases e with
  | handler r =>
    obtain ⟨hst, href, -⟩ := register_refines ht r
    rw [Enrolment.exec, pusHandlerRegister_apply, htable]
    exact ⟨_, _, congrArg (Outcome.mk · _ _) hst, href, hw.setHandlers _ _,
      by rw [World.setCtx_ctx]⟩
  | service17Handlers => exact htwo 17 1 3 .handleTc17_1 .handleTc17_3 0
  | service20Handlers s => exact htwo 20 1 3 .handleTc20_1 .handleTc20_3 s
  | service3Init s => exact ⟨_, t, rfl, ht, hw.setStructures s fun _ ↦ .empty, rfl⟩
  | service3Structure s r =>
    obtain ⟨hst, href⟩ := (r.registers s).refines w _ (hw.structures s he.1)
    obtain ⟨st, t', hexec⟩ := r.frame s w
    rw [Enrolment.exec, hexec]
    rw [hexec] at hst href
    simp only [hkView, update_self] at hst href
    exact ⟨_, t, congrArg (Outcome.mk · _ _) hst, ht, hw.setStructures s fun _ ↦ href, rfl⟩
  | service20Init s => exact ⟨_, t, rfl, ht, hw.setParameters s fun _ ↦ .empty, rfl⟩
  | service20Param s r =>
    obtain ⟨hst, href⟩ := (r.registers s).refines w _ (hw.parameters s he.1)
    obtain ⟨st, t', hexec⟩ := r.frame s w
    rw [Enrolment.exec, hexec]
    rw [hexec] at hst href
    simp only [paramView, update_self] at hst href
    exact ⟨_, t, congrArg (Outcome.mk · _ _) hst, ht, hw.setParameters s fun _ ↦ href, rfl⟩

end Enrolling

theorem Holds.of_eq {w w' : World cfg A} {x : S} (hw : P.Holds t g w x) (happ : P.shows w'.app x)
    (hctx : w'.ctx P.ctx = w.ctx P.ctx) (hs3 : w'.s3 = w.s3) (hs20 : w'.s20 = w.s20) :
    P.Holds t g w' x where
  app := happ
  context := hctx ▸ hw.context
  structures s hs := by
    rw [hkView, hs3]
    exact hw.structures s hs
  parameters s hs := by
    rw [paramView, hs20]
    exact hw.parameters s hs

theorem Outputs.downlinks (h : P.Outputs) :
    Downlinks (P.Holds t g) P.cb P.ctx { P.config with handlerTable := t } where
  context hw := hw.context
  counter n hw := by
    refine ⟨hw.app, ?_, hw.structures, hw.parameters⟩
    rw [World.setCtx_ctx, hw.context]
  timeSource {f w x} hf hw := by
    obtain ⟨happ, hctx, hs3, hs20⟩ := h.timeSource w x hf hw.app
    exact ⟨hw.of_eq happ hctx hs3 hs20, hctx⟩
  tmSink {f w x} data hf hw := by
    obtain ⟨hval, happ, hctx, hs3, hs20⟩ := h.tmSink w x data hf hw.app
    exact ⟨hval, hw.of_eq happ hctx hs3 hs20, hctx⟩

theorem rel_map {α β : Type} {r : α → β → Prop} {f : α → β} {o : Option α}
    (h : ∀ a, o = some a → r a (f a)) : Option.Rel r o (o.map f) := by
  cases o with
  | none => exact .none
  | some a => exact .some (h a rfl)

theorem Admits.equips (hg : P.Admits g) (ht : Refines t.slots g.handlers)
    (hL : P.maxLength ≤ cfg.maxTmPayloadLen) :
    Equips (downlink P.ctx) (P.Holds t g) P.cb P.ctx t (P.services g) where
  dispatch := ht
  destination hw := by rw [hw.context]; rfl
  user hl tc htc := hg.handlers hl t g tc htc
  parameterHandlers hl hf := by
    have hs := hg.handlers hl
    obtain rfl | rfl := hf
    · exact hs
    · exact hs
  parameters s hs := ⟨g.parameters s, fun hw ↦ hw.parameters s hs, fun pid ↦
    rel_map fun e he ↦ (hg.parameters s pid e he).2 t g⟩
  lengths s pid p hp := by
    obtain ⟨e, he, rfl⟩ := Option.map_eq_some_iff.mp hp
    obtain ⟨hl, hreal⟩ := hg.parameters s pid e he
    rw [← (hreal t g).length]
    exact hl.trans hL
  structures s hs := ⟨g.structures s, fun hw ↦ hw.structures s hs, fun sid kind ↦
    rel_map fun e he ↦ hg.structures s (sid, kind) e he t g⟩

theorem Outputs.step (h : P.Outputs) (hm : 2 ≤ cfg.maxTmPayloadLen)
    (hcfg : cfg.maxTmPayloadLen ≤ 32766) (hL : P.maxLength ≤ cfg.maxTmPayloadLen) (e : LifeStep)
    (he : P.Proper e) : (P.exec e).Refines (relay P.ctx) P.Shown Eq (P.perform e) := by
  rintro w ⟨g, x⟩ ⟨hg, t, ht, hw⟩
  cases e with
  | enrolment e =>
    obtain ⟨w', t', hexec, ht', hw', hcounter⟩ := hw.enrol ht e he
    have hnone : UInt16.ofNat ([] : List Report).length = 0 := rfl
    rw [exec, hexec]
    refine ⟨rfl, ⟨hg.enrol e he, t', ht', hw'⟩, ⟨[], .nil _, rfl⟩, ?_⟩
    rw [perform, Trace.outputs_nil, hnone, hw'.context, hw.context, hcounter]
    simp
  | activity a =>
    have hoffers : Offers (downlink P.ctx) (P.Holds t g) P.cb P.ctx t (P.services g) :=
      ⟨h.downlinks.emits, hg.equips ht hL⟩
    obtain ⟨hval, hstate, hout⟩ := hoffers.exec hm hcfg a (he g hg) w x hw
    exact ⟨hval, ⟨hg, t, ht, hstate⟩, relay_of_downlink hout⟩

end Application

section Computer

open Obc

def Obc.application : Application .default Statics UInt16 where
  cb := callbacks
  ctx := gPus
  config := ⟨fun _ ↦ .zero, 0, obcSourceId, groundDestId, some tmSinkPtr, 0,
    some platformUptimeSecondsPtr, 0⟩
  structureTables := {gS3}
  parameterTables := {gS20}
  shows a mv := a.gBattAlertMv = mv
  meaning :=
    ⟨fun _ _ _ ↦ pure .ok,
      fun _ e ↦ pure (.ok (split16 (if e.1 = hkPowerProviderPtr then 7400 else 235))),
      fun _ _ ↦ threshold⟩
  maxLength := 2

theorem Obc.application_outputs : application.Outputs where
  timeSource _ _ _ happ := ⟨happ, rfl, rfl, rfl⟩
  tmSink _ _ _ _ happ := ⟨rfl, happ, rfl, rfl, rfl⟩

theorem Obc.application_keeps :
    application.Keeps pidBattAlertMv ⟨2, getterBattAlertPtr, some setterBattAlertPtr, 0⟩ := by
  refine ⟨le_rfl, fun t g ↦ ⟨rfl, fun w mv hw ↦ ?_, .some fun value hlen w mv hw ↦ ?_⟩⟩
  · obtain rfl := hw.app
    exact ⟨⟨rfl, rfl, length_split16 _⟩, hw, (downlink gPus).nil w⟩
  · exact ⟨rfl, ⟨rfl, hw.context, hw.structures, hw.parameters⟩, downlink_unconcerned _ w⟩

theorem Obc.application_provides :
    application.Provides (sidThermalHk, 0) (hkThermalProviderPtr, 0) := by
  have hle : (2 : UInt16) ≤ offered .default := by decide
  exact fun t g w mv hw ↦ ⟨⟨⟨rfl, hle⟩, Nat.le_refl 2, rfl⟩, hw, (downlink gPus).nil w⟩

/-- The computer is set up, serves a TC, is left without its handler, and goes on. -/
def Obc.life : List LifeStep :=
  [.enrolment .service17Handlers, .enrolment (.service3Init gS3),
    .enrolment (.service3Structure gS3 ⟨false, sidThermalHk, some hkThermalProviderPtr, 0⟩),
    .enrolment (.service20Init gS20),
    .enrolment (.service20Param gS20
      ⟨pidBattAlertMv, 2, some getterBattAlertPtr, some setterBattAlertPtr, 0⟩),
    .enrolment (.service20Handlers gS20), .activity (.received tc203 15),
    .enrolment (.handler ⟨20, 3, none, 0⟩), .activity (.received tc203 15),
    .activity (.housekeeping gS3 sidThermalHk)]

end Computer

end EmbeddedPus
