import EmbeddedPus.Application
import EmbeddedPus.Obc
import EmbeddedPus.RegisterHandlers

namespace EmbeddedPus

open CallTrace ByteOrder Function SlotTable

namespace Obc

/-- The battery alert threshold, as the ground reads and sets it. -/
def threshold : Parameter UInt16 where
  length := 2
  read := do
    let mv ← Prog.get
    pure (.ok (split16 mv))
  write := some fun value ↦ do
    Prog.modify fun _ ↦ join16 (value.getD 0 0) (value.getD 1 0)
    pure .ok

def handlers : Dispatch :=
  ((((∅ : Dispatch).insert (17, 1) (.handleTc17_1, 0)).insert (17, 3) (.handleTc17_3, 0)).insert
    (20, 1) (.handleTc20_1, gS20)).insert (20, 3) (.handleTc20_3, gS20)

def structures : HkMap :=
  ((∅ : HkMap).insert (sidPowerHk, 0) (hkPowerProviderPtr, 0)).insert (sidThermalHk, 0)
    (hkThermalProviderPtr, 0)

def parameters : ParamMap :=
  (∅ : ParamMap).insert pidBattAlertMv ⟨2, getterBattAlertPtr, some setterBattAlertPtr, 0⟩

/-- The computer to those who talk to it. What it remembers is the threshold. -/
def services : Services UInt16 where
  dispatch := handlers
  user _ _ _ := pure .ok
  structureTables := {gS3}
  structures _ key :=
    if key = (sidThermalHk, 0) then some (pure (.ok (split16 235)))
    else if key = (sidPowerHk, 0) then some (pure (.ok (split16 7400)))
    else none
  parameterTables := {gS20}
  parameters _ pid := if pid = pidBattAlertMv then some threshold else none
  destination := groundDestId

/-- The packets of reports sent one a second, with the first at `t`. -/
def stamped (n : UInt16) (t : UInt32) : List Report → List (List UInt8)
  | [] => []
  | r :: rs => r.packet n t :: stamped (n + 1) (t + 1) rs

theorem stamped_append (n : UInt16) (t : UInt32) (rs rs' : List Report) :
    stamped n t (rs ++ rs') = stamped n t rs ++
      stamped (n + UInt16.ofNat rs.length) (t + UInt32.ofNat rs.length) rs' := by
  induction rs generalizing n t with
  | nil => simp [stamped]
  | cons r rs ih =>
    have hn : n + UInt16.ofNat (rs.length + 1) = n + 1 + UInt16.ofNat rs.length := by
      rw [UInt16.ofNat_add, UInt16.add_comm (UInt16.ofNat rs.length), ← UInt16.add_assoc]
      rfl
    have ht : t + UInt32.ofNat (rs.length + 1) = t + 1 + UInt32.ofNat rs.length := by
      rw [UInt32.ofNat_add, UInt32.add_comm (UInt32.ofNat rs.length), ← UInt32.add_assoc]
      rfl
    rw [List.cons_append, stamped, ih, List.length_cons, hn, ht]
    rfl

abbrev Computer := World .default Statics

/-- The call of `tm_sink` with a packet. -/
def handed (bytes : List UInt8) : Delivery := ⟨gPus, tmSinkPtr, 0, bytes, .ok⟩

/-- The account of the computer: what is put out is handed to `tm_sink` and printed, and the counter
and the clock go on by one for each packet. -/
def uart : Account Computer Act (Call .default) Report where
  holds w t w' rs :=
    downlinked gPus t = (stamped (w.ctx gPus).tmCounter w.app.t rs).map handed ∧
      w'.app.uart = w.app.uart ++ (stamped (w.ctx gPus).tmCounter w.app.t rs).map uartLine ∧
      w'.app.t = w.app.t + UInt32.ofNat rs.length ∧
      (w'.ctx gPus).tmCounter = (w.ctx gPus).tmCounter + UInt16.ofNat rs.length
  nil w := by simp [stamped]
  append := by
    rintro w t w' rs t' w'' rs' ⟨hh, hu, ht, hn⟩ ⟨hh', hu', ht', hn'⟩
    refine ⟨?_, ?_, ?_, ?_⟩
    · rw [downlinked_append, hh, hh', stamped_append, ht, hn, List.map_append]
    · rw [hu', hu, stamped_append, ht, hn, List.map_append, List.append_assoc]
    · rw [ht', ht, List.length_append, UInt32.ofNat_add, UInt32.add_assoc]
    · rw [hn', hn, List.length_append, UInt16.ofNat_add, UInt16.add_assoc]

/-- The computer when it is set up, with the threshold at `mv`. -/
structure Shows (k : Context .default) (w : Computer) (mv : UInt16) : Prop where
  context : w.ctx gPus = { k with tmCounter := (w.ctx gPus).tmCounter }
  structures : Refines (hkView gS3 w) structures
  parameters : Refines (paramView gS20 w) parameters
  threshold : w.app.gBattAlertMv = mv

structure Configured (k : Context .default) : Prop where
  handlers : Refines k.handlerTable.slots handlers
  destination : k.defaultDestinationId = groundDestId
  tmSink : k.tmSink = some tmSinkPtr
  userData : k.tmSinkUserData = 0
  timeSource : k.timeSource = some platformUptimeSecondsPtr

section Running

variable {k : Context .default} (h : Configured k) {w : Computer} {mv : UInt16}

include h

theorem Configured.callTimeSource (hw : Shows k w mv) :
    ∃ t, callTimeSource callbacks gPus w =
      ⟨w.app.t, onApp (fun a ↦ { a with t := a.t + 1 }) w, t⟩ := by
  have hsource : (w.ctx gPus).timeSource = some platformUptimeSecondsPtr := by
    rw [hw.context, ← h.timeSource]
  rw [callTimeSource_some callbacks hsource]
  exact ⟨_, rfl⟩

theorem Configured.callTmSink (hw : Shows k w mv) (data : List UInt8) :
    ∃ t, callTmSink callbacks gPus data w =
      ⟨.ok, onApp (fun a ↦ { a with uart := a.uart ++ [uartLine data] }) w, t⟩ ∧
      downlinked gPus t = [handed data] := by
  have hsink : (w.ctx gPus).tmSink = some tmSinkPtr := by rw [hw.context, ← h.tmSink]
  have hdata : (w.ctx gPus).tmSinkUserData = 0 := by rw [hw.context, ← h.userData]
  have hd := downlinked_callTmSink callbacks gPus data w
  rw [Context.deliver, hsink, hdata] at hd
  rw [callTmSink_some callbacks hsink] at hd ⊢
  exact ⟨_, rfl, hd⟩

theorem Configured.emits : Emits uart (Shows k) callbacks gPus k.handlerTable where
  read w _ := uart.nil w
  call hf hk := ⟨(downlinked_call gPus hf _).trans hk.1, hk.2⟩
  table hw := by rw [hw.context]
  emission r := by
    intro w mv hw
    have hclock := downlinked_callTimeSource callbacks gPus gPus w
    obtain ⟨t, htime⟩ := h.callTimeSource hw
    let w' := (onApp (fun a ↦ { a with t := a.t + 1 }) w).setCtx gPus
      { w.ctx gPus with tmCounter := (w.ctx gPus).tmCounter + 1 }
    have hk : w'.ctx gPus = { w.ctx gPus with tmCounter := (w.ctx gPus).tmCounter + 1 } :=
      World.setCtx_ctx ..
    have hw' : Shows k w' mv := by
      refine ⟨?_, hw.structures, hw.parameters, hw.threshold⟩
      rw [hk, hw.context]
    obtain ⟨t', hsink, hhanded⟩ := h.callTmSink hw' (r.packet (w.ctx gPus).tmCounter w.app.t)
    have he : emitPacket callbacks gPus r.service r.subtype r.destination r.payload w = _ :=
      emitPacket_apply ..
    rw [htime] at hclock
    simp only [stampedHeader, htime, onApp_ctx] at he
    simp only [Report.packet, w'] at hsink
    rw [hsink] at he
    rw [he]
    refine ⟨rfl, ⟨hw'.context, hw'.structures, hw'.parameters, hw'.threshold⟩, ?_, rfl, rfl, ?_⟩
    · rw [downlinked_append, downlinked_act, hclock, hhanded]
      rfl
    · simp only [onApp_ctx, World.setCtx_ctx]
      rfl

end Running

section Offers

/-- An account that overlooks changes of the threshold. -/
def Unconcerned (K : Account Computer Act (Call .default) Report) : Prop :=
  ∀ (mv : UInt16) w, K.holds w .nil (onApp (fun a ↦ { a with gBattAlertMv := mv }) w) []

theorem uart_unconcerned : Unconcerned uart := fun _ w ↦ uart.nil w

variable {K : Account Computer Act (Call .default) Report} {k : Context .default}
  (hK : Unconcerned K)

include hK

variable (k) in
theorem threshold_realizes : Realizes K (Shows k) callbacks pidBattAlertMv
    ⟨2, getterBattAlertPtr, some setterBattAlertPtr, 0⟩ threshold where
  length := rfl
  getter w mv hw := by
    refine ⟨⟨rfl, ?_, length_split16 mv⟩, hw, K.nil w⟩
    rw [← hw.threshold]
    rfl
  setter := by
    refine .some fun value hlen w mv hw ↦ ?_
    exact ⟨rfl, ⟨hw.context, hw.structures, hw.parameters, rfl⟩, hK _ w⟩

theorem provides :
    Provides K (Shows k) callbacks gS20 parameters (services.parameters gS20) where
  table hw := hw.parameters
  realizes pid := by
    by_cases hp : pid = pidBattAlertMv
    · rw [hp, parameters, Finmap.lookup_insert]
      exact .some (threshold_realizes k hK)
    · rw [parameters, Finmap.lookup_insert_of_ne _ hp]
      simp only [services, if_neg hp]
      exact .none

variable (K k) in
omit hK in
theorem supplies :
    Supplies K (Shows k) callbacks gS3 structures (services.structures gS3) where
  table hw := hw.structures
  realizes sid kind := by
    have hle : (2 : UInt16) ≤ offered .default := by decide
    by_cases ht : (sid, kind) = (sidThermalHk, 0)
    · rw [ht, structures, Finmap.lookup_insert]
      exact .some fun w mv hw ↦ ⟨⟨⟨rfl, hle⟩, Nat.le_refl 2, rfl⟩, hw, K.nil w⟩
    rw [structures, Finmap.lookup_insert_of_ne _ ht]
    simp only [services, if_neg ht]
    by_cases hp : (sid, kind) = (sidPowerHk, 0)
    · rw [hp, Finmap.lookup_insert, if_pos rfl]
      exact .some fun w mv hw ↦ ⟨⟨⟨rfl, hle⟩, Nat.le_refl 2, rfl⟩, hw, K.nil w⟩
    · rw [Finmap.lookup_insert_of_ne _ hp, if_neg hp]
      exact .none

omit hK in
theorem handlers_cases {pair : UInt8 × UInt8} {v : TcHandler × Ptr}
    (h : handlers.lookup pair = some v) :
    v = (.handleTc17_1, 0) ∨ v = (.handleTc17_3, 0) ∨ v = (.handleTc20_1, gS20) ∨
      v = (.handleTc20_3, gS20) := by
  have hcases {m : Dispatch} {k : UInt8 × UInt8} {u : TcHandler × Ptr}
      (hl : (m.insert k u).lookup pair = some v) : v = u ∨ m.lookup pair = some v := by
    by_cases hk : pair = k
    · rw [hk, Finmap.lookup_insert] at hl
      exact .inl (Option.some.inj hl).symm
    · rw [Finmap.lookup_insert_of_ne _ hk] at hl
      exact .inr hl
  obtain hv | hl := hcases h
  · exact .inr (.inr (.inr hv))
  obtain hv | hl := hcases hl
  · exact .inr (.inr (.inl hv))
  obtain hv | hl := hcases hl
  · exact .inr (.inl hv)
  obtain hv | hl := hcases hl
  · exact .inl hv
  · cases hl

omit hK in
theorem parameter_cases {s : Ptr} {pid : UInt16} {p : Parameter UInt16}
    (hp : services.parameters s pid = some p) : pid = pidBattAlertMv ∧ p = threshold := by
  simp only [services] at hp
  split at hp
  · rename_i hpid
    cases hp
    exact ⟨hpid, rfl⟩
  · cases hp

omit hK in
theorem length_parameter {s : Ptr} {pid : UInt16} {p : Parameter UInt16}
    (hp : services.parameters s pid = some p) : p.length = 2 := by
  obtain ⟨-, rfl⟩ := parameter_cases hp
  rfl

theorem Configured.equips (h : Configured k) :
    Equips K (Shows k) callbacks gPus k.handlerTable services where
  dispatch := h.handlers
  destination hw := by rw [hw.context, h.destination]; rfl
  user hl := by
    obtain hv | hv | hv | hv := handlers_cases hl <;> cases hv
  parameterHandlers hl hf := by
    obtain hv | hv | hv | hv := handlers_cases hl <;> cases hv
    · cases hf <;> contradiction
    · cases hf <;> contradiction
    · rfl
    · rfl
  parameters s hs := by
    obtain rfl : s = gS20 := hs
    exact ⟨parameters, provides hK⟩
  lengths s pid p hp := by
    rw [length_parameter hp]
    decide
  structures s hs := by
    obtain rfl : s = gS3 := hs
    exact ⟨structures, supplies K k⟩

end Offers

/-- What the main loop of the computer has to react to. -/
inductive Event
  | housekeeping
  | received (raw : List UInt8) (len : UInt16)
  deriving DecidableEq, Repr

def Event.exec : Event → App Unit
  | .housekeeping => pusAppSendHousekeeping
  | .received raw len => pusAppReceiveTc raw len

def Event.Sound : Event → Prop
  | .housekeeping => True
  | .received raw len => len.toNat ≤ raw.length

def announce : Spec UInt16 Report Unit := Spec.put ⟨5, 1, groundDestId, split16 evidModeNominal⟩

/-- A cycle of housekeeping: the temperature, the battery voltage, and an alert when that is below
the threshold. -/
def sendHousekeeping : Spec UInt16 Report Unit := do
  Spec.put ⟨3, 25, groundDestId, split16 sidThermalHk ++ split16 235⟩
  Spec.put ⟨3, 25, groundDestId, split16 sidPowerHk ++ split16 7400⟩
  let mv ← Prog.get
  if 7400 < mv then Spec.put ⟨5, 4, groundDestId, split16 evidBatteryLow ++ split16 7400⟩
  else pure ()

def Event.perform : Event → Spec UInt16 Report Unit
  | .housekeeping => sendHousekeeping
  | .received raw len => do
    let _ ← command (services.route .default) (raw.take len.toNat)

section Events

variable {k : Context .default} (h : Configured k)

include h

theorem Configured.offersUart : Offers uart (Shows k) callbacks gPus k.handlerTable services :=
  ⟨h.emits, h.equips uart_unconcerned⟩

theorem Configured.housekeeping {sid data : UInt16}
    (hs : services.structures gS3 (sid, 0) = some (pure (.ok (split16 data)))) :
    (pusService3EmitHk callbacks (some gPus) (some gS3) sid).Refines uart (Shows k) Eq (do
      Spec.put ⟨3, 25, groundDestId, split16 sid ++ split16 data⟩
      pure .ok) := by
  have href := h.offersUart.exec (by decide) (by decide) (.housekeeping gS3 sid) rfl
  have hlen : 2 + (split16 data).length ≤ 256 := by
    rw [length_split16]
    decide
  have hreport : services.perform .default (.housekeeping gS3 sid) =
      identified 256 3 25 groundDestId sid (split16 data) := by
    rw [Services.perform, Structures.report, hs]
    rfl
  rwa [hreport, identified_fits hlen] at href

theorem Configured.event (subtype : UInt8) (eventId : UInt16) {auxData : Option (List UInt8)}
    {auxLen : UInt16} (hp : (auxData.getD []).length = auxLen.toNat) (hlen : auxLen.toNat ≤ 254) :
    (pusService5Emit callbacks (some gPus) subtype eventId auxData auxLen).Refines uart (Shows k) Eq
      (do
        Spec.put ⟨5, subtype, groundDestId, split16 eventId ++ auxData.getD []⟩
        pure .ok) := by
  have href := h.offersUart.exec (by decide) (by decide) (.event subtype eventId auxData auxLen)
    fun p hd ↦ by
      rw [hd, Option.getD_some] at hp
      exact hp.ge
  have hsome : ¬ (0 < auxLen.toNat ∧ auxData = none) := by
    rintro ⟨hpos, rfl⟩
    exact hpos.ne hp
  have htake : (auxData.getD []).take auxLen.toNat = auxData.getD [] :=
    List.take_of_length_le hp.le
  have hreport : services.perform .default (.event subtype eventId auxData auxLen) =
      identified 256 5 subtype groundDestId eventId (auxData.getD []) := by
    rw [Services.perform, eventReport, if_neg hsome, htake]
    rfl
  rwa [hreport, identified_fits (by rw [hp]; omega)] at href

theorem Configured.pusAppSendHousekeeping :
    pusAppSendHousekeeping.Refines uart (Shows k) Eq sendHousekeeping := by
  have halert : (pusService5Emit callbacks (some gPus) pusSubtypeEventHighSeverity evidBatteryLow
      (some (split16 7400)) 2).Refines uart (Shows k) Eq _ := h.event _ _ rfl (by decide)
  have hlow : (do
      let mv ← platformReadBatteryMv
      if mv < (← Prog.get).app.gBattAlertMv then
        let mv ← platformReadBatteryMv
        let _ ← pusService5Emit callbacks (some gPus) pusSubtypeEventHighSeverity evidBatteryLow
          (some (split16 mv)) 2 : App Unit).Refines uart (Shows k) Eq (do
            let mv ← Prog.get
            if 7400 < mv then
              Spec.put ⟨5, 4, groundDestId, split16 evidBatteryLow ++ split16 7400⟩
            else pure ()) := by
    simp only [platformReadBatteryMv, pure_bind]
    refine .get fun w mv hw ↦ ?_
    rw [hw.threshold]
    refine .ite Iff.rfl (fun _ ↦ ?_) fun _ ↦ .ret ()
    have hall := halert.andThen (.ret ())
    rwa [bind_pure_unit] at hall
  exact (h.housekeeping rfl).andThen ((h.housekeeping rfl).andThen hlow)

theorem Configured.exec (e : Event) (he : e.Sound) :
    e.exec.Refines uart (Shows k) Eq e.perform := by
  cases e with
  | housekeeping => exact h.pusAppSendHousekeeping
  | received raw len =>
    have hlt := len.toNat_lt
    have hlen (s : Ptr) (pid : UInt16) (p : Parameter UInt16)
        (hp : services.parameters s pid = some p) : len.toNat + p.length < 65546 := by
      rw [length_parameter hp]
      omega
    exact .seq (h.offersUart.tcProcess (by decide) (by decide) he hlen) fun _ ↦ .ret ()

end Events

/-- The computer in the middle of being set up, with what is registered so far. -/
structure Setup (m : Dispatch) (s : HkMap) (p : ParamMap) (w : Computer) : Prop where
  context : w.ctx gPus = ⟨(w.ctx gPus).handlerTable, 0, obcSourceId, groundDestId,
    some tmSinkPtr, 0, some platformUptimeSecondsPtr, 0⟩
  handlers : Refines (w.ctx gPus).handlerTable.slots m
  structures : Refines (hkView gS3 w) s
  parameters : Refines (paramView gS20 w) p
  app : w.app = ⟨0, 6800, []⟩

namespace Setup

variable {m : Dispatch} {s : HkMap} {p : ParamMap} {w : Computer} (h : Setup m s p w)

theorem init (stack : ℕ → UInt8) : Setup ∅ ∅ ∅ (pusInitWithConfig (some gPus)
    (some ⟨obcSourceId, groundDestId, some tmSinkPtr, 0, some platformUptimeSecondsPtr, 0⟩)
      (boot stack)).state where
  context := rfl
  handlers := .empty
  structures := .empty
  parameters := .empty
  app := rfl

include h

theorem register (r : RegisterCall) :
    (pusHandlerRegister (some gPus) r.service r.subtype r.handler r.userData w).val =
        (m.register 16 r).1 ∧
      Setup (m.register 16 r).2 s p
        (pusHandlerRegister (some gPus) r.service r.subtype r.handler r.userData w).state := by
  obtain ⟨hval, href, -⟩ := register_refines h.handlers r
  rw [pusHandlerRegister_apply]
  refine ⟨hval, ?_, ?_, h.structures, h.parameters, h.app⟩
  · rw [World.setCtx_ctx, h.context]
  · rw [World.setCtx_ctx]
    exact href

theorem registerTwo (service subtype₁ subtype₂ : UInt8) (handler₁ handler₂ : TcHandler)
    (userData : Ptr) (hm : m.keys.card < 15) :
    Setup ((m.insert (service, subtype₁) (handler₁, userData)).insert (service, subtype₂)
      (handler₂, userData)) s p
        (registerTwo gPus service subtype₁ subtype₂ handler₁ handler₂ userData w).state := by
  have hroom {m : Dispatch} {subtype : UInt8} {f : TcHandler} (hm : m.keys.card < 16) :
      m.register 16 ⟨service, subtype, some f, userData⟩ =
        (.ok, m.insert (service, subtype) (f, userData)) := if_pos (.inr hm)
  have hcard : (m.insert (service, subtype₁) (handler₁, userData)).keys.card < 16 := by
    rw [keys_insert]
    exact (Finset.card_insert_le _ _).trans_lt (Nat.succ_lt_succ hm)
  obtain ⟨hval, hfirst⟩ := h.register ⟨service, subtype₁, some handler₁, userData⟩
  rw [hroom (hm.trans (by decide))] at hval hfirst
  obtain ⟨-, hsecond⟩ := hfirst.register ⟨service, subtype₂, some handler₂, userData⟩
  rw [hroom hcard] at hsecond
  simp only [EmbeddedPus.registerTwo, Prog.bind_state, hval, ne_eq, not_true_eq_false, if_false]
  exact hsecond

theorem registerHk (sid : UInt16) (f : Ptr) (hs : s.keys.card < 8) :
    Setup m (s.insert (sid, 0) (f, 0)) p
      (pusService3RegisterHk (some gS3) sid (some f) 0 w).state := by
  let r : HkCall := ⟨false, sid, some f, 0⟩
  obtain ⟨-, href⟩ := (r.registers gS3).refines w s h.structures
  obtain ⟨st, t, ht⟩ := r.frame gS3 w
  have hput : put 8 s r.key r.val = (.ok, s.insert (sid, 0) (f, 0)) := if_pos (.inr hs)
  have hexec : r.exec gS3 = (pusService3RegisterHk (some gS3) sid (some f) 0 : App Status) := rfl
  rw [hexec] at ht href
  rw [ht] at href ⊢
  have hstructures : Refines _ (put 8 s r.key r.val).2 := href
  rw [hput] at hstructures
  exact ⟨h.context, h.handlers, hstructures, h.parameters, h.app⟩

theorem registerParam (pid valueLen : UInt16) (f : Ptr) (setter : Option Ptr)
    (hp : p.keys.card < 16) :
    Setup m s (p.insert pid ⟨valueLen, f, setter, 0⟩)
      (pusService20RegisterParam (some gS20) pid valueLen (some f) setter 0 w).state := by
  let r : ParamCall := ⟨pid, valueLen, some f, setter, 0⟩
  obtain ⟨-, href⟩ := (r.registers gS20).refines w p h.parameters
  obtain ⟨st, t, ht⟩ := r.frame gS20 w
  have hput : put 16 p r.paramId r.val = (.ok, p.insert pid ⟨valueLen, f, setter, 0⟩) :=
    if_pos (.inr hp)
  have hexec : r.exec gS20 =
    (pusService20RegisterParam (some gS20) pid valueLen (some f) setter 0 : App Status) := rfl
  rw [hexec] at ht href
  rw [ht] at href ⊢
  have hparameters : Refines _ (put 16 p r.paramId r.val).2 := href
  rw [hput] at hparameters
  exact ⟨h.context, h.handlers, h.structures, hparameters, h.app⟩

theorem service17 (hm : m.keys.card < 15) :
    Setup ((m.insert (17, 1) (.handleTc17_1, 0)).insert (17, 3) (.handleTc17_3, 0)) s p
      (pusService17RegisterHandlers (some gPus) w).state :=
  h.registerTwo 17 1 3 .handleTc17_1 .handleTc17_3 0 hm

theorem service20 (hm : m.keys.card < 15) :
    Setup ((m.insert (20, 1) (.handleTc20_1, gS20)).insert (20, 3) (.handleTc20_3, gS20)) s p
      (pusService20RegisterHandlers (some gPus) (some gS20) w).state :=
  h.registerTwo 20 1 3 .handleTc20_1 .handleTc20_3 gS20 hm

theorem initS3 : Setup m ∅ p (pusService3Init (some gS3) w).state where
  context := h.context
  handlers := h.handlers
  structures := .empty
  parameters := h.parameters
  app := h.app

theorem initS20 : Setup m s ∅ (pusService20Init (some gS20) w).state where
  context := h.context
  handlers := h.handlers
  structures := h.structures
  parameters := .empty
  app := h.app

end Setup

/-- The part of `pus_app_init` before its report. -/
def configure : App Unit := do
  let _ ← pusInitWithConfig (some gPus)
    (some ⟨obcSourceId, groundDestId, some tmSinkPtr, 0, some platformUptimeSecondsPtr, 0⟩)
  let _ ← pusService17RegisterHandlers (some gPus)
  let _ ← pusService3Init (some gS3)
  let _ ← pusService3RegisterHk (some gS3) sidPowerHk (some hkPowerProviderPtr) 0
  let _ ← pusService3RegisterHk (some gS3) sidThermalHk (some hkThermalProviderPtr) 0
  let _ ← pusService20Init (some gS20)
  let _ ← pusService20RegisterParam (some gS20) pidBattAlertMv 2 (some getterBattAlertPtr)
    (some setterBattAlertPtr) 0
  let _ ← pusService20RegisterHandlers (some gPus) (some gS20)

theorem pusAppInit_eq : pusAppInit = (do
    configure
    let _ ← pusService5Emit callbacks (some gPus) pusSubtypeEventInfo evidModeNominal none 0) := by
  simp only [pusAppInit, configure, bind_assoc, pure_bind]

theorem configure_setup (stack : ℕ → UInt8) :
    Setup handlers structures parameters (configure (boot stack)).state := by
  have h17 := (Setup.init stack).service17 (by decide)
  have h3 := (h17.initS3.registerHk sidPowerHk hkPowerProviderPtr (by decide)).registerHk
    sidThermalHk hkThermalProviderPtr (by decide)
  have h20 := (h3.initS20.registerParam pidBattAlertMv 2 getterBattAlertPtr
    (some setterBattAlertPtr) (by decide)).service20 (by decide)
  simp only [configure, Prog.bind_state, Prog.pure_apply]
  exact h20

theorem configured_of_setup {w : Computer} (h : Setup handlers structures parameters w) :
    Configured (w.ctx gPus) where
  handlers := h.handlers
  destination := by rw [h.context]
  tmSink := by rw [h.context]
  userData := by rw [h.context]
  timeSource := by rw [h.context]

theorem shows_of_setup {w : Computer} (h : Setup handlers structures parameters w) :
    Shows (w.ctx gPus) w 6800 where
  context := rfl
  structures := h.structures
  parameters := h.parameters
  threshold := by rw [h.app]

theorem registerTwo_silent (service subtype₁ subtype₂ : UInt8) (handler₁ handler₂ : TcHandler)
    (userData : Ptr) (w : Computer) :
    (registerTwo gPus service subtype₁ subtype₂ handler₁ handler₂ userData w).trace = .nil := by
  rw [registerTwo, Prog.bind_trace, pusHandlerRegister_apply, Trace.nil_append]
  split
  · rfl
  · rw [pusHandlerRegister_apply]

theorem registerHk_silent (sid : UInt16) (f : Ptr) (w : Computer) :
    (pusService3RegisterHk (some gS3) sid (some f) 0 w).trace = .nil := by
  obtain ⟨st, t, ht⟩ := HkCall.frame gS3 ⟨false, sid, some f, 0⟩ w
  exact congrArg Outcome.trace ht

theorem registerParam_silent (pid valueLen : UInt16) (f : Ptr) (setter : Option Ptr)
    (w : Computer) :
    (pusService20RegisterParam (some gS20) pid valueLen (some f) setter 0 w).trace = .nil := by
  obtain ⟨st, t, ht⟩ := ParamCall.frame gS20 ⟨pid, valueLen, some f, setter, 0⟩ w
  exact congrArg Outcome.trace ht

theorem configure_silent (w : Computer) : (configure w).trace = .nil := by
  simp only [configure, pusService17RegisterHandlers, pusService20RegisterHandlers, Prog.bind_trace,
    registerTwo_silent, registerHk_silent, registerParam_silent, Trace.nil_append, Prog.pure_apply]
  rfl

def demo : List Event :=
  [.housekeeping, .received tc171 10, .received tc201 13, .received tc203 15, .housekeeping]

theorem main_run (w : Computer) :
    let r := (pusAppInit >>= fun _ ↦ Prog.each Event.exec demo) w
    (main w).state = r.state ∧ (main w).trace = r.trace := by
  simp only [main, demo, Prog.each, Event.exec, Prog.bind_state, Prog.bind_trace, Prog.pure_apply,
    Trace.append_nil, and_self]

end Obc

end EmbeddedPus
