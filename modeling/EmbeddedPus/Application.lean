import EmbeddedPus.TelemetryService

namespace EmbeddedPus

open CallTrace Buffer ByteOrder SlotTable

variable {cfg : Config} {A S : Type} {cb : Callbacks cfg A} {c : Ptr}

namespace Request

variable (q : Request)

def alive : Spec S Report Status := do
  Spec.put ⟨17, 2, q.source, []⟩
  pure .ok

def connection : Spec S Report Status :=
  if q.payload.length < 2 then pure .badLength
  else do
    Spec.put ⟨17, 4, q.source, q.payload.take 2⟩
    pure .ok

end Request

/-- The services of an application: the handlers it has registered, what its own ones are there for,
and what is behind each of its ST[03] and ST[20] tables. -/
structure Services (S : Type) where
  dispatch : Dispatch
  user : Ptr → Ptr → Request → Spec S Report Status
  structureTables : Set Ptr
  structures : Ptr → Structures S
  parameterTables : Set Ptr
  parameters : Ptr → Dictionary S
  destination : UInt16

variable (cfg) in
def Services.serve (v : Services S) (q : Request) : TcHandler × Ptr → Spec S Report Status
  | (.handleTc17_1, _) => q.alive
  | (.handleTc17_3, _) => q.connection
  | (.handleTc20_1, s) =>
    (v.parameters s).report cfg.service20MaxParams cfg.maxTmPayloadLen v.destination q.payload
  | (.handleTc20_3, s) => (v.parameters s).command q.payload
  | (.user f, userData) => v.user f userData q

variable (cfg) in
def Services.route (v : Services S) (q : Request) : Option (Spec S Report Status) :=
  (v.dispatch.lookup (q.service, q.subtype)).map (v.serve cfg q)

inductive Activity
  | received (data : List UInt8) (len : UInt16)
  | housekeeping (s : Ptr) (sid : UInt16)
  | diagnostic (s : Ptr) (sid : UInt16)
  | event (subtype : UInt8) (eventId : UInt16) (auxData : Option (List UInt8)) (auxLen : UInt16)
  | alive (destination : UInt16)
  | connection (apid destination : UInt16)
  | parameters (s : Ptr) (ids : List UInt16)

def Activity.exec (cb : Callbacks cfg A) (c : Ptr) : Activity → Pus cfg A Status
  | .received data len => pusTcProcess cb (some c) (some data) len
  | .housekeeping s sid => pusService3EmitHk cb (some c) (some s) sid
  | .diagnostic s sid => pusService3EmitDiag cb (some c) (some s) sid
  | .event subtype eventId auxData auxLen =>
    pusService5Emit cb (some c) subtype eventId auxData auxLen
  | .alive destination => pusService17EmitAliveReport cb (some c) destination
  | .connection apid destination =>
    pusService17EmitConnectionReport cb (some c) apid destination
  | .parameters s ids =>
    pusService20EmitReport cb (some c) (some s) (some ids) (UInt8.ofNat ids.length)

variable (cfg) in
def Services.perform (v : Services S) : Activity → Spec S Report Status
  | .received data len => command (v.route cfg) (data.take len.toNat)
  | .housekeeping s sid =>
    (v.structures s).report cfg.maxTmPayloadLen v.destination sid pusService3KindHk
  | .diagnostic s sid =>
    (v.structures s).report cfg.maxTmPayloadLen v.destination sid pusService3KindDiag
  | .event subtype eventId auxData auxLen =>
    eventReport cfg.maxTmPayloadLen v.destination subtype eventId auxData auxLen.toNat
  | .alive destination => do
    Spec.put ⟨17, 2, destination, []⟩
    pure .ok
  | .connection apid destination => do
    Spec.put ⟨17, 4, destination, split16 apid⟩
    pure .ok
  | .parameters s ids =>
    (v.parameters s).announce cfg.maxTmPayloadLen v.destination (UInt8.ofNat ids.length) ids

/-- The buffers of an activity are as long as it says, what it reports on is in the tables of the
services, and no TC is so long that the end of a value could wrap. -/
def Activity.Sound (v : Services S) : Activity → Prop
  | .received data len => len.toNat ≤ data.length ∧
      ∀ s pid p, v.parameters s pid = some p → len.toNat + p.length < 65546
  | .housekeeping s _ => s ∈ v.structureTables
  | .diagnostic s _ => s ∈ v.structureTables
  | .event _ _ auxData auxLen => ∀ p, auxData = some p → auxLen.toNat ≤ p.length
  | .alive _ => True
  | .connection _ _ => True
  | .parameters s ids => s ∈ v.parameterTables ∧ ids.length ≤ 255

/-- The application at `c` with the handlers `t` is equipped for the services: it has their
handlers, its own ones do what they are there for, and its tables are of their structures and
parameters. -/
structure Equips (K : Account (World cfg A) Act (Call cfg) Report) (R : World cfg A → S → Prop)
    (cb : Callbacks cfg A) (c : Ptr) (t : HandlerTable cfg.maxTcHandlers) (v : Services S) :
    Prop where
  dispatch : Refines t.slots v.dispatch
  destination : ∀ {w x}, R w x → (w.ctx c).defaultDestinationId = v.destination
  user : ∀ {pair f userData}, v.dispatch.lookup pair = some (.user f, userData) →
    ∀ tc, tc.payloadLen.toNat ≤ tc.payload.length →
      (cb.handler f c tc userData).Refines K R Eq (v.user f userData (.ofTc tc))
  parameterHandlers : ∀ {pair f s}, v.dispatch.lookup pair = some (f, s) →
    f = .handleTc20_1 ∨ f = .handleTc20_3 → s ∈ v.parameterTables
  parameters : ∀ s ∈ v.parameterTables, ∃ m, Provides K R cb s m (v.parameters s)
  lengths : ∀ s pid p, v.parameters s pid = some p → p.length ≤ cfg.maxTmPayloadLen
  structures : ∀ s ∈ v.structureTables, ∃ m, Supplies K R cb s m (v.structures s)

structure Offers (K : Account (World cfg A) Act (Call cfg) Report) (R : World cfg A → S → Prop)
    (cb : Callbacks cfg A) (c : Ptr) (t : HandlerTable cfg.maxTcHandlers) (v : Services S) : Prop
    extends Emits K R cb c t, Equips K R cb c t v

section Handlers

variable {K : Account (World cfg A) Act (Call cfg) Report} {R : World cfg A → S → Prop}
  {t : HandlerTable cfg.maxTcHandlers} (h : Emits K R cb c t) {tc : TcPacket}

include h

theorem Emits.handleTc17_1 :
    (handleTc17_1 cb c tc).Refines K R Eq (Request.ofTc tc).alive := by
  rw [handleTc17_1_eq]
  exact h.emission ⟨17, 2, tc.secHeader.sourceId, []⟩

theorem Emits.handleTc17_3 (hm : 2 ≤ cfg.maxTmPayloadLen)
    (htc : tc.payloadLen.toNat ≤ tc.payload.length) :
    (handleTc17_3 cb c tc).Refines K R Eq (Request.ofTc tc).connection := by
  have hlen : (Request.ofTc tc).payload.length = tc.payloadLen.toNat :=
    (List.length_take ..).trans (Nat.min_eq_left htc)
  rw [Request.connection, hlen]
  by_cases hl : tc.payloadLen < 2
  · have hl' : tc.payloadLen.toNat < 2 := UInt16.lt_iff_toNat_lt.mp hl
    rw [handleTc17_3_short hl, if_pos hl']
    exact .ret _
  · have hl' : ¬ tc.payloadLen.toNat < 2 := fun hn ↦ hl (UInt16.lt_iff_toNat_lt.mpr hn)
    have hpay : (Request.ofTc tc).payload.take 2 =
        [tc.payload.getD 0 0, tc.payload.getD 1 0] := by
      have hdrop : (Request.ofTc tc).payload.drop 0 = _ := Request.drop_payload htc (by omega)
      rw [List.drop_zero] at hdrop
      rw [hdrop]
      rfl
    rw [handleTc17_3_long hm hl, if_neg hl', hpay]
    refine h.readPayload tc 0 (h.readPayload tc 1 ?_)
    exact h.emission ⟨17, 4, tc.secHeader.sourceId, _⟩

end Handlers

namespace Offers

variable {K : Account (World cfg A) Act (Call cfg) Report} {R : World cfg A → S → Prop}
  {t : HandlerTable cfg.maxTcHandlers} {v : Services S} (h : Offers K R cb c t v)

include h

theorem routes {tc : TcPacket} (hm : 2 ≤ cfg.maxTmPayloadLen) (hcfg : cfg.maxTmPayloadLen ≤ 32766)
    (htc : tc.payloadLen.toNat ≤ tc.payload.length) (hl : tc.payloadLen.toNat < 65534)
    (hwrap : ∀ s pid p, v.parameters s pid = some p → tc.payloadLen.toNat + p.length < 65536) :
    Routes K R cb c t (v.route cfg) tc := by
  have hlookup : v.dispatch.lookup (tc.secHeader.serviceTypeId, tc.secHeader.subtypeId) =
      t.lookup tc.secHeader.serviceTypeId tc.secHeader.subtypeId := by
    rw [← h.dispatch.lookup_eq, lookup_slots]
  have hemits := h.toEmits
  constructor
  · intro hf
    rw [Services.route, Request.ofTc, hlookup, HandlerTable.lookup, hf]
    rfl
  · intro i hf
    rw [HandlerTable.lookup, hf, Option.map_some] at hlookup
    refine ⟨v.serve cfg (.ofTc tc) ((t i).handler, (t i).userData), ?_, ?_⟩
    · rw [Services.route, Request.ofTc, hlookup]
      rfl
    · cases hh : (t i).handler with
      | handleTc17_1 => exact hemits.handleTc17_1
      | handleTc17_3 => exact hemits.handleTc17_3 hm htc
      | handleTc20_1 =>
        rw [hh] at hlookup
        obtain ⟨m, hp⟩ := h.parameters _ (h.parameterHandlers hlookup (.inl rfl))
        exact hp.handleTc20_1 hemits h.destination hcfg (h.lengths _) htc
      | handleTc20_3 =>
        rw [hh] at hlookup
        obtain ⟨m, hp⟩ := h.parameters _ (h.parameterHandlers hlookup (.inr rfl))
        exact hp.handleTc20_3 htc h.toOverlooks hl (hwrap _)
      | user f =>
        rw [hh] at hlookup
        exact h.user hlookup tc htc

theorem tcProcess (hm : 2 ≤ cfg.maxTmPayloadLen) (hcfg : cfg.maxTmPayloadLen ≤ 32766)
    {data : List UInt8} {len : UInt16} (hlen : len.toNat ≤ data.length)
    (hwrap : ∀ s pid p, v.parameters s pid = some p → len.toNat + p.length < 65546) :
    (pusTcProcess cb (some c) (some data) len).Refines K R Eq
      (command (v.route cfg) (data.take len.toNat)) := by
  refine h.toEmits.tcProcess hlen fun hge ↦ ?_
  have hsub : (len - 10).toNat = len.toNat - 10 := UInt16.toNat_sub_of_le _ _ hge
  have hge' : 10 ≤ len.toNat := UInt16.le_iff_toNat_le.mp hge
  have hlt := len.toNat_lt
  refine h.routes hm hcfg ?_ ?_ fun s pid p hp ↦ ?_
  · rw [hsub, List.length_drop]
    exact Nat.sub_le_sub_right hlen 10
  · rw [hsub]
    omega
  · have hp' := hwrap s pid p hp
    rw [hsub]
    omega

theorem exec (hm : 2 ≤ cfg.maxTmPayloadLen) (hcfg : cfg.maxTmPayloadLen ≤ 32766) (a : Activity)
    (ha : a.Sound v) : (a.exec cb c).Refines K R Eq (v.perform cfg a) := by
  cases a with
  | received data len => exact h.tcProcess hm hcfg ha.1 ha.2
  | housekeeping s sid =>
    obtain ⟨m, hs⟩ := h.structures s ha
    exact hs.emitReport h.toEmits h.destination hcfg sid pusService3KindHk
  | diagnostic s sid =>
    obtain ⟨m, hs⟩ := h.structures s ha
    exact hs.emitReport h.toEmits h.destination hcfg sid pusService3KindDiag
  | event subtype eventId auxData auxLen =>
    exact h.toEmits.service5Emit h.destination hcfg subtype eventId ha
  | alive destination =>
    have he : pusService17EmitAliveReport cb (some c) destination =
        emitPacket cb c 17 2 destination [] := buildAndEmit_eq (Nat.zero_le _) (Nat.zero_le _)
    rw [Activity.exec, he]
    exact h.emission ⟨17, 2, destination, []⟩
  | connection apid destination =>
    have he : pusService17EmitConnectionReport cb (some c) apid destination =
        emitPacket cb c 17 4 destination (split16 apid) := buildAndEmit_eq le_rfl hm
    rw [Activity.exec, he]
    exact h.emission ⟨17, 4, destination, split16 apid⟩
  | parameters s ids =>
    obtain ⟨m, hp⟩ := h.parameters s ha.1
    exact hp.emitReport h.toEmits h.destination hcfg (h.lengths s) ha.2

end Offers

end EmbeddedPus
