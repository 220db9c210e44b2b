import EmbeddedPus.EventReport
import EmbeddedPus.ParameterService

namespace EmbeddedPus

open CallTrace Buffer ByteOrder SlotTable

variable {cfg : Config} {A S : Type}

abbrev Structures (S : Type) :=
  UInt16 × UInt8 → Option (Spec S Report (Except Status (List UInt8)))

/-- A report that has an id in front of its data, when `max` bytes hold both. -/
def identified (max : ℕ) (service subtype : UInt8) (destination id : UInt16) (data : List UInt8) :
    Spec S Report Status :=
  if max < 2 + data.length then pure .bufferTooSmall
  else do
    Spec.put ⟨service, subtype, destination, split16 id ++ data⟩
    pure .ok

theorem identified_fits {max : ℕ} {service subtype : UInt8} {destination id : UInt16}
    {data : List UInt8} (h : 2 + data.length ≤ max) :
    (identified max service subtype destination id data : Spec S Report Status) = (do
      Spec.put ⟨service, subtype, destination, split16 id ++ data⟩
      pure .ok) :=
  if_neg (Nat.not_lt.mpr h)

def Structures.report (z : Structures S) (max : ℕ) (destination sid : UInt16) (kind : UInt8) :
    Spec S Report Status :=
  match z (sid, kind) with
  | none => pure .noHandler
  | some provide => do
    match ← provide with
    | .error st => pure st
    | .ok data => identified max 3 (reportSubtype kind) destination sid data

def eventReport (max : ℕ) (destination : UInt16) (subtype : UInt8) (eventId : UInt16)
    (auxData : Option (List UInt8)) (auxLen : ℕ) : Spec S Report Status :=
  if 0 < auxLen ∧ auxData = none then pure .null
  else identified max 5 subtype destination eventId ((auxData.getD []).take auxLen)

variable {K : Account (World cfg A) Act (Call cfg) Report} {R : World cfg A → S → Prop}
  {cb : Callbacks cfg A} {c s : Ptr} {m : HkMap} {z : Structures S}

def Provided.Yields (cfg : Config) (r : Provided) : Except Status (List UInt8) → Prop
  | .ok data => r.Accepted cfg ∧ r.outLen.toNat ≤ r.bytes.length ∧
      r.bytes.take r.outLen.toNat = data
  | .error st => ¬ r.Accepted cfg ∧ st = if r.st ≠ .ok then r.st else .badLength

/-- In the worlds that show a state the ST[03] table at `s` is one of the structures. -/
structure Supplies (K : Account (World cfg A) Act (Call cfg) Report) (R : World cfg A → S → Prop)
    (cb : Callbacks cfg A) (s : Ptr) (m : HkMap) (z : Structures S) : Prop where
  table : ∀ {w x}, R w x → Refines (hkView s w) m
  realizes : ∀ sid kind, Option.Rel (fun e provide ↦
    (cb.provider e.1 sid (offered cfg) e.2).Refines K R (Provided.Yields cfg) provide)
      (m.lookup (sid, kind)) (z (sid, kind))

section Emission

variable {t : HandlerTable cfg.maxTcHandlers} (he : Emits K R cb c t) {destination : UInt16}
  (hdest : ∀ {w x}, R w x → (w.ctx c).defaultDestinationId = destination)
  (hcfg : cfg.maxTmPayloadLen ≤ 32766)

include he hcfg

theorem Emits.identified (service subtype : UInt8) (destination id : UInt16) (data : List UInt8) :
    (if FitsBehindId cfg data.length then
      emitPacket cb c service subtype destination (split16 id ++ data)
    else pure .bufferTooSmall : Pus cfg A Status).Refines K R Eq
      (identified cfg.maxTmPayloadLen service subtype destination id data) := by
  have hfits : FitsBehindId cfg data.length ↔ ¬ cfg.maxTmPayloadLen < 2 + data.length := by
    rw [FitsBehindId]
    omega
  rw [EmbeddedPus.identified]
  by_cases h : cfg.maxTmPayloadLen < 2 + data.length
  · rw [if_neg (mt hfits.mp (not_not_intro h)), if_pos h]
    exact .ret _
  · rw [if_pos (hfits.mpr h), if_neg h]
    exact he.emission ⟨service, subtype, destination, split16 id ++ data⟩

include hdest

theorem Supplies.emitReport (h : Supplies K R cb s m z) (sid : UInt16) (kind : UInt8) :
    (emitReport cb (some c) (some s) sid kind).Refines K R Eq
      (z.report cfg.maxTmPayloadLen destination sid kind) := by
  intro w x hw
  have hrel := h.realizes sid kind
  rw [lookup_hk (h.table hw)] at hrel
  rw [Structures.report]
  obtain ⟨hf, hz⟩ | ⟨e, provide, hf, hz, href⟩ := rel_cases hrel
  · have hnone := Option.map_eq_none_iff.mp hf
    simp only [EmbeddedPus.emitReport, readS3_bind_apply, hnone, hz]
    exact ⟨rfl, hw, K.nil w⟩
  obtain ⟨i, hi, rfl⟩ := Option.map_eq_some_iff.mp hf
  have hcall : (callProvider cb (w.s3 s i) sid (offered cfg)).Refines K R
      (Provided.Yields cfg) provide := he.call_refines (fun _ _ ↦ rfl) href
  have hsome : findEntry (w.s3 s) sid kind = some i := hi
  obtain ⟨array, out, harray, hout, hemit⟩ := emitReport_found cb c hsome
  rw [hemit, hz]
  refine hcall.bind (fun r v hv ↦ ?_) w x hw
  cases v with
  | error st =>
    obtain ⟨hacc, rfl⟩ := hv
    by_cases hst : r.st = .ok
    · have hlong : r.outLen > offered cfg := UInt16.not_le.mp fun hle ↦ hacc ⟨hst, hle⟩
      rw [if_neg (not_not_intro hst), if_pos hlong, if_neg (not_not_intro hst)]
      exact .ret _
    · rw [if_pos hst, if_pos hst]
      exact .ret _
  | ok data =>
    obtain ⟨⟨hst, hle⟩, hlen, rfl⟩ := hv
    have hmax : r.outLen.toNat ≤ cfg.maxTmPayloadLen :=
      (UInt16.le_iff_toNat_le.mp hle).trans (Nat.mod_le _ _)
    rw [if_neg (not_not_intro hst), if_neg (UInt16.not_lt.mpr hle)]
    intro w' x' hw'
    have hident := he.identified hcfg 3 (reportSubtype kind) destination sid
      (r.bytes.take r.outLen.toNat)
    rw [List.length_take_of_le hlen] at hident
    rw [readCtx_bind_apply, hdest hw', pusTmBuild_local harray hout hmax hlen]
    exact hident w' x' hw'

theorem Emits.service5Emit (subtype : UInt8) (eventId : UInt16) {auxData : Option (List UInt8)}
    {auxLen : UInt16} (hp : ∀ p, auxData = some p → auxLen.toNat ≤ p.length) :
    (pusService5Emit cb (some c) subtype eventId auxData auxLen).Refines K R Eq
      (eventReport cfg.maxTmPayloadLen destination subtype eventId auxData auxLen.toNat) := by
  have hzero : auxLen > 0 ↔ 0 < auxLen.toNat := UInt16.lt_iff_toNat_lt
  rw [eventReport]
  by_cases hnull : auxLen > 0 ∧ auxData = none
  · rw [if_pos ⟨hzero.mp hnull.1, hnull.2⟩]
    simp only [pusService5Emit, if_pos hnull]
    exact .ret _
  have hdata : ((auxData.getD []).take auxLen.toNat).length = auxLen.toNat := by
    cases auxData with
    | some p => exact List.length_take_of_le (hp p rfl)
    | none =>
      have h0 : auxLen.toNat = 0 := by
        by_contra hne
        exact hnull ⟨hzero.mpr (Nat.pos_of_ne_zero hne), rfl⟩
      rw [h0, List.take_zero, List.length_nil]
  have hident := he.identified hcfg 5 subtype destination eventId
    ((auxData.getD []).take auxLen.toNat)
  rw [hdata] at hident
  rw [if_neg fun hn ↦ hnull ⟨hzero.mpr hn.1, hn.2⟩]
  by_cases hlong : cfg.maxTmPayloadLen < auxLen.toNat
  · simp only [pusService5Emit, if_neg hnull, if_pos hlong]
    rw [EmbeddedPus.identified, hdata, if_pos (by omega)]
    exact .ret _
  have hacc : ¬ EventRefused cfg auxData auxLen := by
    rintro (⟨hnone, hne⟩ | hlt)
    · exact hnull ⟨UInt16.pos_iff_ne_zero.mpr hne, hnone⟩
    · exact hlong hlt
  intro w x hw
  rw [pusService5Emit_accepted hp hacc, hdest hw]
  exact hident w x hw

end Emission

end EmbeddedPus
