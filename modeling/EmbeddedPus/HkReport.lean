import EmbeddedPus.Emission
import EmbeddedPus.Service3

namespace EmbeddedPus

open CallTrace Buffer ByteOrder

variable {cfg : Config} {A : Type} (cb : Callbacks cfg A) (c s : Ptr) (sid : UInt16)

def offered (cfg : Config) : UInt16 := UInt16.ofNat cfg.maxTmPayloadLen

def collect (e : HkEntry) (w : World cfg A) : Outcome (World cfg A) Act (Call cfg) Provided :=
  callProvider cb e sid (offered cfg) w

def Provided.Accepted (cfg : Config) (r : Provided) : Prop :=
  r.st = .ok ∧ r.outLen ≤ offered cfg

/-- `r` is the report that entry `e` calls for: with its provider's part done, one packet with the
SID and the provider's data, and otherwise no packet and the counter where it was. -/
structure HkReported (subtype : UInt8) (e : HkEntry) (w : World cfg A)
    (r : Outcome (World cfg A) Act (Call cfg) Status) : Prop where
  sent : (collect cb sid e w).val.Accepted cfg →
    let q := collect cb sid e w
    Sends c ((callTimeSource cb c q.state).state.ctx c)
      (tmSecHeaderBytes
        (stampedHeader cb c 3 subtype (q.state.ctx c).defaultDestinationId q.state) ++
          (split16 sid ++ q.val.bytes.take q.val.outLen.toNat)) r.val r.trace
  refused : ¬ (collect cb sid e w).val.Accepted cfg →
    r.val ≠ .ok ∧ packets r.trace = [] ∧ (r.state.ctx c).tmCounter = (w.ctx c).tmCounter

/-- The provider `f` keeps to its contract: the length it stores is that of what it wrote, and it
emits nothing, so that the counter of `c` stays. -/
structure Collects (f : Ptr) : Prop where
  length : ∀ sid capacity ud w, (cb.provider f sid capacity ud w).val.st = .ok →
    (cb.provider f sid capacity ud w).val.outLen ≤ capacity →
    (cb.provider f sid capacity ud w).val.outLen.toNat ≤
      (cb.provider f sid capacity ud w).val.bytes.length
  counter : ∀ sid capacity ud w,
    ((cb.provider f sid capacity ud w).state.ctx c).tmCounter = (w.ctx c).tmCounter

variable {cb c s sid} {kind : UInt8} {w : World cfg A} {i : Fin cfg.service3MaxStructures}

def reportSubtype (kind : UInt8) : UInt8 :=
  if kind = pusService3KindDiag then pusSubtypeHousekeepingDiagnosticReport
  else pusSubtypeHousekeepingParameterReport

variable (cb c) in
theorem emitReport_found (hf : findEntry (w.s3 s) sid kind = some i) :
    ∃ array out : List UInt8, array.length = 2 + cfg.maxTmPayloadLen ∧
      out.length = 14 + cfg.maxTmPayloadLen ∧
      emitReport cb (some c) (some s) sid kind w =
        (callProvider cb (w.s3 s i) sid (offered cfg) >>= fun r ↦
          if r.st ≠ .ok then pure r.st
          else if r.outLen > offered cfg then pure .badLength
          else do
            let k ← readCtx c
            let b ← pusTmBuild cb (some c) 3 (reportSubtype kind) k.defaultDestinationId
              (some (writeAt (writeAt array 0 (split16 sid)) 2 r.bytes)) (2 + r.outLen) (some out)
              (UInt16.ofNat out.length) (some 0)
            pure b.st) w := by
  have hlen (n : ℕ) : ((List.range n).map w.stack).length = n := by
    rw [List.length_map, List.length_range]
  have hcap : sidLen.toNat + cfg.maxTmPayloadLen - sidLen.toNat = cfg.maxTmPayloadLen :=
    Nat.add_sub_cancel_left ..
  refine ⟨_, _, hlen (2 + cfg.maxTmPayloadLen), hlen (14 + cfg.maxTmPayloadLen), ?_⟩
  simp only [emitReport, readS3_bind_apply, hf, localArray_bind_apply, length_writeAt, hlen, hcap]
  rfl

variable (cb c) in
theorem emitReport_refused (hf : findEntry (w.s3 s) sid kind = some i)
    (h : ¬ (collect cb sid (w.s3 s i) w).val.Accepted cfg) :
    ∃ st, st ≠ .ok ∧ emitReport cb (some c) (some s) sid kind w =
      let q := collect cb sid (w.s3 s i) w
      ⟨st, q.state, q.trace⟩ := by
  obtain ⟨array, out, -, -, he⟩ := emitReport_found cb c hf
  rw [Prog.bind_apply, ← collect] at he
  by_cases hst : (collect cb sid (w.s3 s i) w).val.st = .ok
  · have hlong : (collect cb sid (w.s3 s i) w).val.outLen > offered cfg :=
      UInt16.not_le.mp fun hle ↦ h ⟨hst, hle⟩
    refine ⟨.badLength, by decide, ?_⟩
    simpa only [hst, ne_eq, not_true_eq_false, if_false, if_pos hlong, Prog.pure_apply,
      Trace.append_nil] using he
  · refine ⟨(collect cb sid (w.s3 s i) w).val.st, hst, ?_⟩
    simpa only [ne_eq, if_pos hst, Prog.pure_apply, Trace.append_nil] using he

theorem emitReport_accepted (hf : findEntry (w.s3 s) sid kind = some i)
    (h : (collect cb sid (w.s3 s i) w).val.Accepted cfg)
    (hlen : (collect cb sid (w.s3 s i) w).val.outLen.toNat ≤
      (collect cb sid (w.s3 s i) w).val.bytes.length) :
    emitReport cb (some c) (some s) sid kind w =
      let q := collect cb sid (w.s3 s i) w
      let r := (if FitsBehindId cfg q.val.outLen.toNat then
        emitPacket cb c 3 (reportSubtype kind) (q.state.ctx c).defaultDestinationId
          (split16 sid ++ q.val.bytes.take q.val.outLen.toNat)
        else pure .bufferTooSmall : Pus cfg A Status) q.state
      ⟨r.val, r.state, q.trace ++ r.trace⟩ := by
  obtain ⟨hst, hle⟩ := h
  obtain ⟨array, out, harray, hout, he⟩ := emitReport_found cb c hf
  have hlong : ¬ (collect cb sid (w.s3 s i) w).val.outLen > offered cfg := UInt16.not_lt.mpr hle
  have hmax : (collect cb sid (w.s3 s i) w).val.outLen.toNat ≤ cfg.maxTmPayloadLen :=
    (UInt16.le_iff_toNat_le.mp hle).trans (Nat.mod_le _ _)
  rw [Prog.bind_apply, ← collect] at he
  simp only [hst, ne_eq, not_true_eq_false, if_false, if_neg hlong, readCtx_bind_apply,
    pusTmBuild_local harray hout hmax hlen] at he
  exact he

/-- A report keeps the promise made to its provider exactly when the data that the provider was
allowed to return leaves room for the SID. -/
theorem hkReported_iff (hc : Collects cb c (w.s3 s i).provider)
    (hf : findEntry (w.s3 s) sid kind = some i) :
    HkReported cb c sid (reportSubtype kind) (w.s3 s i) w
        (emitReport cb (some c) (some s) sid kind w) ↔
      ((collect cb sid (w.s3 s i) w).val.Accepted cfg →
        FitsBehindId cfg (collect cb sid (w.s3 s i) w).val.outLen.toNat) := by
  have hlen (h : (collect cb sid (w.s3 s i) w).val.Accepted cfg) := hc.length _ _ _ _ h.1 h.2
  constructor
  · intro h hacc
    by_contra hno
    have hsent := (h.sent hacc).packets
    simp only [emitReport_accepted hf hacc (hlen hacc), if_neg hno] at hsent
    cases hsent
  · intro h
    constructor
    · intro hacc
      simp only [emitReport_accepted hf hacc (hlen hacc), if_pos (h hacc)]
      obtain ⟨hpackets, hdeliveries, hstatus⟩ := emitPacket_sends cb c 3
        (reportSubtype kind) ((collect cb sid (w.s3 s i) w).state.ctx c).defaultDestinationId
        (split16 sid ++ (collect cb sid (w.s3 s i) w).val.bytes.take
          (collect cb sid (w.s3 s i) w).val.outLen.toNat) (collect cb sid (w.s3 s i) w).state
      exact ⟨hpackets, hdeliveries, hstatus⟩
    · intro href
      obtain ⟨st, hst, he⟩ := emitReport_refused cb c hf href
      rw [he]
      exact ⟨hst, rfl, hc.counter _ _ _ _⟩

def providing (n : UInt16) : Callbacks .default Unit :=
  { Callbacks.quiet with
    provider _ _ _ _ := pure ⟨.ok, List.replicate n.toNat 0x5A, n⟩ }

theorem providing_collects (n : UInt16) (c f : Ptr) : Collects (providing n) c f where
  length _ _ _ _ _ _ := (List.length_replicate ..).ge
  counter _ _ _ _ := rfl

def oneStructure : World .default Unit :=
  (pusService3RegisterHk (some 0) 1 (some 3) 0 (.cleared ())).state

end EmbeddedPus
