import EmbeddedPus.Handler
import EmbeddedPus.TmBuild

namespace EmbeddedPus

open CallTrace Buffer ByteOrder Function SlotTable

variable {cfg : Config} {A : Type} (cb : Callbacks cfg A)

def readS20 (s : Ptr) : Pus cfg A (Service20Ctx cfg) := do pure ((← Prog.get).s20 s)

def writeS20 (s : Ptr) (t : Service20Ctx cfg) : Pus cfg A Unit :=
  Prog.modify fun w ↦ { w with s20 := update w.s20 s t }

@[simp] theorem readS20_apply (s : Ptr) (w : World cfg A) :
    (readS20 s : Pus cfg A _) w = ⟨w.s20 s, w, .nil⟩ := rfl

@[simp] theorem readS20_bind_apply {α : Type} (s : Ptr) (f : Service20Ctx cfg → Pus cfg A α)
    (w : World cfg A) : (readS20 s >>= f) w = f (w.s20 s) w := rfl

@[simp] theorem writeS20_apply (s : Ptr) (t : Service20Ctx cfg) (w : World cfg A) :
    (writeS20 s t : Pus cfg A _) w = ⟨(), { w with s20 := update w.s20 s t }, .nil⟩ := rfl

/-- The test the scans of `pus_service_20.c` make on a slot. -/
def paramMatches (t : Service20Ctx cfg) (paramId : UInt16) (i : Fin cfg.service20MaxParams) :
    Bool :=
  (t i).isUsed && (t i).paramId == paramId

def findParam (t : Service20Ctx cfg) (paramId : UInt16) : Option (Fin cfg.service20MaxParams) :=
  Fin.find? (paramMatches t paramId)

def pusService20Init (s20 : Option Ptr) : Pus cfg A Status :=
  match s20 with
  | none => pure .null
  | some s => do
    writeS20 s fun _ ↦ .zero
    pure .ok

def pusService20RegisterParam (s20 : Option Ptr) (paramId valueLen : UInt16) (getter : Option Ptr)
    (setter : Option Ptr) (userData : Ptr) : Pus cfg A Status :=
  match s20, getter with
  | some s, some g => do
    let t ← readS20 s
    match scan (fun i ↦ (t i).isUsed) (paramMatches t paramId) with
    | .found i =>
      writeS20 s (update t i
        { t i with valueLen := valueLen, getter := g, setter := setter, userData := userData })
      pure .ok
    | .full => pure .tableFull
    | .free i =>
      writeS20 s (update t i ⟨paramId, valueLen, g, setter, userData, true⟩)
      pure .ok
  | _, _ => pure .null

/-- Call the getter of an entry with the payload buffer from offset `off` on. -/
def callGetter (e : ParamEntry) (paramId : UInt16) (off : ℕ) (capacity : UInt16) :
    Pus cfg A Got :=
  Prog.call (fun _ r ↦ .getter e.getter e.userData paramId off capacity r.st r.bytes)
    (cb.getter e.getter paramId capacity e.userData)

/-- Call a setter with `len` bytes of the TC payload from offset `off` on. What of them lies behind
the end of the payload is not known here. -/
def callSetter (setter userData : Ptr) (paramId : UInt16) (tc : TcPacket) (off : ℕ) (len : UInt16) :
    Pus cfg A Status :=
  let buf := (tc.payload.drop off).take len.toNat
  Prog.call (fun _ st ↦ .setter setter userData paramId off len buf st)
    (cb.setter setter paramId buf len userData)

/-- Where a loop over a payload stops: its status, the buffer it fills and the offset reached. -/
structure Filled where
  st : Status
  payload : List UInt8
  off : UInt16

/-- The loop of `pus_service_20_emit_report` over the ids still to be reported. -/
def emitReportLoop (s : Ptr) : List UInt16 → List UInt8 → UInt16 → Pus cfg A Filled
  | [], payload, off => pure ⟨.ok, payload, off⟩
  | pid :: ids, payload, off => do
    let t ← readS20 s
    match findParam t pid with
    | none => pure ⟨.noHandler, payload, off⟩
    | some i =>
      let valueLen := (t i).valueLen
      -- the sum wraps at sixteen bits before it is compared
      if off + 2 + valueLen > UInt16.ofNat cfg.maxTmPayloadLen then
        pure ⟨.bufferTooSmall, payload, off⟩
      else do
        let payload := writeAt payload off.toNat [(pid >>> 8).toUInt8]
        let payload := writeAt payload (off.toNat + 1) [(pid &&& 0xFF).toUInt8]
        let off := off + 2
        let r ← callGetter cb (t i) pid off.toNat valueLen
        let payload := writeAt payload off.toNat r.bytes
        if r.st ≠ .ok then pure ⟨r.st, payload, off⟩
        else emitReportLoop s ids payload (off + valueLen)

def pusService20EmitReport (ctx s20 : Option Ptr) (paramIds : Option (List UInt16))
    (count : UInt8) : Pus cfg A Status :=
  match ctx, s20, paramIds with
  | some c, some s, some ids => do
    let payload ← localArray cfg.maxTmPayloadLen
    let out ← localArray (pusTmSecHeaderLen.toNat + cfg.maxTmPayloadLen)
    let payload := writeAt payload 0 [count]
    let requested := (List.range count.toNat).map (ids.getD · 0)
    let r ← emitReportLoop cb s requested payload 1
    if r.st ≠ .ok then pure r.st
    else do
      let k ← readCtx c
      let r ← pusTmBuild cb (some c) pusServiceParameterManagement pusSubtypeParameterValueReport
        k.defaultDestinationId (some r.payload) r.off (some out) (UInt16.ofNat out.length) (some 0)
      pure r.st
  | _, _, _ => pure .null

def readIds (tc : TcPacket) : ℕ → ℕ → Pus cfg A (List UInt16)
  | 0, _ => pure []
  | n + 1, i => do
    let hi ← readPayload tc (1 + i * 2)
    let lo ← readPayload tc (2 + i * 2)
    let ids ← readIds tc n (i + 1)
    pure (join16 hi lo :: ids)

def handleTc20_1 (c : Ptr) (tc : TcPacket) (userData : Ptr) : Pus cfg A Status :=
  if tc.payloadLen < 1 then pure .badLength
  else do
    let n ← readPayload tc 0
    if n.toNat > cfg.service20MaxParams then pure .badLength
    else if tc.payloadLen < 1 + n.toUInt16 * 2 then pure .badLength
    else do
      let ids ← readIds tc n.toNat 0
      pusService20EmitReport cb (some c) (some userData) (some ids) n

/-- The loop of `handle_tc_20_3` over the `n` instructions still to be carried out. It returns the
offset it reached along with the status. -/
def setValuesLoop (s : Ptr) (tc : TcPacket) : ℕ → UInt16 → Pus cfg A (Status × UInt16)
  | 0, off => pure (.ok, off)
  | n + 1, off =>
    if off + 2 > tc.payloadLen then pure (.badLength, off)
    else do
      let hi ← readPayload tc off.toNat
      let lo ← readPayload tc (off.toNat + 1)
      let pid := join16 hi lo
      let off := off + 2
      let t ← readS20 s
      match findParam t pid with
      | none => pure (.noHandler, off)
      | some i =>
        let valueLen := (t i).valueLen
        -- the sum wraps at sixteen bits before it is compared
        if off + valueLen > tc.payloadLen then pure (.badLength, off)
        else
          match (t i).setter with
          | none => pure (.handlerFailed, off)
          | some f => do
            let st ← callSetter cb f (t i).userData pid tc off.toNat valueLen
            if st ≠ .ok then pure (st, off)
            else setValuesLoop s tc n (off + valueLen)

def handleTc20_3 (tc : TcPacket) (userData : Ptr) : Pus cfg A Status :=
  if tc.payloadLen < 1 then pure .badLength
  else do
    let n ← readPayload tc 0
    let r ← setValuesLoop cb userData tc n.toNat 1
    pure r.1

def pusService20RegisterHandlers (ctx s20 : Option Ptr) : Pus cfg A Status :=
  match ctx, s20 with
  | some c, some s =>
    registerTwo c pusServiceParameterManagement pusSubtypeParameterReportValues
      pusSubtypeParameterSetValues .handleTc20_1 .handleTc20_3 s
  | _, _ => pure .null

/-- The slot a parameter has: the first in use for it. -/
structure ParamSlot (t : Service20Ctx cfg) (pid : UInt16) (i : Fin cfg.service20MaxParams) :
    Prop where
  isUsed : (t i).isUsed
  paramId : (t i).paramId = pid
  first : ∀ j < i, (t j).isUsed → (t j).paramId ≠ pid

def Unregistered (t : Service20Ctx cfg) (pid : UInt16) : Prop :=
  ∀ i, (t i).isUsed → (t i).paramId ≠ pid

instance (t : Service20Ctx cfg) (pid : UInt16) : Decidable (Unregistered t pid) :=
  inferInstanceAs (Decidable (∀ i, (t i).isUsed → (t i).paramId ≠ pid))

section FindParam

variable {t : Service20Ctx cfg} {pid : UInt16} {i : Fin cfg.service20MaxParams}

theorem paramMatches_iff : paramMatches t pid i ↔ (t i).isUsed ∧ (t i).paramId = pid := by
  rw [paramMatches, Bool.and_eq_true, beq_iff_eq]

theorem findParam_eq_some_iff : findParam t pid = some i ↔ ParamSlot t pid i := by
  rw [findParam, Fin.find?_eq_some_iff, paramMatches_iff]
  constructor
  · rintro ⟨⟨hu, hp⟩, hfirst⟩
    refine ⟨hu, hp, fun j hj huj hpj ↦ ?_⟩
    exact Bool.false_ne_true ((hfirst j hj).symm.trans (paramMatches_iff.mpr ⟨huj, hpj⟩))
  · intro h
    refine ⟨⟨h.isUsed, h.paramId⟩, fun j hj ↦ Bool.eq_false_iff.mpr fun hmatch ↦ ?_⟩
    obtain ⟨huj, hpj⟩ := paramMatches_iff.mp hmatch
    exact h.first j hj huj hpj

theorem findParam_eq_none_iff : findParam t pid = none ↔ Unregistered t pid := by
  rw [findParam, Fin.find?_eq_none_iff, Unregistered]
  simp only [Bool.eq_false_iff, ne_eq, paramMatches_iff, not_and]

theorem isUsed_of_findParam (h : findParam t pid = some i) : (t i).isUsed :=
  (findParam_eq_some_iff.mp h).isUsed

end FindParam

theorem toNat_add_two {off : UInt16} (h : off.toNat < 65534) : (off + 2).toNat = off.toNat + 2 := by
  rw [UInt16.toNat_add]
  exact Nat.mod_eq_of_lt (by simp only [UInt16.reduceToNat]; omega)

theorem end_toNat {off len : UInt16} (h : off.toNat + 2 + len.toNat < 65536) :
    (off + 2 + len).toNat = off.toNat + 2 + len.toNat := by
  rw [UInt16.toNat_add, toNat_add_two (by omega)]
  exact Nat.mod_eq_of_lt h

theorem end_wrapped {off len : UInt16} (ho : off.toNat < 65534)
    (h : 65536 ≤ off.toNat + 2 + len.toNat) :
    (off + 2 + len).toNat = off.toNat + 2 + len.toNat - 65536 := by
  have hlen := len.toNat_lt
  rw [UInt16.toNat_add, toNat_add_two ho]
  omega

def oneParam (valueLen : UInt16) : World .default Unit :=
  let init : Pus .default Unit Status := do
    let _ ← pusService20Init (some 0)
    pusService20RegisterParam (some 0) 1 valueLen (some 3) (some 4) 0
  (init (.cleared ())).state

end EmbeddedPus
