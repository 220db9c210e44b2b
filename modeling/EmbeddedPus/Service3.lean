import EmbeddedPus.TmBuild
import EmbeddedPus.Library.SlotTable

namespace EmbeddedPus

open CallTrace Buffer ByteOrder Function SlotTable

variable {cfg : Config} {A : Type} (cb : Callbacks cfg A)

abbrev sidLen : UInt16 := 2
abbrev pusService3KindHk : UInt8 := 0
abbrev pusService3KindDiag : UInt8 := 1

def readS3 (s : Ptr) : Pus cfg A (Service3Ctx cfg) := do pure ((← Prog.get).s3 s)

def writeS3 (s : Ptr) (t : Service3Ctx cfg) : Pus cfg A Unit :=
  Prog.modify fun w ↦ { w with s3 := update w.s3 s t }

@[simp] theorem readS3_apply (s : Ptr) (w : World cfg A) :
    (readS3 s : Pus cfg A _) w = ⟨w.s3 s, w, .nil⟩ := rfl

@[simp] theorem readS3_bind_apply {α : Type} (s : Ptr) (f : Service3Ctx cfg → Pus cfg A α)
    (w : World cfg A) : (readS3 s >>= f) w = f (w.s3 s) w := rfl

@[simp] theorem writeS3_apply (s : Ptr) (t : Service3Ctx cfg) (w : World cfg A) :
    (writeS3 s t : Pus cfg A _) w = ⟨(), { w with s3 := update w.s3 s t }, .nil⟩ := rfl

def hkMatches (t : Service3Ctx cfg) (sid : UInt16) (kind : UInt8)
    (i : Fin cfg.service3MaxStructures) : Bool :=
  (t i).isUsed && (t i).sid == sid && (t i).kind == kind

def findEntry (t : Service3Ctx cfg) (sid : UInt16) (kind : UInt8) :
    Option (Fin cfg.service3MaxStructures) :=
  Fin.find? (hkMatches t sid kind)

def registerStructure (s3 : Option Ptr) (sid : UInt16) (kind : UInt8) (provider : Option Ptr)
    (userData : Ptr) : Pus cfg A Status :=
  match s3, provider with
  | some s, some p => do
    let t ← readS3 s
    match scan (fun i ↦ (t i).isUsed) (hkMatches t sid kind) with
    | .found i =>
      writeS3 s (update t i { t i with provider := p, userData := userData })
      pure .ok
    | .full => pure .tableFull
    | .free i =>
      writeS3 s (update t i ⟨sid, kind, p, userData, true⟩)
      pure .ok
  | _, _ => pure .null

/-- Call the provider of an entry with the payload buffer behind the SID. -/
def callProvider (e : HkEntry) (sid capacity : UInt16) : Pus cfg A Provided :=
  Prog.call (fun _ r ↦ .provider e.provider e.userData sid capacity r.st r.bytes r.outLen)
    (cb.provider e.provider sid capacity e.userData)

def emitReport (ctx s3 : Option Ptr) (sid : UInt16) (kind : UInt8) : Pus cfg A Status :=
  match ctx, s3 with
  | some c, some s => do
    let t ← readS3 s
    match findEntry t sid kind with
    | none => pure .noHandler
    | some i => do
      let subtype :=
        if kind = pusService3KindDiag then pusSubtypeHousekeepingDiagnosticReport
        else pusSubtypeHousekeepingParameterReport
      let payload ← localArray (sidLen.toNat + cfg.maxTmPayloadLen)
      let out ← localArray (pusTmSecHeaderLen.toNat + sidLen.toNat + cfg.maxTmPayloadLen)
      let payload := writeAt payload 0 (split16 sid)
      let capacity := UInt16.ofNat (payload.length - sidLen.toNat)
      let r ← callProvider cb (t i) sid capacity
      let payload := writeAt payload sidLen.toNat r.bytes
      if r.st ≠ .ok then pure r.st
      else if r.outLen > capacity then pure .badLength
      else do
        let k ← readCtx c
        let r ← pusTmBuild cb (some c) pusServiceHousekeeping subtype k.defaultDestinationId
          (some payload) (sidLen + r.outLen) (some out) (UInt16.ofNat out.length) (some 0)
        pure r.st
  | _, _ => pure .null

def pusService3Init (s3 : Option Ptr) : Pus cfg A Status :=
  match s3 with
  | none => pure .null
  | some s => do
    writeS3 s fun _ ↦ .zero
    pure .ok

def pusService3RegisterHk (s3 : Option Ptr) (sid : UInt16) (provider : Option Ptr)
    (userData : Ptr) : Pus cfg A Status :=
  registerStructure s3 sid pusService3KindHk provider userData

def pusService3RegisterDiag (s3 : Option Ptr) (sid : UInt16) (provider : Option Ptr)
    (userData : Ptr) : Pus cfg A Status :=
  registerStructure s3 sid pusService3KindDiag provider userData

def pusService3EmitHk (ctx s3 : Option Ptr) (sid : UInt16) : Pus cfg A Status :=
  emitReport cb ctx s3 sid pusService3KindHk

def pusService3EmitDiag (ctx s3 : Option Ptr) (sid : UInt16) : Pus cfg A Status :=
  emitReport cb ctx s3 sid pusService3KindDiag

end EmbeddedPus
