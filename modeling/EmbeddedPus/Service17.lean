import EmbeddedPus.Handler
import EmbeddedPus.TmBuild

namespace EmbeddedPus

open CallTrace ByteOrder

variable {cfg : Config} {A : Type} (cb : Callbacks cfg A)

abbrev apidLen : UInt16 := 2

def buildAndEmit (ctx : Option Ptr) (subtype : UInt8) (destinationId : UInt16)
    (payload : Option (List UInt8)) (payloadLen : UInt16) : Pus cfg A Status := do
  let out ← localArray (pusTmSecHeaderLen + apidLen).toNat
  let r ← pusTmBuild cb ctx pusServiceTest subtype destinationId payload payloadLen (some out)
    (pusTmSecHeaderLen + apidLen) (some 0)
  pure r.st

def pusService17EmitAliveReport (ctx : Option Ptr) (destinationId : UInt16) : Pus cfg A Status :=
  match ctx with
  | none => pure .null
  | some c => buildAndEmit cb (some c) pusSubtypeTestAreYouAliveReport destinationId none 0

def pusService17EmitConnectionReport (ctx : Option Ptr) (apid destinationId : UInt16) :
    Pus cfg A Status :=
  match ctx with
  | none => pure .null
  | some c =>
    buildAndEmit cb (some c) pusSubtypeTestOnBoardConnectionReport destinationId
      (some (split16 apid)) apidLen

def handleTc17_1 (c : Ptr) (tc : TcPacket) : Pus cfg A Status :=
  pusService17EmitAliveReport cb (some c) tc.secHeader.sourceId

def handleTc17_3 (c : Ptr) (tc : TcPacket) : Pus cfg A Status :=
  if tc.payloadLen < apidLen then pure .badLength
  else do
    let hi ← readPayload tc 0
    let lo ← readPayload tc 1
    pusService17EmitConnectionReport cb (some c) (join16 hi lo) tc.secHeader.sourceId

def pusService17RegisterHandlers (ctx : Option Ptr) : Pus cfg A Status :=
  match ctx with
  | none => pure .null
  | some c =>
    registerTwo c pusServiceTest pusSubtypeTestAreYouAlive pusSubtypeTestOnBoardConnection
      .handleTc17_1 .handleTc17_3 0

variable {cb} {c : Ptr} {tc : TcPacket}

/-- The fourteen bytes of `build_and_emit` hold every packet it is asked for. -/
theorem buildAndEmit_eq {subtype : UInt8} {dest : UInt16} {payload : Option (List UInt8)}
    {payloadLen : UInt16} (hp : payloadLen.toNat ≤ 2)
    (hm : payloadLen.toNat ≤ cfg.maxTmPayloadLen) :
    buildAndEmit cb (some c) subtype dest payload payloadLen =
      emitPacket cb c pusServiceTest subtype dest (payloadBytes payload payloadLen) := by
  have h14 : (pusTmSecHeaderLen + apidLen).toNat = 14 := rfl
  funext w
  rw [buildAndEmit, localArray_bind_apply, pusTmBuild_emits cb 0 hm]
  · omega
  · rw [List.length_map, List.length_range]

theorem handleTc17_1_eq : handleTc17_1 cb c tc =
    emitPacket cb c pusServiceTest pusSubtypeTestAreYouAliveReport tc.secHeader.sourceId [] :=
  buildAndEmit_eq (Nat.zero_le _) (Nat.zero_le _)

theorem handleTc17_3_short (hl : tc.payloadLen < 2) :
    handleTc17_3 cb c tc = pure .badLength := by
  rw [handleTc17_3, if_pos hl]

theorem handleTc17_3_long (hm : 2 ≤ cfg.maxTmPayloadLen) (hl : ¬ tc.payloadLen < 2) :
    handleTc17_3 cb c tc = (do
      let hi ← readPayload tc 0
      let lo ← readPayload tc 1
      emitPacket cb c pusServiceTest pusSubtypeTestOnBoardConnectionReport tc.secHeader.sourceId
        [hi, lo]) := by
  have happ (apid : UInt16) : pusService17EmitConnectionReport cb (some c) apid
      tc.secHeader.sourceId = emitPacket cb c pusServiceTest
        pusSubtypeTestOnBoardConnectionReport tc.secHeader.sourceId (split16 apid) :=
    buildAndEmit_eq (Nat.le_refl 2) hm
  simp only [handleTc17_3, if_neg hl, happ, split16_join16]

end EmbeddedPus
