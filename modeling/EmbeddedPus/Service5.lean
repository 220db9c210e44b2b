import EmbeddedPus.TmBuild

namespace EmbeddedPus

open CallTrace Buffer ByteOrder

variable {cfg : Config} {A : Type} (cb : Callbacks cfg A)

abbrev evidLen : UInt16 := 2

def pusService5Emit (ctx : Option Ptr) (subtype : UInt8) (eventId : UInt16)
    (auxData : Option (List UInt8)) (auxLen : UInt16) : Pus cfg A Status :=
  match ctx with
  | none => pure .null
  | some c =>
    if auxLen > 0 ∧ auxData = none then pure .null
    else if auxLen.toNat > cfg.maxTmPayloadLen then pure .bufferTooSmall
    else do
      let payload ← localArray (evidLen.toNat + cfg.maxTmPayloadLen)
      let out ← localArray (pusTmSecHeaderLen.toNat + evidLen.toNat + cfg.maxTmPayloadLen)
      let payload := writeAt payload 0 (split16 eventId)
      let payload := writeAt payload evidLen.toNat (payloadBytes auxData auxLen)
      let k ← readCtx c
      let r ← pusTmBuild cb (some c) pusServiceEventReporting subtype k.defaultDestinationId
        (some payload) (evidLen + auxLen) (some out) (UInt16.ofNat out.length) (some 0)
      pure r.st

end EmbeddedPus
