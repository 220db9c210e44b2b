import EmbeddedPus.Emission
import EmbeddedPus.Service5

namespace EmbeddedPus

open CallTrace Buffer ByteOrder

variable {cfg : Config} {A : Type} (cb : Callbacks cfg A) (c : Ptr) (subtype : UInt8)
  (eventId : UInt16)

def EventRefused (cfg : Config) (auxData : Option (List UInt8)) (auxLen : UInt16) : Prop :=
  (auxData = none ∧ auxLen ≠ 0) ∨ cfg.maxTmPayloadLen < auxLen.toNat

/-- Auxiliary data up to the configured length leaves in one event report, and any other is turned
away without a trace. -/
structure EventReported (auxData : Option (List UInt8)) (auxLen : UInt16) (w : World cfg A) :
    Prop where
  refused : EventRefused cfg auxData auxLen → ∃ st, st ≠ .ok ∧
    pusService5Emit cb (some c) subtype eventId auxData auxLen w = ⟨st, w, .nil⟩
  sent : ¬ EventRefused cfg auxData auxLen →
    let r := pusService5Emit cb (some c) subtype eventId auxData auxLen w
    Sends c ((callTimeSource cb c w).state.ctx c)
      (tmSecHeaderBytes (stampedHeader cb c 5 subtype (w.ctx c).defaultDestinationId w) ++
        (split16 eventId ++ (auxData.getD []).take auxLen.toNat)) r.val r.trace

variable {cb c subtype eventId} {auxData : Option (List UInt8)} {auxLen : UInt16} {w : World cfg A}

theorem pusService5Emit_refused (h : EventRefused cfg auxData auxLen) : ∃ st, st ≠ .ok ∧
    pusService5Emit cb (some c) subtype eventId auxData auxLen = pure st := by
  have hpos : auxLen ≠ 0 → auxLen > 0 := UInt16.pos_iff_ne_zero.mpr
  rcases h with ⟨hnone, hlen⟩ | hlen
  · refine ⟨.null, by decide, ?_⟩
    simp only [pusService5Emit, if_pos (And.intro (hpos hlen) hnone)]
  · by_cases hn : auxLen > 0 ∧ auxData = none
    · exact ⟨.null, by decide, by simp only [pusService5Emit, if_pos hn]⟩
    · exact ⟨.bufferTooSmall, by decide, by simp only [pusService5Emit, if_neg hn, if_pos hlen]⟩

theorem pusService5Emit_accepted (hp : ∀ p, auxData = some p → auxLen.toNat ≤ p.length)
    (h : ¬ EventRefused cfg auxData auxLen) :
    pusService5Emit cb (some c) subtype eventId auxData auxLen w =
      (if FitsBehindId cfg auxLen.toNat then
        emitPacket cb c 5 subtype (w.ctx c).defaultDestinationId
          (split16 eventId ++ (auxData.getD []).take auxLen.toNat)
      else pure .bufferTooSmall : Pus cfg A Status) w := by
  obtain ⟨hnull, hlong⟩ := not_or.mp h
  have hnone : ¬ (auxLen > 0 ∧ auxData = none) := by
    rintro ⟨hpos, hn⟩
    exact hnull ⟨hn, UInt16.pos_iff_ne_zero.mp hpos⟩
  have hdata : (payloadBytes auxData auxLen).take auxLen.toNat =
      (auxData.getD []).take auxLen.toNat := by
    cases auxData with
    | some p => rw [payloadBytes_some (hp p rfl), List.take_take, Nat.min_self, Option.getD_some]
    | none =>
      have h0 : auxLen = 0 := by
        by_contra hne
        exact hnull ⟨rfl, hne⟩
      rw [h0]
      rfl
  simp only [pusService5Emit, if_neg hnone, if_neg hlong, localArray_bind_apply,
    readCtx_bind_apply]
  rw [← hdata]
  refine congrFun (pusTmBuild_local ?_ ?_ ?_ ?_) w
  · rw [List.length_map, List.length_range]
    rfl
  · rw [List.length_map, List.length_range]
    rfl
  · exact Nat.not_lt.mp hlong
  · rw [length_payloadBytes]

end EmbeddedPus
