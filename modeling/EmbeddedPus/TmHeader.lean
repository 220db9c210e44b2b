import EmbeddedPus.Codec
import Mathlib.Logic.Equiv.Defs

namespace EmbeddedPus

open ByteOrder Buffer

structure TmFields extends TmSecHeader where
  version_lt : version < 16
  timeRefStatus_lt : timeRefStatus < 16

theorem TmFields.ext_header {f g : TmFields} (h : f.toTmSecHeader = g.toTmSecHeader) : f = g := by
  cases f
  cases g
  cases h
  rfl

theorem tmSecHeaderOf_version_lt (data : List UInt8) : (tmSecHeaderOf data).version < 16 := by
  have hb := (data.getD 0 0).toNat_lt
  apply UInt8.lt_iff_toNat_lt.mpr
  rw [tmSecHeaderOf, toNat_high_nibble]
  exact Nat.div_lt_of_lt_mul hb

theorem tmSecHeaderOf_timeRefStatus_lt (data : List UInt8) :
    (tmSecHeaderOf data).timeRefStatus < 16 := by
  apply UInt8.lt_iff_toNat_lt.mpr
  rw [tmSecHeaderOf, toNat_and_fifteen]
  exact Nat.mod_lt _ (by decide)

/-- The field space of the TM secondary header and the twelve-byte strings, each recovered from the
other. -/
def tmHeaderEquiv : TmFields ≃ { bytes : List UInt8 // bytes.length = 12 } where
  toFun f := ⟨tmSecHeaderBytes f.toTmSecHeader, length_tmSecHeaderBytes _⟩
  invFun bytes :=
    ⟨tmSecHeaderOf bytes.val, tmSecHeaderOf_version_lt _, tmSecHeaderOf_timeRefStatus_lt _⟩
  left_inv f := by
    have h := tmSecHeaderOf_bytes f.version_lt f.timeRefStatus_lt []
    rw [List.append_nil] at h
    exact TmFields.ext_header h
  right_inv bytes := by
    have h := tmSecHeaderBytes_of bytes.val (Nat.le_of_eq bytes.property.symm)
    exact Subtype.ext (h.trans (List.take_of_length_le (Nat.le_of_eq bytes.property)))

theorem tmSecHeaderOf_take {data : List UInt8} (hl : 12 ≤ data.length) :
    tmSecHeaderOf (data.take 12) = tmSecHeaderOf data := by
  match data, hl with
  | _ :: _ :: _ :: _ :: _ :: _ :: _ :: _ :: _ :: _ :: _ :: _ :: _, _ => rfl

theorem pusTmSecHeaderEncode_stores (h : TmSecHeader) {out : List UInt8} {capacity : UInt16}
    (l : UInt16) (hc : 12 ≤ capacity) (ho : capacity.toNat ≤ out.length) :
    pusTmSecHeaderEncode (some h) (some out) capacity (some l) =
      ⟨.ok, some (tmSecHeaderBytes h ++ out.drop 12), some 12⟩ := by
  have hc' : 12 ≤ capacity.toNat := UInt16.le_iff_toNat_le.mp hc
  have hle : (tmSecHeaderBytes h).length ≤ out.length := Nat.le_trans hc' ho
  rw [pusTmSecHeaderEncode_fits h out l hc, writeAt_zero hle, length_tmSecHeaderBytes]

theorem pusTmSecHeaderEncode_equiv (f : TmFields) {out : List UInt8} {capacity : UInt16}
    (l : UInt16) (hc : 12 ≤ capacity) (ho : capacity.toNat ≤ out.length) :
    pusTmSecHeaderEncode (some f.toTmSecHeader) (some out) capacity (some l) =
      ⟨.ok, some ((tmHeaderEquiv f).val ++ out.drop 12), some 12⟩ :=
  pusTmSecHeaderEncode_stores f.toTmSecHeader l hc ho

theorem pusTmSecHeaderDecode_equiv {data : List UInt8} {len : UInt16} (h₀ : TmSecHeader)
    (hl : 12 ≤ len) (bytes : { bytes : List UInt8 // bytes.length = 12 })
    (hb : bytes.val = data.take 12) :
    pusTmSecHeaderDecode (some data) len (some h₀) =
      (.ok, some (tmHeaderEquiv.symm bytes).toTmSecHeader) := by
  have hd : 12 ≤ data.length := by
    have h := bytes.property
    rw [hb, List.length_take] at h
    omega
  have he : (tmHeaderEquiv.symm bytes).toTmSecHeader = tmSecHeaderOf bytes.val := rfl
  rw [pusTmSecHeaderDecode_fits h₀ hl, he, hb, tmSecHeaderOf_take hd]

/-- Encoding and decoding are inverse to each other between the field space and the twelve-byte
strings; a header outside the field space comes back reduced to it. -/
theorem tm_header_round_trip :
    (∀ (h h₀ : TmSecHeader) (out : List UInt8) (capacity l len : UInt16),
      h.version < 16 → h.timeRefStatus < 16 →
      12 ≤ capacity → capacity.toNat ≤ out.length → 12 ≤ len → len.toNat ≤ out.length →
      ∃ bytes, pusTmSecHeaderEncode (some h) (some out) capacity (some l) =
          ⟨.ok, some bytes, some 12⟩ ∧
        pusTmSecHeaderDecode (some bytes) len (some h₀) = (.ok, some h)) ∧
    (∀ (h h₀ : TmSecHeader) (out : List UInt8) (capacity l len : UInt16),
      12 ≤ capacity → capacity.toNat ≤ out.length → 12 ≤ len → len.toNat ≤ out.length →
      ∃ bytes, pusTmSecHeaderEncode (some h) (some out) capacity (some l) =
          ⟨.ok, some bytes, some 12⟩ ∧
        pusTmSecHeaderDecode (some bytes) len (some h₀) =
          (.ok, some { h with
            version := h.version % 16
            timeRefStatus := h.timeRefStatus % 16 })) ∧
    (∀ (data : List UInt8) (len : UInt16) (h₀ : TmSecHeader), 12 ≤ len → len.toNat ≤ data.length →
      ∃ f : TmFields,
        pusTmSecHeaderDecode (some data) len (some h₀) = (.ok, some f.toTmSecHeader) ∧
        ∀ (out : List UInt8) (capacity l : UInt16), 12 ≤ capacity → capacity.toNat ≤ out.length →
          ∃ bytes, pusTmSecHeaderEncode (some f.toTmSecHeader) (some out) capacity (some l) =
              ⟨.ok, some bytes, some 12⟩ ∧
            bytes.take 12 = data.take 12) := by
  refine ⟨?_, ?_, ?_⟩
  · intro h h₀ out capacity l len hv ht hc ho hl _
    have henc := pusTmSecHeaderEncode_equiv ⟨h, hv, ht⟩ l hc ho
    refine ⟨_, henc, ?_⟩
    have hb : (tmHeaderEquiv ⟨h, hv, ht⟩).val =
        ((tmHeaderEquiv ⟨h, hv, ht⟩).val ++ out.drop 12).take 12 :=
      (List.take_left' (tmHeaderEquiv ⟨h, hv, ht⟩).property).symm
    rw [pusTmSecHeaderDecode_equiv h₀ hl _ hb, Equiv.symm_apply_apply]
  · intro h h₀ out capacity l len hc ho hl _
    refine ⟨_, pusTmSecHeaderEncode_stores h l hc ho, ?_⟩
    rw [pusTmSecHeaderDecode_fits h₀ hl, tmSecHeaderOf_bytes_append]
  · intro data len h₀ hl hd
    have hl' : 12 ≤ len.toNat := UInt16.le_iff_toNat_le.mp hl
    have hlen : (data.take 12).length = 12 := by
      rw [List.length_take]
      omega
    refine ⟨_, pusTmSecHeaderDecode_equiv h₀ hl ⟨data.take 12, hlen⟩ rfl, ?_⟩
    intro out capacity l hc ho
    refine ⟨_, pusTmSecHeaderEncode_equiv _ l hc ho, ?_⟩
    rw [Equiv.apply_symm_apply]
    exact List.take_left' hlen

theorem tm_header_round_trip_oversized :
    (∃ bytes, pusTmSecHeaderEncode (some ⟨1, 2, 17, 2, 0x1234, 7, 0xDEADBEEF, 0x5A⟩)
        (some (List.replicate 13 0)) 12 (some 0) = ⟨.ok, some bytes, some 12⟩ ∧
      pusTmSecHeaderDecode (some bytes) 12 (some ⟨0, 0, 0, 0, 0, 0, 0, 0⟩) =
        (.ok, some ⟨1, 2, 17, 2, 0x1234, 7, 0xDEADBEEF, 0x5A⟩)) ∧
    (∃ bytes, pusTmSecHeaderEncode (some ⟨0x11, 0xF2, 17, 2, 0x1234, 7, 0xDEADBEEF, 0x5A⟩)
        (some (List.replicate 13 0)) 12 (some 0) = ⟨.ok, some bytes, some 12⟩ ∧
      pusTmSecHeaderDecode (some bytes) 12 (some ⟨0, 0, 0, 0, 0, 0, 0, 0⟩) =
        (.ok, some ⟨1, 2, 17, 2, 0x1234, 7, 0xDEADBEEF, 0x5A⟩)) ∧
    ∃ f : TmFields, pusTmSecHeaderDecode (some (List.replicate 12 0xA5)) 12
      (some ⟨0, 0, 0, 0, 0, 0, 0, 0⟩) = (.ok, some f.toTmSecHeader) := by
  refine ⟨?_, ?_, ?_⟩
  · exact tm_header_round_trip.1 ⟨1, 2, 17, 2, 0x1234, 7, 0xDEADBEEF, 0x5A⟩
      ⟨0, 0, 0, 0, 0, 0, 0, 0⟩ (List.replicate 13 0) 12 0 12 (by decide) (by decide) (by decide)
      (by decide) (by decide) (by decide)
  · exact tm_header_round_trip.2.1 ⟨0x11, 0xF2, 17, 2, 0x1234, 7, 0xDEADBEEF, 0x5A⟩
      ⟨0, 0, 0, 0, 0, 0, 0, 0⟩ (List.replicate 13 0) 12 0 12 (by decide) (by decide) (by decide)
      (by decide)
  · obtain ⟨f, hf, -⟩ := tm_header_round_trip.2.2 (List.replicate 12 0xA5) 12
      ⟨0, 0, 0, 0, 0, 0, 0, 0⟩ (by decide) (by decide)
    exact ⟨f, hf⟩

end EmbeddedPus
