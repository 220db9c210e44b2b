import EmbeddedPus.Types
import EmbeddedPus.Library.Buffer
import EmbeddedPus.Library.ByteOrder

namespace EmbeddedPus

open ByteOrder Buffer

variable {cfg : Config} {A : Type}

/-- What a function that fills a caller's buffer leaves: its status, and the two objects behind its
output pointers. -/
structure Written where
  st : Status
  out : Option (List UInt8)
  outLen : Option UInt16
  deriving DecidableEq, Repr

def readU16Be (p : List UInt8) : UInt16 := join16 (p.getD 0 0) (p.getD 1 0)

def readU32Be (p : List UInt8) : UInt32 :=
  join32 (p.getD 0 0) (p.getD 1 0) (p.getD 2 0) (p.getD 3 0)

def writeU16Be (v : UInt16) : List UInt8 := split16 v

def writeU32Be (v : UInt32) : List UInt8 := split32 v

/-- The fields `pus_tc_sec_header_decode` reads. -/
def tcSecHeaderOf (data : List UInt8) : TcSecHeader where
  version := (data.getD 0 0 >>> 4) &&& 0x0F
  ackFlags := data.getD 0 0 &&& 0x0F
  serviceTypeId := data.getD 1 0
  subtypeId := data.getD 2 0
  sourceId := readU16Be (data.drop 3)
  time := readU32Be (data.drop 5)
  spare := data.getD 9 0

/-- The bytes `pus_tc_sec_header_encode` writes. -/
def tcSecHeaderBytes (h : TcSecHeader) : List UInt8 :=
  [joinNibbles h.version h.ackFlags, h.serviceTypeId, h.subtypeId] ++ writeU16Be h.sourceId ++
    writeU32Be h.time ++ [h.spare]

def pusTcSecHeaderDecode (data : Option (List UInt8)) (len : UInt16)
    (header : Option TcSecHeader) : Status × Option TcSecHeader :=
  match data, header with
  | some data, some header =>
    if len < pusTcSecHeaderLen then (.badLength, some header)
    else if (tcSecHeaderOf data).version ≠ pusVersion then
      -- the fields are already stored when the version is looked at
      (.badVersion, some (tcSecHeaderOf data))
    else (.ok, some (tcSecHeaderOf data))
  | _, header => (.null, header)

def pusTcSecHeaderEncode (header : Option TcSecHeader) (out : Option (List UInt8))
    (capacity : UInt16) (outLen : Option UInt16) : Written :=
  match header, out, outLen with
  | some header, some o, some l =>
    if capacity < pusTcSecHeaderLen then ⟨.bufferTooSmall, some o, some l⟩
    else ⟨.ok, some (writeAt o 0 (tcSecHeaderBytes header)), some pusTcSecHeaderLen⟩
  | _, out, outLen => ⟨.null, out, outLen⟩

def tmSecHeaderOf (data : List UInt8) : TmSecHeader where
  version := (data.getD 0 0 >>> 4) &&& 0x0F
  timeRefStatus := data.getD 0 0 &&& 0x0F
  serviceTypeId := data.getD 1 0
  subtypeId := data.getD 2 0
  msgTypeCounter := readU16Be (data.drop 3)
  destinationId := readU16Be (data.drop 5)
  time := readU32Be (data.drop 7)
  spare := data.getD 11 0

def tmSecHeaderBytes (h : TmSecHeader) : List UInt8 :=
  [joinNibbles h.version h.timeRefStatus, h.serviceTypeId, h.subtypeId] ++
    writeU16Be h.msgTypeCounter ++ writeU16Be h.destinationId ++ writeU32Be h.time ++ [h.spare]

def pusTmSecHeaderDecode (data : Option (List UInt8)) (len : UInt16)
    (header : Option TmSecHeader) : Status × Option TmSecHeader :=
  match data, header with
  | some data, some header =>
    if len < pusTmSecHeaderLen then (.badLength, some header)
    else (.ok, some (tmSecHeaderOf data))
  | _, header => (.null, header)

def pusTmSecHeaderEncode (header : Option TmSecHeader) (out : Option (List UInt8))
    (capacity : UInt16) (outLen : Option UInt16) : Written :=
  match header, out, outLen with
  | some header, some o, some l =>
    if capacity < pusTmSecHeaderLen then ⟨.bufferTooSmall, some o, some l⟩
    else ⟨.ok, some (writeAt o 0 (tmSecHeaderBytes header)), some pusTmSecHeaderLen⟩
  | _, out, outLen => ⟨.null, out, outLen⟩

def pusTcDecode (data : Option (List UInt8)) (len : UInt16) (tc : Option TcPacket) :
    Status × Option TcPacket :=
  match data, tc with
  | some data, some tc =>
    if len < pusTcSecHeaderLen then (.badLength, some tc)
    else
      let r := pusTcSecHeaderDecode (some data) len (some tc.secHeader)
      let tc := { tc with secHeader := r.2.getD tc.secHeader }
      if r.1 ≠ .ok then (r.1, some tc)
      else (.ok, some { tc with payload := data.drop 10, payloadLen := len - pusTcSecHeaderLen })
  | _, tc => (.null, tc)

/-- A read of the payload of the TC in hand. -/
def readPayload (tc : TcPacket) (i : ℕ) : Pus cfg A UInt8 := do
  CallTrace.Prog.act (.read i)
  pure (tc.payload.getD i 0)

@[simp] theorem readPayload_apply (tc : TcPacket) (i : ℕ) (w : World cfg A) :
    (readPayload tc i : Pus cfg A _) w = ⟨tc.payload.getD i 0, w, .act (.read i) .nil⟩ := rfl

theorem readPayload_bind_apply {α : Type} (tc : TcPacket) (i : ℕ) (f : UInt8 → Pus cfg A α)
    (w : World cfg A) : (readPayload tc i >>= f) w =
      let r := f (tc.payload.getD i 0) w
      ⟨r.val, r.state, .act (.read i) r.trace⟩ := rfl

@[simp] theorem length_tcSecHeaderBytes (h : TcSecHeader) : (tcSecHeaderBytes h).length = 10 := rfl

@[simp] theorem length_tmSecHeaderBytes (h : TmSecHeader) : (tmSecHeaderBytes h).length = 12 := rfl

theorem tcSecHeaderOf_bytes {h : TcSecHeader} (hv : h.version < 16) (ha : h.ackFlags < 16)
    (rest : List UInt8) : tcSecHeaderOf (tcSecHeaderBytes h ++ rest) = h := by
  have h₁ : (joinNibbles h.version h.ackFlags >>> 4) &&& 0x0F = h.version := by
    rw [high_joinNibbles, and_fifteen_of_lt hv]
  have h₂ : joinNibbles h.version h.ackFlags &&& 0x0F = h.ackFlags := by
    rw [low_joinNibbles, and_fifteen_of_lt ha]
  have h₃ := join16_split16 h.sourceId
  have h₄ := join32_split32 h.time
  cases h
  simp only [tcSecHeaderOf, tcSecHeaderBytes, writeU16Be, writeU32Be, split16, split32, readU16Be,
    readU32Be, List.cons_append, List.nil_append, List.getD_cons_zero, List.getD_cons_succ,
    List.drop_succ_cons, List.drop_zero, h₁, h₂, h₃, h₄]

theorem tcSecHeaderBytes_of (data : List UInt8) (hl : 10 ≤ data.length) :
    tcSecHeaderBytes (tcSecHeaderOf data) = data.take 10 := by
  match data, hl with
  | b₀ :: b₁ :: b₂ :: b₃ :: b₄ :: b₅ :: b₆ :: b₇ :: b₈ :: b₉ :: rest, _ =>
    have h₀ := joinNibbles_nibbles b₀
    simp only [tcSecHeaderBytes, tcSecHeaderOf, writeU16Be, writeU32Be, readU16Be, readU32Be,
      List.getD_cons_zero, List.getD_cons_succ, List.drop_succ_cons, List.drop_zero,
      split16_join16, split32_join32, h₀]
    rfl

/-- What a header becomes on its way through its bytes: the two four-bit fields lose what does not
fit them, and nothing of that reaches another field. -/
theorem tmSecHeaderOf_bytes_append (h : TmSecHeader) (rest : List UInt8) :
    tmSecHeaderOf (tmSecHeaderBytes h ++ rest) =
      { h with version := h.version % 16, timeRefStatus := h.timeRefStatus % 16 } := by
  have h₁ : (joinNibbles h.version h.timeRefStatus >>> 4) &&& 0x0F = h.version % 16 :=
    (high_joinNibbles _ _).trans (and_fifteen_eq_mod _)
  have h₂ : joinNibbles h.version h.timeRefStatus &&& 0x0F = h.timeRefStatus % 16 :=
    (low_joinNibbles _ _).trans (and_fifteen_eq_mod _)
  have h₃ := join16_split16 h.msgTypeCounter
  have h₄ := join16_split16 h.destinationId
  have h₅ := join32_split32 h.time
  simp only [tmSecHeaderOf, tmSecHeaderBytes, writeU16Be, writeU32Be, split16, split32, readU16Be,
    readU32Be, List.cons_append, List.nil_append, List.getD_cons_zero, List.getD_cons_succ,
    List.drop_succ_cons, List.drop_zero, h₁, h₂, h₃, h₄, h₅]

theorem tmSecHeaderOf_bytes {h : TmSecHeader} (hv : h.version < 16) (ht : h.timeRefStatus < 16)
    (rest : List UInt8) : tmSecHeaderOf (tmSecHeaderBytes h ++ rest) = h := by
  have h₁ : h.version % 16 = h.version := UInt8.mod_eq_of_lt hv
  have h₂ : h.timeRefStatus % 16 = h.timeRefStatus := UInt8.mod_eq_of_lt ht
  rw [tmSecHeaderOf_bytes_append, h₁, h₂]

theorem tmSecHeaderBytes_of (data : List UInt8) (hl : 12 ≤ data.length) :
    tmSecHeaderBytes (tmSecHeaderOf data) = data.take 12 := by
  match data, hl with
  | b₀ :: b₁ :: b₂ :: b₃ :: b₄ :: b₅ :: b₆ :: b₇ :: b₈ :: b₉ :: b₁₀ :: b₁₁ :: rest, _ =>
    have h₀ := joinNibbles_nibbles b₀
    simp only [tmSecHeaderBytes, tmSecHeaderOf, writeU16Be, writeU32Be, readU16Be, readU32Be,
      List.getD_cons_zero, List.getD_cons_succ, List.drop_succ_cons, List.drop_zero,
      split16_join16, split32_join32, h₀]
    rfl

theorem version_tcSecHeaderOf (data : List UInt8) :
    (tcSecHeaderOf data).version = data.getD 0 0 >>> 4 := by
  have hb := (data.getD 0 0).toNat_lt
  apply UInt8.toNat_inj.mp
  simp only [tcSecHeaderOf, toNat_high_nibble, UInt8.toNat_shiftRight, UInt8.reduceToNat,
    Nat.reduceMod, Nat.shiftRight_eq_div_pow, Nat.reducePow]

theorem pusTcSecHeaderEncode_fits (h : TcSecHeader) (out : List UInt8) {capacity : UInt16}
    (l : UInt16) (hc : 10 ≤ capacity) :
    pusTcSecHeaderEncode (some h) (some out) capacity (some l) =
      ⟨.ok, some (writeAt out 0 (tcSecHeaderBytes h)), some 10⟩ := by
  have hn : ¬ capacity < pusTcSecHeaderLen := UInt16.not_lt.mpr hc
  simp only [pusTcSecHeaderEncode, if_neg hn]

theorem pusTmSecHeaderEncode_fits (h : TmSecHeader) (out : List UInt8) {capacity : UInt16}
    (l : UInt16) (hc : 12 ≤ capacity) :
    pusTmSecHeaderEncode (some h) (some out) capacity (some l) =
      ⟨.ok, some (writeAt out 0 (tmSecHeaderBytes h)), some 12⟩ := by
  have hn : ¬ capacity < pusTmSecHeaderLen := UInt16.not_lt.mpr hc
  simp only [pusTmSecHeaderEncode, if_neg hn]

theorem pusTmSecHeaderDecode_fits {data : List UInt8} {len : UInt16} (h₀ : TmSecHeader)
    (hl : 12 ≤ len) :
    pusTmSecHeaderDecode (some data) len (some h₀) = (.ok, some (tmSecHeaderOf data)) := by
  have hn : ¬ len < pusTmSecHeaderLen := UInt16.not_lt.mpr hl
  simp only [pusTmSecHeaderDecode, if_neg hn]

theorem pusTcDecode_short {data : List UInt8} {len : UInt16} (tc : TcPacket) (hl : len < 10) :
    pusTcDecode (some data) len (some tc) = (.badLength, some tc) := by
  simp only [pusTcDecode, if_pos hl]

theorem pusTcDecode_badVersion {data : List UInt8} {len : UInt16} (tc : TcPacket) (hl : ¬ len < 10)
    (hv : data.getD 0 0 >>> 4 ≠ pusVersion) :
    pusTcDecode (some data) len (some tc) =
      (.badVersion, some { tc with secHeader := tcSecHeaderOf data }) := by
  have hne : (tcSecHeaderOf data).version ≠ pusVersion := by rwa [version_tcSecHeaderOf]
  have hst : Status.badVersion ≠ .ok := by decide
  simp only [pusTcDecode, pusTcSecHeaderDecode, if_neg hl, if_pos hne, if_pos hst,
    Option.getD_some]

theorem pusTcDecode_accepted {data : List UInt8} {len : UInt16} (tc : TcPacket) (hl : ¬ len < 10)
    (hv : data.getD 0 0 >>> 4 = pusVersion) :
    pusTcDecode (some data) len (some tc) =
      (.ok, some ⟨tcSecHeaderOf data, data.drop 10, len - 10⟩) := by
  have hne : ¬ (tcSecHeaderOf data).version ≠ pusVersion := by
    rw [version_tcSecHeaderOf]
    exact not_not_intro hv
  have hst : ¬ Status.ok ≠ .ok := not_not_intro rfl
  simp only [pusTcDecode, pusTcSecHeaderDecode, if_neg hl, if_neg hne, if_neg hst,
    Option.getD_some]

theorem toNat_ofNat_length {data : List UInt8} (hl : data.length ≤ 65535) :
    (UInt16.ofNat data.length).toNat = data.length := by
  rw [UInt16.toNat_ofNat']
  exact Nat.mod_eq_of_lt (by omega)

theorem ofNat_length_lt_ten {data : List UInt8} (hl : data.length ≤ 65535) :
    UInt16.ofNat data.length < 10 ↔ data.length < 10 := by
  rw [UInt16.lt_iff_toNat_lt, toNat_ofNat_length hl]
  rfl

theorem pusTcDecode_ok_iff {data : List UInt8} {len : UInt16} (tc tc' : TcPacket) :
    pusTcDecode (some data) len (some tc) = (.ok, some tc') ↔
      ¬ len < 10 ∧ data.getD 0 0 >>> 4 = pusVersion ∧
        tc' = ⟨tcSecHeaderOf data, data.drop 10, len - 10⟩ := by
  by_cases hl : len < 10
  · simp [pusTcDecode_short tc hl, hl]
  by_cases hv : data.getD 0 0 >>> 4 = pusVersion
  · simp only [pusTcDecode_accepted tc hl hv, Prod.mk.injEq, Option.some.injEq, true_and, hl, hv,
      not_false_eq_true]
    exact eq_comm
  · simp only [pusTcDecode_badVersion tc hl hv, Prod.mk.injEq, reduceCtorEq, false_and, hv,
      and_false]

theorem pusTcDecode_some {data : List UInt8} {len : UInt16} {tc : TcPacket}
    (h : (pusTcDecode (some data) len (some tc)).1 = .ok) :
    ∃ tc', pusTcDecode (some data) len (some tc) = (.ok, some tc') := by
  by_cases hl : len < 10
  · rw [pusTcDecode_short tc hl] at h
    cases h
  by_cases hv : data.getD 0 0 >>> 4 = pusVersion
  · exact ⟨_, pusTcDecode_accepted tc hl hv⟩
  · rw [pusTcDecode_badVersion tc hl hv] at h
    cases h

/-- A buffer that decodes is the ten bytes of its header followed by the payload. -/
theorem pusTcDecode_ok {data : List UInt8} {tc tc' : TcPacket} (hl : data.length ≤ 65535)
    (h : pusTcDecode (some data) (UInt16.ofNat data.length) (some tc) = (.ok, some tc')) :
    tcSecHeaderBytes tc'.secHeader ++ tc'.payload = data ∧
      tc'.payloadLen.toNat = tc'.payload.length ∧ tc'.payload.length ≤ 65525 := by
  obtain ⟨hlen, -, rfl⟩ := (pusTcDecode_ok_iff tc tc').mp h
  have hle := UInt16.not_lt.mp hlen
  rw [ofNat_length_lt_ten hl] at hlen
  refine ⟨?_, ?_, ?_⟩
  · rw [tcSecHeaderBytes_of data (by omega), List.take_append_drop]
  · rw [UInt16.toNat_sub_of_le _ _ hle, toNat_ofNat_length hl, List.length_drop]
    rfl
  · rw [List.length_drop]
    omega

theorem encoded_take {h : TcSecHeader} {out : List UInt8} (ho : 10 ≤ out.length) :
    (writeAt out 0 (tcSecHeaderBytes h)).take 10 = tcSecHeaderBytes h := by
  rw [take_writeAt (by simp) ho, List.take_zero, List.nil_append]

/-- An encoded header and a payload that fits decode to the two. -/
theorem pusTcDecode_encoded {h : TcSecHeader} {payload : List UInt8} (tc : TcPacket)
    (hv : h.version = pusVersion) (ha : h.ackFlags < 16) (hp : payload.length ≤ 65525) :
    pusTcDecode (some (tcSecHeaderBytes h ++ payload)) (UInt16.ofNat (10 + payload.length))
      (some tc) = (.ok, some ⟨h, payload, UInt16.ofNat payload.length⟩) := by
  have hh : tcSecHeaderOf (tcSecHeaderBytes h ++ payload) = h :=
    tcSecHeaderOf_bytes (by rw [hv]; decide) ha payload
  have hlen : (UInt16.ofNat (10 + payload.length)).toNat = 10 + payload.length := by
    rw [UInt16.toNat_ofNat']
    exact Nat.mod_eq_of_lt (by omega)
  have hlt : ¬ UInt16.ofNat (10 + payload.length) < 10 := by
    rw [UInt16.lt_iff_toNat_lt, hlen]
    exact Nat.not_lt.mpr (Nat.le_add_right _ _)
  have hsub : UInt16.ofNat (10 + payload.length) - 10 = UInt16.ofNat payload.length := by
    apply UInt16.toNat_inj.mp
    rw [UInt16.toNat_sub_of_le _ _ (UInt16.not_lt.mp hlt), hlen, UInt16.toNat_ofNat']
    simp only [UInt16.reduceToNat, Nat.reducePow]
    omega
  rw [pusTcDecode_accepted tc hlt (by rw [← version_tcSecHeaderOf, hh, hv]), hh, hsub]
  rfl

/-- Decoding undoes encoding for every header of this version and every payload that fits; a buffer
is accepted exactly when it is long enough and carries the version, and encoding what was
accepted gives the buffer back. -/
theorem tc_format_round_trip :
    (∀ (h : TcSecHeader) (payload out : List UInt8) (capacity l : UInt16) (tc : TcPacket),
      h.version = pusVersion → h.ackFlags < 16 → payload.length ≤ 65525 →
      10 ≤ capacity → capacity.toNat ≤ out.length →
      ∃ bytes, pusTcSecHeaderEncode (some h) (some out) capacity (some l) =
          ⟨.ok, some bytes, some 10⟩ ∧
        pusTcDecode (some (bytes.take 10 ++ payload)) (UInt16.ofNat (10 + payload.length))
          (some tc) = (.ok, some ⟨h, payload, UInt16.ofNat payload.length⟩)) ∧
    (∀ (data : List UInt8) (tc : TcPacket), data.length ≤ 65535 →
      ((pusTcDecode (some data) (UInt16.ofNat data.length) (some tc)).1 = .ok ↔
        10 ≤ data.length ∧ data.getD 0 0 >>> 4 = pusVersion) ∧
      ((pusTcDecode (some data) (UInt16.ofNat data.length) (some tc)).1 = .badLength ↔
        data.length < 10) ∧
      ((pusTcDecode (some data) (UInt16.ofNat data.length) (some tc)).1 = .ok →
        ∃ tc', (pusTcDecode (some data) (UInt16.ofNat data.length) (some tc)).2 = some tc' ∧
          tc'.payloadLen.toNat = tc'.payload.length ∧
          ∀ (out : List UInt8) (capacity l : UInt16), 10 ≤ capacity → capacity.toNat ≤ out.length →
            ∃ bytes, pusTcSecHeaderEncode (some tc'.secHeader) (some out) capacity (some l) =
                ⟨.ok, some bytes, some 10⟩ ∧
              bytes.take 10 ++ tc'.payload = data)) := by
  constructor
  · intro h payload out capacity l tc hv ha hp hc ho
    have hc' : 10 ≤ capacity.toNat := UInt16.le_iff_toNat_le.mp hc
    refine ⟨_, pusTcSecHeaderEncode_fits h out l hc, ?_⟩
    rw [encoded_take (by omega)]
    exact pusTcDecode_encoded tc hv ha hp
  · intro data tc hl
    have hten := ofNat_length_lt_ten hl
    by_cases hlen : data.length < 10
    · have hd : pusTcDecode (some data) (UInt16.ofNat data.length) (some tc) = _ :=
        pusTcDecode_short tc (hten.mpr hlen)
      simp only [hd, reduceCtorEq, hlen, Nat.not_le.mpr hlen, false_and, false_implies, and_true]
    have hlen' : ¬ UInt16.ofNat data.length < 10 := fun h ↦ hlen (hten.mp h)
    by_cases hv : data.getD 0 0 >>> 4 = pusVersion
    · have hd := pusTcDecode_accepted tc hlen' hv
      obtain ⟨hbytes, hplen, -⟩ := pusTcDecode_ok hl hd
      refine ⟨?_, ?_, fun _ ↦ ⟨_, by rw [hd], hplen, fun out capacity l hc ho ↦ ?_⟩⟩
      · simp only [hd, hv, Nat.not_lt.mp hlen, and_self]
      · simp only [hd, reduceCtorEq, hlen]
      · have hc' : 10 ≤ capacity.toNat := UInt16.le_iff_toNat_le.mp hc
        refine ⟨_, pusTcSecHeaderEncode_fits _ out l hc, ?_⟩
        rw [encoded_take (by omega), hbytes]
    · have hd := pusTcDecode_badVersion tc hlen' hv
      simp only [hd, reduceCtorEq, hlen, hv, and_false, false_implies, and_true]

theorem tc_format_round_trip_ping :
    (∃ bytes, pusTcSecHeaderEncode (some ⟨1, 9, 17, 1, 0x1234, 7, 0⟩)
        (some (List.replicate 10 0)) 10 (some 0) = ⟨.ok, some bytes, some 10⟩ ∧
      pusTcDecode (some (bytes.take 10 ++ [0xAB])) 11 (some .fresh) =
        (.ok, some ⟨⟨1, 9, 17, 1, 0x1234, 7, 0⟩, [0xAB], 1⟩)) ∧
    ((pusTcDecode (some [0x10, 17]) 2 (some .fresh)).1 = .badLength ↔
      [0x10, 17].length < 10) :=
  ⟨tc_format_round_trip.1 ⟨1, 9, 17, 1, 0x1234, 7, 0⟩ [0xAB] (List.replicate 10 0) 10 0
      .fresh rfl (by decide) (by decide) (by decide) (by decide),
    (tc_format_round_trip.2 [0x10, 17] .fresh (by decide)).2.1⟩

end EmbeddedPus
