import EmbeddedPus.Commanding
import EmbeddedPus.RegisteredData

namespace EmbeddedPus

open CallTrace Buffer ByteOrder SlotTable

variable {cfg : Config} {A S : Type}

structure Parameter (S : Type) where
  length : ℕ
  read : Spec S Report (Except Status (List UInt8))
  write : Option (List UInt8 → Spec S Report Status)

abbrev Dictionary (S : Type) := UInt16 → Option (Parameter S)

def takeWords : ℕ → List UInt8 → Option (List UInt16)
  | 0, _ => some []
  | n + 1, hi :: lo :: bytes => (takeWords n bytes).map (join16 hi lo :: ·)
  | _ + 1, _ => none

namespace Dictionary

variable (d : Dictionary S)

/-- What is in a report already, with the ids and values of the parameters to come, up to `max`
bytes. -/
def collect (max : ℕ) : List UInt16 → List UInt8 → Spec S Report (Except Status (List UInt8))
  | [], report => pure (.ok report)
  | pid :: ids, report =>
    match d pid with
    | none => pure (.error .noHandler)
    | some p =>
      if max < report.length + 2 + p.length then pure (.error .bufferTooSmall)
      else do
        match ← p.read with
        | .error st => pure (.error st)
        | .ok value => collect max ids (report ++ (split16 pid ++ value))

def announce (max : ℕ) (destination : UInt16) (n : UInt8) (ids : List UInt16) :
    Spec S Report Status := do
  match ← d.collect max ids [n] with
  | .error st => pure st
  | .ok values => do
    Spec.put ⟨20, 2, destination, values⟩
    pure .ok

/-- What a TC[20,1] asks for: the values of at most `maxParams` parameters, in a TM[20,2]. -/
def report (maxParams max : ℕ) (destination : UInt16) : List UInt8 → Spec S Report Status
  | [] => pure .badLength
  | n :: bytes =>
    if maxParams < n.toNat then pure .badLength
    else
      match takeWords n.toNat bytes with
      | none => pure .badLength
      | some ids => d.announce max destination n ids

def set : ℕ → List UInt8 → Spec S Report Status
  | 0, _ => pure .ok
  | n + 1, hi :: lo :: bytes =>
    match d (join16 hi lo) with
    | none => pure .noHandler
    | some p =>
      if bytes.length < p.length then pure .badLength
      else
        match p.write with
        | none => pure .handlerFailed
        | some write => do
          let st ← write (bytes.take p.length)
          if st ≠ .ok then pure st else set n (bytes.drop p.length)
  | _ + 1, _ => pure .badLength

theorem set_short {bytes : List UInt8} (n : ℕ) (h : bytes.length < 2) :
    d.set (n + 1) bytes = pure .badLength := by
  match bytes, h with
  | [], _ => rfl
  | [_], _ => rfl

def command : List UInt8 → Spec S Report Status
  | [] => pure .badLength
  | n :: bytes => d.set n.toNat bytes

end Dictionary

section Words

theorem takeWords_eq {n : ℕ} {bytes : List UInt8} (h : 2 * n ≤ bytes.length) :
    takeWords n bytes = some ((List.range n).map fun i ↦
      join16 (bytes.getD (i * 2) 0) (bytes.getD (i * 2 + 1) 0)) := by
  induction n generalizing bytes with
  | zero => rfl
  | succ n ih =>
    match bytes, h with
    | hi :: lo :: bytes, h =>
      rw [List.length_cons, List.length_cons] at h
      rw [takeWords, ih (by omega), List.range_succ_eq_map, List.map_cons, List.map_map]
      simp [Function.comp_def, Nat.add_mul]

theorem takeWords_short {n : ℕ} {bytes : List UInt8} (h : bytes.length < 2 * n) :
    takeWords n bytes = none := by
  induction n generalizing bytes with
  | zero => exact absurd h (Nat.not_lt_zero _)
  | succ n ih =>
    match bytes with
    | [] => rfl
    | [_] => rfl
    | hi :: lo :: bytes =>
      rw [List.length_cons, List.length_cons] at h
      rw [takeWords, ih (by omega), Option.map_none]

end Words

variable {K : Account (World cfg A) Act (Call cfg) Report} {R : World cfg A → S → Prop}
  {cb : Callbacks cfg A} {c s : Ptr} {m : ParamMap} {d : Dictionary S}

def Got.Yields (len : ℕ) (r : Got) : Except Status (List UInt8) → Prop
  | .ok value => r.st = .ok ∧ r.bytes = value ∧ value.length = len
  | .error st => r.st = st ∧ st ≠ .ok

/-- What is registered for an id does what the parameter does. -/
structure Realizes (K : Account (World cfg A) Act (Call cfg) Report) (R : World cfg A → S → Prop)
    (cb : Callbacks cfg A) (pid : UInt16) (e : ParamData) (p : Parameter S) : Prop where
  length : e.valueLen.toNat = p.length
  getter : (cb.getter e.getter pid e.valueLen e.userData).Refines K R (Got.Yields p.length) p.read
  setter : Option.Rel (fun f write ↦ ∀ value, value.length = p.length →
    (cb.setter f pid value e.valueLen e.userData).Refines K R Eq (write value)) e.setter p.write

/-- In the worlds that show a state the table at `s` is one of the dictionary's parameters. -/
structure Provides (K : Account (World cfg A) Act (Call cfg) Report) (R : World cfg A → S → Prop)
    (cb : Callbacks cfg A) (s : Ptr) (m : ParamMap) (d : Dictionary S) : Prop where
  table : ∀ {w x}, R w x → Refines (paramView s w) m
  realizes : ∀ pid, Option.Rel (Realizes K R cb pid) (m.lookup pid) (d pid)

theorem Overlooks.readIds {α β : Type} {V : α → β → Prop} (h : Overlooks K)
    {f : List UInt16 → Pus cfg A α} {g : Spec S Report β} (tc : TcPacket)
    (hf : (f (requestedIds tc)).Refines K R V g) :
    (readIds tc (requestCount tc) 0 >>= f).Refines K R V g := by
  have hreads (w : World cfg A) (n i : ℕ) : K.holds w (idReads n i) w [] := by
    induction n generalizing i with
    | zero => exact K.nil w
    | succ n ih => exact K.append (h.read w _) (K.append (h.read w _) (ih (i + 1)))
  have hids (w : World cfg A) :
      EmbeddedPus.readIds tc (requestCount tc) 0 w =
        ⟨requestedIds tc, w, idReads (requestCount tc) 0⟩ := by
    rw [readIds_apply]
    simp only [Nat.zero_add, requestedIds]
  refine .silent (fun w _ hw ↦ ?_) fun w x hw ↦ ?_
  · rw [hids]
    exact ⟨hw, hreads w _ 0⟩
  · rw [hids]
    exact hf w x hw

theorem Request.payload_eq_nil {tc : TcPacket} (h : tc.payloadLen < 1) :
    (Request.ofTc tc).payload = [] := by
  have h0 : tc.payloadLen.toNat = 0 := Nat.lt_one_iff.mp (empty_request.mp h)
  rw [Request.ofTc, h0, List.take_zero]

theorem Request.payload_eq_cons {tc : TcPacket} (hpos : 0 < tc.payloadLen.toNat)
    (htc : tc.payloadLen.toNat ≤ tc.payload.length) :
    ∃ rest, (Request.ofTc tc).payload = tc.payload.getD 0 0 :: rest ∧
      rest.length + 1 = tc.payloadLen.toNat ∧
      ∀ i < rest.length, rest.getD i 0 = tc.payload.getD (i + 1) 0 := by
  obtain ⟨b, bytes, hbytes⟩ := List.exists_cons_of_length_pos (Nat.lt_of_lt_of_le hpos htc)
  obtain ⟨n, hn⟩ := Nat.exists_eq_succ_of_ne_zero hpos.ne'
  rw [hbytes, hn, List.length_cons] at htc
  have hlen : (bytes.take n).length = n :=
    (List.length_take ..).trans (Nat.min_eq_left (Nat.le_of_succ_le_succ htc))
  refine ⟨bytes.take n, ?_, ?_, fun i hi ↦ ?_⟩
  · rw [Request.ofTc, hbytes, hn]
    rfl
  · rw [hlen, hn]
  · rw [getD_take_of_lt (hlen ▸ hi), hbytes, List.getD_cons_succ]

/-- The loop of a report left the array with the bytes of the report in it, or failed. -/
def Filled.Holds (max : ℕ) (r : Filled) : Except Status (List UInt8) → Prop
  | .ok bytes => r.st = .ok ∧ r.off.toNat ≤ max ∧ r.payload.length = max ∧
      r.payload.take r.off.toNat = bytes
  | .error st => r.st = st ∧ st ≠ .ok

theorem rel_cases {α β : Type} {r : α → β → Prop} {a : Option α} {b : Option β}
    (h : Option.Rel r a b) :
    (a = none ∧ b = none) ∨ ∃ x y, a = some x ∧ b = some y ∧ r x y := by
  cases h with
  | none => exact .inl ⟨rfl, rfl⟩
  | some hr => exact .inr ⟨_, _, rfl, rfl, hr⟩

namespace Provides

variable (h : Provides K R cb s m d) (hk : Overlooks K)

include h

theorem find {w : World cfg A} {x : S} (hw : R w x) (pid : UInt16) :
    (findParam (w.s20 s) pid = none ∧ d pid = none) ∨
      ∃ i p, findParam (w.s20 s) pid = some i ∧ d pid = some p ∧
        Realizes K R cb pid (paramLayout.val (w.s20 s i)) p := by
  have hrel := h.realizes pid
  rw [lookup_param (h.table hw)] at hrel
  obtain ⟨hf, hd⟩ | ⟨e, p, hf, hd, hreal⟩ := rel_cases hrel
  · exact .inl ⟨Option.map_eq_none_iff.mp hf, hd⟩
  · obtain ⟨i, hi, rfl⟩ := Option.map_eq_some_iff.mp hf
    exact .inr ⟨i, p, hi, hd, hreal⟩

include hk

theorem emitReportLoop (hcfg : cfg.maxTmPayloadLen ≤ 32766)
    (hlen : ∀ pid p, d pid = some p → p.length ≤ cfg.maxTmPayloadLen) (ids : List UInt16)
    (payload : List UInt8) (off : UInt16) (report : List UInt8)
    (hp : payload.length = cfg.maxTmPayloadLen) (ho : off.toNat ≤ cfg.maxTmPayloadLen)
    (ht : payload.take off.toNat = report) :
    (emitReportLoop cb s ids payload off).Refines K R (Filled.Holds cfg.maxTmPayloadLen)
      (d.collect cfg.maxTmPayloadLen ids report) := by
  induction ids generalizing payload off report with
  | nil => exact .pure ⟨rfl, ho, hp, ht⟩
  | cons pid ids ih =>
    intro w x hw
    have hrlen : report.length = off.toNat := by
      rw [← ht, List.length_take, Nat.min_eq_left (by omega)]
    rw [Dictionary.collect]
    obtain ⟨hf, hd⟩ | ⟨i, p, hf, hd, hreal⟩ := h.find hw pid
    · rw [emitReportLoop_unknown hf, hd]
      exact ⟨⟨rfl, by decide⟩, hw, K.nil w⟩
    have hvlen : (w.s20 s i).valueLen.toNat = p.length := hreal.length
    have hmax := hlen pid p hd
    have hoff : off.toNat < 65534 := by omega
    have hroom := room_iff cfg (w.s20 s i).valueLen hoff
    simp only [hd, hrlen]
    by_cases hl : off + 2 + (w.s20 s i).valueLen > UInt16.ofNat cfg.maxTmPayloadLen
    · have hfull := mt hroom.mpr (not_not_intro hl)
      rw [emitReportLoop_full hf hl, if_pos (by omega)]
      exact ⟨⟨rfl, by decide⟩, hw, K.nil w⟩
    have hfits := hroom.mp hl
    have h2 : (off + 2).toNat = off.toNat + 2 := toNat_add_two (by omega)
    have hend : (off + 2 + (w.s20 s i).valueLen).toNat = off.toNat + 2 + p.length := by
      rw [end_toNat (by omega), hvlen]
    have hget : (callGetter cb (w.s20 s i) pid (off + 2).toNat (w.s20 s i).valueLen).Refines K R
        (Got.Yields p.length) p.read := hk.call_refines (fun _ _ ↦ rfl) hreal.getter
    rw [emitReportLoop_get hf hl, if_neg (by omega)]
    refine hget.bind (fun r v hv ↦ ?_) w x hw
    cases v with
    | error st =>
      obtain ⟨rfl, hst⟩ := hv
      rw [if_pos hst]
      exact .pure ⟨rfl, hst⟩
    | ok value =>
      obtain ⟨hst, rfl, hbytes⟩ := hv
      have hput := putParam_eq payload pid h2 (by rw [hbytes]; omega)
      have hnext : off.toNat + 2 + p.length = off.toNat + (split16 pid ++ r.bytes).length := by
        rw [List.length_append, length_split16, hbytes, Nat.add_assoc]
      rw [if_neg (not_not_intro hst), hput]
      refine ih _ _ _ ?_ ?_ ?_
      · rw [length_writeAt, hp]
      · rw [hend]
        omega
      · rw [hend, take_writeAt hnext (by omega), ht]

variable {t : HandlerTable cfg.maxTcHandlers} (he : Emits K R cb c t) {destination : UInt16}
  (hdest : ∀ {w x}, R w x → (w.ctx c).defaultDestinationId = destination)
  (hcfg : cfg.maxTmPayloadLen ≤ 32766)
  (hlen : ∀ pid p, d pid = some p → p.length ≤ cfg.maxTmPayloadLen)

omit hk

include he hdest hcfg hlen

theorem emitReport {ids : List UInt16} (hids : ids.length ≤ 255) :
    (pusService20EmitReport cb (some c) (some s) (some ids) (UInt8.ofNat ids.length)).Refines K R Eq
      (d.announce cfg.maxTmPayloadLen destination (UInt8.ofNat ids.length) ids) := by
  intro w x hw
  have hm := cfg.payload_le
  have hpos := cfg.payload_pos
  have harray : ((List.range cfg.maxTmPayloadLen).map w.stack).length = cfg.maxTmPayloadLen := by
    rw [List.length_map, List.length_range]
  have hloop := h.emitReportLoop he.toOverlooks hcfg hlen ids
    (reportArray cfg (UInt8.ofNat ids.length) w) 1 [UInt8.ofNat ids.length]
    ((length_writeAt ..).trans harray) hpos (take_writeAt rfl (by rw [harray]; exact hpos))
  rw [pusService20EmitReport, localArray_bind_apply, localArray_bind_apply, requested_eq hids,
    ← reportArray]
  refine hloop.bind (fun r v hv ↦ ?_) w x hw
  cases v with
  | error st =>
    obtain ⟨rfl, hst⟩ := hv
    rw [if_pos hst]
    exact .ret _
  | ok values =>
    obtain ⟨hst, hoff, hplen, rfl⟩ := hv
    rw [if_neg (not_not_intro hst)]
    intro w' x' hw'
    have hout : ((List.range (pusTmSecHeaderLen.toNat + cfg.maxTmPayloadLen)).map
        w.stack).length = 12 + cfg.maxTmPayloadLen := by
      rw [List.length_map, List.length_range]
      rfl
    have hcap : (UInt16.ofNat (12 + cfg.maxTmPayloadLen)).toNat = 12 + cfg.maxTmPayloadLen := by
      rw [UInt16.toNat_ofNat']
      exact Nat.mod_eq_of_lt (show 12 + cfg.maxTmPayloadLen < 65536 by omega)
    rw [readCtx_bind_apply, hdest hw', hout, pusTmBuild_emits cb 0 hoff (by omega) (by omega),
      payloadBytes_some (by rw [hplen]; exact hoff)]
    exact he.emission ⟨20, 2, destination, r.payload.take r.off.toNat⟩ w' x' hw'

variable {tc : TcPacket} (htc : tc.payloadLen.toNat ≤ tc.payload.length)

include htc

theorem handleTc20_1 : (handleTc20_1 cb c tc s).Refines K R Eq
    (d.report cfg.service20MaxParams cfg.maxTmPayloadLen destination
      (Request.ofTc tc).payload) := by
  rw [EmbeddedPus.handleTc20_1]
  by_cases h₀ : tc.payloadLen < 1
  · rw [if_pos h₀, Request.payload_eq_nil h₀, Dictionary.report]
    exact .ret _
  have hpos := Nat.not_lt.mp (mt empty_request.mpr h₀)
  obtain ⟨rest, hpay, hrest, hget⟩ := Request.payload_eq_cons hpos htc
  have hn : (tc.payload.getD 0 0).toNat = requestCount tc := rfl
  rw [if_neg h₀, hpay, Dictionary.report]
  refine he.readPayload tc 0 ?_
  refine .ite Iff.rfl (fun _ ↦ .ret _) fun _ ↦ ?_
  by_cases hshort : tc.payloadLen < 1 + (tc.payload.getD 0 0).toUInt16 * 2
  · have hlt := (short_request _).mp hshort
    rw [if_pos hshort, takeWords_short (by omega)]
    exact .ret _
  have hge := mt (short_request _).mpr hshort
  have hids : (List.range (tc.payload.getD 0 0).toNat).map (fun i ↦
      join16 (rest.getD (i * 2) 0) (rest.getD (i * 2 + 1) 0)) = requestedIds tc := by
    refine List.map_congr_left fun i hi ↦ ?_
    have hi' := List.mem_range.mp hi
    rw [hget _ (by omega), hget _ (by omega), idAt, Nat.add_comm 1]
  rw [if_neg hshort, takeWords_eq (by omega), hids, hn]
  refine he.readIds tc ?_
  have hids : (requestedIds tc).length ≤ 255 := by
    rw [length_requestedIds, ← hn]
    exact Nat.le_of_lt_succ (UInt8.toNat_lt _)
  have hreport := h.emitReport he hdest hcfg hlen hids
  rw [count_eq] at hreport
  exact hreport

end Provides

section Set

variable {tc : TcPacket} (htc : tc.payloadLen.toNat ≤ tc.payload.length)

include htc

theorem Request.drop_payload {off : ℕ} (hid : off + 2 ≤ tc.payloadLen.toNat) :
    (Request.ofTc tc).payload.drop off = tc.payload.getD off 0 :: tc.payload.getD (off + 1) 0 ::
      (Request.ofTc tc).payload.drop (off + 2) := by
  have hlen : (Request.ofTc tc).payload.length = tc.payloadLen.toNat :=
    (List.length_take ..).trans (Nat.min_eq_left htc)
  have hget {i : ℕ} (hi : i < tc.payloadLen.toNat) :
      (Request.ofTc tc).payload.drop i =
        tc.payload.getD i 0 :: (Request.ofTc tc).payload.drop (i + 1) := by
    rw [← getD_take_of_lt hi, List.drop_eq_getElem_cons (by rwa [hlen])]
    congr 1
    exact (List.getD_eq_getElem ..).symm
  rw [hget (by omega), hget (by omega)]

theorem Provides.setValuesLoop (h : Provides K R cb s m d) (hk : Overlooks K)
    (hl : tc.payloadLen.toNat < 65534)
    (hwrap : ∀ pid p, d pid = some p → tc.payloadLen.toNat + p.length < 65536) (n : ℕ)
    (off : UInt16) (ho : off.toNat ≤ tc.payloadLen.toNat) :
    (setValuesLoop cb s tc n off).Refines K R (fun r st ↦ r.1 = st)
      (d.set n ((Request.ofTc tc).payload.drop off.toNat)) := by
  have hlen : (Request.ofTc tc).payload.length = tc.payloadLen.toNat :=
    (List.length_take ..).trans (Nat.min_eq_left htc)
  induction n generalizing off with
  | zero => exact .pure rfl
  | succ n ih =>
    rw [EmbeddedPus.setValuesLoop]
    have hshort : tc.payloadLen < off + 2 ↔ tc.payloadLen.toNat < off.toNat + 2 :=
      short_iff (by omega)
    by_cases hs : off + 2 > tc.payloadLen
    · have hlt := hshort.mp hs
      rw [if_pos hs, d.set_short n (by rw [List.length_drop, hlen]; omega)]
      exact .pure rfl
    have hid : off.toNat + 2 ≤ tc.payloadLen.toNat := Nat.le_of_not_lt fun hn ↦ hs (hshort.mpr hn)
    rw [if_neg hs, Request.drop_payload htc hid, Dictionary.set]
    refine hk.readPayload tc _ (hk.readPayload tc _ fun w x hw ↦ ?_)
    rw [readS20_bind_apply]
    obtain ⟨hf, hd⟩ | ⟨i, p, hf, hd, hreal⟩ := h.find hw
      (join16 (tc.payload.getD off.toNat 0) (tc.payload.getD (off.toNat + 1) 0))
    · simp only [hf, hd]
      exact ⟨rfl, hw, K.nil w⟩
    simp only [hf, hd]
    have hvlen : (w.s20 s i).valueLen.toNat = p.length := hreal.length
    have hp := hwrap _ p hd
    have h2 : (off + 2).toNat = off.toNat + 2 := toNat_add_two (by omega)
    have hend : (off + 2 + (w.s20 s i).valueLen).toNat = off.toNat + 2 + p.length := by
      rw [end_toNat (by omega), hvlen]
    have hroom : off + 2 + (w.s20 s i).valueLen > tc.payloadLen ↔
        ((Request.ofTc tc).payload.drop (off.toNat + 2)).length < p.length := by
      rw [gt_iff_lt, UInt16.lt_iff_toNat_lt, hend, List.length_drop, hlen]
      omega
    by_cases hv : off + 2 + (w.s20 s i).valueLen > tc.payloadLen
    · rw [if_pos hv, if_pos (hroom.mp hv)]
      exact ⟨rfl, hw, K.nil w⟩
    rw [if_neg hv, if_neg (mt hroom.mpr hv)]
    have hfits := mt hroom.mpr hv
    rw [List.length_drop, hlen] at hfits
    obtain ⟨hset, hwrite⟩ | ⟨f, write, hset, hwrite, href⟩ := rel_cases hreal.setter
    · have hset : (w.s20 s i).setter = none := hset
      simp only [hset, hwrite]
      exact ⟨rfl, hw, K.nil w⟩
    have hset : (w.s20 s i).setter = some f := hset
    have hbuf : (tc.payload.drop (off.toNat + 2)).take p.length =
        ((Request.ofTc tc).payload.drop (off.toNat + 2)).take p.length := by
      rw [Request.ofTc, List.drop_take, List.take_take, Nat.min_eq_left (by omega)]
    have hcall : (callSetter cb f (w.s20 s i).userData
        (join16 (tc.payload.getD off.toNat 0) (tc.payload.getD (off.toNat + 1) 0)) tc
        (off + 2).toNat (w.s20 s i).valueLen).Refines K R Eq
          (write (((Request.ofTc tc).payload.drop (off.toNat + 2)).take p.length)) := by
      refine hk.call_refines (fun _ _ ↦ rfl) ?_
      rw [h2, hvlen, hbuf]
      refine href _ (List.length_take_of_le ?_)
      rw [List.length_drop, hlen]
      omega
    simp only [hset, hwrite]
    refine hcall.seq (fun st ↦ ?_) w x hw
    refine .ite Iff.rfl (fun _ ↦ .pure rfl) fun _ ↦ ?_
    rw [List.drop_drop, ← hend]
    exact ih _ (by rw [hend]; omega)

theorem Provides.handleTc20_3 (h : Provides K R cb s m d) (hk : Overlooks K)
    (hl : tc.payloadLen.toNat < 65534)
    (hwrap : ∀ pid p, d pid = some p → tc.payloadLen.toNat + p.length < 65536) :
    (handleTc20_3 cb tc s).Refines K R Eq (d.command (Request.ofTc tc).payload) := by
  rw [EmbeddedPus.handleTc20_3]
  by_cases h₀ : tc.payloadLen < 1
  · rw [if_pos h₀, Request.payload_eq_nil h₀, Dictionary.command]
    exact .ret _
  have hpos := Nat.not_lt.mp (mt empty_request.mpr h₀)
  obtain ⟨rest, hpay, -⟩ := Request.payload_eq_cons hpos htc
  rw [if_neg h₀, hpay, Dictionary.command]
  refine hk.readPayload tc 0 ?_
  have hloop := h.setValuesLoop htc hk hl hwrap (tc.payload.getD 0 0).toNat 1 hpos
  rw [hpay] at hloop
  exact hloop.result fun _ _ hv ↦ hv

end Set

end EmbeddedPus
