import EmbeddedPus.RoundTrip

namespace EmbeddedPus

open CallTrace Buffer ByteOrder

variable {cfg : Config} {A : Type} {cb : Callbacks cfg A} {c s : Ptr} {tc : TcPacket}

def requestCount (tc : TcPacket) : ℕ := (tc.payload.getD 0 0).toNat

def requestedIds (tc : TcPacket) : List UInt16 :=
  (List.range (requestCount tc)).map fun i ↦ idAt tc (1 + i * 2)

/-- A request that is empty, asks for more parameters than there can be, or is too short for the ids
it announces. -/
def Malformed (cfg : Config) (tc : TcPacket) : Prop :=
  tc.payloadLen.toNat < 1 ∨ cfg.service20MaxParams < requestCount tc ∨
    tc.payloadLen.toNat < 1 + 2 * requestCount tc

instance (cfg : Config) (tc : TcPacket) : Decidable (Malformed cfg tc) :=
  inferInstanceAs (Decidable (_ ∨ _ ∨ _))

def GetterCall.of (e : ParamEntry) (pid : UInt16) (off : ℕ) (r : Got) : GetterCall :=
  ⟨e.getter, e.userData, pid, off, e.valueLen, r.st, r.bytes⟩

/-- How a report collects the values for the ids in order, with `off` bytes of its payload filled:
the status it ends with, the getter calls it makes and the world they leave. The first id that no
slot in use has, has no room for its value or has a getter that fails ends it, in this priority. -/
inductive Collected (cb : Callbacks cfg A) (s : Ptr) :
    List UInt16 → ℕ → World cfg A → Status → List GetterCall → World cfg A → Prop
  | done (off : ℕ) (w : World cfg A) : Collected cb s [] off w .ok [] w
  | unregistered {pid : UInt16} {w : World cfg A} (ids : List UInt16) (off : ℕ)
      (h : Unregistered (w.s20 s) pid) : Collected cb s (pid :: ids) off w .noHandler [] w
  | noRoom {pid : UInt16} {w : World cfg A} {i : Fin cfg.service20MaxParams} (ids : List UInt16)
      (off : ℕ) (h : ParamSlot (w.s20 s) pid i)
      (hroom : cfg.maxTmPayloadLen < off + 2 + (w.s20 s i).valueLen.toNat) :
      Collected cb s (pid :: ids) off w .bufferTooSmall [] w
  | failed {pid : UInt16} {w : World cfg A} {i : Fin cfg.service20MaxParams} (ids : List UInt16)
      (off : ℕ) {r : Outcome (World cfg A) Act (Call cfg) Got} (h : ParamSlot (w.s20 s) pid i)
      (hroom : off + 2 + (w.s20 s i).valueLen.toNat ≤ cfg.maxTmPayloadLen)
      (hr : cb.getter (w.s20 s i).getter pid (w.s20 s i).valueLen (w.s20 s i).userData w = r)
      (hst : r.val.st ≠ .ok) :
      Collected cb s (pid :: ids) off w r.val.st
        [GetterCall.of (w.s20 s i) pid (off + 2) r.val] r.state
  | got {pid : UInt16} {w w' : World cfg A} {i : Fin cfg.service20MaxParams} {ids : List UInt16}
      {off : ℕ} {st : Status} {gs : List GetterCall}
      {r : Outcome (World cfg A) Act (Call cfg) Got} (h : ParamSlot (w.s20 s) pid i)
      (hroom : off + 2 + (w.s20 s i).valueLen.toNat ≤ cfg.maxTmPayloadLen)
      (hr : cb.getter (w.s20 s i).getter pid (w.s20 s i).valueLen (w.s20 s i).userData w = r)
      (hst : r.val.st = .ok)
      (hrest : Collected cb s ids (off + 2 + (w.s20 s i).valueLen.toNat) r.state st gs w') :
      Collected cb s (pid :: ids) off w st
        (GetterCall.of (w.s20 s i) pid (off + 2) r.val :: gs) w'

theorem emitReportLoop_collected (hcfg : cfg.maxTmPayloadLen ≤ 32766) (hg : Fills cb s)
    (ids : List UInt16) (payload : List UInt8) (off : UInt16) (w : World cfg A)
    (hl : ∀ i, (w.s20 s i).isUsed → (w.s20 s i).valueLen.toNat ≤ cfg.maxTmPayloadLen)
    (ho : off.toNat ≤ cfg.maxTmPayloadLen) :
    Collected cb s ids off.toNat w (emitReportLoop cb s ids payload off w).val.st
      (getterCalls (emitReportLoop cb s ids payload off w).trace)
      (emitReportLoop cb s ids payload off w).state := by
  induction ids generalizing payload off w with
  | nil => exact .done _ _
  | cons pid ids ih =>
    cases hf : findParam (w.s20 s) pid with
    | none =>
      rw [emitReportLoop_unknown hf]
      exact .unregistered ids _ (findParam_eq_none_iff.mp hf)
    | some i =>
      have hslot := findParam_eq_some_iff.mp hf
      have hlen := hl i hslot.isUsed
      have hoff : off.toNat < 65534 := by omega
      have hfits := room_iff cfg (w.s20 s i).valueLen hoff
      have h2 : (off + 2).toNat = off.toNat + 2 := toNat_add_two (by omega)
      by_cases hroom : off + 2 + (w.s20 s i).valueLen > UInt16.ofNat cfg.maxTmPayloadLen
      · rw [emitReportLoop_full hf hroom]
        have hno := mt hfits.mpr (not_not_intro hroom)
        exact .noRoom ids _ hslot (by omega)
      have hstop : off.toNat + 2 + (w.s20 s i).valueLen.toNat ≤ cfg.maxTmPayloadLen := by
        have hyes := hfits.mp hroom
        omega
      have hend : (off + 2 + (w.s20 s i).valueLen).toNat =
          off.toNat + 2 + (w.s20 s i).valueLen.toNat := end_toNat (by omega)
      let r := cb.getter (w.s20 s i).getter pid (w.s20 s i).valueLen (w.s20 s i).userData w
      by_cases hr : r.val.st = .ok
      · rw [emitReportLoop_next hf hroom (by rwa [h2]), h2, getterCalls_append,
          getterCalls_callGetter]
        have hkeep : r.state.s20 s = w.s20 s := hg.keeps ..
        refine .got (r := r) hslot hstop rfl hr ?_
        rw [← hend]
        exact ih _ _ r.state (by rw [hkeep]; exact hl) (by omega)
      · rw [emitReportLoop_failed hf hroom (by rwa [h2]), h2, getterCalls_callGetter]
        exact .failed (r := r) ids _ hslot hstop rfl hr

theorem Collected.counter (hc : ∀ f pid capacity ud w,
      ((cb.getter f pid capacity ud w).state.ctx c).tmCounter = (w.ctx c).tmCounter)
    {ids : List UInt16} {off : ℕ} {w w' : World cfg A} {st : Status} {gs : List GetterCall}
    (h : Collected cb s ids off w st gs w') : (w'.ctx c).tmCounter = (w.ctx c).tmCounter := by
  induction h with
  | done => rfl
  | unregistered => rfl
  | noRoom => rfl
  | failed _ _ _ _ hr => rw [← hr]; exact hc ..
  | got _ _ hr _ _ ih => rw [ih, ← hr]; exact hc ..

def idReads : ℕ → ℕ → History cfg
  | 0, _ => .nil
  | n + 1, i => .act (.read (1 + i * 2)) (.act (.read (2 + i * 2)) (idReads n (i + 1)))

theorem own_idReads {β : Type} {g : Act → List β} {h : Call cfg → List β}
    (hg : ∀ i, g (.read i) = []) (n i : ℕ) : (idReads n i).own g h = [] := by
  induction n generalizing i with
  | zero => rfl
  | succ n ih => rw [idReads, Trace.own_act, Trace.own_act, hg, hg, ih]; rfl

theorem readIds_apply (tc : TcPacket) (n i : ℕ) (w : World cfg A) :
    readIds tc n i w =
      ⟨(List.range n).map fun k ↦ idAt tc (1 + (i + k) * 2), w, idReads n i⟩ := by
  induction n generalizing i with
  | zero => rfl
  | succ n ih =>
    have hids : (List.range (n + 1)).map (fun k ↦ idAt tc (1 + (i + k) * 2)) =
        idAt tc (1 + i * 2) :: (List.range n).map fun k ↦ idAt tc (1 + (i + 1 + k) * 2) := by
      rw [List.range_succ_eq_map, List.map_cons, List.map_map]
      congr 1
      apply List.map_congr_left
      intro k _
      simp only [Function.comp_apply, Nat.succ_eq_add_one]
      congr 2
      omega
    have hlo : 2 + i * 2 = 1 + i * 2 + 1 := by omega
    rw [readIds, readPayload_bind_apply, readPayload_bind_apply, Prog.bind_apply, ih, hids, idReads,
      hlo]
    simp only [Prog.pure_apply, Trace.append_nil]
    rfl

theorem length_requestedIds : (requestedIds tc).length = requestCount tc := by
  rw [requestedIds, List.length_map, List.length_range]

theorem count_eq : UInt8.ofNat (requestedIds tc).length = tc.payload.getD 0 0 := by
  rw [length_requestedIds, requestCount, UInt8.ofNat_toNat]

theorem short_request (n : UInt8) :
    tc.payloadLen < 1 + n.toUInt16 * 2 ↔ tc.payloadLen.toNat < 1 + 2 * n.toNat := by
  have hn := n.toNat_lt
  have hsum : (1 + n.toUInt16 * 2).toNat = 1 + 2 * n.toNat := by
    simp only [UInt16.toNat_add, UInt16.toNat_mul, UInt16.reduceToNat, UInt8.toNat_toUInt16]
    omega
  rw [UInt16.lt_iff_toNat_lt, hsum]

theorem empty_request : tc.payloadLen < 1 ↔ tc.payloadLen.toNat < 1 := UInt16.lt_iff_toNat_lt

variable (cb c s) in
theorem handleTc20_1_malformed (w : World cfg A) (h : Malformed cfg tc) :
    ∃ t, handleTc20_1 cb c tc s w = ⟨.badLength, w, t⟩ ∧ (t = .nil ∨ t = .act (.read 0) .nil) := by
  by_cases h₀ : tc.payloadLen < 1
  · refine ⟨.nil, ?_, .inl rfl⟩
    rw [handleTc20_1, if_pos h₀, Prog.pure_apply]
  refine ⟨.act (.read 0) .nil, ?_, .inr rfl⟩
  rw [handleTc20_1, if_neg h₀, readPayload_bind_apply]
  by_cases h₁ : (tc.payload.getD 0 0).toNat > cfg.service20MaxParams
  · simp only [if_pos h₁, Prog.pure_apply]
  · have h₂ : tc.payloadLen < 1 + (tc.payload.getD 0 0).toUInt16 * 2 :=
      (short_request _).mpr ((h.resolve_left (mt empty_request.mpr h₀)).resolve_left h₁)
    simp only [if_neg h₁, if_pos h₂, Prog.pure_apply]

theorem handleTc20_1_wellFormed (w : World cfg A) (h : ¬ Malformed cfg tc) :
    handleTc20_1 cb c tc s w =
      let e := pusService20EmitReport cb (some c) (some s) (some (requestedIds tc))
        (UInt8.ofNat (requestedIds tc).length) w
      ⟨e.val, e.state, .act (.read 0) (idReads (requestCount tc) 0 ++ e.trace)⟩ := by
  obtain ⟨h₀, hrest⟩ := not_or.mp h
  obtain ⟨h₁, h₂⟩ := not_or.mp hrest
  have hids : (List.range (requestCount tc)).map (fun k ↦ idAt tc (1 + (0 + k) * 2)) =
      requestedIds tc := by
    simp only [requestedIds, Nat.zero_add]
  rw [handleTc20_1, if_neg (mt empty_request.mp h₀), readPayload_bind_apply]
  have hn : (tc.payload.getD 0 0).toNat = requestCount tc := rfl
  have hmany : ¬ (tc.payload.getD 0 0).toNat > cfg.service20MaxParams := h₁
  have hshort := mt (short_request (tc.payload.getD 0 0)).mp h₂
  rw [if_neg hmany, if_neg hshort, Prog.bind_apply, hn, readIds_apply, hids, count_eq]

/-- An observer that overlooks reads of the payload sees of a request what it sees of its report. -/
theorem own_handleTc20_1 {β : Type} {g : Act → List β} {h : Call cfg → List β}
    (hg : ∀ i, g (.read i) = []) (w : World cfg A) (hwf : ¬ Malformed cfg tc) :
    (handleTc20_1 cb c tc s w).trace.own g h =
      (pusService20EmitReport cb (some c) (some s) (some (requestedIds tc))
        (UInt8.ofNat (requestedIds tc).length) w).trace.own g h := by
  rw [handleTc20_1_wellFormed w hwf]
  simp only [Trace.own_act, Trace.own_append, hg, own_idReads hg, List.nil_append]

/-- What `handle_tc_20_1` does with every request, on a table whose values can all be reported. -/
theorem request_reported (cb : Callbacks cfg A) (c s : Ptr) (tc : TcPacket) (w : World cfg A)
    (hcfg : cfg.maxTmPayloadLen ≤ 32766) (hg : Fills cb s)
    (hc : ∀ f pid capacity ud w,
      ((cb.getter f pid capacity ud w).state.ctx c).tmCounter = (w.ctx c).tmCounter)
    (hl : ∀ i, (w.s20 s i).isUsed → (w.s20 s i).valueLen.toNat ≤ cfg.maxTmPayloadLen) :
    let r := handleTc20_1 cb c tc s w
    (Malformed cfg tc → r.val = .badLength ∧ r.state = w ∧ getterCalls r.trace = [] ∧
      packets r.trace = [] ∧ deliveries r.trace = []) ∧
    (¬ Malformed cfg tc → ∃ st w',
      Collected cb s (requestedIds tc) 1 w st (getterCalls r.trace) w' ∧
      (st ≠ .ok → r.val = st ∧ packets r.trace = [] ∧ deliveries r.trace = [] ∧
        (r.state.ctx c).tmCounter = (w.ctx c).tmCounter) ∧
      (st = .ok → (getterCalls r.trace).map (·.paramId) = requestedIds tc ∧
        (∀ g ∈ getterCalls r.trace, g.Registered (w.s20 s)) ∧
        Sends c ((callTimeSource cb c w').state.ctx c)
          (tmSecHeaderBytes (stampedHeader cb c 20 2 (w'.ctx c).defaultDestinationId w') ++
            UInt8.ofNat (requestCount tc) :: (getterCalls r.trace).flatMap (·.encode))
          r.val r.trace)) := by
  intro r
  constructor
  · intro h
    obtain ⟨t, hr, ht⟩ := handleTc20_1_malformed cb c s w h
    have hr : r = _ := hr
    rw [hr]
    rcases ht with rfl | rfl <;> exact ⟨rfl, rfl, rfl, rfl, rfl⟩
  · intro h
    have hn : requestCount tc < 256 := UInt8.toNat_lt _
    have hids : (requestedIds tc).length ≤ 255 := by
      rw [length_requestedIds]
      omega
    have hgs : getterCalls r.trace = _ :=
      (own_handleTc20_1 (fun _ ↦ rfl) w h).trans (getterCalls_emitReport cb s c hids w)
    have hpackets : packets r.trace = packets _ := own_handleTc20_1 (fun _ ↦ rfl) w h
    have hdeliveries : deliveries r.trace = deliveries _ := own_handleTc20_1 (fun _ ↦ rfl) w h
    have hr : r = _ := handleTc20_1_wellFormed w h
    have hval := congrArg Outcome.val hr
    have hstate := congrArg Outcome.state hr
    have hcoll := emitReportLoop_collected hcfg hg (requestedIds tc)
      (reportArray cfg (UInt8.ofNat (requestedIds tc).length) w) 1 w hl cfg.payload_pos
    rw [hgs]
    refine ⟨_, _, hcoll, fun hst ↦ ?_, fun hst ↦ ?_⟩
    · rw [emitReport_stopped hids hst] at hval hstate hpackets hdeliveries
      rw [hval, hstate, hpackets, hdeliveries]
      refine ⟨rfl, packets_emitReportLoop _ _ _ _ _ _, own_emitReportLoop cb s ?_ _ _ _ _,
        hcoll.counter hc⟩
      exact fun _ _ _ _ _ _ _ ↦ rfl
    · have ht : ∀ pid ∈ requestedIds tc, ∀ i, findParam (w.s20 s) pid = some i →
          (w.s20 s i).valueLen.toNat ≤ cfg.maxTmPayloadLen :=
        fun pid _ i hf ↦ hl i (isUsed_of_findParam hf)
      obtain ⟨he, -, hrep⟩ := emitReport_emits c hcfg hids hg ht hst
      refine ⟨hrep.ids, hrep.registered, ?_⟩
      rw [he] at hval hpackets hdeliveries
      rw [hval, ← length_requestedIds]
      refine (emitPacket_sends ..).congr (hpackets.trans ?_) (hdeliveries.trans ?_)
      · rw [packets_append, packets_emitReportLoop, List.nil_append]
      · rw [deliveries_append, deliveries, own_emitReportLoop cb s fun _ _ _ _ _ _ _ ↦ rfl,
          List.nil_append]

def requestTwo : TcPacket := ⟨⟨1, 0, 20, 1, 0, 0, 0⟩, [2, 0, 1, 0, 1], 5⟩

theorem request_reported_twice :
    let r := handleTc20_1 filling 0 requestTwo 0 (oneParam 2)
    let calls : List GetterCall :=
      [⟨3, 0, 1, 3, 2, .ok, [0x5A, 0x5A]⟩, ⟨3, 0, 1, 7, 2, .ok, [0x5A, 0x5A]⟩]
    r.val = .ok ∧ getterCalls r.trace = calls ∧
      packets r.trace =
        [(0, [0x10, 20, 2, 0, 0, 0, 0, 0, 0, 0, 0, 0, 2, 0, 1, 0x5A, 0x5A, 0, 1, 0x5A, 0x5A])] ∧
      (∃ w', Collected filling 0 [1, 1] 1 (oneParam 2) .ok calls w') ∧
      ∀ g ∈ calls, g.Registered ((oneParam 2).s20 0) := by
  intro r calls
  have hl : ∀ i, ((oneParam 2).s20 0 i).isUsed → ((oneParam 2).s20 0 i).valueLen.toNat ≤ 256 := by
    decide +kernel
  obtain ⟨-, h⟩ := request_reported filling 0 0 requestTwo (oneParam 2) (by decide)
    (filling_fills 0) (fun _ _ _ _ _ ↦ rfl) hl
  obtain ⟨st, w', hcoll, hstopped, hsent⟩ := h (by decide)
  have hcalls : getterCalls r.trace = calls := by decide +kernel
  have hpackets : packets r.trace =
      [(0, [0x10, 20, 2, 0, 0, 0, 0, 0, 0, 0, 0, 0, 2, 0, 1, 0x5A, 0x5A, 0, 1, 0x5A, 0x5A])] := by
    decide +kernel
  obtain rfl : st = .ok := by
    by_contra hne
    have hnone := hpackets.symm.trans (hstopped hne).2.1
    cases hnone
  obtain ⟨-, hreg, -⟩ := hsent rfl
  rw [hcalls] at hcoll hreg
  exact ⟨by decide +kernel, hcalls, hpackets, ⟨w', hcoll⟩, hreg⟩

end EmbeddedPus
