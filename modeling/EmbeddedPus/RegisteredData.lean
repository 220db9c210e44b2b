import EmbeddedPus.Registration

namespace EmbeddedPus

open CallTrace SlotTable

variable {cfg : Config} {A : Type} {cb : Callbacks cfg A} {c s : Ptr} {w : World cfg A}

structure ProviderCall where
  provider : Ptr
  userData : Ptr
  sid : UInt16
  deriving DecidableEq, Repr

def providerCalls (t : History cfg) : List ProviderCall :=
  t.own (fun _ ↦ []) fun
    | .provider f ud sid _ _ _ _ => [⟨f, ud, sid⟩]
    | _ => []

@[simp] theorem providerCalls_append (t u : History cfg) :
    providerCalls (t ++ u) = providerCalls t ++ providerCalls u := Trace.own_append ..

theorem lookup_hk {m : HkMap} (h : Refines (hkView s w) m) (sid : UInt16) (kind : UInt8) :
    m.lookup (sid, kind) = (findEntry (w.s3 s) sid kind).map fun i ↦
      ((w.s3 s i).provider, (w.s3 s i).userData) := by
  rw [← h.lookup_eq]
  exact (hkMatches_tests (w.s3 s) sid kind).lookup

theorem lookup_param {m : ParamMap} (h : Refines (paramView s w) m) (pid : UInt16) :
    m.lookup pid = (findParam (w.s20 s) pid).map fun i ↦ paramLayout.val (w.s20 s i) := by
  rw [← h.lookup_eq]
  exact (paramMatches_tests (w.s20 s) pid).lookup

theorem emitReport_registered {m : HkMap} (h : Refines (hkView s w) m) (sid : UInt16)
    (kind : UInt8) :
    match m.lookup (sid, kind) with
    | none => emitReport cb (some c) (some s) sid kind w = ⟨.noHandler, w, .nil⟩
    | some (f, ud) =>
      providerCalls (emitReport cb (some c) (some s) sid kind w).trace = [⟨f, ud, sid⟩] := by
  rw [lookup_hk h]
  cases hf : findEntry (w.s3 s) sid kind with
  | none =>
    simp only [Option.map_none, emitReport, readS3_bind_apply, hf, Prog.pure_apply]
  | some i =>
    obtain ⟨array, out, -, -, he⟩ := emitReport_found cb c hf
    have hbuild (w : World cfg A) (subtype : UInt8) (dest len capacity : UInt16)
        (payload out : List UInt8) :
        providerCalls (pusTmBuild cb (some c) 3 subtype dest (some payload) len (some out) capacity
          (some 0) w).trace = [] :=
      own_pusTmBuild cb w (fun _ _ ↦ rfl) (fun _ _ _ _ ↦ rfl) (fun _ _ _ _ _ ↦ rfl) 0
    have hcall : providerCalls (callProvider cb (w.s3 s i) sid (offered cfg) w).trace =
        [⟨(w.s3 s i).provider, (w.s3 s i).userData, sid⟩] := rfl
    simp only [Option.map_some]
    rw [he, Prog.bind_trace, providerCalls_append, hcall]
    split
    · rfl
    · split
      · rfl
      · rw [readCtx_bind_apply, Prog.bind_trace, providerCalls_append, hbuild]
        rfl

/-- What a report for the ids does with parameters registered as `m` says, when it has filled the
payload up to `off`: the status it ends with and the getter calls it makes. A getter may itself
register parameters; what follows it goes by the map as it is then. -/
inductive Fetches (cb : Callbacks cfg A) (s : Ptr) :
    ParamMap → List UInt16 → UInt16 → World cfg A → Status → List GetterCall → Prop
  | done (m : ParamMap) (off : UInt16) (w : World cfg A) : Fetches cb s m [] off w .ok []
  | unknown {m : ParamMap} {pid : UInt16} (ids : List UInt16) (off : UInt16) (w : World cfg A)
      (h : m.lookup pid = none) : Fetches cb s m (pid :: ids) off w .noHandler []
  | noRoom {m : ParamMap} {pid off : UInt16} {d : ParamData} (ids : List UInt16) (w : World cfg A)
      (h : m.lookup pid = some d)
      (hroom : off + 2 + d.valueLen > UInt16.ofNat cfg.maxTmPayloadLen) :
      Fetches cb s m (pid :: ids) off w .bufferTooSmall []
  | failed {m : ParamMap} {pid off : UInt16} {d : ParamData} (ids : List UInt16) {w : World cfg A}
      {r : Outcome (World cfg A) Act (Call cfg) Got} (h : m.lookup pid = some d)
      (hroom : ¬ off + 2 + d.valueLen > UInt16.ofNat cfg.maxTmPayloadLen)
      (hr : cb.getter d.getter pid d.valueLen d.userData w = r) (hst : r.val.st ≠ .ok) :
      Fetches cb s m (pid :: ids) off w r.val.st
        [⟨d.getter, d.userData, pid, (off + 2).toNat, d.valueLen, r.val.st, r.val.bytes⟩]
  | got {m : ParamMap} {pid off : UInt16} {d : ParamData} {ids : List UInt16} {w : World cfg A}
      {r : Outcome (World cfg A) Act (Call cfg) Got} {st : Status} {gs : List GetterCall}
      (h : m.lookup pid = some d)
      (hroom : ¬ off + 2 + d.valueLen > UInt16.ofNat cfg.maxTmPayloadLen)
      (hr : cb.getter d.getter pid d.valueLen d.userData w = r) (hst : r.val.st = .ok)
      (hrest : ∀ m₁, Refines (paramView s r.state) m₁ →
        Fetches cb s m₁ ids (off + 2 + d.valueLen) r.state st gs) :
      Fetches cb s m (pid :: ids) off w st
        (⟨d.getter, d.userData, pid, (off + 2).toNat, d.valueLen, .ok, r.val.bytes⟩ :: gs)

inductive Sets (cb : Callbacks cfg A) (s : Ptr) (tc : TcPacket) :
    ParamMap → ℕ → UInt16 → World cfg A → Status → List SetterCall → Prop
  | done (m : ParamMap) (off : UInt16) (w : World cfg A) : Sets cb s tc m 0 off w .ok []
  | noId {off : UInt16} (m : ParamMap) (n : ℕ) (w : World cfg A) (hid : off + 2 > tc.payloadLen) :
      Sets cb s tc m (n + 1) off w .badLength []
  | unknown {m : ParamMap} {off : UInt16} (n : ℕ) (w : World cfg A)
      (hid : ¬ off + 2 > tc.payloadLen) (h : m.lookup (idAt tc off.toNat) = none) :
      Sets cb s tc m (n + 1) off w .noHandler []
  | noValue {m : ParamMap} {off : UInt16} {d : ParamData} (n : ℕ) (w : World cfg A)
      (hid : ¬ off + 2 > tc.payloadLen) (h : m.lookup (idAt tc off.toNat) = some d)
      (hend : off + 2 + d.valueLen > tc.payloadLen) : Sets cb s tc m (n + 1) off w .badLength []
  | readOnly {m : ParamMap} {off : UInt16} {d : ParamData} (n : ℕ) (w : World cfg A)
      (hid : ¬ off + 2 > tc.payloadLen) (h : m.lookup (idAt tc off.toNat) = some d)
      (hend : ¬ off + 2 + d.valueLen > tc.payloadLen) (hset : d.setter = none) :
      Sets cb s tc m (n + 1) off w .handlerFailed []
  | failed {m : ParamMap} {off : UInt16} {d : ParamData} {f : Ptr} {buf : List UInt8} (n : ℕ)
      {w : World cfg A} {r : Outcome (World cfg A) Act (Call cfg) Status}
      (hid : ¬ off + 2 > tc.payloadLen) (h : m.lookup (idAt tc off.toNat) = some d)
      (hend : ¬ off + 2 + d.valueLen > tc.payloadLen) (hset : d.setter = some f)
      (hbuf : buf = (tc.payload.drop (off + 2).toNat).take d.valueLen.toNat)
      (hr : cb.setter f (idAt tc off.toNat) buf d.valueLen d.userData w = r)
      (hst : r.val ≠ .ok) :
      Sets cb s tc m (n + 1) off w r.val
        [⟨f, d.userData, idAt tc off.toNat, (off + 2).toNat, d.valueLen, buf, r.val⟩]
  | set {m : ParamMap} {off : UInt16} {d : ParamData} {f : Ptr} {buf : List UInt8} {n : ℕ}
      {w : World cfg A} {r : Outcome (World cfg A) Act (Call cfg) Status} {st : Status}
      {xs : List SetterCall} (hid : ¬ off + 2 > tc.payloadLen)
      (h : m.lookup (idAt tc off.toNat) = some d)
      (hend : ¬ off + 2 + d.valueLen > tc.payloadLen) (hset : d.setter = some f)
      (hbuf : buf = (tc.payload.drop (off + 2).toNat).take d.valueLen.toNat)
      (hr : cb.setter f (idAt tc off.toNat) buf d.valueLen d.userData w = r)
      (hst : r.val = .ok)
      (hrest : ∀ m₁, Refines (paramView s r.state) m₁ →
        Sets cb s tc m₁ n (off + 2 + d.valueLen) r.state st xs) :
      Sets cb s tc m (n + 1) off w st
        (⟨f, d.userData, idAt tc off.toNat, (off + 2).toNat, d.valueLen, buf, .ok⟩ :: xs)

variable (cb s) in
theorem emitReportLoop_fetches (ids : List UInt16) (payload : List UInt8) (off : UInt16)
    (w : World cfg A) (m : ParamMap) (h : Refines (paramView s w) m) :
    Fetches cb s m ids off w (emitReportLoop cb s ids payload off w).val.st
      (getterCalls (emitReportLoop cb s ids payload off w).trace) := by
  induction ids generalizing payload off w m with
  | nil => exact .done m off w
  | cons pid ids ih =>
    have hm := lookup_param h pid
    cases hf : findParam (w.s20 s) pid with
    | none =>
      rw [emitReportLoop_unknown hf]
      exact .unknown ids off w (hm.trans (by rw [hf, Option.map_none]))
    | some i =>
      have hm : m.lookup pid = some (paramLayout.val (w.s20 s i)) :=
        hm.trans (by rw [hf, Option.map_some])
      by_cases hroom : off + 2 + (w.s20 s i).valueLen > UInt16.ofNat cfg.maxTmPayloadLen
      · rw [emitReportLoop_full hf hroom]
        exact .noRoom ids w hm hroom
      let r := cb.getter (w.s20 s i).getter pid (w.s20 s i).valueLen (w.s20 s i).userData w
      have hcall : getterCalls (callGetter cb (w.s20 s i) pid (off + 2).toNat
          (w.s20 s i).valueLen w).trace = [⟨(w.s20 s i).getter, (w.s20 s i).userData, pid,
            (off + 2).toNat, (w.s20 s i).valueLen, r.val.st, r.val.bytes⟩] := rfl
      by_cases hst : r.val.st = .ok
      · rw [emitReportLoop_next hf hroom hst, getterCalls_append, hcall, hst]
        exact .got (r := r) hm hroom rfl hst fun m₁ h₁ ↦ ih _ _ r.state m₁ h₁
      · rw [emitReportLoop_failed hf hroom hst, hcall]
        exact .failed (r := r) ids hm hroom rfl hst

variable (cb s) in
theorem setValuesLoop_sets (tc : TcPacket) (n : ℕ) (off : UInt16) (w : World cfg A) (m : ParamMap)
    (h : Refines (paramView s w) m) :
    Sets cb s tc m n off w (setValuesLoop cb s tc n off w).val.1
      (setterCalls (setValuesLoop cb s tc n off w).trace) := by
  induction n generalizing off w m with
  | zero => exact .done m off w
  | succ n ih =>
    by_cases hid : tc.payloadLen < off + 2
    · rw [setValuesLoop_short hid]
      exact .noId m n w hid
    have hm := lookup_param h (idAt tc off.toNat)
    cases hf : findParam (w.s20 s) (idAt tc off.toNat) with
    | none =>
      have ht : target (w.s20 s) tc off = .error .noHandler := by rw [target, hf]
      rw [setValuesLoop_refused hid ht]
      exact .unknown n w hid (hm.trans (by rw [hf, Option.map_none]))
    | some i =>
      have hm : m.lookup (idAt tc off.toNat) = some (paramLayout.val (w.s20 s i)) :=
        hm.trans (by rw [hf, Option.map_some])
      by_cases hend : tc.payloadLen < off + 2 + (w.s20 s i).valueLen
      · have ht : target (w.s20 s) tc off = .error .badLength := by
          simp only [target, hf, if_pos hend]
        rw [setValuesLoop_refused hid ht]
        exact .noValue n w hid hm hend
      cases hs : (w.s20 s i).setter with
      | none =>
        have ht : target (w.s20 s) tc off = .error .handlerFailed := by
          simp only [target, hf, if_neg hend, hs]
        rw [setValuesLoop_refused hid ht]
        exact .readOnly n w hid hm hend hs
      | some f =>
        have ht : target (w.s20 s) tc off = .ok (w.s20 s i, f) := by
          simp only [target, hf, if_neg hend, hs]
        let buf := (tc.payload.drop (off + 2).toNat).take (w.s20 s i).valueLen.toNat
        let r := cb.setter f (idAt tc off.toNat) buf (w.s20 s i).valueLen (w.s20 s i).userData w
        have hcall : setterCalls (callSetter cb f (w.s20 s i).userData (idAt tc off.toNat) tc
            (off + 2).toNat (w.s20 s i).valueLen w).trace = [⟨f, (w.s20 s i).userData,
              idAt tc off.toNat, (off + 2).toNat, (w.s20 s i).valueLen, buf, r.val⟩] := rfl
        by_cases hst : r.val = .ok
        · rw [setValuesLoop_next hid ht hst]
          simp only [setterCalls_append, setterCalls_readId, List.nil_append, hcall, hst]
          exact .set (r := r) hid hm hend hs rfl rfl hst fun m₁ h₁ ↦ ih _ r.state m₁ h₁
        · rw [setValuesLoop_failed hid ht hst]
          simp only [setterCalls_append, setterCalls_readId, List.nil_append, hcall]
          exact .failed (r := r) n hid hm hend hs rfl rfl hst

/-- Every use of the two tables goes by the maps: which provider a report calls, and which getters
and setters reports, requests and commands call, with which data, and what becomes of an id that no
parameter has. -/
structure UsesRegistered (cb : Callbacks cfg A) (c s₃ s₂₀ : Ptr) (w : World cfg A) (m : HkMap)
    (m' : ParamMap) : Prop where
  emitHk : ∀ sid, match m.lookup (sid, pusService3KindHk) with
    | none => pusService3EmitHk cb (some c) (some s₃) sid w = ⟨.noHandler, w, .nil⟩
    | some (f, ud) =>
      providerCalls (pusService3EmitHk cb (some c) (some s₃) sid w).trace = [⟨f, ud, sid⟩]
  emitDiag : ∀ sid, match m.lookup (sid, pusService3KindDiag) with
    | none => pusService3EmitDiag cb (some c) (some s₃) sid w = ⟨.noHandler, w, .nil⟩
    | some (f, ud) =>
      providerCalls (pusService3EmitDiag cb (some c) (some s₃) sid w).trace = [⟨f, ud, sid⟩]
  report : ∀ ids : List UInt16, ids.length ≤ 255 →
    let r := pusService20EmitReport cb (some c) (some s₂₀) (some ids) (UInt8.ofNat ids.length) w
    ∃ st, Fetches cb s₂₀ m' ids 1 w st (getterCalls r.trace) ∧ (st ≠ .ok → r.val = st)
  request : ∀ tc,
    let r := handleTc20_1 cb c tc s₂₀ w
    if Malformed cfg tc then r.val = .badLength ∧ getterCalls r.trace = []
    else ∃ st, Fetches cb s₂₀ m' (requestedIds tc) 1 w st (getterCalls r.trace) ∧
      (st ≠ .ok → r.val = st)
  command : ∀ tc : TcPacket,
    let r := handleTc20_3 cb tc s₂₀ w
    if tc.payloadLen < 1 then r.val = .badLength ∧ setterCalls r.trace = []
    else Sets cb s₂₀ tc m' (tc.payload.getD 0 0).toNat 1 w r.val (setterCalls r.trace)

theorem usesRegistered (cb : Callbacks cfg A) (c s₃ s₂₀ : Ptr) {w : World cfg A} {m : HkMap}
    {m' : ParamMap} (h : Refines (hkView s₃ w) m) (h' : Refines (paramView s₂₀ w) m') :
    UsesRegistered cb c s₃ s₂₀ w m m' := by
  have hreport (ids : List UInt16) (hids : ids.length ≤ 255) :
      let r := pusService20EmitReport cb (some c) (some s₂₀) (some ids) (UInt8.ofNat ids.length) w
      ∃ st, Fetches cb s₂₀ m' ids 1 w st (getterCalls r.trace) ∧ (st ≠ .ok → r.val = st) := by
    intro r
    have hgs : getterCalls r.trace = _ := getterCalls_emitReport cb s₂₀ c hids w
    rw [hgs]
    refine ⟨_, emitReportLoop_fetches cb s₂₀ ids _ 1 w m' h', fun hst ↦ ?_⟩
    exact congrArg Outcome.val (emitReport_stopped hids hst)
  refine ⟨fun sid ↦ emitReport_registered h sid _, fun sid ↦ emitReport_registered h sid _,
    hreport, fun tc ↦ ?_, fun tc ↦ ?_⟩
  · intro r
    split
    · rename_i hbad
      obtain ⟨t, hr, ht⟩ := handleTc20_1_malformed cb c s₂₀ w hbad
      have hr : r = _ := hr
      rw [hr]
      rcases ht with rfl | rfl <;> exact ⟨rfl, rfl⟩
    · rename_i hwf
      have hids : (requestedIds tc).length ≤ 255 := by
        rw [length_requestedIds]
        exact Nat.le_of_lt_succ (UInt8.toNat_lt _)
      have hgs : getterCalls r.trace = getterCalls _ := own_handleTc20_1 (fun _ ↦ rfl) w hwf
      have hval : r.val = _ := congrArg Outcome.val (handleTc20_1_wellFormed w hwf)
      rw [hgs, hval]
      exact hreport _ hids
  · intro r
    split
    · rename_i h0
      have hr : r = _ := handleTc20_3_empty h0
      rw [hr]
      exact ⟨rfl, rfl⟩
    · rename_i h0
      have hr : r = _ := handleTc20_3_nonempty h0
      rw [hr]
      exact setValuesLoop_sets cb s₂₀ tc _ 1 w m' h'

/-- Whatever is registered with ST[03] and ST[20] from their init functions on, each table behaves
as the map the registrations make, and reports and commands go by the maps. -/
theorem service_tables_refine_maps (cb : Callbacks cfg A) (c s₃ s₂₀ : Ptr) (rs : List Registration)
    (w : World cfg A) :
    let w' := (registerFromInit s₃ s₂₀ rs w).state
    let m := putAll cfg.service3MaxStructures (hkEntries rs) ∅
    let m' := putAll cfg.service20MaxParams (paramEntries rs) ∅
    BehavesAs (hkView s₃) (HkCall.exec s₃) HkCall.key HkCall.val m w' ∧
      BehavesAs (paramView s₂₀) (ParamCall.exec s₂₀) ParamCall.paramId ParamCall.val m' w' ∧
      (∀ w'' : World cfg A, w''.s3 s₃ = w'.s3 s₃ → w''.s20 s₂₀ = w'.s20 s₂₀ →
        UsesRegistered cb c s₃ s₂₀ w'' m m') := by
  intro w' m m'
  obtain ⟨h, h'⟩ := registerFromInit_refines s₃ s₂₀ rs w
  refine ⟨Registers.behavesAs (HkCall.registers s₃) h,
    Registers.behavesAs (ParamCall.registers s₂₀) h',
    fun w'' h3 h20 ↦ usesRegistered cb c s₃ s₂₀ ?_ ?_⟩
  · rw [hkView, h3]
    exact h
  · rw [paramView, h20]
    exact h'

/-- One SID for both kinds of structure, and a parameter that is registered twice. -/
def mixedRegistrations : List Registration :=
  [.hk ⟨false, 1, some 3, 0⟩, .param ⟨1, 2, some 4, none, 0⟩, .hk ⟨true, 1, some 5, 9⟩,
    .param ⟨1, 4, some 6, some 7, 8⟩]

def setMixed : TcPacket := ⟨⟨1, 0, 20, 3, 0, 0, 0⟩, [1, 0, 1, 1, 2, 3, 4], 7⟩

def unknownMixed : TcPacket := ⟨⟨1, 0, 20, 1, 0, 0, 0⟩, [1, 0, 2], 3⟩

theorem service_tables_refine_maps_mixed :
    let w : World .default Unit := (registerFromInit 0 0 mixedRegistrations (.cleared ())).state
    let report := pusService20EmitReport filling (some 0) (some 0) (some [1]) 1 w
    let request := handleTc20_1 filling 0 unknownMixed 0 w
    let command := handleTc20_3 filling setMixed 0 w
    let unknown := handleTc20_3 filling unknownMixed 0 w
    providerCalls (pusService3EmitHk filling (some 0) (some 0) 1 w).trace = [⟨3, 0, 1⟩] ∧
      providerCalls (pusService3EmitDiag filling (some 0) (some 0) 1 w).trace = [⟨5, 9, 1⟩] ∧
      pusService3EmitHk filling (some 0) (some 0) 2 w = ⟨.noHandler, w, .nil⟩ ∧
      getterCalls report.trace = [⟨6, 8, 1, 3, 4, .ok, [0x5A, 0x5A, 0x5A, 0x5A]⟩] ∧
      (request.val = .noHandler ∧ getterCalls request.trace = []) ∧
      (command.val = .ok ∧ setterCalls command.trace = [⟨7, 8, 1, 3, 4, [1, 2, 3, 4], .ok⟩]) ∧
      unknown.val = .noHandler ∧ setterCalls unknown.trace = [] := by
  intro w report request command unknown
  obtain ⟨-, hparams, h⟩ :=
    service_tables_refine_maps filling 0 0 0 mixedRegistrations (.cleared ())
  have h := h w rfl rfl
  have hone : (putAll 16 (paramEntries mixedRegistrations) ∅).lookup 1 =
      some ⟨4, 6, some 7, 8⟩ := rfl
  have htwo : (putAll 16 (paramEntries mixedRegistrations) ∅).lookup 2 = none := rfl
  refine ⟨h.emitHk 1, h.emitDiag 1, h.emitHk 2, ?_, ?_, ?_, ?_⟩
  · obtain ⟨st, hr, -⟩ := h.report [1] (by decide)
    change Fetches _ _ _ _ _ _ _ (getterCalls report.trace) at hr
    generalize getterCalls report.trace = gs at hr ⊢
    cases hr with
    | unknown _ _ _ hno => cases hone.symm.trans hno
    | noRoom _ _ hd hroom =>
      cases hone.symm.trans hd
      exact absurd hroom (by decide)
    | failed _ hd _ hr hst =>
      cases hone.symm.trans hd
      cases hr
      exact absurd rfl hst
    | got hd _ hr _ hrest =>
      cases hone.symm.trans hd
      cases hr
      cases hrest _ hparams.refines
      rfl
  · obtain ⟨st, hr, hval⟩ := h.request unknownMixed
    change Fetches _ _ _ _ _ _ _ (getterCalls request.trace) at hr
    generalize getterCalls request.trace = gs at hr ⊢
    cases hr with
    | unknown => exact ⟨hval (by decide), rfl⟩
    | noRoom _ _ hd => cases htwo.symm.trans hd
    | failed _ hd => cases htwo.symm.trans hd
    | got hd => cases htwo.symm.trans hd
  · have hr : Sets _ _ _ _ _ _ _ command.val (setterCalls command.trace) := h.command setMixed
    generalize setterCalls command.trace = xs at hr ⊢
    generalize command.val = st at hr ⊢
    cases hr with
    | noId _ _ _ hid => exact absurd hid (by decide)
    | unknown _ _ _ hno => cases hone.symm.trans hno
    | noValue _ _ _ hd hend =>
      cases hone.symm.trans hd
      exact absurd hend (by decide)
    | readOnly _ _ _ hd _ hset =>
      cases hone.symm.trans hd
      cases hset
    | failed _ _ hd _ hset hbuf hr hst =>
      cases hone.symm.trans hd
      cases hset
      cases hr
      exact absurd rfl hst
    | set _ hd _ hset hbuf hr _ hrest =>
      cases hone.symm.trans hd
      cases hset
      cases hr
      cases hrest _ hparams.refines
      exact ⟨rfl, by rw [hbuf]; rfl⟩
  · have hr : Sets _ _ _ _ _ _ _ unknown.val (setterCalls unknown.trace) := h.command unknownMixed
    generalize setterCalls unknown.trace = xs at hr ⊢
    generalize unknown.val = st at hr ⊢
    cases hr with
    | noId _ _ _ hid => exact absurd hid (by decide)
    | unknown => exact ⟨rfl, rfl⟩
    | noValue _ _ _ hd => cases htwo.symm.trans hd
    | readOnly _ _ _ hd => cases htwo.symm.trans hd
    | failed _ _ hd => cases htwo.symm.trans hd
    | set _ hd => cases htwo.symm.trans hd

end EmbeddedPus
