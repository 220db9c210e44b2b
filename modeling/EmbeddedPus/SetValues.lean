import EmbeddedPus.Service20

namespace EmbeddedPus

open CallTrace ByteOrder

variable {cfg : Config} {A : Type} {cb : Callbacks cfg A} {s : Ptr} {tc : TcPacket}

def idAt (tc : TcPacket) (off : ℕ) : UInt16 :=
  join16 (tc.payload.getD off 0) (tc.payload.getD (off + 1) 0)

/-- What `handle_tc_20_3` makes of an instruction whose id lies at `off`: the parameter to set and
its setter, or the reason not to. -/
def target (t : Service20Ctx cfg) (tc : TcPacket) (off : UInt16) :
    Except Status (ParamEntry × Ptr) :=
  match findParam t (idAt tc off.toNat) with
  | none => .error .noHandler
  | some i =>
    if off + 2 + (t i).valueLen > tc.payloadLen then .error .badLength
    else
      match (t i).setter with
      | none => .error .handlerFailed
      | some f => .ok (t i, f)

def readId (off : ℕ) : History cfg := .act (.read off) (.act (.read (off + 1)) .nil)

section Step

variable {n : ℕ} {off : UInt16} {w : World cfg A}

theorem setValuesLoop_short (h : tc.payloadLen < off + 2) :
    setValuesLoop cb s tc (n + 1) off w = ⟨(.badLength, off), w, .nil⟩ := by
  rw [setValuesLoop, if_pos h, Prog.pure_apply]

theorem setValuesLoop_refused {st : Status} (h : ¬ tc.payloadLen < off + 2)
    (ht : target (w.s20 s) tc off = .error st) :
    setValuesLoop cb s tc (n + 1) off w = ⟨(st, off + 2), w, readId off.toNat⟩ := by
  rw [setValuesLoop, if_neg h, readPayload_bind_apply, readPayload_bind_apply, readS20_bind_apply]
  rw [target, idAt] at ht
  cases hf : findParam (w.s20 s) (join16 (tc.payload.getD off.toNat 0)
      (tc.payload.getD (off.toNat + 1) 0)) with
  | none =>
    rw [hf] at ht
    cases ht
    rfl
  | some i =>
    simp only [hf] at ht ⊢
    by_cases hl : tc.payloadLen < off + 2 + (w.s20 s i).valueLen
    · rw [if_pos hl] at ht ⊢
      cases ht
      rfl
    · rw [if_neg hl] at ht ⊢
      cases hs : (w.s20 s i).setter with
      | none =>
        simp only [hs] at ht ⊢
        cases ht
        rfl
      | some f => simp [hs] at ht

theorem setValuesLoop_set {e : ParamEntry} {f : Ptr} (h : ¬ tc.payloadLen < off + 2)
    (ht : target (w.s20 s) tc off = .ok (e, f)) :
    setValuesLoop cb s tc (n + 1) off w =
      let r := (callSetter cb f e.userData (idAt tc off.toNat) tc (off + 2).toNat e.valueLen >>=
        fun st ↦ if st ≠ .ok then pure (st, off + 2)
          else setValuesLoop cb s tc n (off + 2 + e.valueLen)) w
      ⟨r.val, r.state, readId off.toNat ++ r.trace⟩ := by
  rw [target] at ht
  cases hf : findParam (w.s20 s) (idAt tc off.toNat) with
  | none => simp [hf] at ht
  | some i =>
    simp only [hf] at ht
    by_cases hl : tc.payloadLen < off + 2 + (w.s20 s i).valueLen
    · simp [hl] at ht
    · rw [if_neg hl] at ht
      cases hs : (w.s20 s i).setter with
      | none => simp [hs] at ht
      | some f' =>
        simp only [hs] at ht
        obtain ⟨rfl, rfl⟩ := Prod.mk.inj (Except.ok.inj ht)
        rw [idAt] at hf
        rw [setValuesLoop, if_neg h, readPayload_bind_apply, readPayload_bind_apply,
          readS20_bind_apply]
        simp only [hf, if_neg hl, hs]
        rfl

theorem setValuesLoop_next {e : ParamEntry} {f : Ptr} (h : ¬ tc.payloadLen < off + 2)
    (ht : target (w.s20 s) tc off = .ok (e, f))
    (hr : (callSetter cb f e.userData (idAt tc off.toNat) tc (off + 2).toNat e.valueLen w).val =
      .ok) :
    setValuesLoop cb s tc (n + 1) off w =
      let r := callSetter cb f e.userData (idAt tc off.toNat) tc (off + 2).toNat e.valueLen w
      let q := setValuesLoop cb s tc n (off + 2 + e.valueLen) r.state
      ⟨q.val, q.state, readId off.toNat ++ (r.trace ++ q.trace)⟩ := by
  simp only [setValuesLoop_set h ht, Prog.bind_apply, hr, ne_eq, not_true_eq_false, if_false]

theorem setValuesLoop_failed {e : ParamEntry} {f : Ptr} (h : ¬ tc.payloadLen < off + 2)
    (ht : target (w.s20 s) tc off = .ok (e, f))
    (hr : (callSetter cb f e.userData (idAt tc off.toNat) tc (off + 2).toNat e.valueLen w).val ≠
      .ok) :
    setValuesLoop cb s tc (n + 1) off w =
      let r := callSetter cb f e.userData (idAt tc off.toNat) tc (off + 2).toNat e.valueLen w
      ⟨(r.val, off + 2), r.state, readId off.toNat ++ r.trace⟩ := by
  simp only [setValuesLoop_set h ht, Prog.bind_apply, if_pos hr, Prog.pure_apply, Trace.append_nil]

theorem handleTc20_3_empty (h : tc.payloadLen < 1) :
    handleTc20_3 cb tc s w = ⟨.badLength, w, .nil⟩ := by
  rw [handleTc20_3, if_pos h, Prog.pure_apply]

theorem handleTc20_3_nonempty (h : ¬ tc.payloadLen < 1) :
    handleTc20_3 cb tc s w =
      let r := setValuesLoop cb s tc (tc.payload.getD 0 0).toNat 1 w
      ⟨r.val.1, r.state, .act (.read 0) r.trace⟩ := by
  rw [handleTc20_3, if_neg h, readPayload_bind_apply]
  simp only [Prog.bind_val, Prog.bind_state, Prog.bind_trace, Prog.pure_apply, Trace.append_nil]

end Step

def settable (t : Service20Ctx cfg) (tc : TcPacket) (off : ℕ) : Option (ParamEntry × Ptr) :=
  (findParam t (idAt tc off)).bind fun i ↦ (t i).setter.map fun f ↦ (t i, f)

theorem settable_eq_some {t : Service20Ctx cfg} {off : ℕ} {e : ParamEntry} {f : Ptr} :
    settable t tc off = some (e, f) ↔
      ∃ i, findParam t (idAt tc off) = some i ∧ t i = e ∧ (t i).setter = some f := by
  simp only [settable, Option.bind_eq_some_iff, Option.map_eq_some_iff, Prod.mk.injEq]
  constructor
  · rintro ⟨i, hi, g, hg, rfl, rfl⟩
    exact ⟨i, hi, rfl, hg⟩
  · rintro ⟨i, hi, rfl, hf⟩
    exact ⟨i, hi, f, hf, rfl, rfl⟩

theorem target_eq_ok {t : Service20Ctx cfg} {off : UInt16} {e : ParamEntry} {f : Ptr} :
    target t tc off = .ok (e, f) ↔
      settable t tc off.toNat = some (e, f) ∧ ¬ tc.payloadLen < off + 2 + e.valueLen := by
  rw [target, settable]
  cases findParam t (idAt tc off.toNat) with
  | none => simp
  | some i =>
    cases hs : (t i).setter with
    | none => by_cases hl : tc.payloadLen < off + 2 + (t i).valueLen <;> simp [hs, hl]
    | some g =>
      simp only [hs, Option.bind_some, Option.map_some, Option.some.injEq, Prod.mk.injEq]
      by_cases hl : tc.payloadLen < off + 2 + (t i).valueLen
      · rw [if_pos hl]
        refine ⟨(nomatch ·), ?_⟩
        rintro ⟨⟨rfl, rfl⟩, hn⟩
        exact absurd hl hn
      · rw [if_neg hl, Except.ok.injEq, Prod.mk.injEq]
        refine ⟨?_, And.left⟩
        rintro ⟨rfl, rfl⟩
        exact ⟨⟨rfl, rfl⟩, hl⟩

theorem short_iff {off : UInt16} (h : off.toNat < 65534) :
    tc.payloadLen < off + 2 ↔ tc.payloadLen.toNat < off.toNat + 2 := by
  rw [UInt16.lt_iff_toNat_lt, toNat_add_two h]

/-- A parameter that can be set and is refused all the same has a value that ends, without a wrap,
behind the payload. -/
theorem end_of_target_error {t : Service20Ctx cfg} {off : UInt16} {e : ParamEntry} {f : Ptr}
    {st : Status} (hl : tc.payloadLen.toNat < 65534) (hid : off.toNat + 2 ≤ tc.payloadLen.toNat)
    (ht : target t tc off = .error st) (he : settable t tc off.toNat = some (e, f)) :
    off.toNat + 2 + e.valueLen.toNat < 65536 ∧
      tc.payloadLen.toNat < off.toNat + 2 + e.valueLen.toNat := by
  have hlt : tc.payloadLen < off + 2 + e.valueLen := by
    by_contra hn
    exact nomatch ht.symm.trans (target_eq_ok.mpr ⟨he, hn⟩)
  rw [UInt16.lt_iff_toNat_lt] at hlt
  have hw : off.toNat + 2 + e.valueLen.toNat < 65536 := by
    by_contra hw
    rw [end_wrapped (by omega) (by omega)] at hlt
    have := e.valueLen.toNat_lt
    omega
  rw [end_toNat hw] at hlt
  exact ⟨hw, hlt⟩

/-- The ranges of the payload a computation looks at itself or hands to a setter. -/
def accesses (t : History cfg) : List (ℕ × ℕ) :=
  t.own (fun | .read i => [(i, i + 1)] | .packet .. => [])
    (fun | .setter _ _ _ off len _ _ => [(off, off + len.toNat)] | _ => [])

def InPayload (tc : TcPacket) (t : History cfg) : Prop :=
  ∀ a ∈ accesses t, a.2 ≤ tc.payloadLen.toNat

/-- No instruction that is reached, complete up to its id and settable has a value that would reach
past 65535. -/
def NoWrap (cb : Callbacks cfg A) (s : Ptr) (tc : TcPacket) : ℕ → ℕ → World cfg A → Prop
  | 0, _, _ => True
  | n + 1, off, w => off + 2 ≤ tc.payloadLen.toNat →
    ∀ e f, settable (w.s20 s) tc off = some (e, f) →
      off + 2 + e.valueLen.toNat < 65536 ∧
      (off + 2 + e.valueLen.toNat ≤ tc.payloadLen.toNat →
        let r := callSetter cb f e.userData (idAt tc off) tc (off + 2) e.valueLen w
        r.val = .ok → NoWrap cb s tc n (off + 2 + e.valueLen.toNat) r.state)

theorem noWrap_succ {n off : ℕ} {w : World cfg A} {e : ParamEntry} {f : Ptr}
    (hid : off + 2 ≤ tc.payloadLen.toNat) (he : settable (w.s20 s) tc off = some (e, f)) :
    NoWrap cb s tc (n + 1) off w ↔ off + 2 + e.valueLen.toNat < 65536 ∧
      (off + 2 + e.valueLen.toNat ≤ tc.payloadLen.toNat →
        let r := callSetter cb f e.userData (idAt tc off) tc (off + 2) e.valueLen w
        r.val = .ok → NoWrap cb s tc n (off + 2 + e.valueLen.toNat) r.state) := by
  refine ⟨fun h ↦ h hid e f he, fun h _ e' f' he' ↦ ?_⟩
  obtain ⟨rfl, rfl⟩ := Prod.mk.inj (Option.some.inj (he.symm.trans he'))
  exact h

theorem inPayload_append {t u : History cfg} :
    InPayload tc (t ++ u) ↔ InPayload tc t ∧ InPayload tc u := by
  simp only [InPayload, accesses, Trace.own_append, List.forall_mem_append]

theorem inPayload_nil : InPayload tc (.nil : History cfg) := fun _ ha ↦ nomatch ha

theorem inPayload_readId {off : ℕ} (h : off + 2 ≤ tc.payloadLen.toNat) :
    InPayload tc (readId off : History cfg) := by
  simp [InPayload, accesses, readId]
  omega

variable (cb tc) in
theorem inPayload_callSetter (f ud : Ptr) (pid : UInt16) (off : ℕ) (len : UInt16)
    (w : World cfg A) : InPayload tc (callSetter cb f ud pid tc off len w).trace ↔
      off + len.toNat ≤ tc.payloadLen.toNat := by
  simp [InPayload, accesses, callSetter]

theorem setValuesLoop_inPayload (hl : tc.payloadLen.toNat < 65534) (n : ℕ) (off : UInt16)
    (w : World cfg A) (ho : off.toNat ≤ tc.payloadLen.toNat) :
    InPayload tc (setValuesLoop cb s tc n off w).trace ↔ NoWrap cb s tc n off.toNat w := by
  induction n generalizing off w with
  | zero => exact iff_of_true inPayload_nil trivial
  | succ n ih =>
    have hshort : tc.payloadLen < off + 2 ↔ tc.payloadLen.toNat < off.toNat + 2 :=
      short_iff (by omega)
    by_cases hs : tc.payloadLen < off + 2
    · rw [setValuesLoop_short hs]
      exact iff_of_true inPayload_nil fun h ↦ absurd (hshort.mp hs) (Nat.not_lt.mpr h)
    have hid : off.toNat + 2 ≤ tc.payloadLen.toNat := Nat.le_of_not_lt fun h ↦ hs (hshort.mpr h)
    cases ht : target (w.s20 s) tc off with
    | error st =>
      rw [setValuesLoop_refused hs ht]
      refine iff_of_true (inPayload_readId hid) fun _ e f he ↦ ?_
      obtain ⟨hw, hlt⟩ := end_of_target_error hl hid ht he
      exact ⟨hw, fun hle ↦ absurd hle (Nat.not_le.mpr hlt)⟩
    | ok ef =>
      obtain ⟨e, f⟩ := ef
      obtain ⟨he, hend⟩ := target_eq_ok.mp ht
      rw [UInt16.lt_iff_toNat_lt, Nat.not_lt] at hend
      have h2 : (off + 2).toNat = off.toNat + 2 := toNat_add_two (by omega)
      have hset := inPayload_callSetter cb tc f e.userData (idAt tc off.toNat)
        (off.toNat + 2) e.valueLen w
      rw [noWrap_succ hid he]
      by_cases hw : off.toNat + 2 + e.valueLen.toNat < 65536
      · have hrest := ih (off + 2 + e.valueLen)
        rw [end_toNat hw] at hend hrest
        rw [and_iff_right hw, imp_iff_right hend]
        by_cases hok : (callSetter cb f e.userData (idAt tc off.toNat) tc (off.toNat + 2)
            e.valueLen w).val = .ok
        · rw [setValuesLoop_next hs ht (by rwa [h2]), h2, inPayload_append, inPayload_append, hset,
            hrest _ hend, and_iff_right (inPayload_readId hid), and_iff_right hend]
          exact (imp_iff_right hok).symm
        · rw [setValuesLoop_failed hs ht (by rwa [h2]), h2, inPayload_append, hset]
          exact iff_of_true ⟨inPayload_readId hid, hend⟩ fun h ↦ absurd h hok
      · -- the wrapped sum passes the check, and the range the setter gets ends behind the payload
        have := tc.payloadLen.toNat_lt
        refine iff_of_false (fun h ↦ ?_) fun h ↦ hw h.1
        rw [setValuesLoop_set hs ht, h2, inPayload_append, Prog.bind_trace, inPayload_append,
          hset] at h
        omega

/-- Whatever the table, the setters and the TC: the loop stays inside the payload exactly when no
sum of an offset and a value length wraps. -/
theorem set_values_in_payload_iff (cb : Callbacks cfg A) (s : Ptr) (data : List UInt8)
    (tc : TcPacket) (w : World cfg A) (hl : data.length ≤ 65535)
    (hd : pusTcDecode (some data) (UInt16.ofNat data.length) (some .fresh) = (.ok, some tc)) :
    InPayload tc (handleTc20_3 cb tc s w).trace ↔
      (0 < tc.payloadLen.toNat → NoWrap cb s tc (tc.payload.getD 0 0).toNat 1 w) := by
  obtain ⟨-, hlen, hle⟩ := pusTcDecode_ok hl hd
  by_cases h0 : tc.payloadLen < 1
  · rw [handleTc20_3_empty h0]
    refine iff_of_true inPayload_nil fun hpos ↦ absurd (UInt16.lt_iff_toNat_lt.mp h0) ?_
    exact Nat.not_lt.mpr hpos
  · have hpos : 0 < tc.payloadLen.toNat :=
      Nat.le_of_not_lt fun h ↦ h0 (UInt16.lt_iff_toNat_lt.mpr h)
    have hread : InPayload tc (.act (.read 0) .nil : History cfg) := by
      simp only [InPayload, accesses, Trace.own_act, Trace.own_nil, List.append_nil,
        List.forall_mem_singleton]
      omega
    have hloop : InPayload tc (setValuesLoop cb s tc (tc.payload.getD 0 0).toNat 1 w).trace ↔
        NoWrap cb s tc (tc.payload.getD 0 0).toNat 1 w :=
      setValuesLoop_inPayload (by omega) _ 1 w hpos
    rw [handleTc20_3_nonempty h0, imp_iff_right hpos]
    exact (inPayload_append (t := .act (.read 0) .nil)).trans
      ((and_iff_right hread).trans hloop)

instance (t : History cfg) : Decidable (InPayload tc t) :=
  inferInstanceAs (Decidable (∀ a ∈ accesses t, a.2 ≤ tc.payloadLen.toNat))

def setOne : TcPacket := ⟨⟨1, 0, 20, 3, 0, 0, 0⟩, [1, 0, 1, 0xAA], 4⟩

theorem set_values_in_payload_iff_byte : NoWrap .quiet 0 setOne 1 1 (oneParam 1) :=
  (set_values_in_payload_iff .quiet 0 [0x10, 20, 3, 0, 0, 0, 0, 0, 0, 0, 1, 0, 1, 0xAA] setOne
    (oneParam 1) (by decide) (by decide)).mp (by decide) (by decide)

/-- With the registered length 65535 the sum is 2, and a setter is handed a range that ends at
65538, of a payload of four bytes. -/
theorem set_values_out_of_payload :
    pusTcDecode (some [0x10, 20, 3, 0, 0, 0, 0, 0, 0, 0, 1, 0, 1, 0xAA]) 14 (some .fresh) =
        (.ok, some setOne) ∧
      accesses (handleTc20_3 .quiet setOne 0 (oneParam 65535)).trace =
        [(0, 1), (1, 2), (2, 3), (3, 65538)] ∧
      ¬ InPayload setOne (handleTc20_3 .quiet setOne 0 (oneParam 65535)).trace := by
  decide

end EmbeddedPus
