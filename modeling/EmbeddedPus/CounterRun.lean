import EmbeddedPus.Counter
import EmbeddedPus.OperationRules

namespace EmbeddedPus

open CallTrace Buffer ByteOrder

variable {cfg : Config} {A α : Type} {c : Ptr} {keepSink : Prop} {cb : Callbacks cfg A}

abbrev Numbers (c : Ptr) (keepSink : Prop) (m : Pus cfg A α) : Prop :=
  m.Obeys (numbering cfg A c keepSink)

structure NumberingCallbacks (c : Ptr) (keepSink : Prop) (cb : Callbacks cfg A) : Prop where
  output : QuietOutput c keepSink cb
  handler : ∀ f d tc ud, Numbers c keepSink (cb.handler f d tc ud)
  provider : ∀ f sid capacity ud, Numbers c keepSink (cb.provider f sid capacity ud)
  getter : ∀ f pid capacity ud, Numbers c keepSink (cb.getter f pid capacity ud)
  setter : ∀ f pid buf len ud, Numbers c keepSink (cb.setter f pid buf len ud)

theorem readPayload_numbers (tc : TcPacket) (i : ℕ) :
    Numbers c keepSink (readPayload tc i : Pus cfg A _) :=
  Quiet.numbered fun _ ↦ ⟨.refl _, rfl, rfl, rfl⟩

theorem buildPacket_numbers (hq : QuietOutput c keepSink cb) (hk : ¬ keepSink) (d : Ptr)
    (service subtype : UInt8) (dest : UInt16) (payload : List UInt8) :
    Numbers c keepSink (buildPacket cb d service subtype dest payload) := by
  by_cases hd : d = c
  · subst hd
    intro w
    exact (buildPacket_numbered hq _ _ _ _ w).1.anySink hk
  · exact (buildPacket_quiet hq hd).numbered

theorem readings_of_input {f : Call cfg} (h : f.isOutput = false) : readingOf c f = [] := by
  cases f <;> first | rfl | cases h

theorem deliveries_of_input {f : Call cfg} (h : f.isOutput = false) : deliveryOf c f = [] := by
  cases f <;> first | rfl | cases h

theorem NumberingCallbacks.rules (h : NumberingCallbacks c keepSink cb) :
    OpRules cb (¬ keepSink) (Numbers c keepSink) where
  pure := .pure
  bind := .bind
  readCtx _ _ _ _ hf := .bind (.bind .get fun _ ↦ .pure _) hf
  localArray n _ f hf := by
    intro w
    rw [localArray_bind_apply]
    exact hf _ (by rw [List.length_map, List.length_range]) w
  readS3 _ := .bind .get fun _ ↦ .pure _
  readS20 _ := .bind .get fun _ ↦ .pure _
  readPayload := readPayload_numbers
  call hl hm :=
    obeys_call (fun _ a ↦ readings_of_input (hl a)) (fun _ a ↦ deliveries_of_input (hl a)) hm
  emission _ _ _ _ _ _ _ hf := emission_obeys h.output hf
  buildPacket := buildPacket_numbers h.output
  handler := h.handler
  provider := h.provider
  getter := h.getter
  setter := h.setter

/-- Every run carries on the numbering: by induction over what the application does, callbacks
included. -/
theorem Run.numbers {m : Pus cfg A α} (h : Run c keepSink m) : Numbers c keepSink m := by
  induction h with
  | quiet h => exact h.numbered
  | bind _ _ ihm ihf => exact .bind ihm ihf
  | call cb o hq ho _ _ _ _ handler provider getter setter =>
    have h : NumberingCallbacks c keepSink cb := ⟨hq, handler, provider, getter, setter⟩
    exact h.rules.exec o fun hb hk ↦ Bool.noConfusion (hb.symm.trans (ho hk))

theorem pusInitWithConfig_tmCounter (config : Option PusConfig) (w : World cfg A) :
    ((pusInitWithConfig (some c) config w).state.ctx c).tmCounter = 0 := by
  have hinit : pusInit (some c) w = ⟨.ok, w.setCtx c (.zero cfg), .nil⟩ := rfl
  cases config <;> simp [pusInitWithConfig, Prog.bind_apply, hinit, Context.zero]

section Numbering

variable {w w' : World cfg A} {t : History cfg}

theorem length_clock_eq {k : Context cfg} {n : ℕ} {rs : List UInt32}
    (hl : (clock k n rs).length = n) (hn : k.timeSource = none → rs = []) :
    rs.length = if k.timeSource = none then 0 else n := by
  rw [clock] at hl
  split
  · rw [hn ‹_›]
    rfl
  · rwa [if_neg ‹_›] at hl

theorem Numbered.stamp_getElem? (h : Numbered c keepSink w t w') {n : ℕ} {bytes : List UInt8}
    (hb : (built c t)[n]? = some bytes) :
    (stamp bytes).1 = (w.ctx c).tmCounter + UInt16.ofNat n ∧
      if (w.ctx c).timeSource = none then (stamp bytes).2 = 0
      else (readings c t)[n]? = some (stamp bytes).2 := by
  have hs := congrArg (·[n]?) h.stamps
  simp only [List.getElem?_map, hb, Option.map_some, stampsFrom_getElem?] at hs
  obtain ⟨time, ht, he⟩ := Option.map_eq_some_iff.mp hs.symm
  rw [← he]
  refine ⟨rfl, ?_⟩
  rw [clock] at ht
  split
  · rw [if_pos ‹_›, List.getElem?_replicate] at ht
    split at ht
    · exact (Option.some.inj ht).symm
    · cases ht
  · rwa [if_neg ‹_›] at ht

end Numbering

/-- Over every run a context's packets are numbered in the order they are built. Each takes one
number and one reading of the clock, and nothing else takes either. -/
theorem packets_numbered {m : Pus cfg A α} (h : Run c keepSink m) (w : World cfg A) :
    let r := m w
    ((w.ctx c).tmCounter = 0 →
      (r.state.ctx c).tmCounter = UInt16.ofNat (built c r.trace).length ∧
      ∀ n bytes, (built c r.trace)[n]? = some bytes →
        (tmSecHeaderOf bytes).msgTypeCounter = UInt16.ofNat n ∧
        if (w.ctx c).timeSource = none then (tmSecHeaderOf bytes).time = 0
        else (readings c r.trace)[n]? = some (tmSecHeaderOf bytes).time) ∧
    (r.state.ctx c).tmCounter = (w.ctx c).tmCounter + UInt16.ofNat (built c r.trace).length ∧
    (readings c r.trace).length =
      (if (w.ctx c).timeSource = none then 0 else (built c r.trace).length) ∧
    (keepSink → (w.ctx c).tmSink ≠ none → delivered c r.trace = built c r.trace) := by
  intro r
  have hn : Numbered c keepSink w r.trace r.state := h.numbers w
  refine ⟨fun h0 ↦ ⟨?_, fun n bytes hb ↦ ?_⟩, hn.counter, length_clock_eq hn.length_clock hn.idle,
    hn.delivered⟩
  · rw [hn.counter, h0, UInt16.zero_add]
  · have hs := hn.stamp_getElem? hb
    rw [h0, UInt16.zero_add] at hs
    exact hs

theorem Run.call_quiet (o : Op α) (ho : keepSink → o.buildsOnly = false) :
    Run c keepSink (o.exec (.quiet : Callbacks cfg A)) :=
  .call _ o ⟨fun _ _ _ _ ↦ ⟨.refl _, rfl, rfl, rfl⟩, fun _ _ _ ↦ ⟨.refl _, rfl, rfl, rfl⟩⟩ ho
    (fun _ _ _ _ ↦ .quiet fun _ ↦ ⟨.refl _, rfl, rfl, rfl⟩)
    (fun _ _ _ _ ↦ .quiet fun _ ↦ ⟨.refl _, rfl, rfl, rfl⟩)
    (fun _ _ _ _ ↦ .quiet fun _ ↦ ⟨.refl _, rfl, rfl, rfl⟩)
    (fun _ _ _ _ _ ↦ .quiet fun _ ↦ ⟨.refl _, rfl, rfl, rfl⟩)

/-- A context with a sink and a clock sends an alive report, is handed a ping that asks for every
report and has no handler, and fails to build a packet into four bytes. -/
def threeCalls : Pus .default Unit Written := do
  let _ ← (Op.service17EmitAliveReport (some 0) 5).exec .quiet
  let _ ← (Op.tcProcess (some 0) (some [0x1F, 17, 1, 0, 5, 0, 0, 0, 0, 0]) 10).exec .quiet
  (Op.tmBuild (some 0) 5 1 0 none 0 ⟨some [0, 0, 0, 0], 4, by simp⟩ (some 0)).exec .quiet

theorem packets_numbered_threeCalls :
    let w := (pusInitWithConfig (some 0) (some ⟨0, 0, some 1, 0, some 2, 0⟩) (.cleared ())).state
    let r := threeCalls w
    (built 0 r.trace).length = 2 ∧ (r.state.ctx 0).tmCounter = 2 ∧
      (readings 0 r.trace).length = 2 ∧ delivered 0 r.trace = built 0 r.trace ∧
      ∀ n bytes, (built 0 r.trace)[n]? = some bytes →
        (tmSecHeaderOf bytes).msgTypeCounter = UInt16.ofNat n := by
  intro w r
  have hrun : Run 0 True threeCalls :=
    .bind (.call_quiet _ fun _ ↦ rfl) fun _ ↦
      .bind (.call_quiet _ fun _ ↦ rfl) fun _ ↦ .call_quiet _ fun _ ↦ rfl
  obtain ⟨hz, -, hr, hd⟩ := packets_numbered hrun w
  obtain ⟨hc, hs⟩ := hz (pusInitWithConfig_tmCounter _ _)
  have hb : (built 0 r.trace).length = 2 := by decide +kernel
  have hsome : (w.ctx 0).timeSource ≠ none := by decide +kernel
  refine ⟨hb, by rw [hc, hb]; rfl, by rw [hr, if_neg hsome, hb], hd trivial (by decide +kernel),
    fun n bytes h ↦ (hs n bytes h).1⟩

end EmbeddedPus
