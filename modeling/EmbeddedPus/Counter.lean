import EmbeddedPus.Operations

namespace EmbeddedPus

open CallTrace Buffer

variable {cfg : Config} {A : Type} {c : Ptr} {keepSink : Prop}

def stamp (bytes : List UInt8) : UInt16 × UInt32 :=
  ((tmSecHeaderOf bytes).msgTypeCounter, (tmSecHeaderOf bytes).time)

/-- The stamps of packets built at the given times, numbered from `n` on. -/
def stampsFrom : UInt16 → List UInt32 → List (UInt16 × UInt32)
  | _, [] => []
  | n, t :: ts => (n, t) :: stampsFrom (n + 1) ts

theorem length_stampsFrom (n : UInt16) (ts : List UInt32) :
    (stampsFrom n ts).length = ts.length := by
  induction ts generalizing n with
  | nil => rfl
  | cons t ts ih => rw [stampsFrom, List.length_cons, ih, List.length_cons]

theorem stampsFrom_append (n : UInt16) (ts us : List UInt32) :
    stampsFrom n (ts ++ us) = stampsFrom n ts ++ stampsFrom (n + UInt16.ofNat ts.length) us := by
  induction ts generalizing n with
  | nil => simp [stampsFrom]
  | cons t ts ih =>
    rw [List.cons_append, stampsFrom, ih, stampsFrom, List.cons_append, List.length_cons,
      UInt16.ofNat_add, UInt16.add_assoc, UInt16.add_comm 1]
    rfl

theorem stampsFrom_getElem? (n : UInt16) (ts : List UInt32) (i : ℕ) :
    (stampsFrom n ts)[i]? = ts[i]?.map fun t ↦ (n + UInt16.ofNat i, t) := by
  induction ts generalizing n i with
  | nil => rfl
  | cons t ts ih =>
    cases i with
    | zero => simp [stampsFrom]
    | succ i =>
      rw [stampsFrom, List.getElem?_cons_succ, ih, List.getElem?_cons_succ, UInt16.ofNat_add,
        UInt16.add_assoc, UInt16.add_comm 1]
      rfl

/-- The times of `n` packets: the readings of the time source, or zeros without one. -/
def clock (k : Context cfg) (n : ℕ) (rs : List UInt32) : List UInt32 :=
  if k.timeSource = none then List.replicate n 0 else rs

/-- What a run does to the numbering of a context's packets: it carries on where it stood, one
number and one reading of the clock for each packet, and with a sink to keep every packet goes to
the sink once it is built. -/
structure Numbered (c : Ptr) (keepSink : Prop) (w : World cfg A) (t : History cfg)
    (w' : World cfg A) : Prop where
  counter : (w'.ctx c).tmCounter = (w.ctx c).tmCounter + UInt16.ofNat (built c t).length
  timeSource : (w'.ctx c).timeSource = (w.ctx c).timeSource
  timeSourceUserData : (w'.ctx c).timeSourceUserData = (w.ctx c).timeSourceUserData
  stamps : (built c t).map stamp =
    stampsFrom (w.ctx c).tmCounter (clock (w.ctx c) (built c t).length (readings c t))
  idle : (w.ctx c).timeSource = none → readings c t = []
  tmSink : keepSink → (w'.ctx c).tmSink = (w.ctx c).tmSink ∧
    (w'.ctx c).tmSinkUserData = (w.ctx c).tmSinkUserData
  delivered : keepSink → (w.ctx c).tmSink ≠ none → delivered c t = built c t

theorem clock_append {k k' : Context cfg} (h : k'.timeSource = k.timeSource) (n m : ℕ)
    (rs us : List UInt32) : clock k (n + m) (rs ++ us) = clock k n rs ++ clock k' m us := by
  rw [clock, clock, clock, h]
  split
  · exact List.replicate_add n m 0
  · rfl

theorem Numbered.nil (w : World cfg A) : Numbered c keepSink w .nil w where
  counter := (UInt16.add_zero _).symm
  timeSource := rfl
  timeSourceUserData := rfl
  stamps := by
    rw [clock]
    split <;> rfl
  idle _ := rfl
  tmSink _ := ⟨rfl, rfl⟩
  delivered _ _ := rfl

theorem Numbered.length_clock {w w' : World cfg A} {t : History cfg}
    (h : Numbered c keepSink w t w') :
    (clock (w.ctx c) (built c t).length (readings c t)).length = (built c t).length := by
  rw [← length_stampsFrom (w.ctx c).tmCounter, ← h.stamps, List.length_map]

theorem Numbered.append {w w' w'' : World cfg A} {t t' : History cfg}
    (h : Numbered c keepSink w t w') (h' : Numbered c keepSink w' t' w'') :
    Numbered c keepSink w (t ++ t') w'' where
  counter := by
    rw [h'.counter, h.counter, built_append, List.length_append, UInt16.ofNat_add, UInt16.add_assoc]
  timeSource := h'.timeSource.trans h.timeSource
  timeSourceUserData := h'.timeSourceUserData.trans h.timeSourceUserData
  stamps := by
    rw [built_append, readings_append, List.map_append, List.length_append,
      clock_append h.timeSource, stampsFrom_append, h.length_clock, ← h.counter, h.stamps,
      h'.stamps]
  idle hn := by
    rw [readings_append, h.idle hn, h'.idle (h.timeSource.trans hn), List.nil_append]
  tmSink hk := ⟨(h'.tmSink hk).1.trans (h.tmSink hk).1, (h'.tmSink hk).2.trans (h.tmSink hk).2⟩
  delivered hk hs := by
    rw [delivered_append, h.delivered hk hs, built_append,
      h'.delivered hk (by rw [(h.tmSink hk).1]; exact hs)]

theorem Numbered.anySink {w w' : World cfg A} {t : History cfg} (h : Numbered c False w t w')
    (hk : ¬ keepSink) : Numbered c keepSink w t w' :=
  { h with
    tmSink := fun h ↦ absurd h hk
    delivered := fun h ↦ absurd h hk }

def numbering (cfg : Config) (A : Type) (c : Ptr) (keepSink : Prop) :
    Law (World cfg A) Act (Call cfg) where
  holds := Numbered c keepSink
  nil := .nil
  append := .append

theorem Quiet.numbered {α : Type} {m : Pus cfg A α} (h : Quiet c keepSink m) :
    m.Obeys (numbering cfg A c keepSink) := by
  intro w
  obtain ⟨hs, hb, hr, hd⟩ := h w
  exact {
    counter := by
      rw [hb, hs.counter]
      exact (UInt16.add_zero _).symm
    timeSource := hs.timeSource
    timeSourceUserData := hs.timeSourceUserData
    stamps := by
      rw [hb, hr, clock]
      split <;> rfl
    idle := fun _ ↦ hr
    tmSink := hs.tmSink
    delivered := fun _ _ ↦ by rw [hd, hb] }

/-- A call into foreign code numbers no packets itself, unless it reads the clock or delivers. -/
theorem obeys_call {α : Type} {label : World cfg A → α → Call cfg} {m : Pus cfg A α}
    (hr : ∀ w a, readingOf c (label w a) = []) (hd : ∀ w a, deliveryOf c (label w a) = [])
    (hm : m.Obeys (numbering cfg A c keepSink)) :
    (Prog.call label m).Obeys (numbering cfg A c keepSink) := by
  intro w
  have hb : built c (Prog.call label m w).trace = built c (m w).trace := by simp
  have hr' : readings c (Prog.call label m w).trace = readings c (m w).trace := by simp [hr]
  have hd' : delivered c (Prog.call label m w).trace = delivered c (m w).trace := by simp [hd]
  obtain ⟨h₁, h₂, h₃, h₄, h₅, h₆, h₇⟩ := hm w
  exact ⟨by rw [hb]; exact h₁, h₂, h₃, by rw [hb, hr']; exact h₄, by rw [hr']; exact h₅, h₆,
    by rw [hb, hd']; exact h₇⟩

theorem Steady.refl (k : Context cfg) : Steady keepSink k k :=
  ⟨rfl, rfl, rfl, fun _ ↦ ⟨rfl, rfl⟩⟩

theorem stamp_tmHeader (service subtype : UInt8) (counter dest : UInt16) (time : UInt32)
    (payload : List UInt8) :
    stamp (tmSecHeaderBytes (tmHeader service subtype counter dest time) ++ payload) =
      (counter, time) := by
  have h := tmSecHeaderOf_bytes (h := tmHeader service subtype counter dest time)
    (show pusVersion < 16 by decide) (show (0 : UInt8) < 16 by decide) payload
  rw [stamp, h]
  rfl

section Emission

variable {cb : Callbacks cfg A} (hq : QuietOutput c keepSink cb)

include hq

theorem callTimeSource_steady (d : Ptr) (w : World cfg A) :
    let r := callTimeSource cb d w
    Steady keepSink (w.ctx c) (r.state.ctx c) ∧ built c r.trace = [] ∧ delivered c r.trace = [] ∧
      readings c r.trace = if d = c ∧ (w.ctx c).timeSource ≠ none then [r.val] else [] := by
  intro r
  cases hk : (w.ctx d).timeSource with
  | none =>
    have hr : r = _ := callTimeSource_none cb hk
    rw [hr]
    refine ⟨.refl _, rfl, rfl, (if_neg ?_).symm⟩
    rintro ⟨rfl, hn⟩
    exact hn hk
  | some f =>
    have hrun : r = _ := callTimeSource_some cb hk
    obtain ⟨hs, hb, hr, hd⟩ := hq.timeSource f (w.ctx d).timeSourceUserData w
    rw [hrun]
    refine ⟨hs, by simp [hb], by simp [hd, deliveryOf], ?_⟩
    by_cases hdc : d = c
    · subst hdc
      simp [hr, readingOf, hk]
    · simp [hr, readingOf, hdc]

theorem callTmSink_steady (d : Ptr) (bytes : List UInt8) (w : World cfg A) :
    let r := callTmSink cb d bytes w
    Steady keepSink (w.ctx c) (r.state.ctx c) ∧ built c r.trace = [] ∧ readings c r.trace = [] ∧
      delivered c r.trace = if d = c ∧ (w.ctx c).tmSink ≠ none then [bytes] else [] := by
  intro r
  cases hk : (w.ctx d).tmSink with
  | none =>
    have hr : r = _ := callTmSink_none cb hk bytes
    rw [hr]
    refine ⟨.refl _, rfl, rfl, (if_neg ?_).symm⟩
    rintro ⟨rfl, hn⟩
    exact hn hk
  | some f =>
    have hrun : r = _ := callTmSink_some cb hk bytes
    obtain ⟨hs, hb, hr, hd⟩ := hq.tmSink f (w.ctx d).tmSinkUserData bytes w
    rw [hrun]
    refine ⟨hs, by simp [hb], by simp [hr, readingOf], ?_⟩
    by_cases hdc : d = c
    · subst hdc
      simp [hd, deliveryOf, hk]
    · simp [hd, deliveryOf, hdc]

variable {d : Ptr} {service subtype : UInt8} {dest : UInt16} {payload : List UInt8}

theorem buildPacket_quiet (hd : d ≠ c) :
    Quiet c keepSink (buildPacket cb d service subtype dest payload) := by
  intro w
  obtain ⟨hs, hb, hdel, hr⟩ := callTimeSource_steady hq d w
  simp only [hd, false_and, if_false] at hr
  rw [buildPacket_apply]
  refine ⟨?_, by simp [hb, packetOf, hd], by simp [hr], by simp [hdel]⟩
  rw [World.setCtx_ctx_of_ne _ _ _ (Ne.symm hd)]
  exact hs

theorem callTmSink_quiet (hd : d ≠ c) (bytes : List UInt8) :
    Quiet c keepSink (callTmSink cb d bytes) := by
  intro w
  obtain ⟨hs, hb, hr, hdel⟩ := callTmSink_steady hq d bytes w
  simp only [hd, false_and, if_false] at hdel
  exact ⟨hs, hb, hr, hdel⟩

variable (service subtype dest payload) in
theorem buildPacket_numbered (w : World cfg A) :
    let r := buildPacket cb c service subtype dest payload w
    Numbered c False w r.trace r.state ∧ built c r.trace = [r.val] ∧ delivered c r.trace = [] ∧
      (keepSink → (r.state.ctx c).tmSink = (w.ctx c).tmSink ∧
        (r.state.ctx c).tmSinkUserData = (w.ctx c).tmSinkUserData) := by
  obtain ⟨hs, hb, hdel, hr⟩ := callTimeSource_steady hq c w
  intro r
  have he : r = _ := buildPacket_apply ..
  have hctx : r.state.ctx c = { (callTimeSource cb c w).state.ctx c with
      tmCounter := ((callTimeSource cb c w).state.ctx c).tmCounter + 1 } := by
    rw [he, World.setCtx_ctx]
  have hbuilt : built c r.trace = [r.val] := by
    rw [he]
    simp [hb, packetOf]
  have hdelivered : delivered c r.trace = [] := by
    rw [he]
    simp [hdel]
  have hread : readings c r.trace = readings c (callTimeSource cb c w).trace := by
    rw [he]
    simp
  have hstamp : stamp r.val = ((w.ctx c).tmCounter, (callTimeSource cb c w).val) := by
    rw [he]
    exact stamp_tmHeader ..
  rw [← hread] at hr
  refine ⟨⟨?_, ?_, ?_, ?_, ?_, False.elim, False.elim⟩, hbuilt, hdelivered, fun hk ↦ ?_⟩
  · rw [hctx, hbuilt, hs.counter]
    rfl
  · rw [hctx, hs.timeSource]
  · rw [hctx, hs.timeSourceUserData]
  · rw [hbuilt, List.map_singleton, hstamp, hr, clock]
    by_cases hn : (w.ctx c).timeSource = none
    · rw [if_pos hn, callTimeSource_none cb hn]
      rfl
    · rw [if_neg hn, if_pos ⟨rfl, hn⟩]
      rfl
  · intro hn
    rw [hr, if_neg fun h ↦ h.2 hn]
  · rw [hctx]
    exact hs.tmSink hk

theorem emission_numbered (w : World cfg A) :
    let r := buildPacket cb c service subtype dest payload w
    let q := callTmSink cb c r.val r.state
    Numbered c keepSink w (r.trace ++ q.trace) q.state := by
  intro r q
  obtain ⟨hn, hbuilt, hdelivered, hsink⟩ := buildPacket_numbered hq service subtype dest
    payload w
  obtain ⟨hs, hb, hr, hdel⟩ := callTmSink_steady hq c r.val r.state
  have hall : built c (r.trace ++ q.trace) = built c r.trace := by
    rw [built_append, hb, List.append_nil]
  have hread : readings c (r.trace ++ q.trace) = readings c r.trace := by
    rw [readings_append, hr, List.append_nil]
  refine ⟨?_, hs.timeSource.trans hn.timeSource,
    hs.timeSourceUserData.trans hn.timeSourceUserData, ?_, ?_, fun hk ↦ ?_, fun hk hsome ↦ ?_⟩
  · rw [hall, hs.counter, hn.counter]
  · rw [hall, hread, hn.stamps]
  · rw [hread]
    exact hn.idle
  · exact ⟨(hs.tmSink hk).1.trans (hsink hk).1, (hs.tmSink hk).2.trans (hsink hk).2⟩
  · rw [delivered_append, hdelivered, hdel, hall, hbuilt, List.nil_append, if_pos]
    exact ⟨rfl, by rw [(hsink hk).1]; exact hsome⟩

theorem emission_obeys {α : Type} {f : List UInt8 → Status → Pus cfg A α}
    (hf : ∀ bytes st, (f bytes st).Obeys (numbering cfg A c keepSink)) :
    (buildPacket cb d service subtype dest payload >>= fun bytes ↦
      callTmSink cb d bytes >>= f bytes).Obeys (numbering cfg A c keepSink) := by
  -- between building and delivery the two halves do not obey the law one by one
  by_cases hd : d = c
  · subst hd
    intro w
    rw [Prog.bind_trace, Prog.bind_trace, ← Trace.append_assoc]
    exact (emission_numbered hq w).append (hf _ _ _)
  · exact .bind (buildPacket_quiet hq hd).numbered fun bytes ↦
      .bind (callTmSink_quiet hq hd bytes).numbered (hf bytes)

end Emission

end EmbeddedPus
