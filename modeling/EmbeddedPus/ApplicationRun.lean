import EmbeddedPus.ObcRun

namespace EmbeddedPus

open CallTrace SlotTable

variable {cfg : Config} {A S : Type} {cb : Callbacks cfg A} {c : Ptr}

/-- The account of `c`: the reports put out are delivered, in packets numbered on from its counter,
and all that this leaves in the context is the counter. -/
def downlink (c : Ptr) : Account (World cfg A) Act (Call cfg) Report where
  holds w t w' rs :=
    (∃ ps, Carries (w.ctx c).tmCounter rs ps ∧
      downlinked c t = ps.flatMap fun bytes ↦ (w.ctx c).deliver c bytes .ok) ∧
    w'.ctx c = { w.ctx c with tmCounter := (w.ctx c).tmCounter + UInt16.ofNat rs.length }
  nil w := by
    have hn : (w.ctx c).tmCounter + UInt16.ofNat 0 = (w.ctx c).tmCounter := UInt16.add_zero _
    refine ⟨⟨[], .nil _, rfl⟩, ?_⟩
    rw [List.length_nil, hn]
  append := by
    rintro w t w' rs t' w'' rs' ⟨⟨ps, hps, hs⟩, hk⟩ ⟨⟨ps', hps', hs'⟩, hk'⟩
    have hd (bytes : List UInt8) : (w'.ctx c).deliver c bytes .ok =
        (w.ctx c).deliver c bytes .ok := by
      rw [hk]
      rfl
    rw [hk] at hps'
    refine ⟨⟨ps ++ ps', hps.append hps', ?_⟩, ?_⟩
    · simp only [downlinked_append, hs, hs', hd, List.flatMap_append]
    · rw [hk', hk, List.length_append, UInt16.ofNat_add, UInt16.add_assoc]

theorem downlink_overlooks (c : Ptr) : Overlooks (downlink c : Account (World cfg A) _ _ _) where
  read _ _ := (downlink c).nil _
  call := by
    rintro w t w' rs f hf ⟨⟨ps, hps, hs⟩, hk⟩
    refine ⟨⟨ps, hps, ?_⟩, hk⟩
    rw [downlinked_call c hf, hs]

/-- In the worlds that show a state the context is `k` but for its counter, which has no part in
what is shown, and the time source and a sink that takes every packet do not touch either. -/
structure Downlinks (R : World cfg A → S → Prop) (cb : Callbacks cfg A) (c : Ptr)
    (k : Context cfg) : Prop where
  context : ∀ {w x}, R w x → w.ctx c = { k with tmCounter := (w.ctx c).tmCounter }
  counter : ∀ {w x} (n : UInt16), R w x → R (w.setCtx c { w.ctx c with tmCounter := n }) x
  timeSource : ∀ {f w x}, k.timeSource = some f → R w x →
    R (cb.timeSource f k.timeSourceUserData w).state x ∧
      (cb.timeSource f k.timeSourceUserData w).state.ctx c = w.ctx c
  tmSink : ∀ {f w x} (data : List UInt8), k.tmSink = some f → R w x →
    (cb.tmSink f k.tmSinkUserData data w).val = .ok ∧
      R (cb.tmSink f k.tmSinkUserData data w).state x ∧
      (cb.tmSink f k.tmSinkUserData data w).state.ctx c = w.ctx c

namespace Downlinks

variable {R : World cfg A → S → Prop} {k : Context cfg} (h : Downlinks R cb c k) {w : World cfg A}
  {x : S}

include h

theorem callTimeSource (hw : R w x) :
    R (callTimeSource cb c w).state x ∧ (callTimeSource cb c w).state.ctx c = w.ctx c := by
  have hk := h.context hw
  have hsource : (w.ctx c).timeSource = k.timeSource := by rw [hk]
  have hdata : (w.ctx c).timeSourceUserData = k.timeSourceUserData := by rw [hk]
  cases hf : k.timeSource with
  | none =>
    rw [callTimeSource_none cb (hsource.trans hf)]
    exact ⟨hw, rfl⟩
  | some f =>
    rw [callTimeSource_some cb (hsource.trans hf), hdata]
    exact h.timeSource hf hw

theorem callTmSink (hw : R w x) (data : List UInt8) :
    (callTmSink cb c data w).val = .ok ∧ R (callTmSink cb c data w).state x ∧
      (callTmSink cb c data w).state.ctx c = w.ctx c := by
  have hk := h.context hw
  have hsink : (w.ctx c).tmSink = k.tmSink := by rw [hk]
  have hdata : (w.ctx c).tmSinkUserData = k.tmSinkUserData := by rw [hk]
  cases hf : k.tmSink with
  | none =>
    rw [callTmSink_none cb (hsink.trans hf)]
    exact ⟨rfl, hw, rfl⟩
  | some f =>
    rw [callTmSink_some cb (hsink.trans hf), hdata]
    exact h.tmSink data hf hw

theorem emits : Emits (downlink c) R cb c k.handlerTable where
  toOverlooks := downlink_overlooks c
  table hw := by rw [h.context hw]
  emission r := by
    intro w x hw
    obtain ⟨hw₁, hk₁⟩ := h.callTimeSource hw
    have hw₂ := h.counter ((w.ctx c).tmCounter + 1) hw₁
    rw [hk₁] at hw₂
    obtain ⟨hval, hw₃, hk₃⟩ := h.callTmSink hw₂ (r.packet (w.ctx c).tmCounter
      (EmbeddedPus.callTimeSource cb c w).val)
    have he : emitPacket cb c r.service r.subtype r.destination r.payload w = _ :=
      emitPacket_apply ..
    rw [World.setCtx_ctx] at hk₃
    refine ⟨?_, ?_, ⟨[r.packet (w.ctx c).tmCounter (EmbeddedPus.callTimeSource cb c w).val],
      .cons _ (.nil _), ?_⟩, ?_⟩
    · rw [he]
      simp only [hk₁]
      exact hval
    · rw [he]
      simp only [hk₁]
      exact hw₃
    · rw [he]
      simp only [hk₁, downlinked_append, downlinked_callTimeSource, downlinked_act,
        downlinked_callTmSink, World.setCtx_ctx, List.nil_append, List.flatMap_singleton]
      exact congrArg _ hval
    · rw [he]
      simp only [hk₁]
      exact hk₃

end Downlinks

theorem Downlinks.run {R : World cfg A → S → Prop} {k : Context cfg} {v : Services S}
    {activities : List Activity} (hd : Downlinks R cb c k)
    (h : Equips (downlink c) R cb c k.handlerTable v) (hm : 2 ≤ cfg.maxTmPayloadLen)
    (hcfg : cfg.maxTmPayloadLen ≤ 32766) (ha : ∀ a ∈ activities, a.Sound v) :
    Prog.Refines (downlink c) R Eq (Prog.each (·.exec cb c) activities)
      (Prog.each (v.perform cfg) activities) :=
  .each activities fun a hmem ↦ (Offers.mk hd.emits h).exec hm hcfg a (ha a hmem)

section Computer

open Obc

variable {k : Context .default}

variable (k) in
theorem Obc.downlinks : Downlinks (Shows k) callbacks gPus k where
  context hw := hw.context
  counter n hw := by
    refine ⟨?_, hw.structures, hw.parameters, hw.threshold⟩
    rw [World.setCtx_ctx, hw.context]
  timeSource hf hw := ⟨⟨hw.context, hw.structures, hw.parameters, hw.threshold⟩, rfl⟩
  tmSink data hf hw := ⟨rfl, ⟨hw.context, hw.structures, hw.parameters, hw.threshold⟩, rfl⟩

theorem Obc.downlink_unconcerned : Unconcerned (downlink gPus) := fun _ w ↦ (downlink gPus).nil w

def Obc.setAndAsk : List Activity :=
  [.received tc203 15, .event 2 0x0301 (some [9]) 1, .received tc201 13]

theorem Obc.setAndAsk_sound : ∀ a ∈ setAndAsk, a.Sound services := by
  have hlen (s : Ptr) (pid : UInt16) (p : Parameter UInt16)
      (hp : services.parameters s pid = some p) : p.length = 2 := length_parameter hp
  refine List.forall_mem_cons.mpr ⟨⟨by decide, fun s pid p h ↦ ?_⟩, List.forall_mem_cons.mpr
    ⟨fun p h ↦ ?_, List.forall_mem_singleton.mpr ⟨by decide, fun s pid p h ↦ ?_⟩⟩⟩
  · rw [hlen s pid p h]
    decide
  · cases h
    decide
  · rw [hlen s pid p h]
    decide

end Computer

end EmbeddedPus
