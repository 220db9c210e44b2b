import EmbeddedPus.Emission
import EmbeddedPus.Verification

namespace EmbeddedPus

open CallTrace ByteOrder

variable {cfg : Config} {A : Type} {cb : Callbacks cfg A} {c : Ptr} {w : World cfg A}

def TcHandler.isLibrary : TcHandler → Bool
  | .user _ => false
  | _ => true

def Call.isLibrary : Call cfg → Bool
  | .handler _ h _ _ _ _ => h.isLibrary
  | _ => false

def Delivery.ofCall : Call cfg → List Delivery
  | .tmSink c sink ud data st => [⟨c, sink, ud, data, st⟩]
  | _ => []

/-- The sinks that the code of the library called, in its handlers too. -/
def sent (t : History cfg) : List Delivery :=
  t.through Call.isLibrary (fun _ ↦ []) Delivery.ofCall

@[simp] theorem sent_nil : sent (.nil : History cfg) = [] := rfl

@[simp] theorem sent_append (t u : History cfg) : sent (t ++ u) = sent t ++ sent u :=
  Trace.through_append ..

@[simp] theorem sent_act (a : Act) (t : History cfg) : sent (.act a t) = sent t := rfl

theorem sent_callTimeSource (w : World cfg A) : sent (callTimeSource cb c w).trace = [] := by
  cases hk : (w.ctx c).timeSource with
  | none => rw [callTimeSource_none cb hk, sent_nil]
  | some f =>
    rw [callTimeSource_some cb hk]
    rfl

theorem sent_callTmSink (data : List UInt8) (w : World cfg A) :
    sent (callTmSink cb c data w).trace =
      (w.ctx c).deliver c data (callTmSink cb c data w).val := by
  cases hk : (w.ctx c).tmSink with
  | none =>
    rw [callTmSink_none cb hk, Context.deliver, hk]
    rfl
  | some f =>
    rw [callTmSink_some cb hk, Context.deliver, hk]
    rfl

def Report.packet (r : Report) (counter : UInt16) (time : UInt32) : List UInt8 :=
  tmSecHeaderBytes (tmHeader r.service r.subtype counter r.destination time) ++ r.payload

/-- Packets that carry the reports one each, numbered from `n` on. -/
inductive Carries : UInt16 → List Report → List (List UInt8) → Prop
  | nil (n : UInt16) : Carries n [] []
  | cons {n : UInt16} {r : Report} {rs : List Report} {ps : List (List UInt8)} (time : UInt32) :
      Carries (n + 1) rs ps → Carries n (r :: rs) (r.packet n time :: ps)

theorem Carries.append {n : UInt16} {rs rs' : List Report} {ps ps' : List (List UInt8)}
    (h : Carries n rs ps) (h' : Carries (n + UInt16.ofNat rs.length) rs' ps') :
    Carries n (rs ++ rs') (ps ++ ps') := by
  induction h with
  | nil n => simpa using h'
  | @cons n r rs ps time _ ih =>
    have hn : n + UInt16.ofNat (rs.length + 1) = n + 1 + UInt16.ofNat rs.length := by
      rw [UInt16.ofNat_add, UInt16.add_comm (UInt16.ofNat rs.length), ← UInt16.add_assoc]
      rfl
    rw [List.length_cons, hn] at h'
    exact .cons time (ih h')

/-- A sink that takes every packet, and leaves the context alone, as the time source does. -/
structure Reliable (cb : Callbacks cfg A) (c : Ptr) (k : Context cfg) : Prop
    extends Undisturbed cb c k where
  accepts : ∀ f, k.tmSink = some f → ∀ data w, (cb.tmSink f k.tmSinkUserData data w).val = .ok

theorem Reliable.of_counter {k : Context cfg} (h : Reliable cb c k) (n : UInt16) :
    Reliable cb c { k with tmCounter := n } :=
  ⟨h.toUndisturbed.of_counter n, h.accepts⟩

theorem Reliable.callTmSink_ok (h : Reliable cb c (w.ctx c)) (data : List UInt8) :
    (callTmSink cb c data w).val = .ok := by
  cases hf : (w.ctx c).tmSink with
  | none => rw [callTmSink_none cb hf]
  | some f =>
    rw [callTmSink_some cb hf]
    exact h.accepts f hf data w

/-- From `w` to `w'` the reports `rs` are sent for `c`, numbered on from its counter, and all that
this leaves in the context is the counter. -/
structure Answers (c : Ptr) (rs : List Report) (w : World cfg A) (t : History cfg)
    (w' : World cfg A) : Prop where
  sent : ∃ ps, Carries (w.ctx c).tmCounter rs ps ∧
    sent t = ps.flatMap fun bytes ↦ (w.ctx c).deliver c bytes .ok
  ctx : w'.ctx c = { w.ctx c with tmCounter := (w.ctx c).tmCounter + UInt16.ofNat rs.length }

theorem Answers.nil (w : World cfg A) : Answers c [] w .nil w where
  sent := ⟨[], .nil _, rfl⟩
  ctx := by
    have hn : (w.ctx c).tmCounter + UInt16.ofNat 0 = (w.ctx c).tmCounter := UInt16.add_zero _
    rw [List.length_nil, hn]

theorem Answers.append {rs rs' : List Report} {w w' w'' : World cfg A} {t t' : History cfg}
    (h : Answers c rs w t w') (h' : Answers c rs' w' t' w'') :
    Answers c (rs ++ rs') w (t ++ t') w'' := by
  obtain ⟨ps, hps, hs⟩ := h.sent
  obtain ⟨ps', hps', hs'⟩ := h'.sent
  have hk := h.ctx
  have hd (bytes : List UInt8) : (w'.ctx c).deliver c bytes .ok =
      (w.ctx c).deliver c bytes .ok := by
    rw [hk]
    rfl
  rw [hk] at hps'
  constructor
  · refine ⟨ps ++ ps', hps.append hps', ?_⟩
    simp only [sent_append, hs, hs', hd, List.flatMap_append]
  · rw [h'.ctx, hk, List.length_append, UInt16.ofNat_add, UInt16.add_assoc]

structure Responds {α : Type} (c : Ptr) (rs : List Report) (a : α) (w : World cfg A)
    (m : Pus cfg A α) : Prop where
  val : (m w).val = a
  answers : Answers c rs w (m w).trace (m w).state

section Responds

variable {α β : Type} {rs rs' : List Report} {a : α} {b : β}

theorem Responds.pure (a : α) : Responds c [] a w (pure a : Pus cfg A α) := ⟨rfl, .nil w⟩

theorem Responds.bind {m : Pus cfg A α} {f : α → Pus cfg A β} (h : Responds c rs a w m)
    (h' : Responds c rs' b (m w).state (f a)) : Responds c (rs ++ rs') b w (m >>= f) := by
  obtain ⟨rfl, ha⟩ := h
  exact ⟨h'.val, ha.append h'.answers⟩

/-- The handlers of the library answer on behalf of whoever calls them. -/
theorem Responds.call {m : Pus cfg A α} (label : World cfg A → α → Call cfg)
    (h : Responds c rs a w m) (hl : (label w a).isLibrary = true)
    (hn : Delivery.ofCall (label w a) = []) : Responds c rs a w (Prog.call label m) := by
  obtain ⟨rfl, ⟨ps, hps, hs⟩, hk⟩ := h
  have hcall : sent (Prog.call label m w).trace = sent (m w).trace := by
    simp only [sent, Prog.call_trace, Trace.through_call, hl, if_true, hn, Trace.through_nil,
      List.nil_append, List.append_nil]
  exact ⟨rfl, ⟨ps, hps, hcall.trans hs⟩, hk⟩

theorem Responds.congr {m m' : Pus cfg A α} (h : Responds c rs a w m') (hm : m w = m' w) :
    Responds c rs a w m := by
  constructor
  · rw [hm]
    exact h.val
  · rw [hm]
    exact h.answers

theorem Responds.reliable {m : Pus cfg A α} (h : Responds c rs a w m)
    (hr : Reliable cb c (w.ctx c)) : Reliable cb c ((m w).state.ctx c) := by
  rw [h.answers.ctx]
  exact hr.of_counter _

end Responds

theorem Reliable.responds_emitPacket (h : Reliable cb c (w.ctx c)) (r : Report) :
    Responds c [r] .ok w (emitPacket cb c r.service r.subtype r.destination r.payload) := by
  have he : emitPacket cb c r.service r.subtype r.destination r.payload w = _ :=
    emitPacket_apply ..
  have hk := h.callTimeSource_ctx
  have hq : Reliable cb c (((callTimeSource cb c w).state.setCtx c
      { w.ctx c with tmCounter := (w.ctx c).tmCounter + 1 }).ctx c) := by
    rw [World.setCtx_ctx]
    exact h.of_counter _
  have hok (data : List UInt8) := hq.callTmSink_ok data
  refine ⟨?_, ?_, ?_⟩
  · rw [he]
    simp only [hk]
    exact hok _
  · refine ⟨[r.packet (w.ctx c).tmCounter (callTimeSource cb c w).val], .cons _ (.nil _), ?_⟩
    rw [he]
    simp only [hk, sent_append, sent_callTimeSource, sent_act, sent_callTmSink, hok,
      World.setCtx_ctx, List.nil_append, List.flatMap_singleton]
    rfl
  · exact h.emitPacket_ctx r.payload

end EmbeddedPus
