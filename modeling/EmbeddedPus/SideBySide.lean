import EmbeddedPus.ApplicationRun
import EmbeddedPus.Library.Interleaving

namespace EmbeddedPus

open CallTrace Function SlotTable

variable {cfg : Config} {A : Type} {cb : Callbacks cfg A}

section Spared

variable {c d : Ptr} {w : World cfg A}

theorem downlinked_callTmSink_of_ne (hcd : c ≠ d) (data : List UInt8) (w : World cfg A) :
    downlinked d (callTmSink cb c data w).trace = [] := by
  cases hk : (w.ctx c).tmSink with
  | none => rw [callTmSink_none cb hk, downlinked_nil]
  | some f =>
    rw [callTmSink_some cb hk]
    simp [downlinked, Delivery.ofCall, Call.isOutput, hcd]

/-- An emission for `c` leaves `d` alone when the time source and the sink of `c` do. -/
theorem downlink_spared (hcd : c ≠ d) (h : Undisturbed cb d (w.ctx c))
    (hkeep : (callTimeSource cb c w).state.ctx c = w.ctx c) (r : Report) :
    (downlink d).holds w (emitPacket cb c r.service r.subtype r.destination r.payload w).trace
      (emitPacket cb c r.service r.subtype r.destination r.payload w).state [] := by
  have hn : (w.ctx d).tmCounter + UInt16.ofNat 0 = (w.ctx d).tmCounter := UInt16.add_zero _
  have hcount := h.of_counter ((w.ctx c).tmCounter + 1)
  refine ⟨⟨[], .nil _, ?_⟩, ?_⟩
  · simp only [emitPacket_apply, downlinked_append, downlinked_callTimeSource,
      downlinked_act, downlinked_callTmSink_of_ne hcd, List.append_nil, List.flatMap_nil]
  · rw [List.length_nil, hn, emitPacket_apply]
    dsimp only
    rw [Undisturbed.callTmSink_other, World.setCtx_ctx_of_ne _ _ _ (Ne.symm hcd),
      h.callTimeSource_other]
    rw [World.setCtx_ctx, hkeep]
    exact hcount

end Spared

variable {ι : Type} [DecidableEq ι] {S : ι → Type}

/-- Applications side by side in one memory, each with a context of its own: the time source and the
sink of one, and what it has registered, leave those of the others alone. -/
structure SideBySide (R : (i : ι) → World cfg A → S i → Prop) (cb : Callbacks cfg A) (c : ι → Ptr)
    (k : ι → Context cfg) (v : (i : ι) → Services (S i)) : Prop where
  apart : Injective c
  downlinks : ∀ i x, Downlinks (among R x i) cb (c i) (k i)
  undisturbed : ∀ i j, j ≠ i → Undisturbed cb (c j) (k i)
  equips : ∀ i x, Equips (.only (fun j ↦ downlink (c j)) i) (among R x i) cb (c i)
    (k i).handlerTable (v i)

variable {R : (i : ι) → World cfg A → S i → Prop} {c : ι → Ptr} {k : ι → Context cfg}
  {v : (i : ι) → Services (S i)}

omit [DecidableEq ι] in
theorem overlooks_only (i : ι) :
    Overlooks (.only (fun j ↦ downlink (c j)) i : Account (World cfg A) _ _ _) where
  read w n := ⟨(downlink_overlooks (c i)).read w n, fun j _ ↦ (downlink_overlooks (c j)).read w n⟩
  call hf h := ⟨(downlink_overlooks (c i)).call hf h.1,
    fun j hj ↦ (downlink_overlooks (c j)).call hf (h.2 j hj)⟩

theorem SideBySide.emits (h : SideBySide R cb c k v) (i : ι) (x : (i : ι) → S i) :
    Emits (.only (fun j ↦ downlink (c j)) i) (among R x i) cb (c i) (k i).handlerTable where
  toOverlooks := overlooks_only i
  table := (h.downlinks i x).emits.table
  emission r := by
    have hd := h.downlinks i x
    have hr := hd.emits.emission r
    refine Prog.Refines.only (K := fun j ↦ downlink (c j)) hr fun w a hw j hj ↦ ?_
    have hu := (h.undisturbed i j hj).of_counter (w.ctx (c i)).tmCounter
    rw [← hd.context hw] at hu
    exact downlink_spared (h.apart.ne hj.symm) hu (hd.callTimeSource hw).2 r

section TwoNodes

def nodeCtx (i : Bool) : Ptr := if i then 1 else 0

def nodeHandlers (i : Bool) : List RegisterCall :=
  if i then [⟨17, 1, some .handleTc17_1, 0⟩] else []

def nodeServices (i : Bool) : Services Unit where
  dispatch := ((∅ : Dispatch).registerAll Config.default.maxTcHandlers (nodeHandlers i)).2
  user _ _ _ := pure .ok
  structureTables := ∅
  structures _ _ := none
  parameterTables := ∅
  parameters _ _ := none
  destination := 0

def nodeContext (i : Bool) : Context .default :=
  { Context.zero .default with
    handlerTable := HandlerTable.edit (fun _ ↦ .zero) (nodeHandlers i)
    tmSink := some 7 }

def twoNodes : World .default Unit :=
  ((World.cleared ()).setCtx 0 (nodeContext false)).setCtx 1 (nodeContext true)

def NodeShows (i : Bool) (w : World .default Unit) (_ : Unit) : Prop :=
  w.ctx (nodeCtx i) = { nodeContext i with tmCounter := (w.ctx (nodeCtx i)).tmCounter }

theorem nodeServices_lookup {i : Bool} {pair : UInt8 × UInt8} {p : TcHandler × Ptr}
    (h : (nodeServices i).dispatch.lookup pair = some p) : p = (.handleTc17_1, 0) := by
  cases i with
  | false => cases h
  | true =>
    have hins : (nodeServices true).dispatch =
        (∅ : Dispatch).insert (17, 1) (.handleTc17_1, 0) := by
      decide
    rw [hins] at h
    by_cases hpair : pair = (17, 1)
    · rw [hpair, Finmap.lookup_insert] at h
      exact (Option.some.inj h).symm
    · rw [Finmap.lookup_insert_of_ne _ hpair] at h
      cases h

theorem nodeCtx_injective : Injective nodeCtx := by decide

theorem twoNodes_sideBySide :
    SideBySide NodeShows (.quiet : Callbacks .default Unit) nodeCtx nodeContext nodeServices where
  apart := nodeCtx_injective
  downlinks i x := by
    refine ⟨fun hw ↦ hw.own, fun {w a} n hw j ↦ ?_, (nomatch ·), fun _ _ hw ↦
      ⟨rfl, hw, rfl⟩⟩
    have hj := hw j
    rw [NodeShows] at hj ⊢
    by_cases hji : j = i
    · subst hji
      rw [World.setCtx_ctx, hj]
    · rw [World.setCtx_ctx_of_ne _ _ _ (nodeCtx_injective.ne hji)]
      exact hj
  undisturbed i j hj := ⟨fun _ _ _ _ ↦ rfl, fun _ _ _ ↦ rfl⟩
  equips i x :=
    { dispatch := edit_refines _ .empty
      destination := fun hw ↦ by rw [hw.own]; rfl
      user := fun h ↦ nomatch nodeServices_lookup h
      parameterHandlers := fun h hf ↦ by
        cases nodeServices_lookup h
        cases hf <;> rename_i hf <;> cases hf
      parameters := fun _ hs ↦ absurd hs (Set.notMem_empty _)
      lengths := fun _ _ _ h ↦ nomatch h
      structures := fun _ hs ↦ absurd hs (Set.notMem_empty _) }

def pings : List (Bool × Activity) :=
  let ping : List UInt8 := [0x11, 17, 1, 0, 5, 0, 0, 0, 0, 0]
  [(false, .received ping 10), (true, .received ping 10), (false, .event 1 2 none 0)]

end TwoNodes

end EmbeddedPus
