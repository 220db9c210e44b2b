import EmbeddedPus.Verdicts
import Mathlib.Logic.Function.Basic

namespace EmbeddedPus

open CallTrace ByteOrder SlotTable Function

variable {cfg : Config} {A S : Type}

/-- What the ground knows of a parameter: how long its values are and whether it can set them. -/
structure Cell where
  length : ℕ
  writable : Bool
  deriving DecidableEq, Repr

abbrev Catalogue := UInt16 → Option Cell

abbrev Memory := UInt16 → List UInt8

def Dictionary.catalogue (d : Dictionary S) : Catalogue :=
  fun pid ↦ (d pid).map fun p ↦ ⟨p.length, p.write.isSome⟩

inductive Order
  | set (values : List (UInt16 × List UInt8))
  | ask (ids : List UInt16)

namespace Order

def subtype : Order → UInt8
  | set _ => 3
  | ask _ => 1

def count : Order → ℕ
  | set values => values.length
  | ask ids => ids.length

def fields : Order → List UInt8
  | set values => values.flatMap fun e ↦ split16 e.1 ++ e.2
  | ask ids => ids.flatMap split16

/-- How an order is uplinked: its number of instructions, and they. -/
def payload (o : Order) : List UInt8 := UInt8.ofNat o.count :: o.fields

end Order

def Catalogue.store (z : Catalogue) : List (UInt16 × List UInt8) → Spec Memory Report Status
  | [] => pure .ok
  | (pid, value) :: values =>
    match z pid with
    | none => pure .noHandler
    | some e =>
      if e.writable then do
        Prog.modify fun m ↦ update m pid value
        store z values
      else pure .handlerFailed

/-- Whether the parameters are known and a report of `max` bytes, `used` of them gone, has room for
them. -/
def Catalogue.room (z : Catalogue) (max : ℕ) : List UInt16 → ℕ → Status
  | [], _ => .ok
  | pid :: ids, used =>
    match z pid with
    | none => .noHandler
    | some e =>
      if max < used + 2 + e.length then .bufferTooSmall else room z max ids (used + 2 + e.length)

def Memory.values (m : Memory) (ids : List UInt16) : List UInt8 :=
  ids.flatMap fun pid ↦ split16 pid ++ m pid

def Catalogue.recall (z : Catalogue) (max : ℕ) (destination : UInt16) (ids : List UInt16) :
    Spec Memory Report Status :=
  if z.room max ids 1 = .ok then do
    let m ← Prog.get
    Spec.put ⟨20, 2, destination, UInt8.ofNat ids.length :: m.values ids⟩
    pure .ok
  else pure (z.room max ids 1)

variable (cfg) in
def Order.serve (z : Catalogue) (destination : UInt16) : Order → Spec Memory Report Status
  | set values => z.store values
  | ask ids =>
    if cfg.service20MaxParams < ids.length then pure .badLength
    else z.recall cfg.maxTmPayloadLen destination ids

/-- The parameters of a dictionary are memory: each holds the value last written to it, whatever is
written to the others. -/
structure Dictionary.Remembers (d : Dictionary S) (value : S → Memory) : Prop where
  length : ∀ {pid p} x, d pid = some p → (value x pid).length = p.length
  read : ∀ {pid p} x, d pid = some p → p.read x = ⟨.ok (value x pid), x, .nil⟩
  write : ∀ {pid p write v} x, d pid = some p → p.write = some write → v.length = p.length →
    (write v x).val = .ok ∧ (write v x).trace = .nil ∧
      value (write v x).state = update (value x) pid v

/-- An order whose instructions can be counted, with values as long as the ground knows them to
be. -/
def Order.Sound (z : Catalogue) (o : Order) : Prop :=
  o.count ≤ 255 ∧ ∀ values, o = .set values → ∀ e ∈ values, ∀ p, z e.1 = some p →
    e.2.length = p.length

section Words

theorem takeWords_flatMap (ids : List UInt16) :
    takeWords ids.length (ids.flatMap split16) = some ids := by
  induction ids with
  | nil => rfl
  | cons pid ids ih =>
    have hword : join16 (pid >>> 8).toUInt8 (pid &&& 0xFF).toUInt8 = pid := join16_split16 pid
    simp only [List.flatMap_cons, split16, List.cons_append, List.nil_append, List.length_cons,
      takeWords, hword]
    exact congrArg _ ih

theorem count_toNat {n : ℕ} (h : n ≤ 255) : (UInt8.ofNat n).toNat = n := by
  rw [UInt8.toNat_ofNat']
  exact Nat.mod_eq_of_lt (Nat.lt_succ_of_le h)

end Words

namespace Dictionary.Remembers

variable {d : Dictionary S} {value : S → Memory} (h : d.Remembers value)

include h

theorem collect_eq (max : ℕ) (ids : List UInt16) (report : List UInt8) (x : S) :
    d.collect max ids report x =
      ⟨if d.catalogue.room max ids report.length = .ok then .ok (report ++ (value x).values ids)
        else .error (d.catalogue.room max ids report.length), x, .nil⟩ := by
  induction ids generalizing report with
  | nil => simp [collect, Catalogue.room, Memory.values]
  | cons pid ids ih =>
    rw [collect, Catalogue.room, catalogue]
    cases hp : d pid with
    | none => rfl
    | some p =>
      by_cases hl : max < report.length + 2 + p.length
      · simp [hl]
      · have hnext : (report ++ (split16 pid ++ value x pid)).length =
            report.length + 2 + p.length := by
          rw [List.length_append, List.length_append, length_split16, h.length x hp, Nat.add_assoc]
        have hcollect := ih (report ++ (split16 pid ++ value x pid))
        rw [hnext] at hcollect
        simp only [Option.map_some, hl, if_false, Prog.bind_apply, h.read x hp, hcollect]
        simp [Memory.values]


theorem announce (max : ℕ) (destination : UInt16) (ids : List UInt16) :
    (d.announce max destination (UInt8.ofNat ids.length) ids).Refines (told S Report)
      (fun x m ↦ value x = m) Eq (d.catalogue.recall max destination ids) := by
  rintro x _ rfl
  have hcollect := h.collect_eq max ids [UInt8.ofNat ids.length] x
  rw [List.length_singleton] at hcollect
  by_cases hroom : d.catalogue.room max ids 1 = .ok
  · rw [if_pos hroom] at hcollect
    rw [Catalogue.recall, if_pos hroom, Dictionary.announce, Prog.bind_apply, hcollect]
    exact ⟨rfl, rfl, rfl⟩
  · rw [if_neg hroom] at hcollect
    rw [Catalogue.recall, if_neg hroom, Dictionary.announce, Prog.bind_apply, hcollect]
    exact ⟨rfl, rfl, rfl⟩

theorem report {ids : List UInt16} (hids : ids.length ≤ 255) (destination : UInt16) :
    (d.report cfg.service20MaxParams cfg.maxTmPayloadLen destination
      (Order.ask ids).payload).Refines (told S Report) (fun x m ↦ value x = m) Eq
        ((Order.ask ids).serve cfg d.catalogue destination) := by
  have hn : (UInt8.ofNat (Order.ask ids).count).toNat = ids.length := count_toNat hids
  rw [Order.payload, Dictionary.report, Order.serve, hn, Order.fields, takeWords_flatMap]
  exact .ite Iff.rfl (fun _ ↦ .ret _) fun _ ↦ h.announce _ _ ids

theorem set {values : List (UInt16 × List UInt8)} (hv : ∀ e ∈ values, ∀ p,
    d.catalogue e.1 = some p → e.2.length = p.length) :
    (d.set values.length (Order.set values).fields).Refines (told S Report)
      (fun x m ↦ value x = m) Eq (d.catalogue.store values) := by
  induction values with
  | nil => exact .ret _
  | cons e values ih =>
    obtain ⟨pid, v⟩ := e
    obtain ⟨hlen, hrest⟩ := List.forall_mem_cons.mp hv
    have hword : join16 (pid >>> 8).toUInt8 (pid &&& 0xFF).toUInt8 = pid := join16_split16 pid
    have hfields : (Order.set ((pid, v) :: values)).fields = (pid >>> 8).toUInt8 ::
        (pid &&& 0xFF).toUInt8 :: (v ++ (Order.set values).fields) := rfl
    rw [hfields, List.length_cons, Dictionary.set, Catalogue.store, hword, Dictionary.catalogue]
    cases hp : d pid with
    | none => exact .ret _
    | some p =>
      have hl : v.length = p.length := hlen _ (by rw [Dictionary.catalogue, hp, Option.map_some])
      have hfits : ¬ (v ++ (Order.set values).fields).length < p.length := by
        rw [List.length_append, hl]
        exact Nat.not_lt.mpr (Nat.le_add_right _ _)
      simp only [Option.map_some, if_neg hfits]
      cases hw : p.write with
      | none => exact .ret _
      | some write =>
        have hwrite : (write v).Refines (told S Report) (fun x m ↦ value x = m)
            (fun st _ ↦ st = .ok) (Prog.modify fun m ↦ update m pid v) := by
          rintro x _ rfl
          obtain ⟨hval, htrace, hstate⟩ := h.write x hp hw hl
          exact ⟨hval, hstate, congrArg Trace.outputs htrace⟩
        rw [← hl, List.take_left, List.drop_left]
        refine hwrite.bind fun st _ hst ↦ ?_
        rw [if_neg (not_not_intro hst)]
        exact ih hrest

theorem command {values : List (UInt16 × List UInt8)} (ho : (Order.set values).Sound d.catalogue) :
    (d.command (Order.set values).payload).Refines (told S Report) (fun x m ↦ value x = m) Eq
      (d.catalogue.store values) := by
  have hn : (UInt8.ofNat (Order.set values).count).toNat = values.length := count_toNat ho.1
  rw [Order.payload, Dictionary.command, hn]
  exact h.set (ho.2 values rfl)

end Dictionary.Remembers

structure Uplink where
  ackFlags : UInt8
  sourceId : UInt16
  time : UInt32
  spare : UInt8
  order : Order

namespace Uplink

variable (q : Uplink)

def header : TcSecHeader :=
  ⟨pusVersion, q.ackFlags, 20, q.order.subtype, q.sourceId, q.time, q.spare⟩

def frame : List UInt8 := tcSecHeaderBytes q.header ++ q.order.payload

def request : Request where
  acceptance := q.ackFlags &&& 0x08 != 0
  start := q.ackFlags &&& 0x04 != 0
  completion := q.ackFlags &&& 0x01 != 0
  service := 20
  subtype := q.order.subtype
  source := q.sourceId
  payload := q.order.payload

variable (cfg) in
/-- What the ground expects of a TC: its order served, with the reports it has asked for. -/
def perform (z : Catalogue) (destination : UInt16) : Spec Memory Report Status :=
  q.request.served (some (q.order.serve cfg z destination))

variable {q}

theorem length_frame : q.frame.length = 10 + q.order.payload.length := List.length_append

theorem tcSecHeaderOf_frame (ha : q.ackFlags < 16) : tcSecHeaderOf q.frame = q.header :=
  tcSecHeaderOf_bytes (show pusVersion < 16 by decide) ha q.order.payload

theorem ofFrame_frame (ha : q.ackFlags < 16) (hl : q.frame.length ≤ 65535) :
    Request.ofFrame q.frame = q.request := by
  have hlen : (UInt16.ofNat q.frame.length).toNat = q.frame.length := toNat_ofNat_length hl
  have hge : 10 ≤ UInt16.ofNat q.frame.length := by
    rw [UInt16.le_iff_toNat_le, hlen, length_frame]
    exact Nat.le_add_right _ _
  have hrest : (UInt16.ofNat q.frame.length - 10).toNat = q.order.payload.length := by
    rw [UInt16.toNat_sub_of_le _ _ hge, hlen, length_frame]
    exact Nat.add_sub_cancel_left ..
  have hdecoded : Request.ofTc ⟨tcSecHeaderOf q.frame, q.frame.drop 10,
      UInt16.ofNat q.frame.length - 10⟩ = .ofFrame (q.frame.take _) := Request.ofTc_decoded hge
  rw [hlen, List.take_length, tcSecHeaderOf_frame ha] at hdecoded
  have hpayload : q.frame.drop 10 = q.order.payload := rfl
  rw [← hdecoded, Request.ofTc, hrest, hpayload, List.take_length]
  rfl

theorem command_frame (route : Request → Option (Spec S Report Status)) (ha : q.ackFlags < 16)
    (hl : q.frame.length ≤ 65535) :
    command route q.frame = q.request.served (route q.request) := by
  have hv : q.frame.getD 0 0 >>> 4 = pusVersion := by
    rw [← version_tcSecHeaderOf, tcSecHeaderOf_frame ha]
    rfl
  have hlen : ¬ q.frame.length < 10 := by
    rw [length_frame]
    exact Nat.not_lt.mpr (Nat.le_add_right _ _)
  rw [command, if_neg hlen, if_neg (not_not_intro hv), ofFrame_frame ha hl]

end Uplink

theorem Request.served_refines {T : Type} {R : S → T → Prop} (q : Request)
    {f : Spec S Report Status} {g : Spec T Report Status}
    (h : f.Refines (told S Report) R Eq g) :
    (q.served (some f)).Refines (told S Report) R Eq (q.served (some g)) := by
  have hput (asked : Bool) (r : Report) : (if asked then Spec.put r else pure () :
      Spec S Report Unit).Refines (told S Report) R Eq (if asked then Spec.put r else pure ()) :=
    .ite Iff.rfl (fun _ ↦ .put r) fun _ ↦ .ret ()
  exact .seq (hput q.acceptance _) fun _ ↦ .seq (hput q.start _) fun _ ↦ .seq h fun st ↦
    .seq (hput q.completion _) fun _ ↦ .ret st

/-- What happens to parameters: the ground orders, and the application reports on its own. -/
inductive Exchange
  | order (q : Uplink)
  | report (ids : List UInt16)

namespace Exchange

def activity (s : Ptr) : Exchange → Activity
  | order q => .received q.frame (UInt16.ofNat q.frame.length)
  | report ids => .parameters s ids

variable (cfg) in
def perform (z : Catalogue) (destination : UInt16) : Exchange → Spec Memory Report Status
  | order q => q.perform cfg z destination
  | report ids => z.recall cfg.maxTmPayloadLen destination ids

/-- An order is sound and its frame fits a buffer, without a value whose end could wrap. -/
def Sound (v : Services S) (z : Catalogue) : Exchange → Prop
  | order q => q.ackFlags < 16 ∧ q.order.Sound z ∧ q.frame.length ≤ 65535 ∧
      ∀ s pid p, v.parameters s pid = some p → q.frame.length + p.length < 65546
  | report ids => ids.length ≤ 255

end Exchange

/-- TCs for ST[20] are served from the table at `s`, whose parameters are memory. -/
structure Services.Stores (v : Services S) (s : Ptr) (value : S → Memory) : Prop where
  ask : v.dispatch.lookup (20, 1) = some (.handleTc20_1, s)
  set : v.dispatch.lookup (20, 3) = some (.handleTc20_3, s)
  table : s ∈ v.parameterTables
  remembers : (v.parameters s).Remembers value

namespace Services.Stores

variable {v : Services S} {s : Ptr} {value : S → Memory} (h : v.Stores s value)

include h

theorem route (q : Uplink) (ho : q.order.Sound (v.parameters s).catalogue) :
    ∃ f, v.route cfg q.request = some f ∧ f.Refines (told S Report) (fun x m ↦ value x = m) Eq
      (q.order.serve cfg (v.parameters s).catalogue v.destination) := by
  obtain ⟨ackFlags, sourceId, time, spare, o⟩ := q
  cases o with
  | set values =>
    exact ⟨_, congrArg (Option.map _) h.set, h.remembers.command ho⟩
  | ask ids =>
    exact ⟨_, congrArg (Option.map _) h.ask, h.remembers.report ho.1 v.destination⟩

theorem perform (e : Exchange) (he : e.Sound v (v.parameters s).catalogue) :
    (v.perform cfg (e.activity s)).Refines (told S Report) (fun x m ↦ value x = m) Eq
      (e.perform cfg (v.parameters s).catalogue v.destination) := by
  cases e with
  | order q =>
    obtain ⟨ha, ho, hl, -⟩ := he
    obtain ⟨f, hroute, hf⟩ := h.route q ho
    have hbuffer : q.frame.take (UInt16.ofNat q.frame.length).toNat = q.frame := by
      rw [toNat_ofNat_length hl, List.take_length]
    rw [Exchange.activity, Services.perform, hbuffer, Uplink.command_frame _ ha hl, hroute]
    exact q.request.served_refines hf
  | report ids => exact h.remembers.announce _ _ ids

theorem sound {e : Exchange} (he : e.Sound v (v.parameters s).catalogue) :
    (e.activity s).Sound v := by
  cases e with
  | order q =>
    obtain ⟨-, -, hl, hwrap⟩ := he
    rw [Exchange.activity, Activity.Sound, toNat_ofNat_length hl]
    exact ⟨le_rfl, hwrap⟩
  | report ids => exact ⟨h.table, he⟩

end Services.Stores

/-- To the ground the parameters are a memory: whatever it orders and is reported to in between, each
order ends as it would with nothing but the values stored, and each report has the values last
set. -/
theorem parameters_stored {cb : Callbacks cfg A} {c : Ptr} {k : Context cfg}
    (R : World cfg A → S → Prop) (v : Services S) (s : Ptr) (value : S → Memory)
    (exchanges : List Exchange) (w : World cfg A) (x : S) (hd : Downlinks R cb c k)
    (h : Equips (downlink c) R cb c k.handlerTable v) (hm : 2 ≤ cfg.maxTmPayloadLen)
    (hcfg : cfg.maxTmPayloadLen ≤ 32766) (hsink : k.tmSink ≠ none) (hw : R w x)
    (hs : v.Stores s value) (he : ∀ e ∈ exchanges, e.Sound v (v.parameters s).catalogue) :
    let r := Prog.each (fun e ↦ (e.activity s).exec cb c) exchanges w
    let q := Prog.each (Exchange.perform cfg (v.parameters s).catalogue v.destination) exchanges
      (value x)
    r.val = q.val ∧ (downlinked c r.trace).map (fun d ↦ Report.ofPacket d.data) = q.trace.outputs ∧
      ∃ x', R r.state x' ∧ value x' = q.state := by
  intro r q
  have hsound : ∀ a ∈ exchanges.map (·.activity s), a.Sound v := by
    intro a hmem
    obtain ⟨e, hmem', rfl⟩ := List.mem_map.mp hmem
    exact hs.sound (he e hmem')
  have hrun := hd.run h hm hcfg hsound
  rw [Prog.each_map, Prog.each_map] at hrun
  have hstored := hrun.trans (.each exchanges fun e hmem ↦ hs.perform e (he e hmem))
  obtain ⟨hval, ⟨x', hR, hmemory⟩, hdown⟩ := hstored w (value x) ⟨x, hw, rfl⟩
  exact ⟨hval, reports_downlinked hdown (by rw [hd.context hw]; exact hsink), x', hR, hmemory⟩

section Computer

open Obc

def Obc.memory (mv : UInt16) : Memory := fun pid ↦ if pid = pidBattAlertMv then split16 mv else []

theorem Obc.services_stores : services.Stores gS20 memory where
  ask := by decide +kernel
  set := by decide +kernel
  table := rfl
  remembers := by
    constructor
    · intro pid p x hp
      obtain ⟨rfl, rfl⟩ := parameter_cases hp
      rfl
    · intro pid p x hp
      obtain ⟨rfl, rfl⟩ := parameter_cases hp
      rfl
    · intro pid p write v x hp hw hv
      obtain ⟨rfl, rfl⟩ := parameter_cases hp
      cases hw
      match v, hv with
      | [hi, lo], _ =>
        refine ⟨rfl, rfl, funext fun pid ↦ ?_⟩
        by_cases hpid : pid = pidBattAlertMv
        · rw [memory, if_pos hpid, hpid, update_self]
          exact split16_join16 hi lo
        · rw [memory, if_neg hpid, update_of_ne hpid, memory, if_neg hpid]

def Obc.askSetReport : List Exchange :=
  [.order ⟨0, 0x10, 0, 0, .ask [1]⟩, .order ⟨1, 0x10, 0, 0, .set [(1, [0x1B, 0x58])]⟩, .report [1]]

theorem parameters_stored_computer :
    (downlinked gPus (Prog.each (fun e ↦ (Exchange.activity gS20 e).exec callbacks gPus)
      askSetReport (configure (boot fun _ ↦ 0)).state).trace).map
        (fun d ↦ Report.ofPacket d.data) =
      [⟨20, 2, 0x10, [1, 0, 1, 0x1A, 0x90]⟩, ⟨1, 7, 0x10, [20, 3, 0, 0x10]⟩,
        ⟨20, 2, 0x10, [1, 0, 1, 0x1B, 0x58]⟩] := by
  have hsetup := configure_setup fun _ ↦ 0
  have hconf := configured_of_setup hsetup
  have hlen {s : Ptr} {pid : UInt16} {p : Parameter UInt16}
      (hp : services.parameters s pid = some p) : p.length = 2 := length_parameter hp
  have hsound : ∀ e ∈ askSetReport, e.Sound services (services.parameters gS20).catalogue := by
    refine List.forall_mem_cons.mpr ⟨⟨by decide, ⟨by decide, fun _ h ↦ nomatch h⟩, by decide,
      fun s pid p hp ↦ ?_⟩, List.forall_mem_cons.mpr ⟨⟨by decide, ⟨by decide, ?_⟩, by decide,
        fun s pid p hp ↦ ?_⟩, List.forall_mem_singleton.mpr (show 1 ≤ 255 by decide)⟩⟩
    · rw [hlen hp]
      decide
    · intro values hvalues
      cases hvalues
      refine List.forall_mem_singleton.mpr fun p hp ↦ ?_
      cases hp
      rfl
    · rw [hlen hp]
      decide
  obtain ⟨-, hreports, -⟩ := parameters_stored _ services gS20 memory askSetReport _ 6800
    (Obc.downlinks ((configure (boot fun _ ↦ 0)).state.ctx gPus))
    (hconf.equips downlink_unconcerned) (by decide) (by decide)
    (by rw [hsetup.context]; exact Option.some_ne_none _) (shows_of_setup hsetup) services_stores
    hsound
  refine hreports.trans ?_
  decide +kernel

end Computer

end EmbeddedPus
