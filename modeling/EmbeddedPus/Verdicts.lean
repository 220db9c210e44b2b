import EmbeddedPus.ApplicationRun

namespace EmbeddedPus

open CallTrace ByteOrder SlotTable

variable {cfg : Config} {A S α : Type}

theorem Carries.ofPacket {n : UInt16} {rs : List Report} {ps : List (List UInt8)}
    (h : Carries n rs ps) : ps.map Report.ofPacket = rs := by
  induction h with
  | nil => rfl
  | cons time _ ih =>
    rw [List.map_cons, ih, Report.packet, ofPacket_tmHeader]

/-- The ground reads off what is delivered the reports that were put out. -/
theorem reports_downlinked {c : Ptr} {w w' : World cfg A} {t : History cfg} {rs : List Report}
    (h : (downlink c).holds w t w' rs) (hsink : (w.ctx c).tmSink ≠ none) :
    (downlinked c t).map (fun d ↦ Report.ofPacket d.data) = rs := by
  obtain ⟨⟨ps, hps, hsent⟩, -⟩ := h
  obtain ⟨f, hf⟩ := Option.ne_none_iff_exists'.mp hsink
  have hdata : (downlinked c t).map Delivery.data = ps := by
    rw [hsent]
    simp [Context.deliver, hf, List.map_flatMap]
  rw [← hps.ofPacket, ← hdata, List.map_map]
  rfl

def Status.ofCode (code : UInt16) : Option Status :=
  [.ok, .null, .badLength, .badVersion, .badService, .noHandler, .handlerFailed, .bufferTooSmall,
    .tableFull].find? (·.code = code)

@[simp] theorem Status.ofCode_code (st : Status) : Status.ofCode st.code = some st := by
  cases st <;> rfl

/-- How a TC from a source ended. -/
structure Verdict where
  service : UInt8
  subtype : UInt8
  source : UInt16
  status : Status
  deriving DecidableEq, Repr

/-- The status that the subtype of a verification report, and its failure code, stand for. -/
def Report.ending (r : Report) : Option Status :=
  if r.service ≠ 1 then none
  else if r.subtype = 7 then some .ok
  else if r.subtype = 8 then Status.ofCode (readU16Be (r.payload.drop 4))
  else if r.subtype = 10 then some .noHandler
  else none

/-- What the ground learns from a report about the end of a TC. -/
def Report.verdict (r : Report) : Option Verdict :=
  r.ending.map fun st ↦
    ⟨r.payload.getD 0 0, r.payload.getD 1 0, readU16Be (r.payload.drop 2), st⟩

theorem Report.verdict_of_service {r : Report} (h : r.service ≠ 1) : r.verdict = none := by
  rw [verdict, ending, if_pos h, Option.map_none]

def Request.verdict (q : Request) (st : Status) : Verdict := ⟨q.service, q.subtype, q.source, st⟩

namespace Request

variable (q : Request)

theorem verdict_verification (subtype : UInt8) (code : Option UInt16) :
    (q.verification subtype code).verdict =
      (q.verification subtype code).ending.map q.verdict := by
  have hsource : readU16Be ((q.verification subtype code).payload.drop 2) = q.source :=
    join16_split16 q.source
  rw [Report.verdict, hsource]
  rfl

theorem verdict_success {subtype : UInt8} (h : subtype = 1 ∨ subtype = 3) :
    (q.verification subtype none).verdict = none := by
  rw [verdict_verification]
  obtain rfl | rfl := h <;> rfl

theorem verdict_unrouted :
    (q.verification 10 (some 1)).verdict = some (q.verdict .noHandler) :=
  q.verdict_verification 10 (some 1)

theorem verdict_completion (st : Status) :
    (if st = .ok then q.verification 7 none else q.verification 8 (some st.code)).verdict =
      some (q.verdict st) := by
  split
  · rename_i h
    rw [h, verdict_verification]
    rfl
  · have hcode : readU16Be ((q.verification 8 (some st.code)).payload.drop 4) = st.code :=
      join16_split16 st.code
    have hending : (q.verification 8 (some st.code)).ending = some st := by
      rw [← Status.ofCode_code st]
      exact congrArg Status.ofCode hcode
    rw [verdict_verification, hending]
    rfl

end Request

def verdicts (t : Trace Report Empty) : List Verdict := t.outputs.filterMap Report.verdict

@[simp] theorem verdicts_nil : verdicts .nil = [] := rfl

@[simp] theorem verdicts_append (t u : Trace Report Empty) :
    verdicts (t ++ u) = verdicts t ++ verdicts u := by
  rw [verdicts, Trace.outputs_append, List.filterMap_append]
  rfl

variable (S) in
/-- The law of putting out nothing that tells how a TC ended. -/
def discreet : Law S Report Empty where
  holds _ t _ := verdicts t = []
  nil _ := rfl
  append h h' := by rw [verdicts_append, h, h', List.append_nil]

theorem put_discreet {r : Report} (h : r.verdict = none) :
    Prog.Obeys (discreet S) (Spec.put r) := by
  intro x
  show [r].filterMap Report.verdict = []
  rw [List.filterMap_cons_none h, List.filterMap_nil]

theorem put_ok_discreet {service subtype : UInt8} {destination : UInt16} {payload : List UInt8}
    (h : service ≠ 1) : Prog.Obeys (discreet S) (do
      Spec.put ⟨service, subtype, destination, payload⟩
      pure Status.ok) :=
  .bind (put_discreet (Report.verdict_of_service h)) fun _ ↦ .pure _

/-- The services themselves tell nothing about the end of TCs, though their own handlers may report
on progress. -/
structure Services.Discreet (v : Services S) : Prop where
  user : ∀ f userData q, (v.user f userData q).Obeys (discreet S)
  structures : ∀ s key provide, v.structures s key = some provide → provide.Obeys (discreet S)
  read : ∀ s pid p, v.parameters s pid = some p → p.read.Obeys (discreet S)
  write : ∀ s pid p write, v.parameters s pid = some p → p.write = some write →
    ∀ value, (write value).Obeys (discreet S)

section Dictionary

variable {d : Dictionary S}

theorem Dictionary.collect_discreet (hread : ∀ pid p, d pid = some p → p.read.Obeys (discreet S))
    (max : ℕ) (ids : List UInt16) (report : List UInt8) :
    (d.collect max ids report).Obeys (discreet S) := by
  induction ids generalizing report with
  | nil => exact .pure _
  | cons pid ids ih =>
    rw [collect]
    cases hp : d pid with
    | none => exact .pure _
    | some p =>
      refine .ite (.pure _) (.bind (hread pid p hp) fun value ↦ ?_)
      cases value with
      | error st => exact .pure _
      | ok value => exact ih _

theorem Dictionary.announce_discreet (hread : ∀ pid p, d pid = some p → p.read.Obeys (discreet S))
    (max : ℕ) (destination : UInt16) (n : UInt8) (ids : List UInt16) :
    (d.announce max destination n ids).Obeys (discreet S) := by
  refine .bind (collect_discreet hread max ids [n]) fun values ↦ ?_
  cases values with
  | error st => exact .pure _
  | ok values => exact put_ok_discreet (by decide)

theorem Dictionary.report_discreet (hread : ∀ pid p, d pid = some p → p.read.Obeys (discreet S))
    (maxParams max : ℕ) (destination : UInt16) (payload : List UInt8) :
    (d.report maxParams max destination payload).Obeys (discreet S) := by
  cases payload with
  | nil => exact .pure _
  | cons n bytes =>
    refine .ite (.pure _) ?_
    cases takeWords n.toNat bytes with
    | none => exact .pure _
    | some ids => exact announce_discreet hread max destination n ids

theorem Dictionary.set_discreet (hwrite : ∀ pid p write, d pid = some p → p.write = some write →
    ∀ value, (write value).Obeys (discreet S)) (n : ℕ) (bytes : List UInt8) :
    (d.set n bytes).Obeys (discreet S) := by
  induction n generalizing bytes with
  | zero => exact .pure _
  | succ n ih =>
    match bytes with
    | [] => exact .pure _
    | [_] => exact .pure _
    | hi :: lo :: bytes =>
      rw [set]
      cases hp : d (join16 hi lo) with
      | none => exact .pure _
      | some p =>
        refine .ite (.pure _) ?_
        cases hw : p.write with
        | none => exact .pure _
        | some write =>
          exact .bind (hwrite _ p write hp hw _) fun st ↦ .ite (.pure _) (ih _)

theorem Dictionary.command_discreet (hwrite : ∀ pid p write, d pid = some p →
    p.write = some write → ∀ value, (write value).Obeys (discreet S)) (payload : List UInt8) :
    (d.command payload).Obeys (discreet S) := by
  cases payload with
  | nil => exact .pure _
  | cons n bytes => exact set_discreet hwrite n.toNat bytes

end Dictionary

theorem identified_discreet (max : ℕ) {service : UInt8} (subtype : UInt8)
    (destination id : UInt16) (data : List UInt8) (h : service ≠ 1) :
    (identified max service subtype destination id data).Obeys (discreet S) :=
  .ite (.pure _) (put_ok_discreet h)

theorem Structures.report_discreet {z : Structures S}
    (hz : ∀ key provide, z key = some provide → provide.Obeys (discreet S)) (max : ℕ)
    (destination sid : UInt16) (kind : UInt8) :
    (z.report max destination sid kind).Obeys (discreet S) := by
  rw [report]
  cases hp : z (sid, kind) with
  | none => exact .pure _
  | some provide =>
    refine .bind (hz _ _ hp) fun data ↦ ?_
    cases data with
    | error st => exact .pure _
    | ok data => exact identified_discreet max _ _ _ _ (by decide)

/-- What the ground is to learn of a frame that ended with `st`: nothing when it was no TC or did
not ask for it, unless nobody serves it. -/
def Services.verdict (v : Services S) (frame : List UInt8) (st : Status) : Option Verdict :=
  let q := Request.ofFrame frame
  if frame.length < 10 ∨ frame.getD 0 0 >>> 4 ≠ 1 then none
  else if q.completion ∨ v.dispatch.lookup (q.service, q.subtype) = none then some (q.verdict st)
  else none

def Activity.verdict (v : Services S) (st : Status) : Activity → Option Verdict
  | .received data len => v.verdict (data.take len.toNat) st
  | _ => none

namespace Services.Discreet

variable {v : Services S} (h : v.Discreet)

include h

theorem serve (q : Request) (e : TcHandler × Ptr) : (v.serve cfg q e).Obeys (discreet S) := by
  obtain ⟨f, s⟩ := e
  cases f with
  | handleTc17_1 => exact put_ok_discreet (by decide)
  | handleTc17_3 => exact .ite (.pure _) (put_ok_discreet (by decide))
  | handleTc20_1 => exact Dictionary.report_discreet (h.read s) _ _ _ _
  | handleTc20_3 => exact Dictionary.command_discreet (h.write s) _
  | user f => exact h.user f s q

omit h in
theorem verdicts_successIf (q : Request) (asked : Bool) {subtype : UInt8}
    (hs : subtype = 1 ∨ subtype = 3) : (q.successIf asked subtype).Obeys (discreet S) :=
  .ite (put_discreet (q.verdict_success hs)) (.pure _)

omit h in
theorem verdicts_conclude (q : Request) (st : Status) (x : S) :
    verdicts (q.conclude st x).trace = if q.completion then [q.verdict st] else [] := by
  rw [Request.conclude]
  split
  · show [_].filterMap Report.verdict = _
    rw [List.filterMap_cons_some (q.verdict_completion st), List.filterMap_nil]
  · rfl

theorem verdicts_served (q : Request) (e : TcHandler × Ptr) (x : S) :
    let r := q.served (some (v.serve cfg q e)) x
    verdicts r.trace = if q.completion then [q.verdict r.val] else [] := by
  have haccept := verdicts_successIf (S := S) q q.acceptance (.inl rfl)
  have hstart := verdicts_successIf (S := S) q q.start (.inr rfl)
  have hserve : (v.serve cfg q e).Obeys (discreet S) := h.serve q e
  simp only [Prog.Obeys, discreet] at haccept hstart hserve
  simp only [Request.served, Prog.bind_val, Prog.bind_trace, Prog.pure_apply,
    verdicts_append, verdicts_nil, haccept, hstart, hserve, verdicts_conclude, List.nil_append,
    List.append_nil]

theorem verdicts_command (frame : List UInt8) (x : S) :
    verdicts (command (v.route cfg) frame x).trace =
      (v.verdict frame (command (v.route cfg) frame x).val).toList := by
  rw [Services.verdict, command]
  by_cases hl : frame.length < 10
  · rw [if_pos hl, if_pos (.inl hl)]
    rfl
  by_cases hv : frame.getD 0 0 >>> 4 ≠ 1
  · rw [if_neg hl, if_pos hv, if_pos (.inr hv)]
    rfl
  rw [if_neg hl, if_neg hv, if_neg (not_or.mpr ⟨hl, hv⟩), Services.route]
  cases hroute : v.dispatch.lookup
      ((Request.ofFrame frame).service, (Request.ofFrame frame).subtype) with
  | none =>
    rw [Option.map_none, if_pos (.inr rfl)]
    show [_].filterMap Report.verdict = _
    rw [List.filterMap_cons_some (Request.verdict_unrouted _), List.filterMap_nil]
    rfl
  | some e =>
    have hserved : verdicts ((Request.ofFrame frame).served (some (v.serve cfg _ e)) x).trace =
        if (Request.ofFrame frame).completion then [(Request.ofFrame frame).verdict _] else [] :=
      h.verdicts_served (.ofFrame frame) e x
    rw [Option.map_some, hserved]
    by_cases hc : (Request.ofFrame frame).completion
    · rw [if_pos hc, if_pos (.inl hc)]
      rfl
    · rw [if_neg hc, if_neg (by simp [hc])]
      rfl

theorem verdicts_perform (a : Activity) (x : S) :
    let r := v.perform cfg a x
    verdicts r.trace = (a.verdict v r.val).toList := by
  have hsilent {f : Spec S Report Status} (hf : f.Obeys (discreet S)) :
      verdicts (f x).trace = [] := hf x
  cases a with
  | received data len => exact h.verdicts_command (data.take len.toNat) x
  | housekeeping s sid => exact hsilent (Structures.report_discreet (h.structures s) _ _ _ _)
  | diagnostic s sid => exact hsilent (Structures.report_discreet (h.structures s) _ _ _ _)
  | event subtype eventId auxData auxLen =>
    exact hsilent (.ite (.pure _) (identified_discreet _ _ _ _ _ (by decide)))
  | alive destination => exact hsilent (put_ok_discreet (by decide))
  | connection apid destination => exact hsilent (put_ok_discreet (by decide))
  | parameters s ids => exact hsilent (Dictionary.announce_discreet (h.read s) _ _ _ _)

theorem verdicts_each (activities : List Activity) (x : S) :
    let r := Prog.each (v.perform cfg) activities x
    verdicts r.trace = (activities.zip r.val).filterMap fun e ↦ e.1.verdict v e.2 := by
  induction activities generalizing x with
  | nil => rfl
  | cons a activities ih =>
    have hstep : verdicts (v.perform cfg a x).trace =
        (a.verdict v (v.perform cfg a x).val).toList := h.verdicts_perform a x
    simp only [Prog.each, Prog.bind_trace, Prog.bind_val, Prog.pure_apply, verdicts_append,
      verdicts_nil, List.append_nil, List.zip_cons_cons, List.filterMap_cons, hstep, ih]
    cases a.verdict v (v.perform cfg a x).val <;> rfl

end Services.Discreet

/-- Whatever an application does and is sent: from the packets that leave it the ground learns how
each TC ended, of which it asked to know or which nobody serves, in order and of no other. -/
theorem verdicts_told {cb : Callbacks cfg A} {c : Ptr} {k : Context cfg}
    (R : World cfg A → S → Prop) (v : Services S) (activities : List Activity) (w : World cfg A)
    (x : S) (hd : Downlinks R cb c k) (h : Equips (downlink c) R cb c k.handlerTable v)
    (hm : 2 ≤ cfg.maxTmPayloadLen) (hcfg : cfg.maxTmPayloadLen ≤ 32766)
    (ha : ∀ a ∈ activities, a.Sound v) (hw : R w x) (hv : v.Discreet) (hsink : k.tmSink ≠ none) :
    let r := Prog.each (·.exec cb c) activities w
    (downlinked c r.trace).filterMap (fun d ↦ (Report.ofPacket d.data).verdict) =
      (activities.zip r.val).filterMap fun e ↦ e.1.verdict v e.2 := by
  intro r
  obtain ⟨hval, -, hdown⟩ := hd.run h hm hcfg ha w x hw
  have hreports := reports_downlinked hdown (by rw [hd.context hw]; exact hsink)
  have hfilter : (downlinked c r.trace).filterMap (fun d ↦ (Report.ofPacket d.data).verdict) =
      verdicts (Prog.each (v.perform cfg) activities x).trace := by
    rw [verdicts, ← hreports, List.filterMap_map]
    rfl
  rw [hfilter, hv.verdicts_each, hval]

section Computer

open Obc

theorem Obc.services_discreet : services.Discreet where
  user _ _ _ := .pure _
  structures _ key provide h := by
    simp only [services] at h
    split at h
    · cases h
      exact .pure _
    · split at h
      · cases h
        exact .pure _
      · cases h
  read _ pid p h := by
    obtain ⟨-, rfl⟩ := parameter_cases h
    exact .bind .get fun _ ↦ .pure _
  write _ pid p write h hw value := by
    obtain ⟨-, rfl⟩ := parameter_cases h
    cases hw
    exact fun _ ↦ rfl

theorem verdicts_told_computer :
    let r := Prog.each (Activity.exec callbacks gPus) setAndAsk (configure (boot fun _ ↦ 0)).state
    (downlinked gPus r.trace).filterMap (fun d ↦ (Report.ofPacket d.data).verdict) =
      [⟨20, 3, 0x10, .ok⟩] := by
  have hsetup := configure_setup fun _ ↦ 0
  have hconf := configured_of_setup hsetup
  have htold := verdicts_told _ services setAndAsk _ 6800
    (Obc.downlinks ((configure (boot fun _ ↦ 0)).state.ctx gPus))
    (hconf.equips downlink_unconcerned) (by decide) (by decide) setAndAsk_sound
    (shows_of_setup hsetup) services_discreet (by rw [hsetup.context]; exact Option.some_ne_none _)
  intro r
  have hval : r.val = [.ok, .ok, .ok] := by decide +kernel
  refine htold.trans ?_
  show (setAndAsk.zip r.val).filterMap _ = _
  rw [hval]
  decide +kernel

end Computer

end EmbeddedPus
