import EmbeddedPus.Verification

namespace EmbeddedPus

open CallTrace SlotTable

variable {cfg : Config} {A : Type} {n : ℕ}

/-- What the dispatch table is for: the handler and user data registered for a pair. -/
abbrev Dispatch := Finmap fun _ : UInt8 × UInt8 ↦ TcHandler × Ptr

structure RegisterCall where
  service : UInt8
  subtype : UInt8
  handler : Option TcHandler
  userData : Ptr

def Dispatch.register (n : ℕ) (m : Dispatch) (r : RegisterCall) : Status × Dispatch :=
  match r.handler with
  | some h =>
    if (r.service, r.subtype) ∈ m ∨ m.keys.card < n then
      (.ok, m.insert (r.service, r.subtype) (h, r.userData))
    else (.tableFull, m)
  | none =>
    if (r.service, r.subtype) ∈ m then (.ok, m.erase (r.service, r.subtype))
    else (.noHandler, m)

def Dispatch.registerAll (n : ℕ) : List RegisterCall → Dispatch → List Status × Dispatch
  | [], m => ([], m)
  | r :: rs, m =>
    let s := m.register n r
    let q := Dispatch.registerAll n rs s.2
    (s.1 :: q.1, q.2)

def registerAll (c : Ptr) : List RegisterCall → Pus cfg A (List Status)
  | [] => pure []
  | r :: rs => do
    let st ← pusHandlerRegister (some c) r.service r.subtype r.handler r.userData
    let sts ← registerAll c rs
    pure (st :: sts)

theorem register_refines {t : HandlerTable n} {m : Dispatch} (h : Refines t.slots m)
    (r : RegisterCall) :
    let q := t.register r.service r.subtype r.handler r.userData
    q.1 = (m.register n r).1 ∧ Refines q.2.slots (m.register n r).2 ∧ (q.1 ≠ .ok → q.2 = t) := by
  rcases r with ⟨service, subtype, handler, userData⟩
  cases handler with
  | some f =>
    have hr := register_some t service subtype f userData
    obtain ⟨hm, s, hs, href⟩ | ⟨hm, hs⟩ := h.store_cases (service, subtype) (f, userData)
    · rw [hs] at hr
      obtain ⟨t', ht', rfl⟩ := hr
      simp only [ht', Dispatch.register, if_pos hm]
      exact ⟨trivial, href, fun hne ↦ absurd rfl hne⟩
    · rw [hs] at hr
      simp only [hr, Dispatch.register, if_neg hm]
      exact ⟨trivial, h, fun _ ↦ trivial⟩
  | none =>
    have hr := register_none t service subtype userData
    obtain ⟨hm, s, hs, href⟩ | ⟨hm, hs⟩ := h.remove_cases (service, subtype)
    · rw [hs] at hr
      obtain ⟨t', ht', rfl⟩ := hr
      simp only [ht', Dispatch.register, if_pos hm]
      exact ⟨trivial, href, fun hne ↦ absurd rfl hne⟩
    · rw [hs] at hr
      simp only [hr, Dispatch.register, if_neg hm]
      exact ⟨trivial, h, fun _ ↦ trivial⟩

def HandlerTable.edit (t : HandlerTable n) (rs : List RegisterCall) : HandlerTable n :=
  rs.foldl (fun t r ↦ (t.register r.service r.subtype r.handler r.userData).2) t

theorem edit_refines (rs : List RegisterCall) {t : HandlerTable n} {m : Dispatch}
    (h : Refines t.slots m) : Refines (t.edit rs).slots (m.registerAll n rs).2 := by
  induction rs generalizing t m with
  | nil => exact h
  | cons r rs ih => exact ih (register_refines h r).2.1

theorem edit_append (t : HandlerTable n) (rs qs : List RegisterCall) :
    t.edit (rs ++ qs) = (t.edit rs).edit qs := List.foldl_append

theorem Dispatch.registerAll_append (n : ℕ) (rs qs : List RegisterCall) (m : Dispatch) :
    (m.registerAll n (rs ++ qs)).2 = ((m.registerAll n rs).2.registerAll n qs).2 := by
  induction rs generalizing m with
  | nil => rfl
  | cons r rs ih => exact ih _

theorem Dispatch.not_mem_registerAll {m : Dispatch} {k : UInt8 × UInt8} (hk : k ∉ m)
    (rs : List RegisterCall) (hrs : ∀ r ∈ rs, r.handler ≠ none → (r.service, r.subtype) ≠ k) :
    k ∉ (m.registerAll n rs).2 := by
  induction rs generalizing m with
  | nil => exact hk
  | cons r rs ih =>
    obtain ⟨hr, hrest⟩ := List.forall_mem_cons.mp hrs
    refine ih ?_ hrest
    rw [Dispatch.register]
    cases hh : r.handler with
    | none =>
      simp only
      split
      · exact fun hm ↦ hk (Finmap.mem_erase.mp hm).2
      · exact hk
    | some f =>
      simp only
      split
      · have hne := hr (by rw [hh]; exact Option.some_ne_none f)
        exact fun hm ↦ (Finmap.mem_insert.mp hm).elim (fun h ↦ hne h.symm) hk
      · exact hk

theorem Dispatch.not_mem_deregistered (n : ℕ) (m : Dispatch) (k : UInt8 × UInt8) (userData : Ptr)
    (xs ys : List RegisterCall) (hys : ∀ r ∈ ys, r.handler ≠ none → (r.service, r.subtype) ≠ k) :
    k ∉ (m.registerAll n (xs ++ ⟨k.1, k.2, none, userData⟩ :: ys)).2 := by
  rw [Dispatch.registerAll_append]
  refine Dispatch.not_mem_registerAll ?_ ys hys
  rw [Dispatch.register]
  simp only
  split
  · exact fun hm ↦ (Finmap.mem_erase.mp hm).1 rfl
  · assumption

theorem Dispatch.lookup_registerAll_of_ne {k : UInt8 × UInt8} (rs : List RegisterCall)
    (m : Dispatch) (hrs : ∀ r ∈ rs, (r.service, r.subtype) ≠ k) :
    (m.registerAll n rs).2.lookup k = m.lookup k := by
  induction rs generalizing m with
  | nil => rfl
  | cons r rs ih =>
    obtain ⟨hr, hrest⟩ := List.forall_mem_cons.mp hrs
    refine (ih _ hrest).trans ?_
    rw [Dispatch.register]
    cases r.handler with
    | none =>
      simp only
      split
      · exact Finmap.lookup_erase_ne hr.symm
      · rfl
    | some f =>
      simp only
      split
      · exact Finmap.lookup_insert_of_ne _ hr.symm
      · rfl

theorem Dispatch.lookup_registered {m : Dispatch} {service subtype : UInt8} {h : TcHandler}
    {userData : Ptr} {xs ys : List RegisterCall}
    (hok : ((m.registerAll n xs).2.register n ⟨service, subtype, some h, userData⟩).1 = .ok)
    (hys : ∀ r ∈ ys, (r.service, r.subtype) ≠ (service, subtype)) :
    (m.registerAll n (xs ++ ⟨service, subtype, some h, userData⟩ :: ys)).2.lookup
      (service, subtype) = some (h, userData) := by
  rw [Dispatch.registerAll_append]
  refine (Dispatch.lookup_registerAll_of_ne ys _ hys).trans ?_
  rw [Dispatch.register] at hok ⊢
  simp only at hok ⊢
  split at hok
  · rename_i hroom
    rw [if_pos hroom]
    exact Finmap.lookup_insert _
  · cases hok

theorem registerAll_refines (c : Ptr) (rs : List RegisterCall) {m : Dispatch} (w : World cfg A)
    (h : Refines (w.ctx c).handlerTable.slots m) :
    (registerAll c rs w).val = (m.registerAll cfg.maxTcHandlers rs).1 ∧
      Refines ((registerAll c rs w).state.ctx c).handlerTable.slots
        (m.registerAll cfg.maxTcHandlers rs).2 := by
  induction rs generalizing w m with
  | nil => exact ⟨rfl, h⟩
  | cons r rs ih =>
    obtain ⟨hst, href, -⟩ := register_refines h r
    have hw : (((pusHandlerRegister (some c) r.service r.subtype r.handler r.userData :
        Pus cfg A Status) w).state.ctx c).handlerTable =
          ((w.ctx c).handlerTable.register r.service r.subtype r.handler r.userData).2 := by
      simp only [pusHandlerRegister, readCtx_bind_apply, Prog.bind_state, writeCtx_apply,
        Prog.pure_apply, World.setCtx_ctx]
    obtain ⟨hsts, href'⟩ := ih _ (hw ▸ href)
    simp only [registerAll, Prog.bind_val, Prog.bind_state, Prog.pure_apply]
    refine ⟨?_, href'⟩
    rw [hsts]
    exact congrArg (· :: _) hst

/-- Looking up, invoking and routing select, for every pair, what the map has for it. -/
structure Selects (cb : Callbacks cfg A) (c : Ptr) (w : World cfg A) (m : Dispatch) : Prop where
  find : ∀ service subtype,
    m.lookup (service, subtype) = (pusHandlerFind (some (w.ctx c)) service subtype).map fun i ↦
      (((w.ctx c).handlerTable i).handler, ((w.ctx c).handlerTable i).userData)
  invoke : ∀ service subtype tc,
    let r := pusHandlerInvoke cb (some c) service subtype (some tc) w
    match m.lookup (service, subtype) with
    | some (h, userData) => marks r.trace = [.handler c h userData tc r.val]
    | none => r = ⟨.noHandler, w, .nil⟩
  route : Undisturbed cb c (w.ctx c) → ∀ data len tc,
    pusTcDecode (some data) len (some .fresh) = (.ok, some tc) →
      let r := pusTcProcess cb (some c) (some data) len w
      (marks r.trace).filter isInvocation =
        match m.lookup (tc.secHeader.serviceTypeId, tc.secHeader.subtypeId) with
        | some (h, userData) => [.handler c h userData tc r.val]
        | none => []

theorem selects_of_refines (cb : Callbacks cfg A) {c : Ptr} {w : World cfg A} {m : Dispatch}
    (h : Refines (w.ctx c).handlerTable.slots m) : Selects cb c w m := by
  have hlookup (service subtype : UInt8) : m.lookup (service, subtype) =
      (w.ctx c).handlerTable.lookup service subtype := by
    rw [← h.lookup_eq, lookup_slots]
  constructor
  · exact hlookup
  · intro service subtype tc r
    have hr : r = _ := readCtx_bind_apply ..
    rw [hlookup, HandlerTable.lookup, hr, pusHandlerFind]
    cases (w.ctx c).handlerTable.find service subtype with
    | none => rfl
    | some i => rfl
  · intro hu data len tc hd r
    rw [hlookup]
    cases hl : (w.ctx c).handlerTable.lookup tc.secHeader.serviceTypeId tc.secHeader.subtypeId with
    | none =>
      rw [(marks_unrouted hd hl).2]
      rfl
    | some e => rw [marks_routed_undisturbed hu hd hl, invocation_filter _ _ _ rfl]

theorem init_refines (c : Ptr) (w : World cfg A) :
    Refines ((pusInit (some c) w).state.ctx c).handlerTable.slots ∅ := by
  have hs : ((pusInit (some c) w).state.ctx c).handlerTable.slots = fun _ ↦ none := by
    simp only [pusInit, Prog.bind_state, writeCtx_apply, Prog.pure_apply, World.setCtx_ctx]
    rfl
  exact hs ▸ .empty

/-- Whatever is registered, replaced and deregistered on an initialised context, its table is a
picture of the map the same calls make, and dispatching goes by the map. -/
theorem dispatch_table_refines_map (cb : Callbacks cfg A) (c : Ptr) (rs : List RegisterCall)
    (w : World cfg A) :
    let r := (pusInit (some c) >>= fun _ ↦ registerAll c rs) w
    let t := (r.state.ctx c).handlerTable
    let m := (Dispatch.registerAll cfg.maxTcHandlers rs ∅).2
    r.val = (Dispatch.registerAll cfg.maxTcHandlers rs ∅).1 ∧
      Refines t.slots m ∧ m.keys.card ≤ cfg.maxTcHandlers ∧
      (∀ i j, (t i).isUsed → (t j).isUsed → (t i).service = (t j).service →
        (t i).subtype = (t j).subtype → i = j) ∧
      (∀ q : RegisterCall,
        let s := pusHandlerRegister (some c) q.service q.subtype q.handler q.userData r.state
        s.val = (m.register cfg.maxTcHandlers q).1 ∧
          Refines (s.state.ctx c).handlerTable.slots (m.register cfg.maxTcHandlers q).2 ∧
          (s.val ≠ .ok → (s.state.ctx c).handlerTable = t)) ∧
      ∀ w' : World cfg A, (w'.ctx c).handlerTable = t → Selects cb c w' m := by
  intro r t m
  obtain ⟨hval, href⟩ := registerAll_refines c rs _ (init_refines c w)
  refine ⟨hval, href, href.card_le, ?_, ?_, ?_⟩
  · intro i j hi hj hs hst
    have hslot {k : Fin cfg.maxTcHandlers} (hk : (t k).isUsed) :
        t.slots k = some (((t k).service, (t k).subtype), (t k).handler, (t k).userData) :=
      if_pos hk
    exact href.unique (hslot hi) (by rw [hs, hst]; exact hslot hj)
  · intro q s
    obtain ⟨hst, href', hsame⟩ := register_refines href q
    simp only [s, pusHandlerRegister, readCtx_bind_apply, Prog.bind_state, Prog.bind_val,
      writeCtx_apply, Prog.pure_apply, World.setCtx_ctx]
    exact ⟨hst, href', hsame⟩
  · intro w' hw
    exact selects_of_refines cb (hw ▸ href)

theorem dispatch_table_refines_map_swap :
    let r := (pusInit (some 0) >>= fun _ ↦ registerAll 0
      [⟨17, 1, some .handleTc17_1, 0⟩, ⟨128, 1, some (.user 5), 9⟩, ⟨17, 1, none, 0⟩])
        (World.cleared () : World .default Unit)
    Selects .quiet 0 r.state (Dispatch.registerAll 16
      [⟨17, 1, some .handleTc17_1, 0⟩, ⟨128, 1, some (.user 5), 9⟩, ⟨17, 1, none, 0⟩] ∅).2 :=
  (dispatch_table_refines_map .quiet 0 _ _).2.2.2.2.2 _ rfl

structure Invocation (n : ℕ) where
  handler : TcHandler
  userData : Ptr
  table : HandlerTable n

def Invocation.ofCall : Call cfg → List (Invocation cfg.maxTcHandlers)
  | .handler _ h userData _ table _ => [⟨h, userData, table⟩]
  | _ => []

def invocations (t : History cfg) : List (Invocation cfg.maxTcHandlers) :=
  t.own (fun _ ↦ []) Invocation.ofCall

@[simp] theorem invocations_nil : invocations (.nil : History cfg) = [] := rfl

@[simp] theorem invocations_append (t u : History cfg) :
    invocations (t ++ u) = invocations t ++ invocations u := Trace.own_append ..

/-- What the slot `i` holds, used or not, is what the table has registered for the pair. -/
def HandlerTable.Serves (t : HandlerTable n) (service subtype : UInt8) (i : Fin n) : Prop :=
  ∃ j, t.find service subtype = some j ∧ (t j).handler = (t i).handler ∧
    (t j).userData = (t i).userData

theorem serves_iff {t : HandlerTable n} {service subtype : UInt8} {i : Fin n} :
    t.Serves service subtype i ↔
      t.lookup service subtype = some ((t i).handler, (t i).userData) := by
  simp only [HandlerTable.Serves, HandlerTable.lookup, Option.map_eq_some_iff, Prod.mk.injEq]

theorem matches_register {t : HandlerTable n} {service subtype : UInt8} {i : Fin n}
    (hi : t.matches service subtype i) {r : RegisterCall}
    (hr : r.handler = none → (r.service, r.subtype) ≠ (service, subtype)) :
    (t.register r.service r.subtype r.handler r.userData).2.matches service subtype i := by
  rcases r with ⟨service', subtype', handler, userData⟩
  have hother {j : Fin n} {e : HandlerEntry} (hj : j ≠ i) :
      HandlerTable.matches (Function.update t j e) service subtype i := by
    rwa [matches_iff, Function.update_of_ne hj.symm, ← matches_iff]
  cases handler with
  | none =>
    -- only the first slot of the deregistered pair changes
    simp only [HandlerTable.register]
    cases hf : t.find service' subtype' with
    | none => exact hi
    | some j =>
      refine hother fun hj ↦ hr rfl ?_
      obtain ⟨-, rfl, rfl⟩ := matches_iff.mp (matches_of_find hf)
      obtain ⟨-, rfl, rfl⟩ := matches_iff.mp hi
      rw [hj]
  | some f =>
    have hs := scan_spec (fun i ↦ (t i).isUsed) (t.matches service' subtype')
    simp only [HandlerTable.register]
    cases he : scan (fun i ↦ (t i).isUsed) (t.matches service' subtype') with
    | full => exact hi
    | found j =>
      by_cases hj : j = i
      · subst hj
        simpa [HandlerTable.matches] using hi
      · exact hother hj
    | free j =>
      rw [he] at hs
      refine hother fun hj ↦ hs.1 ?_
      rw [hj]
      exact (matches_iff.mp hi).1

/-- Edits of the table that leave the pair registered leave the slot serving it. -/
theorem serves_of_edits {t : HandlerTable n} {m : Dispatch} (h : Refines t.slots m)
    {service subtype : UInt8} {i : Fin n} (hi : t.matches service subtype i)
    (rs : List RegisterCall)
    (hrs : ∀ r ∈ rs, r.handler = none → (r.service, r.subtype) ≠ (service, subtype)) :
    (t.edit rs).Serves service subtype i := by
  induction rs generalizing t m with
  | nil =>
    have hs : t.slots i = some ((service, subtype), _) := slots_eq_some.mpr ⟨hi, rfl⟩
    have hf : t.find service subtype = some i := by
      rw [← find_slots (service, subtype)]
      exact h.find_eq_some_iff.mpr ⟨_, hs⟩
    exact ⟨i, hf, rfl, rfl⟩
  | cons r rs ih =>
    exact ih (register_refines h r).2.1 (matches_register hi (hrs r List.mem_cons_self))
      fun r' hr' ↦ hrs r' (List.mem_cons_of_mem _ hr')

theorem serves_edit_iff {t : HandlerTable n} {m : Dispatch} (h : Refines t.slots m)
    {service subtype : UInt8} {i : Fin n} {rs : List RegisterCall} :
    (t.edit rs).Serves service subtype i ↔ (m.registerAll n rs).2.lookup (service, subtype) =
      some ((t.edit rs i).handler, (t.edit rs i).userData) := by
  rw [serves_iff, ← lookup_slots (service, subtype), (edit_refines rs h).lookup_eq]

theorem not_serves_of_edits {t : HandlerTable n} {m : Dispatch} (h : Refines t.slots m)
    {service subtype : UInt8} (i : Fin n) (xs ys : List RegisterCall) (userData : Ptr)
    (hys : ∀ r ∈ ys, r.handler ≠ none → (r.service, r.subtype) ≠ (service, subtype)) :
    ¬ (t.edit (xs ++ ⟨service, subtype, none, userData⟩ :: ys)).Serves service subtype i := by
  intro hs
  rw [serves_edit_iff h] at hs
  exact Dispatch.not_mem_deregistered n m (service, subtype) userData xs ys hys
    (Finmap.mem_of_lookup_eq_some hs)

theorem mem_iff_find {t : HandlerTable n} {m : Dispatch} (h : Refines t.slots m)
    {service subtype : UInt8} :
    (service, subtype) ∈ m ↔ ∃ i, t.find service subtype = some i := by
  rw [h.mem_iff]
  simp only [← find_slots (service, subtype), h.find_eq_some_iff]

variable {cb : Callbacks cfg A} {c : Ptr} {tc : TcPacket} {w : World cfg A}

theorem invocations_emitPacket (service subtype : UInt8) (dest : UInt16) (payload : List UInt8) :
    invocations (emitPacket cb c service subtype dest payload w).trace = [] := by
  rw [invocations, own_emitPacket _ _ (fun _ _ _ _ ↦ rfl) (fun _ _ _ _ _ ↦ rfl)]

theorem invocations_reportIf (flag subtype : UInt8) :
    invocations (reportIf cb c tc flag subtype w).trace = [] := by
  apply reportIf_cases cb c tc (P := fun m ↦ invocations (m w).trace = [])
  · rfl
  · intro payload
    rw [Prog.bind_trace, invocations_append, invocations_emitPacket]
    rfl

theorem invocations_reportCompletion (st : Status) :
    invocations (reportCompletion cb c tc st w).trace = [] := by
  apply reportCompletion_cases cb c tc (P := fun m ↦ invocations (m w).trace = [])
  · rfl
  · intro subtype payload
    rw [Prog.bind_trace, invocations_append, invocations_emitPacket]
    rfl

variable {data : List UInt8} {len : UInt16}

theorem invocations_unrouted
    (hd : pusTcDecode (some data) len (some .fresh) = (.ok, some tc))
    (hf : (w.ctx c).handlerTable.find tc.secHeader.serviceTypeId tc.secHeader.subtypeId = none) :
    invocations (pusTcProcess cb (some c) (some data) len w).trace = [] := by
  rw [pusTcProcess_unrouted hd hf, emitFailure_eq, Prog.bind_trace, invocations_append,
    invocations_emitPacket]
  rfl

theorem invocations_callHandler (i : Fin cfg.maxTcHandlers) :
    invocations (callHandler cb c tc i w).trace =
      [⟨((w.ctx c).handlerTable i).handler, ((w.ctx c).handlerTable i).userData,
        (w.ctx c).handlerTable⟩] := rfl

theorem invocations_routed {i : Fin cfg.maxTcHandlers}
    (hd : pusTcDecode (some data) len (some .fresh) = (.ok, some tc))
    (hf : (w.ctx c).handlerTable.find tc.secHeader.serviceTypeId tc.secHeader.subtypeId =
      some i) :
    let t := ((reportAcceptance cb c tc w).state.ctx c).handlerTable
    invocations (pusTcProcess cb (some c) (some data) len w).trace =
      [⟨(t i).handler, (t i).userData, t⟩] := by
  simp only [pusTcProcess_routed hd hf, reportAcceptance, Prog.bind_trace, Prog.bind_state,
    Prog.pure_apply, invocations_append, invocations_nil, invocations_reportIf,
    invocations_callHandler, invocations_reportCompletion, List.append_nil, List.nil_append]

/-- Every handler invoked for the TC is the one registered for its pair at that moment. -/
def InvokesRegistered (cb : Callbacks cfg A) (c : Ptr) (data : List UInt8) (len : UInt16)
    (tc : TcPacket) (w : World cfg A) : Prop :=
  ∀ v ∈ invocations (pusTcProcess cb (some c) (some data) len w).trace,
    v.table.lookup tc.secHeader.serviceTypeId tc.secHeader.subtypeId = some (v.handler, v.userData)

theorem invokesRegistered_iff
    (hd : pusTcDecode (some data) len (some .fresh) = (.ok, some tc)) :
    InvokesRegistered cb c data len tc w ↔
      ∀ i, (w.ctx c).handlerTable.find tc.secHeader.serviceTypeId tc.secHeader.subtypeId = some i →
        ((reportAcceptance cb c tc w).state.ctx c).handlerTable.Serves
          tc.secHeader.serviceTypeId tc.secHeader.subtypeId i := by
  rw [InvokesRegistered]
  cases hf : (w.ctx c).handlerTable.find tc.secHeader.serviceTypeId tc.secHeader.subtypeId with
  | none => simp [invocations_unrouted hd hf]
  | some i => simp [invocations_routed hd hf, serves_iff]

/-- A computation that changes the dispatch table of `c` by registrations only. -/
def EditsTable (c : Ptr) {α : Type} (m : Pus cfg A α) : Prop :=
  ∀ w, ∃ rs, ((m w).state.ctx c).handlerTable = (w.ctx c).handlerTable.edit rs

namespace EditsTable

theorem pure {α : Type} (a : α) : EditsTable c (Pure.pure a : Pus cfg A α) := fun _ ↦ ⟨[], rfl⟩

theorem bind {α β : Type} {m : Pus cfg A α} {f : α → Pus cfg A β} (hm : EditsTable c m)
    (hf : ∀ a, EditsTable c (f a)) : EditsTable c (m >>= f) := by
  intro w
  obtain ⟨rs, hrs⟩ := hm w
  obtain ⟨qs, hqs⟩ := hf (m w).val (m w).state
  refine ⟨rs ++ qs, ?_⟩
  rw [Prog.bind_state, hqs, hrs, edit_append]

variable (hsink : ∀ f ud data, EditsTable c (cb.tmSink f ud data))
  (hclock : ∀ f ud, EditsTable c (cb.timeSource f ud))

include hsink hclock

theorem emitPacket (service subtype : UInt8) (dest : UInt16) (payload : List UInt8) :
    EditsTable c (emitPacket cb c service subtype dest payload) := by
  have htime : EditsTable c (callTimeSource cb c) := by
    intro w
    cases hk : (w.ctx c).timeSource with
    | none => exact ⟨[], by rw [callTimeSource_none cb hk]; rfl⟩
    | some f =>
      rw [callTimeSource_some cb hk]
      exact hclock _ _ w
  have hdeliver (data : List UInt8) : EditsTable c (callTmSink cb c data) := by
    intro w
    cases hk : (w.ctx c).tmSink with
    | none => exact ⟨[], by rw [callTmSink_none cb hk]; rfl⟩
    | some f =>
      rw [callTmSink_some cb hk]
      exact hsink _ _ _ w
  have hbuild : EditsTable c (buildPacket cb c service subtype dest payload) := by
    intro w
    obtain ⟨rs, hrs⟩ := htime w
    refine ⟨rs, ?_⟩
    rw [buildPacket_apply]
    simp only [World.setCtx_ctx]
    exact hrs
  exact hbuild.bind hdeliver

theorem reportAcceptance (tc : TcPacket) : EditsTable c (reportAcceptance cb c tc) := by
  have hreport (flag subtype : UInt8) : EditsTable c (reportIf cb c tc flag subtype) :=
    reportIf_cases cb c tc flag subtype (.pure ()) fun payload ↦
      (emitPacket hsink hclock _ subtype _ payload).bind fun _ ↦ .pure ()
  exact (hreport _ _).bind fun _ ↦ hreport _ _

end EditsTable

/-- What is invoked for a TC is what is registered for its pair then, exactly when the slot found
before the reports still serves the pair after them. When what was done to the table meanwhile are
the registrations `rs`, this is so exactly when the edited table has in that slot what the same
registrations leave the map with for the pair. So it is if they never deregister the pair, or not
after it got the slot back; it is not if they deregister the pair and do not register it again; and
if they do, the slot decides. -/
theorem invocation_registered_iff (cb : Callbacks cfg A) (c : Ptr) (data : List UInt8)
    (len : UInt16) (w : World cfg A) (tc : TcPacket)
    (hd : pusTcDecode (some data) len (some .fresh) = (.ok, some tc)) :
    let service := tc.secHeader.serviceTypeId
    let subtype := tc.secHeader.subtypeId
    let t := (w.ctx c).handlerTable
    let t' := ((reportAcceptance cb c tc w).state.ctx c).handlerTable
    (InvokesRegistered cb c data len tc w ↔
      ∀ i, t.find service subtype = some i → t'.Serves service subtype i) ∧
    ((∀ f ud bytes, EditsTable c (cb.tmSink f ud bytes)) →
      (∀ f ud, EditsTable c (cb.timeSource f ud)) → ∃ rs, t' = t.edit rs) ∧
    ∀ (m : Dispatch) rs, Refines t.slots m → t' = t.edit rs →
      (InvokesRegistered cb c data len tc w ↔ ∀ i, t.find service subtype = some i →
        (m.registerAll cfg.maxTcHandlers rs).2.lookup (service, subtype) =
          some ((t.edit rs i).handler, (t.edit rs i).userData)) ∧
      (∀ xs ys i, rs = xs ++ ys → t.find service subtype = some i →
        (t.edit xs).find service subtype = some i →
        (∀ r ∈ ys, r.handler = none → (r.service, r.subtype) ≠ (service, subtype)) →
        InvokesRegistered cb c data len tc w) ∧
      (∀ xs ys userData, rs = xs ++ ⟨service, subtype, none, userData⟩ :: ys →
        (∀ r ∈ ys, r.handler ≠ none → (r.service, r.subtype) ≠ (service, subtype)) →
        (InvokesRegistered cb c data len tc w ↔ (service, subtype) ∉ m)) ∧
      ∀ xs ys h userData, rs = xs ++ ⟨service, subtype, some h, userData⟩ :: ys →
        ((m.registerAll cfg.maxTcHandlers xs).2.register cfg.maxTcHandlers
          ⟨service, subtype, some h, userData⟩).1 = .ok →
        (∀ r ∈ ys, (r.service, r.subtype) ≠ (service, subtype)) →
        (InvokesRegistered cb c data len tc w ↔ ∀ i, t.find service subtype = some i →
          (t.edit rs i).handler = h ∧ (t.edit rs i).userData = userData) := by
  intro service subtype t t'
  have hiff : InvokesRegistered cb c data len tc w ↔
      ∀ i, t.find service subtype = some i → t'.Serves service subtype i := invokesRegistered_iff hd
  refine ⟨hiff, fun hsink hclock ↦ EditsTable.reportAcceptance hsink hclock tc w,
    fun m rs hm ht ↦ ?_⟩
  have hedit : InvokesRegistered cb c data len tc w ↔ ∀ i, t.find service subtype = some i →
      (m.registerAll cfg.maxTcHandlers rs).2.lookup (service, subtype) =
        some ((t.edit rs i).handler, (t.edit rs i).userData) := by
    simp only [hiff, ht, serves_edit_iff hm]
  refine ⟨hedit, fun xs ys i hrs hi hback hys ↦ ?_, fun xs ys userData hrs hys ↦ ?_,
    fun xs ys h userData hrs hok hys ↦ ?_⟩
  · rw [hiff, ht, hrs, edit_append]
    intro j hj
    obtain rfl := Option.some.inj (hi.symm.trans hj)
    exact serves_of_edits (edit_refines xs hm) (matches_of_find hback) ys hys
  · rw [hiff, ht, hrs, mem_iff_find hm, not_exists]
    exact forall_congr' fun i ↦ imp_congr_right fun _ ↦
      iff_false_intro (not_serves_of_edits hm i xs ys userData hys)
  · rw [hedit, hrs, Dispatch.lookup_registered hok hys]
    simp only [Option.some.injEq, Prod.mk.injEq, eq_comm]

def deregistering : Callbacks .default Unit :=
  { Callbacks.quiet with tmSink _ _ _ := pusHandlerRegister (some 0) 128 1 none 0 }

/-- A sink that makes the registrations `rs` on context 0 for each report it is handed. -/
def editing (rs : List RegisterCall) : Callbacks .default Unit :=
  { Callbacks.quiet with
    tmSink _ _ _ := do
      let _ ← registerAll 0 rs
      pure .ok }

theorem invocation_registered_iff_again :
    let tc : TcPacket := ⟨⟨1, 8, 128, 1, 3, 0, 0⟩, [], 0⟩
    let data : List UInt8 := [0x18, 128, 1, 0, 3, 0, 0, 0, 0, 0]
    let back : List RegisterCall := [⟨128, 1, none, 0⟩, ⟨128, 1, some (.user 6), 7⟩]
    let taken : List RegisterCall :=
      [⟨128, 1, none, 0⟩, ⟨128, 2, some (.user 8), 4⟩, ⟨128, 1, some (.user 6), 7⟩]
    let invoked (rs : List RegisterCall) :=
      (invocations (pusTcProcess (editing rs) (some 0) (some data) 10 oneHandlerSink).trace).map
        fun v ↦ (v.handler, v.userData)
    (InvokesRegistered (editing back) 0 data 10 tc oneHandlerSink ∧ invoked back = [(.user 6, 7)]) ∧
      ¬ InvokesRegistered (editing taken) 0 data 10 tc oneHandlerSink ∧
        invoked taken = [(.user 8, 4)] := by
  intro tc data back taken invoked
  have hd : pusTcDecode (some data) 10 (some .fresh) = (.ok, some tc) := by decide
  have hm : Refines (oneHandlerSink.ctx 0).handlerTable.slots
      (Dispatch.registerAll 16 [⟨128, 1, some (.user 5), 9⟩] ∅).2 :=
    edit_refines (t := fun _ ↦ .zero) [⟨128, 1, some (.user 5), 9⟩] .empty
  have hi : (oneHandlerSink.ctx 0).handlerTable.find 128 1 = some ⟨0, by decide⟩ := by decide
  refine ⟨⟨?_, by decide⟩, fun h ↦ ?_, by decide⟩
  · obtain ⟨-, -, hiff⟩ := invocation_registered_iff (editing back) 0 data 10 oneHandlerSink tc hd
    obtain ⟨-, hback, -⟩ := hiff _ back hm (by decide)
    exact hback back [] ⟨0, by decide⟩ rfl hi (by decide) (List.forall_mem_nil _)
  · obtain ⟨-, -, hiff⟩ := invocation_registered_iff (editing taken) 0 data 10 oneHandlerSink tc hd
    obtain ⟨-, -, -, hagain⟩ := hiff _ taken hm (by decide)
    have hslot := (hagain [⟨128, 1, none, 0⟩, ⟨128, 2, some (.user 8), 4⟩] [] (.user 6) 7 rfl
      (by decide) (List.forall_mem_nil _)).mp h _ hi
    exact absurd hslot (by decide)

theorem stale_handler_invoked :
    (invocations (pusTcProcess deregistering (some 0)
      (some [0x18, 128, 1, 0, 3, 0, 0, 0, 0, 0]) 10 oneHandlerSink).trace).map
        (fun v ↦ (v.handler, v.userData, v.table.lookup 128 1)) = [(.user 5, 9, none)] := by
  decide

end EmbeddedPus
