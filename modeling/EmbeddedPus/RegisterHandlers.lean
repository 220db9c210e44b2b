import EmbeddedPus.Dispatch

namespace EmbeddedPus

open CallTrace Function SlotTable

variable {cfg : Config} {A : Type} {n : ℕ}

/-- The two registrations of a service into a map with room for `n` entries: the first takes effect
and the second finds no room. -/
def HalfRegisters (n : ℕ) (m : Dispatch) (k₁ k₂ : UInt8 × UInt8) (v₁ : TcHandler × Ptr) : Prop :=
  k₂ ∉ m ∧ ((k₁ ∉ m ∧ m.keys.card + 1 = n) ∨
    (k₁ ∈ m ∧ m.keys.card = n ∧ m.lookup k₁ ≠ some v₁))

structure RegistersTwo (c : Ptr) (m : Dispatch) (k₁ k₂ : UInt8 × UInt8) (v₁ v₂ : TcHandler × Ptr)
    (w : World cfg A) (r : Outcome (World cfg A) Act (Call cfg) Status) : Prop where
  status : r.val = .ok ∨ r.val = .tableFull
  both : r.val = .ok →
    Refines (r.state.ctx c).handlerTable.slots ((m.insert k₁ v₁).insert k₂ v₂)
  neither : r.val = .tableFull → ¬ HalfRegisters cfg.maxTcHandlers m k₁ k₂ v₁ →
    (r.state.ctx c).handlerTable = (w.ctx c).handlerTable
  half : HalfRegisters cfg.maxTcHandlers m k₁ k₂ v₁ → r.val = .tableFull ∧
    (r.state.ctx c).handlerTable ≠ (w.ctx c).handlerTable ∧
    Refines (r.state.ctx c).handlerTable.slots (m.insert k₁ v₁)

theorem pusHandlerRegister_apply (c : Ptr) (service subtype : UInt8) (handler : Option TcHandler)
    (userData : Ptr) (w : World cfg A) :
    pusHandlerRegister (some c) service subtype handler userData w =
      let q := (w.ctx c).handlerTable.register service subtype handler userData
      ⟨q.1, w.setCtx c { w.ctx c with handlerTable := q.2 }, .nil⟩ := rfl

def HandlerTable.registerTwo (t : HandlerTable n) (service subtype₁ subtype₂ : UInt8)
    (handler₁ handler₂ : TcHandler) (userData : Ptr) : Status × HandlerTable n :=
  let q := t.register service subtype₁ (some handler₁) userData
  if q.1 ≠ .ok then q else q.2.register service subtype₂ (some handler₂) userData

theorem registerTwo_apply (c : Ptr) (service subtype₁ subtype₂ : UInt8)
    (handler₁ handler₂ : TcHandler) (userData : Ptr) (w : World cfg A) :
    let r := registerTwo c service subtype₁ subtype₂ handler₁ handler₂ userData w
    let q := (w.ctx c).handlerTable.registerTwo service subtype₁ subtype₂ handler₁ handler₂ userData
    r.val = q.1 ∧ (r.state.ctx c).handlerTable = q.2 := by
  rw [registerTwo, Prog.bind_apply, pusHandlerRegister_apply, HandlerTable.registerTwo]
  by_cases hst :
      ((w.ctx c).handlerTable.register service subtype₁ (some handler₁) userData).1 = .ok
  · simp only [hst, ne_eq, not_true_eq_false, if_false, pusHandlerRegister_apply,
      World.setCtx_ctx, and_self]
  · simp only [hst, ne_eq, not_false_eq_true, if_true, Prog.pure_apply, World.setCtx_ctx,
      and_self]

theorem register_same {t : HandlerTable n} {m : Dispatch} (h : Refines t.slots m)
    {service subtype : UInt8} {handler : TcHandler} {userData : Ptr}
    (hm : m.lookup (service, subtype) = some (handler, userData)) :
    t.register service subtype (some handler) userData = (.ok, t) := by
  have hs := scan_spec (fun i ↦ (t i).isUsed) (t.matches service subtype)
  obtain ⟨i, hi⟩ := h.lookup_iff.mp hm
  obtain ⟨hmatch, hv⟩ := slots_eq_some.mp hi
  rw [HandlerTable.register]
  cases he : scan (fun i ↦ (t i).isUsed) (t.matches service subtype) with
  | found j =>
    rw [he] at hs
    have hj : t.slots j = some ((service, subtype), _) := slots_eq_some.mpr ⟨hs.2, rfl⟩
    obtain rfl := h.unique hi hj
    obtain ⟨rfl, rfl⟩ := Prod.mk.inj hv
    simp only [update_eq_self]
  | free j =>
    rw [he] at hs
    exact absurd hmatch (hs.2 i (matches_iff.mp hmatch).1)
  | full =>
    rw [he] at hs
    exact absurd hmatch (hs i).2

theorem register_changes {t t' : HandlerTable n} {m : Dispatch} (h : Refines t.slots m)
    {k : UInt8 × UInt8} {v : TcHandler × Ptr} (h' : Refines t'.slots (m.insert k v))
    (hm : m.lookup k ≠ some v) : t' ≠ t := by
  rintro rfl
  apply hm
  rw [← h.lookup_eq, h'.lookup_eq, Finmap.lookup_insert]

/-- A service is half registered when only the first of its registrations is accepted, and that one
is not what the map has already. -/
theorem halfRegisters_iff {m : Dispatch} (k₁ k₂ : UInt8 × UInt8) (v₁ : TcHandler × Ptr)
    (hcard : m.keys.card ≤ n) :
    HalfRegisters n m k₁ k₂ v₁ ↔ (k₁ ∈ m ∨ m.keys.card < n) ∧
      ¬ (k₂ ∈ m ∨ (m.insert k₁ v₁).keys.card < n) ∧ m.lookup k₁ ≠ some v₁ := by
  rw [HalfRegisters]
  by_cases hk : k₁ ∈ m
  · rw [card_insert_of_mem v₁ hk]
    constructor
    · rintro ⟨hnot, ⟨hk', -⟩ | ⟨-, hfull, hlookup⟩⟩
      · exact absurd hk hk'
      · exact ⟨.inl hk, not_or.mpr ⟨hnot, by omega⟩, hlookup⟩
    · rintro ⟨-, hroom, hlookup⟩
      obtain ⟨hnot, hfull⟩ := not_or.mp hroom
      exact ⟨hnot, .inr ⟨hk, by omega, hlookup⟩⟩
  · rw [card_insert_of_not_mem v₁ hk]
    constructor
    · rintro ⟨hnot, ⟨-, hlast⟩ | ⟨hk', -⟩⟩
      · refine ⟨.inr (by omega), not_or.mpr ⟨hnot, by omega⟩, fun hlookup ↦ hk ?_⟩
        exact Finmap.mem_of_lookup_eq_some hlookup
      · exact absurd hk' hk
    · rintro ⟨hroom₁, hroom₂, -⟩
      obtain ⟨hnot, hfull⟩ := not_or.mp hroom₂
      have hlt := hroom₁.resolve_left hk
      exact ⟨hnot, .inl ⟨hk, by omega⟩⟩

theorem registersTwo (c : Ptr) (service subtype₁ subtype₂ : UInt8) (handler₁ handler₂ : TcHandler)
    (userData : Ptr) {m : Dispatch} {w : World cfg A} (hne : subtype₁ ≠ subtype₂)
    (h : Refines (w.ctx c).handlerTable.slots m) :
    RegistersTwo c m (service, subtype₁) (service, subtype₂) (handler₁, userData)
      (handler₂, userData) w
      (registerTwo c service subtype₁ subtype₂ handler₁ handler₂ userData w) := by
  obtain ⟨hval, htable⟩ :=
    registerTwo_apply c service subtype₁ subtype₂ handler₁ handler₂ userData w
  have hk : (service, subtype₂) ≠ (service, subtype₁) := fun he ↦ hne (Prod.mk.inj he).2.symm
  have hhalf := halfRegisters_iff (service, subtype₁) (service, subtype₂) (handler₁, userData)
    h.card_le
  obtain ⟨hst₁, href₁, hsame₁⟩ := register_refines h ⟨service, subtype₁, some handler₁, userData⟩
  simp only [Dispatch.register] at hst₁ href₁ hsame₁
  rw [HandlerTable.registerTwo] at hval htable
  by_cases hroom₁ : (service, subtype₁) ∈ m ∨ m.keys.card < cfg.maxTcHandlers
  swap
  · rw [if_neg hroom₁] at hst₁
    simp only [hst₁, ne_eq, reduceCtorEq, not_false_eq_true, if_true] at hval htable
    rw [hsame₁ (by rw [hst₁]; exact Status.noConfusion)] at htable
    exact ⟨.inr hval, fun hok ↦ Status.noConfusion (hval.symm.trans hok), fun _ _ ↦ htable,
      fun hh ↦ absurd (hhalf.mp hh).1 hroom₁⟩
  rw [if_pos hroom₁] at hst₁ href₁
  simp only [hst₁, ne_eq, not_true_eq_false, if_false] at hval htable
  obtain ⟨hst₂, href₂, hsame₂⟩ :=
    register_refines href₁ ⟨service, subtype₂, some handler₂, userData⟩
  simp only [Dispatch.register, Finmap.mem_insert, hk, false_or] at hst₂ href₂ hsame₂
  by_cases hroom₂ : (service, subtype₂) ∈ m ∨
      (m.insert (service, subtype₁) (handler₁, userData)).keys.card < cfg.maxTcHandlers
  · rw [if_pos hroom₂] at hst₂ href₂
    have hok := hval.trans hst₂
    exact ⟨.inl hok, fun _ ↦ htable ▸ href₂, fun hfull ↦ Status.noConfusion (hok.symm.trans hfull),
      fun hh ↦ absurd hroom₂ (hhalf.mp hh).2.1⟩
  · rw [if_neg hroom₂] at hst₂
    rw [hsame₂ (by rw [hst₂]; exact Status.noConfusion)] at htable
    have hfull := hval.trans hst₂
    refine ⟨.inr hfull, fun hok ↦ Status.noConfusion (hfull.symm.trans hok), fun _ hh ↦ ?_,
      fun hh ↦ ?_⟩
    · have hlookup : m.lookup (service, subtype₁) = some (handler₁, userData) := by
        by_contra hno
        exact hh (hhalf.mpr ⟨hroom₁, hroom₂, hno⟩)
      rw [htable, register_same h hlookup]
    · rw [htable]
      exact ⟨hfull, register_changes h href₁ (hhalf.mp hh).2.2, href₁⟩

/-- Registering the handlers of ST[17] and ST[20], whatever was registered and deregistered
before. -/
theorem register_handlers_outcome (c s : Ptr) (rs : List RegisterCall) (w w' : World cfg A)
    (hw : (w'.ctx c).handlerTable =
      (((pusInit (some c) >>= fun _ ↦ registerAll c rs) w).state.ctx c).handlerTable) :
    let m := (Dispatch.registerAll cfg.maxTcHandlers rs ∅).2
    RegistersTwo c m (17, 1) (17, 3) (.handleTc17_1, 0) (.handleTc17_3, 0) w'
      (pusService17RegisterHandlers (some c) w') ∧
    RegistersTwo c m (20, 1) (20, 3) (.handleTc20_1, s) (.handleTc20_3, s) w'
      (pusService20RegisterHandlers (some c) (some s) w') := by
  intro m
  have href : Refines (w'.ctx c).handlerTable.slots m := by
    rw [hw]
    exact (registerAll_refines c rs _ (init_refines c w)).2
  exact ⟨registersTwo c 17 1 3 _ _ 0 (by decide) href,
    registersTwo c 20 1 3 _ _ s (by decide) href⟩

def fifteenCalls : List RegisterCall :=
  (List.range 15).map fun i ↦ ⟨128, UInt8.ofNat i, some (.user 5), 0⟩

def fifteenHandlers : World .default Unit :=
  ((pusInit (some 0) >>= fun _ ↦ registerAll 0 fifteenCalls) (.cleared ())).state

theorem register_handlers_outcome_fifteen :
    RegistersTwo 0 (Dispatch.registerAll 16 fifteenCalls ∅).2 (17, 1) (17, 3) (.handleTc17_1, 0)
      (.handleTc17_3, 0) fifteenHandlers (pusService17RegisterHandlers (some 0) fifteenHandlers) :=
  (register_handlers_outcome 0 0 fifteenCalls (.cleared ()) fifteenHandlers rfl).1

theorem service_half_registered :
    (pusService17RegisterHandlers (some 0) fifteenHandlers).val = .tableFull ∧
      (fifteenHandlers.ctx 0).handlerTable.lookup 17 1 = none ∧
      ((pusService17RegisterHandlers (some 0) fifteenHandlers).state.ctx 0).handlerTable.lookup
        17 1 = some (.handleTc17_1, 0) := by
  decide +kernel

end EmbeddedPus
