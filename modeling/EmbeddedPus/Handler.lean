import EmbeddedPus.Context
import EmbeddedPus.Library.RecordTable

namespace EmbeddedPus

open CallTrace Function SlotTable

variable {cfg : Config} {A : Type} {n : ℕ}

/-- The test the scans of `pus_handler.c` make on a slot. -/
def HandlerTable.matches (t : HandlerTable n) (service subtype : UInt8) (i : Fin n) : Bool :=
  (t i).isUsed && (t i).service == service && (t i).subtype == subtype

def HandlerTable.find (t : HandlerTable n) (service subtype : UInt8) : Option (Fin n) :=
  Fin.find? (t.matches service subtype)

/-- What `pus_handler_register` does to the table of a context. -/
def HandlerTable.register (t : HandlerTable n) (service subtype : UInt8)
    (handler : Option TcHandler) (userData : Ptr) : Status × HandlerTable n :=
  match handler with
  | none =>
    match t.find service subtype with
    | some i => (.ok, update t i { t i with isUsed := false })
    | none => (.noHandler, t)
  | some h =>
    match scan (fun i ↦ (t i).isUsed) (t.matches service subtype) with
    | .found i => (.ok, update t i { t i with handler := h, userData := userData })
    | .full => (.tableFull, t)
    | .free i => (.ok, update t i ⟨service, subtype, h, userData, true⟩)

def pusHandlerRegister (ctx : Option Ptr) (service subtype : UInt8) (handler : Option TcHandler)
    (userData : Ptr) : Pus cfg A Status :=
  match ctx with
  | none => pure .null
  | some c => do
    let k ← readCtx c
    let r := k.handlerTable.register service subtype handler userData
    writeCtx c { k with handlerTable := r.2 }
    pure r.1

def registerTwo (c : Ptr) (service subtype₁ subtype₂ : UInt8) (handler₁ handler₂ : TcHandler)
    (userData : Ptr) : Pus cfg A Status := do
  let st ← pusHandlerRegister (some c) service subtype₁ (some handler₁) userData
  if st ≠ .ok then pure st
  else pusHandlerRegister (some c) service subtype₂ (some handler₂) userData

/-- The index `pus_handler_find` returns, `none` standing for `-1`. -/
def pusHandlerFind (ctx : Option (Context cfg)) (service subtype : UInt8) :
    Option (Fin cfg.maxTcHandlers) :=
  match ctx with
  | none => none
  | some k => k.handlerTable.find service subtype

def HandlerTable.lookup (t : HandlerTable n) (service subtype : UInt8) : Option (TcHandler × Ptr) :=
  (t.find service subtype).map fun i ↦ ((t i).handler, (t i).userData)

/-- The dispatch table as slots with a key and a value; what a slot not in use still holds does not
show. -/
def HandlerTable.slots (t : HandlerTable n) : Slots n (UInt8 × UInt8) (TcHandler × Ptr) :=
  fun i ↦
    if (t i).isUsed then some (((t i).service, (t i).subtype), ((t i).handler, (t i).userData))
    else none

def handlerLayout : Layout HandlerEntry (UInt8 × UInt8) (TcHandler × Ptr) where
  used e := e.isUsed
  key e := (e.service, e.subtype)
  val e := (e.handler, e.userData)

section Slots

variable {t : HandlerTable n} {service subtype : UInt8} {i : Fin n}

theorem matches_iff : t.matches service subtype i ↔
    (t i).isUsed ∧ (t i).service = service ∧ (t i).subtype = subtype := by
  simp only [HandlerTable.matches, Bool.and_eq_true, beq_iff_eq, and_assoc]

theorem matches_tests (k : UInt8 × UInt8) : handlerLayout.Tests t (t.matches k.1 k.2) k := by
  intro i
  simp only [matches_iff, handlerLayout, Prod.ext_iff]

theorem matches_of_find (h : t.find service subtype = some i) : t.matches service subtype i :=
  (Fin.find?_eq_some_iff.mp h).1

theorem slots_layout (t : HandlerTable n) : t.slots = handlerLayout.slots t := rfl

@[simp] theorem isSome_slots : (t.slots i).isSome = (t i).isUsed := by
  rw [slots_layout, Layout.isSome_slots]
  rfl

theorem slots_eq_some {k : UInt8 × UInt8} {v : TcHandler × Ptr} : t.slots i = some (k, v) ↔
    t.matches k.1 k.2 i ∧ v = ((t i).handler, (t i).userData) := by
  rw [slots_layout, Layout.slots_eq_some, matches_tests k i, and_assoc]
  exact and_congr_right fun _ ↦ and_congr_right fun _ ↦ eq_comm

theorem holds_slots (k : UInt8 × UInt8) : holds t.slots k = t.matches k.1 k.2 :=
  (matches_tests k).holds

theorem find_slots (k : UInt8 × UInt8) : SlotTable.find t.slots k = t.find k.1 k.2 :=
  (matches_tests k).find

theorem lookup_slots (k : UInt8 × UInt8) : SlotTable.lookup t.slots k = t.lookup k.1 k.2 :=
  (matches_tests k).lookup

theorem slots_update_used {e : HandlerEntry} (he : e.isUsed) :
    HandlerTable.slots (update t i e) =
      update t.slots i (some ((e.service, e.subtype), (e.handler, e.userData))) := by
  rw [slots_layout, slots_layout]
  exact Layout.slots_update_used he

theorem slots_update_unused {e : HandlerEntry} (he : e.isUsed = false) :
    HandlerTable.slots (update t i e) = update t.slots i none := by
  rw [slots_layout, slots_layout]
  exact Layout.slots_update_unused he

variable (t service subtype)

theorem register_some (h : TcHandler) (userData : Ptr) :
    match store t.slots (service, subtype) (h, userData) with
    | some s => ∃ t', t.register service subtype (some h) userData = (.ok, t') ∧ t'.slots = s
    | none => t.register service subtype (some h) userData = (.tableFull, t) := by
  have hused : (fun i ↦ (t.slots i).isSome) = fun i ↦ (t i).isUsed := funext fun _ ↦ isSome_slots
  have hs := scan_spec (fun i ↦ (t i).isUsed) (t.matches service subtype)
  simp only [store, hused, holds_slots, HandlerTable.register]
  cases he : scan (fun i ↦ (t i).isUsed) (t.matches service subtype) with
  | found i =>
    rw [he] at hs
    obtain ⟨-, rfl, rfl⟩ := matches_iff.mp hs.2
    exact ⟨_, rfl, slots_update_used hs.1⟩
  | free i => exact ⟨_, rfl, slots_update_used rfl⟩
  | full => rfl

theorem register_none (userData : Ptr) :
    match remove t.slots (service, subtype) with
    | some s => ∃ t', t.register service subtype none userData = (.ok, t') ∧ t'.slots = s
    | none => t.register service subtype none userData = (.noHandler, t) := by
  simp only [remove, find_slots, HandlerTable.register]
  cases t.find service subtype with
  | some i => exact ⟨_, rfl, slots_update_unused rfl⟩
  | none => rfl

end Slots

end EmbeddedPus
