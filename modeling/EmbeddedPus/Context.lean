import EmbeddedPus.Types
import Mathlib.Logic.Function.Basic

namespace EmbeddedPus

open CallTrace Function

variable {cfg : Config} {A : Type}

def World.setCtx (w : World cfg A) (c : Ptr) (k : Context cfg) : World cfg A :=
  { w with ctx := update w.ctx c k }

section setCtx

variable (w : World cfg A) (c : Ptr) (k : Context cfg)

@[simp] theorem World.setCtx_ctx : (w.setCtx c k).ctx c = k := update_self ..

theorem World.setCtx_ctx_of_ne {d : Ptr} (h : d ≠ c) : (w.setCtx c k).ctx d = w.ctx d :=
  update_of_ne h ..

@[simp] theorem World.setCtx_s3 : (w.setCtx c k).s3 = w.s3 := rfl

@[simp] theorem World.setCtx_s20 : (w.setCtx c k).s20 = w.s20 := rfl

@[simp] theorem World.setCtx_stack : (w.setCtx c k).stack = w.stack := rfl

@[simp] theorem World.setCtx_app : (w.setCtx c k).app = w.app := rfl

@[simp] theorem World.setCtx_setCtx (k' : Context cfg) :
    (w.setCtx c k).setCtx c k' = w.setCtx c k' := by
  simp only [World.setCtx, update_idem]

theorem World.setCtx_eq_self_iff : w.setCtx c k = w ↔ w.ctx c = k := by
  constructor
  · intro h
    rw [← h, World.setCtx_ctx]
  · rintro rfl
    rw [World.setCtx, update_eq_self]

end setCtx

def readCtx (c : Ptr) : Pus cfg A (Context cfg) := do pure ((← Prog.get).ctx c)

def writeCtx (c : Ptr) (k : Context cfg) : Pus cfg A Unit := Prog.modify fun w ↦ w.setCtx c k

@[simp] theorem readCtx_apply (c : Ptr) (w : World cfg A) :
    (readCtx c : Pus cfg A _) w = ⟨w.ctx c, w, .nil⟩ := rfl

@[simp] theorem readCtx_bind_apply {α : Type} (c : Ptr) (f : Context cfg → Pus cfg A α)
    (w : World cfg A) : (readCtx c >>= f) w = f (w.ctx c) w := rfl

@[simp] theorem writeCtx_apply (c : Ptr) (k : Context cfg) (w : World cfg A) :
    (writeCtx c k : Pus cfg A _) w = ⟨(), w.setCtx c k, .nil⟩ := rfl

/-- The bytes of a fresh local array of the source, which nothing has initialised. -/
def localArray (n : ℕ) : Pus cfg A (List UInt8) := do
  pure ((List.range n).map (← Prog.get).stack)

@[simp] theorem localArray_apply (n : ℕ) (w : World cfg A) :
    (localArray n : Pus cfg A _) w = ⟨(List.range n).map w.stack, w, .nil⟩ := rfl

@[simp] theorem localArray_bind_apply {α : Type} (n : ℕ) (f : List UInt8 → Pus cfg A α)
    (w : World cfg A) : (localArray n >>= f) w = f ((List.range n).map w.stack) w := rfl

def Context.zero (cfg : Config) : Context cfg where
  handlerTable _ := .zero
  tmCounter := 0
  defaultSourceId := 0
  defaultDestinationId := 0
  tmSink := none
  tmSinkUserData := 0
  timeSource := none
  timeSourceUserData := 0

def pusInit (ctx : Option Ptr) : Pus cfg A Status :=
  match ctx with
  | none => pure .null
  | some c => do
    writeCtx c (.zero cfg)
    pure .ok

def pusInitWithConfig (ctx : Option Ptr) (config : Option PusConfig) : Pus cfg A Status := do
  let st ← pusInit ctx
  if st ≠ .ok then pure st
  else
    match ctx, config with
    | some c, some config => do
      let k ← readCtx c
      writeCtx c
        { k with
          defaultSourceId := config.defaultSourceId
          defaultDestinationId := config.defaultDestinationId
          tmSink := config.tmSink
          tmSinkUserData := config.tmSinkUserData
          timeSource := config.timeSource
          timeSourceUserData := config.timeSourceUserData }
      pure .ok
    | _, _ => pure .null

def pusSetTmSink (ctx : Option Ptr) (sink : Option Ptr) (userData : Ptr) : Pus cfg A Status :=
  match ctx with
  | none => pure .null
  | some c => do
    let k ← readCtx c
    writeCtx c { k with tmSink := sink, tmSinkUserData := userData }
    pure .ok

/-- An application whose functions do nothing and report success. -/
def Callbacks.quiet : Callbacks cfg A where
  handler _ _ _ _ := pure .ok
  tmSink _ _ _ := pure .ok
  timeSource _ _ := pure 0
  provider _ _ _ _ := pure ⟨.ok, [], 0⟩
  getter _ _ _ _ := pure ⟨.ok, []⟩
  setter _ _ _ _ _ := pure .ok

def World.cleared (a : A) : World cfg A where
  ctx _ := .zero cfg
  s3 _ _ := .zero
  s20 _ _ := .zero
  stack _ := 0
  app := a

end EmbeddedPus
