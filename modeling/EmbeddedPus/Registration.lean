import EmbeddedPus.HkReport
import EmbeddedPus.ReportRequest
import EmbeddedPus.Library.RecordTable

namespace EmbeddedPus

open CallTrace Function SlotTable

variable {cfg : Config} {A R K V : Type} [DecidableEq K]

/-- A registration into a map with room for `n` entries. Without a provider or getter there is no
value to register. -/
def put (n : ℕ) (m : Finmap fun _ : K ↦ V) (k : K) (v : Option V) :
    Status × Finmap fun _ : K ↦ V :=
  match v with
  | none => (.null, m)
  | some v => if k ∈ m ∨ m.keys.card < n then (.ok, m.insert k v) else (.tableFull, m)

def putAll (n : ℕ) (rs : List (K × Option V)) (m : Finmap fun _ : K ↦ V) :
    Finmap fun _ : K ↦ V :=
  rs.foldl (fun m r ↦ (put n m r.1 r.2).2) m

/-- A registration `f` into the table that `view` shows is one of the value `v` under `k`. -/
structure Registers {n : ℕ} (view : World cfg A → Slots n K V) (f : Pus cfg A Status) (k : K)
    (v : Option V) : Prop where
  refines : ∀ w m, Refines (view w) m →
    (f w).val = (put n m k v).1 ∧ Refines (view (f w).state) (put n m k v).2
  refused : ∀ w, (f w).val ≠ .ok → (f w).state = w

/-- What a table is to its users when `m` is what it stands for, whatever is registered next: no two
slots share a key, a registration is accepted when its key is there or the table has room and it
concerns its own key only, and a refused one does nothing. -/
structure BehavesAs {n : ℕ} (view : World cfg A → Slots n K V) (f : R → Pus cfg A Status)
    (key : R → K) (val : R → Option V) (m : Finmap fun _ : K ↦ V) (w : World cfg A) : Prop where
  refines : Refines (view w) m
  bound : m.keys.card ≤ n
  accepted : ∀ r, val r ≠ none → ((f r w).val = .ok ↔ key r ∈ m ∨ m.keys.card < n)
  full : ∀ r, val r ≠ none → (f r w).val ≠ .ok → (f r w).val = .tableFull
  refused : ∀ r, (f r w).val ≠ .ok → (f r w).state = w
  stored : ∀ r, (f r w).val = .ok → lookup (view (f r w).state) (key r) = val r
  others : ∀ r k, k ≠ key r → lookup (view (f r w).state) k = lookup (view w) k

section put

variable (n : ℕ) (m : Finmap fun _ : K ↦ V) (k : K) (v : Option V)

theorem put_ok_iff (hv : v ≠ none) : (put n m k v).1 = .ok ↔ k ∈ m ∨ m.keys.card < n := by
  obtain ⟨v, rfl⟩ := Option.ne_none_iff_exists'.mp hv
  rw [put]
  by_cases h : k ∈ m ∨ m.keys.card < n <;> simp [h]

theorem put_full (hv : v ≠ none) (h : (put n m k v).1 ≠ .ok) : (put n m k v).1 = .tableFull := by
  obtain ⟨v, rfl⟩ := Option.ne_none_iff_exists'.mp hv
  rw [put] at h ⊢
  split at h
  · exact absurd rfl h
  · rename_i hno
    rw [if_neg hno]

theorem lookup_put (h : (put n m k v).1 = .ok) : (put n m k v).2.lookup k = v := by
  cases v with
  | none => cases h
  | some v =>
    rw [put] at h ⊢
    split at h
    · rename_i hroom
      rw [if_pos hroom, Finmap.lookup_insert]
    · cases h

theorem lookup_put_of_ne {k' : K} (hk : k' ≠ k) : (put n m k v).2.lookup k' = m.lookup k' := by
  cases v with
  | none => rfl
  | some v =>
    rw [put]
    split
    · exact Finmap.lookup_insert_of_ne _ hk
    · rfl

variable {n m k v}

theorem put_refused (h : (put n m k v).1 ≠ .ok) : (put n m k v).2 = m := by
  cases v with
  | none => rfl
  | some v =>
    rw [put] at h ⊢
    split
    · rename_i hroom
      rw [if_pos hroom] at h
      exact absurd rfl h
    · rfl

/-- What holds of every entry and of the one registered holds of every entry. -/
theorem put_forall {P : K → V → Prop} (hm : ∀ k v, m.lookup k = some v → P k v)
    (hv : ∀ u, v = some u → P k u) (k' : K) (u : V)
    (hu : (put n m k v).2.lookup k' = some u) : P k' u := by
  by_cases hk : k' = k
  · subst hk
    by_cases hst : (put n m k' v).1 = .ok
    · rw [lookup_put n m k' v hst] at hu
      exact hv u hu
    · rw [put_refused hst] at hu
      exact hm k' u hu
  · rw [lookup_put_of_ne n m k v hk] at hu
    exact hm k' u hu

end put

theorem Registers.behavesAs {n : ℕ} {view : World cfg A → Slots n K V} {f : R → Pus cfg A Status}
    {key : R → K} {val : R → Option V} (h : ∀ r, Registers view (f r) (key r) (val r))
    {m : Finmap fun _ : K ↦ V} {w : World cfg A} (href : Refines (view w) m) :
    BehavesAs view f key val m w where
  refines := href
  bound := href.card_le
  accepted r hv := by rw [((h r).refines w m href).1, put_ok_iff n m _ _ hv]
  full r hv hne := by
    rw [((h r).refines w m href).1] at hne ⊢
    exact put_full n m _ _ hv hne
  refused r := (h r).refused w
  stored r hok := by
    obtain ⟨hval, href'⟩ := (h r).refines w m href
    rw [href'.lookup_eq]
    exact lookup_put n m _ _ (hval ▸ hok)
  others r k hk := by
    rw [((h r).refines w m href).2.lookup_eq, href.lookup_eq]
    exact lookup_put_of_ne n m _ _ hk

structure HkCall where
  diag : Bool
  sid : UInt16
  provider : Option Ptr
  userData : Ptr

structure ParamCall where
  paramId : UInt16
  valueLen : UInt16
  getter : Option Ptr
  setter : Option Ptr
  userData : Ptr

structure ParamData where
  valueLen : UInt16
  getter : Ptr
  setter : Option Ptr
  userData : Ptr
  deriving DecidableEq, Repr

abbrev HkMap := Finmap fun _ : UInt16 × UInt8 ↦ Ptr × Ptr

abbrev ParamMap := Finmap fun _ : UInt16 ↦ ParamData

def kindOf (diag : Bool) : UInt8 := if diag then pusService3KindDiag else pusService3KindHk

def HkCall.key (r : HkCall) : UInt16 × UInt8 := (r.sid, kindOf r.diag)

def HkCall.val (r : HkCall) : Option (Ptr × Ptr) := r.provider.map (·, r.userData)

def HkCall.exec (s : Ptr) (r : HkCall) : Pus cfg A Status :=
  if r.diag then pusService3RegisterDiag (some s) r.sid r.provider r.userData
  else pusService3RegisterHk (some s) r.sid r.provider r.userData

def ParamCall.val (r : ParamCall) : Option ParamData :=
  r.getter.map fun g ↦ ⟨r.valueLen, g, r.setter, r.userData⟩

def ParamCall.exec (s : Ptr) (r : ParamCall) : Pus cfg A Status :=
  pusService20RegisterParam (some s) r.paramId r.valueLen r.getter r.setter r.userData

def hkLayout : Layout HkEntry (UInt16 × UInt8) (Ptr × Ptr) where
  used e := e.isUsed
  key e := (e.sid, e.kind)
  val e := (e.provider, e.userData)

def paramLayout : Layout ParamEntry UInt16 ParamData where
  used e := e.isUsed
  key e := e.paramId
  val e := ⟨e.valueLen, e.getter, e.setter, e.userData⟩

def hkView (s : Ptr) (w : World cfg A) : Slots cfg.service3MaxStructures (UInt16 × UInt8)
    (Ptr × Ptr) :=
  hkLayout.slots (w.s3 s)

def paramView (s : Ptr) (w : World cfg A) : Slots cfg.service20MaxParams UInt16 ParamData :=
  paramLayout.slots (w.s20 s)

theorem hkMatches_tests (t : Service3Ctx cfg) (sid : UInt16) (kind : UInt8) :
    hkLayout.Tests t (hkMatches t sid kind) (sid, kind) := by
  intro i
  simp only [hkMatches, hkLayout, Bool.and_eq_true, beq_iff_eq, Prod.mk.injEq, and_assoc]

theorem paramMatches_tests (t : Service20Ctx cfg) (pid : UInt16) :
    paramLayout.Tests t (paramMatches t pid) pid := by
  intro i
  simp only [paramMatches, paramLayout, Bool.and_eq_true, beq_iff_eq]

/-- A pass over a table of records that ends in writing a record of key and value, into the slot of
the key or into a free one. -/
theorem Registers.of_scan {n : ℕ} {E : Type} {φ : Layout E K V} {k : K} {v : V}
    {f : Pus cfg A Status} (table : World cfg A → Fin n → E)
    (write : World cfg A → (Fin n → E) → World cfg A) (hit : (Fin n → E) → Fin n → Bool)
    (found : E → E) (fresh : E)
    (hwrite : ∀ w t, table (write w t) = t) (htests : ∀ t, φ.Tests t (hit t) k)
    (hfound : ∀ e, φ.used (found e) = φ.used e ∧ φ.key (found e) = φ.key e ∧ φ.val (found e) = v)
    (hfresh : φ.used fresh ∧ φ.key fresh = k ∧ φ.val fresh = v)
    (hf : ∀ w, f w =
      match scan (fun i ↦ φ.used (table w i)) (hit (table w)) with
      | .found i => ⟨.ok, write w (update (table w) i (found (table w i))), .nil⟩
      | .full => ⟨.tableFull, w, .nil⟩
      | .free i => ⟨.ok, write w (update (table w) i fresh), .nil⟩) :
    Registers (fun w ↦ φ.slots (table w)) f k (some v) := by
  constructor
  · intro w m h
    rw [hf]
    obtain ⟨hroom, i, hi, hput⟩ | ⟨hroom, hfull⟩ := (htests (table w)).scan_cases h v
    · rw [put, if_pos hroom]
      obtain ⟨hs, hmatch⟩ | hs := hi
      · obtain ⟨hused, hkey⟩ := (htests (table w) i).mp hmatch
        obtain ⟨hu, hk, hv⟩ := hfound (table w i)
        simp only [hs, hwrite]
        exact ⟨trivial, hput _ (hu.trans hused) (hk.trans hkey) hv⟩
      · obtain ⟨hu, hk, hv⟩ := hfresh
        simp only [hs, hwrite]
        exact ⟨trivial, hput _ hu hk hv⟩
    · rw [put, if_neg hroom]
      simp only [hfull]
      exact ⟨trivial, h⟩
  · intro w hne
    rw [hf] at hne ⊢
    cases hs : scan (fun i ↦ φ.used (table w i)) (hit (table w)) with
    | found i => exact absurd (by rw [hs]) hne
    | free i => exact absurd (by rw [hs]) hne
    | full => rfl

theorem registerStructure_registers (s : Ptr) (sid : UInt16) (kind : UInt8) (provider : Option Ptr)
    (userData : Ptr) :
    Registers (hkView s) (registerStructure (some s) sid kind provider userData : Pus cfg A Status)
      (sid, kind) (provider.map (·, userData)) := by
  cases provider with
  | none => exact ⟨fun _ _ h ↦ ⟨rfl, h⟩, fun _ _ ↦ rfl⟩
  | some p =>
    refine Registers.of_scan (fun w ↦ w.s3 s) (fun w t ↦ { w with s3 := update w.s3 s t })
      (fun t ↦ hkMatches t sid kind) (fun e ↦ { e with provider := p, userData := userData })
      ⟨sid, kind, p, userData, true⟩ (fun w t ↦ update_self ..)
      (fun t ↦ hkMatches_tests t sid kind) (fun e ↦ ⟨rfl, rfl, rfl⟩) ⟨rfl, rfl, rfl⟩ ?_
    intro w
    simp only [registerStructure, readS3_bind_apply, hkLayout]
    cases scan (fun i ↦ (w.s3 s i).isUsed) (hkMatches (w.s3 s) sid kind) <;> rfl

theorem registerParam_registers (s : Ptr) (pid valueLen : UInt16) (getter setter : Option Ptr)
    (userData : Ptr) :
    Registers (paramView s)
      (pusService20RegisterParam (some s) pid valueLen getter setter userData : Pus cfg A Status)
      pid (getter.map fun g ↦ ⟨valueLen, g, setter, userData⟩) := by
  cases getter with
  | none => exact ⟨fun _ _ h ↦ ⟨rfl, h⟩, fun _ _ ↦ rfl⟩
  | some g =>
    refine Registers.of_scan (fun w ↦ w.s20 s) (fun w t ↦ { w with s20 := update w.s20 s t })
      (fun t ↦ paramMatches t pid)
      (fun e ↦
        { e with valueLen := valueLen, getter := g, setter := setter, userData := userData })
      ⟨pid, valueLen, g, setter, userData, true⟩ (fun w t ↦ update_self ..)
      (fun t ↦ paramMatches_tests t pid) (fun e ↦ ⟨rfl, rfl, rfl⟩) ⟨rfl, rfl, rfl⟩ ?_
    intro w
    simp only [pusService20RegisterParam, readS20_bind_apply, paramLayout]
    cases scan (fun i ↦ (w.s20 s i).isUsed) (paramMatches (w.s20 s) pid) <;> rfl

theorem HkCall.registers (s : Ptr) (r : HkCall) :
    Registers (hkView s) (r.exec s : Pus cfg A Status) r.key r.val := by
  rw [HkCall.exec, HkCall.key, HkCall.val, kindOf]
  split
  · exact registerStructure_registers ..
  · exact registerStructure_registers ..

theorem ParamCall.registers (s : Ptr) (r : ParamCall) :
    Registers (paramView s) (r.exec s : Pus cfg A Status) r.paramId r.val :=
  registerParam_registers ..

inductive Registration
  | hk (r : HkCall)
  | param (r : ParamCall)

def Registration.exec (s₃ s₂₀ : Ptr) : Registration → Pus cfg A Status
  | .hk r => r.exec s₃
  | .param r => r.exec s₂₀

def registerEach (s₃ s₂₀ : Ptr) : List Registration → Pus cfg A (List Status)
  | [] => pure []
  | r :: rs => do
    let st ← r.exec s₃ s₂₀
    let sts ← registerEach s₃ s₂₀ rs
    pure (st :: sts)

def registerFromInit (s₃ s₂₀ : Ptr) (rs : List Registration) : Pus cfg A (List Status) := do
  let _ ← pusService3Init (some s₃)
  let _ ← pusService20Init (some s₂₀)
  registerEach s₃ s₂₀ rs

def hkEntries (rs : List Registration) : List ((UInt16 × UInt8) × Option (Ptr × Ptr)) :=
  rs.filterMap fun
    | .hk r => some (r.key, r.val)
    | .param _ => none

def paramEntries (rs : List Registration) : List (UInt16 × Option ParamData) :=
  rs.filterMap fun
    | .hk _ => none
    | .param r => some (r.paramId, r.val)

theorem HkCall.exec_s20 (s : Ptr) (r : HkCall) (w : World cfg A) :
    (r.exec s w).state.s20 = w.s20 := by
  have hstructure (kind : UInt8) : (registerStructure (some s) r.sid kind r.provider r.userData
      w).state.s20 = w.s20 := by
    cases hp : r.provider with
    | none => rfl
    | some p =>
      simp only [registerStructure, readS3_bind_apply]
      cases scan (fun i ↦ (w.s3 s i).isUsed) (hkMatches (w.s3 s) r.sid kind) <;> rfl
  rw [HkCall.exec]
  split
  · exact hstructure _
  · exact hstructure _

theorem ParamCall.exec_s3 (s : Ptr) (r : ParamCall) (w : World cfg A) :
    (r.exec s w).state.s3 = w.s3 := by
  rw [ParamCall.exec]
  cases hg : r.getter with
  | none => rfl
  | some g =>
    simp only [pusService20RegisterParam, readS20_bind_apply]
    cases scan (fun i ↦ (w.s20 s i).isUsed) (paramMatches (w.s20 s) r.paramId) <;> rfl

/-- Registrations of any length and in any order, as registrations into two maps. -/
theorem registerEach_refines (s₃ s₂₀ : Ptr) (rs : List Registration) (w : World cfg A) {m : HkMap}
    {m' : ParamMap} (h : Refines (hkView s₃ w) m) (h' : Refines (paramView s₂₀ w) m') :
    Refines (hkView s₃ (registerEach s₃ s₂₀ rs w).state)
        (putAll cfg.service3MaxStructures (hkEntries rs) m) ∧
      Refines (paramView s₂₀ (registerEach s₃ s₂₀ rs w).state)
        (putAll cfg.service20MaxParams (paramEntries rs) m') := by
  induction rs generalizing w m m' with
  | nil => exact ⟨h, h'⟩
  | cons r rs ih =>
    cases r with
    | hk r =>
      obtain ⟨-, href⟩ := (r.registers s₃).refines w m h
      have hkeep : Refines (paramView s₂₀ (r.exec s₃ w).state) m' := by
        rw [paramView, r.exec_s20 s₃ w]
        exact h'
      exact ih _ href hkeep
    | param r =>
      obtain ⟨-, href⟩ := (r.registers s₂₀).refines w m' h'
      have hkeep : Refines (hkView s₃ (r.exec s₂₀ w).state) m := by
        rw [hkView, r.exec_s3 s₂₀ w]
        exact h
      exact ih _ hkeep href

theorem registerFromInit_refines (s₃ s₂₀ : Ptr) (rs : List Registration) (w : World cfg A) :
    Refines (hkView s₃ (registerFromInit s₃ s₂₀ rs w).state)
        (putAll cfg.service3MaxStructures (hkEntries rs) ∅) ∧
      Refines (paramView s₂₀ (registerFromInit s₃ s₂₀ rs w).state)
        (putAll cfg.service20MaxParams (paramEntries rs) ∅) := by
  refine registerEach_refines s₃ s₂₀ rs _ ?_ ?_
  · have hs : hkLayout.slots (fun _ : Fin cfg.service3MaxStructures ↦ HkEntry.zero) =
        fun _ ↦ none := rfl
    rw [hkView]
    simp only [pusService3Init, pusService20Init, Prog.bind_state, writeS3_apply, writeS20_apply,
      Prog.pure_apply, update_self]
    rw [hs]
    exact .empty
  · have hs : paramLayout.slots (fun _ : Fin cfg.service20MaxParams ↦ ParamEntry.zero) =
        fun _ ↦ none := rfl
    rw [paramView]
    simp only [pusService3Init, pusService20Init, Prog.bind_state, writeS3_apply, writeS20_apply,
      Prog.pure_apply, update_self]
    rw [hs]
    exact .empty

/-- A registration with ST[03] changes the one table only. -/
theorem registerStructure_frame (s : Ptr) (sid : UInt16) (kind : UInt8) (provider : Option Ptr)
    (userData : Ptr) (w : World cfg A) :
    ∃ st t, registerStructure (some s) sid kind provider userData w =
      ⟨st, { w with s3 := update w.s3 s t }, .nil⟩ := by
  cases provider with
  | none => exact ⟨.null, w.s3 s, by rw [update_eq_self]; rfl⟩
  | some p =>
    simp only [registerStructure, readS3_bind_apply]
    cases scan (fun i ↦ (w.s3 s i).isUsed) (hkMatches (w.s3 s) sid kind) with
    | found i => exact ⟨_, _, rfl⟩
    | full => exact ⟨.tableFull, w.s3 s, by rw [update_eq_self]; rfl⟩
    | free i => exact ⟨_, _, rfl⟩

/-- A registration with ST[20] changes the one table only. -/
theorem registerParam_frame (s : Ptr) (pid valueLen : UInt16) (getter setter : Option Ptr)
    (userData : Ptr) (w : World cfg A) :
    ∃ st t, pusService20RegisterParam (some s) pid valueLen getter setter userData w =
      ⟨st, { w with s20 := update w.s20 s t }, .nil⟩ := by
  cases getter with
  | none => exact ⟨.null, w.s20 s, by rw [update_eq_self]; rfl⟩
  | some g =>
    simp only [pusService20RegisterParam, readS20_bind_apply]
    cases scan (fun i ↦ (w.s20 s i).isUsed) (paramMatches (w.s20 s) pid) with
    | found i => exact ⟨_, _, rfl⟩
    | full => exact ⟨.tableFull, w.s20 s, by rw [update_eq_self]; rfl⟩
    | free i => exact ⟨_, _, rfl⟩

theorem HkCall.frame (s : Ptr) (r : HkCall) (w : World cfg A) :
    ∃ st t, r.exec s w = ⟨st, { w with s3 := update w.s3 s t }, .nil⟩ := by
  rw [HkCall.exec]
  split
  · exact registerStructure_frame ..
  · exact registerStructure_frame ..

theorem ParamCall.frame (s : Ptr) (r : ParamCall) (w : World cfg A) :
    ∃ st t, r.exec s w = ⟨st, { w with s20 := update w.s20 s t }, .nil⟩ :=
  registerParam_frame ..

end EmbeddedPus
