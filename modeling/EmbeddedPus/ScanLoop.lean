import EmbeddedPus.Registration
import EmbeddedPus.Library.ScanLoop

namespace EmbeddedPus

open CallTrace Function SlotTable WordLoop

variable {cfg : Config} {A : Type} {n : ℕ}

def paramRecords : Records ParamEntry UInt16 ParamData where
  toLayout := paramLayout
  hit e paramId := e.isUsed && e.paramId == paramId
  found v e :=
    { e with
      valueLen := v.valueLen
      getter := v.getter
      setter := v.setter
      userData := v.userData }
  fresh paramId v := ⟨paramId, v.valueLen, v.getter, v.setter, v.userData, true⟩
  hit_iff e paramId := by
    simp only [paramLayout, Bool.and_eq_true, beq_iff_eq]
  found_spec _ _ := ⟨rfl, rfl, rfl⟩
  fresh_spec _ _ := ⟨rfl, rfl, rfl⟩

def hkRecords : Records HkEntry (UInt16 × UInt8) (Ptr × Ptr) where
  toLayout := hkLayout
  hit e key := e.isUsed && e.sid == key.1 && e.kind == key.2
  found v e := { e with provider := v.1, userData := v.2 }
  fresh key v := ⟨key.1, key.2, v.1, v.2, true⟩
  hit_iff e key := by
    simp only [hkLayout, Bool.and_eq_true, beq_iff_eq, Prod.ext_iff, and_assoc]
  found_spec _ _ := ⟨rfl, rfl, rfl⟩
  fresh_spec _ _ := ⟨rfl, rfl, rfl⟩

/-- The width of `uint8_t i`, the index of every loop below. -/
abbrev indexWidth : ℕ := 8

def findParamLoop (params : Fin n → ParamEntry) (paramId : UInt16) : Loop n Unit (Option (Fin n)) :=
  paramRecords.find params paramId

def registerParamLoop (params : Fin n → ParamEntry) (paramId : UInt16) (v : ParamData) :
    Loop n (Option (Fin n)) (Status × (Fin n → ParamEntry)) :=
  paramRecords.register params paramId v .ok .tableFull

def findEntryLoop (structures : Fin n → HkEntry) (sid : UInt16) (kind : UInt8) :
    Loop n Unit (Option (Fin n)) :=
  hkRecords.find structures (sid, kind)

def registerStructureLoop (structures : Fin n → HkEntry) (sid : UInt16) (kind : UInt8)
    (provider userData : Ptr) : Loop n (Option (Fin n)) (Status × (Fin n → HkEntry)) :=
  hkRecords.register structures (sid, kind) (provider, userData) .ok .tableFull

/-- For the sizes that a configuration allows, the loops end with what the functions of the model
compute. -/
theorem findParam_endsOnce (t : Service20Ctx cfg) (pid : UInt16)
    (r : Option (Fin cfg.service20MaxParams)) :
    (findParamLoop t pid).EndsOnce indexWidth () r ↔ r = findParam t pid := by
  have hend : (findParamLoop t pid).EndsOnce indexWidth () (findParam t pid) :=
    Records.find_result cfg.params_lt
  constructor
  · exact fun h ↦ h.unique hend
  · rintro rfl
    exact hend

theorem findEntry_endsOnce (t : Service3Ctx cfg) (sid : UInt16) (kind : UInt8)
    (r : Option (Fin cfg.service3MaxStructures)) :
    (findEntryLoop t sid kind).EndsOnce indexWidth () r ↔ r = findEntry t sid kind := by
  have hend : (findEntryLoop t sid kind).EndsOnce indexWidth () (findEntry t sid kind) :=
    Records.find_result cfg.structures_lt
  constructor
  · exact fun h ↦ h.unique hend
  · rintro rfl
    exact hend

theorem registerParam_endsOnce (s : Ptr) (pid : UInt16) (v : ParamData) (w : World cfg A) :
    ∃ st t, (registerParamLoop (w.s20 s) pid v).EndsOnce indexWidth none (st, t) ∧
      pusService20RegisterParam (some s) pid v.valueLen (some v.getter) v.setter v.userData w =
        ⟨st, { w with s20 := update w.s20 s t }, .nil⟩ := by
  have hend : (registerParamLoop (w.s20 s) pid v).EndsOnce indexWidth none
      ((scan (fun i ↦ (w.s20 s i).isUsed) (paramMatches (w.s20 s) pid)).elim _ _ _) :=
    Records.register_result Status.ok Status.tableFull cfg.params_lt
  simp only [pusService20RegisterParam, readS20_bind_apply]
  cases hs : scan (fun i ↦ (w.s20 s i).isUsed) (paramMatches (w.s20 s) pid) with
  | found i =>
    rw [hs] at hend
    exact ⟨_, _, hend, rfl⟩
  | free i =>
    rw [hs] at hend
    exact ⟨_, _, hend, rfl⟩
  | full =>
    rw [hs] at hend
    refine ⟨_, _, hend, ?_⟩
    rw [update_eq_self]
    rfl

theorem registerStructure_endsOnce (s : Ptr) (sid : UInt16) (kind : UInt8) (provider userData : Ptr)
    (w : World cfg A) :
    ∃ st t,
      (registerStructureLoop (w.s3 s) sid kind provider userData).EndsOnce indexWidth none (st, t) ∧
      registerStructure (some s) sid kind (some provider) userData w =
        ⟨st, { w with s3 := update w.s3 s t }, .nil⟩ := by
  have hend : (registerStructureLoop (w.s3 s) sid kind provider userData).EndsOnce indexWidth none
      ((scan (fun i ↦ (w.s3 s i).isUsed) (hkMatches (w.s3 s) sid kind)).elim _ _ _) :=
    Records.register_result Status.ok Status.tableFull cfg.structures_lt
  simp only [registerStructure, readS3_bind_apply]
  cases hs : scan (fun i ↦ (w.s3 s i).isUsed) (hkMatches (w.s3 s) sid kind) with
  | found i =>
    rw [hs] at hend
    exact ⟨_, _, hend, rfl⟩
  | free i =>
    rw [hs] at hend
    exact ⟨_, _, hend, rfl⟩
  | full =>
    rw [hs] at hend
    refine ⟨_, _, hend, ?_⟩
    rw [update_eq_self]
    rfl

/-- The scan of a table of parameters for `paramId` ends: the index gets past the last slot, or
comes to a slot in use for `paramId` before it wraps. -/
def ParamReached (params : Fin n → ParamEntry) (paramId : UInt16) : Prop :=
  n ≤ 255 ∨ ∃ i : Fin n, i.val < 256 ∧ (params i).isUsed ∧ (params i).paramId = paramId

def EntryReached (structures : Fin n → HkEntry) (sid : UInt16) (kind : UInt8) : Prop :=
  n ≤ 255 ∨ ∃ i : Fin n, i.val < 256 ∧ (structures i).isUsed ∧ (structures i).sid = sid ∧
    (structures i).kind = kind

theorem paramReached_iff {params : Fin n → ParamEntry} {paramId : UInt16} :
    n < 2 ^ indexWidth ∨ paramRecords.Reached params paramId indexWidth ↔
      ParamReached params paramId := by
  have hhit (i : Fin n) : paramRecords.hit (params i) paramId ↔
      (params i).isUsed ∧ (params i).paramId = paramId := paramRecords.hit_iff _ _
  simp only [ParamReached, Records.Reached, hhit]
  exact or_congr_left Nat.lt_succ_iff

theorem entryReached_iff {structures : Fin n → HkEntry} {sid : UInt16} {kind : UInt8} :
    n < 2 ^ indexWidth ∨ hkRecords.Reached structures (sid, kind) indexWidth ↔
      EntryReached structures sid kind := by
  have hhit (i : Fin n) : hkRecords.hit (structures i) (sid, kind) ↔
      (structures i).isUsed ∧ (structures i).sid = sid ∧ (structures i).kind = kind := by
    rw [hkRecords.hit_iff]
    exact and_congr_right fun _ ↦ Prod.ext_iff
  simp only [EntryReached, Records.Reached, hhit]
  exact or_congr_left Nat.lt_succ_iff

/-- Whatever the size of the tables, each scan ends after having looked at no slot twice exactly
when its index gets past the last slot or comes to the key before it wraps, and a table serves as
many keys as it has slots exactly when these are at most 255. -/
theorem slot_scans_end_iff (n : ℕ) :
    (∀ (params : Fin n → ParamEntry) (paramId : UInt16),
      ((∃ r, (findParamLoop params paramId).EndsOnce indexWidth () r) ↔
        ParamReached params paramId) ∧
      ∀ v, (∃ r, (registerParamLoop params paramId v).EndsOnce indexWidth none r) ↔
        ParamReached params paramId) ∧
    (∀ (structures : Fin n → HkEntry) (sid : UInt16) (kind : UInt8),
      ((∃ r, (findEntryLoop structures sid kind).EndsOnce indexWidth () r) ↔
        EntryReached structures sid kind) ∧
      ∀ provider userData, (∃ r, (registerStructureLoop structures sid kind provider
        userData).EndsOnce indexWidth none r) ↔ EntryReached structures sid kind) ∧
    (paramRecords.Serves Status.ok Status.tableFull indexWidth n ↔ n ≤ 255) ∧
    (hkRecords.Serves Status.ok Status.tableFull indexWidth n ↔ n ≤ 255) := by
  refine ⟨fun params paramId ↦ ⟨?_, fun v ↦ ?_⟩,
    fun structures sid kind ↦ ⟨?_, fun provider userData ↦ ?_⟩, ?_, ?_⟩
  · exact Records.find_ends_iff.trans paramReached_iff
  · exact Records.register_ends_iff.trans paramReached_iff
  · exact Records.find_ends_iff.trans entryReached_iff
  · exact Records.register_ends_iff.trans entryReached_iff
  · exact (Records.serves_iff (0, ⟨0, 0, none, 0⟩) ParamEntry.zero rfl).trans Nat.lt_succ_iff
  · exact (Records.serves_iff ((0, 0), (0, 0)) HkEntry.zero rfl).trans Nat.lt_succ_iff

theorem first_param_never_registered :
    let params : Fin 256 → ParamEntry := fun _ ↦ .zero
    (∀ v, (registerParamLoop params 1 v).Diverges indexWidth none ∧
      ¬ ∃ r, (registerParamLoop params 1 v).EndsOnce indexWidth none r) ∧
    (findParamLoop params 1).Diverges indexWidth () ∧
      ¬ ∃ r, (findParamLoop params 1).EndsOnce indexWidth () r := by
  intro params
  have hmiss (i : Fin 256) : ¬ paramRecords.hit (params i) 1 := Bool.false_ne_true
  have hregister (v : ParamData) : (registerParamLoop params 1 v).Diverges indexWidth none :=
    Loop.diverges Records.register_leavesAt none le_rfl fun i _ ↦ hmiss i
  have hfind : (findParamLoop params 1).Diverges indexWidth () :=
    Loop.diverges Records.find_leavesAt () le_rfl fun i _ ↦ hmiss i
  exact ⟨fun v ↦ ⟨hregister v, fun ⟨r, hr⟩ ↦ (hregister v).not_endsOnce r hr⟩, hfind,
    fun ⟨r, hr⟩ ↦ hfind.not_endsOnce r hr⟩

end EmbeddedPus
