import EmbeddedPus.Library.WordLoop
import EmbeddedPus.Library.RecordTable

namespace SlotTable

open Function WordLoop

variable {w n : ℕ} {E K V R β : Type}

def findLoop (hit : Fin n → Bool) : Loop n Unit (Option (Fin n)) where
  body i _ := if hit i then .inr (some i) else .inl ()
  exit _ := none

/-- Go over the slots of a table until a used one is hit, and remember the first one not in use. -/
def registerLoop (used hit : Fin n → Bool) (onFound onFree : Fin n → β) (onFull : β) :
    Loop n (Option (Fin n)) β where
  body i firstFree :=
    if used i then
      if hit i then .inr (onFound i) else .inl firstFree
    else .inl (firstFree.or (some i))
  exit firstFree :=
    match firstFree with
    | none => onFull
    | some i => onFree i

def Slot.elim (onFound onFree : Fin n → β) (onFull : β) : Slot n → β
  | .found i => onFound i
  | .free i => onFree i
  | .full => onFull

theorem findLoop_leavesAt (hit : Fin n → Bool) : (findLoop hit).LeavesAt hit := by
  intro i s
  rw [findLoop]
  cases h : hit i <;> simp [h]

theorem registerLoop_leavesAt (used hit : Fin n → Bool) (onFound onFree : Fin n → β) (onFull : β) :
    (registerLoop used hit onFound onFree onFull).LeavesAt fun i ↦ used i && hit i := by
  intro i s
  rw [registerLoop]
  cases hu : used i <;> cases hh : hit i <;> simp [hu, hh]

theorem sweep_findLoop (hit : Fin n → Bool) :
    (findLoop hit).sweep (List.finRange n) () = Fin.find? hit := by
  rw [Fin.find?_eq_find?_finRange]
  induction List.finRange n with
  | nil => rfl
  | cons i is ih =>
    rw [Loop.sweep, List.find?_cons]
    cases h : hit i with
    | true => simp only [findLoop, h, if_true]
    | false =>
      simp only [findLoop, h, Bool.false_eq_true, if_false]
      exact ih

theorem sweep_registerLoop (used hit : Fin n → Bool) (onFound onFree : Fin n → β) (onFull : β) :
    (registerLoop used hit onFound onFree onFull).sweep (List.finRange n) none =
      (scan used hit).elim onFound onFree onFull := by
  rw [scan]
  generalize (none : Option (Fin n)) = firstFree
  induction List.finRange n generalizing firstFree with
  | nil => cases firstFree <;> rfl
  | cons i is ih =>
    rw [Loop.sweep, scanFrom]
    cases hu : used i with
    | false =>
      simp only [registerLoop, hu, Bool.false_eq_true, if_false]
      exact ih _
    | true =>
      cases hh : hit i with
      | true =>
        simp only [registerLoop, hu, hh, if_true]
        rfl
      | false =>
        simp only [registerLoop, hu, hh, if_true, Bool.false_eq_true, if_false]
        exact ih _

/-- A table of records that registers values under keys: the test that picks the records in use
under a key, what a registration makes of the record it finds there, and the record it puts into a
free slot. -/
structure Records (E K V : Type) extends Layout E K V where
  hit : E → K → Bool
  found : V → E → E
  fresh : K → V → E
  hit_iff : ∀ e k, hit e k ↔ used e ∧ key e = k
  found_spec : ∀ v e, used (found v e) = used e ∧ key (found v e) = key e ∧ val (found v e) = v
  fresh_spec : ∀ k v, used (fresh k v) ∧ key (fresh k v) = k ∧ val (fresh k v) = v

namespace Records

variable (ρ : Records E K V) (t : Fin n → E) (k : K) (v : V) (ok full : R)

/-- The record of a key is in use in one of the slots that an index of `w` bits can reach. -/
def Reached (w : ℕ) : Prop := ∃ i : Fin n, i.val < 2 ^ w ∧ ρ.hit (t i) k

def find : Loop n Unit (Option (Fin n)) := findLoop fun i ↦ ρ.hit (t i) k

def register : Loop n (Option (Fin n)) (R × (Fin n → E)) :=
  registerLoop (fun i ↦ ρ.used (t i)) (fun i ↦ ρ.hit (t i) k)
    (fun i ↦ (ok, update t i (ρ.found v (t i)))) (fun i ↦ (ok, update t i (ρ.fresh k v))) (full, t)

def Accepts (w : ℕ) (t : Fin n → E) : List (K × V) → (Fin n → E) → Prop
  | [], t' => t' = t
  | e :: es, t' => ∃ t₁, (ρ.register t e.1 e.2 ok full).EndsOnce w none (ok, t₁) ∧
      Accepts w t₁ es t'

/-- What a table of `n` slots owes its users once `es` are registered and it has become `t`: the
keys are found with their values, no other key is, and a full table refuses one more. -/
structure Answers (w : ℕ) (es : List (K × V)) (t : Fin n → E) : Prop where
  found : ∀ e ∈ es, ∃ i, (ρ.find t e.1).EndsOnce w () (some i) ∧ ρ.val (t i) = e.2
  unknown : ∀ k, k ∉ es.map Prod.fst → (ρ.find t k).EndsOnce w () none
  refuses : es.length = n → ∀ k v, k ∉ es.map Prod.fst →
    (ρ.register t k v ok full).EndsOnce w none (full, t)

def Serves (w n : ℕ) : Prop :=
  ∀ (t : Fin n → E) (es : List (K × V)), (∀ i, ρ.used (t i) = false) → es.length ≤ n →
    (es.map Prod.fst).Nodup →
      ∃ t', ρ.Accepts ok full w t es t' ∧ ρ.Answers ok full w es t'

variable {ρ t k v ok full}

theorem tests : ρ.Tests t (fun i ↦ ρ.hit (t i) k) k := fun i ↦ ρ.hit_iff (t i) k

theorem find_leavesAt : (ρ.find t k).LeavesAt fun i ↦ ρ.hit (t i) k := findLoop_leavesAt _

theorem register_leavesAt :
    (ρ.register t k v ok full).LeavesAt fun i ↦ ρ.hit (t i) k := by
  have hboth : (fun i ↦ ρ.used (t i) && ρ.hit (t i) k) = fun i ↦ ρ.hit (t i) k := by
    funext i
    cases hh : ρ.hit (t i) k with
    | false => rw [Bool.and_false]
    | true => rw [((ρ.hit_iff _ _).mp hh).1, Bool.and_true]
  rw [← hboth]
  exact registerLoop_leavesAt _ _ _ _ _

theorem find_ends_iff :
    (∃ r, (ρ.find t k).EndsOnce w () r) ↔ n < 2 ^ w ∨ ρ.Reached t k w :=
  Loop.endsOnce_iff find_leavesAt ()

theorem register_ends_iff :
    (∃ r, (ρ.register t k v ok full).EndsOnce w none r) ↔ n < 2 ^ w ∨ ρ.Reached t k w :=
  Loop.endsOnce_iff register_leavesAt none

theorem find_result (hn : n < 2 ^ w) :
    (ρ.find t k).EndsOnce w () (Fin.find? fun i ↦ ρ.hit (t i) k) := by
  rw [← sweep_findLoop]
  exact Loop.endsOnce_sweep find_leavesAt () (.inl hn)

variable (ok full) in
theorem register_result (hn : n < 2 ^ w) :
    (ρ.register t k v ok full).EndsOnce w none
      ((scan (fun i ↦ ρ.used (t i)) fun i ↦ ρ.hit (t i) k).elim
        (fun i ↦ (ok, update t i (ρ.found v (t i)))) (fun i ↦ (ok, update t i (ρ.fresh k v)))
        (full, t)) := by
  rw [← sweep_registerLoop]
  exact Loop.endsOnce_sweep register_leavesAt none (.inl hn)

section capacity

variable [DecidableEq K] {m : Finmap fun _ : K ↦ V} {es : List (K × V)}

theorem find_lookup (hn : n < 2 ^ w) (href : Refines (ρ.slots t) m) :
    ∃ r, (ρ.find t k).EndsOnce w () r ∧ m.lookup k = r.map fun i ↦ ρ.val (t i) := by
  refine ⟨_, find_result hn, ?_⟩
  rw [← href.lookup_eq, (tests (k := k)).lookup]

variable (ok full) in
theorem register_accepted (hn : n < 2 ^ w) (href : Refines (ρ.slots t) m) (hk : k ∉ m)
    (hroom : m.keys.card < n) :
    ∃ t', (ρ.register t k v ok full).EndsOnce w none (ok, t') ∧
      Refines (ρ.slots t') (m.insert k v) := by
  have hend := register_result (ρ := ρ) (t := t) (k := k) (v := v) ok full hn
  obtain ⟨-, i, hi, hput⟩ | ⟨hno, -⟩ := (tests (ρ := ρ) (k := k)).scan_cases href v
  · obtain ⟨hs, hhit⟩ | hs := hi
    · obtain ⟨hu, hkey⟩ := (ρ.hit_iff _ _).mp hhit
      exact absurd (href.mem_iff.mpr ⟨i, _, Layout.slots_eq_some.mpr ⟨hu, hkey, rfl⟩⟩) hk
    · obtain ⟨hu, hkey, hval⟩ := ρ.fresh_spec k v
      rw [hs] at hend
      exact ⟨_, hend, hput _ hu hkey hval⟩
  · exact absurd (.inr hroom) hno

theorem register_refused (hn : n < 2 ^ w) (href : Refines (ρ.slots t) m) (hk : k ∉ m)
    (hfull : m.keys.card = n) : (ρ.register t k v ok full).EndsOnce w none (full, t) := by
  have hend := register_result (ρ := ρ) (t := t) (k := k) (v := v) ok full hn
  obtain ⟨hroom, -⟩ | ⟨-, hs⟩ := (tests (ρ := ρ) (k := k)).scan_cases href v
  · exact absurd hroom (not_or.mpr ⟨hk, hfull.not_lt⟩)
  · rw [hs] at hend
    exact hend

/-- New keys are registered as long as there is room, and the table becomes a picture of the map
that has their entries besides the old ones. -/
theorem accepts (hn : n < 2 ^ w) (href : Refines (ρ.slots t) m)
    (hnew : ∀ k ∈ es.map Prod.fst, k ∉ m) (hnodup : (es.map Prod.fst).Nodup)
    (hroom : m.keys.card + es.length ≤ n) :
    ∃ t' m', ρ.Accepts ok full w t es t' ∧ Refines (ρ.slots t') m' ∧
      m'.keys.card = m.keys.card + es.length ∧ (∀ e ∈ es, m'.lookup e.1 = some e.2) ∧
      ∀ k, k ∉ es.map Prod.fst → m'.lookup k = m.lookup k := by
  induction es generalizing t m with
  | nil => exact ⟨t, m, rfl, href, rfl, List.forall_mem_nil _, fun _ _ ↦ rfl⟩
  | cons e es ih =>
    rw [List.map_cons, List.nodup_cons] at hnodup
    rw [List.map_cons, List.forall_mem_cons] at hnew
    rw [List.length_cons] at hroom
    obtain ⟨t₁, hend, href₁⟩ := register_accepted (v := e.2) ok full hn href hnew.1 (by omega)
    have hcard := card_insert_of_not_mem e.2 hnew.1
    have hnew₁ : ∀ k ∈ es.map Prod.fst, k ∉ m.insert e.1 e.2 := by
      intro k hk hmem
      obtain rfl | hmem := Finmap.mem_insert.mp hmem
      · exact hnodup.1 hk
      · exact hnew.2 k hk hmem
    obtain ⟨t', m', hacc, href', hcard', hfound, hother⟩ := ih href₁ hnew₁ hnodup.2 (by omega)
    refine ⟨t', m', ⟨t₁, hend, hacc⟩, href', ?_, ?_, ?_⟩
    · rw [hcard', hcard, List.length_cons]
      omega
    · refine List.forall_mem_cons.mpr ⟨?_, hfound⟩
      rw [hother _ hnodup.1, Finmap.lookup_insert]
    · intro k hk
      rw [List.map_cons, List.mem_cons, not_or] at hk
      rw [hother k hk.2, Finmap.lookup_insert_of_ne _ hk.1]

theorem answers (hn : n < 2 ^ w) (href : Refines (ρ.slots t) m) (hcard : m.keys.card = es.length)
    (hfound : ∀ e ∈ es, m.lookup e.1 = some e.2)
    (hother : ∀ k, k ∉ es.map Prod.fst → m.lookup k = none) : ρ.Answers ok full w es t where
  found e he := by
    obtain ⟨r, hend, hr⟩ := find_lookup (k := e.1) hn href
    rw [hfound e he] at hr
    obtain ⟨i, rfl, hi⟩ := Option.map_eq_some_iff.mp hr.symm
    exact ⟨i, hend, hi⟩
  unknown k hk := by
    obtain ⟨r, hend, hr⟩ := find_lookup (k := k) hn href
    rw [hother k hk] at hr
    rw [Option.map_eq_none_iff.mp hr.symm] at hend
    exact hend
  refuses hlen k v hk :=
    register_refused hn href (Finmap.lookup_eq_none.mp (hother k hk)) (hcard.trans hlen)

/-- A table serves as many keys as it has slots exactly when the index of its loops can get past the
last slot. -/
theorem serves_iff (e : K × V) (u : E) (hu : ρ.used u = false) :
    ρ.Serves ok full w n ↔ n < 2 ^ w := by
  constructor
  · intro h
    by_contra hn
    have hpos := Nat.two_pow_pos w
    obtain ⟨t', ⟨t₁, hend, -⟩, -⟩ := h (fun _ ↦ u) [e] (fun _ ↦ hu)
      (by rw [List.length_singleton]; omega) (List.nodup_singleton _)
    obtain hlt | ⟨i, -, hi⟩ := register_ends_iff.mp ⟨_, hend⟩
    · exact hn hlt
    · have hused := ((ρ.hit_iff _ _).mp hi).1
      rw [hu] at hused
      exact Bool.false_ne_true hused
  · intro hn t es hempty hlen hnodup
    have hslots : ρ.slots t = fun _ ↦ none := by
      funext i
      rw [Layout.slots, if_neg]
      rw [hempty i]
      exact Bool.false_ne_true
    have href : Refines (ρ.slots t) ∅ := hslots ▸ .empty
    have hcard : (∅ : Finmap fun _ : K ↦ V).keys.card = 0 := by
      rw [Finmap.keys_empty, Finset.card_empty]
    obtain ⟨t', m', hacc, href', hcard', hfound, hother⟩ := accepts hn href
      (fun _ _ ↦ Finmap.notMem_empty) hnodup (by omega)
    refine ⟨t', hacc, answers hn href' (by omega) hfound fun k hk ↦ ?_⟩
    rw [hother k hk, Finmap.lookup_empty]

end capacity

end Records

end SlotTable
