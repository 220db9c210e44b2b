import EmbeddedPus.CounterRun
import EmbeddedPus.Library.Numbering

namespace EmbeddedPus

open CallTrace Numbering

variable {cfg : Config} {A α : Type} {c : Ptr} {w w' : World cfg A} {t : History cfg}

/-- Where in the run each of the packets heard was sent, as the ground works it out when the run
starts with the counter at `n`. -/
def placesHeard (n : UInt16) (heard : List (List UInt8)) : List ℕ :=
  locate 65536 0 (heard.map fun bytes ↦ ((tmSecHeaderOf bytes).msgTypeCounter - n).toNat)

theorem place_of_numbered (h : Numbered c True w t w') (hsink : (w.ctx c).tmSink ≠ none) {i : ℕ}
    {bytes : List UInt8} (hb : (delivered c t)[i]? = some bytes) :
    ((tmSecHeaderOf bytes).msgTypeCounter - (w.ctx c).tmCounter).toNat = i % 65536 := by
  rw [h.delivered trivial hsink] at hb
  have hn : (tmSecHeaderOf bytes).msgTypeCounter = (w.ctx c).tmCounter + UInt16.ofNat i :=
    (h.stamp_getElem? hb).1
  rw [hn, UInt16.add_comm, UInt16.add_sub_cancel, UInt16.toNat_ofNat']

theorem numbers_heard (h : Numbered c True w t w') (hsink : (w.ctx c).tmSink ≠ none)
    {is : List ℕ} {heard : List (List UInt8)}
    (hheard : is.map ((delivered c t)[·]?) = heard.map some) :
    (heard.map fun bytes ↦ ((tmSecHeaderOf bytes).msgTypeCounter - (w.ctx c).tmCounter).toNat) =
      is.map (· % 65536) := by
  induction is generalizing heard with
  | nil =>
    cases heard with
    | nil => rfl
    | cons bytes heard => cases hheard
  | cons i is ih =>
    cases heard with
    | nil => cases hheard
    | cons bytes heard =>
      obtain ⟨hb, hrest⟩ := List.cons.inj hheard
      rw [List.map_cons, List.map_cons, place_of_numbered h hsink hb, ih hrest]

/-- Whatever an application does and whatever of what it sends is heard: the ground finds the places
of the packets it has heard, and so all it has missed, exactly when it has missed fewer than 65536
in a row. -/
theorem losses_located {m : Pus cfg A α} (h : Run c True m) (w : World cfg A)
    (hsink : (w.ctx c).tmSink ≠ none) (is : List ℕ) (heard : List (List UInt8))
    (hheard : is.map ((delivered c (m w).trace)[·]?) = heard.map some) :
    placesHeard (w.ctx c).tmCounter heard = is ↔ Spaced 65536 0 is := by
  have hn : Numbered c True w (m w).trace (m w).state := h.numbers w
  rw [placesHeard, numbers_heard hn hsink hheard]
  exact locate_eq_iff (by decide)

theorem losses_located_threeCalls :
    let w := (pusInitWithConfig (some 0) (some ⟨0, 0, some 1, 0, some 2, 0⟩) (.cleared ())).state
    ∃ bytes, (delivered 0 (threeCalls w).trace)[1]? = some bytes ∧ placesHeard 0 [bytes] = [1] := by
  intro w
  have hrun : Run 0 True threeCalls :=
    .bind (.call_quiet _ fun _ ↦ rfl) fun _ ↦
      .bind (.call_quiet _ fun _ ↦ rfl) fun _ ↦ .call_quiet _ fun _ ↦ rfl
  have hlen : 1 < (delivered 0 (threeCalls w).trace).length := by decide +kernel
  have hb := List.getElem?_eq_getElem hlen
  have hspaced : Spaced 65536 0 [1] := .cons (by decide) (by decide) (.nil 2)
  have hiff := losses_located hrun w (by decide +kernel) [1] [_] (congrArg ([·]) hb)
  rw [pusInitWithConfig_tmCounter] at hiff
  exact ⟨_, hb, hiff.mpr hspaced⟩

end EmbeddedPus
