import Mathlib.Data.List.Chain
import Mathlib.Data.List.GetD

/-!
# Values shown only when they change

A display shows a value until a reading is far from it, and then shows that reading. What
counts as far is a parameter. The display never lags: the value it shows is never far from
the last reading. And it never flickers: a value shown anew is always far from the one shown
before.
-/

namespace Signals

variable {α : Type*} (far : α → α → Prop) [DecidableRel far]

/-- What is shown after one more reading. -/
def refresh (shown reading : α) : α := if far reading shown then reading else shown

/-- What is shown after several readings. -/
def shownAfter (shown : α) (readings : List α) : α := readings.foldl (refresh far) shown

/-- The readings that are shown anew, in their order. -/
def updates : α → List α → List α
  | _, [] => []
  | shown, r :: rs => if far r shown then r :: updates r rs else updates shown rs

variable {far} {shown : α} {readings : List α}

/-- One more reading. -/
theorem shownAfter_append_one (r : α) :
    shownAfter far shown (readings ++ [r]) = refresh far (shownAfter far shown readings) r := by
  simp [shownAfter]

/-- One more reading is shown anew if it is far from what is shown. -/
theorem updates_append_one (r : α) :
    updates far shown (readings ++ [r]) = updates far shown readings ++
      if far r (shownAfter far shown readings) then [r] else [] := by
  induction readings generalizing shown with
  | nil => rfl
  | cons s rs ih =>
    have hafter : shownAfter far shown (s :: rs) = shownAfter far (refresh far shown s) rs := rfl
    rw [hafter, refresh]
    by_cases hs : far s shown
    · simp only [List.cons_append, updates, if_pos hs, ih]
    · simp only [List.cons_append, updates, if_neg hs, ih]

/-- What is shown is the last reading that was shown anew. -/
theorem shownAfter_eq_getLastD :
    shownAfter far shown readings = (updates far shown readings).getLastD shown := by
  induction readings generalizing shown with
  | nil => rfl
  | cons r rs ih =>
    have hafter : shownAfter far shown (r :: rs) = shownAfter far (refresh far shown r) rs := rfl
    rw [hafter, ih, refresh, updates]
    split
    · rw [List.getLastD_cons]
    · rfl

/-- **No lag.** What is shown is not far from the last reading. -/
theorem not_far_shownAfter (hself : ∀ r, ¬far r r) (r : α) :
    ¬far r (shownAfter far shown (readings ++ [r])) := by
  rw [shownAfter_append_one, refresh]
  split
  · exact hself r
  · assumption

/-- **No flicker.** A reading that is shown anew is far from the one that was shown. -/
theorem isChain_updates :
    (shown :: updates far shown readings).IsChain fun before now => far now before := by
  induction readings generalizing shown with
  | nil => exact List.isChain_singleton shown
  | cons r rs ih =>
    rw [updates]
    split
    · rename_i hfar
      exact List.isChain_cons_cons.mpr ⟨hfar, ih⟩
    · exact ih

end Signals
