import McuPeripheral.Calls.Session
import Mathlib.Algebra.BigOperators.Group.List.Basic
import Mathlib.Algebra.Ring.Nat
import Mathlib.Data.List.Infix
import Mathlib.Data.List.Range

/-!
# Readers of a source

A source is an unbounded sequence of values that a reader takes from the front. `slice` is
what a reader gets that starts at some position; slices taken one after the other without a
gap make up one slice. A reader that takes values from a source in several goes may use up
more of the source than it returns. It reads faithfully if and only if nothing is used up
beyond what is returned, except after the last go, where no later one can notice.
-/

namespace Calls

section Slices

variable {α : Type*} (source : ℕ → α)

/-- The `count` values from `position` on. -/
def slice (position count : ℕ) : List α := (List.range count).map fun i => source (position + i)

@[simp] theorem slice_zero (position : ℕ) : slice source position 0 = [] := rfl

@[simp] theorem length_slice (position count : ℕ) :
    (slice source position count).length = count := by simp [slice]

/-- Two slices without a gap between them. -/
theorem slice_append (position m n : ℕ) :
    slice source position m ++ slice source (position + m) n = slice source position (m + n) := by
  simp [slice, List.range_add, Nat.add_assoc, Function.comp_def]

/-- The front of a slice. -/
theorem take_slice {position m n : ℕ} (h : m ≤ n) :
    (slice source position n).take m = slice source position m := by
  rw [show n = m + (n - m) by omega, ← slice_append]
  exact List.take_left' (length_slice source position m)

end Slices

variable {α : Type*}

/-- One go of a reader. -/
structure Taking (α : Type*) where
  /-- How many values were asked for. -/
  size : ℕ
  /-- The values returned. -/
  data : List α
  /-- How many values of the source were used up. -/
  used : ℕ

/-- From `position` on, each go returns the values of the source from where the one before
it stopped, as many as were asked for. -/
def Takes (source : ℕ → α) : ℕ → List (Taking α) → Prop
  | _, [] => True
  | position, t :: ts =>
    t.data = slice source position t.size ∧ Takes source (position + t.used) ts

/-- All the values that were asked for. -/
def asked (ts : List (Taking α)) : ℕ := (ts.map Taking.size).sum

/-- All the values that were used up. -/
def usedUp (ts : List (Taking α)) : ℕ := (ts.map Taking.used).sum

/-- The reader consumes exactly what it returns: the returned values are the front of the
source, and before each go nothing was used up that had not been returned. -/
structure ConsumesExactly (source : ℕ → α) (ts : List (Taking α)) : Prop where
  /-- The values returned are the front of the source. -/
  data : ts.flatMap Taking.data = slice source 0 (asked ts)
  /-- Nothing is lost between two goes. -/
  noLoss : ∀ pre t post, ts = pre ++ t :: post → usedUp pre = asked pre

/-- The slices of the source in the given sizes, one after the other. -/
def slices (source : ℕ → α) : ℕ → List ℕ → List (List α)
  | _, [] => []
  | position, n :: ns => slice source position n :: slices source (position + n) ns

/-- Slices without a gap between them make up one slice. -/
theorem flatten_slices (source : ℕ → α) (position : ℕ) (sizes : List ℕ) :
    (slices source position sizes).flatten = slice source position sizes.sum := by
  induction sizes generalizing position with
  | nil => rfl
  | cons n ns ih =>
    rw [slices, List.flatten_cons, ih, slice_append, List.sum_cons]

section Takes

variable {source : ℕ → α} {position : ℕ} {t : Taking α} {ts pre post : List (Taking α)}

/-- One more go starts where the others stopped. -/
theorem takes_append_one : Takes source position (ts ++ [t]) ↔
    Takes source position ts ∧ t.data = slice source (position + usedUp ts) t.size := by
  induction ts generalizing position with
  | nil => simp [Takes, usedUp]
  | cons u ts ih => simp [Takes, ih, usedUp, Nat.add_assoc, and_assoc]

/-- If only the last go uses up more than it returns, the goes return consecutive slices. -/
theorem Takes.data_eq (h : Takes source position ts) (hexact : ∀ t ∈ ts.dropLast, t.used = t.size) :
    ts.map Taking.data = slices source position (ts.map Taking.size) := by
  induction ts generalizing position with
  | nil => rfl
  | cons t ts ih =>
    obtain ⟨hdata, hrest⟩ := h
    cases ts with
    | nil => simp [slices, hdata]
    | cons u ts =>
      rw [List.dropLast_cons_cons] at hexact
      have hused : t.used = t.size := hexact t List.mem_cons_self
      rw [hused] at hrest
      have htail := ih hrest fun v hv => hexact v (List.mem_cons_of_mem _ hv)
      rw [List.map_cons, htail, hdata]
      rfl

/-- Where each go uses up what it returns, the totals agree. -/
theorem usedUp_eq_asked (h : ∀ t ∈ ts, t.used = t.size) : usedUp ts = asked ts := by
  unfold usedUp asked
  rw [List.map_congr_left h]

/-- What stands before another go is not the last one. -/
theorem mem_dropLast_of_append {u : Taking α} (ht : t ∈ pre) :
    t ∈ (pre ++ u :: post).dropLast := by
  rw [List.dropLast_append_of_ne_nil (List.cons_ne_nil u post)]
  exact List.mem_append_left _ ht

/-- **Faithful reading.** A reader consumes exactly what it returns if and only if each of its
goes but the last does. -/
theorem Takes.consumesExactly_iff (h : Takes source 0 ts) :
    ConsumesExactly source ts ↔ ∀ t ∈ ts.dropLast, t.used = t.size := by
  constructor
  · intro hexact t ht
    obtain ⟨pre, mid, hsplit⟩ := List.append_of_mem ht
    have hne : ts ≠ [] := by
      rintro rfl
      cases ht
    have hts : ts = pre ++ t :: (mid ++ [ts.getLast hne]) := by
      calc ts = ts.dropLast ++ [ts.getLast hne] := (List.dropLast_append_getLast hne).symm
        _ = pre ++ t :: (mid ++ [ts.getLast hne]) := by simp [hsplit]
    have hbefore : usedUp pre = asked pre := hexact.noLoss pre t _ hts
    -- the go behind `t` shows that nothing was lost up to and including `t`
    obtain ⟨u, post, htail⟩ : ∃ u post, mid ++ [ts.getLast hne] = u :: post :=
      List.exists_cons_of_ne_nil (by simp)
    rw [htail] at hts
    have hupto : usedUp (pre ++ [t]) = asked (pre ++ [t]) :=
      hexact.noLoss (pre ++ [t]) u post (by simpa using hts)
    simp only [usedUp, asked, List.map_append, List.map_singleton, List.sum_append,
      List.sum_singleton] at hbefore hupto
    omega
  · intro hexact
    refine ⟨?_, ?_⟩
    · rw [List.flatMap_def, h.data_eq hexact, flatten_slices]
      rfl
    · rintro pre t post rfl
      exact usedUp_eq_asked fun u hu => hexact u (mem_dropLast_of_append hu)

/-- Two readers of one source that are asked for the same sizes and consume exactly what they
return get the same values in every go. -/
theorem Takes.same_data {ts' : List (Taking α)} (h : Takes source 0 ts) (h' : Takes source 0 ts')
    (hexact : ConsumesExactly source ts) (hexact' : ConsumesExactly source ts')
    (hsizes : ts.map Taking.size = ts'.map Taking.size) :
    ts.map Taking.data = ts'.map Taking.data := by
  rw [h.data_eq (h.consumesExactly_iff.mp hexact), h'.data_eq (h'.consumesExactly_iff.mp hexact'),
    hsizes]

end Takes

section Sessions

universe u v

variable {C : Type u} {R : C → Type v} {σ ι : Type*} {β : ι → Type v}
  {prog : (i : ι) → Prog C R (β i)} {env : Env C R σ}
  {permits : List (Invocation prog) → ι → Prop} {s₀ s : σ} {h : List (Invocation prog)}
  {source : ℕ → α}

/-- Calls that each read from where the source stands, and leave it where they stopped, make up
the goes of one reader. -/
theorem takes_session (position : σ → ℕ) (taking : Invocation prog → Taking α)
    (good : Invocation prog → Prop) (hsession : Session env permits s₀ h s)
    (hgood : ∀ i ∈ h, good i) (hstart : position s₀ = 0)
    (hcall : ∀ h i s s', permits h i.op → good i → env.Run s i.trace s' →
      (taking i).data = slice source (position s) (taking i).size ∧
        position s' = position s + (taking i).used) :
    Takes source 0 (h.map taking) := by
  have hinvariant : Takes source 0 (h.map taking) ∧ position s = usedUp (h.map taking) := by
    refine hsession.invariant_of_forall (I := fun h s =>
      Takes source 0 (h.map taking) ∧ position s = usedUp (h.map taking)) hgood ?_ ?_
    · exact ⟨trivial, hstart⟩
    · rintro h s i s' ⟨htakes, hposition⟩ hpermits hgood hrun
      obtain ⟨hdata, hmoved⟩ := hcall h i s s' hpermits hgood hrun
      rw [List.map_append, List.map_singleton]
      refine ⟨takes_append_one.mpr ⟨htakes, ?_⟩, ?_⟩
      · rw [hdata, hposition, Nat.zero_add]
      · rw [hmoved, hposition]
        simp [usedUp]
  exact hinvariant.1

end Sessions

end Calls
