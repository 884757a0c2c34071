import McuPeripheral.Calls.Session

/-!
# Monitors

A monitor reads a trace event by event and refuses it at the first event that is out
of order. If every API call takes the monitor from its state of rest back to it or is
refused, then a history is in order exactly if each of its calls is.
-/

namespace Calls

universe u v

variable {C : Type u} {R : C → Type v} {σ : Type*}

/-- A deterministic observer of traces; `none` refuses the event. -/
structure Monitor (C : Type u) (R : C → Type v) (σ : Type*) where
  /-- The state after an event that is in order. -/
  step : σ → Event C R → Option σ

namespace Monitor

variable (M : Monitor C R σ)

/-- The state after a trace all of whose events are in order. -/
def run : σ → List (Event C R) → Option σ
  | s, [] => some s
  | s, e :: tr => (M.step s e).bind fun s' => run s' tr

@[simp] theorem run_nil (s : σ) : M.run s [] = some s := rfl

@[simp] theorem run_cons (s : σ) (e : Event C R) (tr : List (Event C R)) :
    M.run s (e :: tr) = (M.step s e).bind fun s' => M.run s' tr := rfl

/-- A concatenated trace is observed part by part. -/
theorem run_append (s : σ) (tr₁ tr₂ : List (Event C R)) :
    M.run s (tr₁ ++ tr₂) = (M.run s tr₁).bind fun s' => M.run s' tr₂ := by
  induction tr₁ generalizing s with
  | nil => rfl
  | cons e tr₁ ih => simp only [List.cons_append, run_cons, ih, Option.bind_assoc]

/-- The trace either takes the monitor back to rest or is refused, and the first exactly where
`good` holds. -/
def Decides (rest : σ) (tr : List (Event C R)) (good : Prop) : Prop :=
  (M.run rest tr = some rest ∨ M.run rest tr = none) ∧ (M.run rest tr = some rest ↔ good)

variable {M} in
/-- A trace that takes the monitor back to rest, where `good` holds. -/
theorem Decides.of_rest {rest : σ} {tr : List (Event C R)} {good : Prop}
    (hrest : M.run rest tr = some rest) (hgood : good) : M.Decides rest tr good :=
  ⟨Or.inl hrest, iff_of_true hrest hgood⟩

variable {ι : Type*} {β : ι → Type v} {prog : (i : ι) → Prog C R (β i)} {rest : σ}
  {h : List (Invocation prog)}

/-- A history takes the monitor back to rest exactly if every one of its calls does. -/
theorem run_traceOf_iff {good : Invocation prog → Prop}
    (hcalls : ∀ i ∈ h, M.Decides rest i.trace (good i)) :
    M.run rest (traceOf h) = some rest ↔ ∀ i ∈ h, good i := by
  induction h with
  | nil => simp [traceOf]
  | cons i h ih =>
    obtain ⟨hrun | hrun, hgood⟩ := hcalls i List.mem_cons_self
    · have hhead : good i := hgood.mp hrun
      rw [traceOf_cons, run_append, hrun, Option.bind_some,
        ih fun j hj => hcalls j (List.mem_cons_of_mem _ hj), List.forall_mem_cons]
      exact (and_iff_right hhead).symm
    · rw [traceOf_cons, run_append, hrun]
      refine iff_of_false nofun fun hall => ?_
      rw [hgood.mpr (hall i List.mem_cons_self)] at hrun
      cases hrun

/-- Calls that each return to rest make up a history that returns to rest. -/
theorem run_traceOf (hcalls : ∀ i ∈ h, M.run rest i.trace = some rest) :
    M.run rest (traceOf h) = some rest := by
  have hdecides : ∀ i ∈ h, M.Decides rest i.trace True :=
    fun i hi => .of_rest (hcalls i hi) trivial
  exact (M.run_traceOf_iff hdecides).mpr fun _ _ => trivial

end Monitor

end Calls
