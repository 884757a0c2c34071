import McuPeripheral.Calls.Prog

/-!
# Loops that run until they stop

A loop `while (1)` with a `break` is embedded as its first rounds, for every number of them:
it has stopped within these rounds, or it goes on from some state. What a round preserves
holds after any number of them.
-/

namespace Calls

universe u v w

variable {C : Type u} {R : C → Type v} {σ α : Type w} {body : σ → Prog C R (σ ⊕ α)}

/-- At most `n` rounds: the state the loop goes on from, or what it stopped with. -/
def loop (body : σ → Prog C R (σ ⊕ α)) : ℕ → σ → Prog C R (σ ⊕ α)
  | 0, s => return .inl s
  | n + 1, s => do
    match ← body s with
    | .inl s' => loop body n s'
    | .inr a => return .inr a

/-- What every round preserves holds after any number of rounds, and what the last round
establishes holds when the loop has stopped. The invariant may speak of the number of rounds
made and of the trace so far. -/
theorem loop_invariant {I : ℕ → σ → List (Event C R) → Prop}
    {Q : ℕ → α → List (Event C R) → Prop}
    (hgoes : ∀ k s tr tr' s', I k s tr → (body s).Path tr' (.inl s') → I (k + 1) s' (tr ++ tr'))
    (hstops : ∀ k s tr tr' a, I k s tr → (body s).Path tr' (.inr a) → Q (k + 1) a (tr ++ tr'))
    {n k : ℕ} {s : σ} {tr tr' : List (Event C R)} {r : σ ⊕ α} (hI : I k s tr)
    (hpath : (loop body n s).Path tr' r) :
    (∀ s', r = .inl s' → I (k + n) s' (tr ++ tr')) ∧
      ∀ a, r = .inr a → ∃ m ≤ k + n, Q m a (tr ++ tr') := by
  induction n generalizing k s tr tr' with
  | zero =>
    obtain ⟨rfl, rfl⟩ := hpath
    rw [List.append_nil]
    constructor
    · intro s' h
      obtain rfl := Sum.inl.inj h
      exact hI
    · intro a h
      cases h
  | succ n ih =>
    obtain ⟨tr₁, r₁, tr₂, rfl, hbody, hrest⟩ := Prog.path_bind.mp hpath
    cases r₁ with
    | inl s₁ =>
      rw [← List.append_assoc, show k + (n + 1) = k + 1 + n by omega]
      exact ih (hgoes k s tr tr₁ s₁ hI hbody) hrest
    | inr a =>
      obtain ⟨rfl, rfl⟩ := hrest
      rw [List.append_nil]
      constructor
      · intro s' h
        cases h
      · intro a' h
        obtain rfl := Sum.inr.inj h
        exact ⟨k + 1, by omega, hstops k s tr tr₁ a hI hbody⟩

end Calls
