import McuPeripheral.Calls.Prog
import Mathlib.Data.List.Induction

/-!
# Environments, and clients that call an interface again and again

An environment restricts the replies a call may receive, and carries the state
those replies depend on. A session is a finite sequence of complete API calls by
one client against such an environment; the client may be held to a discipline
that depends on what it has done so far. The induction over sessions is stated
once, as `Session.invariant`.
-/

namespace Calls

universe u v

variable {C : Type u} {R : C → Type v} {σ : Type*}

/-- An environment: in state `s` it may answer a call as in event `e` and move to `s'`. -/
structure Env (C : Type u) (R : C → Type v) (σ : Type*) where
  /-- The permitted steps. -/
  step : σ → Event C R → σ → Prop

/-- The environment steps through a whole trace. -/
def Env.Run (env : Env C R σ) : σ → List (Event C R) → σ → Prop
  | s, [], s' => s' = s
  | s, e :: tr, s' => ∃ s₁, env.step s e s₁ ∧ env.Run s₁ tr s'

namespace Env

variable {env : Env C R σ} {s s' : σ}

/-- An empty trace leaves the state as it is. -/
@[simp] theorem run_nil : env.Run s [] s' ↔ s' = s := Iff.rfl

/-- A trace is run one event at a time. -/
@[simp] theorem run_cons {e : Event C R} {tr : List (Event C R)} :
    env.Run s (e :: tr) s' ↔ ∃ s₁, env.step s e s₁ ∧ env.Run s₁ tr s' := Iff.rfl

/-- A concatenation is run part by part. -/
theorem run_append {tr₁ tr₂ : List (Event C R)} :
    env.Run s (tr₁ ++ tr₂) s' ↔ ∃ s₁, env.Run s tr₁ s₁ ∧ env.Run s₁ tr₂ s' := by
  induction tr₁ generalizing s with
  | nil => simp
  | cons e tr₁ ih =>
    simp only [List.cons_append, run_cons, ih]
    constructor
    · rintro ⟨s₁, he, s₂, h₁, h₂⟩
      exact ⟨s₂, ⟨s₁, he, h₁⟩, h₂⟩
    · rintro ⟨s₂, ⟨s₁, he, h₁⟩, h₂⟩
      exact ⟨s₁, he, s₂, h₁, h₂⟩

/-- What every permitted step preserves is preserved by a whole trace. -/
theorem Run.preserves {I : σ → Prop} (hstep : ∀ s e s', I s → env.step s e s' → I s')
    {tr : List (Event C R)} (hrun : env.Run s tr s') (hI : I s) : I s' := by
  induction tr generalizing s with
  | nil =>
    obtain rfl := hrun
    exact hI
  | cons e tr ih =>
    obtain ⟨s₁, he, hrun⟩ := hrun
    exact ih hrun (hstep s e s₁ hI he)

/-- A run of a restricted environment is a run of the one it restricts. -/
theorem Run.mono {env' : Env C R σ} (hstep : ∀ s e s', env.step s e s' → env'.step s e s')
    {tr : List (Event C R)} (hrun : env.Run s tr s') : env'.Run s tr s' := by
  induction tr generalizing s with
  | nil => exact hrun
  | cons e tr ih =>
    obtain ⟨s₁, he, hrun⟩ := hrun
    exact ⟨s₁, hstep _ _ _ he, ih hrun⟩

end Env

variable {ι : Type*} {β : ι → Type v}

/-- One completed API call: the operation with its arguments, the external calls
it made and the value it returned. It carries the proof that the operation's
program really has this execution. -/
structure Invocation (prog : (i : ι) → Prog C R (β i)) where
  /-- The operation, arguments included. -/
  op : ι
  /-- The external calls it made, with their replies. -/
  trace : List (Event C R)
  /-- What it returned. -/
  result : β op
  /-- The operation's program has this execution. -/
  performed : (prog op).Path trace result

/-- The external calls of a whole history, in order. -/
def traceOf {prog : (i : ι) → Prog C R (β i)} (h : List (Invocation prog)) :
    List (Event C R) := h.flatMap (·.trace)

section Traces

variable {prog : (i : ι) → Prog C R (β i)}

@[simp] theorem traceOf_nil : traceOf ([] : List (Invocation prog)) = [] := rfl

@[simp] theorem traceOf_cons (i : Invocation prog) (h : List (Invocation prog)) :
    traceOf (i :: h) = i.trace ++ traceOf h := rfl

@[simp] theorem traceOf_append (h₁ h₂ : List (Invocation prog)) :
    traceOf (h₁ ++ h₂) = traceOf h₁ ++ traceOf h₂ := List.flatMap_append

end Traces

/-- The histories a client can produce from environment state `s₀`, with the
state each one ends in. `permits` is the discipline the client keeps to: which
operation it may call next, given its history. -/
inductive Session {prog : (i : ι) → Prog C R (β i)} (env : Env C R σ)
    (permits : List (Invocation prog) → ι → Prop) (s₀ : σ) :
    List (Invocation prog) → σ → Prop
  | start : Session env permits s₀ [] s₀
  | step {h : List (Invocation prog)} {s s' : σ} (i : Invocation prog) :
      Session env permits s₀ h s → permits h i.op → env.Run s i.trace s' →
      Session env permits s₀ (h ++ [i]) s'

namespace Session

variable {prog : (i : ι) → Prog C R (β i)} {env : Env C R σ}
  {permits : List (Invocation prog) → ι → Prop} {s₀ s : σ} {h : List (Invocation prog)}

/-- What holds at the start and is kept by every permitted API call holds after
every history. -/
theorem invariant {I : List (Invocation prog) → σ → Prop} (hsession : Session env permits s₀ h s)
    (hstart : I [] s₀)
    (hstep : ∀ h s i s', Session env permits s₀ h s → I h s → permits h i.op →
      env.Run s i.trace s' → I (h ++ [i]) s') : I h s := by
  induction hsession with
  | start => exact hstart
  | step i hs hp hrun ih => exact hstep _ _ i _ hs ih hp hrun

/-- The invariant rule for histories of which every call is known to be good. -/
theorem invariant_of_forall {good : Invocation prog → Prop} {I : List (Invocation prog) → σ → Prop}
    (hsession : Session env permits s₀ h s) (hgood : ∀ i ∈ h, good i) (hstart : I [] s₀)
    (hstep : ∀ h s i s', I h s → permits h i.op → good i → env.Run s i.trace s' →
      I (h ++ [i]) s') : I h s := by
  induction hsession with
  | start => exact hstart
  | step i hs hp hrun ih =>
    have hbefore := ih fun j hj => hgood j (List.mem_append_left _ hj)
    exact hstep _ _ i _ hbefore hp (hgood i (by simp)) hrun

/-- What every permitted API call has on its own, every call of a history has. -/
theorem forall_mem {P : Invocation prog → Prop} (hsession : Session env permits s₀ h s)
    (hcall : ∀ h s i s', permits h i.op → env.Run s i.trace s' → P i) : ∀ i ∈ h, P i := by
  refine hsession.invariant (I := fun h _ => ∀ i ∈ h, P i) (by simp) ?_
  intro h s i s' _ ih hp hrun j hj
  rcases List.mem_append.mp hj with hj | hj
  · exact ih j hj
  · obtain rfl := List.mem_singleton.mp hj
    exact hcall h s j s' hp hrun

/-- The last call of a history was permitted, and made behind the others. -/
theorem last {i : Invocation prog} (hsession : Session env permits s₀ (h ++ [i]) s) :
    permits h i.op ∧ ∃ s₁, Session env permits s₀ h s₁ ∧ env.Run s₁ i.trace s := by
  generalize hlast : h ++ [i] = h' at hsession
  cases hsession with
  | start => simp at hlast
  | step j hs hp hrun =>
    obtain ⟨rfl, heq⟩ := List.append_inj' hlast rfl
    obtain rfl := List.singleton_inj.mp heq
    exact ⟨hp, _, hs, hrun⟩

/-- A history was made part by part. -/
theorem split {pre post : List (Invocation prog)}
    (hsession : Session env permits s₀ (pre ++ post) s) :
    ∃ s₁, Session env permits s₀ pre s₁ ∧ env.Run s₁ (traceOf post) s := by
  induction post using List.reverseRecOn generalizing s with
  | nil => exact ⟨s, by simpa using hsession, rfl⟩
  | append_singleton post i ih =>
    rw [← List.append_assoc] at hsession
    obtain ⟨-, s₂, hs, hrun⟩ := hsession.last
    obtain ⟨s₁, hpre, hpost⟩ := ih hs
    refine ⟨s₁, hpre, ?_⟩
    rw [traceOf_append, traceOf_cons, traceOf_nil, List.append_nil]
    exact Env.run_append.mpr ⟨s₂, hpost, hrun⟩

/-- What a client did up to some point it could have done on its own. -/
theorem upTo {h' : List (Invocation prog)} (hsession : Session env permits s₀ h s)
    (hfront : h' <+: h) : ∃ s', Session env permits s₀ h' s' := by
  obtain ⟨rest, rfl⟩ := hfront
  obtain ⟨s', hupto, -⟩ := hsession.split
  exact ⟨s', hupto⟩

/-- Every call of a history was permitted when it was made. -/
theorem permitted {pre post : List (Invocation prog)} {i : Invocation prog}
    (hsession : Session env permits s₀ (pre ++ i :: post) s) : permits pre i.op := by
  have hfront : pre ++ [i] <+: pre ++ i :: post := ⟨post, by simp⟩
  obtain ⟨s', hupto⟩ := hsession.upTo hfront
  exact hupto.last.1

/-- What a client may do in a history, it may do in the front of it. -/
theorem permits_front {i : Invocation prog}
    (hpermits : ∀ pre j post, h ++ [i] = pre ++ j :: post → permits pre j.op) :
    ∀ pre j post, h = pre ++ j :: post → permits pre j.op := by
  intro pre j post heq
  exact hpermits pre j (post ++ [i]) (by simp [heq])

/-- A run through a history is a session, if the client may make each call of it. -/
theorem of_run (hpermits : ∀ pre i post, h = pre ++ i :: post → permits pre i.op)
    (hrun : env.Run s₀ (traceOf h) s) : Session env permits s₀ h s := by
  induction h using List.reverseRecOn generalizing s with
  | nil =>
    obtain rfl := hrun
    exact .start
  | append_singleton h i ih =>
    rw [traceOf_append, Env.run_append] at hrun
    obtain ⟨s₁, hfront, hlast⟩ := hrun
    rw [traceOf_cons, traceOf_nil, List.append_nil] at hlast
    exact .step i (ih (permits_front hpermits) hfront) (hpermits h i [] rfl) hlast

/-- A client that keeps to one discipline keeps to a weaker one. -/
theorem mono {permits' : List (Invocation prog) → ι → Prop}
    (hweaker : ∀ h k, permits h k → permits' h k) (hsession : Session env permits s₀ h s) :
    Session env permits' s₀ h s := by
  induction hsession with
  | start => exact .start
  | step i hs hp hrun ih => exact .step i ih (hweaker _ _ hp) hrun

end Session

end Calls
