import McuPeripheral.Calls.Session
import Mathlib.Logic.Function.Basic

/-!
# Threads that share an environment

Several threads make their calls against one environment, which sees them in some order. A
division says how the shared state is made of one state for each thread, and what a call may
do so that it acts on the part of its own thread only. Threads that keep to such calls each
see, in every order of their calls, a run of an environment that they have to themselves.
-/

namespace Calls

universe u v

variable {C : Type u} {R : C → Type v} {σ τ ι : Type*}

/-- The calls of one thread, out of the calls of all of them. -/
def ownTrace [DecidableEq ι] (i : ι) (calls : List (ι × Event C R)) : List (Event C R) :=
  calls.filterMap fun c => if c.1 = i then some c.2 else none

section OwnTrace

variable [DecidableEq ι] {i j : ι} {e : Event C R} {calls : List (ι × Event C R)}

@[simp] theorem ownTrace_cons_self : ownTrace i ((i, e) :: calls) = e :: ownTrace i calls := by
  simp [ownTrace]

/-- The calls of a thread are in order. -/
theorem ownTrace_append {front back : List (ι × Event C R)} :
    ownTrace i (front ++ back) = ownTrace i front ++ ownTrace i back := List.filterMap_append

/-- The calls of the other threads are left out. -/
theorem ownTrace_cons_of_ne (h : j ≠ i) : ownTrace i ((j, e) :: calls) = ownTrace i calls := by
  simp [ownTrace, h]

end OwnTrace

/-- Whatever the environment answers along the trace, each call of it is in order in the state
it is made in. -/
def Env.Guards (env : Env C R τ) (ok : τ → Event C R → Prop) : τ → List (Event C R) → Prop
  | _, [] => True
  | t, e :: tr => ok t e ∧ ∀ t', env.step t e t' → env.Guards ok t' tr

namespace Env

variable {env env' : Env C R τ} {ok : τ → Event C R → Prop} {t : τ} {tr tr' : List (Event C R)}
  {κ : Type*} {β : κ → Type v}

/-- What is guarded in an environment is guarded in a more restricted one. -/
theorem Guards.mono (hstep : ∀ t e t', env'.step t e t' → env.step t e t')
    (h : env.Guards ok t tr) : env'.Guards ok t tr := by
  induction tr generalizing t with
  | nil => trivial
  | cons e tr ih => exact ⟨h.1, fun t' ht => ih (h.2 t' (hstep t e t' ht))⟩

/-- A trace is guarded part by part. -/
theorem guards_append : env.Guards ok t (tr ++ tr') ↔
    env.Guards ok t tr ∧ ∀ t', env.Run t tr t' → env.Guards ok t' tr' := by
  induction tr generalizing t with
  | nil => exact ⟨fun h => ⟨trivial, fun _ ht => ht ▸ h⟩, fun h => h.2 t rfl⟩
  | cons e tr ih =>
    constructor
    · rintro ⟨hok, hrest⟩
      refine ⟨⟨hok, fun t₁ ht => (ih.mp (hrest t₁ ht)).1⟩, ?_⟩
      rintro t' ⟨t₁, ht, hrun⟩
      exact (ih.mp (hrest t₁ ht)).2 t' hrun
    · rintro ⟨⟨hok, hrest⟩, hbehind⟩
      exact ⟨hok, fun t₁ ht => ih.mpr ⟨hrest t₁ ht, fun t' hrun => hbehind t' ⟨t₁, ht, hrun⟩⟩⟩

/-- The front of a guarded trace is guarded. -/
theorem Guards.upTo (h : env.Guards ok t tr') (hfront : tr <+: tr') :
    env.Guards ok t tr := by
  obtain ⟨rest, rfl⟩ := hfront
  exact (guards_append.mp h).1

/-- A history is guarded if each call of it is, whatever state the calls before it led to. -/
theorem guards_traceOf {prog : (k : κ) → Prog C R (β k)}
    {permits : List (Invocation prog) → κ → Prop} {h : List (Invocation prog)}
    (hpermits : ∀ pre i post, h = pre ++ i :: post → permits pre i.op)
    (hcalls : ∀ pre (i : Invocation prog) t', Session env permits t pre t' → permits pre i.op →
      env.Guards ok t' i.trace) : env.Guards ok t (traceOf h) := by
  induction h using List.reverseRecOn with
  | nil => trivial
  | append_singleton h i ih =>
    have hfront := Session.permits_front hpermits
    rw [traceOf_append, guards_append]
    refine ⟨ih hfront, fun t' hrun => ?_⟩
    rw [traceOf_cons, traceOf_nil, List.append_nil]
    exact hcalls h i t' (.of_run hfront hrun) (hpermits h i [] rfl)

end Env

/-- How a shared environment is divided between threads that each could have one to
themselves. -/
structure Division (ι : Type*) [DecidableEq ι] (env : Env C R σ) (solo : Env C R τ) where
  /-- The shared state is made of these states, one for each thread. -/
  madeOf : σ → (ι → τ) → Prop
  /-- The call keeps to the part of the thread, whose state is this one. -/
  keeps : ι → τ → Event C R → Prop
  /-- A call that keeps to the part of its thread could be made there alone, and leaves the
  parts of the other threads as they are. -/
  step : ∀ s t i e s', madeOf s t → keeps i (t i) e → env.step s e s' →
    ∃ t', solo.step (t i) e t' ∧ madeOf s' (Function.update t i t')

/-- **Isolation.** If every thread keeps to its part while it has the environment to itself,
then in every order of the calls each thread sees a run that it could have had to itself. -/
theorem Division.isolated [DecidableEq ι] {env : Env C R σ} {solo : Env C R τ}
    (D : Division ι env solo) {s s' : σ} {t : ι → τ} {calls : List (ι × Event C R)}
    (hmade : D.madeOf s t) (hkeeps : ∀ i, solo.Guards (D.keeps i) (t i) (ownTrace i calls))
    (hrun : env.Run s (calls.map Prod.snd) s') :
    ∃ t', (∀ i, solo.Run (t i) (ownTrace i calls) (t' i)) ∧ D.madeOf s' t' := by
  induction calls generalizing s t with
  | nil =>
    obtain rfl := hrun
    exact ⟨t, fun _ => rfl, hmade⟩
  | cons c calls ih =>
    obtain ⟨i, e⟩ := c
    obtain ⟨s₁, hstep, hrun⟩ := hrun
    have hown := hkeeps i
    rw [ownTrace_cons_self] at hown
    obtain ⟨t₁, hsolo, hmade₁⟩ := D.step s t i e s₁ hmade hown.1 hstep
    have hkeeps₁ : ∀ j, solo.Guards (D.keeps j) (Function.update t i t₁ j) (ownTrace j calls) := by
      intro j
      by_cases hj : j = i
      · subst hj
        rw [Function.update_self]
        exact hown.2 t₁ hsolo
      · have hother := hkeeps j
        rwa [ownTrace_cons_of_ne (Ne.symm hj), ← Function.update_of_ne hj t₁ t] at hother
    obtain ⟨t', hruns, hmade'⟩ := ih hmade₁ hkeeps₁ hrun
    refine ⟨t', fun j => ?_, hmade'⟩
    have hj := hruns j
    by_cases hij : j = i
    · subst hij
      rw [Function.update_self] at hj
      rw [ownTrace_cons_self]
      exact ⟨t₁, hsolo, hj⟩
    · rwa [Function.update_of_ne hij, ← ownTrace_cons_of_ne (e := e) (Ne.symm hij)] at hj

/-! ## Threads with a discipline -/

section Clients

variable {κ : Type*} {β : κ → Type v} [DecidableEq ι]

/-- Threads that each make API calls by a discipline, up to some point in some order of all the
external calls these make. -/
structure Threads (prog : (k : κ) → Prog C R (β k)) (env : Env C R σ)
    (permits : ι → List (Invocation prog) → κ → Prop) (s₀ s : σ) where
  /-- The API calls of each thread. -/
  histories : ι → List (Invocation prog)
  /-- The external calls so far, each with the thread that made it. -/
  calls : List (ι × Event C R)
  /-- No thread has got further than its history. -/
  progress : ∀ i, ownTrace i calls <+: traceOf (histories i)
  /-- Each thread may make the API calls of its history. -/
  permitted : ∀ i pre inv post, histories i = pre ++ inv :: post → permits i pre inv.op
  /-- The environment gave these answers. -/
  run : env.Run s₀ (calls.map Prod.snd) s

namespace Threads

variable {prog : (k : κ) → Prog C R (β k)} {env : Env C R σ}
  {permits : ι → List (Invocation prog) → κ → Prop} {s₀ s : σ} {solo : Env C R τ} {t t' : τ} {i : ι}

/-- The thread has come to the end of its history. -/
def Finished (w : Threads prog env permits s₀ s) (i : ι) : Prop :=
  ownTrace i w.calls = traceOf (w.histories i)

/-- The threads had to come to any earlier point first. -/
theorem upTo (w : Threads prog env permits s₀ s) {front back : List (ι × Event C R)}
    (hcalls : w.calls = front ++ back) : ∃ (s' : σ) (w' : Threads prog env permits s₀ s'),
      w'.histories = w.histories ∧ w'.calls = front := by
  have hrun := w.run
  rw [hcalls, List.map_append, Env.run_append] at hrun
  obtain ⟨s', hfront, -⟩ := hrun
  refine ⟨s', ⟨w.histories, front, fun i => ?_, w.permitted, hfront⟩, rfl, rfl⟩
  refine List.IsPrefix.trans ?_ (w.progress i)
  rw [hcalls, ownTrace_append]
  exact List.prefix_append _ _

/-- What a thread has done is guarded, if each API call of it is. -/
theorem guards {ok : τ → Event C R → Prop} (w : Threads prog env permits s₀ s)
    (hcalls : ∀ pre (inv : Invocation prog) t', Session solo (permits i) t pre t' →
      permits i pre inv.op → solo.Guards ok t' inv.trace) : solo.Guards ok t (ownTrace i w.calls) :=
  (Env.guards_traceOf (w.permitted i) hcalls).upTo (w.progress i)

/-- A thread that has finished had the session it could have had alone. -/
theorem session (w : Threads prog env permits s₀ s) (hfinished : w.Finished i)
    (hrun : solo.Run t (ownTrace i w.calls) t') :
    Session solo (permits i) t (w.histories i) t' := by
  rw [hfinished] at hrun
  exact .of_run (w.permitted i) hrun

/-- An API call that has returned was made after such a session. -/
theorem session_call (w : Threads prog env permits s₀ s) {pre post : List (Invocation prog)}
    {inv : Invocation prog} (hsplit : w.histories i = pre ++ inv :: post)
    (hreturned : traceOf (pre ++ [inv]) <+: ownTrace i w.calls)
    (hrun : solo.Run t (ownTrace i w.calls) t') :
    ∃ t₁ t₂, Session solo (permits i) t pre t₁ ∧ solo.Run t₁ inv.trace t₂ := by
  obtain ⟨rest, hrest⟩ := hreturned
  rw [← hrest, Env.run_append, traceOf_append, traceOf_cons, traceOf_nil, List.append_nil] at hrun
  obtain ⟨t₂, hfront, -⟩ := hrun
  obtain ⟨t₁, hbefore, hcall⟩ := Env.run_append.mp hfront
  refine ⟨t₁, t₂, .of_run (fun pre' j post' heq => ?_) hbefore, hcall⟩
  exact w.permitted i pre' j (post' ++ inv :: post) (by rw [hsplit, heq]; simp)

end Threads

end Clients

end Calls
