import McuPeripheral.Calls.Session
import Mathlib.Logic.Function.Basic

/-!
# Registers that calls read and write

A device with registers that are written one at a time. What the registers hold after some
writes is decided by the last write to each. If every call of a client writes the register
it asks for, or none when it fails, then the registers hold what some of the writes of its
history, in their order, left in them; if no call fails, then it is all of them. The device
keeps a log of the writes that reach it, so that it shows which ones were made.
-/

namespace Calls

universe u v

section Written

variable {κ V : Type*} [DecidableEq κ] {content : κ → V} {ws ws' : List (κ × V)} {r : κ} {v : V}

/-- What the registers hold after these writes. -/
def written (content : κ → V) (ws : List (κ × V)) : κ → V :=
  ws.foldl (fun content w => Function.update content w.1 w.2) content

/-- Writes are made one part after the other. -/
@[simp] theorem written_append :
    written content (ws ++ ws') = written (written content ws) ws' := List.foldl_append

/-- One write updates its register. -/
@[simp] theorem written_singleton {w : κ × V} :
    written content [w] = Function.update content w.1 w.2 := rfl

/-- A register that is not written keeps its content. -/
theorem written_of_forall_ne (h : ∀ w ∈ ws, w.1 ≠ r) : written content ws r = content r := by
  induction ws generalizing content with
  | nil => rfl
  | cons w ws ih =>
    have hne : r ≠ w.1 := (h w List.mem_cons_self).symm
    calc written content (w :: ws) r = written (Function.update content w.1 w.2) ws r := rfl
      _ = Function.update content w.1 w.2 r := ih fun w' hw' => h w' (List.mem_cons_of_mem _ hw')
      _ = content r := Function.update_of_ne hne w.2 content

/-- A register holds what was written to it last. -/
theorem written_last (h : ∀ w ∈ ws', w.1 ≠ r) :
    written content (ws ++ (r, v) :: ws') r = v := by
  rw [written_append]
  calc written (written content ws) ((r, v) :: ws') r =
      written (Function.update (written content ws) r v) ws' r := rfl
    _ = Function.update (written content ws) r v r := written_of_forall_ne h
    _ = v := Function.update_self ..

/-- What a register holds was there before, or was written. -/
theorem written_eq_or_mem : written content ws r = content r ∨ (r, written content ws r) ∈ ws := by
  induction ws generalizing content with
  | nil => exact Or.inl rfl
  | cons w ws ih =>
    have hcons : written content (w :: ws) = written (Function.update content w.1 w.2) ws := rfl
    rw [hcons]
    obtain hkept | hwritten := @ih (Function.update content w.1 w.2)
    · rw [hkept]
      by_cases hr : r = w.1
      · right
        rw [hr, Function.update_self]
        exact List.mem_cons_self
      · exact Or.inl (Function.update_of_ne hr ..)
    · exact Or.inr (List.mem_cons_of_mem _ hwritten)

/-- Registers that are each written once hold what was written. -/
theorem written_of_mem (hnodup : (ws.map Prod.fst).Nodup) (h : (r, v) ∈ ws) :
    written content ws r = v := by
  obtain ⟨before, behind, rfl⟩ := List.append_of_mem h
  refine written_last fun w hw hr => ?_
  rw [List.map_append, List.map_cons, List.nodup_append] at hnodup
  exact (List.nodup_cons.mp hnodup.2.1).1 (List.mem_map.mpr ⟨w, hw, hr⟩)

end Written

/-- Between two states exactly these writes were made: the log has them, and the registers hold
what they left. -/
structure Made {σ κ V : Type*} [DecidableEq κ] (content : σ → κ → V) (log : σ → List (κ × V))
    (s : σ) (ws : List (κ × V)) (s' : σ) : Prop where
  /-- They were logged. -/
  log : log s' = log s ++ ws
  /-- The registers hold what they left. -/
  content : content s' = written (content s) ws

namespace Made

variable {σ κ V : Type*} [DecidableEq κ] {content : σ → κ → V} {log : σ → List (κ × V)}
  {s s' s'' : σ} {ws ws' : List (κ × V)}

/-- No write was made where nothing happened. -/
theorem nil : Made content log s [] s := ⟨(List.append_nil _).symm, rfl⟩

/-- Writes are made one part after the other. -/
theorem append (h : Made content log s ws s') (h' : Made content log s' ws' s'') :
    Made content log s (ws ++ ws') s'' :=
  ⟨by rw [h'.log, h.log, List.append_assoc], by rw [h'.content, h.content, written_append]⟩

end Made

/-! ## Accesses -/

/-- An access to one register. -/
inductive Access (κ V : Type*)
  | read (r : κ)
  | write (r : κ) (v : V)
  deriving DecidableEq, Repr

namespace Access

variable {κ V : Type*} {content : κ → V}

/-- The write that is asked for. -/
def toWrite : Access κ V → Option (κ × V)
  | .read _ => none
  | .write r v => some (r, v)

/-- What a read should return. -/
def answer (content : κ → V) : Access κ V → Option V
  | .read r => some (content r)
  | .write _ _ => none

/-- The writes among several accesses. -/
def writes (accesses : List (Access κ V)) : List (κ × V) := accesses.filterMap toWrite

/-- The writes up to and including one more access. -/
theorem writes_append_one (accesses : List (Access κ V)) (a : Access κ V) :
    writes (accesses ++ [a]) = writes accesses ++ a.toWrite.toList := by
  cases a <;> simp [writes, toWrite]

variable [DecidableEq κ]

/-- What several accesses should return: each read what its register holds by then. -/
def answers (content : κ → V) : List (Access κ V) → List (Option V)
  | [] => []
  | a :: accesses => a.answer content :: answers (written content a.toWrite.toList) accesses

/-- One more access finds what the writes before it have left. -/
theorem answers_append_one (accesses : List (Access κ V)) (a : Access κ V) :
    answers content (accesses ++ [a]) =
      answers content accesses ++ [a.answer (written content (writes accesses))] := by
  induction accesses generalizing content with
  | nil => rfl
  | cons b accesses ih =>
    have hwrites : writes (b :: accesses) = b.toWrite.toList ++ writes accesses := by
      cases b <;> rfl
    rw [List.cons_append, answers, ih, hwrites, written_append]
    rfl

end Access

/-! ## Sessions -/

section Sessions

variable {C : Type u} {R : C → Type v} {σ ι κ V : Type*} {β : ι → Type v} [DecidableEq κ]
  {prog : (i : ι) → Prog C R (β i)} {env : Env C R σ}
  {permits : List (Invocation prog) → ι → Prop} {s₀ s : σ} {h : List (Invocation prog)}
  (content : σ → κ → V) (log : σ → List (κ × V)) (access : ι → Access κ V) (ready : σ → Prop)

/-- The accesses that a history asks for. -/
def accesses (h : List (Invocation prog)) : List (Access κ V) := h.map fun i => access i.op

omit [DecidableEq κ] in
/-- What a history asks to be written, and then one more call. -/
theorem writes_accesses_append_one (h : List (Invocation prog)) (i : Invocation prog) :
    Access.writes (accesses access (h ++ [i])) =
      Access.writes (accesses access h) ++ (access i.op).toWrite.toList := by
  rw [accesses, List.map_append]
  exact Access.writes_append_one _ _

/-- **Failing writes.** If a call makes the write it asks for, or none, then a history makes some
of the writes it asks for, each once and in their order. -/
theorem Session.made_sublist (hsession : Session env permits s₀ h s) (hstart : ready s₀)
    (hcall : ∀ (i : Invocation prog) s s', ready s → env.Run s i.trace s' → ready s' ∧
      (Made content log s [] s' ∨ Made content log s (access i.op).toWrite.toList s')) :
    ready s ∧ ∃ ws, ws.Sublist (Access.writes (accesses access h)) ∧
      Made content log s₀ ws s := by
  refine hsession.invariant (I := fun h s => ready s ∧ ∃ ws,
    ws.Sublist (Access.writes (accesses access h)) ∧ Made content log s₀ ws s) ?_ ?_
  · exact ⟨hstart, [], List.nil_sublist _, .nil⟩
  · rintro h s i s' - ⟨hready, ws, hsub, hmade⟩ - hrun
    obtain ⟨hready', hstep⟩ := hcall i s s' hready hrun
    rw [writes_accesses_append_one]
    refine ⟨hready', ?_⟩
    obtain hnone | hmakes := hstep
    · have hsame := hmade.append hnone
      rw [List.append_nil] at hsame
      exact ⟨ws, hsub.trans (List.sublist_append_left _ _), hsame⟩
    · exact ⟨ws ++ (access i.op).toWrite.toList, hsub.append (List.Sublist.refl _),
        hmade.append hmakes⟩

/-- **Registers that are faithful.** If every call makes the access it asks for, then all the
writes are made, and every read returns what was last written to its register. -/
theorem Session.answers_eq {good : Invocation prog → Prop}
    (returned : Invocation prog → Option V) (hsession : Session env permits s₀ h s)
    (hgood : ∀ i ∈ h, good i) (hstart : ready s₀)
    (hcall : ∀ (i : Invocation prog) s s', good i → ready s → env.Run s i.trace s' → ready s' ∧
      Made content log s (access i.op).toWrite.toList s' ∧
        returned i = (access i.op).answer (content s)) :
    ready s ∧ Made content log s₀ (Access.writes (accesses access h)) s ∧
      h.map returned = Access.answers (content s₀) (accesses access h) := by
  refine hsession.invariant_of_forall (I := fun h s => ready s ∧
    Made content log s₀ (Access.writes (accesses access h)) s ∧
      h.map returned = Access.answers (content s₀) (accesses access h)) hgood
    ⟨hstart, .nil, rfl⟩ ?_
  rintro h s i s' ⟨hready, hmade, hanswers⟩ - hi hrun
  obtain ⟨hready', hwrote, hreturned⟩ := hcall i s s' hi hready hrun
  have haccesses : accesses access (h ++ [i]) = accesses access h ++ [access i.op] := by
    rw [accesses, List.map_append]
    rfl
  refine ⟨hready', ?_, ?_⟩
  · rw [writes_accesses_append_one]
    exact hmade.append hwrote
  · rw [haccesses, Access.answers_append_one, List.map_append, hanswers, ← hmade.content,
      ← hreturned]
    rfl

end Sessions

end Calls
