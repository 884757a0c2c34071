import McuPeripheral.Calls.Host

/-!
# Environments that answer every call

An environment says which answers are possible, and there may be none. A responder chooses a
possible answer to every call in every state, so that every program has an execution against
it, and this execution can be computed.
-/

namespace Calls

universe u v w

variable {C : Type u} {R : C → Type v} {σ : Type*} {env : Env C R σ}

/-- A choice of an answer to every call. -/
structure Responder (env : Env C R σ) where
  /-- The answer. -/
  answer : σ → (c : C) → R c
  /-- The state after it. -/
  next : σ → C → σ
  /-- The environment may answer so. -/
  permitted : ∀ s c, env.step s ⟨c, answer s c⟩ (next s c)

/-- An execution of a program in an environment. -/
structure Played {α : Type w} (env : Env C R σ) (p : Prog C R α) (s : σ) where
  /-- The calls. -/
  trace : List (Event C R)
  /-- What the program returns. -/
  result : α
  /-- The state at the end. -/
  stop : σ
  /-- The program does this. -/
  performed : p.Path trace result
  /-- The environment answers so. -/
  run : env.Run s trace stop

namespace Responder

variable {α : Type w}

/-- The execution of a program against the responder. -/
def play (A : Responder env) : (p : Prog C R α) → (s : σ) → Played env p s
  | .pure a, s => ⟨[], a, s, ⟨rfl, rfl⟩, rfl⟩
  | .call c next, s =>
    let rest := A.play (next (A.answer s c)) (A.next s c)
    ⟨⟨c, A.answer s c⟩ :: rest.trace, rest.result, rest.stop, ⟨_, _, rfl, rest.performed⟩,
      ⟨_, A.permitted s c, rest.run⟩⟩

/-- What holds of every answer holds of every call of the execution. -/
theorem forall_mem_play (A : Responder env) {P : Event C R → Prop}
    (hanswer : ∀ s c, P ⟨c, A.answer s c⟩) (p : Prog C R α) (s : σ) :
    ∀ e ∈ (A.play p s).trace, P e := by
  induction p generalizing s with
  | pure a => exact List.forall_mem_nil _
  | call c next ih => exact List.forall_mem_cons.mpr ⟨hanswer s c, ih _ _⟩

/-- A responder for the library, around a tool. -/
def hosted (A : Responder env) : Responder env.hosted where
  answer
    | s, .api c => A.answer s c
    | _, .print .. | _, .usleep _ => ⟨⟩
  next
    | s, .api c => A.next s c
    | s, _ => s
  permitted
    | s, .api c => A.permitted s c
    | _, .print .. | _, .usleep _ => rfl

/-- What holds of every answer holds of every call of the library that the tool makes. -/
theorem forall_mem_apiCalls (A : Responder env) {P : Event C R → Prop}
    (hanswer : ∀ s c, P ⟨c, A.answer s c⟩) (p : Prog (HostCall C) (HostReply R) α) (s : σ) :
    ∀ e ∈ apiCalls (A.hosted.play p s).trace, P e := by
  intro e he
  obtain ⟨e', he', hlibrary⟩ := List.mem_filterMap.mp he
  have hall : ∀ e' ∈ (A.hosted.play p s).trace, ∀ e, ofHost e' = some e → P e := by
    refine A.hosted.forall_mem_play (fun s c => ?_) p s
    cases c with
    | api c =>
      intro e he
      obtain rfl := Option.some.inj he
      exact hanswer s c
    | print | usleep => nofun
  exact hall e' he' e hlibrary

end Responder

end Calls
