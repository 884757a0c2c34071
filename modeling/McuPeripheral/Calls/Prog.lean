import Mathlib.Logic.Equiv.Basic

/-!
# Programs over an interface of external calls

A C function that calls into a kernel or a device library is embedded as a
finite tree: each node is one external call, and its branches are the replies
that call may give. A path through the tree is one execution, with the calls
and their replies recorded in order. An environment says which replies are
possible in which state; nothing here fixes an interface or an environment.
-/

namespace Calls

universe u v w

/-- An external call together with the reply it received. -/
structure Event (C : Type u) (R : C → Type v) where
  /-- The call that was made. -/
  call : C
  /-- The reply to it. -/
  reply : R call

/-- A terminating program that interacts with the outside only by calls in `C`
and their replies in `R`. -/
inductive Prog (C : Type u) (R : C → Type v) (α : Type w) : Type (max u v w)
  | pure (a : α)
  | call (c : C) (next : R c → Prog C R α)

namespace Prog

variable {C : Type u} {R : C → Type v}

/-- Run one program and continue with its result. -/
protected def bind {α β : Type w} : Prog C R α → (α → Prog C R β) → Prog C R β
  | .pure a, f => f a
  | .call c next, f => .call c fun r => (next r).bind f

instance : Monad (Prog C R) where
  pure := .pure
  bind := Prog.bind

/-- The program that makes one call and returns its reply. -/
def ask (c : C) : Prog C R (R c) := .call c .pure

@[simp] theorem pure_bind' {α β : Type w} (a : α) (f : α → Prog C R β) :
    (Prog.pure a >>= f) = f a := rfl

@[simp] theorem call_bind {α β : Type w} (c : C) (next : R c → Prog C R α)
    (f : α → Prog C R β) : (Prog.call c next >>= f) = .call c fun r => next r >>= f := rfl

instance : LawfulMonad (Prog C R) := LawfulMonad.mk' (Prog C R)
  (fun p => by
    induction p with
    | pure a => rfl
    | call c next ih => exact congrArg (Prog.call c) (funext ih))
  (fun _ _ => rfl)
  (fun p f g => by
    induction p with
    | pure a => rfl
    | call c next ih => exact congrArg (Prog.call c) (funext ih))

/-- One execution of a program: the calls it makes with their replies, and the
value it returns. Any reply of the right type is allowed here. -/
def Path {α : Type w} : Prog C R α → List (Event C R) → α → Prop
  | .pure a, tr, b => tr = [] ∧ b = a
  | .call c next, tr, b => ∃ r tr', tr = ⟨c, r⟩ :: tr' ∧ (next r).Path tr' b

/-- A returned value has the empty trace. -/
@[simp] theorem path_pure {α : Type w} {a b : α} {tr : List (Event C R)} :
    (Pure.pure a : Prog C R α).Path tr b ↔ tr = [] ∧ b = a := Iff.rfl

/-- A single call has a one-event trace, and its reply is the result. -/
@[simp] theorem path_ask {c : C} {r : R c} {tr : List (Event C R)} :
    (ask c : Prog C R (R c)).Path tr r ↔ tr = [⟨c, r⟩] := by
  constructor
  · rintro ⟨_, _, rfl, rfl, rfl⟩
    rfl
  · rintro rfl
    exact ⟨r, [], rfl, rfl, rfl⟩

/-- A sequence splits its trace between its two parts. -/
theorem path_bind {α β : Type w} {p : Prog C R α} {f : α → Prog C R β}
    {tr : List (Event C R)} {b : β} :
    (p >>= f).Path tr b ↔
      ∃ tr₁ a tr₂, tr = tr₁ ++ tr₂ ∧ p.Path tr₁ a ∧ (f a).Path tr₂ b := by
  induction p generalizing tr with
  | pure a =>
    constructor
    · exact fun h => ⟨[], a, tr, rfl, ⟨rfl, rfl⟩, h⟩
    · rintro ⟨_, _, _, rfl, ⟨rfl, rfl⟩, h⟩
      exact h
  | call c next ih =>
    constructor
    · rintro ⟨r, tr', rfl, h⟩
      obtain ⟨tr₁, a, tr₂, rfl, hp, hf⟩ := ih r |>.mp h
      exact ⟨⟨c, r⟩ :: tr₁, a, tr₂, rfl, ⟨r, tr₁, rfl, hp⟩, hf⟩
    · rintro ⟨_, a, tr₂, rfl, ⟨r, tr₁, rfl, hp⟩, hf⟩
      exact ⟨r, tr₁ ++ tr₂, rfl, ih r |>.mpr ⟨tr₁, a, tr₂, rfl, hp, hf⟩⟩

/-- A call in front of a sequence is the first event of its trace. -/
@[simp] theorem path_ask_bind {β : Type v} {c : C} {f : R c → Prog C R β}
    {tr : List (Event C R)} {b : β} :
    (ask c >>= f).Path tr b ↔ ∃ r tr', tr = ⟨c, r⟩ :: tr' ∧ (f r).Path tr' b := Iff.rfl

/-- A pure function of the result leaves the trace alone. -/
@[simp] theorem path_map {α β : Type w} {p : Prog C R α} {f : α → β} {tr : List (Event C R)}
    {b : β} : (f <$> p).Path tr b ↔ ∃ a, p.Path tr a ∧ b = f a := by
  rw [map_eq_pure_bind, path_bind]
  constructor
  · rintro ⟨_, a, _, rfl, hp, rfl, rfl⟩
    exact ⟨a, by simpa using hp, rfl⟩
  · rintro ⟨a, hp, rfl⟩
    exact ⟨tr, a, [], by simp, hp, rfl, rfl⟩

/-- A conditional follows the branch its test selects. -/
@[simp] theorem path_ite {α : Type w} {c : Prop} [Decidable c] {p q : Prog C R α}
    {tr : List (Event C R)} {b : α} :
    (if c then p else q).Path tr b ↔ (c ∧ p.Path tr b) ∨ (¬c ∧ q.Path tr b) := by
  split <;> simp [*]

section Lift

universe u' v'

variable {C' : Type u'} {R' : C' → Type v'} (on : C → C') (reply : ∀ c, R c ≃ R' (on c))

/-- Use a program over a smaller interface where a larger one is available. -/
def lift {α : Type w} : Prog C R α → Prog C' R' α
  | .pure a => .pure a
  | .call c next => .call (on c) fun r => (next ((reply c).symm r)).lift

/-- The same event, seen in the larger interface. -/
def liftEvent (e : Event C R) : Event C' R' := ⟨on e.call, reply e.call e.reply⟩

/-- A lifted program has exactly the lifted executions. -/
theorem path_lift {α : Type w} {p : Prog C R α} {tr' : List (Event C' R')} {a : α} :
    (p.lift on reply).Path tr' a ↔ ∃ tr, tr' = tr.map (liftEvent on reply) ∧ p.Path tr a := by
  induction p generalizing tr' with
  | pure b =>
    constructor
    · rintro ⟨rfl, rfl⟩
      exact ⟨[], rfl, rfl, rfl⟩
    · rintro ⟨_, rfl, rfl, rfl⟩
      exact ⟨rfl, rfl⟩
  | call c next ih =>
    constructor
    · rintro ⟨r, tr', rfl, h⟩
      obtain ⟨tr, rfl, hp⟩ := ih _ |>.mp h
      exact ⟨⟨c, (reply c).symm r⟩ :: tr, by simp [liftEvent], _, tr, rfl, hp⟩
    · rintro ⟨_, rfl, r, tr, rfl, h⟩
      refine ⟨reply c r, tr.map (liftEvent on reply), rfl, ih _ |>.mpr ⟨tr, rfl, ?_⟩⟩
      simpa using h

end Lift

section Part

universe u' v'

variable {C' : Type u'} {R' : C' → Type v'} {on : C → C'}

/-- A program over a part of an interface makes its own calls. -/
@[simp] theorem path_lift_part {α : Type w} {p : Prog C (fun c => R' (on c)) α}
    {tr : List (Event C' R')} {a : α} :
    (p.lift on fun _ => Equiv.refl _).Path tr a ↔
      ∃ tr₀ : List (Event C fun c => R' (on c)),
        tr = tr₀.map (fun e => ⟨on e.call, e.reply⟩) ∧ p.Path tr₀ a := path_lift _ _

/-- A single call of the part in front of a sequence is the first event of its trace. -/
theorem path_lift_ask_bind {β : Type v'} {c : C} {f : R' (on c) → Prog C' R' β}
    {tr : List (Event C' R')} {b : β} :
    ((ask c : Prog C (fun c => R' (on c)) _).lift on (fun _ => Equiv.refl _) >>= f).Path tr b ↔
      ∃ r tr', tr = ⟨on c, r⟩ :: tr' ∧ (f r).Path tr' b := Iff.rfl

end Part

end Prog

end Calls
