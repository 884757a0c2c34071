import McuPeripheral.Calls.Session
import Mathlib.Algebra.Order.Group.Multiset

/-!
# Accounting for resources that calls hand out and take back

Some external calls hand a resource to the program and some take one back. A
ledger records which; `after` computes what is held at the end of a trace, and
`Covers` says that nothing is given back on the way that is not held. `Moves` is
the compositional form: a stretch of trace turns what one caller owns into
something else and leaves everything else that is held alone.
-/

namespace Calls

universe u v

variable {C : Type u} {R : C → Type v} {ρ : Type*}

/-- What each event hands out and what it takes back. -/
structure Ledger (C : Type u) (R : C → Type v) (ρ : Type*) where
  /-- Resources the program receives in this event. -/
  acquired : Event C R → Multiset ρ
  /-- Resources the program gives back in this event. -/
  returned : Event C R → Multiset ρ

namespace Ledger

variable [DecidableEq ρ] (L : Ledger C R ρ)

/-- What is held after a trace. -/
def after : Multiset ρ → List (Event C R) → Multiset ρ
  | held, [] => held
  | held, e :: tr => after (held - L.returned e + L.acquired e) tr

@[simp] theorem after_nil (held : Multiset ρ) : L.after held [] = held := rfl

@[simp] theorem after_cons (held : Multiset ρ) (e : Event C R) (tr : List (Event C R)) :
    L.after held (e :: tr) = L.after (held - L.returned e + L.acquired e) tr := rfl

/-- A concatenated trace is accounted for part by part. -/
theorem after_append (held : Multiset ρ) (tr₁ tr₂ : List (Event C R)) :
    L.after held (tr₁ ++ tr₂) = L.after (L.after held tr₁) tr₂ := by
  induction tr₁ generalizing held with
  | nil => rfl
  | cons e tr₁ ih => exact ih _

/-- Along the trace nothing is given back that is not held. -/
def Covers : Multiset ρ → List (Event C R) → Prop
  | _, [] => True
  | held, e :: tr => L.returned e ≤ held ∧ Covers (held - L.returned e + L.acquired e) tr

/-- What is given back was held before, or was handed out earlier in the trace. -/
theorem Covers.mem {L : Ledger C R ρ} {held : Multiset ρ} {pre post : List (Event C R)}
    {e : Event C R} {r : ρ} (h : L.Covers held (pre ++ e :: post)) (hr : r ∈ L.returned e) :
    r ∈ held ∨ ∃ e' ∈ pre, r ∈ L.acquired e' := by
  induction pre generalizing held with
  | nil => exact Or.inl (Multiset.mem_of_le h.1 hr)
  | cons d pre ih =>
    rcases ih h.2 with hmem | ⟨e', he', hmem⟩
    · rcases Multiset.mem_add.mp hmem with hmem | hmem
      · exact Or.inl (Multiset.mem_of_le (Multiset.sub_le_self _ _) hmem)
      · exact Or.inr ⟨d, List.mem_cons_self, hmem⟩
    · exact Or.inr ⟨e', List.mem_cons_of_mem _ he', hmem⟩

/-- A concatenated trace is covered part by part. -/
theorem covers_append {held : Multiset ρ} {tr₁ tr₂ : List (Event C R)} :
    L.Covers held (tr₁ ++ tr₂) ↔ L.Covers held tr₁ ∧ L.Covers (L.after held tr₁) tr₂ := by
  induction tr₁ generalizing held with
  | nil => simp [Covers]
  | cons e tr₁ ih => simp only [List.cons_append, Covers, ih, after_cons, and_assoc]

section Images

variable {L} {C' : Type*} {R' : C' → Type*} {L' : Ledger C' R' ρ} {f : Event C R → Event C' R'}
  (hret : ∀ e, L'.returned (f e) = L.returned e) (hacq : ∀ e, L'.acquired (f e) = L.acquired e)
  {held : Multiset ρ} {tr : List (Event C R)}

include hret hacq

/-- What is held after the images of events. -/
theorem after_map : L'.after held (tr.map f) = L.after held tr := by
  induction tr generalizing held with
  | nil => rfl
  | cons e tr ih => simp only [List.map_cons, after_cons, hret, hacq, ih]

/-- Images of events give back what the events give back. -/
theorem covers_map : L'.Covers held (tr.map f) ↔ L.Covers held tr := by
  induction tr generalizing held with
  | nil => exact Iff.rfl
  | cons e tr ih => simp only [List.map_cons, Covers, hret, hacq, ih]

end Images

/-- The trace turns the holding `own` into `own'` whatever else is held, and gives
nothing else back. -/
def Moves (own : Multiset ρ) (tr : List (Event C R)) (own' : Multiset ρ) : Prop :=
  ∀ base, L.Covers (base + own) tr ∧ L.after (base + own) tr = base + own'

namespace Moves

variable {L} {own own₁ own' : Multiset ρ} {e : Event C R} {tr tr₁ tr₂ : List (Event C R)}

/-- An empty trace moves nothing. -/
theorem nil : L.Moves own [] own := fun _ => ⟨trivial, rfl⟩

/-- An event that hands out and takes back nothing changes no holding. -/
theorem neutral (hret : L.returned e = 0) (hacq : L.acquired e = 0)
    (h : L.Moves own tr own') : L.Moves own (e :: tr) own' := by
  intro base
  simpa [Covers, hret, hacq, Multiset.zero_le] using h base

/-- Events that hand out and take back nothing change no holding. -/
theorem of_neutral (h : ∀ e ∈ tr, L.returned e = 0 ∧ L.acquired e = 0) : L.Moves own tr own := by
  induction tr with
  | nil => exact nil
  | cons e tr ih =>
    obtain ⟨hret, hacq⟩ := h e List.mem_cons_self
    exact neutral hret hacq (ih fun e' he' => h e' (List.mem_cons_of_mem _ he'))

/-- An event that hands out `a` adds it to the holding. -/
theorem acquire {a : Multiset ρ} (hret : L.returned e = 0) (hacq : L.acquired e = a)
    (h : L.Moves (own + a) tr own') : L.Moves own (e :: tr) own' := by
  intro base
  simpa [Covers, hret, hacq, add_assoc, Multiset.zero_le] using h base

/-- An event that takes back `a` removes it from the holding. -/
theorem giveBack {a : Multiset ρ} (hret : L.returned e = a) (hacq : L.acquired e = 0)
    (h : L.Moves own tr own') : L.Moves (own + a) (e :: tr) own' := by
  intro base
  have hsub : base + (own + a) - a = base + own := by
    rw [← add_assoc, Multiset.add_sub_cancel_right]
  have hle : a ≤ base + (own + a) :=
    (Multiset.le_add_left a own).trans (Multiset.le_add_left _ base)
  simpa [Covers, hret, hacq, hsub, hle] using h base

/-- A trace that begins by handing out `a` starts from nothing. -/
theorem acquireFirst {a : Multiset ρ} (hret : L.returned e = 0) (hacq : L.acquired e = a)
    (h : L.Moves a tr own') : L.Moves 0 (e :: tr) own' := by
  refine acquire hret hacq ?_
  rwa [zero_add]

/-- An event that takes back all of the holding leaves nothing. -/
theorem giveBackAll {a : Multiset ρ} (hret : L.returned e = a) (hacq : L.acquired e = 0)
    (h : L.Moves 0 tr own') : L.Moves a (e :: tr) own' := by
  have hall : L.Moves (0 + a) (e :: tr) own' := giveBack hret hacq h
  rwa [zero_add] at hall

/-- Consecutive stretches of trace compose. -/
theorem append (h₁ : L.Moves own tr₁ own₁) (h₂ : L.Moves own₁ tr₂ own') :
    L.Moves own (tr₁ ++ tr₂) own' := by
  intro base
  obtain ⟨hcovers, hafter⟩ := h₁ base
  rw [L.covers_append, L.after_append, hafter]
  exact ⟨⟨hcovers, (h₂ base).1⟩, (h₂ base).2⟩

/-- A ledger that accounts for images of events as another one does for the events moves the
same. -/
theorem map {C' : Type*} {R' : C' → Type*} {L' : Ledger C' R' ρ} {f : Event C R → Event C' R'}
    (hret : ∀ e, L'.returned (f e) = L.returned e) (hacq : ∀ e, L'.acquired (f e) = L.acquired e)
    (h : L.Moves own tr own') : L'.Moves own (tr.map f) own' := by
  intro base
  rw [covers_map hret hacq, after_map hret hacq]
  exact h base

/-- What is not touched may be held along. -/
theorem frame (extra : Multiset ρ) (h : L.Moves own tr own') :
    L.Moves (extra + own) tr (extra + own') := by
  intro base
  rw [← add_assoc, ← add_assoc]
  exact h (base + extra)

/-- Starting from nothing but what others hold, the trace ends with `own'` on top. -/
theorem after_eq (h : L.Moves 0 tr own') (base : Multiset ρ) :
    L.after base tr = base + own' := by
  simpa using (h base).2

/-- What the trace gives back was owned, or was handed out earlier in it. -/
theorem mem_of_returned {pre post : List (Event C R)} {r : ρ}
    (h : L.Moves own (pre ++ e :: post) own') (hr : r ∈ L.returned e) :
    r ∈ own ∨ ∃ e' ∈ pre, r ∈ L.acquired e' := by
  have hcovers := (h 0).1
  rw [zero_add] at hcovers
  exact hcovers.mem hr

end Moves

section Sessions

variable {L} {ι : Type*} {β : ι → Type v} {prog : (i : ι) → Prog C R (β i)} {σ : Type*}
  {env : Env C R σ} {permits : List (Invocation prog) → ι → Prop} {s₀ s : σ}
  {h : List (Invocation prog)}

/-- If every API call moves its own part of the client's holding to what the
client owns afterwards, then after every history exactly the client's holding
has been added to what was held at the start. -/
theorem balanced (owned : List (Invocation prog) → Multiset ρ)
    (hsession : Session env permits s₀ h s) (hstart : owned [] = 0)
    (hstep : ∀ h s i s', Session env permits s₀ h s → permits h i.op → env.Run s i.trace s' →
      ∃ rest own own', owned h = rest + own ∧ owned (h ++ [i]) = rest + own' ∧
        L.Moves own i.trace own') :
    L.Moves 0 (traceOf h) (owned h) := by
  refine hsession.invariant (I := fun h _ => L.Moves 0 (traceOf h) (owned h)) ?_ ?_
  · rw [hstart]
    exact Moves.nil
  · intro h s i s' hs ih hp hrun
    obtain ⟨rest, own, own', hbefore, hafter, hmoves⟩ := hstep h s i s' hs hp hrun
    rw [hafter, traceOf_append, traceOf_cons, traceOf_nil, List.append_nil]
    rw [hbefore] at ih
    exact ih.append (hmoves.frame rest)

end Sessions

end Ledger

end Calls
