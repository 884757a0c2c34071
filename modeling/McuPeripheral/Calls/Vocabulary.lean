import McuPeripheral.Calls.Prog

/-!
# The calls a program may make

Whatever it is answered, a program makes only calls of a certain kind. This is read off the
program, part by part, and holds of every event of every execution.
-/

namespace Calls

universe u v w u' v'

namespace Prog

variable {C : Type u} {R : C → Type v} {P : C → Prop}

/-- The program makes only calls that satisfy `P`. -/
def Only {α : Type w} (P : C → Prop) : Prog C R α → Prop
  | .pure _ => True
  | .call c next => P c ∧ ∀ r, (next r).Only P

@[simp] theorem only_pure {α : Type w} (a : α) : (Pure.pure a : Prog C R α).Only P := trivial

@[simp] theorem only_ask {c : C} : (ask c : Prog C R (R c)).Only P ↔ P c :=
  ⟨And.left, fun h => ⟨h, fun _ => trivial⟩⟩

/-- One call after the other. -/
@[simp] theorem only_ask_bind {β : Type v} {c : C} {f : R c → Prog C R β} :
    (ask c >>= f).Only P ↔ P c ∧ ∀ r, (f r).Only P := Iff.rfl

/-- A sequence of such programs is such a program. -/
theorem Only.bind {α β : Type w} {p : Prog C R α} {f : α → Prog C R β} (hp : p.Only P)
    (hf : ∀ a, (f a).Only P) : (p >>= f).Only P := by
  induction p with
  | pure a => exact hf a
  | call c next ih => exact ⟨hp.1, fun r => ih r (hp.2 r)⟩

/-- So is a conditional of which both branches are. -/
@[simp] theorem only_ite {α : Type w} {c : Prop} [Decidable c] {p q : Prog C R α} :
    (if c then p else q).Only P ↔ (c → p.Only P) ∧ (¬c → q.Only P) := by
  split <;> simp [*]

/-- So is a function of the result of one. -/
@[simp] theorem only_map {α β : Type w} {p : Prog C R α} {f : α → β} :
    (f <$> p).Only P ↔ p.Only P := by
  induction p with
  | pure a => exact Iff.rfl
  | call c next ih => exact and_congr Iff.rfl (forall_congr' ih)

/-- A program over a smaller interface makes the calls that it is lifted to. -/
theorem only_lift {C' : Type u'} {R' : C' → Type v'} {α : Type w} {P' : C' → Prop}
    (on : C → C') (reply : ∀ c, R c ≃ R' (on c)) (h : ∀ c, P' (on c)) (p : Prog C R α) :
    (p.lift on reply).Only P' := by
  induction p with
  | pure a => trivial
  | call c next ih => exact ⟨h c, fun r => ih _⟩

/-- Every event of every execution is such a call. -/
theorem Only.of_path {α : Type w} {p : Prog C R α} {tr : List (Event C R)} {a : α}
    (h : p.Only P) (hpath : p.Path tr a) : ∀ e ∈ tr, P e.call := by
  induction p generalizing tr with
  | pure b =>
    obtain ⟨rfl, -⟩ := hpath
    simp
  | call c next ih =>
    obtain ⟨r, tr, rfl, hrest⟩ := hpath
    exact List.forall_mem_cons.mpr ⟨h.1, ih r (h.2 r) hrest⟩

end Prog

end Calls
