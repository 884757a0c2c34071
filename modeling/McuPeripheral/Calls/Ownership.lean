import McuPeripheral.Calls.Ledger
import Mathlib.Data.Multiset.Bind

/-!
# Objects that stand for resources

Some calls of an interface create objects for the client and some take them back. Each
object stands for resources. If creating an object acquires exactly its resources, and
releasing it gives exactly those back, then after every history the resources held are
those of the objects that are live.
-/

namespace Calls

universe u v

variable {C : Type u} {R : C → Type v} {ι : Type*} {β : ι → Type v}

/-- Which calls create and release objects, and what the objects stand for. -/
structure Objects (prog : (i : ι) → Prog C R (β i)) (ω ρ : Type*) where
  /-- The object a call created. -/
  created : Invocation prog → Option ω
  /-- The object an operation releases. -/
  released : ι → Option ω
  /-- The resources of an object. -/
  resources : ω → Multiset ρ
  /-- The call was to create an object and reported a failure. -/
  refused : Invocation prog → Prop
  /-- The call left the output pointer of its caller as it was. -/
  silent : Invocation prog → Prop

/-- An environment that answers anything. -/
def anything : Env C R Unit := ⟨fun _ _ _ => True⟩

/-- It can always go on. -/
theorem anything_run (tr : List (Event C R)) : (anything : Env C R Unit).Run () tr () := by
  induction tr with
  | nil => rfl
  | cons e tr ih => exact ⟨(), trivial, ih⟩

namespace Objects

variable {prog : (i : ι) → Prog C R (β i)} {ω ρ : Type*} (O : Objects prog ω ρ)

/-- The resources of one object, if there is one. -/
def worth (o : Option ω) : Multiset ρ := o.elim 0 O.resources

/-- The resources of some objects. -/
def total (objects : Multiset ω) : Multiset ρ := objects.bind O.resources

/-- The resources of an object in addition to others. -/
theorem total_add_elim (objects : Multiset ω) (o : Option ω) :
    O.total (objects + o.elim 0 singleton) = O.total objects + O.worth o := by
  cases o <;> simp [total, worth]

variable [DecidableEq ω]

/-- The objects after one more call. -/
def liveAfter (live : Multiset ω) (i : Invocation prog) : Multiset ω :=
  live - (O.released i.op).elim 0 singleton + (O.created i).elim 0 singleton

/-- The objects that were created and not yet released. -/
def live (h : List (Invocation prog)) : Multiset ω := h.foldl O.liveAfter 0

@[simp] theorem live_append_one (h : List (Invocation prog)) (i : Invocation prog) :
    O.live (h ++ [i]) = O.liveAfter (O.live h) i := by simp [live, List.foldl_append]

/-- The resources of the live objects. -/
def owned (h : List (Invocation prog)) : Multiset ρ := O.total (O.live h)

/-- The client makes certain calls, and releases only objects that are live. -/
def Discipline (calls : ι → Prop) (h : List (Invocation prog)) (op : ι) : Prop :=
  calls op ∧ ∀ x, O.released op = some x → x ∈ O.live h

/-- The resources before a permitted call are those of the object it releases and the rest. -/
theorem owned_eq_rest_add {calls : ι → Prop} {h : List (Invocation prog)} {op : ι}
    (hpermits : O.Discipline calls h op) :
    O.owned h =
      O.total (O.live h - (O.released op).elim 0 singleton) + O.worth (O.released op) := by
  rw [← total_add_elim, owned]
  cases hreleased : O.released op with
  | none => simp
  | some x =>
    have hmem : {x} ≤ O.live h := Multiset.singleton_le.mpr (hpermits.2 x hreleased)
    exact congrArg O.total (Multiset.sub_add_cancel hmem).symm

/-- A history of a client that releases each object at most once, whatever its calls are
answered. -/
structure Lifetimes (calls : ι → Prop) where
  /-- The calls. -/
  history : List (Invocation prog)
  /-- The client kept to the discipline. -/
  session : Session anything (O.Discipline calls) () history ()

variable [DecidableEq ρ] (L : Ledger C R ρ)

/-- Creating and releasing are in balance. -/
structure Balanced (h : List (Invocation prog)) : Prop where
  /-- After every call exactly the resources of the live objects are held. -/
  afterEvery : ∀ h', h' <+: h → L.after 0 (traceOf h') = O.owned h'
  /-- Once every object has been released, nothing is held. -/
  allReleased : ∀ h', h' <+: h → O.live h' = 0 → L.after 0 (traceOf h') = 0
  /-- Nothing is given back that is not held. -/
  covered : L.Covers 0 (traceOf h)
  /-- A create that fails keeps nothing and stores nothing. -/
  refused : ∀ i ∈ h, O.refused i → L.after 0 i.trace = 0 ∧ O.silent i

variable {O L} {calls : ι → Prop} {h : List (Invocation prog)}

/-- If every call turns the resources of what it releases into those of what it creates,
every history does. -/
theorem moves_owned (hsession : Session anything (O.Discipline calls) () h ())
    (hcalls : ∀ i ∈ h, calls i.op → L.Moves (O.worth (O.released i.op)) i.trace
      (O.worth (O.created i))) :
    L.Moves 0 (traceOf h) (O.owned h) := by
  refine hsession.invariant_of_forall (I := fun h _ => L.Moves 0 (traceOf h) (O.owned h))
    hcalls .nil ?_
  intro h _ i _ hbefore hpermits hcall _
  rw [O.owned_eq_rest_add hpermits] at hbefore
  rw [traceOf_append, traceOf_cons, traceOf_nil, List.append_nil, owned, live_append_one,
    liveAfter, total_add_elim]
  exact hbefore.append ((hcall hpermits.1).frame _)

/-- Then creating and releasing are in balance. -/
theorem Balanced.of_moves (hsession : Session anything (O.Discipline calls) () h ())
    (hcalls : ∀ i ∈ h, calls i.op → L.Moves (O.worth (O.released i.op)) i.trace
      (O.worth (O.created i)))
    (hrefused : ∀ i ∈ h, O.refused i → L.after 0 i.trace = 0 ∧ O.silent i) :
    O.Balanced L h := by
  have hafter : ∀ h', h' <+: h → L.after 0 (traceOf h') = O.owned h' := by
    intro h' hfront
    obtain ⟨_, hsession'⟩ := hsession.upTo hfront
    have hmoves := moves_owned hsession' fun i hi => hcalls i (hfront.subset hi)
    rw [hmoves.after_eq, zero_add]
  refine ⟨hafter, ?_, ?_, hrefused⟩
  · intro h' hfront hnone
    rw [hafter h' hfront, owned, hnone]
    rfl
  · have hmoves := (moves_owned hsession hcalls 0).1
    rwa [add_zero] at hmoves

/-- A call that makes no external calls cannot release an object with resources. -/
theorem Balanced.worth_eq_zero (hbalanced : O.Balanced L h) {pre post : List (Invocation prog)}
    {i : Invocation prog} (hsplit : h = pre ++ i :: post) (htrace : i.trace = [])
    (hpermits : O.Discipline calls pre i.op) (hcreated : O.created i = none) :
    O.worth (O.released i.op) = 0 := by
  have hbefore := hbalanced.afterEvery pre ⟨i :: post, hsplit.symm⟩
  have hafter := hbalanced.afterEvery (pre ++ [i]) ⟨post, by simp [hsplit]⟩
  rw [traceOf_append, traceOf_cons, htrace, traceOf_nil, List.append_nil, List.append_nil, hbefore,
    O.owned_eq_rest_add hpermits, owned, live_append_one, liveAfter, hcreated] at hafter
  simpa using hafter

end Objects

end Calls
