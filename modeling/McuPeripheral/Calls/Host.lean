import McuPeripheral.Calls.Session

/-!
# Programs that print

A tool makes the calls of the library it is linked with, and it prints and waits. What it
prints is part of its trace, so that what its user sees can be read off an execution. The
calls of the library can be read off it as well.
-/

namespace Calls

universe u v w

/-- Where a tool prints to. -/
inductive Stream
  | stdout
  | stderr
  deriving DecidableEq, Repr

/-- The calls of a tool that is linked with a library. -/
inductive HostCall (C : Type u)
  | api (c : C)
  | print (stream : Stream) (text : List Char)
  | usleep (usec : UInt32)

/-- What each call answers. -/
@[reducible] def HostReply {C : Type u} (R : C → Type v) : HostCall C → Type v
  | .api c => R c
  | .print .. | .usleep _ => PUnit

variable {C : Type u} {R : C → Type v}

/-- A program of the library inside a tool. -/
def api {α : Type w} (p : Prog C R α) : Prog (HostCall C) (HostReply R) α :=
  p.lift HostCall.api fun _ => Equiv.refl _

/-- `printf(text)`. -/
def printf (text : List Char) : Prog (HostCall C) (HostReply R) PUnit :=
  .ask (HostCall.print .stdout text)

/-- `fprintf(stderr, text)`. -/
def eprintf (text : List Char) : Prog (HostCall C) (HostReply R) PUnit :=
  .ask (HostCall.print .stderr text)

/-- `usleep(usec)`. -/
def usleep (usec : UInt32) : Prog (HostCall C) (HostReply R) PUnit :=
  .ask (HostCall.usleep usec)

/-- An event of the library, as an event of a tool. -/
def inHost (e : Event C R) : Event (HostCall C) (HostReply R) := ⟨.api e.call, e.reply⟩

/-- A program of the library makes its own calls. -/
theorem path_api {α : Type w} {p : Prog C R α} {tr : List (Event (HostCall C) (HostReply R))}
    {a : α} : (api p).Path tr a ↔ ∃ tr₀ : List (Event C R), tr = tr₀.map inHost ∧ p.Path tr₀ a :=
  Prog.path_lift _ _

section Paths

variable {β : Type} {R' : C → Type} {text : List Char} {usec : UInt32}
  {tr : List (Event (HostCall C) (HostReply R'))}

/-- A library program in front of a sequence. -/
theorem path_api_bind {α β : Type w} {p : Prog C R α}
    {f : α → Prog (HostCall C) (HostReply R) β} {tr : List (Event (HostCall C) (HostReply R))}
    {b : β} : (api p >>= f).Path tr b ↔
      ∃ tr₀ a tr', tr = tr₀.map inHost ++ tr' ∧ p.Path tr₀ a ∧ (f a).Path tr' b := by
  rw [Prog.path_bind]
  constructor
  · rintro ⟨_, a, tr', rfl, happ, hf⟩
    obtain ⟨tr₀, rfl, hp⟩ := path_api.mp happ
    exact ⟨tr₀, a, tr', rfl, hp, hf⟩
  · rintro ⟨tr₀, a, tr', rfl, hp, hf⟩
    exact ⟨_, a, tr', rfl, path_api.mpr ⟨tr₀, rfl, hp⟩, hf⟩

/-- A text printed in front of a sequence. -/
theorem path_printf_bind {f : PUnit → Prog (HostCall C) (HostReply R') β} {b : β} :
    (printf text >>= f).Path tr b ↔
      ∃ tr', tr = ⟨.print .stdout text, ⟨⟩⟩ :: tr' ∧ (f ⟨⟩).Path tr' b :=
  ⟨fun ⟨_, tr', htr, h⟩ => ⟨tr', htr, h⟩, fun ⟨tr', htr, h⟩ => ⟨⟨⟩, tr', htr, h⟩⟩

/-- A message in front of a sequence. -/
theorem path_eprintf_bind {f : PUnit → Prog (HostCall C) (HostReply R') β} {b : β} :
    (eprintf text >>= f).Path tr b ↔
      ∃ tr', tr = ⟨.print .stderr text, ⟨⟩⟩ :: tr' ∧ (f ⟨⟩).Path tr' b :=
  ⟨fun ⟨_, tr', htr, h⟩ => ⟨tr', htr, h⟩, fun ⟨tr', htr, h⟩ => ⟨⟨⟩, tr', htr, h⟩⟩

/-- A pause in front of a sequence. -/
theorem path_usleep_bind {f : PUnit → Prog (HostCall C) (HostReply R') β} {b : β} :
    (usleep usec >>= f).Path tr b ↔
      ∃ tr', tr = ⟨.usleep usec, ⟨⟩⟩ :: tr' ∧ (f ⟨⟩).Path tr' b :=
  ⟨fun ⟨_, tr', htr, h⟩ => ⟨tr', htr, h⟩, fun ⟨tr', htr, h⟩ => ⟨⟨⟩, tr', htr, h⟩⟩

end Paths

/-! ## What can be read off a trace -/

/-- The call of the library that an event is. -/
def ofHost : Event (HostCall C) (HostReply R) → Option (Event C R)
  | ⟨.api c, r⟩ => some ⟨c, r⟩
  | _ => none

/-- The calls of the library. -/
def apiCalls (tr : List (Event (HostCall C) (HostReply R))) : List (Event C R) :=
  tr.filterMap ofHost

/-- The text an event prints to a stream. -/
def textOf (s : Stream) : Event (HostCall C) (HostReply R) → Option (List Char)
  | ⟨.print stream text, _⟩ => if stream = s then some text else none
  | _ => none

/-- The texts that are printed to a stream. -/
def texts (s : Stream) (tr : List (Event (HostCall C) (HostReply R))) : List (List Char) :=
  tr.filterMap (textOf s)

section Traces

variable {s : Stream} {tr tr' : List (Event (HostCall C) (HostReply R))} {tr₀ : List (Event C R)}

@[simp] theorem apiCalls_nil : apiCalls ([] : List (Event (HostCall C) (HostReply R))) = [] := rfl

@[simp] theorem apiCalls_append : apiCalls (tr ++ tr') = apiCalls tr ++ apiCalls tr' :=
  List.filterMap_append

@[simp] theorem apiCalls_print {stream : Stream} {text : List Char} {r : PUnit} :
    apiCalls (⟨.print stream text, r⟩ :: tr) = apiCalls tr := rfl

@[simp] theorem apiCalls_usleep {usec : UInt32} {r : PUnit} :
    apiCalls (⟨.usleep usec, r⟩ :: tr) = apiCalls tr := rfl

@[simp] theorem apiCalls_cons {e : Event C R} : apiCalls (inHost e :: tr) = e :: apiCalls tr := rfl

/-- Every call of a library program is one of the library. -/
@[simp] theorem apiCalls_inHost : apiCalls (tr₀.map inHost) = tr₀ := by
  induction tr₀ with
  | nil => rfl
  | cons e tr₀ ih => exact congrArg (e :: ·) ih

@[simp] theorem texts_nil : texts s ([] : List (Event (HostCall C) (HostReply R))) = [] := rfl

@[simp] theorem texts_append : texts s (tr ++ tr') = texts s tr ++ texts s tr' :=
  List.filterMap_append

@[simp] theorem texts_print {stream : Stream} {text : List Char} {r : PUnit} :
    texts s (⟨.print stream text, r⟩ :: tr) =
      (if stream = s then [text] else []) ++ texts s tr := by
  cases stream <;> cases s <;> rfl

@[simp] theorem texts_usleep {usec : UInt32} {r : PUnit} :
    texts s (⟨.usleep usec, r⟩ :: tr) = texts s tr := rfl

@[simp] theorem texts_cons {e : Event C R} : texts s (inHost e :: tr) = texts s tr := rfl

/-- A library program prints nothing. -/
@[simp] theorem texts_inHost : texts s (tr₀.map inHost) = [] := by
  induction tr₀ with
  | nil => rfl
  | cons e tr₀ ih => exact ih

end Traces

/-! ## The environment of a tool -/

/-- The environment of the library, around a tool: what is printed and waited for leaves its
state as it is. -/
def Env.hosted {σ : Type*} (env : Env C R σ) : Env (HostCall C) (HostReply R) σ where
  step
    | s, ⟨.api c, r⟩, s' => env.step s ⟨c, r⟩ s'
    | s, _, s' => s' = s

/-- A tool runs as the calls of the library do that it makes. -/
theorem run_hosted {σ : Type*} {env : Env C R σ} {s s' : σ}
    {tr : List (Event (HostCall C) (HostReply R))} :
    env.hosted.Run s tr s' ↔ env.Run s (apiCalls tr) s' := by
  induction tr generalizing s with
  | nil => exact Iff.rfl
  | cons e tr ih =>
    obtain ⟨call, r⟩ := e
    cases call with
    | api c => exact exists_congr fun s₁ => and_congr Iff.rfl ih
    | print stream text => exact (exists_congr fun s₁ => and_congr Iff.rfl ih).trans exists_eq_left
    | usleep usec => exact (exists_congr fun s₁ => and_congr Iff.rfl ih).trans exists_eq_left

end Calls
