import McuPeripheral.Calls.Reader
import McuPeripheral.Libc.Interface

/-!
# The library calls of `impl_libmpsse.c`

The backend drives an FTDI adapter through libmpsse. A context is known by its
address; the flag `open` inside it is set by `MPSSE()` and only read here. The
replies to `Write` and `Read` carry, besides what the C code receives, what
happened on the wire: no definition of the backend looks at that part.
-/

namespace McuPeripheral.Libmpsse

open Calls Libc

/-- `struct mpsse_context`, as far as the backend reads it. -/
structure MpsseContext where
  /-- The address of the context. -/
  id : ℕ
  /-- The field `open`. -/
  isOpen : Bool
  deriving DecidableEq, Repr

/-- `MPSSE_OK`. -/
def mpsseOk : Int32 := 0

/-- `MPSSE_FAIL`. -/
def mpsseFail : Int32 := -1

/-- `ACK`, the acknowledge bit of a byte that was taken. -/
def ack : Int32 := 0

/-- The reply to `Write`. -/
structure WriteReply where
  /-- `MPSSE_OK` or `MPSSE_FAIL`. -/
  status : Int32
  /-- On the wire: for each byte that was transmitted, whether the slave took it. -/
  acks : List Bool
  deriving DecidableEq, Repr

/-- The reply to `Read`. -/
structure ReadReply where
  /-- The buffer with the bytes read, or a null pointer. -/
  buffer : Option (Ptr × List UInt8)
  /-- On the wire: how many bytes were clocked in. -/
  clocked : ℕ
  deriving DecidableEq, Repr

/-- The calls of the backend. -/
inductive Call
  | libc (c : Libc.Call)
  | mpsse (clockspeed : Int32)
  | close (ctx : Option ℕ)
  | start (ctx : ℕ)
  | stop (ctx : ℕ)
  | write (ctx : ℕ) (data : List UInt8)
  | read (ctx : ℕ) (size : Int32)
  | getAck (ctx : ℕ)
  | sendAcks (ctx : ℕ)
  | sendNacks (ctx : ℕ)

/-- What each call answers. -/
@[reducible] def Reply : Call → Type
  | .libc c => Libc.Reply c
  | .mpsse _ => Option MpsseContext
  | .start _ | .stop _ | .getAck _ => Int32
  | .write .. => WriteReply
  | .read .. => ReadReply
  | .close _ | .sendAcks _ | .sendNacks _ => Unit

/-- A C library program inside the backend. -/
abbrev libc {α : Type} (p : Prog Libc.Call Libc.Reply α) : Prog Call Reply α :=
  p.lift Call.libc fun _ => Equiv.refl _

/-- `MPSSE(I2C, clockspeed, MSB)`. -/
def mpsse (clockspeed : Int32) : Prog Call Reply (Option MpsseContext) :=
  .ask (Call.mpsse clockspeed)

/-- `Close(ctx)`. -/
def close (ctx : Option ℕ) : Prog Call Reply Unit := .ask (Call.close ctx)

/-- `Start(ctx)`. -/
def start (ctx : ℕ) : Prog Call Reply Int32 := .ask (Call.start ctx)

/-- `Stop(ctx)`. -/
def stop (ctx : ℕ) : Prog Call Reply Int32 := .ask (Call.stop ctx)

/-- `Write(ctx, data, size)` with as many bytes as `data` has. -/
def write (ctx : ℕ) (data : List UInt8) : Prog Call Reply WriteReply := .ask (Call.write ctx data)

/-- `Read(ctx, size)`. -/
def read (ctx : ℕ) (size : Int32) : Prog Call Reply ReadReply := .ask (Call.read ctx size)

/-- `GetAck(ctx)`. -/
def getAck (ctx : ℕ) : Prog Call Reply Int32 := .ask (Call.getAck ctx)

/-- `SendAcks(ctx)`. -/
def sendAcks (ctx : ℕ) : Prog Call Reply Unit := .ask (Call.sendAcks ctx)

/-- `SendNacks(ctx)`. -/
def sendNacks (ctx : ℕ) : Prog Call Reply Unit := .ask (Call.sendNacks ctx)

/-! ## The adapter and the slave

What libmpsse promises in I2C mode, with a slave that takes or refuses each byte as
it likes and delivers the bytes of `source` in order. `Write` sends its bytes one at
a time, goes on after a refused byte, may fail part way, and leaves the acknowledge
bit of the last byte it transmitted in the context.
-/

/-- The state of the adapter and the slave. -/
structure Line where
  /-- The recorded acknowledge bit: the last byte transmitted was taken. -/
  acked : Bool
  /-- How many bytes were clocked in so far. -/
  position : ℕ
  deriving DecidableEq, Repr

/-- One step of the adapter. -/
def adapterStep (source : ℕ → UInt8) : Line → Event Call Reply → Line → Prop
  | s, ⟨.write _ data, r⟩, s' =>
    (r.status = mpsseOk ∨ r.status = mpsseFail) ∧ r.acks.length ≤ data.length ∧
      (r.status = mpsseOk → r.acks.length = data.length) ∧
      s' = { s with acked := r.acks.getLast?.getD s.acked }
  | s, ⟨.getAck _, a⟩, s' => s' = s ∧ a = if s.acked then ack else 1
  | s, ⟨.read _ size, r⟩, s' =>
    s' = { s with position := s.position + r.clocked } ∧ r.clocked ≤ size.toInt.toNat ∧
      ∀ ptr data, r.buffer = some (ptr, data) →
        r.clocked = size.toInt.toNat ∧ data = slice source s.position r.clocked
  | s, _, s' => s' = s

/-- The adapter and the slave as an environment. -/
def adapter (source : ℕ → UInt8) : Env Call Reply Line := ⟨adapterStep source⟩

end McuPeripheral.Libmpsse
