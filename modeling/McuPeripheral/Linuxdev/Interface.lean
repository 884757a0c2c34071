import McuPeripheral.Libc.Interface

/-!
# The system calls of `impl_linuxdev.c`

The Linux device backend reaches the world through file descriptors. A failed
system call answers a negative number, except `read`, whose failure is `none`
and whose success is the list of bytes it delivered.
-/

namespace McuPeripheral.Linuxdev

open Calls

/-- The access modes used with `open`. -/
inductive OpenFlag
  | rdonly
  | wronly
  | rdwr
  deriving DecidableEq, Repr

/-- The device settings made with `ioctl`. -/
inductive Ioctl
  | i2cSlave (addr : Int32)
  | spiIocWrMode (mode : UInt8)
  | spiIocWrMaxSpeedHz (speed : UInt32)
  deriving DecidableEq, Repr

/-- The calls of the backend. `ioctlMessage` is `ioctl` with `SPI_IOC_MESSAGE(1)`. -/
inductive Call
  | libc (c : Libc.Call)
  | open (path : List Char) (flag : OpenFlag)
  | close (fd : Int32)
  | read (fd : Int32) (count : UInt64)
  | write (fd : Int32) (data : List UInt8)
  | ioctl (fd : Int32) (request : Ioctl)
  | ioctlMessage (fd : Int32) (tx : List UInt8) (length : UInt32)
  | stat (path : List Char)
  deriving DecidableEq, Repr

/-- What each call answers. -/
@[reducible] def Reply : Call → Type
  | .libc c => Libc.Reply c
  | .open .. | .close .. | .ioctl .. | .stat .. => Int32
  | .read .. => Option (List UInt8)
  | .write .. => Int64
  | .ioctlMessage .. => Int32 × List UInt8

/-- A C library program inside the backend. -/
abbrev libc {α : Type} (p : Prog Libc.Call Libc.Reply α) : Prog Call Reply α :=
  p.lift Call.libc fun _ => Equiv.refl _

/-- `open(path, flag)`. -/
def openFile (path : List Char) (flag : OpenFlag) : Prog Call Reply Int32 :=
  .ask (Call.open path flag)

/-- `close(fd)`. -/
def close (fd : Int32) : Prog Call Reply Int32 := .ask (Call.close fd)

/-- `read(fd, buf, count)`. -/
def read (fd : Int32) (count : UInt64) : Prog Call Reply (Option (List UInt8)) :=
  .ask (Call.read fd count)

/-- `write(fd, data, count)` with as many bytes as `data` has. -/
def write (fd : Int32) (data : List UInt8) : Prog Call Reply Int64 := .ask (Call.write fd data)

/-- `ioctl(fd, request, value)`. -/
def ioctl (fd : Int32) (request : Ioctl) : Prog Call Reply Int32 := .ask (Call.ioctl fd request)

/-- `ioctl(fd, SPI_IOC_MESSAGE(1), &tr)`: the status and the bytes received. -/
def ioctlMessage (fd : Int32) (tx : List UInt8) (length : UInt32) :
    Prog Call Reply (Int32 × List UInt8) := .ask (Call.ioctlMessage fd tx length)

/-- `stat(path, &st)`. -/
def stat (path : List Char) : Prog Call Reply Int32 := .ask (Call.stat path)

/-- The call failed. -/
def Failed : Event Call Reply → Prop
  | ⟨.open .., fd⟩ => fd < 0
  | ⟨.ioctl .., ret⟩ => ret < 0
  | ⟨.read .., ret⟩ => ret = none
  | ⟨.write .., ret⟩ => ret < 0
  | ⟨.stat _, st⟩ => st ≠ 0
  | ⟨.ioctlMessage .., ret⟩ => ret.1 < 0
  | _ => False

instance : DecidablePred Failed
  | ⟨.open .., fd⟩ => inferInstanceAs (Decidable (fd < 0))
  | ⟨.ioctl .., ret⟩ => inferInstanceAs (Decidable (ret < 0))
  | ⟨.read .., ret⟩ => inferInstanceAs (Decidable (ret = none))
  | ⟨.write .., ret⟩ => inferInstanceAs (Decidable (ret < 0))
  | ⟨.stat _, st⟩ => inferInstanceAs (Decidable (st ≠ 0))
  | ⟨.ioctlMessage .., ret⟩ => inferInstanceAs (Decidable (ret.1 < 0))
  | ⟨.close _, _⟩ | ⟨.libc _, _⟩ => inferInstanceAs (Decidable False)

section Failed

variable {path : List Char} {flag : OpenFlag} {fd st c ret : Int32} {n : Int64} {count : UInt64}
  {data : List UInt8} {buf : Option (List UInt8)} {request : Ioctl}

@[simp] theorem failed_open : Failed ⟨.open path flag, fd⟩ ↔ fd < 0 := Iff.rfl

@[simp] theorem failed_ioctl : Failed ⟨.ioctl fd request, ret⟩ ↔ ret < 0 := Iff.rfl

@[simp] theorem failed_read : Failed ⟨.read fd count, buf⟩ ↔ buf = none := Iff.rfl

@[simp] theorem failed_write : Failed ⟨.write fd data, n⟩ ↔ n < 0 := Iff.rfl

@[simp] theorem failed_stat : Failed ⟨.stat path, st⟩ ↔ st ≠ 0 := Iff.rfl

@[simp] theorem failed_message {tx : List UInt8} {length : UInt32} {r : Int32 × List UInt8} :
    Failed ⟨.ioctlMessage fd tx length, r⟩ ↔ r.1 < 0 := Iff.rfl

@[simp] theorem not_failed_close : ¬Failed ⟨.close fd, c⟩ := id

@[simp] theorem not_failed_libc {call : Libc.Call} {r : Libc.Reply call} :
    ¬Failed ⟨.libc call, r⟩ := id

end Failed

end McuPeripheral.Linuxdev
