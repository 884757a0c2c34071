import McuPeripheral.Calls.Responder
import McuPeripheral.Linuxdev.Kernel

/-!
# Device files

A device file is no part of the sysfs tree: it can be opened whatever pins are exported, and
what is written to it does not act on them. A kernel with one device that is always there gives
every program of the backend an execution.
-/

namespace McuPeripheral.Linuxdev

open Calls Libc

/-- The files that act on the pins are in the sysfs tree. -/
theorem ControlsPins.sysfs {path : List Char} (h : ControlsPins path) :
    ∃ rest, path = '/' :: 's' :: rest := by
  obtain rfl | rfl | ⟨pin, rfl | rfl⟩ := h
  · exact ⟨_, rfl⟩
  · exact ⟨_, rfl⟩
  · exact ⟨_, rfl⟩
  · exact ⟨_, rfl⟩

/-- A device file does not act on the pins. -/
theorem not_controlsPins_device (rest : List Char) : ¬ControlsPins ('/' :: 'd' :: rest) := by
  intro h
  obtain ⟨rest', heq⟩ := h.sysfs
  exact absurd (List.cons.inj (List.cons.inj heq).2).1 (by decide)

/-- A device file is no file of a pin. -/
theorem present_device (pins : Int32 → Option Pin) (rest : List Char) :
    Present pins ('/' :: 'd' :: rest) := by
  intro pin h
  have hne : 'd' ≠ 's' := by decide
  obtain h | h | h := h <;> exact absurd (List.cons.inj (List.cons.inj h).2).1 hne

/-! ## A kernel with one device -/

/-- A process with a device. -/
structure DeviceHost where
  /-- The variables of the environment. -/
  vars : String → Option (List Char)
  /-- What a size that was stored in memory is read as. -/
  stored : UInt64
  /-- The device file. -/
  path : List Char
  /-- It is one. -/
  isDevice : ∃ rest, path = '/' :: 'd' :: rest

namespace DeviceHost

variable (host : DeviceHost)

/-- What the C library answers. -/
def libcReply : (c : Libc.Call) → Libc.Reply c
  | .calloc _ => some ⟨1, 0⟩
  | .loadSize _ => host.stored
  | .getenv name => host.vars name
  | .free _ | .memset .. | .store .. => ()

/-- What the kernel answers: the device is opened with descriptor 3 if that is free, and nothing
is transferred. -/
def reply (k : Kernel) : (c : Call) → Reply c
  | .libc c => host.libcReply c
  | .open path _ => if path = host.path ∧ k.files 3 = none then 3 else -1
  | .close _ => 0
  | .read .. => none
  | .write .. => -1
  | .ioctl fd _ => if (k.files fd).isSome then 0 else -1
  | .ioctlMessage .. => (-1, [])
  | .stat _ => -1

/-- The kernel after it. -/
def next (k : Kernel) : Call → Kernel
  | .open path _ => if path = host.path ∧ k.files 3 = none then k.opened 3 path else k
  | .close fd => k.closed fd
  | .ioctl fd request => (k.files fd).elim k fun f => k.configured fd f request
  | _ => k

/-- The kernel may answer so. -/
theorem permitted (board : Board) (k : Kernel) (c : Call) :
    kernelStep board k ⟨c, host.reply k c⟩ (host.next k c) := by
  have hfailed : (-1 : Int32) < 0 := by decide
  have hshort : (-1 : Int64) < 0 := by decide
  have hopened : ¬(3 : Int32) < 0 := by decide
  have hdone : ¬(0 : Int32) < 0 := by decide
  have hmissing : (-1 : Int32) ≠ 0 := by decide
  cases c with
  | libc | close | ioctlMessage => rfl
  | read fd count => exact ⟨rfl, nofun⟩
  | write fd data => exact Or.inl ⟨hshort, rfl⟩
  | stat path => exact ⟨rfl, fun h => absurd h hmissing⟩
  | «open» path flag =>
    by_cases h : path = host.path ∧ k.files 3 = none
    · obtain ⟨rest, hrest⟩ := host.isDevice
      simp only [reply, next, if_pos h]
      refine Or.inr ⟨hopened, ?_, h.2, rfl⟩
      rw [h.1, hrest]
      exact present_device _ rest
    · simp only [reply, next, if_neg h]
      exact Or.inl ⟨hfailed, rfl⟩
  | ioctl fd request =>
    cases h : k.files fd with
    | none =>
      simp only [reply, next, h]
      exact Or.inl ⟨hfailed, rfl⟩
    | some f =>
      simp only [reply, next, h]
      exact Or.inr ⟨hdone, f, h, rfl⟩

/-- The kernel, with the answers to the SPI transfers that are still to come. -/
def scriptedKernel (board : Board) : Env Call Reply (Kernel × List (Int32 × List UInt8)) :=
  ⟨fun s e s' => kernelStep board s.1 e s'.1⟩

/-- The device with these answers; when there are no more, transfers fail. -/
def scripted (board : Board) : Responder (scriptedKernel board) where
  answer
    | s, .ioctlMessage .. => s.2.headD (-1, [])
    | s, c => host.reply s.1 c
  next
    | s, .ioctlMessage .. => (s.1, s.2.tail)
    | s, c => (host.next s.1 c, s.2)
  permitted s c := by
    have hkernel := host.permitted board s.1 c
    cases c with
    | _ => exact hkernel

end DeviceHost

end McuPeripheral.Linuxdev
