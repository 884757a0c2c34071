import McuPeripheral.Calls.Session
import McuPeripheral.Linuxdev.Executions
import Mathlib.Logic.Function.Basic

/-!
# The kernel behind the Linux device backend

A descriptor table and the sysfs tree of the GPIO pins. Every system call may
fail, and `open` may hand out any descriptor that is not in use. The tree is
addressed by file name only: a descriptor remembers the name it was opened
with, and what a write means is decided by that name.
-/

namespace McuPeripheral.Linuxdev

open Calls Libc

/-- What the kernel knows about an open descriptor. -/
structure OpenFile where
  /-- The name it was opened with. -/
  path : List Char
  /-- The I2C slave address selected for it. -/
  slave : Option Int32
  /-- The SPI mode set for it. -/
  mode : Option UInt8
  /-- The SPI speed set for it. -/
  speed : Option UInt32
  deriving DecidableEq, Repr

/-- A file that was just opened. -/
def OpenFile.fresh (path : List Char) : OpenFile := ⟨path, none, none, none⟩

/-- The effect of an accepted `ioctl`. -/
def OpenFile.configure (f : OpenFile) : Ioctl → OpenFile
  | .i2cSlave addr => { f with slave := some addr }
  | .spiIocWrMode mode => { f with mode := some mode }
  | .spiIocWrMaxSpeedHz speed => { f with speed := some speed }

/-- The contents of a pin's `direction` file. -/
inductive Direction
  | input
  | output
  deriving DecidableEq, Repr

/-- An exported pin. -/
structure Pin where
  /-- Input or output. -/
  direction : Direction
  /-- The level an output drives. -/
  level : Bool
  deriving DecidableEq, Repr

/-- The direction written by the text of `directionText`. -/
def Direction.ofOutput (isOutput : Bool) : Direction := if isOutput then .output else .input

/-- The parts of the kernel state the backend depends on. -/
structure Kernel where
  /-- The descriptors in use. -/
  files : Int32 → Option OpenFile
  /-- The exported pins. -/
  pins : Int32 → Option Pin

namespace Kernel

/-- After handing out a descriptor. -/
def opened (k : Kernel) (fd : Int32) (path : List Char) : Kernel :=
  { k with files := Function.update k.files fd (some (.fresh path)) }

/-- After releasing a descriptor. -/
def closed (k : Kernel) (fd : Int32) : Kernel :=
  { k with files := Function.update k.files fd none }

/-- After an accepted `ioctl` on the file `f`. -/
def configured (k : Kernel) (fd : Int32) (f : OpenFile) (request : Ioctl) : Kernel :=
  { k with files := Function.update k.files fd (some (f.configure request)) }

@[simp] theorem opened_pins (k : Kernel) (fd : Int32) (path : List Char) :
    (k.opened fd path).pins = k.pins := rfl

@[simp] theorem closed_pins (k : Kernel) (fd : Int32) : (k.closed fd).pins = k.pins := rfl

@[simp] theorem configured_pins (k : Kernel) (fd : Int32) (f : OpenFile) (request : Ioctl) :
    (k.configured fd f request).pins = k.pins := rfl

@[simp] theorem opened_files_self (k : Kernel) (fd : Int32) (path : List Char) :
    (k.opened fd path).files fd = some (.fresh path) := Function.update_self ..

@[simp] theorem closed_files_self (k : Kernel) (fd : Int32) : (k.closed fd).files fd = none :=
  Function.update_self ..

@[simp] theorem configured_files_self (k : Kernel) (fd : Int32) (f : OpenFile) (request : Ioctl) :
    (k.configured fd f request).files fd = some (f.configure request) := Function.update_self ..

/-- Releasing a descriptor that was just handed out restores the table. -/
theorem opened_closed_files (k : Kernel) {fd : Int32} (h : k.files fd = none) (path : List Char) :
    ((k.opened fd path).closed fd).files = k.files := by
  simp only [opened, closed, Function.update_idem]
  rw [← h, Function.update_eq_self]

/-- So does releasing it after it was configured. -/
theorem configured_closed_files (k : Kernel) (fd : Int32) (f : OpenFile) (request : Ioctl) :
    ((k.configured fd f request).closed fd).files = (k.closed fd).files := by
  simp only [configured, closed, Function.update_idem]

end Kernel

/-- What the kernel fixes about the GPIO hardware. -/
structure Board where
  /-- The pin numbers that can be exported. -/
  available : Int32 → Prop
  /-- The direction a pin has when it is exported. -/
  direction : Int32 → Direction

/-- A file of the pin tree exists only while its pin is exported. -/
def Present (pins : Int32 → Option Pin) (path : List Char) : Prop :=
  ∀ pin, path = gpioPath pin ∨ path = directionPath pin ∨ path = valuePath pin →
    (pins pin).isSome

/-- A file that acts on the pins when written. -/
def ControlsPins (path : List Char) : Prop :=
  path = exportPath ∨ path = unexportPath ∨
    ∃ pin, path = directionPath pin ∨ path = valuePath pin

/-- An accepted write and its effect on the pins. -/
inductive SysfsWrite (board : Board) (pins : Int32 → Option Pin) :
    List Char → List UInt8 → (Int32 → Option Pin) → Prop
  | exportPin (pin : Int32) (p : Pin) : board.available pin → pins pin = none →
      p.direction = board.direction pin →
      SysfsWrite board pins exportPath (bytes (decimal pin.toInt))
        (Function.update pins pin (some p))
  | unexportPin (pin : Int32) (p : Pin) : pins pin = some p →
      SysfsWrite board pins unexportPath (bytes (decimal pin.toInt))
        (Function.update pins pin none)
  | directionOut (pin : Int32) (p : Pin) : pins pin = some p →
      SysfsWrite board pins (directionPath pin) (directionText true)
        (Function.update pins pin (some ⟨.output, false⟩))
  | directionIn (pin : Int32) (p : Pin) (level : Bool) : pins pin = some p →
      SysfsWrite board pins (directionPath pin) (directionText false)
        (Function.update pins pin (some ⟨.input, level⟩))
  | value (pin : Int32) (level high : Bool) : pins pin = some ⟨.output, level⟩ →
      SysfsWrite board pins (valuePath pin) (valueText high)
        (Function.update pins pin (some ⟨.output, high⟩))
  | device (path : List Char) (data : List UInt8) : ¬ControlsPins path →
      SysfsWrite board pins path data pins

/-- What a `value` file contains: the level, which for an output is the one it
drives, and a newline. -/
def ValueContents (p : Pin) (data : List UInt8) : Prop :=
  ∃ level, (p.direction = .output → level = p.level) ∧ data = valueText level ++ [10]

/-- One step of the kernel. `close` releases the descriptor whatever it answers, and
the value files are read from their start. -/
def kernelStep (board : Board) : Kernel → Event Call Reply → Kernel → Prop
  | k, ⟨.libc _, _⟩, k' => k' = k
  | k, ⟨.open path _, fd⟩, k' =>
    (fd < 0 ∧ k' = k) ∨
    (¬fd < 0 ∧ Present k.pins path ∧ k.files fd = none ∧ k' = k.opened fd path)
  | k, ⟨.close fd, _⟩, k' => k' = k.closed fd
  | k, ⟨.read fd count, buf⟩, k' =>
    k' = k ∧ ∀ data, buf = some data → data.length ≤ count.toNat ∧
      ∃ f, k.files fd = some f ∧ ∀ pin p, f.path = valuePath pin → k.pins pin = some p →
        ∃ contents, ValueContents p contents ∧ data = contents.take count.toNat
  | k, ⟨.write fd data, n⟩, k' =>
    (n < 0 ∧ k' = k) ∨
    (¬n < 0 ∧ n.toInt ≤ data.length ∧ ∃ f pins', k.files fd = some f ∧
      SysfsWrite board k.pins f.path data pins' ∧ k' = { k with pins := pins' })
  | k, ⟨.ioctl fd request, ret⟩, k' =>
    (ret < 0 ∧ k' = k) ∨ (¬ret < 0 ∧ ∃ f, k.files fd = some f ∧ k' = k.configured fd f request)
  | k, ⟨.ioctlMessage .., _⟩, k' => k' = k
  | k, ⟨.stat path, st⟩, k' => k' = k ∧ (st = 0 → Present k.pins path)

/-- The kernel as an environment in which every system call may fail. -/
def kernel (board : Board) : Env Call Reply Kernel := ⟨kernelStep board⟩

/-- A board on which every pin can be exported, as an input. -/
def Board.allInputs : Board := ⟨fun _ => True, fun _ => .input⟩

/-- A kernel with no descriptor in use and no pin exported. -/
def Kernel.idle : Kernel := ⟨fun _ => none, fun _ => none⟩

/-! ## What an accepted write does -/

section Writes

variable {board : Board} {pins pins' : Int32 → Option Pin} {pin : Int32}

/-- Writing a pin number to the export file exports that pin, which was not exported. -/
theorem sysfsWrite_export
    (h : SysfsWrite board pins exportPath (bytes (decimal pin.toInt)) pins') :
    pins pin = none ∧ ∃ p, p.direction = board.direction pin ∧
      pins' = Function.update pins pin (some p) := by
  generalize hpath : exportPath = path at h
  generalize hdata : bytes (decimal pin.toInt) = data at h
  cases h with
  | exportPin pin' p _ hnone hdir =>
    obtain rfl : pin = pin' := Int32.toInt_inj.mp (bytes_decimal_injective hdata)
    exact ⟨hnone, p, hdir, rfl⟩
  | unexportPin pin' p => exact absurd hpath (by decide)
  | directionOut pin' p => exact absurd hpath.symm (gpioPath_append_ne pin' _).1
  | directionIn pin' p => exact absurd hpath.symm (gpioPath_append_ne pin' _).1
  | value pin' => exact absurd hpath.symm (gpioPath_append_ne pin' _).1
  | device _ _ hnot => exact absurd (Or.inl hpath.symm) hnot

/-- Writing a direction sets it, and an output drives a low level. -/
theorem sysfsWrite_direction {isOutput : Bool}
    (h : SysfsWrite board pins (directionPath pin) (directionText isOutput) pins') :
    (pins pin).isSome ∧ ∃ p, p.direction = .ofOutput isOutput ∧
      (isOutput = true → p.level = false) ∧ pins' = Function.update pins pin (some p) := by
  generalize hpath : directionPath pin = path at h
  generalize hdata : directionText isOutput = data at h
  cases h with
  | exportPin pin' => exact absurd hpath (gpioPath_append_ne pin _).1
  | unexportPin pin' => exact absurd hpath (gpioPath_append_ne pin _).2
  | directionOut pin' p hp =>
    obtain rfl := directionPath_injective hpath
    obtain rfl : isOutput = true := by
      cases isOutput with
      | true => rfl
      | false => exact absurd hdata (by decide)
    exact ⟨by rw [hp]; rfl, _, rfl, fun _ => rfl, rfl⟩
  | directionIn pin' p level hp =>
    obtain rfl := directionPath_injective hpath
    obtain rfl : isOutput = false := by
      cases isOutput with
      | true => exact absurd hdata (by decide)
      | false => rfl
    exact ⟨by rw [hp]; rfl, ⟨.input, level⟩, rfl, by simp, rfl⟩
  | value pin' => exact absurd hpath (directionPath_ne_valuePath pin pin')
  | device _ _ hnot => exact absurd (Or.inr (Or.inr ⟨pin, Or.inl hpath.symm⟩)) hnot

/-- Writing a level sets it, and is accepted by outputs only. -/
theorem sysfsWrite_value {high : Bool}
    (h : SysfsWrite board pins (valuePath pin) (valueText high) pins') :
    (∃ level, pins pin = some ⟨.output, level⟩) ∧
      pins' = Function.update pins pin (some ⟨.output, high⟩) := by
  generalize hpath : valuePath pin = path at h
  generalize hdata : valueText high = data at h
  cases h with
  | exportPin pin' => exact absurd hpath (gpioPath_append_ne pin _).1
  | unexportPin pin' => exact absurd hpath (gpioPath_append_ne pin _).2
  | directionOut pin' => exact absurd hpath.symm (directionPath_ne_valuePath pin' pin)
  | directionIn pin' => exact absurd hpath.symm (directionPath_ne_valuePath pin' pin)
  | value pin' level high' hp =>
    obtain rfl := valuePath_injective hpath
    obtain rfl : high = high' := by
      cases high <;> cases high' <;> first | rfl | exact absurd hdata (by decide)
    exact ⟨⟨level, hp⟩, rfl⟩
  | device _ _ hnot => exact absurd (Or.inr (Or.inr ⟨pin, Or.inr hpath.symm⟩)) hnot

end Writes

end McuPeripheral.Linuxdev
