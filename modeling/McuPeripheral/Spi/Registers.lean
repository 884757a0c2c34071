import McuPeripheral.Calls.Registers

/-!
# Devices with registers on an SPI bus

A transfer of two bytes is a command and a value. The command names a register and says
whether it is read or written. Some registers are measured: they change on their own, between
any two transfers. The others are settings, and change only when they are written.
-/

namespace Spi

open Calls

/-- The registers of a device. -/
structure Registers (κ : Type*) where
  /-- The register a command names. -/
  select : UInt8 → κ
  /-- The command reads it. -/
  reads : UInt8 → Bool
  /-- The register changes on its own. -/
  measured : κ → Bool

namespace Registers

variable {κ : Type*} (M : Registers κ)

/-- The registers that change only when they are written. -/
@[reducible] def Setting : Type _ := {r : κ // M.measured r = false}

/-- The contents of the settings. -/
def settings (content : κ → UInt8) : M.Setting → UInt8 := fun r => content r

/-- Measured registers may have changed. -/
def Drifts (content content' : κ → UInt8) : Prop :=
  ∀ r, M.measured r = false → content' r = content r

variable {M} {content content' : κ → UInt8} {command value : UInt8}

/-- The settings do not drift. -/
theorem Drifts.settings_eq (h : M.Drifts content content') :
    M.settings content' = M.settings content := funext fun r => h r r.property

variable [DecidableEq κ]

variable (M content command value) in
/-- What the registers hold after a transfer. -/
def after : κ → UInt8 :=
  if M.reads command then content else Function.update content (M.select command) value

/-- A transfer that reads changes nothing. -/
theorem after_of_reads (h : M.reads command = true) : M.after content command value = content :=
  if_pos h

/-- A transfer that writes a setting writes that one only. -/
theorem settings_after {r : M.Setting} (hwrites : M.reads command = false)
    (hselect : M.select command = r) :
    M.settings (M.after content command value) = written (M.settings content) [(r, value)] := by
  have hnot : ¬M.reads command = true := by simp [hwrites]
  rw [after, if_neg hnot, hselect, written_singleton]
  funext q
  by_cases hq : q = r
  · subst hq
    rw [Function.update_self]
    exact Function.update_self ..
  · rw [Function.update_of_ne hq]
    exact Function.update_of_ne (fun h => hq (Subtype.ext h)) ..

end Registers

end Spi
