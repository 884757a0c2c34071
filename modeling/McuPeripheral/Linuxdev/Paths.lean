import McuPeripheral.Linuxdev.Model

/-!
# The file names of the Linux device backend

The rendered names fit their buffers for every `int`, and names rendered for
different pins or for different attributes are different. Together this keeps
the pins of the sysfs tree apart. The name of an SPI device may be cut off, so
nothing of the kind is claimed for it.
-/

namespace McuPeripheral.Linuxdev

open Libc

/-- A rendered number fits the buffer of 32 bytes. -/
theorem snprintf_decimal (n : Int32) : snprintf 32 (decimal n.toInt) = decimal n.toInt := by
  have h := length_decimal_int32 n
  exact snprintf_eq (by omega)

/-- The name of the export file fits its buffer. -/
theorem snprintf_exportPath : snprintf 64 exportPath = exportPath := snprintf_eq (by decide)

/-- The length of a pin's directory name. -/
theorem length_gpioPath (pin : Int32) :
    (gpioPath pin).length = 20 + (decimal pin.toInt).length := by
  have hname : "/sys/class/gpio/gpio".toList.length = 20 := by decide
  unfold gpioPath
  generalize decimal pin.toInt = digits
  rw [List.length_append, hname]

/-- The name of a pin's directory fits its buffer. -/
theorem snprintf_gpioPath (pin : Int32) : snprintf 64 (gpioPath pin) = gpioPath pin := by
  have h := length_decimal_int32 pin
  have hlength := length_gpioPath pin
  exact snprintf_eq (by omega)

/-- A file with a short name in a pin's directory fits the buffer. -/
theorem snprintf_gpioPath_append (pin : Int32) {name : List Char} (hname : name.length ≤ 32) :
    snprintf 64 (gpioPath pin ++ name) = gpioPath pin ++ name := by
  have h := length_decimal_int32 pin
  have hlength := length_gpioPath pin
  have hsum : (gpioPath pin ++ name).length = (gpioPath pin).length + name.length :=
    List.length_append
  exact snprintf_eq (by omega)

/-- The name of a direction file fits its buffer. -/
theorem snprintf_directionPath (pin : Int32) :
    snprintf 64 (directionPath pin) = directionPath pin :=
  snprintf_gpioPath_append pin (by decide)

/-- The name of a value file fits its buffer. -/
theorem snprintf_valuePath (pin : Int32) : snprintf 64 (valuePath pin) = valuePath pin :=
  snprintf_gpioPath_append pin (by decide)

/-- The name of an I2C device fits its buffer. -/
theorem snprintf_i2cPath (busnum : Int32) : snprintf 32 (i2cPath busnum) = i2cPath busnum := by
  have h := length_decimal_int32 busnum
  have hname : "/dev/i2c-".toList.length = 9 := by decide
  unfold i2cPath
  generalize decimal busnum.toInt = digits at h
  refine snprintf_eq ?_
  rw [List.length_append, hname]
  omega

/-- Different pins have different directories. -/
theorem gpioPath_injective : Function.Injective gpioPath := by
  intro p q h
  exact Int32.toInt_inj.mp (decimal_injective (List.append_cancel_left h))

/-- Different pins have different direction files. -/
theorem directionPath_injective : Function.Injective directionPath := by
  intro p q h
  exact gpioPath_injective (List.append_cancel_right h)

/-- Different pins have different value files. -/
theorem valuePath_injective : Function.Injective valuePath := by
  intro p q h
  exact gpioPath_injective (List.append_cancel_right h)

/-- A direction file is not a value file. -/
theorem directionPath_ne_valuePath (p q : Int32) : directionPath p ≠ valuePath q := by
  intro h
  have hlast := congrArg List.getLast? h
  simp [directionPath, valuePath] at hlast

/-- A file in a pin's directory is neither the export nor the unexport file. -/
theorem gpioPath_append_ne (pin : Int32) (name : List Char) :
    gpioPath pin ++ name ≠ exportPath ∧ gpioPath pin ++ name ≠ unexportPath := by
  unfold gpioPath exportPath unexportPath
  generalize decimal pin.toInt = digits
  simp

/-- A rendered number contains no slash. -/
theorem slash_notMem_decimal (n : ℤ) : '/' ∉ decimal n := by
  intro h
  rcases mem_decimal h with h | h <;> exact absurd h (by decide)

/-- A pin's directory is not a file inside a pin's directory. -/
theorem gpioPath_ne_append (p q : Int32) (name : List Char) :
    gpioPath p ≠ gpioPath q ++ '/' :: name := by
  intro h
  have hassoc : "/sys/class/gpio/gpio".toList ++ decimal p.toInt =
      "/sys/class/gpio/gpio".toList ++ (decimal q.toInt ++ '/' :: name) := by
    rw [← List.append_assoc]
    exact h
  have hcancel := List.append_cancel_left hassoc
  exact slash_notMem_decimal p.toInt (by simp [hcancel])

end McuPeripheral.Linuxdev
