import McuPeripheral.AllocSizes
import McuPeripheral.Linuxdev.Paths

/-!
# The executions of the Linux device backend

For each function of the model the complete list of its executions: which system
calls it makes, in which order, with which replies, and what it returns for them.
Everything later proved about the backend is read off these lists.
-/

namespace McuPeripheral.Linuxdev

open Calls Libc

variable {tr : List (Event Call Reply)}

/-- Opening an attribute either fails, or is followed by one write and the close. -/
theorem writeAttribute_path {path : List Char} {text : List UInt8} {r : McuprResult} :
    (writeAttribute path text).Path tr r ↔
      (∃ fd, fd < 0 ∧ tr = [⟨.open path .wronly, fd⟩] ∧ r = .ioError) ∨
      ∃ fd n c, ¬fd < 0 ∧ r = .ok ∧
        tr = [⟨.open path .wronly, fd⟩, ⟨.write fd text, n⟩, ⟨.close fd, c⟩] := by
  simp only [writeAttribute, openFile, write, close, Prog.path_ask_bind, Prog.path_ite,
    Prog.path_pure]
  constructor
  · rintro ⟨fd, _, rfl, ⟨hfd, rfl, rfl⟩ | ⟨hfd, n, _, rfl, c, _, rfl, rfl, rfl⟩⟩
    · exact Or.inl ⟨fd, hfd, rfl, rfl⟩
    · exact Or.inr ⟨fd, n, c, hfd, rfl, rfl⟩
  · rintro (⟨fd, hfd, rfl, rfl⟩ | ⟨fd, n, c, hfd, rfl, rfl⟩)
    · exact ⟨fd, _, rfl, Or.inl ⟨hfd, rfl, rfl⟩⟩
    · exact ⟨fd, _, rfl, Or.inr ⟨hfd, n, _, rfl, c, _, rfl, rfl, rfl⟩⟩

/-- An export fails at the open, or writes the pin number, closes, and asks for the
pin's directory; the reply to the write is not looked at. -/
theorem sysfsGpioExport_path {pin : Int32} {r : McuprResult} :
    (sysfsGpioExport pin).Path tr r ↔
      (∃ fd, fd < 0 ∧ r = .ioError ∧ tr = [⟨.open exportPath .wronly, fd⟩]) ∨
      ∃ fd n c st, ¬fd < 0 ∧ r = (if st ≠ 0 then .ioError else .ok) ∧
        tr = [⟨.open exportPath .wronly, fd⟩,
          ⟨.write fd (bytes (decimal pin.toInt)), n⟩, ⟨.close fd, c⟩,
          ⟨.stat (gpioPath pin), st⟩] := by
  simp only [sysfsGpioExport, snprintf_exportPath, snprintf_gpioPath, snprintf_decimal]
  simp only [openFile, write, close, stat, Prog.path_ask_bind, Prog.path_ite,
    Prog.path_pure]
  constructor
  · rintro ⟨fd, _, rfl, ⟨hfd, rfl, rfl⟩ | ⟨hfd, n, _, rfl, c, _, rfl, st, _, rfl, h⟩⟩
    · exact Or.inl ⟨fd, hfd, rfl, rfl⟩
    · obtain ⟨hst, rfl, rfl⟩ | ⟨hst, rfl, rfl⟩ := h
      · exact Or.inr ⟨fd, n, c, st, hfd, (if_pos hst).symm, rfl⟩
      · exact Or.inr ⟨fd, n, c, st, hfd, (if_neg hst).symm, rfl⟩
  · rintro (⟨fd, hfd, rfl, rfl⟩ | ⟨fd, n, c, st, hfd, rfl, rfl⟩)
    · exact ⟨fd, _, rfl, Or.inl ⟨hfd, rfl, rfl⟩⟩
    · refine ⟨fd, _, rfl, Or.inr ⟨hfd, n, _, rfl, c, _, rfl, st, _, rfl, ?_⟩⟩
      by_cases hst : st ≠ 0
      · exact Or.inl ⟨hst, rfl, if_pos hst⟩
      · exact Or.inr ⟨hst, rfl, if_neg hst⟩

/-- Reading a value fails at the open, or reads once and closes. -/
theorem sysfsGpioReadValue_path {stale : UInt8} {pin r : Int32} :
    (sysfsGpioReadValue stale pin).Path tr r ↔
      (∃ fd, fd < 0 ∧ r = McuprResult.ioError.code ∧
        tr = [⟨.open (valuePath pin) .rdonly, fd⟩]) ∨
      ∃ (fd : Int32) (buf : Option (List UInt8)) (c : Int32), ¬fd < 0 ∧
        r = buf.elim McuprResult.ioError.code
          (fun buf => if buf.headD stale = '1'.toUInt8 then 1 else 0) ∧
        tr = [⟨.open (valuePath pin) .rdonly, fd⟩, ⟨.read fd 4, buf⟩,
          ⟨.close fd, c⟩] := by
  simp only [sysfsGpioReadValue, snprintf_valuePath]
  simp only [openFile, read, close, Prog.path_ask_bind, Prog.path_ite,
    Prog.path_pure]
  constructor
  · rintro ⟨fd, _, rfl, ⟨hfd, rfl, rfl⟩ | ⟨hfd, buf, _, rfl, h⟩⟩
    · exact Or.inl ⟨fd, hfd, rfl, rfl⟩
    · cases buf with
      | none =>
        obtain ⟨c, _, rfl, rfl, rfl⟩ := h
        exact Or.inr ⟨fd, none, c, hfd, rfl, rfl⟩
      | some buf =>
        obtain ⟨c, _, rfl, rfl, rfl⟩ := h
        exact Or.inr ⟨fd, some buf, c, hfd, rfl, rfl⟩
  · rintro (⟨fd, hfd, rfl, rfl⟩ | ⟨fd, buf, c, hfd, rfl, rfl⟩)
    · exact ⟨fd, _, rfl, Or.inl ⟨hfd, rfl, rfl⟩⟩
    · refine ⟨fd, _, rfl, Or.inr ⟨hfd, buf, _, rfl, ?_⟩⟩
      cases buf with
      | none => exact ⟨c, _, rfl, rfl, rfl⟩
      | some buf => exact ⟨c, _, rfl, rfl, rfl⟩

/-- Opening a pin is an export, and after a successful one the direction. -/
theorem mcuprGpioOpen_path {dev pin dev' : Int32} {mode : McuprGpioMode} {r : McuprResult} :
    (mcuprGpioOpen dev pin mode).Path tr (r, dev') ↔
      (r ≠ .ok ∧ dev' = dev ∧ (sysfsGpioExport pin).Path tr r) ∨
      ∃ tr₁ tr₂, tr = tr₁ ++ tr₂ ∧ dev' = pin ∧ (sysfsGpioExport pin).Path tr₁ .ok ∧
        (sysfsGpioSetDir pin (mode = .output)).Path tr₂ r := by
  simp only [mcuprGpioOpen, Prog.path_bind, Prog.path_ite, Prog.path_pure]
  constructor
  · rintro ⟨tr₁, r₁, tr₂, rfl, hexport, ⟨hr, rfl, h⟩ | ⟨hr, tr₃, r₂, _, rfl, hdir, rfl, h⟩⟩
    · obtain ⟨rfl, rfl⟩ := Prod.mk.inj h
      exact Or.inl ⟨hr, rfl, by simpa using hexport⟩
    · obtain ⟨rfl, rfl⟩ := Prod.mk.inj h
      obtain rfl : r₁ = .ok := not_not.mp hr
      exact Or.inr ⟨tr₁, tr₃, by simp, rfl, hexport, hdir⟩
  · rintro (⟨hr, rfl, hexport⟩ | ⟨tr₁, tr₂, rfl, rfl, hexport, hdir⟩)
    · exact ⟨tr, r, [], by simp, hexport, Or.inl ⟨hr, rfl, rfl⟩⟩
    · exact ⟨tr₁, .ok, tr₂, rfl, hexport, Or.inr ⟨by simp, tr₂, r, [], by simp, hdir, rfl, rfl⟩⟩

/-- Writing a pin is one attribute write; its result is dropped. -/
theorem mcuprGpioWrite_path {dev value : Int32} {u : Unit} :
    (mcuprGpioWrite dev value).Path tr u ↔
      ∃ r, (sysfsGpioWriteValue dev value).Path tr r := by
  simp only [mcuprGpioWrite, Prog.path_bind, Prog.path_pure]
  constructor
  · rintro ⟨tr₁, r, _, rfl, h, rfl, -⟩
    exact ⟨r, by simpa using h⟩
  · rintro ⟨r, h⟩
    exact ⟨tr, r, [], by simp, h, rfl, trivial⟩

/-- Opening an I2C device fails at the open, or selects the slave; if that fails the
descriptor is closed again. -/
theorem mcuprI2cOpen_path {self : Ptr} {priv : I2cData} {dev addr dev' : Int32}
    {r : McuprResult} :
    (mcuprI2cOpen (some ⟨self, some priv⟩) dev addr).Path tr (r, dev') ↔
      (∃ fd, fd < 0 ∧ r = .nodev ∧ dev' = dev ∧
        tr = [⟨.open (i2cPath priv.busnum) .rdwr, fd⟩]) ∨
      (∃ fd ret c, ¬fd < 0 ∧ ret < 0 ∧ r = .ioError ∧ dev' = dev ∧
        tr = [⟨.open (i2cPath priv.busnum) .rdwr, fd⟩, ⟨.ioctl fd (.i2cSlave addr), ret⟩,
          ⟨.close fd, c⟩]) ∨
      ∃ fd ret, ¬fd < 0 ∧ ¬ret < 0 ∧ r = .ok ∧ dev' = fd ∧
        tr = [⟨.open (i2cPath priv.busnum) .rdwr, fd⟩, ⟨.ioctl fd (.i2cSlave addr), ret⟩] := by
  simp only [mcuprI2cOpen, snprintf_i2cPath]
  simp only [openFile, ioctl, close, Prog.path_ask_bind, Prog.path_ite, Prog.path_pure,
    Prod.mk.injEq]
  constructor
  · rintro ⟨fd, _, rfl, ⟨hfd, rfl, rfl, rfl⟩ | ⟨hfd, ret, _, rfl, h⟩⟩
    · exact Or.inl ⟨fd, hfd, rfl, rfl, rfl⟩
    · obtain ⟨hret, c, _, rfl, rfl, rfl, rfl⟩ | ⟨hret, rfl, rfl, rfl⟩ := h
      · exact Or.inr (Or.inl ⟨fd, ret, c, hfd, hret, rfl, rfl, rfl⟩)
      · exact Or.inr (Or.inr ⟨_, ret, hfd, hret, rfl, rfl, rfl⟩)
  · rintro (⟨fd, hfd, rfl, rfl, rfl⟩ | ⟨fd, ret, c, hfd, hret, rfl, rfl, rfl⟩ |
      ⟨fd, ret, hfd, hret, rfl, rfl, rfl⟩)
    · exact ⟨fd, _, rfl, Or.inl ⟨hfd, rfl, rfl, rfl⟩⟩
    · exact ⟨fd, _, rfl, Or.inr ⟨hfd, ret, _, rfl, Or.inl ⟨hret, c, _, rfl, rfl, rfl, rfl⟩⟩⟩
    · exact ⟨_, _, rfl, Or.inr ⟨hfd, ret, _, rfl, Or.inr ⟨hret, rfl, rfl, rfl⟩⟩⟩

/-- Closing a handle on a live bus closes it, unless it is negative. -/
theorem mcuprI2cClose_path {self : Ptr} {priv : I2cData} {dev : Int32} {u : Unit} :
    (mcuprI2cClose (some ⟨self, some priv⟩) dev).Path tr u ↔
      (¬0 ≤ dev ∧ tr = []) ∨ ∃ c, 0 ≤ dev ∧ tr = [⟨.close dev, c⟩] := by
  simp only [mcuprI2cClose, close, Prog.path_ask_bind, Prog.path_ite, Prog.path_pure]
  constructor
  · rintro (⟨hdev, c, _, rfl, rfl, -⟩ | ⟨hdev, rfl, -⟩)
    · exact Or.inr ⟨c, hdev, rfl⟩
    · exact Or.inl ⟨hdev, rfl⟩
  · rintro (⟨hdev, rfl⟩ | ⟨c, hdev, rfl⟩)
    · exact Or.inr ⟨hdev, rfl, trivial⟩
    · exact Or.inl ⟨hdev, c, _, rfl, rfl, trivial⟩

/-- A write on a live bus is refused for a negative handle, and is one `write` otherwise. -/
theorem mcuprI2cWrite_path {self : Ptr} {priv : I2cData} {dev r : Int32} {data : List UInt8}
    {size : UInt32} :
    (mcuprI2cWrite (some ⟨self, some priv⟩) dev data size).Path tr r ↔
      (dev < 0 ∧ r = McuprResult.ioError.code ∧ tr = []) ∨
      ∃ ret : Int64, ¬dev < 0 ∧
        r = (if ret < 0 then McuprResult.ioError.code else ret.toInt32) ∧
        tr = [⟨.write dev (data.take size.toNat), ret⟩] := by
  simp only [mcuprI2cWrite, write, Prog.path_ask_bind, Prog.path_ite, Prog.path_pure]
  constructor
  · rintro (⟨hdev, rfl, rfl⟩ | ⟨hdev, ret, _, rfl, ⟨hret, rfl, rfl⟩ | ⟨hret, rfl, rfl⟩⟩)
    · exact Or.inl ⟨hdev, rfl, rfl⟩
    · exact Or.inr ⟨ret, hdev, (if_pos hret).symm, rfl⟩
    · exact Or.inr ⟨ret, hdev, (if_neg hret).symm, rfl⟩
  · rintro (⟨hdev, rfl, rfl⟩ | ⟨ret, hdev, rfl, rfl⟩)
    · exact Or.inl ⟨hdev, rfl, rfl⟩
    · refine Or.inr ⟨hdev, ret, _, rfl, ?_⟩
      by_cases hret : ret < 0
      · exact Or.inl ⟨hret, rfl, if_pos hret⟩
      · exact Or.inr ⟨hret, rfl, if_neg hret⟩

/-- A read on a live bus is refused for a negative handle, and is one `read` otherwise. -/
theorem mcuprI2cRead_path {self : Ptr} {priv : I2cData} {dev : Int32} {size : UInt32}
    {r : Int32 × List UInt8} :
    (mcuprI2cRead (some ⟨self, some priv⟩) dev size).Path tr r ↔
      (dev < 0 ∧ r = (McuprResult.ioError.code, []) ∧ tr = []) ∨
      ∃ ret : Option (List UInt8), ¬dev < 0 ∧
        r = ret.elim (McuprResult.ioError.code, [])
          (fun data => ((Int64.ofNat data.length).toInt32, data)) ∧
        tr = [⟨.read dev size.toUInt64, ret⟩] := by
  simp only [mcuprI2cRead, read, Prog.path_ask_bind, Prog.path_ite, Prog.path_pure]
  constructor
  · rintro (⟨hdev, rfl, rfl⟩ | ⟨hdev, ret, _, rfl, h⟩)
    · exact Or.inl ⟨hdev, rfl, rfl⟩
    · cases ret with
      | none =>
        obtain ⟨rfl, rfl⟩ := h
        exact Or.inr ⟨none, hdev, rfl, rfl⟩
      | some data =>
        obtain ⟨rfl, rfl⟩ := h
        exact Or.inr ⟨some data, hdev, rfl, rfl⟩
  · rintro (⟨hdev, rfl, rfl⟩ | ⟨ret, hdev, rfl, rfl⟩)
    · exact Or.inl ⟨hdev, rfl, rfl⟩
    · refine Or.inr ⟨hdev, ret, _, rfl, ?_⟩
      cases ret with
      | none => exact ⟨rfl, rfl⟩
      | some data => exact ⟨rfl, rfl⟩

/-- The chip select that was used, given the environment variable that was read. -/
def chipSelect (csnum : Int32) : List (Event Call Reply) → Int32
  | ⟨.libc (.getenv _), some text⟩ :: _ => (strtol text).toInt32
  | _ => csnum

/-- Resolving the chip select reads at most one environment variable. -/
theorem resolveCsnum_path {csnum cs : Int32} :
    (resolveCsnum csnum).Path tr cs ↔
      (csnum.toUInt32 ≠ mcuprUnspecified ∧ tr = [] ∧ cs = csnum) ∨
      ∃ env : Option (List Char), csnum.toUInt32 = mcuprUnspecified ∧
        tr = [⟨.libc (.getenv "MCUPR_SPI_BUSNUM"), env⟩] ∧ cs = chipSelect csnum tr := by
  simp only [resolveCsnum, Prog.path_ite, Prog.path_bind, Prog.path_lift_part, Prog.path_pure]
  constructor
  · rintro (⟨hcs, _, env, _, rfl, ⟨_, rfl, henv⟩, h⟩ | ⟨hcs, rfl, rfl⟩)
    · obtain rfl := Prog.path_ask.mp henv
      cases env with
      | none =>
        obtain ⟨rfl, rfl⟩ := h
        exact Or.inr ⟨none, hcs, rfl, rfl⟩
      | some text =>
        obtain ⟨rfl, rfl⟩ := h
        exact Or.inr ⟨some text, hcs, rfl, rfl⟩
    · exact Or.inl ⟨hcs, rfl, rfl⟩
  · rintro (⟨hcs, rfl, rfl⟩ | ⟨env, hcs, rfl, rfl⟩)
    · exact Or.inr ⟨hcs, rfl, rfl⟩
    · refine Or.inl ⟨hcs, _, env, [], rfl, ⟨_, rfl, Prog.path_ask.mpr rfl⟩, ?_⟩
      cases env with
      | none => exact ⟨rfl, rfl⟩
      | some text => exact ⟨rfl, rfl⟩

/-- What follows once the chip select is known does not change which one was used. -/
theorem chipSelect_append {csnum cs fd : Int32} {tr₁ rest : List (Event Call Reply)}
    {path : List Char} (h : (resolveCsnum csnum).Path tr₁ cs) :
    chipSelect csnum (tr₁ ++ ⟨.open path .rdwr, fd⟩ :: rest) = cs := by
  rcases resolveCsnum_path.mp h with ⟨-, rfl, rfl⟩ | ⟨env, -, rfl, rfl⟩
  · rfl
  · cases env <;> rfl

/-- Opening an SPI device sets the mode and the speed; whichever call fails, no
descriptor stays open. -/
theorem mcuprSpiOpen_path {bus : SpiBus} {dev csnum dev' : Int32} {r : McuprResult} :
    (mcuprSpiOpen bus dev csnum).Path tr (r, dev') ↔
      ∃ tr₁ cs tr₂, tr = tr₁ ++ tr₂ ∧ (resolveCsnum csnum).Path tr₁ cs ∧
      ((∃ fd, fd < 0 ∧ r = .ioError ∧ dev' = dev ∧
        tr₂ = [⟨.open (snprintf 32 (spiPath bus.params.busnum cs)) .rdwr, fd⟩]) ∨
      (∃ fd ret c, ¬fd < 0 ∧ ret < 0 ∧ r = .ioError ∧ dev' = dev ∧
        tr₂ = [⟨.open (snprintf 32 (spiPath bus.params.busnum cs)) .rdwr, fd⟩,
          ⟨.ioctl fd (.spiIocWrMode bus.params.mode.code), ret⟩, ⟨.close fd, c⟩]) ∨
      (∃ fd ret ret' c, ¬fd < 0 ∧ ¬ret < 0 ∧ ret' < 0 ∧ r = .ioError ∧ dev' = dev ∧
        tr₂ = [⟨.open (snprintf 32 (spiPath bus.params.busnum cs)) .rdwr, fd⟩,
          ⟨.ioctl fd (.spiIocWrMode bus.params.mode.code), ret⟩,
          ⟨.ioctl fd (.spiIocWrMaxSpeedHz bus.params.speed), ret'⟩, ⟨.close fd, c⟩]) ∨
      ∃ fd ret ret', ¬fd < 0 ∧ ¬ret < 0 ∧ ¬ret' < 0 ∧ r = .ok ∧ dev' = fd ∧
        tr₂ = [⟨.open (snprintf 32 (spiPath bus.params.busnum cs)) .rdwr, fd⟩,
          ⟨.ioctl fd (.spiIocWrMode bus.params.mode.code), ret⟩,
          ⟨.ioctl fd (.spiIocWrMaxSpeedHz bus.params.speed), ret'⟩]) := by
  unfold mcuprSpiOpen
  rw [Prog.path_bind]
  simp only [openFile, ioctl, close, Prog.path_ask_bind, Prog.path_ite, Prog.path_pure,
    Prod.mk.injEq]
  constructor
  · rintro ⟨tr₁, cs, tr₂, rfl, hcs, fd, _, rfl, h⟩
    refine ⟨tr₁, cs, _, rfl, hcs, ?_⟩
    obtain ⟨hfd, rfl, rfl, rfl⟩ | ⟨hfd, ret, _, rfl, h⟩ := h
    · exact Or.inl ⟨fd, hfd, rfl, rfl, rfl⟩
    obtain ⟨hret, c, _, rfl, rfl, rfl, rfl⟩ | ⟨hret, ret', _, rfl, h⟩ := h
    · exact Or.inr (Or.inl ⟨fd, ret, c, hfd, hret, rfl, rfl, rfl⟩)
    obtain ⟨hret', c, _, rfl, rfl, rfl, rfl⟩ | ⟨hret', rfl, rfl, rfl⟩ := h
    · exact Or.inr (Or.inr (Or.inl ⟨fd, ret, ret', c, hfd, hret, hret', rfl, rfl, rfl⟩))
    · exact Or.inr (Or.inr (Or.inr ⟨_, ret, ret', hfd, hret, hret', rfl, rfl, rfl⟩))
  · rintro ⟨tr₁, cs, tr₂, rfl, hcs, h⟩
    refine ⟨tr₁, cs, tr₂, rfl, hcs, ?_⟩
    obtain ⟨fd, hfd, rfl, rfl, rfl⟩ | ⟨fd, ret, c, hfd, hret, rfl, rfl, rfl⟩ |
      ⟨fd, ret, ret', c, hfd, hret, hret', rfl, rfl, rfl⟩ |
      ⟨fd, ret, ret', hfd, hret, hret', rfl, rfl, rfl⟩ := h
    · exact ⟨fd, _, rfl, Or.inl ⟨hfd, rfl, rfl, rfl⟩⟩
    · exact ⟨fd, _, rfl, Or.inr ⟨hfd, ret, _, rfl, Or.inl ⟨hret, c, _, rfl, rfl, rfl, rfl⟩⟩⟩
    · exact ⟨fd, _, rfl, Or.inr ⟨hfd, ret, _, rfl, Or.inr ⟨hret, ret', _, rfl,
        Or.inl ⟨hret', c, _, rfl, rfl, rfl, rfl⟩⟩⟩⟩
    · exact ⟨_, _, rfl, Or.inr ⟨hfd, ret, _, rfl, Or.inr ⟨hret, ret', _, rfl,
        Or.inr ⟨hret', rfl, rfl, rfl⟩⟩⟩⟩

/-- Closing an SPI handle closes the descriptor, whatever its number. -/
theorem mcuprSpiClose_path {dev : Int32} {u : Unit} :
    (mcuprSpiClose dev).Path tr u ↔ ∃ c, tr = [⟨.close dev, c⟩] := by
  simp only [mcuprSpiClose, close, Prog.path_ask_bind, Prog.path_pure]
  constructor
  · rintro ⟨c, _, rfl, rfl, -⟩
    exact ⟨c, rfl⟩
  · rintro ⟨c, rfl⟩
    exact ⟨c, _, rfl, rfl, trivial⟩

/-- A transfer is one message. -/
theorem mcuprSpiTransfer_path {dev length : Int32} {tx : List UInt8} {r : Int32 × List UInt8} :
    (mcuprSpiTransfer dev tx length).Path tr r ↔
      ∃ ret : Int32 × List UInt8,
        r = (if ret.1 < 0 then McuprResult.ioError.code else ret.1, ret.2) ∧
        tr = [⟨.ioctlMessage dev tx length.toUInt32, ret⟩] := by
  simp only [mcuprSpiTransfer, ioctlMessage, Prog.path_ask_bind, Prog.path_ite, Prog.path_pure]
  constructor
  · rintro ⟨ret, _, rfl, ⟨hret, rfl, rfl⟩ | ⟨hret, rfl, rfl⟩⟩
    · exact ⟨ret, by rw [if_pos hret], rfl⟩
    · exact ⟨ret, by rw [if_neg hret], rfl⟩
  · rintro ⟨ret, rfl, rfl⟩
    refine ⟨ret, _, rfl, ?_⟩
    by_cases hret : ret.1 < 0
    · exact Or.inl ⟨hret, rfl, by rw [if_pos hret]⟩
    · exact Or.inr ⟨hret, rfl, by rw [if_neg hret]⟩

/-! ## Creating and releasing -/

/-- Creating a chip is one allocation. -/
theorem mcuprGpioChipCreate_path {chipp chip : Option GpioChip} {r : McuprResult} :
    (mcuprGpioChipCreate chipp).Path tr (r, chip) ↔
      (r = .nomem ∧ chip = chipp ∧ tr = [⟨.libc (.calloc 12), none⟩]) ∨
      ∃ p : Ptr, r = .ok ∧ chip = some ⟨p, p.add 8⟩ ∧ tr = [⟨.libc (.calloc 12), some p⟩] := by
  rw [mcuprGpioChipCreate, calloc, Prog.path_lift_ask_bind]
  constructor
  · rintro ⟨_ | p, _, rfl, rfl, h⟩
    · obtain ⟨rfl, rfl⟩ := Prod.mk.inj h
      exact Or.inl ⟨rfl, rfl, rfl⟩
    · obtain ⟨rfl, rfl⟩ := Prod.mk.inj h
      exact Or.inr ⟨p, rfl, rfl, rfl⟩
  · rintro (⟨rfl, rfl, rfl⟩ | ⟨p, rfl, rfl, rfl⟩)
    · exact ⟨none, _, rfl, rfl, rfl⟩
    · exact ⟨some p, _, rfl, rfl, rfl⟩

/-- The bus number a parameter field is resolved to. -/
def resolveBusnum (busnum : Int32) : Int32 :=
  if busnum.toUInt32 = mcuprUnspecified then 0 else busnum

/-- Creating an I2C bus is one allocation. -/
theorem mcuprI2cBusCreate_path {busp bus : Option I2cBus} {params : McuprI2cBusParams}
    {r : McuprResult} :
    (mcuprI2cBusCreate busp params).Path tr (r, bus) ↔
      (r = .nomem ∧ bus = busp ∧ tr = [⟨.libc (.calloc 12), none⟩]) ∨
      ∃ p : Ptr, r = .ok ∧ tr = [⟨.libc (.calloc 12), some p⟩] ∧
        bus = some ⟨p, some ⟨resolveBusnum params.busnum.toInt32⟩⟩ := by
  rw [mcuprI2cBusCreate, calloc, Prog.path_lift_ask_bind]
  constructor
  · rintro ⟨_ | p, _, rfl, rfl, h⟩
    · obtain ⟨rfl, rfl⟩ := Prod.mk.inj h
      exact Or.inl ⟨rfl, rfl, rfl⟩
    · obtain ⟨rfl, rfl⟩ := Prod.mk.inj h
      exact Or.inr ⟨p, rfl, rfl, rfl⟩
  · rintro (⟨rfl, rfl, rfl⟩ | ⟨p, rfl, rfl, rfl⟩)
    · exact ⟨none, _, rfl, rfl, rfl⟩
    · exact ⟨some p, _, rfl, rfl, rfl⟩

/-- Releasing an I2C bus clears it and frees it. -/
theorem mcuprI2cBusRelease_path {self : Ptr} {priv : I2cData} {u : Unit} :
    (mcuprI2cBusRelease (some ⟨self, some priv⟩)).Path tr u ↔
      tr = [⟨.libc (.memset (self.add 8) 0 4), ()⟩, ⟨.libc (.memset self 0 8), ()⟩,
        ⟨.libc (.free self), ()⟩] := by
  rw [mcuprI2cBusRelease, memset, Prog.path_lift_ask_bind]
  constructor
  · rintro ⟨_, _, rfl, _, _, rfl, _, _, rfl, rfl, -⟩
    rfl
  · rintro rfl
    exact ⟨(), _, rfl, (), _, rfl, (), _, rfl, rfl, rfl⟩

/-- Creating an SPI bus is one allocation of the object with private data. -/
theorem mcuprSpiBusCreate_path {busp bus : Option SpiBus} {params : McuprSpiBusParams}
    {r : McuprResult} :
    (mcuprSpiBusCreate busp params).Path tr (r, bus) ↔
      (r = .nomem ∧ bus = busp ∧ tr = [⟨.libc (.calloc (requestedSize 24 24)), none⟩]) ∨
      ∃ buf : Ptr, r = .ok ∧
        bus = some ⟨buf.add 8, { params with busnum := resolveBusnum params.busnum }⟩ ∧
        tr = (allocCalls 24 16 24 buf).map fun e => ⟨.libc e.call, e.reply⟩ := by
  unfold mcuprSpiBusCreate
  rw [Prog.path_bind]
  simp only [Prog.path_lift_part, mcuprAllocObjectOf, spiBusLayout]
  constructor
  · rintro ⟨_, ⟨res, obj⟩, _, rfl, ⟨tr₀, rfl, halloc⟩, hrest⟩
    obtain ⟨rfl, rfl, rfl⟩ | ⟨buf, rfl, rfl, rfl⟩ := mcuprAllocObject_cases.mp halloc
    · obtain ⟨rfl, heq⟩ := hrest
      obtain ⟨rfl, rfl⟩ := Prod.mk.inj heq
      exact Or.inl ⟨rfl, rfl, rfl⟩
    · obtain ⟨rfl, heq⟩ := hrest
      obtain ⟨rfl, rfl⟩ := Prod.mk.inj heq
      exact Or.inr ⟨buf, rfl, rfl, List.append_nil _⟩
  · rintro (⟨rfl, rfl, rfl⟩ | ⟨buf, rfl, rfl, rfl⟩)
    · exact ⟨_, (.nomem, none), [], rfl,
        ⟨_, rfl, mcuprAllocObject_cases.mpr (Or.inl ⟨rfl, rfl, rfl⟩)⟩, rfl, rfl⟩
    · exact ⟨_, (.ok, some (buf.add 8)), [], (List.append_nil _).symm,
        ⟨_, rfl, mcuprAllocObject_cases.mpr (Or.inr ⟨buf, rfl, rfl, rfl⟩)⟩, rfl, rfl⟩

/-! ## Buses that are not there -/

section Refused

variable {bus : Option I2cBus} {dev : Int32} {size : UInt32}
  (hdead : ¬∃ self priv, bus = some ⟨self, some priv⟩)

include hdead

/-- An open is refused without a system call. -/
theorem mcuprI2cOpen_path_refused {addr : Int32} {r : McuprResult × Int32} :
    (mcuprI2cOpen bus dev addr).Path tr r ↔ tr = [] ∧ r = (.invalidObj, dev) :=
  McuprI2cBus.of_not_live hdead Iff.rfl fun _ => Iff.rfl

/-- A write is refused without a system call. -/
theorem mcuprI2cWrite_path_refused {data : List UInt8} {r : Int32} :
    (mcuprI2cWrite bus dev data size).Path tr r ↔
      tr = [] ∧ r = McuprResult.invalidObj.code :=
  McuprI2cBus.of_not_live hdead Iff.rfl fun _ => Iff.rfl

/-- A read is refused without a system call. -/
theorem mcuprI2cRead_path_refused {r : Int32 × List UInt8} :
    (mcuprI2cRead bus dev size).Path tr r ↔ tr = [] ∧ r = (McuprResult.invalidObj.code, []) :=
  McuprI2cBus.of_not_live hdead Iff.rfl fun _ => Iff.rfl

end Refused

end McuPeripheral.Linuxdev
