import McuPeripheral.Calls.Vocabulary
import McuPeripheral.Linuxdev.Devices
import McuPeripheral.Linuxdev.GpioLevels

/-!
# Who can change a pin

The files that act on the pins are open only while a GPIO call is under way. So no other call
reaches them, whatever descriptor a client passes to it, and of the GPIO calls only an open
exports a pin and sets its direction. None takes an export back.
-/

namespace McuPeripheral.Linuxdev

open Calls Libc

/-! ## Calls that stay away from the pins -/

/-- The call opens no file that acts on the pins. -/
def AwayFromPins : Call → Prop
  | .open path _ => ¬ControlsPins path
  | _ => True

/-- An I2C device does not. -/
theorem not_controlsPins_i2cPath (busnum : Int32) :
    ¬ControlsPins (snprintf 32 (i2cPath busnum)) :=
  not_controlsPins_device _

/-- Nor does an SPI device. -/
theorem not_controlsPins_spiPath (busnum csnum : Int32) :
    ¬ControlsPins (snprintf 32 (spiPath busnum csnum)) :=
  not_controlsPins_device _

/-- A program of the C library stays away from the pins. -/
@[simp] theorem only_libc {α : Type} (p : Prog Libc.Call Libc.Reply α) :
    (libc p).Only AwayFromPins := Prog.only_lift _ _ (fun _ => trivial) p

/-- A GPIO call that makes system calls on the files of pins. -/
def Op.OnPins : Op → Prop
  | .gpioOpen .. | .gpioWrite .. | .gpioRead .. => True
  | _ => False

/-- Every other call stays away from the pins, whatever its arguments. -/
theorem Op.only_awayFromPins {o : Op} (h : ¬o.OnPins) : o.prog.Only AwayFromPins := by
  cases o with
  | gpioOpen | gpioWrite | gpioRead => exact absurd trivial h
  | gpioChipRelease chip => trivial
  | gpioClose dev => trivial
  | gpioChipCreate chipp =>
    refine (only_libc _).bind fun chip => ?_
    cases chip <;> trivial
  | i2cBusCreate busp params =>
    refine (only_libc _).bind fun bus => ?_
    cases bus <;> trivial
  | i2cBusRelease bus =>
    obtain _ | ⟨self, _ | priv⟩ := bus
    · trivial
    · trivial
    · exact (only_libc _).bind fun _ => (only_libc _).bind fun _ => only_libc _
  | i2cOpen bus dev addr =>
    obtain _ | ⟨self, _ | priv⟩ := bus
    · trivial
    · trivial
    · have hpath := not_controlsPins_i2cPath priv.busnum
      simpa [Op.prog, mcuprI2cOpen, openFile, ioctl, close, AwayFromPins] using hpath
  | i2cClose bus dev =>
    obtain _ | ⟨self, _ | priv⟩ := bus
    · trivial
    · trivial
    · simp [Op.prog, mcuprI2cClose, close, AwayFromPins]
  | i2cWrite bus dev data size =>
    obtain _ | ⟨self, _ | priv⟩ := bus
    · trivial
    · trivial
    · simp [Op.prog, mcuprI2cWrite, write, AwayFromPins]
  | i2cRead bus dev size =>
    obtain _ | ⟨self, _ | priv⟩ := bus
    · trivial
    · trivial
    · simp only [Op.prog, mcuprI2cRead, read, Prog.only_ite, Prog.only_ask_bind, Prog.only_pure]
      refine ⟨fun _ => trivial, fun _ => ⟨trivial, fun buf => ?_⟩⟩
      cases buf <;> trivial
  | spiBusCreate busp params =>
    refine (only_libc _).bind fun created => ?_
    obtain ⟨res, bus⟩ := created
    cases res <;> cases bus <;> trivial
  | spiBusRelease bus => exact only_libc _
  | spiOpen bus dev csnum =>
    refine Prog.Only.bind ?_ fun cs => ?_
    · unfold resolveCsnum
      refine Prog.only_ite.mpr ⟨fun _ => (only_libc _).bind fun env => ?_, fun _ => trivial⟩
      cases env <;> trivial
    · have hpath := not_controlsPins_spiPath bus.params.busnum cs
      simpa [openFile, ioctl, close, AwayFromPins] using hpath
  | spiClose dev => simp [Op.prog, mcuprSpiClose, close, AwayFromPins]
  | spiTransfer dev tx length =>
    simp [Op.prog, mcuprSpiTransfer, ioctlMessage, AwayFromPins]

/-! ## The kernel between two calls -/

/-- No descriptor stands for a file that acts on the pins. -/
def NoPinFiles (k : Kernel) : Prop := ∀ fd f, k.files fd = some f → ¬ControlsPins f.path

/-- Writing any other file leaves the pins as they are. -/
theorem SysfsWrite.away {board : Board} {pins pins' : Int32 → Option Pin} {path : List Char}
    {data : List UInt8} (h : SysfsWrite board pins path data pins') (hpath : ¬ControlsPins path) :
    pins' = pins := by
  cases h with
  | exportPin => exact absurd (Or.inl rfl) hpath
  | unexportPin => exact absurd (Or.inr (Or.inl rfl)) hpath
  | directionOut pin | directionIn pin =>
    exact absurd (Or.inr (Or.inr ⟨pin, Or.inl rfl⟩)) hpath
  | value pin => exact absurd (Or.inr (Or.inr ⟨pin, Or.inr rfl⟩)) hpath
  | device => rfl

/-- Writing a pin number to the unexport file takes the export of that pin back. -/
theorem sysfsWrite_unexport {board : Board} {pins pins' : Int32 → Option Pin} {pin : Int32}
    (h : SysfsWrite board pins unexportPath (bytes (decimal pin.toInt)) pins') :
    (pins pin).isSome ∧ pins' = Function.update pins pin none := by
  generalize hpath : unexportPath = path at h
  generalize hdata : bytes (decimal pin.toInt) = data at h
  cases h with
  | exportPin => exact absurd hpath (by decide)
  | unexportPin pin' p hp =>
    obtain rfl : pin = pin' := Int32.toInt_inj.mp (bytes_decimal_injective hdata)
    exact ⟨by rw [hp]; rfl, rfl⟩
  | directionOut pin' | directionIn pin' | value pin' =>
    exact absurd hpath.symm (gpioPath_append_ne pin' _).2
  | device _ _ hnot => exact absurd (Or.inr (Or.inl hpath.symm)) hnot

section Steps

variable {board : Board} {k k' : Kernel} {tr : List (Event Call Reply)}

/-- A table with the same descriptors or fewer. -/
theorem NoPinFiles.of_files (h : NoPinFiles k)
    (hfiles : ∀ fd f, k'.files fd = some f → k.files fd = some f) : NoPinFiles k' :=
  fun fd f hf => h fd f (hfiles fd f hf)

/-- A call that stays away from the pins leaves them as they are. -/
theorem NoPinFiles.step {e : Event Call Reply} (h : NoPinFiles k) (haway : AwayFromPins e.call)
    (hstep : kernelStep board k e k') : k'.pins = k.pins ∧ NoPinFiles k' := by
  obtain ⟨call, reply⟩ := e
  cases call with
  | libc c =>
    obtain rfl := hstep
    exact ⟨rfl, h⟩
  | «open» path flag =>
    obtain ⟨-, rfl⟩ | ⟨-, -, -, rfl⟩ := hstep
    · exact ⟨rfl, h⟩
    · refine ⟨rfl, fun fd f hf => ?_⟩
      by_cases hfd : fd = reply
      · subst hfd
        obtain rfl : OpenFile.fresh path = f := by simpa using hf
        exact haway
      · exact h fd f (by simpa [Kernel.opened, hfd] using hf)
  | close fd =>
    obtain rfl := hstep
    refine ⟨rfl, h.of_files fun fd' f hf => ?_⟩
    by_cases hfd : fd' = fd
    · simp [hfd] at hf
    · simpa [Kernel.closed, hfd] using hf
  | read fd count =>
    obtain ⟨rfl, -⟩ := hstep
    exact ⟨rfl, h⟩
  | write fd data =>
    obtain ⟨-, rfl⟩ | ⟨-, -, f, pins', hf, hwrite, rfl⟩ := hstep
    · exact ⟨rfl, h⟩
    · exact ⟨hwrite.away (h fd f hf), h⟩
  | ioctl fd request =>
    obtain ⟨-, rfl⟩ | ⟨-, f, hf, rfl⟩ := hstep
    · exact ⟨rfl, h⟩
    · refine ⟨rfl, fun fd' f' hf' => ?_⟩
      by_cases hfd : fd' = fd
      · subst hfd
        obtain rfl : f.configure request = f' := by simpa using hf'
        have hsame : (f.configure request).path = f.path := by cases request <;> rfl
        rw [hsame]
        exact h fd' f hf
      · exact h fd' f' (by simpa [Kernel.configured, hfd] using hf')
  | ioctlMessage fd tx length =>
    obtain rfl := hstep
    exact ⟨rfl, h⟩
  | stat path =>
    obtain ⟨rfl, -⟩ := hstep
    exact ⟨rfl, h⟩

/-- So does any number of them. -/
theorem NoPinFiles.run (h : NoPinFiles k) (haway : ∀ e ∈ tr, AwayFromPins e.call)
    (hrun : (kernel board).Run k tr k') : k'.pins = k.pins ∧ NoPinFiles k' := by
  induction tr generalizing k with
  | nil =>
    obtain rfl := hrun
    exact ⟨rfl, h⟩
  | cons e tr ih =>
    obtain ⟨k₁, hstep, hrest⟩ := hrun
    obtain ⟨hpins, hfiles⟩ := h.step (haway e List.mem_cons_self) hstep
    obtain ⟨hpins', hfiles'⟩ := ih hfiles (fun e he => haway e (List.mem_cons_of_mem _ he)) hrest
    exact ⟨hpins'.trans hpins, hfiles'⟩

/-- Setting a direction does not take an export back. -/
theorem gpioSetDir_exported {pin : Int32} {isOutput : Bool} {r : McuprResult}
    (hpath : (sysfsGpioSetDir pin isOutput).Path tr r) (hrun : (kernel board).Run k tr k')
    (hexported : (k.pins pin).isSome) : (k'.pins pin).isSome := by
  rw [sysfsGpioSetDir, snprintf_directionPath] at hpath
  obtain ⟨fd, hfd, rfl, -⟩ | ⟨fd, n, c, hfd, -, rfl⟩ := writeAttribute_path.mp hpath
  · obtain rfl := (kernel_run_refused hfd).mp hrun
    exact hexported
  · obtain ⟨-, -, -, hwritten⟩ := (kernel_run_attribute hfd).mp hrun
    obtain ⟨-, hsame⟩ | ⟨-, p, -, -, hupdate⟩ := written_direction hwritten
    · rwa [hsame]
    · rw [hupdate, Function.update_self]
      rfl

/-- Nor does opening a pin. -/
theorem gpioOpen_exported {dev pin : Int32} {mode : McuprGpioMode} {r : McuprResult × Int32}
    (hpath : (mcuprGpioOpen dev pin mode).Path tr r) (hrun : (kernel board).Run k tr k')
    (hexported : (k.pins pin).isSome) : (k'.pins pin).isSome := by
  obtain ⟨r, dev'⟩ := r
  obtain ⟨p, hp⟩ := Option.isSome_iff_exists.mp hexported
  obtain ⟨-, -, hexport⟩ | ⟨tr₁, tr₂, rfl, -, hexport, hdir⟩ := mcuprGpioOpen_path.mp hpath
  · rw [(gpioExport_pins hexport hrun).2.2 p hp]
    rfl
  · obtain ⟨k₁, hrun₁, hrun₂⟩ := Env.run_append.mp hrun
    have hkept := (gpioExport_pins hexport hrun₁).2.2 p hp
    exact gpioSetDir_exported hdir hrun₂ (by rw [hkept]; rfl)

/-- Writing a pin keeps its direction. -/
theorem gpioWrite_direction {dev value : Int32} {u : Unit}
    (hpath : (mcuprGpioWrite dev value).Path tr u) (hrun : (kernel board).Run k tr k') :
    (k'.pins dev).map Pin.direction = (k.pins dev).map Pin.direction := by
  obtain ⟨r, hpath⟩ := mcuprGpioWrite_path.mp hpath
  rw [sysfsGpioWriteValue, snprintf_valuePath] at hpath
  obtain ⟨fd, hfd, rfl, -⟩ | ⟨fd, n, c, hfd, -, rfl⟩ := writeAttribute_path.mp hpath
  · obtain rfl := (kernel_run_refused hfd).mp hrun
    rfl
  · obtain ⟨-, -, -, hwritten⟩ := (kernel_run_attribute hfd).mp hrun
    obtain ⟨-, hsame⟩ | ⟨-, ⟨level, hlevel⟩, hupdate⟩ := written_value hwritten
    · rw [hsame]
    · rw [hupdate, Function.update_self, hlevel]
      rfl

/-- Taking an export back: either the export is gone, or nothing has happened. -/
theorem sysfsGpioUnexport_pins {pin : Int32} {r : McuprResult}
    (hpath : (sysfsGpioUnexport pin).Path tr r) (hrun : (kernel board).Run k tr k') :
    k'.files = k.files ∧
      (r = .ok → (k.pins pin).isSome ∧ k'.pins = Function.update k.pins pin none) ∧
      (r ≠ .ok → k'.pins = k.pins) := by
  simp only [sysfsGpioUnexport, snprintf_decimal] at hpath
  obtain ⟨fd, _, rfl, hrest₁⟩ := Prog.path_ask_bind.mp hpath
  obtain ⟨hfd, rfl, rfl⟩ | ⟨hfd, hrest₂⟩ := Prog.path_ite.mp hrest₁
  · obtain rfl := (kernel_run_refused hfd).mp hrun
    exact ⟨rfl, by simp, fun _ => rfl⟩
  obtain ⟨n, _, rfl, hrest₃⟩ := Prog.path_ask_bind.mp hrest₂
  obtain ⟨hn, hrest₄⟩ | ⟨hn, hrest₄⟩ := Prog.path_ite.mp hrest₃
  · obtain ⟨c, _, rfl, rfl, rfl⟩ := Prog.path_ask_bind.mp hrest₄
    obtain ⟨-, -, hfiles, hwritten⟩ := (kernel_run_attribute hfd).mp hrun
    obtain ⟨-, hsame⟩ := hwritten.resolve_right fun h => h.1 hn
    exact ⟨hfiles, by simp, fun _ => hsame⟩
  · obtain ⟨c, _, rfl, rfl, rfl⟩ := Prog.path_ask_bind.mp hrest₄
    obtain ⟨-, -, hfiles, hwritten⟩ := (kernel_run_attribute hfd).mp hrun
    obtain ⟨-, -, hwrite⟩ := hwritten.resolve_left fun h => hn h.1
    exact ⟨hfiles, fun _ => sysfsWrite_unexport hwrite, by simp⟩

end Steps

/-! ## Histories -/

/-- The call opens the pin. -/
def Op.Opens (pin : Int32) : Op → Prop
  | .gpioOpen _ pin' _ => pin' = pin
  | _ => False

/-- The call writes the pin. -/
def Op.Writes (pin : Int32) : Op → Prop
  | .gpioWrite dev _ => dev = pin
  | _ => False

/-- What one call may do to the pins: no export is taken back, only an open of a pin exports it
or sets its direction, and only an open or a write of it sets its level. -/
structure PinStep (o : Op) (k k' : Kernel) : Prop where
  files : NoPinFiles k'
  exported : ∀ pin, (k.pins pin).isSome → (k'.pins pin).isSome
  direction : ∀ pin, ¬o.Opens pin →
    (k'.pins pin).map Pin.direction = (k.pins pin).map Pin.direction
  level : ∀ pin, ¬o.Opens pin → ¬o.Writes pin → k'.pins pin = k.pins pin

/-- A call that leaves the pins as they are. -/
theorem PinStep.of_pins {o : Op} {k k' : Kernel} (hfiles : NoPinFiles k')
    (hpins : k'.pins = k.pins) : PinStep o k k' := by
  refine ⟨hfiles, fun pin h => ?_, fun pin _ => ?_, fun pin _ _ => ?_⟩
  · rwa [hpins]
  · rw [hpins]
  · rw [hpins]

/-- Every call does no more to the pins, whatever is passed to it. -/
theorem pinStep {board : Board} {k k' : Kernel} {i : Invocation Op.prog} (h : NoPinFiles k)
    (hrun : (kernel board).Run k i.trace k') : PinStep i.op k k' := by
  by_cases hgpio : i.op.OnPins
  · obtain ⟨op, tr, r, hpath⟩ := i
    cases op with
    | gpioOpen dev pin mode =>
      obtain ⟨hfiles, hother⟩ := gpioOpen_pins hpath hrun
      refine ⟨h.of_files fun fd f hf => by rwa [← hfiles], fun q hq => ?_, fun q hq => ?_,
        fun q hq _ => hother q (Ne.symm hq)⟩
      · by_cases hpin : q = pin
        · subst hpin
          exact gpioOpen_exported hpath hrun hq
        · rwa [hother q hpin]
      · rw [hother q (Ne.symm hq)]
    | gpioWrite dev value =>
      obtain ⟨hfiles, hother, -⟩ := gpioWrite_pins hpath hrun
      have hdirection (q : Int32) :
          (k'.pins q).map Pin.direction = (k.pins q).map Pin.direction := by
        by_cases hpin : q = dev
        · subst hpin
          exact gpioWrite_direction hpath hrun
        · rw [hother q hpin]
      refine ⟨h.of_files fun fd f hf => by rwa [← hfiles], fun q hq => ?_, fun q _ => hdirection q,
        fun q _ hq => hother q (Ne.symm hq)⟩
      rw [← Option.isSome_map, hdirection q, Option.isSome_map]
      exact hq
    | gpioRead stale dev =>
      obtain ⟨hfiles, hpins, -⟩ := gpioRead_pins hpath hrun
      exact .of_pins (h.of_files fun fd f hf => by rwa [← hfiles]) hpins
    | _ => exact hgpio.elim
  · have haway := (Op.only_awayFromPins hgpio).of_path i.performed
    obtain ⟨hpins, hfiles⟩ := h.run haway hrun
    exact .of_pins hfiles hpins

/-- What a history may do to the pins. -/
structure PinHistory (k₀ : Kernel) (h : List (Invocation Op.prog)) (k : Kernel) : Prop where
  files : NoPinFiles k
  exported : ∀ pin, (k₀.pins pin).isSome → (k.pins pin).isSome
  direction : ∀ pin, (∀ i ∈ h, ¬i.op.Opens pin) →
    (k.pins pin).map Pin.direction = (k₀.pins pin).map Pin.direction
  level : ∀ pin, (∀ i ∈ h, ¬i.op.Opens pin ∧ ¬i.op.Writes pin) → k.pins pin = k₀.pins pin

/-- One more call. -/
theorem PinHistory.step {k₀ k k' : Kernel} {h : List (Invocation Op.prog)}
    {i : Invocation Op.prog} (hhistory : PinHistory k₀ h k) (hstep : PinStep i.op k k') :
    PinHistory k₀ (h ++ [i]) k' := by
  refine ⟨hstep.files, fun pin hpin => ?_, fun pin hpin => ?_, fun pin hpin => ?_⟩
  · exact hstep.exported pin (hhistory.exported pin hpin)
  · rw [hstep.direction pin (hpin i (by simp))]
    exact hhistory.direction pin fun j hj => hpin j (List.mem_append_left _ hj)
  · obtain ⟨hopens, hwrites⟩ := hpin i (by simp)
    rw [hstep.level pin hopens hwrites]
    exact hhistory.level pin fun j hj => hpin j (List.mem_append_left _ hj)

section Sessions

variable {board : Board} {k₀ k : Kernel} {h : List (Invocation Op.prog)}

/-- Every history does no more to the pins. -/
theorem pinHistory {permits : List (Invocation Op.prog) → Op → Prop} (hstart : NoPinFiles k₀)
    (hsession : Session (kernel board) permits k₀ h k) : PinHistory k₀ h k := by
  refine hsession.invariant (I := PinHistory k₀) ?_ ?_
  · exact ⟨hstart, fun _ => id, fun _ _ => rfl, fun _ _ => rfl⟩
  · intro h k i k' _ hhistory _ hrun
    exact hhistory.step (pinStep hhistory.files hrun)

/-- **Only its own GPIO calls change a pin.** Take any calls in any order, with any arguments,
handles that were never given out or were closed long ago among them, and let system calls fail
anywhere. If no descriptor stands for a file that acts on the pins at the start, none does at
the end. A pin that was exported still is. A pin that was not opened has kept its direction, or
is still not exported; and if it was not written either, it is as it was. -/
theorem gpio_pins_confined (hstart : NoPinFiles k₀)
    (hsession : Session (kernel board) (fun _ _ => True) k₀ h k) :
    NoPinFiles k ∧ (∀ pin, (k₀.pins pin).isSome → (k.pins pin).isSome) ∧
      (∀ pin, (∀ i ∈ h, ¬i.op.Opens pin) →
        (k.pins pin).map Pin.direction = (k₀.pins pin).map Pin.direction) ∧
      ∀ pin, (∀ i ∈ h, ¬i.op.Opens pin ∧ ¬i.op.Writes pin) → k.pins pin = k₀.pins pin := by
  have hhistory := pinHistory hstart hsession
  exact ⟨hhistory.files, hhistory.exported, hhistory.direction, hhistory.level⟩

/-- The client opens and writes no other pin. -/
def OnlyPin (pin : Int32) (_ : List (Invocation Op.prog)) (o : Op) : Prop :=
  ∀ q ≠ pin, ¬o.Opens q ∧ ¬o.Writes q

/-- **Unexporting undoes everything.** A pin is not exported at the start, and a client makes any
calls of which no open and no write is about another pin. If the helper that takes an export
back, which no call runs, then succeeds for this pin, all pins are as they were at the start; if
it fails, it has changed nothing. -/
theorem gpio_unexport_undoes {k' : Kernel} {pin : Int32} {r : McuprResult}
    {tr : List (Event Call Reply)} (hstart : NoPinFiles k₀) (hpin : k₀.pins pin = none)
    (hsession : Session (kernel board) (OnlyPin pin) k₀ h k)
    (hpath : (sysfsGpioUnexport pin).Path tr r) (hrun : (kernel board).Run k tr k') :
    (r = .ok → k'.pins = k₀.pins) ∧ (r ≠ .ok → k'.pins = k.pins) ∧ k'.files = k.files := by
  obtain ⟨hfiles, hok, hfail⟩ := sysfsGpioUnexport_pins hpath hrun
  refine ⟨fun hr => ?_, hfail, hfiles⟩
  have hhistory := pinHistory hstart hsession
  have honly : ∀ i ∈ h, OnlyPin pin [] i.op :=
    hsession.forall_mem fun h s i s' hpermits _ => hpermits
  funext q
  rw [(hok hr).2]
  by_cases hq : q = pin
  · rw [hq, Function.update_self, hpin]
  · rw [Function.update_of_ne hq]
    exact hhistory.level q fun i hi => honly i hi q hq

end Sessions

/-! ## An example -/

/-- Opening pin 17 as an output on an idle kernel. -/
def openPin17 : Invocation Op.prog := openOutput 17 (newReplies 3)

/-- The first theorem for this call: pin 4 is not exported. -/
theorem gpio_pins_confined_open17 : ∃ k : Kernel, (k.pins 17).isSome ∧ k.pins 4 = none := by
  have hstart : NoPinFiles .idle := by
    intro fd f hf
    cases hf
  have hsession : Session (kernel .allInputs) (fun _ _ => True) .idle [openPin17] _ :=
    .step openPin17 .start trivial open_idle_run
  obtain ⟨-, -, -, hlevel⟩ := gpio_pins_confined hstart hsession
  refine ⟨_, by simp, hlevel 4 ?_⟩
  rintro i hi
  obtain rfl := List.mem_singleton.mp hi
  exact ⟨by simp [openPin17, openOutput, Op.Opens], id⟩

/-- The second for this call: pin 17 is not exported any more. -/
theorem gpio_unexport_undoes_open17 : ∃ k : Kernel, k.pins 17 = none ∧ k.files = fun _ => none := by
  let opened : Kernel := { Kernel.idle with pins := Function.update (Function.update
    Kernel.idle.pins 17 (some ⟨.input, false⟩)) 17 (some ⟨.output, false⟩) }
  have hstart : NoPinFiles .idle := by
    intro fd f hf
    cases hf
  have hsession : Session (kernel .allInputs) (OnlyPin 17) .idle [openPin17] opened := by
    refine .step openPin17 .start (fun q hq => ⟨?_, id⟩) open_idle_run
    exact fun h => hq h.symm
  have hpath : (sysfsGpioUnexport 17).Path [⟨.open unexportPath .wronly, 3⟩,
      ⟨.write 3 (bytes (decimal 17)), 2⟩, ⟨.close 3, 0⟩] .ok := by
    simp only [sysfsGpioUnexport, snprintf_decimal]
    refine Prog.path_ask_bind.mpr ⟨3, _, rfl, Prog.path_ite.mpr (Or.inr ⟨by decide, ?_⟩)⟩
    refine Prog.path_ask_bind.mpr ⟨2, _, rfl, Prog.path_ite.mpr (Or.inr ⟨by decide, ?_⟩)⟩
    exact Prog.path_ask_bind.mpr ⟨0, _, rfl, rfl, rfl⟩
  have hrun : (kernel .allInputs).Run opened [⟨.open unexportPath .wronly, 3⟩,
      ⟨.write 3 (bytes (decimal 17)), 2⟩, ⟨.close 3, 0⟩]
      { opened with pins := Function.update opened.pins 17 none } := by
    refine (kernel_run_attribute (by decide)).mpr ⟨?_, rfl, rfl, Or.inr ⟨by decide, by decide, ?_⟩⟩
    · rintro pin (hpath | hpath | hpath)
      · exact absurd (hpath.symm ▸ List.append_nil _) (gpioPath_append_ne pin []).2
      · exact absurd hpath.symm (gpioPath_append_ne pin _).2
      · exact absurd hpath.symm (gpioPath_append_ne pin _).2
    · exact SysfsWrite.unexportPin 17 ⟨.output, false⟩ (by simp [opened])
  obtain ⟨hpins, -, hfiles⟩ := gpio_unexport_undoes hstart rfl hsession hpath hrun
  exact ⟨_, by rw [hpins rfl]; rfl, hfiles⟩

end McuPeripheral.Linuxdev
