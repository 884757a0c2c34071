import McuPeripheral.Pigpiod.Model

/-!
# The executions of the pigpio backend

On a live bus each function makes exactly one call to the daemon and, except for the
close, hands its reply on as it is.
-/

namespace McuPeripheral.Pigpiod

open Calls Libc

variable {tr : List (Event Call Reply)} {self : Ptr} {priv : PigpiodI2cData} {dev : Int32}

/-- An open succeeds whatever the daemon answers, and stores the answer. -/
theorem mcuprI2cOpen_path {addr dev' : Int32} {r : McuprResult} :
    (mcuprI2cOpen (some ⟨self, some priv⟩) dev addr).Path tr (r, dev') ↔
      r = .ok ∧ tr = [⟨.i2cOpen priv.pi priv.busnum.toUInt32 addr.toUInt32 0, dev'⟩] := by
  simp only [mcuprI2cOpen, i2cOpen, Prog.path_ask_bind, Prog.path_pure, Prod.mk.injEq]
  constructor
  · rintro ⟨handle, _, rfl, rfl, rfl, rfl⟩
    exact ⟨rfl, rfl⟩
  · rintro ⟨rfl, rfl⟩
    exact ⟨dev', _, rfl, rfl, rfl, rfl⟩

/-- A read is one request to the daemon. -/
theorem mcuprI2cRead_path {size : UInt32} {r : Int32 × List UInt8} :
    (mcuprI2cRead (some ⟨self, some priv⟩) dev size).Path tr r ↔
      tr = [⟨.i2cReadDevice priv.pi dev.toUInt32 size, r⟩] := by
  simp only [mcuprI2cRead, i2cReadDevice]
  exact Prog.path_ask

/-- A write is one request to the daemon. -/
theorem mcuprI2cWrite_path {data : List UInt8} {size : UInt32} {r : Int32} :
    (mcuprI2cWrite (some ⟨self, some priv⟩) dev data size).Path tr r ↔
      tr = [⟨.i2cWriteDevice priv.pi dev.toUInt32 (data.take size.toNat) size, r⟩] := by
  simp only [mcuprI2cWrite, i2cWriteDevice]
  exact Prog.path_ask

/-- A close is one request to the daemon, whose reply is not looked at. -/
theorem mcuprI2cClose_path {u : Unit} :
    (mcuprI2cClose (some ⟨self, some priv⟩) dev).Path tr u ↔
      ∃ c, tr = [⟨.i2cClose priv.pi dev.toUInt32, c⟩] := by
  simp only [mcuprI2cClose, i2cClose, Prog.path_ask_bind, Prog.path_pure]
  constructor
  · rintro ⟨c, _, rfl, rfl, -⟩
    exact ⟨c, rfl⟩
  · rintro ⟨c, rfl⟩
    exact ⟨c, _, rfl, rfl, trivial⟩

/-- Creating a bus allocates it and connects to the daemon; if that fails the memory is
freed again. -/
theorem mcuprI2cBusCreate_path {busp bus : Option I2cBus} {params : McuprI2cBusParams}
    {r : McuprResult} :
    (mcuprI2cBusCreate busp params).Path tr (r, bus) ↔
      (r = .nomem ∧ bus = busp ∧ tr = [⟨.libc (.calloc 16), none⟩]) ∨
      ∃ (p : Ptr) (addr port : Option (List Char)) (pi : Int32) (rest : List (Event Call Reply)),
        tr = ⟨.libc (.calloc 16), some p⟩ :: ⟨.libc (.getenv "MCUPR_IMPL_PIGPIOD_ADDR"), addr⟩ ::
          ⟨.libc (.getenv "MCUPR_IMPL_PIGPIOD_PORT"), port⟩ ::
          ⟨.pigpioStart addr port, pi⟩ :: rest ∧
        ((pi < 0 ∧ r = .nodev ∧ bus = busp ∧ rest = [⟨.libc (.free p), ()⟩]) ∨
          (¬pi < 0 ∧ r = .ok ∧ rest = [] ∧ bus = some ⟨p, some ⟨pi,
            if params.busnum = mcuprUnspecified then 1 else params.busnum.toInt32⟩⟩)) := by
  unfold mcuprI2cBusCreate calloc
  rw [Prog.path_lift_ask_bind]
  constructor
  · rintro ⟨_ | p, _, rfl, h⟩
    · obtain ⟨rfl, h⟩ := h
      obtain ⟨rfl, rfl⟩ := Prod.mk.inj h
      exact Or.inl ⟨rfl, rfl, rfl⟩
    · obtain ⟨addr, _, rfl, port, _, rfl, pi, rest, rfl, h⟩ := h
      refine Or.inr ⟨p, addr, port, pi, rest, rfl, ?_⟩
      obtain ⟨hpi, _, _, rfl, rfl, heq⟩ | ⟨hpi, rfl, heq⟩ := Prog.path_ite.mp h
      · obtain ⟨rfl, rfl⟩ := Prod.mk.inj heq
        exact Or.inl ⟨hpi, rfl, rfl, rfl⟩
      · obtain ⟨rfl, rfl⟩ := Prod.mk.inj heq
        exact Or.inr ⟨hpi, rfl, rfl, rfl⟩
  · rintro (⟨rfl, rfl, rfl⟩ | ⟨p, addr, port, pi, rest, rfl, h⟩)
    · exact ⟨none, _, rfl, rfl, rfl⟩
    · refine ⟨some p, _, rfl, addr, _, rfl, port, _, rfl, pi, rest, rfl, Prog.path_ite.mpr ?_⟩
      obtain ⟨hpi, rfl, rfl, rfl⟩ | ⟨hpi, rfl, rfl, rfl⟩ := h
      · exact Or.inl ⟨hpi, (), [], rfl, rfl, rfl⟩
      · exact Or.inr ⟨hpi, rfl, rfl⟩

/-- Releasing a bus disconnects from the daemon, clears the bus and frees it. -/
theorem mcuprI2cBusRelease_path {u : Unit} :
    (mcuprI2cBusRelease (some ⟨self, some priv⟩)).Path tr u ↔
      tr = [⟨.pigpioStop priv.pi, ()⟩, ⟨.libc (.memset (self.add 8) 0 8), ()⟩,
        ⟨.libc (.memset self 0 8), ()⟩, ⟨.libc (.free self), ()⟩] := by
  rw [mcuprI2cBusRelease, pigpioStop, Prog.path_ask_bind]
  constructor
  · rintro ⟨_, _, rfl, _, _, rfl, _, _, rfl, _, _, rfl, rfl, -⟩
    rfl
  · rintro rfl
    exact ⟨(), _, rfl, (), _, rfl, (), _, rfl, (), _, rfl, rfl, rfl⟩

/-! ## Buses that are not there -/

section Refused

variable {bus : Option I2cBus} {size : UInt32}
  (hdead : ¬∃ self priv, bus = some ⟨self, some priv⟩)

include hdead

/-- An open is refused without asking the daemon. -/
theorem mcuprI2cOpen_path_refused {addr : Int32} {r : McuprResult × Int32} :
    (mcuprI2cOpen bus dev addr).Path tr r ↔ tr = [] ∧ r = (.invalidObj, dev) :=
  McuprI2cBus.of_not_live hdead Iff.rfl fun _ => Iff.rfl

/-- A read is refused without asking the daemon. -/
theorem mcuprI2cRead_path_refused {r : Int32 × List UInt8} :
    (mcuprI2cRead bus dev size).Path tr r ↔ tr = [] ∧ r = (McuprResult.invalidObj.code, []) :=
  McuprI2cBus.of_not_live hdead Iff.rfl fun _ => Iff.rfl

/-- A write is refused without asking the daemon. -/
theorem mcuprI2cWrite_path_refused {data : List UInt8} {r : Int32} :
    (mcuprI2cWrite bus dev data size).Path tr r ↔
      tr = [] ∧ r = McuprResult.invalidObj.code :=
  McuprI2cBus.of_not_live hdead Iff.rfl fun _ => Iff.rfl

/-- A close does nothing. -/
theorem mcuprI2cClose_path_refused {u : Unit} :
    (mcuprI2cClose bus dev).Path tr u ↔ tr = [] ∧ u = () :=
  McuprI2cBus.of_not_live hdead Iff.rfl fun _ => Iff.rfl

/-- A release does nothing. -/
theorem mcuprI2cBusRelease_path_refused {u : Unit} :
    (mcuprI2cBusRelease bus).Path tr u ↔ tr = [] ∧ u = () :=
  McuprI2cBus.of_not_live hdead Iff.rfl fun _ => Iff.rfl

end Refused

end McuPeripheral.Pigpiod
