import McuPeripheral.Backends.Slaves
import Mathlib.Logic.Function.Basic

/-!
# A slave behind the pigpio daemon

The daemon keeps a bus and an address for each handle it gave out on a connection. A request
on a handle with the slave's bus and address reaches the slave. A write that the daemon does
not report as failed has been taken whole.
-/

namespace McuPeripheral.Pigpiod

open Calls

variable {τ : Type}

/-- A daemon and the slave on one of its buses. -/
structure Daemon (τ : Type) where
  /-- The bus and the address of each handle. -/
  devices : DaemonHandle → Option (UInt32 × UInt32)
  /-- The slave. -/
  slave : τ

/-- The handle leads to the slave with this address on this bus. -/
def Leads (busnum address : UInt32) (d : Daemon τ) (handle : DaemonHandle) : Prop :=
  d.devices handle = some (busnum, address)

/-- One step of the daemon. Any request may be refused. -/
def daemonStep (S : I2c.Slave τ) (busnum address : UInt32) :
    Daemon τ → Event Call Reply → Daemon τ → Prop
  | d, ⟨.i2cOpen pi bus addr _, handle⟩, d' =>
    (handle < 0 ∧ d' = d) ∨
    (¬handle < 0 ∧ d.devices ⟨pi, handle.toUInt32⟩ = none ∧ d' =
      { d with devices := Function.update d.devices ⟨pi, handle.toUInt32⟩ (some (bus, addr)) })
  | d, ⟨.i2cClose pi handle, _⟩, d' =>
    d' = { d with devices := Function.update d.devices ⟨pi, handle⟩ none }
  | d, ⟨.pigpioStop pi, _⟩, d' =>
    d' = { d with devices := fun handle => if handle.pi = pi then none else d.devices handle }
  | d, ⟨.i2cWriteDevice pi handle data _, n⟩, d' =>
    d'.devices = d.devices ∧
    (¬Leads busnum address d ⟨pi, handle⟩ → d'.slave = d.slave) ∧
    (Leads busnum address d ⟨pi, handle⟩ → (n < 0 → Reached S d.slave data d'.slave) ∧
      (¬n < 0 → d'.slave = S.receives d.slave data))
  | d, ⟨.i2cReadDevice pi handle count, r⟩, d' =>
    d'.devices = d.devices ∧
    (¬Leads busnum address d ⟨pi, handle⟩ → d'.slave = d.slave) ∧
    (Leads busnum address d ⟨pi, handle⟩ → ∃ m ≤ count.toNat, d'.slave = S.given m d.slave ∧
      (¬r.1 < 0 → r.1.toInt = m ∧ r.2 = S.gives m d.slave))
  | d, _, d' => d' = d

/-- The daemon with the slave on one of its buses. -/
def served (S : I2c.Slave τ) (busnum address : UInt32) : Env Call Reply (Daemon τ) :=
  ⟨daemonStep S busnum address⟩

/-- A request that does not fail, and reads as many bytes as it was asked for. -/
def Complete : Event Call Reply → Prop
  | ⟨.i2cWriteDevice .., n⟩ => ¬n < 0
  | ⟨.i2cReadDevice _ _ count, r⟩ => r.1.toInt = count.toNat
  | _ => True

/-- A handle of the daemon that leads to the slave. -/
@[reducible] def slaveLink (S : I2c.Slave τ) (self : Libc.Ptr) (priv : PigpiodI2cData)
    (dev : Int32) (address : UInt32) : I2cLink S where
  backend := i2cBackend
  State := Daemon τ
  env := served S priv.busnum.toUInt32 address
  bus := some ⟨self, some priv⟩
  dev := dev
  slave := Daemon.slave
  Ready d := Leads priv.busnum.toUInt32 address d ⟨priv.pi, dev.toUInt32⟩
  Smooth := Complete
  write := by
    intro data size tr n d d' hready hpath hrun
    change (mcuprI2cWrite (some ⟨self, some priv⟩) dev data size).Path tr n at hpath
    obtain rfl := mcuprI2cWrite_path.mp hpath
    obtain ⟨_, ⟨hdevices, -, hslave⟩, rfl⟩ := hrun
    obtain ⟨hfailed, hwritten⟩ := hslave hready
    refine ⟨?_, ?_, fun hsmooth => hwritten (hsmooth _ List.mem_cons_self)⟩
    · unfold Leads
      rwa [hdevices]
    · by_cases hn : n < 0
      · exact hfailed hn
      · refine Or.inr ⟨(data.take size.toNat).length, le_rfl, ?_⟩
        rw [List.take_length]
        exact hwritten hn
  read := by
    intro size tr n data d d' hsize hready hpath hrun
    change (mcuprI2cRead (some ⟨self, some priv⟩) dev size).Path tr (n, data) at hpath
    obtain rfl := mcuprI2cRead_path.mp hpath
    obtain ⟨_, ⟨hdevices, -, hslave⟩, rfl⟩ := hrun
    obtain ⟨m, hm, hgiven, hread⟩ := hslave hready
    have hvalue : size.toInt32.toInt = size.toNat := toInt_toInt32 hsize
    refine ⟨?_, ⟨m, hgiven⟩, ?_, fun hsmooth => ?_⟩
    · unfold Leads
      rwa [hdevices]
    · rintro rfl
      obtain ⟨hcount, hdata⟩ := hread (toInt32_not_neg hsize)
      rwa [Int.ofNat_inj.mp (hcount.symm.trans hvalue)] at hdata
    · have hcount : n.toInt = size.toNat := hsmooth _ List.mem_cons_self
      exact Int32.toInt_inj.mp (by rw [hcount, hvalue])

end McuPeripheral.Pigpiod
