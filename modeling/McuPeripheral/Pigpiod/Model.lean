import McuPeripheral.Api
import McuPeripheral.Pigpiod.Interface

/-!
# The functions of `impl_pigpiod.c`

I2C through the pigpio daemon. A handle is the daemon's own. Log output is left out.
-/

namespace McuPeripheral.Pigpiod

open Calls Libc

/-- `struct pigpiod_i2c_data`. -/
structure PigpiodI2cData where
  /-- The connection to the daemon. -/
  pi : Int32
  /-- The bus number on the daemon's side. -/
  busnum : Int32
  deriving DecidableEq, Repr

/-- `mcupr_i2c_bus_t`. -/
abbrev I2cBus := McuprI2cBus PigpiodI2cData

/-- `mcupr_i2c_open`. -/
def mcuprI2cOpen (bus : Option I2cBus) (dev addr : Int32) :
    Prog Call Reply (McuprResult × Int32) :=
  match bus with
  | some ⟨_, some priv⟩ => do
    let handle ← i2cOpen priv.pi priv.busnum.toUInt32 addr.toUInt32 0
    return (.ok, handle)
  | _ => return (.invalidObj, dev)

/-- `mcupr_i2c_read`: the result, and the bytes stored in the caller's buffer. -/
def mcuprI2cRead (bus : Option I2cBus) (dev : Int32) (size : UInt32) :
    Prog Call Reply (Int32 × List UInt8) :=
  match bus with
  | some ⟨_, some priv⟩ => i2cReadDevice priv.pi dev.toUInt32 size
  | _ => return (McuprResult.invalidObj.code, [])

/-- `mcupr_i2c_write` of the first `size` bytes of `data`. -/
def mcuprI2cWrite (bus : Option I2cBus) (dev : Int32) (data : List UInt8) (size : UInt32) :
    Prog Call Reply Int32 :=
  match bus with
  | some ⟨_, some priv⟩ => i2cWriteDevice priv.pi dev.toUInt32 (data.take size.toNat) size
  | _ => return McuprResult.invalidObj.code

/-- `mcupr_i2c_close`. -/
def mcuprI2cClose (bus : Option I2cBus) (dev : Int32) : Prog Call Reply Unit :=
  match bus with
  | some ⟨_, some priv⟩ => do
    let _ ← i2cClose priv.pi dev.toUInt32
    return ()
  | _ => return ()

/-- `mcupr_i2c_bus_release`. -/
def mcuprI2cBusRelease (bus : Option I2cBus) : Prog Call Reply Unit :=
  match bus with
  | some ⟨self, some priv⟩ => do
    pigpioStop priv.pi
    libc (memset (self.add 8) 0 8)
    libc (memset self 0 8)
    libc (free self)
  | _ => return ()

/-- `mcupr_i2c_bus_create`. -/
def mcuprI2cBusCreate (busp : Option I2cBus) (params : McuprI2cBusParams) :
    Prog Call Reply (McuprResult × Option I2cBus) := do
  let bus ← libc (calloc 16)
  match bus with
  | none => return (.nomem, busp)
  | some bus =>
    let busnum := if params.busnum = mcuprUnspecified then 1 else params.busnum.toInt32
    let addr ← libc (getenv "MCUPR_IMPL_PIGPIOD_ADDR")
    let port ← libc (getenv "MCUPR_IMPL_PIGPIOD_PORT")
    let pi ← pigpioStart addr port
    if pi < 0 then
      libc (free bus)
      return (.nodev, busp)
    return (.ok, some ⟨bus, some ⟨pi, busnum⟩⟩)

/-- A call of the API with its arguments. -/
abbrev Op := I2cOp PigpiodI2cData

/-- The function behind each call. -/
def Op.prog : (o : Op) → Prog Call Reply o.Result
  | .i2cBusCreate busp params => mcuprI2cBusCreate busp params
  | .i2cBusRelease bus => mcuprI2cBusRelease bus
  | .i2cOpen bus dev addr => mcuprI2cOpen bus dev addr
  | .i2cClose bus dev => mcuprI2cClose bus dev
  | .i2cWrite bus dev data size => mcuprI2cWrite bus dev data size
  | .i2cRead bus dev size => mcuprI2cRead bus dev size

end McuPeripheral.Pigpiod
