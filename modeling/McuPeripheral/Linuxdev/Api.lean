import McuPeripheral.Linuxdev.Model

/-!
# The API of the Linux device backend

Every function a client can call, as one type of operations with their
arguments. Where a function stores through a pointer, the operation carries what
was there before and the result what is there afterwards.
-/

namespace McuPeripheral.Linuxdev

open Calls

/-- An API call with its arguments. A bus is `none` for a null pointer. The first
argument of a create or an open is the old content of its output pointer, and
`stale` is the old content of the buffer a read fills. -/
inductive Op
  | gpioChipCreate (chipp : Option GpioChip)
  | gpioChipRelease (chip : Option GpioChip)
  | gpioOpen (dev pin : Int32) (mode : McuprGpioMode)
  | gpioClose (dev : Int32)
  | gpioWrite (dev value : Int32)
  | gpioRead (stale : UInt8) (dev : Int32)
  | i2cBusCreate (busp : Option I2cBus) (params : McuprI2cBusParams)
  | i2cBusRelease (bus : Option I2cBus)
  | i2cOpen (bus : Option I2cBus) (dev addr : Int32)
  | i2cClose (bus : Option I2cBus) (dev : Int32)
  | i2cWrite (bus : Option I2cBus) (dev : Int32) (data : List UInt8) (size : UInt32)
  | i2cRead (bus : Option I2cBus) (dev : Int32) (size : UInt32)
  | spiBusCreate (busp : Option SpiBus) (params : McuprSpiBusParams)
  | spiBusRelease (bus : Option SpiBus)
  | spiOpen (bus : SpiBus) (dev csnum : Int32)
  | spiClose (dev : Int32)
  | spiTransfer (dev : Int32) (tx : List UInt8) (length : Int32)

/-- What each call gives back: its return value, and what it stored. -/
@[reducible] def Op.Result : Op → Type
  | .gpioChipCreate _ => McuprResult × Option GpioChip
  | .i2cBusCreate .. => McuprResult × Option I2cBus
  | .spiBusCreate .. => McuprResult × Option SpiBus
  | .gpioOpen .. | .i2cOpen .. | .spiOpen .. => McuprResult × Int32
  | .gpioRead .. | .i2cWrite .. => Int32
  | .i2cRead .. | .spiTransfer .. => Int32 × List UInt8
  | .gpioChipRelease _ | .gpioClose _ | .gpioWrite .. | .i2cBusRelease _ | .i2cClose ..
  | .spiBusRelease _ | .spiClose _ => Unit

/-- The function behind each call. -/
def Op.prog : (o : Op) → Prog Call Reply o.Result
  | .gpioChipCreate chipp => mcuprGpioChipCreate chipp
  | .gpioChipRelease chip => mcuprGpioChipRelease chip
  | .gpioOpen dev pin mode => mcuprGpioOpen dev pin mode
  | .gpioClose dev => mcuprGpioClose dev
  | .gpioWrite dev value => mcuprGpioWrite dev value
  | .gpioRead stale dev => mcuprGpioRead stale dev
  | .i2cBusCreate busp params => mcuprI2cBusCreate busp params
  | .i2cBusRelease bus => mcuprI2cBusRelease bus
  | .i2cOpen bus dev addr => mcuprI2cOpen bus dev addr
  | .i2cClose bus dev => mcuprI2cClose bus dev
  | .i2cWrite bus dev data size => mcuprI2cWrite bus dev data size
  | .i2cRead bus dev size => mcuprI2cRead bus dev size
  | .spiBusCreate busp params => mcuprSpiBusCreate busp params
  | .spiBusRelease bus => mcuprSpiBusRelease bus
  | .spiOpen bus dev csnum => mcuprSpiOpen bus dev csnum
  | .spiClose dev => mcuprSpiClose dev
  | .spiTransfer dev tx length => mcuprSpiTransfer dev tx length

/-- The integer a call returns to its caller, where it returns one. -/
def Op.returned : (o : Op) → o.Result → Option Int32
  | .gpioChipCreate _, r => some r.1.code
  | .i2cBusCreate .., r => some r.1.code
  | .spiBusCreate .., r => some r.1.code
  | .gpioOpen .., r => some r.1.code
  | .i2cOpen .., r => some r.1.code
  | .spiOpen .., r => some r.1.code
  | .gpioRead .., r => some r
  | .i2cWrite .., r => some r
  | .i2cRead .., r => some r.1
  | .spiTransfer .., r => some r.1
  | .gpioChipRelease _, _ | .gpioClose _, _ | .gpioWrite .., _ | .i2cBusRelease _, _
  | .i2cClose .., _ | .spiBusRelease _, _ | .spiClose _, _ => none

end McuPeripheral.Linuxdev
