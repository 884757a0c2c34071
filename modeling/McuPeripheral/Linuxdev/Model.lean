import McuPeripheral.Linuxdev.Interface
import McuPeripheral.Utils

/-!
# The functions of `impl_linuxdev.c`

GPIO through sysfs, I2C through `/dev/i2c-N` and SPI through `/dev/spidevN.M`.
An output pointer such as `dev` is passed in with its old value and comes back
with its new one. Log output is left out.
-/

namespace McuPeripheral.Linuxdev

open Calls Libc

/-- `mcupr_gpio_chip_t` with the block it was allocated in. -/
structure GpioChip where
  /-- The object's address. -/
  self : Ptr
  /-- The address of the private data behind it. -/
  data : Ptr
  deriving DecidableEq, Repr

/-- `struct linuxdev_i2c_data`. -/
structure I2cData where
  /-- The number in `/dev/i2c-N`. -/
  busnum : Int32
  deriving DecidableEq, Repr

/-- `mcupr_i2c_bus_t`. -/
abbrev I2cBus := McuprI2cBus I2cData

/-- `mcupr_spi_bus_t`. -/
structure SpiBus where
  /-- The object's address. -/
  self : Ptr
  /-- The parameters it was created with, the bus number resolved. -/
  params : McuprSpiBusParams
  deriving DecidableEq, Repr

/-! ## Helper: sysfs GPIO -/

/-- `/sys/class/gpio/export`. -/
def exportPath : List Char := "/sys/class/gpio/export".toList

/-- `/sys/class/gpio/unexport`. -/
def unexportPath : List Char := "/sys/class/gpio/unexport".toList

/-- `/sys/class/gpio/gpio%d`. -/
def gpioPath (pin : Int32) : List Char := "/sys/class/gpio/gpio".toList ++ decimal pin.toInt

/-- `/sys/class/gpio/gpio%d/direction`. -/
def directionPath (pin : Int32) : List Char := gpioPath pin ++ "/direction".toList

/-- `/sys/class/gpio/gpio%d/value`. -/
def valuePath (pin : Int32) : List Char := gpioPath pin ++ "/value".toList

/-- `sysfs_gpio_export`. -/
def sysfsGpioExport (pin : Int32) : Prog Call Reply McuprResult := do
  let fd ← openFile (snprintf 64 exportPath) .wronly
  if fd < 0 then return .ioError
  let buf := snprintf 32 (decimal pin.toInt)
  let _ ← write fd (bytes buf)
  let _ ← close fd
  let st ← stat (snprintf 64 (gpioPath pin))
  if st ≠ 0 then return .ioError
  return .ok

/-- `sysfs_gpio_unexport`. -/
def sysfsGpioUnexport (pin : Int32) : Prog Call Reply McuprResult := do
  let fd ← openFile unexportPath .wronly
  if fd < 0 then return .ioError
  let buf := snprintf 32 (decimal pin.toInt)
  let ret ← write fd (bytes buf)
  if ret < 0 then
    let _ ← close fd
    return .ioError
  let _ ← close fd
  return .ok

/-- The common body of `sysfs_gpio_set_dir` and `sysfs_gpio_write_value`: open the
file, write the text without looking at the result, and close it. -/
def writeAttribute (path : List Char) (text : List UInt8) : Prog Call Reply McuprResult := do
  let fd ← openFile path .wronly
  if fd < 0 then return .ioError
  let _ ← write fd text
  let _ ← close fd
  return .ok

/-- What `sysfs_gpio_set_dir` writes for an output and an input. -/
def directionText (isOutput : Bool) : List UInt8 :=
  if isOutput then bytes "out".toList else bytes "in".toList

/-- `sysfs_gpio_set_dir`. -/
def sysfsGpioSetDir (pin : Int32) (isOutput : Bool) : Prog Call Reply McuprResult :=
  writeAttribute (snprintf 64 (directionPath pin)) (directionText isOutput)

/-- What `sysfs_gpio_write_value` writes for a high and a low level. -/
def valueText (high : Bool) : List UInt8 := if high then bytes "1".toList else bytes "0".toList

/-- `sysfs_gpio_write_value`. -/
def sysfsGpioWriteValue (pin value : Int32) : Prog Call Reply McuprResult :=
  writeAttribute (snprintf 64 (valuePath pin)) (valueText (value ≠ 0))

/-- `sysfs_gpio_read_value`; `stale` is what the first byte of the local buffer held
before the read. -/
def sysfsGpioReadValue (stale : UInt8) (pin : Int32) : Prog Call Reply Int32 := do
  let fd ← openFile (snprintf 64 (valuePath pin)) .rdonly
  if fd < 0 then return McuprResult.ioError.code
  let buf ← read fd 4
  match buf with
  | none =>
    let _ ← close fd
    return McuprResult.ioError.code
  | some buf =>
    let _ ← close fd
    return if buf.headD stale = '1'.toUInt8 then 1 else 0

/-! ## GPIO API -/

/-- `mcupr_gpio_chip_create`. -/
def mcuprGpioChipCreate (chipp : Option GpioChip) :
    Prog Call Reply (McuprResult × Option GpioChip) := do
  let chip ← libc (calloc 12)
  match chip with
  | none => return (.nomem, chipp)
  | some chip => return (.ok, some ⟨chip, chip.add 8⟩)

/-- `mcupr_gpio_open`. -/
def mcuprGpioOpen (dev pin : Int32) (mode : McuprGpioMode) :
    Prog Call Reply (McuprResult × Int32) := do
  let result ← sysfsGpioExport pin
  if result ≠ .ok then return (result, dev)
  let dev := pin
  let result ← sysfsGpioSetDir pin (mode = .output)
  return (result, dev)

/-- `mcupr_gpio_close` does nothing. -/
def mcuprGpioClose (_dev : Int32) : Prog Call Reply Unit := return ()

/-- `mcupr_gpio_write`. -/
def mcuprGpioWrite (dev value : Int32) : Prog Call Reply Unit := do
  let _ ← sysfsGpioWriteValue dev value
  return ()

/-- `mcupr_gpio_read`. -/
def mcuprGpioRead (stale : UInt8) (dev : Int32) : Prog Call Reply Int32 :=
  sysfsGpioReadValue stale dev

/-- `mcupr_gpio_chip_release` does nothing. -/
def mcuprGpioChipRelease (_chip : Option GpioChip) : Prog Call Reply Unit := return ()

/-! ## I2C API -/

/-- `mcupr_i2c_bus_create`. -/
def mcuprI2cBusCreate (busp : Option I2cBus) (params : McuprI2cBusParams) :
    Prog Call Reply (McuprResult × Option I2cBus) := do
  let bus ← libc (calloc 12)
  match bus with
  | none => return (.nomem, busp)
  | some bus =>
    let busnum := params.busnum.toInt32
    let busnum := if busnum.toUInt32 = mcuprUnspecified then 0 else busnum
    return (.ok, some ⟨bus, some ⟨busnum⟩⟩)

/-- `mcupr_i2c_bus_release`. -/
def mcuprI2cBusRelease (bus : Option I2cBus) : Prog Call Reply Unit :=
  match bus with
  | some ⟨self, some _⟩ => do
    libc (memset (self.add 8) 0 4)
    libc (memset self 0 8)
    libc (free self)
  | _ => return ()

/-- `/dev/i2c-%d`. -/
def i2cPath (busnum : Int32) : List Char := "/dev/i2c-".toList ++ decimal busnum.toInt

/-- `mcupr_i2c_open`. -/
def mcuprI2cOpen (bus : Option I2cBus) (dev addr : Int32) :
    Prog Call Reply (McuprResult × Int32) :=
  match bus with
  | some ⟨_, some priv⟩ => do
    let fd ← openFile (snprintf 32 (i2cPath priv.busnum)) .rdwr
    if fd < 0 then return (.nodev, dev)
    let ret ← ioctl fd (.i2cSlave addr)
    if ret < 0 then
      let _ ← close fd
      return (.ioError, dev)
    return (.ok, fd)
  | _ => return (.invalidObj, dev)

/-- `mcupr_i2c_close`. -/
def mcuprI2cClose (bus : Option I2cBus) (dev : Int32) : Prog Call Reply Unit :=
  match bus with
  | some ⟨_, some _⟩ => do
    if 0 ≤ dev then
      let _ ← close dev
    return ()
  | _ => return ()

/-- `mcupr_i2c_write` of the first `size` bytes of `data`. -/
def mcuprI2cWrite (bus : Option I2cBus) (dev : Int32) (data : List UInt8) (size : UInt32) :
    Prog Call Reply Int32 :=
  match bus with
  | some ⟨_, some _⟩ => do
    if dev < 0 then return McuprResult.ioError.code
    let ret ← write dev (data.take size.toNat)
    if ret < 0 then return McuprResult.ioError.code
    return ret.toInt32
  | _ => return McuprResult.invalidObj.code

/-- `mcupr_i2c_read`: the result, and the bytes stored in the caller's buffer. -/
def mcuprI2cRead (bus : Option I2cBus) (dev : Int32) (size : UInt32) :
    Prog Call Reply (Int32 × List UInt8) :=
  match bus with
  | some ⟨_, some _⟩ => do
    if dev < 0 then return (McuprResult.ioError.code, [])
    let ret ← read dev size.toUInt64
    match ret with
    | none => return (McuprResult.ioError.code, [])
    | some data => return ((Int64.ofNat data.length).toInt32, data)
  | _ => return (McuprResult.invalidObj.code, [])

/-! ## SPI API -/

/-- The layout of `mcupr_spi_bus_t`: 24 bytes, the `data` pointer at offset 16. -/
def spiBusLayout : TypeLayout := ⟨24, 16⟩

/-- `mcupr_spi_bus_create`. The object type is passed for the private data as well. -/
def mcuprSpiBusCreate (busp : Option SpiBus) (params : McuprSpiBusParams) :
    Prog Call Reply (McuprResult × Option SpiBus) := do
  let (res, bus) ← libc (mcuprAllocObjectOf none spiBusLayout spiBusLayout)
  match res, bus with
  | .ok, some bus =>
    let busnum := if params.busnum.toUInt32 = mcuprUnspecified then 0 else params.busnum
    return (.ok, some ⟨bus, { params with busnum := busnum }⟩)
  | res, _ => return (res, busp)

/-- `mcupr_spi_bus_release`. -/
def mcuprSpiBusRelease (bus : Option SpiBus) : Prog Call Reply Unit :=
  libc (mcuprReleaseObject (bus.map SpiBus.self))

/-- `/dev/spidev%d.%d`. -/
def spiPath (busnum csnum : Int32) : List Char :=
  "/dev/spidev".toList ++ decimal busnum.toInt ++ '.' :: decimal csnum.toInt

/-- The chip select `mcupr_spi_open` resolves its argument to. -/
def resolveCsnum (csnum : Int32) : Prog Call Reply Int32 := do
  if csnum.toUInt32 = mcuprUnspecified then
    let env ← libc (getenv "MCUPR_SPI_BUSNUM")
    match env with
    | some text => return (strtol text).toInt32
    | none => return csnum
  else return csnum

/-- `mcupr_spi_open`. -/
def mcuprSpiOpen (bus : SpiBus) (dev csnum : Int32) : Prog Call Reply (McuprResult × Int32) := do
  let csnum ← resolveCsnum csnum
  let fd ← openFile (snprintf 32 (spiPath bus.params.busnum csnum)) .rdwr
  if fd < 0 then return (.ioError, dev)
  let ret ← ioctl fd (.spiIocWrMode bus.params.mode.code)
  if ret < 0 then
    let _ ← close fd
    return (.ioError, dev)
  let ret ← ioctl fd (.spiIocWrMaxSpeedHz bus.params.speed)
  if ret < 0 then
    let _ ← close fd
    return (.ioError, dev)
  return (.ok, fd)

/-- `mcupr_spi_close`. -/
def mcuprSpiClose (dev : Int32) : Prog Call Reply Unit := do
  let _ ← close dev
  return ()

/-- `mcupr_spi_transfer`: the result, and the bytes stored in the receive buffer. -/
def mcuprSpiTransfer (dev : Int32) (tx : List UInt8) (length : Int32) :
    Prog Call Reply (Int32 × List UInt8) := do
  let (ret, rx) ← ioctlMessage dev tx length.toUInt32
  if ret < 0 then return (McuprResult.ioError.code, rx)
  return (ret, rx)

end McuPeripheral.Linuxdev
