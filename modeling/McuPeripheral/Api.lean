import McuPeripheral.Libc.Interface
import McuPeripheral.Libc.Text

/-!
# The public header and the common sources

The result codes, the parameter records, the I2C bus with its calls, and the parts
shared by every backend: the message table of `error.c` and the parameter
initialisers of `mcu_peripheral.c`. Types follow the header: `int` is `Int32`, `uint32_t` is
`UInt32`, and enumerations are inductive types with their code.
-/

namespace McuPeripheral

open Calls

/-- `MCUPR_UNSPECIFIED`, an unsigned constant. -/
def mcuprUnspecified : UInt32 := 0x80000000

/-- `mcupr_result_t`. -/
inductive McuprResult
  | ok
  | unknown
  | invalidObj
  | invalidHandle
  | invalidName
  | invalidArgument
  | invalidParam
  | backendFailure
  | communicationError
  | busy
  | nomem
  | nodev
  | ioError
  deriving DecidableEq, Repr

/-- The integer behind each result code. -/
def McuprResult.code : McuprResult → Int32
  | .ok => 0
  | .unknown => -1
  | .invalidObj => -2
  | .invalidHandle => -3
  | .invalidName => -4
  | .invalidArgument => -5
  | .invalidParam => -6
  | .backendFailure => -7
  | .communicationError => -8
  | .busy => -9
  | .nomem => -10
  | .nodev => -11
  | .ioError => -12

/-- Every result but `MCUPR_RES_OK` is a negative integer. -/
theorem McuprResult.code_neg_iff (r : McuprResult) : r.code < 0 ↔ r ≠ .ok := by
  cases r <;> decide

/-- Different results have different codes. -/
theorem McuprResult.code_injective : Function.Injective McuprResult.code := by
  intro r r' h
  cases r <;> cases r' <;> first | rfl | exact absurd h (by decide)

/-- A size below `2 ^ 31` keeps its value as an `int`. -/
theorem toInt_toInt32 {size : UInt32} (h : size.toNat < 2 ^ 31) :
    size.toInt32.toInt = size.toNat := by
  change size.toBitVec.toInt = size.toBitVec.toNat
  apply BitVec.toInt_eq_toNat_of_lt
  change 2 * size.toNat < _
  omega

/-- Such a size is not negative as an `int`. -/
theorem toInt32_not_neg {size : UInt32} (h : size.toNat < 2 ^ 31) : ¬size.toInt32 < 0 := by
  have hvalue := toInt_toInt32 h
  rw [Int32.lt_iff_toInt_lt, Int32.toInt_zero]
  omega

/-- A larger size is negative as an `int`. -/
theorem toInt32_neg {size : UInt32} (h : 2 ^ 31 ≤ size.toNat) : size.toInt32 < 0 := by
  have hlt : size.toBitVec.toNat < 2 ^ 32 := size.toNat_lt
  have hbound : 2 ^ 31 ≤ size.toBitVec.toNat := h
  have hvalue : size.toInt32.toInt = size.toBitVec.toInt := rfl
  rw [Int32.lt_iff_toInt_lt, Int32.toInt_zero, hvalue, BitVec.toInt_eq_toNat_cond]
  split <;> omega

/-- A 64-bit number in the range of `int` keeps its value as an `int`. -/
theorem toInt_narrow {n : Int64} (hlow : -2 ^ 31 ≤ n.toInt) (hhigh : n.toInt < 2 ^ 31) :
    n.toInt32.toInt = n.toInt := by
  rw [Int64.toInt_toInt32]
  apply Int.bmod_eq_of_le <;> omega

/-- `mcupr_gpio_mode_t`. -/
inductive McuprGpioMode
  | input
  | output
  | inputPullup
  | inputPulldown
  deriving DecidableEq, Repr

/-- `mcupr_spi_mode_t`. -/
inductive McuprSpiMode
  | mode0
  | mode1
  | mode2
  | mode3
  deriving DecidableEq, Repr

/-- The clock polarity and phase number of an SPI mode. -/
def McuprSpiMode.code : McuprSpiMode → UInt8
  | .mode0 => 0
  | .mode1 => 1
  | .mode2 => 2
  | .mode3 => 3

/-- `mcupr_gpio_chip_params_t`. -/
structure McuprGpioChipParams where
  /-- Controller number. -/
  chip : Int32
  deriving DecidableEq, Repr

/-- `mcupr_i2c_bus_t`. Each backend hangs private data of its own type on it; `data` is
`none` for a null pointer. -/
structure McuprI2cBus (δ : Type) where
  /-- The object's address. -/
  self : Libc.Ptr
  /-- The private data. -/
  data : Option δ
  deriving DecidableEq, Repr

/-- What holds without a bus and without private data holds of every bus that is not live. -/
@[elab_as_elim] theorem McuprI2cBus.of_not_live {δ : Type} {P : Option (McuprI2cBus δ) → Prop}
    {bus : Option (McuprI2cBus δ)} (hdead : ¬∃ self priv, bus = some ⟨self, some priv⟩)
    (hbus : P none) (hdata : ∀ self, P (some ⟨self, none⟩)) : P bus := by
  obtain _ | ⟨self, _ | priv⟩ := bus
  · exact hbus
  · exact hdata self
  · exact absurd ⟨self, priv, rfl⟩ hdead

/-- `mcupr_i2c_bus_params_t`. -/
structure McuprI2cBusParams where
  /-- Bus number, or `MCUPR_UNSPECIFIED`. -/
  busnum : UInt32
  /-- Clock frequency in hertz. -/
  freq : UInt32
  deriving DecidableEq, Repr

/-- `mcupr_spi_bus_params_t`. -/
structure McuprSpiBusParams where
  /-- Bus number, or `MCUPR_UNSPECIFIED` read as an `int`. -/
  busnum : Int32
  /-- Clock frequency in hertz. -/
  speed : UInt32
  /-- Clock polarity and phase. -/
  mode : McuprSpiMode
  deriving DecidableEq, Repr

/-- A call of the I2C part of the API with its arguments, in a backend with private data
`δ`. A bus is `none` for a null pointer. The first argument of a create and the second of
an open is the old content of the output pointer. -/
inductive I2cOp (δ : Type)
  | i2cBusCreate (busp : Option (McuprI2cBus δ)) (params : McuprI2cBusParams)
  | i2cBusRelease (bus : Option (McuprI2cBus δ))
  | i2cOpen (bus : Option (McuprI2cBus δ)) (dev addr : Int32)
  | i2cClose (bus : Option (McuprI2cBus δ)) (dev : Int32)
  | i2cWrite (bus : Option (McuprI2cBus δ)) (dev : Int32) (data : List UInt8) (size : UInt32)
  | i2cRead (bus : Option (McuprI2cBus δ)) (dev : Int32) (size : UInt32)

/-- What each call gives back: its return value, and what it stored. -/
@[reducible] def I2cOp.Result {δ : Type} : I2cOp δ → Type
  | .i2cBusCreate .. => McuprResult × Option (McuprI2cBus δ)
  | .i2cOpen .. => McuprResult × Int32
  | .i2cWrite .. => Int32
  | .i2cRead .. => Int32 × List UInt8
  | .i2cBusRelease _ | .i2cClose .. => Unit

/-- The integer a call returns to its caller, where it returns one. -/
def I2cOp.returned {δ : Type} : (o : I2cOp δ) → o.Result → Option Int32
  | .i2cBusCreate .., r => some r.1.code
  | .i2cOpen .., r => some r.1.code
  | .i2cWrite .., r => some r
  | .i2cRead .., r => some r.1
  | .i2cBusRelease _, _ | .i2cClose .., _ => none

/-- `errmsgs`: the message table of `error.c`. -/
def errmsgs : List (Int32 × String) :=
  [(McuprResult.ok.code, "OK"),
   (McuprResult.unknown.code, "Unknown"),
   (McuprResult.invalidObj.code, "Invalid object"),
   (McuprResult.invalidHandle.code, "Invalid handle"),
   (McuprResult.invalidName.code, "Invalid name"),
   (McuprResult.invalidArgument.code, "Invalid argument"),
   (McuprResult.backendFailure.code, "Backend failure"),
   (McuprResult.communicationError.code, "Communication error"),
   (McuprResult.busy.code, "Resource busy"),
   (McuprResult.nomem.code, "Not enough memory"),
   (McuprResult.nodev.code, "No such device")]

/-- `mcupr_error`: the first table entry with this number, else a fallback text. -/
def mcuprError (errno : Int32) : String :=
  match errmsgs.find? (fun entry => entry.1 == errno) with
  | some entry => entry.2
  | none => "Unknown error"

/-- `mcupr_gpio_init_params`. -/
def mcuprGpioInitParams : McuprGpioChipParams := ⟨0⟩

/-- `mcupr_i2c_init_params`: the bus number comes from the environment, narrowed
from `long` to the unsigned field, or is left unspecified. -/
def mcuprI2cInitParams : Prog Libc.Call Libc.Reply McuprI2cBusParams := do
  let freq : UInt32 := 400000
  let busnum ← Libc.getenv "MCUPR_I2C_BUSNUM"
  match busnum with
  | some text => return ⟨(Libc.strtol text).toUInt64.toUInt32, freq⟩
  | none => return ⟨mcuprUnspecified, freq⟩

/-- `mcupr_spi_init_params`: as for I2C, with a signed bus number field. -/
def mcuprSpiInitParams : Prog Libc.Call Libc.Reply McuprSpiBusParams := do
  let speed : UInt32 := 1000000
  let busnum ← Libc.getenv "MCUPR_SPI_BUSNUM"
  match busnum with
  | some text => return ⟨(Libc.strtol text).toInt32, speed, .mode0⟩
  | none => return ⟨mcuprUnspecified.toInt32, speed, .mode0⟩

end McuPeripheral
