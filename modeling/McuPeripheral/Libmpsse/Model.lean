import McuPeripheral.Api
import McuPeripheral.Libmpsse.Interface

/-!
# The functions of `impl_libmpsse.c`

I2C through an FTDI adapter. A handle is the slave address shifted left by one,
which is the first byte of a write on the wire. The part of `mcupr_i2c_read` and of
`mcupr_i2c_write` between `Start` and the label `wayout` is a definition of its own, so
that a jump to the label is a return from it. Log output and the fields of the
private data that are never read back are left out.
-/

namespace McuPeripheral.Libmpsse

open Calls Libc

/-- `struct libmpsse_data`; `mpsse` is `none` for a null pointer. -/
structure LibmpsseData where
  /-- The adapter. -/
  mpsse : Option MpsseContext
  deriving DecidableEq, Repr

/-- `mcupr_i2c_bus_t`. -/
abbrev I2cBus := McuprI2cBus LibmpsseData

/-- `MIN_ADDR`. -/
def minAddr : Int32 := 0x00

/-- `MAX_ADDR`. -/
def maxAddr : Int32 := 0x7f

/-- `VALID_ADDR`. -/
def validAddr (addr : Int32) : Bool := minAddr ≤ addr ∧ addr ≤ maxAddr

/-- `VALID_HANDLE`. -/
def validHandle (hdl : Int32) : Bool :=
  hdl &&& 0x01 = 0 ∧ minAddr * 2 ≤ hdl ∧ hdl ≤ maxAddr * 2

/-- The conversion from `int` to `char`, as a byte. -/
def toByte (n : Int32) : UInt8 := n.toUInt32.toUInt8

/-- `mcupr_i2c_open`. -/
def mcuprI2cOpen (bus : Option I2cBus) (dev addr : Int32) :
    Prog Call Reply (McuprResult × Int32) :=
  match bus with
  | some ⟨_, some ⟨some ctx⟩⟩ => do
    if !ctx.isOpen then return (.invalidObj, dev)
    if !validAddr addr then return (.invalidArgument, dev)
    return (.ok, addr <<< 1)
  | _ => return (.invalidObj, dev)

/-- `mcupr_i2c_read` from the first `Write` to `wayout`. -/
def readFrame (ctx : ℕ) (dev : Int32) (size : UInt32) : Prog Call Reply (Int32 × List UInt8) := do
  let rdAddr := toByte (dev ||| 0x01)
  let written ← write ctx [rdAddr]
  if written.status ≠ mpsseOk then return (McuprResult.backendFailure.code, [])
  let acked ← getAck ctx
  if acked ≠ ack then return (McuprResult.communicationError.code, [])
  let readData ← read ctx size.toInt32
  let res ← match readData.buffer with
    | none => pure (McuprResult.communicationError.code, [])
    | some (ptr, data) => do
      libc (free ptr)
      pure (size.toInt32, data.take size.toNat)
  sendNacks ctx
  let _ ← read ctx 1
  sendAcks ctx
  return res

/-- `mcupr_i2c_read`: the result, and the bytes stored in the caller's buffer. -/
def mcuprI2cRead (bus : Option I2cBus) (dev : Int32) (size : UInt32) :
    Prog Call Reply (Int32 × List UInt8) :=
  match bus with
  | some ⟨_, some ⟨some ctx⟩⟩ => do
    if !ctx.isOpen || !validHandle dev then return (McuprResult.invalidHandle.code, [])
    let _ ← start ctx.id
    let res ← readFrame ctx.id dev size
    let _ ← stop ctx.id
    return res
  | some ⟨_, some ⟨none⟩⟩ => return (McuprResult.invalidHandle.code, [])
  | _ => return (McuprResult.invalidObj.code, [])

/-- `mcupr_i2c_write` from the first `Write` to `wayout`. -/
def writeFrame (ctx : ℕ) (dev : Int32) (data : List UInt8) (size : UInt32) :
    Prog Call Reply Int32 := do
  let wrAddr := toByte (dev ||| 0x00)
  let written ← write ctx [wrAddr]
  if written.status ≠ mpsseOk then return McuprResult.backendFailure.code
  let acked ← getAck ctx
  if acked ≠ ack then return McuprResult.communicationError.code
  if 0 < size then
    let _ ← write ctx (data.take size.toNat)
    let acked ← getAck ctx
    if acked ≠ ack then return McuprResult.communicationError.code
  return size.toInt32

/-- `mcupr_i2c_write` of the first `size` bytes of `data`. -/
def mcuprI2cWrite (bus : Option I2cBus) (dev : Int32) (data : List UInt8) (size : UInt32) :
    Prog Call Reply Int32 :=
  match bus with
  | some ⟨_, some ⟨some ctx⟩⟩ => do
    if !ctx.isOpen || !validHandle dev then return McuprResult.invalidHandle.code
    let _ ← start ctx.id
    let res ← writeFrame ctx.id dev data size
    let _ ← stop ctx.id
    return res
  | some ⟨_, some ⟨none⟩⟩ => return McuprResult.invalidHandle.code
  | _ => return McuprResult.invalidObj.code

/-- `mcupr_i2c_close` does nothing. -/
def mcuprI2cClose (_bus : Option I2cBus) (_dev : Int32) : Prog Call Reply Unit := return ()

/-- `mcupr_i2c_bus_release`. -/
def mcuprI2cBusRelease (bus : Option I2cBus) : Prog Call Reply Unit :=
  match bus with
  | some ⟨self, some priv⟩ => do
    close (priv.mpsse.map MpsseContext.id)
    libc (memset (self.add 8) 0 24)
    libc (memset self 0 8)
    libc (free self)
  | _ => return ()

/-- `mcupr_i2c_bus_create`. -/
def mcuprI2cBusCreate (busp : Option I2cBus) (params : McuprI2cBusParams) :
    Prog Call Reply (McuprResult × Option I2cBus) := do
  let bus ← libc (calloc 32)
  match bus with
  | none => return (.nomem, busp)
  | some bus =>
    let ctx ← mpsse params.freq.toInt32
    match ctx with
    | none => do
      libc (free bus)
      return (.backendFailure, busp)
    | some ctx => do
      if !ctx.isOpen then
        close (some ctx.id)
        libc (free bus)
        return (.backendFailure, busp)
      return (.ok, some ⟨bus, some ⟨some ctx⟩⟩)

/-- A call of the API with its arguments. -/
abbrev Op := I2cOp LibmpsseData

/-- The function behind each call. -/
def Op.prog : (o : Op) → Prog Call Reply o.Result
  | .i2cBusCreate busp params => mcuprI2cBusCreate busp params
  | .i2cBusRelease bus => mcuprI2cBusRelease bus
  | .i2cOpen bus dev addr => mcuprI2cOpen bus dev addr
  | .i2cClose bus dev => mcuprI2cClose bus dev
  | .i2cWrite bus dev data size => mcuprI2cWrite bus dev data size
  | .i2cRead bus dev size => mcuprI2cRead bus dev size

end McuPeripheral.Libmpsse
