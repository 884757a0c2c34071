import McuPeripheral.Libc.Interface

/-!
# The library calls of `impl_pigpiod.c`

The backend talks to the pigpio daemon. Every call answers a number that is negative
on failure; the declared argument types of the daemon's handles and counts are
unsigned.
-/

namespace McuPeripheral.Pigpiod

open Calls Libc

/-- The calls of the backend. -/
inductive Call
  | libc (c : Libc.Call)
  | pigpioStart (addr port : Option (List Char))
  | pigpioStop (pi : Int32)
  | i2cOpen (pi : Int32) (bus addr flags : UInt32)
  | i2cClose (pi : Int32) (handle : UInt32)
  | i2cReadDevice (pi : Int32) (handle count : UInt32)
  | i2cWriteDevice (pi : Int32) (handle : UInt32) (data : List UInt8) (count : UInt32)

/-- What each call answers; a read also delivers the bytes it stored. -/
@[reducible] def Reply : Call → Type
  | .libc c => Libc.Reply c
  | .pigpioStart .. | .i2cOpen .. | .i2cClose .. | .i2cWriteDevice .. => Int32
  | .i2cReadDevice .. => Int32 × List UInt8
  | .pigpioStop _ => Unit

/-- A C library program inside the backend. -/
abbrev libc {α : Type} (p : Prog Libc.Call Libc.Reply α) : Prog Call Reply α :=
  p.lift Call.libc fun _ => Equiv.refl _

/-- `pigpio_start(addr, port)`. -/
def pigpioStart (addr port : Option (List Char)) : Prog Call Reply Int32 :=
  .ask (Call.pigpioStart addr port)

/-- `pigpio_stop(pi)`. -/
def pigpioStop (pi : Int32) : Prog Call Reply Unit := .ask (Call.pigpioStop pi)

/-- `i2c_open(pi, bus, addr, flags)`. -/
def i2cOpen (pi : Int32) (bus addr flags : UInt32) : Prog Call Reply Int32 :=
  .ask (Call.i2cOpen pi bus addr flags)

/-- `i2c_close(pi, handle)`. -/
def i2cClose (pi : Int32) (handle : UInt32) : Prog Call Reply Int32 :=
  .ask (Call.i2cClose pi handle)

/-- `i2c_read_device(pi, handle, buf, count)`. -/
def i2cReadDevice (pi : Int32) (handle count : UInt32) : Prog Call Reply (Int32 × List UInt8) :=
  .ask (Call.i2cReadDevice pi handle count)

/-- `i2c_write_device(pi, handle, data, count)`. -/
def i2cWriteDevice (pi : Int32) (handle : UInt32) (data : List UInt8) (count : UInt32) :
    Prog Call Reply Int32 := .ask (Call.i2cWriteDevice pi handle data count)

end McuPeripheral.Pigpiod
