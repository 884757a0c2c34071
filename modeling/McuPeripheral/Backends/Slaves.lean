import McuPeripheral.Backends.Opening
import McuPeripheral.Calls.Session
import McuPeripheral.I2c.Slave

/-!
# A slave behind a handle

What a client of a backend may rely on when a handle leads to a slave: a write reaches the
slave as a front of its payload, a read that reports success delivers what the slave gave,
and where no call falls short both do all that was asked for. Every backend that keeps
this can be put behind a driver.
-/

namespace McuPeripheral

open Calls

/-- The slave was not addressed for the write, or it took a front of the payload. -/
def Reached {τ : Type} (S : I2c.Slave τ) (t : τ) (payload : List UInt8) (t' : τ) : Prop :=
  t' = t ∨ ∃ k ≤ payload.length, t' = S.receives t (payload.take k)

/-- A handle of a backend that leads to a slave. -/
structure I2cLink {τ : Type} (S : I2c.Slave τ) where
  /-- The backend. -/
  backend : I2cBackend
  /-- The states of what is behind its calls. -/
  State : Type
  /-- What answers the calls. -/
  env : Env backend.Call backend.Reply State
  /-- The bus. -/
  bus : Option backend.Bus
  /-- The handle. -/
  dev : Int32
  /-- The slave. -/
  slave : State → τ
  /-- The handle leads to the slave. -/
  Ready : State → Prop
  /-- A call that does not fail or fall short of what it was asked for. -/
  Smooth : Event backend.Call backend.Reply → Prop
  /-- What a write does. -/
  write : ∀ data size tr n s s', Ready s → (backend.i2cWrite bus dev data size).Path tr n →
    env.Run s tr s' → Ready s' ∧ Reached S (slave s) (data.take size.toNat) (slave s') ∧
      ((∀ e ∈ tr, Smooth e) → slave s' = S.receives (slave s) (data.take size.toNat))
  /-- What a read does. -/
  read : ∀ size tr n data s s', size.toNat < 2 ^ 31 → Ready s →
    (backend.i2cRead bus dev size).Path tr (n, data) → env.Run s tr s' →
    Ready s' ∧ (∃ k, slave s' = S.given k (slave s)) ∧
      (n = size.toInt32 → data = S.gives size.toNat (slave s)) ∧
      ((∀ e ∈ tr, Smooth e) → n = size.toInt32)

end McuPeripheral
