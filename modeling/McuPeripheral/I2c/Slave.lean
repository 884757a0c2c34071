import McuPeripheral.Calls.Registers

/-!
# Slaves on an I2C bus

A slave sees a transfer byte by byte: it is addressed for a write and takes bytes, or it is
addressed for a read and gives some. Nothing is said about what the bytes mean.
-/

namespace I2c

/-- A slave with states in `τ`. -/
structure Slave (τ : Type*) where
  /-- It is addressed for a write. -/
  addressed : τ → τ
  /-- It takes a byte of a write. -/
  take : τ → UInt8 → τ
  /-- It gives a byte to a read. -/
  give : τ → UInt8 × τ

namespace Slave

variable {τ : Type*} (S : Slave τ)

/-- It takes several bytes of a write. -/
def takes (t : τ) (bytes : List UInt8) : τ := bytes.foldl S.take t

/-- A write of these bytes. -/
def receives (t : τ) (bytes : List UInt8) : τ := S.takes (S.addressed t) bytes

/-- The bytes given to a read of this length. -/
def gives : ℕ → τ → List UInt8
  | 0, _ => []
  | n + 1, t => (S.give t).1 :: gives n (S.give t).2

/-- The state behind such a read. -/
def given : ℕ → τ → τ
  | 0, t => t
  | n + 1, t => given n (S.give t).2

@[simp] theorem length_gives (n : ℕ) (t : τ) : (S.gives n t).length = n := by
  induction n generalizing t with
  | zero => rfl
  | succ n ih => simp [gives, ih]

/-- Giving bytes twice. -/
theorem given_add (m n : ℕ) (t : τ) : S.given (m + n) t = S.given n (S.given m t) := by
  induction m generalizing t with
  | zero => rw [Nat.zero_add, given]
  | succ m ih => rw [Nat.add_right_comm, given, ih, given]

end Slave

/-! ## Slaves with registers

The first byte of a write selects a register, and every byte behind it is written there. A
read gives what the selected register holds, as often as it is asked.
-/

/-- A slave with registers. -/
structure Registered (κ : Type*) where
  /-- The register that is selected. -/
  selected : κ
  /-- The next byte of a write selects a register. -/
  selecting : Bool
  /-- What the registers hold. -/
  content : κ → UInt8
  /-- The writes that were made to them. -/
  log : List (κ × UInt8)

/-- The slave whose registers are selected by `select`. -/
def registers {κ : Type*} [DecidableEq κ] (select : UInt8 → κ) : Slave (Registered κ) where
  addressed t := { t with selecting := true }
  take t b :=
    if t.selecting = true then { t with selected := select b, selecting := false }
    else { t with content := Function.update t.content t.selected b,
                  log := t.log ++ [(t.selected, b)] }
  give t := (t.content t.selected, t)

section Registers

open Calls

variable {κ : Type*} [DecidableEq κ] {select : UInt8 → κ} {t t' : Registered κ}

/-- Between two states exactly these writes were made. -/
abbrev Registered.Made (t : Registered κ) (ws : List (κ × UInt8)) (t' : Registered κ) : Prop :=
  Calls.Made Registered.content Registered.log t ws t'

/-- Giving bytes changes nothing. -/
@[simp] theorem given_registers {n : ℕ} : (registers select).given n t = t := by
  induction n with
  | zero => rfl
  | succ n ih => exact ih

/-- Being addressed makes no write. -/
theorem made_addressed : t.Made [] ((registers select).receives t []) :=
  ⟨(List.append_nil _).symm, rfl⟩

/-- Taking a first byte makes no write. -/
theorem made_select {b : UInt8} : t.Made [] ((registers select).receives t [b]) :=
  ⟨(List.append_nil _).symm, rfl⟩

/-- Taking a second byte writes it to the register that the first one selects. -/
theorem made_write {b v : UInt8} : t.Made [(select b, v)] ((registers select).receives t [b, v]) :=
  ⟨rfl, rfl⟩

end Registers

end I2c
