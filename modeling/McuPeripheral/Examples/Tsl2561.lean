import McuPeripheral.Backends.Slaves
import McuPeripheral.Calls.Registers
import McuPeripheral.I2c.Slave

/-!
# The register functions of `examples/tsl2561.c`

The light sensor has sixteen registers. A command byte selects one, and the functions that
read and write a register send the command byte first; neither looks at the result of its
write. They are linked with one of the I2C backends, so the backend is a parameter.
-/

namespace McuPeripheral.Tsl2561

open Calls

/-- `TLS2561_REG_COMMAND_CMD`. -/
def regCommandCmd : Int32 := (1 : Int32) <<< 7

/-- The command byte for a register. -/
def command (reg : Int32) : UInt8 := (regCommandCmd ||| reg).toUInt32.toUInt8

/-- `tsl2561_read`. -/
def tsl2561Read (B : I2cBackend) (bus : Option B.Bus) (handle reg : Int32) :
    Prog B.Call B.Reply UInt8 := do
  let buf := command reg
  let _ ← B.i2cWrite bus handle [buf] 1
  let (n, data) ← B.i2cRead bus handle 1
  if n ≠ 1 then return 0xff
  return data.headD buf

/-- `tsl2561_write`. -/
def tsl2561Write (B : I2cBackend) (bus : Option B.Bus) (handle reg : Int32) (value : UInt8) :
    Prog B.Call B.Reply Unit := do
  let _ ← B.i2cWrite bus handle [command reg, value] 2
  return ()

/-! ## The sensor -/

/-- The register that a command byte selects: the four bits of the address in it. -/
def selectRegister (c : UInt8) : Fin 16 := Fin.ofNat 16 c.toNat

/-- The sensor as a slave. -/
def sensor : I2c.Slave (I2c.Registered (Fin 16)) := I2c.registers selectRegister

/-- The register a number stands for. -/
def register (reg : Int32) : Fin 16 := selectRegister (command reg)

/-- The functions see an `int` register number modulo 16. -/
theorem register_val (reg : Int32) : (register reg).val = (reg.toInt % 16).toNat := by
  have hbits : (regCommandCmd ||| reg).toUInt32.toNat = 128 ||| reg.toUInt32.toNat := by
    change (regCommandCmd.toBitVec ||| reg.toBitVec).toNat = _
    rw [BitVec.toNat_or]
    rfl
  have hlow : (register reg).val = reg.toUInt32.toNat % 16 := by
    calc (register reg).val = (regCommandCmd ||| reg).toUInt32.toNat % 2 ^ 8 % 2 ^ 4 := rfl
      _ = (128 ||| reg.toUInt32.toNat) % 2 ^ 4 := by
        rw [hbits, Nat.mod_mod_of_dvd _ (by decide)]
      _ = reg.toUInt32.toNat % 16 := by
        rw [Nat.or_mod_two_pow]
        simp
  have hvalue : reg.toInt = (reg.toUInt32.toNat : ℤ).bmod (2 ^ 32) :=
    BitVec.toInt_eq_toNat_bmod reg.toBitVec
  rw [hlow, hvalue, Int.bmod_def]
  omega

/-! ## The functions on a handle that leads to the sensor -/

section Runs

variable {L : I2cLink sensor} {s s' : L.State} {reg : Int32}
  {tr : List (Event L.backend.Call L.backend.Reply)}

/-- A write of one command byte selects its register, or leaves the selection as it is. -/
theorem select_run {n : Int32} (hready : L.Ready s)
    (hpath : (L.backend.i2cWrite L.bus L.dev [command reg] 1).Path tr n)
    (hrun : L.env.Run s tr s') :
    L.Ready s' ∧ (L.slave s).Made [] (L.slave s') ∧
      ((L.slave s').selected = (L.slave s).selected ∨ (L.slave s').selected = register reg) ∧
      ((∀ e ∈ tr, L.Smooth e) → (L.slave s').selected = register reg) := by
  obtain ⟨hready', hreached, hall⟩ := L.write _ _ _ _ _ _ hready hpath hrun
  refine ⟨hready', ?_⟩
  have hpayload : [command reg].take (1 : UInt32).toNat = [command reg] := rfl
  rw [hpayload] at hreached hall
  have hselected : (∀ e ∈ tr, L.Smooth e) → (L.slave s').selected = register reg := by
    intro hsmooth
    rw [hall hsmooth]
    rfl
  obtain hsame | ⟨k, hk, hslave⟩ := hreached
  · rw [hsame] at hselected ⊢
    exact ⟨.nil, Or.inl rfl, hselected⟩
  · obtain rfl | rfl : k = 0 ∨ k = 1 := by
      have hle : k ≤ 1 := hk
      omega
    · rw [hslave] at hselected ⊢
      exact ⟨I2c.made_addressed, Or.inl rfl, hselected⟩
    · rw [hslave]
      exact ⟨I2c.made_select, Or.inr rfl, fun _ => rfl⟩

/-- `tsl2561_write` writes the register once or makes no write at all, and writes it where no
call falls short. -/
theorem tsl2561Write_run {value : UInt8} {u : Unit} (hready : L.Ready s)
    (hpath : (tsl2561Write L.backend L.bus L.dev reg value).Path tr u)
    (hrun : L.env.Run s tr s') :
    L.Ready s' ∧ ((L.slave s').selected = (L.slave s).selected ∨
        (L.slave s').selected = register reg) ∧
      ((L.slave s).Made [] (L.slave s') ∨
        (L.slave s).Made [(register reg, value)] (L.slave s')) ∧
      ((∀ e ∈ tr, L.Smooth e) → (L.slave s).Made [(register reg, value)] (L.slave s')) := by
  obtain ⟨tr₁, n, _, rfl, hwrite, rfl, -⟩ := Prog.path_bind.mp hpath
  rw [List.append_nil] at hrun ⊢
  obtain ⟨hready', hreached, hall⟩ := L.write _ _ _ _ _ _ hready hwrite hrun
  refine ⟨hready', ?_⟩
  have hpayload : [command reg, value].take (2 : UInt32).toNat = [command reg, value] := rfl
  rw [hpayload] at hreached hall
  have hwritten : (∀ e ∈ tr₁, L.Smooth e) →
      (L.slave s).Made [(register reg, value)] (L.slave s') := by
    intro hsmooth
    rw [hall hsmooth]
    exact I2c.made_write
  obtain hsame | ⟨k, hk, hslave⟩ := hreached
  · rw [hsame] at hwritten ⊢
    exact ⟨Or.inl rfl, Or.inl .nil, hwritten⟩
  · obtain rfl | rfl | rfl : k = 0 ∨ k = 1 ∨ k = 2 := by
      have hle : k ≤ 2 := hk
      omega
    · rw [hslave] at hwritten ⊢
      exact ⟨Or.inl rfl, Or.inl I2c.made_addressed, hwritten⟩
    · rw [hslave] at hwritten ⊢
      exact ⟨Or.inr rfl, Or.inl I2c.made_select, hwritten⟩
    · rw [hslave]
      exact ⟨Or.inr rfl, Or.inr I2c.made_write, fun _ => I2c.made_write⟩

/-- `tsl2561_read` makes no write. What it returns is `0xff`, or the content of the register that
is selected when it comes to read: its own, or the one before if its command byte was lost. -/
theorem tsl2561Read_run {r : UInt8} (hready : L.Ready s)
    (hpath : (tsl2561Read L.backend L.bus L.dev reg).Path tr r) (hrun : L.env.Run s tr s') :
    L.Ready s' ∧ (L.slave s).Made [] (L.slave s') ∧
      ((L.slave s').selected = (L.slave s).selected ∨ (L.slave s').selected = register reg) ∧
      (r = 0xff ∨ r = (L.slave s).content (L.slave s').selected) ∧
      ((∀ e ∈ tr, L.Smooth e) → r = (L.slave s).content (register reg)) := by
  obtain ⟨tr₁, n, _, rfl, hwrite, hrest⟩ := Prog.path_bind.mp hpath
  obtain ⟨tr₂, ⟨m, data⟩, tr₃, rfl, hread, hreturn⟩ := Prog.path_bind.mp hrest
  obtain ⟨s₁, hrun₁, hrun₂⟩ := Env.run_append.mp hrun
  obtain ⟨s₂, hrun₂, hrun₃⟩ := Env.run_append.mp hrun₂
  obtain ⟨hready₁, hmade, hselected, hcommand⟩ := select_run hready hwrite hrun₁
  obtain ⟨hready₂, ⟨k, hslave⟩, hdata, hall⟩ :=
    L.read _ _ _ _ _ _ (by decide) hready₁ hread hrun₂
  have hsame : L.slave s₂ = L.slave s₁ := hslave.trans I2c.given_registers
  have hgiven : m = 1 → data.headD (command reg) = (L.slave s₁).content (L.slave s₁).selected := by
    intro hm
    rw [hdata hm]
    rfl
  have hcontent : (L.slave s₁).content = (L.slave s).content := hmade.content
  rw [Prog.path_ite] at hreturn
  obtain ⟨hm, rfl, rfl⟩ | ⟨hm, rfl, rfl⟩ := hreturn
  · obtain rfl : s' = s₂ := hrun₃
    refine ⟨hready₂, by rwa [hsame], by rwa [hsame], Or.inl rfl, fun hsmooth => ?_⟩
    have hone : m = 1 := hall fun e he => hsmooth e (by simp [he])
    exact absurd hone hm
  · obtain rfl : s' = s₂ := hrun₃
    have hvalue := hgiven (not_not.mp hm)
    rw [hcontent] at hvalue
    refine ⟨hready₂, by rwa [hsame], by rwa [hsame], Or.inr ?_, fun hsmooth => ?_⟩
    · rw [hsame]
      exact hvalue
    · have hown := hcommand fun e he => hsmooth e (by simp [he])
      rw [hown] at hvalue
      exact hvalue

end Runs

end McuPeripheral.Tsl2561
