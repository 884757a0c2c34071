import McuPeripheral.Libmpsse.Executions

/-!
# Slave addresses and handles

A handle is twice the 7-bit slave address. The guards of the transfers accept exactly
the handles that an open can have returned, and the first byte on the wire is the
handle itself for a write and the handle plus one for a read.
-/

namespace McuPeripheral.Libmpsse

open Calls Libc

/-- The handle of a slave address. -/
def handleOf (a : ℕ) : Int32 := Int32.ofNat (2 * a)

/-- The value of a handle. -/
theorem toInt_handleOf {a : ℕ} (ha : a ≤ 127) : (handleOf a).toInt = 2 * a := by
  unfold handleOf
  rw [Int32.toInt_ofNat_of_lt (by omega)]
  omega

/-- Different addresses have different handles. -/
theorem handleOf_inj {a b : ℕ} (ha : a ≤ 127) (hb : b ≤ 127) (h : handleOf a = handleOf b) :
    a = b := by
  have hvalue := congrArg Int32.toInt h
  rw [toInt_handleOf ha, toInt_handleOf hb] at hvalue
  omega

/-- Handles of addresses pass the guard. -/
theorem validHandle_handleOf : ∀ a < 128, validHandle (handleOf a) = true := by decide

/-- Odd numbers do not. -/
theorem validHandle_odd : ∀ a < 128, validHandle (Int32.ofNat (2 * a + 1)) = false := by decide

/-- The guard accepts exactly the handles of 7-bit addresses. -/
theorem validHandle_iff {dev : Int32} :
    validHandle dev = true ↔ ∃ a ≤ 127, dev = handleOf a := by
  constructor
  · intro h
    have hrange := h
    simp only [validHandle, decide_eq_true_eq] at hrange
    have hlow : 0 ≤ dev := hrange.2.1
    have hhigh : dev.toInt ≤ 254 := Int32.le_iff_toInt_le.mp hrange.2.2
    have hclamp := Int32.cast_toNatClampNeg dev hlow
    have hdev := Int32.ofNat_toNatClampNeg dev hlow
    rcases Nat.even_or_odd' dev.toNatClampNeg with ⟨a, ha | ha⟩
    · refine ⟨a, by omega, ?_⟩
      rw [handleOf, ← ha, hdev]
    · rw [← hdev, ha, validHandle_odd a (by omega)] at h
      cases h
  · rintro ⟨a, ha, rfl⟩
    exact validHandle_handleOf a (by omega)

/-- An address that passes the guard becomes the handle of a 7-bit address. -/
theorem shift_of_validAddr {addr : Int32} (h : validAddr addr = true) :
    ∃ a : ℕ, a ≤ 127 ∧ addr.toInt = a ∧ addr <<< 1 = handleOf a := by
  have hshift : ∀ a < 128, Int32.ofNat a <<< 1 = handleOf a := by decide
  simp only [validAddr, decide_eq_true_eq] at h
  have hlow : 0 ≤ addr := h.1
  have hhigh : addr.toInt ≤ 127 := Int32.le_iff_toInt_le.mp h.2
  have hclamp := Int32.cast_toNatClampNeg addr hlow
  have haddr := Int32.ofNat_toNatClampNeg addr hlow
  refine ⟨addr.toNatClampNeg, by omega, hclamp.symm, ?_⟩
  rw [← hshift addr.toNatClampNeg (by omega), haddr]

/-- The first byte of a write to a slave. -/
theorem toByte_write : ∀ a < 128, toByte (handleOf a ||| 0x00) = UInt8.ofNat (2 * a) := by decide

/-- The first byte of a read from a slave. -/
theorem toByte_read : ∀ a < 128, toByte (handleOf a ||| 0x01) = UInt8.ofNat (2 * a + 1) := by
  decide

section Calls

variable {tr : List (Event Call Reply)} (self : Ptr) {ctx : MpsseContext} {dev : Int32}

/-- An open only checks the address. -/
theorem mcuprI2cOpen_path {addr dev' : Int32} {r : McuprResult} (hopen : ctx.isOpen = true) :
    (mcuprI2cOpen (some ⟨self, some ⟨some ctx⟩⟩) dev addr).Path tr (r, dev') ↔
      tr = [] ∧ ((validAddr addr = false ∧ r = .invalidArgument ∧ dev' = dev) ∨
        (validAddr addr = true ∧ r = .ok ∧ dev' = addr <<< 1)) := by
  cases hvalid : validAddr addr <;> simp [mcuprI2cOpen, hopen, hvalid]

/-- A write on an opened bus to a handle that passes the guard. -/
theorem mcuprI2cWrite_path {data : List UInt8} {size : UInt32} {r : Int32}
    (hopen : ctx.isOpen = true) (hdev : validHandle dev = true) :
    (mcuprI2cWrite (some ⟨self, some ⟨some ctx⟩⟩) dev data size).Path tr r ↔
      ∃ p, tr = writeTrace ctx.id dev data size p ∧ r = writeResult size p := by
  simp only [mcuprI2cWrite, hopen, hdev, Bool.not_true, Bool.or_self, Bool.false_eq_true, if_false,
    framed_path, writeFrame_path]
  constructor
  · rintro ⟨started, stopped, _, rfl, p, rfl, rfl⟩
    exact ⟨{ p with started := started, stopped := stopped }, rfl, rfl⟩
  · rintro ⟨p, rfl, rfl⟩
    exact ⟨p.started, p.stopped, _, rfl, p, rfl, rfl⟩

/-- A write that the guard refuses. -/
theorem mcuprI2cWrite_path_refused {data : List UInt8} {size : UInt32} {r : Int32}
    (hopen : ctx.isOpen = true) (hdev : validHandle dev = false) :
    (mcuprI2cWrite (some ⟨self, some ⟨some ctx⟩⟩) dev data size).Path tr r ↔
      tr = [] ∧ r = McuprResult.invalidHandle.code := by
  simp [mcuprI2cWrite, hopen, hdev]

/-- A read on an opened bus from a handle that passes the guard. -/
theorem mcuprI2cRead_path {size : UInt32} {r : Int32 × List UInt8}
    (hopen : ctx.isOpen = true) (hdev : validHandle dev = true) :
    (mcuprI2cRead (some ⟨self, some ⟨some ctx⟩⟩) dev size).Path tr r ↔
      ∃ p, tr = readTrace ctx.id dev size p ∧ r = readResult size p := by
  simp only [mcuprI2cRead, hopen, hdev, Bool.not_true, Bool.or_self, Bool.false_eq_true, if_false,
    framed_path, readFrame_path]
  constructor
  · rintro ⟨started, stopped, _, rfl, p, rfl, rfl⟩
    exact ⟨{ p with started := started, stopped := stopped }, rfl, rfl⟩
  · rintro ⟨p, rfl, rfl⟩
    exact ⟨p.started, p.stopped, _, rfl, p, rfl, rfl⟩

/-- A read that the guard refuses. -/
theorem mcuprI2cRead_path_refused {size : UInt32} {r : Int32 × List UInt8}
    (hopen : ctx.isOpen = true) (hdev : validHandle dev = false) :
    (mcuprI2cRead (some ⟨self, some ⟨some ctx⟩⟩) dev size).Path tr r ↔
      tr = [] ∧ r = (McuprResult.invalidHandle.code, []) := by
  simp [mcuprI2cRead, hopen, hdev]

/-- Every open is refused, or accepted, without a call on the adapter. -/
theorem mcuprI2cOpen_cases {bus : Option I2cBus} {addr dev' : Int32} {r : McuprResult}
    (hpath : (mcuprI2cOpen bus dev addr).Path tr (r, dev')) :
    r = .invalidObj ∨ r = .invalidArgument ∨ r = .ok := by
  obtain _ | ⟨self, _ | ⟨_ | ctx⟩⟩ := bus
  · exact Or.inl (congrArg Prod.fst hpath.2)
  · exact Or.inl (congrArg Prod.fst hpath.2)
  · exact Or.inl (congrArg Prod.fst hpath.2)
  · obtain ⟨-, -, heq⟩ | ⟨-, hpath'⟩ := Prog.path_ite.mp hpath
    · exact Or.inl (congrArg Prod.fst heq)
    · obtain ⟨-, -, heq⟩ | ⟨-, -, heq⟩ := Prog.path_ite.mp hpath'
      · exact Or.inr (Or.inl (congrArg Prod.fst heq))
      · exact Or.inr (Or.inr (congrArg Prod.fst heq))

/-- There is an opened adapter behind the bus, and the handle passes the guard. -/
def Usable (bus : Option I2cBus) (dev : Int32) : Prop :=
  ∃ self ctx, bus = some ⟨self, some ⟨some ctx⟩⟩ ∧ ctx.isOpen = true ∧ validHandle dev = true

/-- There is private data behind the bus. -/
def HasData (bus : Option I2cBus) : Prop := ∃ self priv, bus = some ⟨self, some priv⟩

/-- Every other write is refused without a call on the adapter. -/
theorem mcuprI2cWrite_path_unusable {bus : Option I2cBus} {data : List UInt8} {size : UInt32}
    {r : Int32} (hunusable : ¬Usable bus dev)
    (hpath : (mcuprI2cWrite bus dev data size).Path tr r) :
    tr = [] ∧ ((¬HasData bus ∧ r = McuprResult.invalidObj.code) ∨
      (HasData bus ∧ r = McuprResult.invalidHandle.code)) := by
  obtain _ | ⟨self, _ | ⟨_ | ctx⟩⟩ := bus
  · exact ⟨hpath.1, Or.inl ⟨nofun, hpath.2⟩⟩
  · exact ⟨hpath.1, Or.inl ⟨nofun, hpath.2⟩⟩
  · exact ⟨hpath.1, Or.inr ⟨⟨self, _, rfl⟩, hpath.2⟩⟩
  · obtain ⟨-, htrace, hresult⟩ | ⟨hguard, -⟩ := Prog.path_ite.mp hpath
    · exact ⟨htrace, Or.inr ⟨⟨self, _, rfl⟩, hresult⟩⟩
    · simp only [Bool.or_eq_true, Bool.not_eq_true', not_or, Bool.not_eq_false] at hguard
      exact absurd ⟨self, ctx, rfl, hguard⟩ hunusable

/-- Every other read is refused without a call on the adapter. -/
theorem mcuprI2cRead_path_unusable {bus : Option I2cBus} {size : UInt32} {r : Int32 × List UInt8}
    (hunusable : ¬Usable bus dev) (hpath : (mcuprI2cRead bus dev size).Path tr r) :
    tr = [] ∧ ((¬HasData bus ∧ r = (McuprResult.invalidObj.code, [])) ∨
      (HasData bus ∧ r = (McuprResult.invalidHandle.code, []))) := by
  obtain _ | ⟨self, _ | ⟨_ | ctx⟩⟩ := bus
  · exact ⟨hpath.1, Or.inl ⟨nofun, hpath.2⟩⟩
  · exact ⟨hpath.1, Or.inl ⟨nofun, hpath.2⟩⟩
  · exact ⟨hpath.1, Or.inr ⟨⟨self, _, rfl⟩, hpath.2⟩⟩
  · obtain ⟨-, htrace, hresult⟩ | ⟨hguard, -⟩ := Prog.path_ite.mp hpath
    · exact ⟨htrace, Or.inr ⟨⟨self, _, rfl⟩, hresult⟩⟩
    · simp only [Bool.or_eq_true, Bool.not_eq_true', not_or, Bool.not_eq_false] at hguard
      exact absurd ⟨self, ctx, rfl, hguard⟩ hunusable

/-- Every write is refused without a call on the adapter, or is a frame. -/
theorem mcuprI2cWrite_cases {bus : Option I2cBus} {data : List UInt8} {size : UInt32} {r : Int32}
    (hpath : (mcuprI2cWrite bus dev data size).Path tr r) :
    (tr = [] ∧ (r = McuprResult.invalidObj.code ∨ r = McuprResult.invalidHandle.code)) ∨
      ∃ ctx p, tr = writeTrace ctx dev data size p ∧ r = writeResult size p := by
  by_cases husable : Usable bus dev
  · obtain ⟨self, ctx, rfl, hopen, hdev⟩ := husable
    exact Or.inr ⟨ctx.id, (mcuprI2cWrite_path self hopen hdev).mp hpath⟩
  · obtain ⟨htrace, hresult⟩ := mcuprI2cWrite_path_unusable husable hpath
    exact Or.inl ⟨htrace, hresult.imp And.right And.right⟩

/-- Every read is refused without a call on the adapter, or is a frame. -/
theorem mcuprI2cRead_cases {bus : Option I2cBus} {size : UInt32} {r : Int32 × List UInt8}
    (hpath : (mcuprI2cRead bus dev size).Path tr r) :
    (tr = [] ∧ (r = (McuprResult.invalidObj.code, []) ∨ r = (McuprResult.invalidHandle.code, []))) ∨
      ∃ ctx p, tr = readTrace ctx dev size p ∧ r = readResult size p := by
  by_cases husable : Usable bus dev
  · obtain ⟨self, ctx, rfl, hopen, hdev⟩ := husable
    exact Or.inr ⟨ctx.id, (mcuprI2cRead_path self hopen hdev).mp hpath⟩
  · obtain ⟨htrace, hresult⟩ := mcuprI2cRead_path_unusable husable hpath
    exact Or.inl ⟨htrace, hresult.imp And.right And.right⟩

end Calls

end McuPeripheral.Libmpsse
