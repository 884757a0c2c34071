import McuPeripheral.Libc.Numerals
import McuPeripheral.Linuxdev.Executions

/-!
# Bus numbers from the environment

The initialisers of the bus parameters read a bus number from an environment variable.
`strtol` gives a `long`, which is narrowed to the field without a look at its range, and
the one narrow number that marks an unspecified bus becomes the default bus. This module
follows the number from its numeral to the device that is opened.
-/

namespace McuPeripheral.Linuxdev

open Calls Libc

variable {tr : List (Event Call Reply)}

/-- A reply of `getenv` is the value of the variable. -/
def FromEnv (env : String → Option (List Char)) : Event Call Reply → Prop
  | ⟨.libc (.getenv name), text⟩ => text = env name
  | _ => True

/-- The name of a device that was opened. -/
def openedPath : Event Call Reply → Option (List Char)
  | ⟨.open path _, fd⟩ => if fd < 0 then none else some path
  | _ => none

/-- A client that opens a device on the bus named by the environment, and gives up at the
first error. -/
def openI2cFromEnv (busp : Option I2cBus) (dev addr : Int32) :
    Prog Call Reply (McuprResult × Int32) := do
  let params ← libc mcuprI2cInitParams
  let (result, bus) ← mcuprI2cBusCreate busp params
  if result ≠ .ok then return (result, dev)
  mcuprI2cOpen bus dev addr

/-- A client that creates the SPI bus named by the environment. -/
def createSpiFromEnv (busp : Option SpiBus) : Prog Call Reply (McuprResult × Option SpiBus) := do
  let params ← libc mcuprSpiInitParams
  mcuprSpiBusCreate busp params

/-! ## The executions of the clients -/

/-- A program that looks one variable up and returns what becomes of its value. -/
theorem libc_getenv_path {β : Type} {name : String} {found : List Char → β} {missing b : β} :
    (libc (do
      match ← Libc.getenv name with
      | some text => return found text
      | none => return missing)).Path tr b ↔ ∃ text : Option (List Char),
      tr = [⟨.libc (.getenv name), text⟩] ∧ b = text.elim missing found := by
  constructor
  · rintro ⟨text, _, rfl, h⟩
    cases text with
    | none =>
      obtain ⟨rfl, rfl⟩ := h
      exact ⟨none, rfl, rfl⟩
    | some text =>
      obtain ⟨rfl, rfl⟩ := h
      exact ⟨some text, rfl, rfl⟩
  · rintro ⟨text, rfl, rfl⟩
    cases text with
    | none => exact ⟨none, _, rfl, rfl, rfl⟩
    | some text => exact ⟨some text, _, rfl, rfl, rfl⟩

/-- Initialising the I2C parameters reads the one variable. -/
theorem mcuprI2cInitParams_path {params : McuprI2cBusParams} :
    (libc mcuprI2cInitParams).Path tr params ↔ ∃ text : Option (List Char),
      tr = [⟨.libc (.getenv "MCUPR_I2C_BUSNUM"), text⟩] ∧
        params =
          ⟨text.elim mcuprUnspecified fun text => (strtol text).toUInt64.toUInt32, 400000⟩ := by
  refine libc_getenv_path.trans (exists_congr fun text => ?_)
  cases text with
  | none => rfl
  | some text => rfl

/-- Initialising the SPI parameters reads the one variable. -/
theorem mcuprSpiInitParams_path {params : McuprSpiBusParams} :
    (libc mcuprSpiInitParams).Path tr params ↔ ∃ text : Option (List Char),
      tr = [⟨.libc (.getenv "MCUPR_SPI_BUSNUM"), text⟩] ∧
        params = ⟨text.elim mcuprUnspecified.toInt32 fun text => (strtol text).toInt32, 1000000,
          .mode0⟩ := by
  refine libc_getenv_path.trans (exists_congr fun text => ?_)
  cases text with
  | none => rfl
  | some text => rfl

/-- The narrow bus number an environment variable gives. -/
def envBusnum (text : Option (List Char)) : Int32 :=
  text.elim mcuprUnspecified.toInt32 fun text => (strtol text).toInt32

/-- The unsigned field of the I2C parameters keeps the same bits as the signed one. -/
theorem toInt32_envBusnum (text : Option (List Char)) :
    (text.elim mcuprUnspecified fun text => (strtol text).toUInt64.toUInt32).toInt32 =
      envBusnum text := by
  cases text with
  | none => rfl
  | some text =>
    apply Int32.toBitVec_inj.mp
    exact (BitVec.signExtend_eq_setWidth_of_le (strtol text).toBitVec (show 32 ≤ 64 by decide)).symm

/-- The client of the I2C bus reads the variable and makes one allocation; if it gets its
block, it opens the resolved bus. -/
theorem openI2cFromEnv_path {busp : Option I2cBus} {dev addr : Int32} {r : McuprResult × Int32} :
    (openI2cFromEnv busp dev addr).Path tr r ↔ ∃ text : Option (List Char),
      (r = (.nomem, dev) ∧ tr = [⟨.libc (.getenv "MCUPR_I2C_BUSNUM"), text⟩,
        ⟨.libc (.calloc 12), none⟩]) ∨
      ∃ (p : Ptr) (rest : List (Event Call Reply)),
        tr = ⟨.libc (.getenv "MCUPR_I2C_BUSNUM"), text⟩ :: ⟨.libc (.calloc 12), some p⟩ :: rest ∧
        (mcuprI2cOpen (some ⟨p, some ⟨resolveBusnum (envBusnum text)⟩⟩) dev addr).Path rest r := by
  unfold openI2cFromEnv
  rw [Prog.path_bind]
  constructor
  · rintro ⟨_, params, _, rfl, hparams, hrest⟩
    obtain ⟨text, rfl, rfl⟩ := mcuprI2cInitParams_path.mp hparams
    obtain ⟨_, ⟨result, bus⟩, rest, rfl, hcreate, hopen⟩ := Prog.path_bind.mp hrest
    refine ⟨text, ?_⟩
    obtain ⟨rfl, rfl, rfl⟩ | ⟨p, rfl, rfl, rfl⟩ := mcuprI2cBusCreate_path.mp hcreate
    · obtain ⟨rfl, rfl⟩ := hopen
      exact Or.inl ⟨rfl, rfl⟩
    · rw [toInt32_envBusnum] at hopen
      exact Or.inr ⟨p, rest, rfl, hopen⟩
  · rintro ⟨text, ⟨rfl, rfl⟩ | ⟨p, rest, rfl, hopen⟩⟩
    · exact ⟨_, _, _, rfl, mcuprI2cInitParams_path.mpr ⟨text, rfl, rfl⟩, Prog.path_bind.mpr
        ⟨_, (.nomem, busp), [], rfl, mcuprI2cBusCreate_path.mpr (Or.inl ⟨rfl, rfl, rfl⟩), rfl, rfl⟩⟩
    · rw [← toInt32_envBusnum] at hopen
      exact ⟨_, _, _, rfl, mcuprI2cInitParams_path.mpr ⟨text, rfl, rfl⟩, Prog.path_bind.mpr
        ⟨_, (.ok, _), rest, rfl, mcuprI2cBusCreate_path.mpr (Or.inr ⟨p, rfl, rfl, rfl⟩), hopen⟩⟩

/-- The client of the SPI bus reads the variable, and creates the bus for it. -/
theorem createSpiFromEnv_path {busp : Option SpiBus} {r : McuprResult × Option SpiBus} :
    (createSpiFromEnv busp).Path tr r ↔ ∃ (text : Option (List Char)) (rest : _),
      tr = ⟨.libc (.getenv "MCUPR_SPI_BUSNUM"), text⟩ :: rest ∧
        (mcuprSpiBusCreate busp ⟨envBusnum text, 1000000, .mode0⟩).Path rest r := by
  unfold createSpiFromEnv
  rw [Prog.path_bind]
  constructor
  · rintro ⟨_, params, rest, rfl, hparams, hcreate⟩
    obtain ⟨text, rfl, rfl⟩ := mcuprSpiInitParams_path.mp hparams
    exact ⟨text, rest, rfl, hcreate⟩
  · rintro ⟨text, rest, rfl, hcreate⟩
    exact ⟨_, _, rest, rfl, mcuprSpiInitParams_path.mpr ⟨text, rfl, rfl⟩, hcreate⟩

/-! ## The range that survives -/

/-- The number that marks an unspecified bus is the least `int`. -/
theorem toUInt32_eq_unspecified_iff {n : Int32} :
    n.toUInt32 = mcuprUnspecified ↔ n.toInt = -2 ^ 31 := by
  have hmin : (mcuprUnspecified.toInt32).toInt = -2 ^ 31 := by decide
  rw [← hmin, Int32.toInt_inj]
  constructor
  · intro h
    rw [← h]
    rfl
  · rintro rfl
    rfl

/-- Narrowing and resolving keep exactly the numbers between the least `int` and `2 ^ 31`. -/
theorem toInt_resolveBusnum_eq_iff {m : Int64} :
    (resolveBusnum m.toInt32).toInt = m.toInt ↔ -2 ^ 31 < m.toInt ∧ m.toInt < 2 ^ 31 := by
  have hinside : -2 ^ 31 < m.toInt ∧ m.toInt < 2 ^ 31 → m.toInt32.toInt = m.toInt :=
    fun h => toInt_narrow h.1.le h.2
  unfold resolveBusnum
  split_ifs with hmark
  · have hleast := toUInt32_eq_unspecified_iff.mp hmark
    have houtside : ¬(-2 ^ 31 < m.toInt ∧ m.toInt < 2 ^ 31) := by
      intro h
      have hsame := hinside h
      omega
    refine iff_of_false (fun hzero => houtside ?_) houtside
    rw [← hzero]
    decide
  · have hleast := mt toUInt32_eq_unspecified_iff.mpr hmark
    have hlow := m.toInt32.le_toInt
    have hhigh := m.toInt32.toInt_lt
    refine ⟨fun h => ?_, hinside⟩
    omega

/-! ## The number and the bus -/

/-- The name of the I2C device of this number. -/
def i2cName (n : ℤ) : List Char := "/dev/i2c-".toList ++ decimal n

/-- Exactly the device of this number was opened, or an error was returned and none was. -/
def OpensOnly (n : ℤ) (tr : List (Event Call Reply)) (r : McuprResult) : Prop :=
  tr.filterMap openedPath = [i2cName n] ∨ (r ≠ .ok ∧ tr.filterMap openedPath = [])

/-- With this text in the environment the I2C client opens a device of bus `n` or none. -/
def I2cHonours (text : List Char) (n : ℤ) : Prop :=
  ∀ (env : String → Option (List Char)) (busp : Option I2cBus) (dev addr : Int32)
    (tr : List (Event Call Reply)) (r : McuprResult × Int32),
    env "MCUPR_I2C_BUSNUM" = some text → (∀ e ∈ tr, FromEnv env e) →
    (openI2cFromEnv busp dev addr).Path tr r → OpensOnly n tr r.1

/-- With this text in the environment the SPI client gets a bus of number `n` or none. -/
def SpiHonours (text : List Char) (n : ℤ) : Prop :=
  ∀ (env : String → Option (List Char)) (busp bus : Option SpiBus) (tr : List (Event Call Reply))
    (r : McuprResult), env "MCUPR_SPI_BUSNUM" = some text → (∀ e ∈ tr, FromEnv env e) →
    (createSpiFromEnv busp).Path tr (r, bus) →
    r ≠ .ok ∨ ∃ b, bus = some b ∧ b.params.busnum.toInt = n

/-- An open that fails opens nothing. -/
theorem openedPath_refused {path : List Char} {flag : OpenFlag} {fd : Int32} (hfd : fd < 0) :
    openedPath ⟨.open path flag, fd⟩ = none := if_pos hfd

/-- An open that does not fail opens its file. -/
theorem openedPath_open {path : List Char} {flag : OpenFlag} {fd : Int32} (hfd : ¬fd < 0) :
    openedPath ⟨.open path flag, fd⟩ = some path := if_neg hfd

/-- An open opens the device of its bus, or fails without one. -/
theorem i2cOpen_opened {self : Ptr} {priv : I2cData} {dev addr : Int32} {r : McuprResult × Int32}
    (hpath : (mcuprI2cOpen (some ⟨self, some priv⟩) dev addr).Path tr r) :
    OpensOnly priv.busnum.toInt tr r.1 := by
  obtain ⟨r, dev'⟩ := r
  obtain ⟨fd, hfd, rfl, -, rfl⟩ | ⟨fd, ret, c, hfd, -, -, -, rfl⟩ | ⟨fd, ret, hfd, -, -, -, rfl⟩ :=
    mcuprI2cOpen_path.mp hpath
  · exact Or.inr ⟨nofun, List.filterMap_cons_none (openedPath_refused hfd)⟩
  · exact Or.inl (List.filterMap_cons_some (openedPath_open hfd))
  · exact Or.inl (List.filterMap_cons_some (openedPath_open hfd))

/-- An allocation reads no environment variable. -/
theorem fromEnv_allocCalls (env : String → Option (List Char)) (buf : Ptr) :
    ∀ e ∈ (allocCalls 24 16 24 buf).map fun e => (⟨.libc e.call, e.reply⟩ : Event Call Reply),
      FromEnv env e := by
  intro e he
  obtain ⟨e', he', rfl⟩ := List.mem_map.mp he
  unfold allocCalls at he'
  split at he'
  · simp only [List.mem_cons, List.not_mem_nil, or_false] at he'
    rcases he' with rfl | rfl | rfl
    · trivial
    · trivial
    · trivial
  · simp only [List.mem_cons, List.not_mem_nil, or_false] at he'
    rcases he' with rfl | rfl
    · trivial
    · trivial

section Numerals

variable {text : List Char} {n : ℤ} (h : Numeral text n) (hlow : -2 ^ 63 ≤ n) (hhigh : n < 2 ^ 63)

include h hlow hhigh

/-- A numeral resolves to its number exactly in the range that survives. -/
theorem toInt_resolve_numeral_iff :
    (resolveBusnum (envBusnum (some text))).toInt = n ↔ -2 ^ 31 < n ∧ n < 2 ^ 31 := by
  have hvalue := toInt_strtol h hlow hhigh
  rw [← hvalue]
  exact toInt_resolveBusnum_eq_iff

/-- The I2C client honours exactly the numbers in this range. -/
theorem i2cHonours_iff : I2cHonours text n ↔ -2 ^ 31 < n ∧ n < 2 ^ 31 := by
  rw [← toInt_resolve_numeral_iff h hlow hhigh]
  constructor
  · intro hhonours
    -- the run in which every call succeeds opens a device, and it has to be the right one
    have hrun : (openI2cFromEnv none 0 0).Path [⟨.libc (.getenv "MCUPR_I2C_BUSNUM"), some text⟩,
        ⟨.libc (.calloc 12), some ⟨0, 0⟩⟩,
        ⟨.open (i2cPath (resolveBusnum (envBusnum (some text)))) .rdwr, 3⟩,
        ⟨.ioctl 3 (.i2cSlave 0), 0⟩] (.ok, 3) :=
      openI2cFromEnv_path.mpr ⟨some text, Or.inr ⟨⟨0, 0⟩, _, rfl, mcuprI2cOpen_path.mpr
        (Or.inr (Or.inr ⟨3, 0, by decide, by decide, rfl, rfl, rfl⟩))⟩⟩
    have hopens := hhonours (fun _ => some text) none 0 0 _ _ rfl (by simp [FromEnv]) hrun
    obtain hopens | ⟨hne, -⟩ := hopens
    · have hname : i2cName (resolveBusnum (envBusnum (some text))).toInt = i2cName n :=
        (List.cons.inj hopens).1
      exact decimal_injective (List.append_cancel_left hname)
    · exact absurd rfl hne
  · intro hnumber env busp dev addr tr r henv hreads hpath
    obtain ⟨text', ⟨rfl, rfl⟩ | ⟨p, rest, rfl, hopen⟩⟩ := openI2cFromEnv_path.mp hpath
    · exact Or.inr ⟨nofun, rfl⟩
    · obtain rfl : text' = some text := by rw [← henv]; exact hreads _ List.mem_cons_self
      have hopens := i2cOpen_opened hopen
      rw [hnumber] at hopens
      exact hopens

/-- The SPI client honours exactly the numbers in this range. -/
theorem spiHonours_iff : SpiHonours text n ↔ -2 ^ 31 < n ∧ n < 2 ^ 31 := by
  rw [← toInt_resolve_numeral_iff h hlow hhigh]
  constructor
  · intro hhonours
    obtain ⟨tr, htr⟩ : ∃ tr : List (Event Call Reply),
        tr = ⟨.libc (.getenv "MCUPR_SPI_BUSNUM"), some text⟩ ::
          (allocCalls 24 16 24 ⟨0, 0⟩).map fun e => ⟨.libc e.call, e.reply⟩ := ⟨_, rfl⟩
    have hrun : (createSpiFromEnv none).Path tr
        (.ok, some ⟨⟨0, 8⟩, ⟨resolveBusnum (envBusnum (some text)), 1000000, .mode0⟩⟩) :=
      createSpiFromEnv_path.mpr ⟨some text, _, htr, mcuprSpiBusCreate_path.mpr
        (Or.inr ⟨⟨0, 0⟩, rfl, rfl, rfl⟩)⟩
    have hreads : ∀ e ∈ tr, FromEnv (fun _ => some text) e := by
      rw [htr]
      exact List.forall_mem_cons.mpr ⟨rfl, fromEnv_allocCalls _ ⟨0, 0⟩⟩
    obtain hne | ⟨b, hbus, hnumber⟩ := hhonours _ none _ tr _ rfl hreads hrun
    · exact absurd rfl hne
    · obtain rfl := Option.some_inj.mp hbus
      exact hnumber
  · intro hnumber env busp bus tr r henv hreads hpath
    obtain ⟨text', rest, rfl, hcreate⟩ := createSpiFromEnv_path.mp hpath
    obtain rfl : text' = some text := by rw [← henv]; exact hreads _ List.mem_cons_self
    obtain ⟨rfl, -, -⟩ | ⟨buf, rfl, rfl, -⟩ := mcuprSpiBusCreate_path.mp hcreate
    · exact Or.inl nofun
    · exact Or.inr ⟨_, rfl, hnumber⟩

end Numerals

/-- A numeral in the environment is honoured by both clients exactly if its number lies between
the least `int` and `2 ^ 31`. -/
theorem environment_busnum_iff {text : List Char} {n : ℤ} (h : Numeral text n)
    (hlow : -2 ^ 63 ≤ n) (hhigh : n < 2 ^ 63) :
    (I2cHonours text n ↔ -2 ^ 31 < n ∧ n < 2 ^ 31) ∧
      (SpiHonours text n ↔ -2 ^ 31 < n ∧ n < 2 ^ 31) :=
  ⟨i2cHonours_iff h hlow hhigh, spiHonours_iff h hlow hhigh⟩

/-- A hexadecimal bus number is honoured. -/
theorem environment_busnum_hex :
    I2cHonours "0x1A".toList 26 ∧ SpiHonours "0x1A".toList 26 := by
  have hhex : Numeral "0x1A".toList 26 :=
    .unsigned (@Magnitude.hex 'x' '1' ['A'] (Or.inl rfl) (List.all_eq_true.mp (by decide)))
  have hiff := environment_busnum_iff hhex (by decide) (by decide)
  exact ⟨hiff.1.mpr (by decide), hiff.2.mpr (by decide)⟩

/-- Two bus numbers that are not honoured: one becomes the default bus, the other a bus of
another number. -/
theorem exists_busnum_not_honoured :
    (Numeral "2147483648".toList 2147483648 ∧ ¬I2cHonours "2147483648".toList 2147483648 ∧
      ¬SpiHonours "2147483648".toList 2147483648 ∧
      resolveBusnum (envBusnum (some "2147483648".toList)) = 0) ∧
    Numeral "4294967297".toList 4294967297 ∧ ¬I2cHonours "4294967297".toList 4294967297 ∧
      ¬SpiHonours "4294967297".toList 4294967297 ∧
      resolveBusnum (envBusnum (some "4294967297".toList)) = 1 := by
  have hmark : Numeral "2147483648".toList 2147483648 := numeral_decimal 2147483648
  have hwide : Numeral "4294967297".toList 4294967297 := numeral_decimal 4294967297
  refine ⟨⟨hmark, ?_, ?_, by decide⟩, hwide, ?_, ?_, by decide⟩
  · exact mt (i2cHonours_iff hmark (by decide) (by decide)).mp (by decide)
  · exact mt (spiHonours_iff hmark (by decide) (by decide)).mp (by decide)
  · exact mt (i2cHonours_iff hwide (by decide) (by decide)).mp (by decide)
  · exact mt (spiHonours_iff hwide (by decide) (by decide)).mp (by decide)

end McuPeripheral.Linuxdev
