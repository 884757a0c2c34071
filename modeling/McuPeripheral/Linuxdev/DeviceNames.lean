import McuPeripheral.Linuxdev.Api
import McuPeripheral.Linuxdev.Executions

/-!
# Device names and their buffers

Every file name the backend passes to the system but the one of the export file is
rendered from numbers into a buffer of fixed size. The full names are all different. The
buffer of 64 bytes for the pins and the one of 32 bytes for I2C are large enough; the one
of 32 bytes for SPI is too small for two numbers of ten digits.
-/

namespace McuPeripheral.Linuxdev

open Calls Libc

/-- A file in the directory of a pin, or the directory itself. -/
inductive PinFile
  | directory
  | direction
  | value
  deriving DecidableEq, Repr

/-- What follows the number of the pin. -/
def PinFile.suffix : PinFile → String
  | .directory => ""
  | .direction => "/direction"
  | .value => "/value"

/-- It begins with a slash, if there is anything. -/
theorem PinFile.head_suffix (file : PinFile) : ∀ c ∈ file.suffix.toList.head?, c = '/' := by
  cases file <;> simp [suffix]

/-- Different files have different suffixes. -/
theorem PinFile.suffix_injective : Function.Injective PinFile.suffix := by
  intro file file' h
  cases file <;> cases file' <;> simp [suffix] at h ⊢

/-- What a rendered name stands for. -/
inductive DeviceName
  | i2c (busnum : Int32)
  | spi (busnum csnum : Int32)
  | gpio (pin : Int32) (file : PinFile)
  deriving DecidableEq, Repr

namespace DeviceName

/-- The full name. -/
def text : DeviceName → List Char
  | .i2c busnum => i2cPath busnum
  | .spi busnum csnum => spiPath busnum csnum
  | .gpio pin .directory => gpioPath pin
  | .gpio pin .direction => directionPath pin
  | .gpio pin .value => valuePath pin

/-- The size of the buffer `path` it is rendered into. -/
def bufferSize : DeviceName → ℕ
  | .i2c _ | .spi .. => 32
  | .gpio .. => 64

/-- The name as it is passed to the system. -/
def rendered (x : DeviceName) : List Char := snprintf x.bufferSize x.text

/-- The numbers in the name are not negative. -/
def Nonneg : DeviceName → Prop
  | .i2c busnum => 0 ≤ busnum.toInt
  | .spi busnum csnum => 0 ≤ busnum.toInt ∧ 0 ≤ csnum.toInt
  | .gpio pin _ => 0 ≤ pin.toInt

/-- The name does not have two numbers of ten digits. -/
def Short : DeviceName → Prop
  | .spi busnum csnum => busnum.toInt < 10 ^ 9 ∨ csnum.toInt < 10 ^ 9
  | _ => True

/-! ## Names that fit -/

/-- The length of an SPI device's name. -/
theorem length_spiPath (busnum csnum : Int32) :
    (spiPath busnum csnum).length =
      12 + (decimal busnum.toInt).length + (decimal csnum.toInt).length := by
  have hname : "/dev/spidev".toList.length = 11 := by decide
  unfold spiPath
  generalize decimal busnum.toInt = digits
  generalize decimal csnum.toInt = digits'
  rw [List.length_append, List.length_append, List.length_cons, hname]
  omega

/-- An SPI device's name fits exactly if one of its numbers has at most nine digits. -/
theorem spiPath_fits_iff {busnum csnum : Int32} (hbus : 0 ≤ busnum.toInt) (hcs : 0 ≤ csnum.toInt) :
    (spiPath busnum csnum).length < 32 ↔ busnum.toInt < 10 ^ 9 ∨ csnum.toInt < 10 ^ 9 := by
  have hbusLt := busnum.toInt_lt
  have hcsLt := csnum.toInt_lt
  have hten : (decimal busnum.toInt).length ≤ 10 ∧ (decimal csnum.toInt).length ≤ 10 :=
    ⟨(length_decimal_le_iff hbus (by decide)).mpr (by omega),
      (length_decimal_le_iff hcs (by decide)).mpr (by omega)⟩
  have hnine : (decimal busnum.toInt).length ≤ 9 ↔ busnum.toInt < 10 ^ 9 :=
    length_decimal_le_iff hbus (by decide)
  have hnine' : (decimal csnum.toInt).length ≤ 9 ↔ csnum.toInt < 10 ^ 9 :=
    length_decimal_le_iff hcs (by decide)
  rw [length_spiPath, ← hnine, ← hnine']
  omega

/-- A name with numbers that are not negative is rendered in full exactly if it is short. -/
theorem rendered_eq_text_iff {x : DeviceName} (hx : x.Nonneg) : x.rendered = x.text ↔ x.Short := by
  cases x with
  | i2c busnum => exact iff_of_true (snprintf_i2cPath busnum) trivial
  | spi busnum csnum =>
    exact (snprintf_eq_iff (Nat.succ_pos 31)).trans (spiPath_fits_iff hx.1 hx.2)
  | gpio pin file =>
    cases file with
    | directory => exact iff_of_true (snprintf_gpioPath pin) trivial
    | direction => exact iff_of_true (snprintf_directionPath pin) trivial
    | value => exact iff_of_true (snprintf_valuePath pin) trivial

/-! ## Names that differ -/

/-- The name of a pin's file. -/
theorem text_gpio (pin : Int32) (file : PinFile) :
    text (.gpio pin file) = "/sys/class/gpio/gpio".toList ++
      (decimal pin.toInt ++ file.suffix.toList) := by
  rw [← List.append_assoc]
  cases file with
  | directory => exact (List.append_nil (gpioPath pin)).symm
  | direction => rfl
  | value => rfl

/-- How a full name begins. -/
def front : DeviceName → String
  | .i2c _ => "/dev/i2c-"
  | .spi .. => "/dev/spidev"
  | .gpio .. => "/sys/class/gpio/gpio"

/-- A full name begins with its front. -/
theorem front_append (x : DeviceName) : ∃ rest, x.text = x.front.toList ++ rest := by
  cases x with
  | i2c busnum => exact ⟨_, rfl⟩
  | spi busnum csnum => exact ⟨_, List.append_assoc ..⟩
  | gpio pin file => exact ⟨_, text_gpio pin file⟩

/-- The kinds of devices are told apart by the first six characters. -/
theorem take_text (x : DeviceName) : x.text.take 6 = x.front.toList.take 6 := by
  obtain ⟨rest, hrest⟩ := x.front_append
  have hlength : 6 ≤ x.front.toList.length := by cases x <;> simp [front]
  rw [hrest, List.take_append_of_le_length hlength]

/-- A rendered number contains no dot. -/
theorem dot_notMem_decimal (n : ℤ) : '.' ∉ decimal n := by
  intro h
  rcases mem_decimal h with h | h <;> exact absurd h (by decide)

/-- Different I2C buses have different names. -/
theorem i2cPath_injective : Function.Injective i2cPath := by
  intro b b' h
  exact Int32.toInt_inj.mp (decimal_injective (List.append_cancel_left h))

/-- Different SPI buses or chip selects have different names. -/
theorem spiPath_inj {b c b' c' : Int32} (h : spiPath b c = spiPath b' c') : b = b' ∧ c = c' := by
  unfold spiPath at h
  rw [List.append_assoc, List.append_assoc] at h
  obtain ⟨hbus, hrest⟩ := append_sep_inj (dot_notMem_decimal _) (dot_notMem_decimal _)
    (by simp) (by simp) (List.append_cancel_left h)
  exact ⟨Int32.toInt_inj.mp (decimal_injective hbus),
    Int32.toInt_inj.mp (decimal_injective (List.cons.inj hrest).2)⟩

/-- Different files of pins have different names. -/
theorem text_gpio_inj {pin pin' : Int32} {file file' : PinFile}
    (h : text (.gpio pin file) = text (.gpio pin' file')) : pin = pin' ∧ file = file' := by
  rw [text_gpio, text_gpio] at h
  obtain ⟨hpin, hfile⟩ := append_sep_inj (slash_notMem_decimal _) (slash_notMem_decimal _)
    file.head_suffix file'.head_suffix (List.append_cancel_left h)
  exact ⟨Int32.toInt_inj.mp (decimal_injective hpin),
    PinFile.suffix_injective (String.toList_injective hfile)⟩

/-- The full names are all different. -/
theorem text_injective : Function.Injective text := by
  intro x y h
  have hfront := congrArg (List.take 6) h
  rw [take_text, take_text] at hfront
  cases x with
  | i2c busnum =>
    cases y with
    | i2c busnum' => rw [i2cPath_injective h]
    | spi busnum' csnum' => simp [front] at hfront
    | gpio pin' file' => simp [front] at hfront
  | spi busnum csnum =>
    cases y with
    | i2c busnum' => simp [front] at hfront
    | spi busnum' csnum' =>
      obtain ⟨rfl, rfl⟩ := spiPath_inj h
      rfl
    | gpio pin' file' => simp [front] at hfront
  | gpio pin file =>
    cases y with
    | i2c busnum' => simp [front] at hfront
    | spi busnum' csnum' => simp [front] at hfront
    | gpio pin' file' =>
      obtain ⟨rfl, rfl⟩ := text_gpio_inj h
      rfl

/-- Two names are rendered in full, and to different texts if they are different. -/
structure Sound (x y : DeviceName) : Prop where
  /-- The first is not truncated. -/
  full_left : x.rendered = x.text
  /-- Nor is the second. -/
  full_right : y.rendered = y.text
  /-- They do not collide. -/
  distinct : x.rendered = y.rendered → x = y

/-- Two names with numbers that are not negative are sound exactly if both are short. -/
theorem sound_iff {x y : DeviceName} (hx : x.Nonneg) (hy : y.Nonneg) :
    Sound x y ↔ x.Short ∧ y.Short := by
  rw [← rendered_eq_text_iff hx, ← rendered_eq_text_iff hy]
  constructor
  · intro h
    exact ⟨h.full_left, h.full_right⟩
  · rintro ⟨hfull, hfull'⟩
    refine ⟨hfull, hfull', fun h => ?_⟩
    rw [hfull, hfull'] at h
    exact text_injective h

end DeviceName

/-! ## The names the backend passes on -/

/-- The file name a system call is given. -/
def pathOf : Event Call Reply → Option (List Char)
  | ⟨.open path _, _⟩ | ⟨.stat path, _⟩ => some path
  | _ => none

/-- The names a call renders from its arguments. -/
def Renders (op : Op) (tr : List (Event Call Reply)) (x : DeviceName) : Prop :=
  match op with
  | .i2cOpen (some ⟨_, some priv⟩) _ _ => x = .i2c priv.busnum
  | .spiOpen bus _ csnum => x = .spi bus.params.busnum (chipSelect csnum tr)
  | .gpioOpen _ pin _ => x = .gpio pin .directory ∨ x = .gpio pin .direction
  | .gpioWrite dev _ | .gpioRead _ dev => x = .gpio dev .value
  | _ => False

/-- Every file name a call passes on is the one of the export file or is rendered. -/
def PathsRendered (op : Op) (tr : List (Event Call Reply)) : Prop :=
  ∀ path ∈ tr.filterMap pathOf, path = exportPath ∨ ∃ x, Renders op tr x ∧ path = x.rendered

section Paths

variable {op : Op} {tr : List (Event Call Reply)}

/-- A C library call passes no file name on. -/
theorem paths_map_libc (tr₀ : List (Event Libc.Call Libc.Reply)) :
    (tr₀.map fun e => (⟨.libc e.call, e.reply⟩ : Event Call Reply)).filterMap pathOf = [] := by
  rw [List.filterMap_map, List.filterMap_eq_nil_iff]
  exact fun _ _ => rfl

/-- A call that passes no file name on. -/
theorem pathsRendered_of_nil (h : tr.filterMap pathOf = []) : PathsRendered op tr := by
  rw [PathsRendered, h]
  exact fun path hpath => absurd hpath List.not_mem_nil

/-- A call that passes one rendered name on. -/
theorem pathsRendered_singleton {x : DeviceName} (hx : Renders op tr x)
    (h : tr.filterMap pathOf = [x.rendered]) : PathsRendered op tr := by
  intro path hmem
  rw [h] at hmem
  exact Or.inr ⟨x, hx, List.mem_singleton.mp hmem⟩

/-- Writing an attribute opens it. -/
theorem paths_writeAttribute {path : List Char} {text : List UInt8} {r : McuprResult}
    (hpath : (writeAttribute path text).Path tr r) : tr.filterMap pathOf = [path] := by
  obtain ⟨fd, -, rfl, -⟩ | ⟨fd, n, c, -, -, rfl⟩ := writeAttribute_path.mp hpath
  · rfl
  · rfl

/-- An export opens the export file, and may ask for the pin's directory. -/
theorem paths_sysfsGpioExport {pin : Int32} {r : McuprResult}
    (hpath : (sysfsGpioExport pin).Path tr r) :
    tr.filterMap pathOf ⊆ [exportPath, gpioPath pin] := by
  obtain ⟨fd, -, -, rfl⟩ | ⟨fd, n, c, st, -, -, rfl⟩ := sysfsGpioExport_path.mp hpath
  · exact List.cons_subset_cons exportPath (List.nil_subset _)
  · exact List.Subset.refl [exportPath, gpioPath pin]

/-- Opening a pin. -/
theorem gpioOpen_pathsRendered {dev pin : Int32} {mode : McuprGpioMode} {r : McuprResult × Int32}
    (hpath : (mcuprGpioOpen dev pin mode).Path tr r) :
    PathsRendered (.gpioOpen dev pin mode) tr := by
  have hexport : ∀ {tr₁ : List (Event Call Reply)} {r₁ : McuprResult},
      (sysfsGpioExport pin).Path tr₁ r₁ → PathsRendered (.gpioOpen dev pin mode) tr₁ := by
    intro tr₁ r₁ h path hmem
    rcases List.mem_cons.mp (paths_sysfsGpioExport h hmem) with rfl | hmem
    · exact Or.inl rfl
    · obtain rfl := List.mem_singleton.mp hmem
      exact Or.inr ⟨.gpio pin .directory, Or.inl rfl, (snprintf_gpioPath pin).symm⟩
  obtain ⟨r, dev'⟩ := r
  obtain ⟨-, -, h⟩ | ⟨tr₁, tr₂, rfl, -, h, hdirection⟩ := mcuprGpioOpen_path.mp hpath
  · exact hexport h
  · intro path hmem
    rw [List.filterMap_append, paths_writeAttribute hdirection] at hmem
    rcases List.mem_append.mp hmem with hmem | hmem
    · exact hexport h path hmem
    · obtain rfl := List.mem_singleton.mp hmem
      exact Or.inr ⟨.gpio pin .direction, Or.inr rfl, rfl⟩

/-- Writing a pin. -/
theorem gpioWrite_pathsRendered {dev value : Int32} {u : Unit}
    (hpath : (mcuprGpioWrite dev value).Path tr u) : PathsRendered (.gpioWrite dev value) tr := by
  obtain ⟨r, h⟩ := mcuprGpioWrite_path.mp hpath
  exact pathsRendered_singleton rfl (paths_writeAttribute h)

/-- Reading a pin. -/
theorem gpioRead_pathsRendered {stale : UInt8} {dev r : Int32}
    (hpath : (mcuprGpioRead stale dev).Path tr r) : PathsRendered (.gpioRead stale dev) tr := by
  have hvalue : valuePath dev = (DeviceName.gpio dev .value).rendered :=
    (snprintf_valuePath dev).symm
  refine pathsRendered_singleton rfl ?_
  rw [← hvalue]
  obtain ⟨fd, -, -, rfl⟩ | ⟨fd, buf, c, -, -, rfl⟩ := sysfsGpioReadValue_path.mp hpath
  · rfl
  · rfl

/-- Opening an I2C device. -/
theorem i2cOpen_pathsRendered {bus : Option I2cBus} {dev addr : Int32} {r : McuprResult × Int32}
    (hpath : (mcuprI2cOpen bus dev addr).Path tr r) : PathsRendered (.i2cOpen bus dev addr) tr := by
  by_cases hlive : ∃ self priv, bus = some ⟨self, some priv⟩
  · obtain ⟨self, priv, rfl⟩ := hlive
    have hname : i2cPath priv.busnum = (DeviceName.i2c priv.busnum).rendered :=
      (snprintf_i2cPath priv.busnum).symm
    refine pathsRendered_singleton rfl ?_
    rw [← hname]
    obtain ⟨r, dev'⟩ := r
    obtain ⟨fd, -, -, -, rfl⟩ | ⟨fd, ret, c, -, -, -, -, rfl⟩ | ⟨fd, ret, -, -, -, -, rfl⟩ :=
      mcuprI2cOpen_path.mp hpath
    · rfl
    · rfl
    · rfl
  · obtain ⟨rfl, -⟩ := (mcuprI2cOpen_path_refused hlive).mp hpath
    exact pathsRendered_of_nil rfl

/-- Opening an SPI device passes one name on, rendered for the chip select that was used. -/
theorem paths_spiOpen {bus : SpiBus} {dev csnum : Int32} {r : McuprResult × Int32}
    (hpath : (mcuprSpiOpen bus dev csnum).Path tr r) : ∃ tr₁,
      (resolveCsnum csnum).Path tr₁ (chipSelect csnum tr) ∧ tr₁ <+: tr ∧
      tr.filterMap pathOf = [snprintf 32 (spiPath bus.params.busnum (chipSelect csnum tr))] := by
  obtain ⟨r, dev'⟩ := r
  obtain ⟨tr₁, cs, tr₂, rfl, hcs, hdevice⟩ := mcuprSpiOpen_path.mp hpath
  have hresolve : tr₁.filterMap pathOf = [] := by
    rcases resolveCsnum_path.mp hcs with ⟨-, rfl, -⟩ | ⟨env, -, rfl, -⟩
    · rfl
    · rfl
  have hopen : tr₂.filterMap pathOf = [snprintf 32 (spiPath bus.params.busnum cs)] ∧
      chipSelect csnum (tr₁ ++ tr₂) = cs := by
    obtain ⟨fd, -, -, -, rfl⟩ | ⟨fd, ret, c, -, -, -, -, rfl⟩ |
      ⟨fd, ret, ret', c, -, -, -, -, -, rfl⟩ | ⟨fd, ret, ret', -, -, -, -, -, rfl⟩ := hdevice
    · exact ⟨rfl, chipSelect_append hcs⟩
    · exact ⟨rfl, chipSelect_append hcs⟩
    · exact ⟨rfl, chipSelect_append hcs⟩
    · exact ⟨rfl, chipSelect_append hcs⟩
  rw [List.filterMap_append, hresolve, hopen.1, hopen.2]
  exact ⟨tr₁, hcs, List.prefix_append tr₁ tr₂, rfl⟩

/-- Opening an SPI device. -/
theorem spiOpen_pathsRendered {bus : SpiBus} {dev csnum : Int32} {r : McuprResult × Int32}
    (hpath : (mcuprSpiOpen bus dev csnum).Path tr r) :
    PathsRendered (.spiOpen bus dev csnum) tr := by
  obtain ⟨-, -, -, hpaths⟩ := paths_spiOpen hpath
  exact pathsRendered_singleton rfl hpaths

/-! ### Calls without a file name -/

/-- Creating a chip. -/
theorem paths_gpioChipCreate {chipp : Option GpioChip} {r : McuprResult × Option GpioChip}
    (hpath : (mcuprGpioChipCreate chipp).Path tr r) : tr.filterMap pathOf = [] := by
  obtain ⟨-, -, rfl⟩ | ⟨p, -, -, rfl⟩ := mcuprGpioChipCreate_path.mp hpath
  · rfl
  · rfl

/-- Creating an I2C bus. -/
theorem paths_i2cBusCreate {busp : Option I2cBus} {params : McuprI2cBusParams}
    {r : McuprResult × Option I2cBus} (hpath : (mcuprI2cBusCreate busp params).Path tr r) :
    tr.filterMap pathOf = [] := by
  obtain ⟨-, -, rfl⟩ | ⟨p, -, rfl, -⟩ := mcuprI2cBusCreate_path.mp hpath
  · rfl
  · rfl

/-- Releasing an I2C bus. -/
theorem paths_i2cBusRelease {bus : Option I2cBus} {u : Unit}
    (hpath : (mcuprI2cBusRelease bus).Path tr u) : tr.filterMap pathOf = [] := by
  obtain _ | ⟨self, _ | priv⟩ := bus
  · rw [hpath.1, List.filterMap_nil]
  · rw [hpath.1, List.filterMap_nil]
  · obtain rfl := mcuprI2cBusRelease_path.mp hpath
    rfl

/-- Closing an I2C device. -/
theorem paths_i2cClose {bus : Option I2cBus} {dev : Int32} {u : Unit}
    (hpath : (mcuprI2cClose bus dev).Path tr u) : tr.filterMap pathOf = [] := by
  obtain _ | ⟨self, _ | priv⟩ := bus
  · rw [hpath.1, List.filterMap_nil]
  · rw [hpath.1, List.filterMap_nil]
  · obtain ⟨-, rfl⟩ | ⟨c, -, rfl⟩ := mcuprI2cClose_path.mp hpath
    · rfl
    · rfl

/-- Writing to an I2C device. -/
theorem paths_i2cWrite {bus : Option I2cBus} {dev r : Int32} {data : List UInt8} {size : UInt32}
    (hpath : (mcuprI2cWrite bus dev data size).Path tr r) : tr.filterMap pathOf = [] := by
  by_cases hlive : ∃ self priv, bus = some ⟨self, some priv⟩
  · obtain ⟨self, priv, rfl⟩ := hlive
    obtain ⟨-, -, rfl⟩ | ⟨ret, -, -, rfl⟩ := mcuprI2cWrite_path.mp hpath
    · rfl
    · rfl
  · obtain ⟨rfl, -⟩ := (mcuprI2cWrite_path_refused hlive).mp hpath
    rfl

/-- Reading from an I2C device. -/
theorem paths_i2cRead {bus : Option I2cBus} {dev : Int32} {size : UInt32} {r : Int32 × List UInt8}
    (hpath : (mcuprI2cRead bus dev size).Path tr r) : tr.filterMap pathOf = [] := by
  by_cases hlive : ∃ self priv, bus = some ⟨self, some priv⟩
  · obtain ⟨self, priv, rfl⟩ := hlive
    obtain ⟨-, -, rfl⟩ | ⟨ret, -, -, rfl⟩ := mcuprI2cRead_path.mp hpath
    · rfl
    · rfl
  · obtain ⟨rfl, -⟩ := (mcuprI2cRead_path_refused hlive).mp hpath
    rfl

/-- Creating an SPI bus. -/
theorem paths_spiBusCreate {busp : Option SpiBus} {params : McuprSpiBusParams}
    {r : McuprResult × Option SpiBus} (hpath : (mcuprSpiBusCreate busp params).Path tr r) :
    tr.filterMap pathOf = [] := by
  obtain ⟨-, -, rfl⟩ | ⟨buf, -, -, rfl⟩ := mcuprSpiBusCreate_path.mp hpath
  · rfl
  · exact paths_map_libc _

/-- Releasing an SPI bus. -/
theorem paths_spiBusRelease {bus : Option SpiBus} {u : Unit}
    (hpath : (mcuprSpiBusRelease bus).Path tr u) : tr.filterMap pathOf = [] := by
  obtain ⟨tr₀, rfl, -⟩ := Prog.path_lift_part.mp hpath
  exact paths_map_libc tr₀

/-- Every API call passes on the name of the export file and rendered names only. -/
theorem pathsRendered (i : Invocation Op.prog) : PathsRendered i.op i.trace := by
  obtain ⟨op, tr, r, hpath⟩ := i
  cases op with
  | gpioOpen dev pin mode => exact gpioOpen_pathsRendered hpath
  | gpioWrite dev value => exact gpioWrite_pathsRendered hpath
  | gpioRead stale dev => exact gpioRead_pathsRendered hpath
  | i2cOpen bus dev addr => exact i2cOpen_pathsRendered hpath
  | spiOpen bus dev csnum => exact spiOpen_pathsRendered hpath
  | gpioChipCreate chipp => exact pathsRendered_of_nil (paths_gpioChipCreate hpath)
  | gpioChipRelease chip | gpioClose dev =>
    obtain ⟨rfl, -⟩ := hpath
    exact pathsRendered_of_nil rfl
  | i2cBusCreate busp params => exact pathsRendered_of_nil (paths_i2cBusCreate hpath)
  | i2cBusRelease bus => exact pathsRendered_of_nil (paths_i2cBusRelease hpath)
  | i2cClose bus dev => exact pathsRendered_of_nil (paths_i2cClose hpath)
  | i2cWrite bus dev data size => exact pathsRendered_of_nil (paths_i2cWrite hpath)
  | i2cRead bus dev size => exact pathsRendered_of_nil (paths_i2cRead hpath)
  | spiBusCreate busp params => exact pathsRendered_of_nil (paths_spiBusCreate hpath)
  | spiBusRelease bus => exact pathsRendered_of_nil (paths_spiBusRelease hpath)
  | spiClose dev =>
    obtain ⟨c, rfl⟩ := mcuprSpiClose_path.mp hpath
    exact pathsRendered_of_nil rfl
  | spiTransfer dev tx length =>
    obtain ⟨ret, -, rfl⟩ := mcuprSpiTransfer_path.mp hpath
    exact pathsRendered_of_nil rfl

end Paths

/-- The names the backend passes on are rendered names, and two of them with numbers that are
not negative are complete and different unless one is an SPI name with two numbers of ten
digits. -/
theorem device_names_sound_iff {x y : DeviceName} (hx : x.Nonneg) (hy : y.Nonneg) :
    (∀ i : Invocation Op.prog, PathsRendered i.op i.trace) ∧ (x.Sound y ↔ x.Short ∧ y.Short) :=
  ⟨pathsRendered, DeviceName.sound_iff hx hy⟩

/-- Chip select 12 of bus 1 and chip select 2 of bus 11 are kept apart. -/
theorem device_names_sound_spi :
    (DeviceName.spi 1 12).Nonneg ∧ (DeviceName.spi 11 2).Nonneg ∧
      (DeviceName.spi 1 12).Sound (.spi 11 2) := by
  have hfirst : (DeviceName.spi 1 12).Nonneg := ⟨by decide, by decide⟩
  have hsecond : (DeviceName.spi 11 2).Nonneg := ⟨by decide, by decide⟩
  exact ⟨hfirst, hsecond, (device_names_sound_iff hfirst hsecond).2.mpr
    ⟨Or.inl (by decide), Or.inl (by decide)⟩⟩

/-- Two chip selects of the last bus are opened under one name, which is the full name of a
third. -/
theorem exists_names_collide :
    ¬(DeviceName.spi 2147483647 2147483640).Sound (.spi 2147483647 2147483641) ∧
      ∀ csnum ∈ [2147483640, 2147483641],
        (mcuprSpiOpen ⟨⟨0, 8⟩, ⟨2147483647, 1000000, .mode0⟩⟩ 0 csnum).Path
          [⟨.open (spiPath 2147483647 214748364) .rdwr, 3⟩,
            ⟨.ioctl 3 (.spiIocWrMode 0), 0⟩, ⟨.ioctl 3 (.spiIocWrMaxSpeedHz 1000000), 0⟩]
          (.ok, 3) := by
  have hcut : ∀ csnum ∈ [2147483640, 2147483641],
      snprintf 32 (spiPath 2147483647 csnum) = spiPath 2147483647 214748364 :=
    List.forall_mem_cons.mpr ⟨by decide, List.forall_mem_singleton.mpr (by decide)⟩
  have hgiven : ∀ csnum ∈ [(2147483640 : Int32), 2147483641], csnum.toUInt32 ≠ mcuprUnspecified :=
    List.forall_mem_cons.mpr ⟨by decide, List.forall_mem_singleton.mpr (by decide)⟩
  constructor
  · intro h
    exact absurd (h.distinct ((hcut 2147483640 (by simp)).trans (hcut 2147483641 (by simp)).symm))
      (by decide)
  · intro csnum hcs
    refine mcuprSpiOpen_path.mpr ⟨[], csnum, _, rfl, ?_, ?_⟩
    · exact resolveCsnum_path.mpr (Or.inl ⟨hgiven csnum hcs, rfl, rfl⟩)
    · refine Or.inr (Or.inr (Or.inr ⟨3, 0, 0, by decide, by decide, by decide, rfl, rfl, ?_⟩))
      rw [hcut csnum hcs]
      rfl

end McuPeripheral.Linuxdev
