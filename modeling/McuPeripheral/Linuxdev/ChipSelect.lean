import McuPeripheral.Linuxdev.BusNumbers
import McuPeripheral.Linuxdev.DeviceNames

/-!
# The chip select of an SPI device

An SPI device is opened by the number of its bus and its chip select. Both may be left
unspecified, and both are then looked up in the environment, in the same variable. What
follows from that for the device that is opened is stated for two runs of a client at a
time, in two environments.
-/

namespace McuPeripheral.Linuxdev

open Calls Libc

/-- One run of a client that takes its parameters from the environment, sets the bus number
itself if `busnum` is given, creates the bus and opens a device on it. -/
structure SpiOpening (env : String → Option (List Char)) (busnum : Option Int32)
    (csnum : Int32) where
  /-- The parameters the environment gives. -/
  params : McuprSpiBusParams
  /-- The calls that initialise them. -/
  initTrace : List (Event Call Reply)
  /-- The parameters are initialised. -/
  init : (libc mcuprSpiInitParams).Path initTrace params
  /-- The bus pointer before the bus is created. -/
  busp : Option SpiBus
  /-- The bus. -/
  bus : SpiBus
  /-- The calls that create it. -/
  createTrace : List (Event Call Reply)
  /-- The bus is created. -/
  create : (mcuprSpiBusCreate busp { params with busnum := busnum.getD params.busnum }).Path
    createTrace (.ok, some bus)
  /-- The handle before the device is opened. -/
  dev : Int32
  /-- The calls that open the device. -/
  openTrace : List (Event Call Reply)
  /-- What the open returns and stores. -/
  result : McuprResult × Int32
  /-- The device is opened. -/
  opens : (mcuprSpiOpen bus dev csnum).Path openTrace result
  /-- Every variable is read from this environment. -/
  fromEnv : ∀ e ∈ initTrace ++ openTrace, FromEnv env e

namespace SpiOpening

variable {env other : String → Option (List Char)} {busnum : Option Int32} {csnum : Int32}

/-- The chip select the open uses. -/
def csnumUsed (run : SpiOpening env busnum csnum) : Int32 := chipSelect csnum run.openTrace

/-- The name that is opened is the one of the resolved bus and of the chip select that was
asked for, or of one that is resolved if none was. -/
structure Sound (run : SpiOpening env busnum csnum) : Prop where
  /-- The name is the full one. -/
  names : run.openTrace.filterMap pathOf =
    [spiPath (resolveBusnum (busnum.getD run.params.busnum)) run.csnumUsed]
  /-- A chip select that is specified is used. -/
  specified : csnum.toUInt32 ≠ mcuprUnspecified → run.csnumUsed = csnum
  /-- One that is not is resolved. -/
  resolved : csnum.toUInt32 = mcuprUnspecified → run.csnumUsed.toUInt32 ≠ mcuprUnspecified

end SpiOpening

/-- The runs in both environments are sound, and use the same chip select. -/
structure ChipSelectsAgree (env other : String → Option (List Char)) (busnum : Option Int32)
    (csnum : Int32) : Prop where
  /-- The runs in the first environment. -/
  sound_left : ∀ run : SpiOpening env busnum csnum, run.Sound
  /-- The runs in the second. -/
  sound_right : ∀ run : SpiOpening other busnum csnum, run.Sound
  /-- The variable of the bus number does not reach the chip select. -/
  agree : ∀ (run : SpiOpening env busnum csnum) (run' : SpiOpening other busnum csnum),
    run.csnumUsed = run'.csnumUsed

/-- The chip select that is looked up if none is specified. -/
def givenCsnum (text : Option (List Char)) (csnum : Int32) : Int32 :=
  if csnum.toUInt32 = mcuprUnspecified then envBusnum text else csnum

/-- The full name of the device fits the buffer. -/
def SpiNameFits (text : Option (List Char)) (busnum : Option Int32) (csnum : Int32) : Prop :=
  (spiPath (resolveBusnum (busnum.getD (envBusnum text))) (givenCsnum text csnum)).length < 32

/-! ## One run -/

namespace SpiOpening

variable {env other : String → Option (List Char)} {busnum : Option Int32} {csnum : Int32}

/-- The parameters carry the bus number of the environment. -/
theorem params_busnum (run : SpiOpening env busnum csnum) :
    run.params.busnum = envBusnum (env "MCUPR_SPI_BUSNUM") := by
  obtain ⟨text, htrace, hparams⟩ := mcuprSpiInitParams_path.mp run.init
  have hread : FromEnv env ⟨.libc (.getenv "MCUPR_SPI_BUSNUM"), text⟩ := by
    apply run.fromEnv
    rw [htrace]
    exact List.mem_cons_self
  rw [hparams, ← (hread : text = env "MCUPR_SPI_BUSNUM")]
  rfl

/-- The bus carries the resolved number. -/
theorem bus_busnum (run : SpiOpening env busnum csnum) :
    run.bus.params.busnum = resolveBusnum (busnum.getD run.params.busnum) := by
  obtain ⟨hne, -, -⟩ | ⟨buf, -, hbus, -⟩ := mcuprSpiBusCreate_path.mp run.create
  · exact absurd hne nofun
  · rw [Option.some_inj.mp hbus]

/-- The chip select that is used is the one asked for or the number in the variable. -/
theorem csnumUsed_eq (run : SpiOpening env busnum csnum) :
    run.csnumUsed = givenCsnum (env "MCUPR_SPI_BUSNUM") csnum := by
  obtain ⟨tr₁, hresolve, hfront, -⟩ := paths_spiOpen run.opens
  unfold givenCsnum
  obtain ⟨hspecified, -, hcs⟩ | ⟨text, hmark, rfl, hcs⟩ := resolveCsnum_path.mp hresolve
  · rw [if_neg hspecified]
    exact hcs
  · have hread : FromEnv env ⟨.libc (.getenv "MCUPR_SPI_BUSNUM"), text⟩ := by
      apply run.fromEnv
      exact List.mem_append_right _ (hfront.subset List.mem_cons_self)
    rw [if_pos hmark, ← (hread : text = env "MCUPR_SPI_BUSNUM")]
    refine hcs.trans ?_
    cases text with
    | none => exact congrArg UInt32.toInt32 hmark
    | some text => rfl

/-- A run passes one name on, rendered from the resolved bus number and chip select. -/
theorem paths_eq (run : SpiOpening env busnum csnum) :
    run.openTrace.filterMap pathOf =
      [snprintf 32 (spiPath (resolveBusnum (busnum.getD run.params.busnum)) run.csnumUsed)] := by
  obtain ⟨tr₁, -, -, hpaths⟩ := paths_spiOpen run.opens
  rw [hpaths, run.bus_busnum]
  rfl

/-- A run is sound exactly if the name fits, and a chip select was specified or is found in the
environment. -/
theorem sound_iff (run : SpiOpening env busnum csnum) :
    run.Sound ↔ SpiNameFits (env "MCUPR_SPI_BUSNUM") busnum csnum ∧
      (csnum.toUInt32 = mcuprUnspecified →
        (envBusnum (env "MCUPR_SPI_BUSNUM")).toUInt32 ≠ mcuprUnspecified) := by
  have hused := run.csnumUsed_eq
  have hfits : run.openTrace.filterMap pathOf =
      [spiPath (resolveBusnum (busnum.getD run.params.busnum)) run.csnumUsed] ↔
      SpiNameFits (env "MCUPR_SPI_BUSNUM") busnum csnum := by
    rw [run.paths_eq, SpiNameFits, ← hused, ← run.params_busnum, List.singleton_inj]
    exact snprintf_eq_iff (Nat.succ_pos 31)
  have hresolved (hmark : csnum.toUInt32 = mcuprUnspecified) :
      run.csnumUsed = envBusnum (env "MCUPR_SPI_BUSNUM") := by
    rw [hused, givenCsnum, if_pos hmark]
  constructor
  · intro h
    refine ⟨hfits.mp h.names, fun hmark => ?_⟩
    rw [← hresolved hmark]
    exact h.resolved hmark
  · rintro ⟨hname, hfound⟩
    refine ⟨hfits.mpr hname, fun hspecified => ?_, fun hmark => ?_⟩
    · rw [hused, givenCsnum, if_neg hspecified]
    · rw [hresolved hmark]
      exact hfound hmark

/-- There is a run in every environment. -/
theorem exists_run (env : String → Option (List Char)) (busnum : Option Int32) (csnum : Int32) :
    Nonempty (SpiOpening env busnum csnum) := by
  obtain ⟨text, htext⟩ : ∃ text, text = env "MCUPR_SPI_BUSNUM" := ⟨_, rfl⟩
  have hrefused : (-1 : Int32) < 0 := by decide
  have hresolve : ∃ tr cs, (resolveCsnum csnum).Path tr cs ∧ ∀ e ∈ tr, FromEnv env e := by
    by_cases hmark : csnum.toUInt32 = mcuprUnspecified
    · exact ⟨_, _, resolveCsnum_path.mpr (Or.inr ⟨text, hmark, rfl, rfl⟩), by simpa [FromEnv]⟩
    · exact ⟨_, _, resolveCsnum_path.mpr (Or.inl ⟨hmark, rfl, rfl⟩), by simp⟩
  obtain ⟨tr, cs, hcs, hreads⟩ := hresolve
  refine ⟨⟨_, _, mcuprSpiInitParams_path.mpr ⟨text, rfl, rfl⟩, none, _, _,
    mcuprSpiBusCreate_path.mpr (Or.inr ⟨⟨0, 0⟩, rfl, rfl, rfl⟩), 0, _, (.ioError, 0),
    mcuprSpiOpen_path.mpr ⟨tr, cs, _, rfl, hcs, Or.inl ⟨-1, hrefused, rfl, rfl, rfl⟩⟩, ?_⟩⟩
  intro e he
  rcases List.mem_append.mp he with he | he
  · obtain rfl := List.mem_singleton.mp he
    exact htext
  · rcases List.mem_append.mp he with he | he
    · exact hreads e he
    · obtain rfl := List.mem_singleton.mp he
      trivial

end SpiOpening

/-! ## Two runs -/

/-- The devices of two environments are sound and their chip selects agree exactly if the full
names fit, and a chip select was specified or the variable is set in both environments to the
same number, other than the mark of an unspecified one. -/
theorem chip_selects_agree_iff {env other : String → Option (List Char)} {busnum : Option Int32}
    {csnum : Int32} :
    ChipSelectsAgree env other busnum csnum ↔
      SpiNameFits (env "MCUPR_SPI_BUSNUM") busnum csnum ∧
      SpiNameFits (other "MCUPR_SPI_BUSNUM") busnum csnum ∧
      (csnum.toUInt32 = mcuprUnspecified →
        envBusnum (env "MCUPR_SPI_BUSNUM") = envBusnum (other "MCUPR_SPI_BUSNUM") ∧
        (envBusnum (env "MCUPR_SPI_BUSNUM")).toUInt32 ≠ mcuprUnspecified) := by
  have hgiven : csnum.toUInt32 = mcuprUnspecified →
      ∀ text, givenCsnum text csnum = envBusnum text := fun hmark text => if_pos hmark
  constructor
  · rintro ⟨hsound, hsound', hagree⟩
    obtain ⟨run⟩ := SpiOpening.exists_run env busnum csnum
    obtain ⟨run'⟩ := SpiOpening.exists_run other busnum csnum
    have hrun := run.sound_iff.mp (hsound run)
    have hrun' := run'.sound_iff.mp (hsound' run')
    refine ⟨hrun.1, hrun'.1, fun hmark => ⟨?_, hrun.2 hmark⟩⟩
    have hsame := hagree run run'
    rwa [run.csnumUsed_eq, run'.csnumUsed_eq, hgiven hmark, hgiven hmark] at hsame
  · rintro ⟨hfits, hfits', hfound⟩
    refine ⟨fun run => run.sound_iff.mpr ⟨hfits, fun hmark => (hfound hmark).2⟩,
      fun run => run.sound_iff.mpr ⟨hfits', fun hmark => ?_⟩, fun run run' => ?_⟩
    · rw [← (hfound hmark).1]
      exact (hfound hmark).2
    · rw [run.csnumUsed_eq, run'.csnumUsed_eq]
      by_cases hmark : csnum.toUInt32 = mcuprUnspecified
      · rw [hgiven hmark, hgiven hmark, (hfound hmark).1]
      · rw [givenCsnum, givenCsnum, if_neg hmark, if_neg hmark]

/-- The environment in which the variable is `1` and no other is set. -/
def busnumOne : String → Option (List Char) :=
  fun name => if name = "MCUPR_SPI_BUSNUM" then some "1".toList else none

/-- Without the variable an unspecified chip select reaches the name as it is; with it, the bus
number becomes the chip select. -/
theorem exists_chip_selects_differ :
    (∀ name ≠ "MCUPR_SPI_BUSNUM", busnumOne name = none) ∧
      ¬ChipSelectsAgree (fun _ => none) busnumOne none mcuprUnspecified.toInt32 ∧
      (∀ run : SpiOpening (fun _ => none) none mcuprUnspecified.toInt32,
        run.openTrace.filterMap pathOf = ["/dev/spidev0.-2147483648".toList]) ∧
      ∀ run : SpiOpening busnumOne none mcuprUnspecified.toInt32,
        run.openTrace.filterMap pathOf = ["/dev/spidev1.1".toList] := by
  refine ⟨fun name hname => if_neg hname, fun h => ?_, fun run => ?_, fun run => ?_⟩
  · obtain ⟨run⟩ := SpiOpening.exists_run (fun _ => none) none mcuprUnspecified.toInt32
    exact (run.sound_iff.mp (h.sound_left run)).2 rfl rfl
  · rw [run.paths_eq, run.csnumUsed_eq, run.params_busnum]
    decide
  · rw [run.paths_eq, run.csnumUsed_eq, run.params_busnum]
    decide

end McuPeripheral.Linuxdev
