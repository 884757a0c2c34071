import McuPeripheral.Examples.Adxl345Main
import McuPeripheral.Linuxdev.DeviceNames
import McuPeripheral.Spi.Registers

/-!
# The accelerometer program and its sensor

The sensor has sixty-four registers. It measures some of them by itself, at any time; the
program writes others to set it up. If no transfer fails the sensor is set up before its
measurements are read for the first time, and it stays so for as long as the program runs.
-/

namespace McuPeripheral.Adxl345

open Calls Linuxdev

/-- The registers of the sensor: bit 7 of a command says that it reads, and the low six bits
are the register. The tap status, the interrupt source, the six data registers and the FIFO
status are measured. -/
def accelerometer : Spi.Registers (Fin 64) where
  select command := Fin.ofNat 64 command.toNat
  reads command := 0x80 ≤ command
  measured r := r = 0x2b || r = 0x30 || (0x32 ≤ r && r ≤ 0x37) || r = 0x39

/-- A register that is set. -/
@[reducible] def Setting : Type := accelerometer.Setting

/-- What the setup writes. -/
def configuration : List (Setting × UInt8) :=
  [(⟨0x2d, rfl⟩, 0x08), (⟨0x1d, rfl⟩, 0x30), (⟨0x21, rfl⟩, 0x10), (⟨0x22, rfl⟩, 0x20),
    (⟨0x23, rfl⟩, 0x96), (⟨0x2a, rfl⟩, 0x07), (⟨0x2e, rfl⟩, 0x20)]

/-- A kernel and the sensor. -/
structure Sensed where
  /-- The kernel. -/
  kernel : Kernel
  /-- What the registers of the sensor hold. -/
  content : Fin 64 → UInt8

/-- The settings of the sensor. -/
def Sensed.settings (s : Sensed) : Setting → UInt8 := accelerometer.settings s.content

/-- The descriptor leads to the sensor behind this device file, and the clock is right for it. -/
def Wired (path : List Char) (k : Kernel) (fd : Int32) : Prop :=
  ∃ f, k.files fd = some f ∧ f.path = path ∧ f.mode = some McuprSpiMode.mode3.code

/-- What a call does to the registers. A transfer that reports both of its bytes was made; one
that does not may have been made. -/
def sensorStep (path : List Char) (k : Kernel) :
    (Fin 64 → UInt8) → Event Linuxdev.Call Linuxdev.Reply → (Fin 64 → UInt8) → Prop
  | c, ⟨.ioctlMessage fd tx _, reply⟩, c' =>
    (¬Wired path k fd → accelerometer.Drifts c c') ∧
    (Wired path k fd → ∀ command value, tx = [command, value] →
      ∃ c₁, accelerometer.Drifts c c₁ ∧
        (c' = c₁ ∨ c' = accelerometer.after c₁ command value) ∧
        (reply.1 = 2 → c' = accelerometer.after c₁ command value ∧
          (accelerometer.reads command = true →
            ∃ b, reply.2 = [b, c₁ (accelerometer.select command)])))
  | c, _, c' => accelerometer.Drifts c c'

/-- The kernel with the sensor behind one of its device files. -/
def sensed (board : Board) (path : List Char) : Env Linuxdev.Call Linuxdev.Reply Sensed :=
  ⟨fun s e s' => kernelStep board s.kernel e s'.kernel ∧
    sensorStep path s.kernel s.content e s'.content⟩

instance {path : List Char} {k : Kernel} {fd : Int32} : Decidable (Wired path k fd) :=
  decidable_of_iff ((k.files fd).any fun f => f.path = path ∧ f.mode = some McuprSpiMode.mode3.code)
    (by simp [Wired, Option.any_eq_true])

/-- A process with the sensor behind its device file. Transfers that lead to it are made, and it
measures nothing new. -/
def sensedResponder (host : DeviceHost) (board : Board) : Responder (sensed board host.path) where
  answer
    | s, .ioctlMessage fd [command, _] _ =>
      if Wired host.path s.kernel fd then (2, [0, s.content (accelerometer.select command)])
      else (-1, [])
    | s, c => host.reply s.kernel c
  next
    | s, .ioctlMessage fd [command, value] _ =>
      if Wired host.path s.kernel fd then
        ⟨s.kernel, accelerometer.after s.content command value⟩
      else s
    | s, c => ⟨host.next s.kernel c, s.content⟩
  permitted := by
    intro s c
    cases c with
    | ioctlMessage fd tx length =>
      obtain _ | ⟨command, _ | ⟨value, _ | ⟨_, _⟩⟩⟩ := tx
      · exact ⟨rfl, fun _ _ _ => rfl, fun _ _ _ h => nomatch h⟩
      · exact ⟨rfl, fun _ _ _ => rfl, fun _ _ _ h => nomatch h⟩
      · by_cases hwired : Wired host.path s.kernel fd
        · simp only [if_pos hwired]
          refine ⟨rfl, fun h => absurd hwired h, fun _ command' value' htx => ?_⟩
          obtain ⟨rfl, hvalue⟩ := List.cons.inj htx
          obtain ⟨rfl, -⟩ := List.cons.inj hvalue
          exact ⟨s.content, fun _ _ => rfl, Or.inr rfl, fun _ => ⟨rfl, fun _ => ⟨0, rfl⟩⟩⟩
        · simp only [if_neg hwired]
          exact ⟨rfl, fun _ _ _ => rfl, fun h => absurd h hwired⟩
      · exact ⟨rfl, fun _ _ _ => rfl, fun _ _ _ h => nomatch h⟩
    | _ => exact ⟨host.permitted board s.kernel _, fun _ _ => rfl⟩

/-- A transfer that was made. -/
def Complete : Event Linuxdev.Call Linuxdev.Reply → Prop
  | ⟨.ioctlMessage .., reply⟩ => reply.1 = 2
  | _ => True

/-- The call reads a measured register. -/
def ReadsMeasured : Event Linuxdev.Call Linuxdev.Reply → Prop
  | ⟨.ioctlMessage _ (command :: _) _, _⟩ =>
    accelerometer.reads command = true ∧
      accelerometer.measured (accelerometer.select command) = true
  | _ => False

/-! ## Transfers -/

section Transfers

variable {board : Board} {path : List Char} {s s' : Sensed} {fd : Int32}
  {command value : UInt8} {reply : TransferReply}

/-- A transfer that reads changes no setting. -/
theorem read_run (hwired : Wired path s.kernel fd) (hreads : accelerometer.reads command = true)
    (hrun : (sensed board path).Run s [transfer fd [command, value] reply] s') :
    Wired path s'.kernel fd ∧ s'.settings = s.settings := by
  obtain ⟨_, ⟨hkernel, -, hsensor⟩, rfl⟩ := hrun
  obtain ⟨c₁, hdrift, hcontent, -⟩ := hsensor hwired command value rfl
  rw [Spi.Registers.after_of_reads hreads, or_self] at hcontent
  have hsame : s'.kernel = s.kernel := hkernel
  refine ⟨by rwa [hsame], ?_⟩
  rw [Sensed.settings, hcontent]
  exact hdrift.settings_eq

/-- A transfer that writes a setting writes it or leaves all of them as they are. -/
theorem write_run {r : Setting} (hwired : Wired path s.kernel fd)
    (hwrites : accelerometer.reads command = false) (hselect : accelerometer.select command = r)
    (hrun : (sensed board path).Run s [transfer fd [command, value] reply] s') :
    Wired path s'.kernel fd ∧
      (s'.settings = s.settings ∨ s'.settings = written s.settings [(r, value)]) ∧
      (reply.1 = 2 → s'.settings = written s.settings [(r, value)]) := by
  obtain ⟨_, ⟨hkernel, -, hsensor⟩, rfl⟩ := hrun
  obtain ⟨c₁, hdrift, hcontent, hall⟩ := hsensor hwired command value rfl
  have hsame : s'.kernel = s.kernel := hkernel
  have hwritten : accelerometer.settings (accelerometer.after c₁ command value) =
      written s.settings [(r, value)] := by
    rw [Spi.Registers.settings_after hwrites hselect, hdrift.settings_eq]
    rfl
  refine ⟨by rwa [hsame], ?_, fun hcomplete => ?_⟩
  · obtain hcontent | hcontent := hcontent
    · left
      rw [Sensed.settings, hcontent]
      exact hdrift.settings_eq
    · right
      rw [Sensed.settings, hcontent]
      exact hwritten
  · rw [Sensed.settings, (hall hcomplete).1]
    exact hwritten

end Transfers

/-! ## The setup -/

/-- What calls that were to write these settings have done: they made some of the writes, in
their order, or all of them if every transfer was made. -/
structure Sets (path : List Char) (fd : Int32) (asked : List (Setting × UInt8)) (s : Sensed)
    (calls : List (Event Linuxdev.Call Linuxdev.Reply)) (s' : Sensed) : Prop where
  /-- The descriptor still leads to the sensor. -/
  wired : Wired path s'.kernel fd
  /-- Some of the writes. -/
  some : ∃ ws, ws.Sublist asked ∧ s'.settings = written s.settings ws
  /-- All of them. -/
  all : (∀ e ∈ calls, Complete e) → s'.settings = written s.settings asked

section Setup

variable {board : Board} {path : List Char} {s s' : Sensed} {fd : Int32}
  {command value : UInt8} {reply : TransferReply} {asked : List (Setting × UInt8)}
  {calls : List (Event Linuxdev.Call Linuxdev.Reply)}

/-- No calls write no settings. -/
theorem Sets.nil (hwired : Wired path s.kernel fd) : Sets path fd [] s [] s :=
  ⟨hwired, ⟨[], List.Sublist.refl _, rfl⟩, fun _ => rfl⟩

/-- A transfer that writes a setting, and the calls behind it. -/
theorem Sets.write {r : Setting} (hwired : Wired path s.kernel fd)
    (hwrites : accelerometer.reads command = false) (hselect : accelerometer.select command = r)
    (hrest : ∀ s₁, Wired path s₁.kernel fd → (sensed board path).Run s₁ calls s' →
      Sets path fd asked s₁ calls s')
    (hrun : (sensed board path).Run s (transfer fd [command, value] reply :: calls) s') :
    Sets path fd ((r, value) :: asked) s (transfer fd [command, value] reply :: calls) s' := by
  obtain ⟨s₁, hfirst, hrun⟩ := hrun
  obtain ⟨hwired₁, hwrote, hall⟩ := write_run hwired hwrites hselect ⟨s₁, hfirst, rfl⟩
  obtain ⟨hwired', ⟨ws, hsub, hsome⟩, hrestAll⟩ := hrest s₁ hwired₁ hrun
  refine ⟨hwired', ?_, fun hcomplete => ?_⟩
  · obtain hsame | hwrote := hwrote
    · exact ⟨ws, hsub.cons _, by rw [hsome, hsame]⟩
    · exact ⟨(r, value) :: ws, hsub.cons_cons _, by rw [hsome, hwrote]; rfl⟩
  · rw [hrestAll fun e he => hcomplete e (List.mem_cons_of_mem _ he),
      hall (hcomplete _ List.mem_cons_self)]
    rfl

/-- A transfer that reads, and the calls behind it. -/
theorem Sets.read (hwired : Wired path s.kernel fd)
    (hreads : accelerometer.reads command = true)
    (hrest : ∀ s₁, Wired path s₁.kernel fd → (sensed board path).Run s₁ calls s' →
      Sets path fd asked s₁ calls s')
    (hrun : (sensed board path).Run s (transfer fd [command, value] reply :: calls) s') :
    Sets path fd asked s (transfer fd [command, value] reply :: calls) s' := by
  obtain ⟨s₁, hfirst, hrun⟩ := hrun
  obtain ⟨hwired₁, hsame⟩ := read_run hwired hreads ⟨s₁, hfirst, rfl⟩
  obtain ⟨hwired', hsome, hrestAll⟩ := hrest s₁ hwired₁ hrun
  rw [hsame] at hsome hrestAll
  exact ⟨hwired', hsome, fun hcomplete =>
    hrestAll fun e he => hcomplete e (List.mem_cons_of_mem _ he)⟩

/-- The setup writes the configuration. -/
theorem setup_sets {u : Unit}
    {tr : List (Event (HostCall Linuxdev.Call) (HostReply Linuxdev.Reply))}
    (hwired : Wired path s.kernel fd) (hpath : (adxl345SetupDoubleTap fd).Path tr u)
    (hrun : (sensed board path).Run s (apiCalls tr) s') :
    Sets path fd configuration s (apiCalls tr) s' := by
  obtain ⟨r, hcalls⟩ := adxl345SetupDoubleTap_path hpath
  rw [hcalls] at hrun ⊢
  refine Sets.write hwired rfl rfl (fun s₁ h₁ => ?_) hrun
  refine Sets.read h₁ rfl (fun s₂ h₂ => ?_)
  refine Sets.write h₂ rfl rfl (fun s₃ h₃ => ?_)
  refine Sets.write h₃ rfl rfl (fun s₄ h₄ => ?_)
  refine Sets.write h₄ rfl rfl (fun s₅ h₅ => ?_)
  refine Sets.write h₅ rfl rfl (fun s₆ h₆ => ?_)
  refine Sets.write h₆ rfl rfl (fun s₇ h₇ => ?_)
  refine Sets.write h₇ rfl rfl (fun s₈ h₈ => ?_)
  rintro rfl
  exact .nil h₈

end Setup

/-! ## Calls that write no setting -/

/-- A transfer that reads, or a call that is no transfer. -/
def Quiet : Event Linuxdev.Call Linuxdev.Reply → Prop
  | ⟨.ioctlMessage _ tx _, _⟩ =>
    ∃ command value, tx = [command, value] ∧ accelerometer.reads command = true
  | _ => True

section Quiet

variable {board : Board} {path : List Char} {s s' : Sensed} {fd : Int32}
  {calls : List (Event Linuxdev.Call Linuxdev.Reply)}

/-- Such a call leaves the settings as they are. -/
theorem quiet_step {e : Event Linuxdev.Call Linuxdev.Reply} (hquiet : Quiet e)
    (hstep : (sensed board path).step s e s') : s'.settings = s.settings := by
  obtain ⟨-, hsensor⟩ := hstep
  obtain ⟨call, reply⟩ := e
  cases call with
  | ioctlMessage fd tx length =>
    obtain ⟨command, value, rfl, hreads⟩ := hquiet
    obtain ⟨hunwired, hwired⟩ := hsensor
    by_cases h : Wired path s.kernel fd
    · obtain ⟨c₁, hdrift, hcontent, -⟩ := hwired h command value rfl
      rw [Spi.Registers.after_of_reads hreads, or_self] at hcontent
      rw [Sensed.settings, hcontent]
      exact hdrift.settings_eq
    · exact (hunwired h).settings_eq
  | libc c => exact Spi.Registers.Drifts.settings_eq hsensor
  | «open» path flag => exact Spi.Registers.Drifts.settings_eq hsensor
  | close fd => exact Spi.Registers.Drifts.settings_eq hsensor
  | read fd count => exact Spi.Registers.Drifts.settings_eq hsensor
  | write fd data => exact Spi.Registers.Drifts.settings_eq hsensor
  | ioctl fd request => exact Spi.Registers.Drifts.settings_eq hsensor
  | stat path => exact Spi.Registers.Drifts.settings_eq hsensor

/-- So do several of them. -/
theorem quiet_run (hquiet : ∀ e ∈ calls, Quiet e) (hrun : (sensed board path).Run s calls s') :
    s'.settings = s.settings := by
  induction calls generalizing s with
  | nil => rw [hrun]
  | cons e calls ih =>
    obtain ⟨s₁, hstep, hrun⟩ := hrun
    rw [ih (fun e' he' => hquiet e' (List.mem_cons_of_mem _ he')) hrun,
      quiet_step (hquiet e List.mem_cons_self) hstep]

end Quiet

/-! ## Runs -/

/-- The device file of the first chip select on the bus that the environment names. -/
def sensorPath (vars : String → Option (List Char)) : List Char :=
  spiPath (resolveBusnum (envBusnum (vars "MCUPR_SPI_BUSNUM"))) 0

/-- A run of the program in an environment with these variables, with the sensor behind the
device file they name. -/
structure SensedRun (board : Board) (vars : String → Option (List Char)) (n : ℕ) extends
    MainRun n where
  /-- The state at the start. -/
  start : Sensed
  /-- The state at the end. -/
  stop : Sensed
  /-- The kernel and the sensor answer the calls. -/
  answered : (sensed board (sensorPath vars)).Run start toMainRun.calls stop
  /-- The variables are read from the environment. -/
  fromEnv : ∀ e ∈ toMainRun.calls, FromEnv vars e

section Runs

variable {board : Board} {vars : String → Option (List Char)} {s s' : Sensed} {fd dev : Int32}
  {text : Option (List Char)} {buf : Libc.Ptr}
  {opened : List (Event Linuxdev.Call Linuxdev.Reply)}

/-- The name of the device file is not truncated. -/
theorem snprintf_sensorPath : Libc.snprintf 32 (sensorPath vars) = sensorPath vars := by
  refine Libc.snprintf_eq ?_
  have hbus := Libc.length_decimal_int32 (resolveBusnum (envBusnum (vars "MCUPR_SPI_BUSNUM")))
  have hcs : (Libc.decimal (0 : Int32).toInt).length = 1 := by decide
  rw [sensorPath, DeviceName.length_spiPath, hcs]
  omega

/-- Opening the device writes no setting and reads no measurement. -/
theorem quiet_open {bus : SpiBus} {r : McuprResult}
    (hopen : (mcuprSpiOpen bus dev 0).Path opened (r, fd)) :
    ∀ e ∈ opened, Quiet e ∧ ¬ReadsMeasured e := by
  obtain ⟨tr₁, cs, tr₂, rfl, hcs, hcalls⟩ := mcuprSpiOpen_path.mp hopen
  obtain ⟨-, rfl, rfl⟩ | ⟨_, hmark, -, -⟩ := resolveCsnum_path.mp hcs
  · obtain ⟨_, _, -, -, rfl⟩ | ⟨_, _, _, -, -, -, -, rfl⟩ | ⟨_, _, _, _, -, -, -, -, -, rfl⟩ |
      ⟨_, _, _, -, -, -, -, -, rfl⟩ := hcalls <;> simp [Quiet, ReadsMeasured]
  · exact absurd hmark (by decide)

/-- The device that was opened is the sensor. -/
theorem wired_of_open (htext : text = vars "MCUPR_SPI_BUSNUM")
    (hopen : (mcuprSpiOpen (createdBus text buf) dev 0).Path opened (.ok, fd))
    (hrun : (sensed board (sensorPath vars)).Run s opened s') :
    Wired (sensorPath vars) s'.kernel fd := by
  obtain ⟨tr₁, cs, tr₂, rfl, hcs, hcalls⟩ := mcuprSpiOpen_path.mp hopen
  obtain ⟨-, rfl, rfl⟩ | ⟨_, hmark, -, -⟩ := resolveCsnum_path.mp hcs
  swap
  · exact absurd hmark (by decide)
  have hname : Libc.snprintf 32 (spiPath (createdBus text buf).params.busnum 0) =
      sensorPath vars := by
    rw [htext]
    exact snprintf_sensorPath
  rw [List.nil_append] at hrun
  rw [hname] at hcalls
  obtain ⟨_, -, hok, -⟩ | ⟨_, _, _, -, -, hok, -⟩ | ⟨_, _, _, _, -, -, -, hok, -⟩ |
    ⟨_, ret, ret', hfd, hret, hret', -, rfl, rfl⟩ := hcalls
  · cases hok
  · cases hok
  · cases hok
  · obtain ⟨s₁, ⟨hopened, -⟩, s₂, ⟨hmode, -⟩, s₃, ⟨hspeed, -⟩, rfl⟩ := hrun
    obtain ⟨-, -, -, hk₁⟩ := hopened.resolve_left fun h => hfd h.1
    obtain ⟨-, f, hf, hk₂⟩ := hmode.resolve_left fun h => hret h.1
    obtain ⟨-, g, hg, hk₃⟩ := hspeed.resolve_left fun h => hret' h.1
    rw [hk₁, Kernel.opened_files_self] at hf
    rw [hk₂, Kernel.configured_files_self] at hg
    obtain rfl := Option.some.inj hf
    obtain rfl := Option.some.inj hg
    exact ⟨_, by rw [hk₃, Kernel.configured_files_self], rfl, rfl⟩

/-- Behind calls none of which is of some kind, the first call of that kind comes later. -/
theorem append_of_first {P : Event Linuxdev.Call Linuxdev.Reply → Prop}
    {front rest pre post : List (Event Linuxdev.Call Linuxdev.Reply)}
    {e : Event Linuxdev.Call Linuxdev.Reply} (hfront : ∀ d ∈ front, ¬P d)
    (h : front ++ rest = pre ++ e :: post) (he : P e) :
    ∃ pre', pre = front ++ pre' ∧ rest = pre' ++ e :: post := by
  obtain ⟨pre', hpre, hrest⟩ | ⟨post', hfrontEq, hpost⟩ := List.append_eq_append_iff.mp h
  · exact ⟨pre', hpre, hrest⟩
  · cases post' with
    | nil => exact ⟨[], by simpa using hfrontEq.symm, by simpa using hpost.symm⟩
    | cons d post' =>
      obtain ⟨rfl, -⟩ := List.cons.inj hpost
      exact absurd he (hfront _ (by simp [hfrontEq]))

/-- The identity is not a measurement. -/
theorem devid_not_measured {reply : TransferReply} :
    ¬ReadsMeasured (transfer fd [0x80, 0] reply) := by
  rintro ⟨-, hmeasured⟩
  exact absurd hmeasured (by decide)

/-- The setup does not read measurements. -/
theorem setup_not_measured {u : Unit}
    {tr : List (Event (HostCall Linuxdev.Call) (HostReply Linuxdev.Reply))}
    (hpath : (adxl345SetupDoubleTap fd).Path tr u) : ∀ e ∈ apiCalls tr, ¬ReadsMeasured e := by
  obtain ⟨r, hcalls⟩ := adxl345SetupDoubleTap_path hpath
  rw [hcalls]
  intro e he
  simp only [List.mem_cons, List.not_mem_nil, or_false] at he
  rcases he with rfl | rfl | rfl | rfl | rfl | rfl | rfl | rfl <;> rintro ⟨hreads, hmeasured⟩
  all_goals first | exact absurd hreads (by decide) | exact absurd hmeasured (by decide)

/-- Rounds write no setting. -/
theorem quiet_samples {samples : List Sample} :
    ∀ e ∈ samples.flatMap (Sample.calls fd), Quiet e := by
  intro e he
  obtain ⟨s, -, he⟩ := List.mem_flatMap.mp he
  simp only [Sample.calls, List.mem_cons, List.not_mem_nil, or_false] at he
  rcases he with rfl | rfl | rfl | rfl | rfl | rfl | rfl <;> exact ⟨_, _, rfl, rfl⟩

/-- The calls up to the setup write no setting and read no measurement. -/
theorem quiet_boot : ∀ e ∈ bootCalls text buf, Quiet e ∧ ¬ReadsMeasured e := by
  intro e he
  rcases List.mem_cons.mp he with rfl | he
  · exact ⟨trivial, id⟩
  · obtain ⟨e, -, rfl⟩ := List.mem_map.mp he
    exact ⟨trivial, id⟩

/-- The sensor is set up in this state, after these calls from some other. -/
def PreparedIn (start : Sensed) (calls : List (Event Linuxdev.Call Linuxdev.Reply)) (s : Sensed) :
    Prop :=
  (∀ r, s.settings r = start.settings r ∨ (r, s.settings r) ∈ configuration) ∧
    ((∀ d ∈ calls, Complete d) → ∀ w ∈ configuration, s.settings w.1 = w.2)

/-- Behind the setup the sensor is set up, as long as no setting is written. -/
theorem prepared_behind {start : Sensed} {reply : TransferReply} {u : Unit}
    {setup : List (Event (HostCall Linuxdev.Call) (HostReply Linuxdev.Reply))}
    {behind : List (Event Linuxdev.Call Linuxdev.Reply)} (htext : text = vars "MCUPR_SPI_BUSNUM")
    (hopen : (mcuprSpiOpen (createdBus text buf) dev 0).Path opened (.ok, fd))
    (hsetup : (adxl345SetupDoubleTap fd).Path setup u) (hbehind : ∀ e ∈ behind, Quiet e)
    (hrun : (sensed board (sensorPath vars)).Run start (bootCalls text buf ++ (opened ++
      transfer fd [0x80, 0] reply :: (apiCalls setup ++ behind))) s) :
    PreparedIn start (bootCalls text buf ++ (opened ++ transfer fd [0x80, 0] reply ::
      (apiCalls setup ++ behind))) s := by
  obtain ⟨s₁, hboot, hrun₁⟩ := Env.run_append.mp hrun
  obtain ⟨s₂, hopened, s₃, hdevid, hrun₃⟩ := Env.run_append.mp hrun₁
  obtain ⟨s₄, hset, hrun₄⟩ := Env.run_append.mp hrun₃
  have hwired := wired_of_open htext hopen hopened
  obtain ⟨hwired₃, hsame₃⟩ := read_run hwired rfl ⟨s₃, hdevid, rfl⟩
  obtain ⟨-, ⟨ws, hsub, hsome⟩, hall⟩ := setup_sets hwired₃ hsetup hset
  have hfront : s₃.settings = start.settings := by
    rw [hsame₃, quiet_run (fun e he => (quiet_open hopen e he).1) hopened,
      quiet_run (fun e he => (quiet_boot e he).1) hboot]
  have hlast : s.settings = s₄.settings := quiet_run hbehind hrun₄
  refine ⟨fun r => ?_, fun hcomplete w hw => ?_⟩
  · rw [hlast, hsome, hfront]
    exact written_eq_or_mem.imp_right fun h => hsub.subset h
  · rw [hlast, hall fun e he => hcomplete e (by simp [he]), hfront]
    exact written_of_mem (by decide) hw

/-- So it is when a measurement is read behind the setup. -/
theorem prepared_of_split {start : Sensed} {reply : TransferReply} {u : Unit}
    {setup : List (Event (HostCall Linuxdev.Call) (HostReply Linuxdev.Reply))}
    {rest pre post : List (Event Linuxdev.Call Linuxdev.Reply)}
    {e : Event Linuxdev.Call Linuxdev.Reply} (htext : text = vars "MCUPR_SPI_BUSNUM")
    (hopen : (mcuprSpiOpen (createdBus text buf) dev 0).Path opened (.ok, fd))
    (hsetup : (adxl345SetupDoubleTap fd).Path setup u) (hrest : ∀ e ∈ rest, Quiet e)
    (hsplit : bootCalls text buf ++ (opened ++ transfer fd [0x80, 0] reply ::
      (apiCalls setup ++ rest)) = pre ++ e :: post) (hreads : ReadsMeasured e)
    (hrun : (sensed board (sensorPath vars)).Run start pre s) : PreparedIn start pre s := by
  have hfront : ∀ d ∈ bootCalls text buf ++ (opened ++ transfer fd [0x80, 0] reply ::
      apiCalls setup), ¬ReadsMeasured d := by
    intro d hd
    rcases List.mem_append.mp hd with hd | hd
    · exact (quiet_boot d hd).2
    rcases List.mem_append.mp hd with hd | hd
    · exact (quiet_open hopen d hd).2
    rcases List.mem_cons.mp hd with rfl | hd
    · exact devid_not_measured
    · exact setup_not_measured hsetup d hd
  have hsplit' : (bootCalls text buf ++ (opened ++ transfer fd [0x80, 0] reply ::
      apiCalls setup)) ++ rest = pre ++ e :: post := by simpa using hsplit
  obtain ⟨behind, rfl, rfl⟩ := append_of_first hfront hsplit' hreads
  have hshape : bootCalls text buf ++ (opened ++ transfer fd [0x80, 0] reply ::
      apiCalls setup) ++ behind = bootCalls text buf ++ (opened ++
        transfer fd [0x80, 0] reply :: (apiCalls setup ++ behind)) := by simp
  rw [hshape] at hrun ⊢
  exact prepared_behind htext hopen hsetup
    (fun d hd => hrest d (List.mem_append_left _ hd)) hrun

end Runs

/-- The sensor is set up when its measurements are read: each setting is as it was at the start
or as it was to be written, and if every transfer so far was made they are all as they were to
be. -/
def SensedRun.Prepared {board : Board} {vars : String → Option (List Char)} {n : ℕ}
    (run : SensedRun board vars n) : Prop :=
  ∀ pre e post s, run.calls = pre ++ e :: post → ReadsMeasured e →
    (sensed board (sensorPath vars)).Run run.start pre s → PreparedIn run.start pre s

/-- **Set up before it is read.** In every run of the program, for any number of rounds, whenever
a measurement is read the sensor is set up, whatever it measures in between. -/
theorem adxl345_prepared {board : Board} {vars : String → Option (List Char)} {n : ℕ}
    (run : SensedRun board vars n) : run.Prepared := by
  intro pre e post s hsplit hreads hrun
  have hphases := main_phases run.performed
  have hfromEnv := run.fromEnv
  change Phases n run.dev run.calls run.result at hphases
  generalize run.calls = calls at hphases hfromEnv hsplit
  generalize run.result = result at hphases
  have hmem : e ∈ calls := by simp [hsplit]
  cases hphases with
  | noBus text =>
    rcases List.mem_pair.mp hmem with rfl | rfl <;> exact hreads.elim
  | notOpened text buf opened r fd hrefused hopen =>
    rcases List.mem_append.mp hmem with hmem | hmem
    · exact absurd hreads (quiet_boot e hmem).2
    · exact absurd hreads (quiet_open hopen e hmem).2
  | notDetected text buf opened fd reply hopen hother =>
    rcases List.mem_append.mp hmem with hmem | hmem
    · exact absurd hreads (quiet_boot e hmem).2
    · rcases List.mem_append.mp hmem with hmem | hmem
      · exact absurd hreads (quiet_open hopen e hmem).2
      · rw [List.mem_singleton.mp hmem] at hreads
        exact absurd hreads devid_not_measured
  | watching text buf opened fd reply setup looped prev hopen hdetected hsetup hloop =>
    obtain ⟨samples, -, hwatched⟩ := (loop_path hloop).1 prev rfl
    rw [hwatched.calls] at hsplit
    have htext : text = vars "MCUPR_SPI_BUSNUM" :=
      hfromEnv ⟨.libc (.getenv "MCUPR_SPI_BUSNUM"), text⟩ (by simp [bootCalls])
    exact prepared_of_split htext hopen hsetup quiet_samples hsplit hreads hrun
  | tapped text buf opened fd reply setup looped c released hopen hdetected hsetup hloop hrelease =>
    obtain ⟨samples, -, hstopped⟩ := (loop_path hloop).2 () rfl
    rw [hstopped.calls] at hsplit
    have htext : text = vars "MCUPR_SPI_BUSNUM" :=
      hfromEnv ⟨.libc (.getenv "MCUPR_SPI_BUSNUM"), text⟩ (by simp [bootCalls])
    refine prepared_of_split htext hopen hsetup (fun d hd => ?_) hsplit hreads hrun
    rcases List.mem_append.mp hd with hd | hd
    · exact quiet_samples d hd
    rcases List.mem_cons.mp hd with rfl | hd
    · trivial
    · obtain ⟨_, rfl, -⟩ := Prog.path_lift_part.mp hrelease
      obtain ⟨d, -, rfl⟩ := List.mem_map.mp hd
      trivial

/-- A sensor that reads 100 on the X-axis and reports a double tap. -/
def tappedSensor : Fin 64 → UInt8 := fun r =>
  if r = 0 then 0xe5 else if r = 0x30 then 0x20 else if r = 0x32 then 100 else 0

/-- The variables are read from the environment. -/
theorem fromEnv_sensedResponder (s : Sensed) (c : Linuxdev.Call) :
    FromEnv tapHost.vars ⟨c, (sensedResponder tapHost .allInputs).answer s c⟩ := by
  cases c with
  | libc c => cases c <;> first | rfl | trivial
  | _ => trivial

/-- The program, with this sensor. -/
def tapSensed : SensedRun .allInputs (fun _ => none) 10 :=
  let played := (sensedResponder tapHost .allInputs).hosted.play (main 10 none (-1))
    ⟨.idle, tappedSensor⟩
  { bus := none
    dev := -1
    trace := played.trace
    result := played.result
    performed := played.performed
    start := ⟨.idle, tappedSensor⟩
    stop := played.stop
    answered := run_hosted.mp played.run
    fromEnv := Responder.forall_mem_apiCalls _ fromEnv_sensedResponder _ _ }

/-- The theorem for this run. -/
theorem adxl345_prepared_tap : tapSensed.result = some 0 ∧ tapSensed.Prepared :=
  ⟨by decide +kernel, adxl345_prepared tapSensed⟩

end McuPeripheral.Adxl345
