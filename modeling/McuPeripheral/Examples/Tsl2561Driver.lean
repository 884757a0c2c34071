import McuPeripheral.Backends.LibmpsseSlave
import McuPeripheral.Backends.LinuxdevSlave
import McuPeripheral.Backends.PigpiodSlave
import McuPeripheral.Examples.Tsl2561

/-!
# Driving the light sensor

Any sequence of `tsl2561_read` and `tsl2561_write` on a handle that leads to the sensor. While
no transfer falls short the functions are faithful accesses to sixteen registers, through
every backend. With failing transfers no write is made twice, out of order or to another
register, but a read may return the content of a register that was selected before.
-/

namespace McuPeripheral.Tsl2561

open Calls

/-- A call of one of the two functions. -/
inductive Op
  | read (reg : Int32)
  | write (reg : Int32) (value : UInt8)
  deriving DecidableEq, Repr

/-- What it returns. -/
@[reducible] def Op.Result : Op → Type
  | .read _ => UInt8
  | .write .. => Unit

/-- The function, on the handle of a link. -/
def Op.prog (L : I2cLink sensor) : (o : Op) → Prog L.backend.Call L.backend.Reply o.Result
  | .read reg => tsl2561Read L.backend L.bus L.dev reg
  | .write reg value => tsl2561Write L.backend L.bus L.dev reg value

/-- The register it names. -/
def Op.register : Op → Fin 16
  | .read reg => Tsl2561.register reg
  | .write reg _ => Tsl2561.register reg

/-- The access it stands for. -/
def Op.access : Op → Access (Fin 16) UInt8
  | .read reg => .read (Tsl2561.register reg)
  | .write reg value => .write (Tsl2561.register reg) value

/-- The byte it returns, where it returns one. -/
def Op.returned : (o : Op) → o.Result → Option UInt8
  | .read _, r => some r
  | .write .., _ => none

/-- A sequence of calls on the handle of a link, from any state of the sensor. -/
structure Driving (L : I2cLink sensor) where
  /-- The calls. -/
  history : List (Invocation (Op.prog L))
  /-- The state at the start. -/
  start : L.State
  /-- The state at the end. -/
  stop : L.State
  /-- The handle leads to the sensor. -/
  ready : L.Ready start
  /-- The calls are made one after the other. -/
  session : Session L.env (fun _ _ => True) start history stop

variable {L : I2cLink sensor}

namespace Driving

/-- What the registers hold at the start. -/
def before (d : Driving L) : Fin 16 → UInt8 := (L.slave d.start).content

/-- What they hold at the end. -/
def after (d : Driving L) : Fin 16 → UInt8 := (L.slave d.stop).content

/-- What the calls return. -/
def returned (d : Driving L) : List (Option UInt8) := d.history.map fun i => i.op.returned i.result

/-- No transfer fails or falls short. -/
def Smooth (d : Driving L) : Prop := ∀ i ∈ d.history, ∀ e ∈ i.trace, L.Smooth e

/-- The register was selected at the start, or is named by one of these calls. -/
def Selectable (d : Driving L) (h : List (Invocation (Op.prog L))) (r : Fin 16) : Prop :=
  r = (L.slave d.start).selected ∨ ∃ i ∈ h, r = i.op.register

/-- What the calls do whatever fails: they make some of the writes they ask for, each once and in
their order, and no other; and a read returns `0xff`, or what some register holds at that time
that is named by it or by a call before it, or was selected at the start. -/
structure Accountable (d : Driving L) : Prop where
  /-- The writes that were made. -/
  writes : ∃ ws, ws.Sublist (Access.writes (accesses Op.access d.history)) ∧
    (L.slave d.start).Made ws (L.slave d.stop)
  /-- The values that were read, each in the state `s` that the calls before it led to. -/
  reads : ∀ pre i post s s', d.history = pre ++ i :: post →
    Session L.env (fun _ _ => True) d.start pre s → L.env.Run s i.trace s' →
    ∀ r, i.op.returned i.result = some r →
      r = 0xff ∨ ∃ named, d.Selectable (pre ++ [i]) named ∧ r = (L.slave s).content named

end Driving

section Calls

variable {i : Invocation (Op.prog L)} {s s' : L.State}

/-- Any call makes the write it asks for or none, and leaves selected what was, or what it
names. -/
theorem call_run (hready : L.Ready s) (hrun : L.env.Run s i.trace s') :
    L.Ready s' ∧ ((L.slave s').selected = (L.slave s).selected ∨
        (L.slave s').selected = i.op.register) ∧
      ((L.slave s).Made [] (L.slave s') ∨
        (L.slave s).Made i.op.access.toWrite.toList (L.slave s')) ∧
      ∀ r, i.op.returned i.result = some r →
        r = 0xff ∨ r = (L.slave s).content (L.slave s').selected := by
  obtain ⟨op, tr, r, hpath⟩ := i
  cases op with
  | read reg =>
    obtain ⟨hready', hmade, hselected, hvalue, -⟩ := tsl2561Read_run hready hpath hrun
    refine ⟨hready', hselected, Or.inl hmade, fun r' hr => ?_⟩
    obtain rfl : r = r' := Option.some.inj hr
    exact hvalue
  | write reg value =>
    obtain ⟨hready', hselected, hmade, -⟩ := tsl2561Write_run hready hpath hrun
    exact ⟨hready', hselected, hmade, fun r' hr => by cases hr⟩

/-- A call none of whose transfers falls short makes its access. -/
theorem call_run_smooth (hsmooth : ∀ e ∈ i.trace, L.Smooth e) (hready : L.Ready s)
    (hrun : L.env.Run s i.trace s') :
    L.Ready s' ∧ (L.slave s).Made i.op.access.toWrite.toList (L.slave s') ∧
      i.op.returned i.result = i.op.access.answer (L.slave s).content := by
  obtain ⟨op, tr, r, hpath⟩ := i
  cases op with
  | read reg =>
    obtain ⟨hready', hmade, -, -, hvalue⟩ := tsl2561Read_run hready hpath hrun
    exact ⟨hready', hmade, congrArg some (hvalue hsmooth)⟩
  | write reg value =>
    obtain ⟨hready', -, -, hmade⟩ := tsl2561Write_run hready hpath hrun
    exact ⟨hready', hmade hsmooth, rfl⟩

/-- A write made to the sensor is made in the state of the link. -/
theorem made_link {ws : List (Fin 16 × UInt8)} (h : (L.slave s).Made ws (L.slave s')) :
    Made (fun s => (L.slave s).content) (fun s => (L.slave s).log) s ws s' := ⟨h.log, h.content⟩

end Calls

section Sessions

variable {s₀ s : L.State} {h : List (Invocation (Op.prog L))}

/-- Whatever fails, some of the writes are made. -/
theorem session_made (hready : L.Ready s₀) (hsession : Session L.env (fun _ _ => True) s₀ h s) :
    L.Ready s ∧ ∃ ws, ws.Sublist (Access.writes (accesses Op.access h)) ∧
      (L.slave s₀).Made ws (L.slave s) := by
  obtain ⟨hready', ws, hsub, hmade⟩ := hsession.made_sublist (fun s => (L.slave s).content)
    (fun s => (L.slave s).log) Op.access L.Ready hready fun i s s' hready hrun =>
      ⟨(call_run hready hrun).1, (call_run hready hrun).2.2.1.imp made_link made_link⟩
  exact ⟨hready', ws, hsub, hmade.log, hmade.content⟩

/-- What is selected was selected at the start, or is named by a call so far. -/
theorem session_selected (hready : L.Ready s₀)
    (hsession : Session L.env (fun _ _ => True) s₀ h s) :
    (L.slave s).selected = (L.slave s₀).selected ∨
      ∃ i ∈ h, (L.slave s).selected = i.op.register := by
  have hboth : L.Ready s ∧ ((L.slave s).selected = (L.slave s₀).selected ∨
      ∃ i ∈ h, (L.slave s).selected = i.op.register) := by
    refine hsession.invariant (I := fun h s => L.Ready s ∧
      ((L.slave s).selected = (L.slave s₀).selected ∨
        ∃ i ∈ h, (L.slave s).selected = i.op.register)) ⟨hready, Or.inl rfl⟩ ?_
    rintro h s i s' - ⟨hready, hbefore⟩ - hrun
    obtain ⟨hready', hsame | hown, -, -⟩ := call_run hready hrun
    · refine ⟨hready', hbefore.imp (fun h => by rw [hsame, h]) ?_⟩
      rintro ⟨j, hj, heq⟩
      exact ⟨j, List.mem_append_left _ hj, by rw [hsame, heq]⟩
    · exact ⟨hready', Or.inr ⟨i, by simp, hown⟩⟩
  exact hboth.2

end Sessions

/-- Whatever fails, the calls are accountable. -/
theorem Driving.accountable (d : Driving L) : d.Accountable := by
  refine ⟨(session_made d.ready d.session).2, ?_⟩
  intro pre i post s s' _ hsession hrun r hr
  obtain ⟨-, -, -, hvalue⟩ := call_run (session_made d.ready hsession).1 hrun
  exact (hvalue r hr).imp_right fun hr =>
    ⟨_, session_selected d.ready (.step i hsession trivial hrun), hr⟩

/-- If no transfer falls short, the calls are accesses to sixteen registers. -/
theorem Driving.faithful (d : Driving L) (hsmooth : d.Smooth) :
    (L.slave d.start).Made (Access.writes (accesses Op.access d.history)) (L.slave d.stop) ∧
      d.returned = Access.answers d.before (accesses Op.access d.history) := by
  obtain ⟨-, hmade, hanswers⟩ := d.session.answers_eq (fun s => (L.slave s).content)
    (fun s => (L.slave s).log) Op.access L.Ready (fun i => i.op.returned i.result) hsmooth d.ready
    fun i s s' hi hready hrun => by
      obtain ⟨hready', hmade, hreturned⟩ := call_run_smooth hi hready hrun
      exact ⟨hready', made_link hmade, hreturned⟩
  exact ⟨⟨hmade.log, hmade.content⟩, hanswers⟩

/-! ## Through the backends -/

/-- A handle of the sensor, of one of the backends. -/
inductive SensorHandle
  | linuxdev (board : Linuxdev.Board) (self : Libc.Ptr) (priv : Linuxdev.I2cData)
      (dev address : Int32) (hdev : ¬dev < 0)
  | libmpsse (self : Libc.Ptr) (ctx : Libmpsse.MpsseContext) (address : ℕ)
      (hopen : ctx.isOpen = true) (haddress : address < 128)
  | pigpiod (self : Libc.Ptr) (priv : Pigpiod.PigpiodI2cData) (dev : Int32) (address : UInt32)

/-- The handle and the sensor behind it. -/
@[reducible] def SensorHandle.link : SensorHandle → I2cLink sensor
  | .linuxdev board self priv dev address hdev =>
    Linuxdev.slaveLink board sensor self priv dev address hdev
  | .libmpsse self ctx address hopen haddress =>
    Libmpsse.slaveLink sensor self ctx address hopen haddress
  | .pigpiod self priv dev address => Pigpiod.slaveLink sensor self priv dev address

/-- **Failing transfers.** Through every backend, whatever system calls or library calls fail or
fall short, the calls on a handle of the sensor are accountable. -/
theorem tsl2561_accountable (handle : SensorHandle) (d : Driving handle.link) : d.Accountable :=
  d.accountable

/-- **The backends agree.** The same calls on the sensor, made through any two backends from the
same register contents and with no transfer falling short, return the same values and leave the
same contents, and these are what reading and writing sixteen registers comes to. -/
theorem tsl2561_backends_agree {handle handle' : SensorHandle} (d : Driving handle.link)
    (d' : Driving handle'.link)
    (hops : d.history.map Invocation.op = d'.history.map Invocation.op)
    (hbefore : d.before = d'.before) (hsmooth : d.Smooth) (hsmooth' : d'.Smooth) :
    d.returned = d'.returned ∧ d.after = d'.after ∧
      d.returned = Access.answers d.before ((d.history.map Invocation.op).map Op.access) ∧
      d.after = written d.before
        (Access.writes ((d.history.map Invocation.op).map Op.access)) := by
  obtain ⟨hmade, hreturned⟩ := d.faithful hsmooth
  obtain ⟨hmade', hreturned'⟩ := d'.faithful hsmooth'
  have hafter : d.after = written d.before _ := hmade.content
  have hafter' : d'.after = written d'.before _ := hmade'.content
  have haccesses : accesses Op.access d.history =
      (d.history.map Invocation.op).map Op.access := by
    rw [List.map_map]
    rfl
  have haccesses' : accesses Op.access d'.history =
      (d.history.map Invocation.op).map Op.access := by
    rw [hops, List.map_map]
    rfl
  rw [haccesses] at hafter hreturned
  rw [haccesses', ← hbefore] at hafter' hreturned'
  exact ⟨by rw [hreturned, hreturned'], by rw [hafter, hafter'], hreturned, hafter⟩

/-! ## An example -/

/-- The sensor at the start: all registers hold 0. -/
def blankSensor : I2c.Registered (Fin 16) := ⟨selectRegister 0, false, fun _ => 0, []⟩

/-- A kernel in which descriptor 3 leads to the sensor. -/
def sensorKernel : Linuxdev.Kernel where
  files := Function.update (fun _ => none) 3 (some ⟨Linuxdev.i2cPath 1, some 0x39, none, none⟩)
  pins := fun _ => none

/-- Register 1 is written and read back through Linux. -/
theorem exists_linuxdev_driving :
    ∃ d : Driving (SensorHandle.linuxdev .allInputs ⟨0, 0⟩ ⟨1⟩ 3 0x39 (by decide)).link,
      d.history.map Invocation.op = [.write 1 2, .read 1] ∧ d.before = blankSensor.content ∧
        d.Smooth := by
  have hwrite : (Linuxdev.mcuprI2cWrite (some ⟨⟨0, 0⟩, some ⟨1⟩⟩) 3 [0x81, 2] 2).Path
      [⟨.write 3 [0x81, 2], 2⟩] 2 :=
    Linuxdev.mcuprI2cWrite_path.mpr (Or.inr ⟨2, by decide, rfl, rfl⟩)
  have hselect : (Linuxdev.mcuprI2cWrite (some ⟨⟨0, 0⟩, some ⟨1⟩⟩) 3 [0x81] 1).Path
      [⟨.write 3 [0x81], 1⟩] 1 :=
    Linuxdev.mcuprI2cWrite_path.mpr (Or.inr ⟨1, by decide, rfl, rfl⟩)
  have hread : (Linuxdev.mcuprI2cRead (some ⟨⟨0, 0⟩, some ⟨1⟩⟩) 3 1).Path
      [⟨.read 3 1, some [2]⟩] (1, [2]) :=
    Linuxdev.mcuprI2cRead_path.mpr (Or.inr ⟨some [2], by decide, rfl, rfl⟩)
  let written : Invocation (Op.prog (Linuxdev.slaveLink .allInputs sensor ⟨0, 0⟩ ⟨1⟩ 3 0x39
      (by decide))) :=
    ⟨.write 1 2, [⟨.write 3 [0x81, 2], 2⟩], (), Prog.path_bind.mpr ⟨_, 2, [], rfl, hwrite,
      rfl, rfl⟩⟩
  let readBack : Invocation (Op.prog (Linuxdev.slaveLink .allInputs sensor ⟨0, 0⟩ ⟨1⟩ 3 0x39
      (by decide))) :=
    ⟨.read 1, [⟨.write 3 [0x81], 1⟩, ⟨.read 3 1, some [2]⟩], 2, Prog.path_bind.mpr
      ⟨_, 1, _, rfl, hselect, Prog.path_bind.mpr ⟨_, (1, [2]), [], rfl, hread,
        Prog.path_ite.mpr (Or.inr ⟨by decide, rfl, rfl⟩)⟩⟩⟩
  have hpath : ¬Linuxdev.ControlsPins (Linuxdev.i2cPath 1) := Linuxdev.not_controlsPins_device _
  have hleads : Linuxdev.Leads (Linuxdev.i2cPath 1) 0x39 sensorKernel 3 := ⟨_, rfl, rfl, rfl⟩
  have hrun : (Linuxdev.attached .allInputs sensor (Linuxdev.i2cPath 1) 0x39).Run
      ⟨sensorKernel, blankSensor⟩ written.trace _ :=
    ⟨_, Linuxdev.attached_write_step hpath hleads (by decide), rfl⟩
  have hrun' : (Linuxdev.attached .allInputs sensor (Linuxdev.i2cPath 1) 0x39).Run
      ⟨sensorKernel, sensor.receives blankSensor [0x81, 2]⟩ readBack.trace _ :=
    ⟨_, Linuxdev.attached_write_step hpath hleads (by decide), _,
      Linuxdev.attached_read_step hpath hleads, rfl⟩
  refine ⟨⟨[written, readBack], ⟨sensorKernel, blankSensor⟩, _, ⟨_, rfl, rfl, rfl⟩,
    .step readBack (.step written .start trivial hrun) trivial hrun'⟩, rfl, rfl, ?_⟩
  intro i hi e he
  obtain rfl | rfl : i = written ∨ i = readBack := by simpa using hi
  · obtain rfl := List.mem_singleton.mp he
    exact rfl
  · obtain rfl | rfl : e = ⟨.write 3 [0x81], 1⟩ ∨ e = ⟨.read 3 1, some [2]⟩ := by
      simpa [readBack] using he
    · exact rfl
    · exact ⟨[2], rfl, rfl⟩

/-- The replies of an adapter that transmits every byte of a payload of this length, when the
sensor acknowledges them. -/
def allWritten (length : ℕ) : Libmpsse.WriteReplies :=
  ⟨0, ⟨0, [true]⟩, 0, ⟨0, List.replicate length true⟩, 0, 0⟩

/-- The replies to a read of one byte. -/
def oneRead : Libmpsse.ReadReplies :=
  ⟨0, ⟨0, [true]⟩, 0, ⟨some (⟨1, 0⟩, [2]), 1⟩, ⟨some (⟨2, 0⟩, [2]), 1⟩, 0⟩

/-- The adapter and the sensor can answer a write so. -/
theorem wired_write_run {t : I2c.Registered (Fin 16)} {acked : Bool} {payload : List UInt8}
    {size : UInt32} (hsize : 0 < size) (htake : payload.take size.toNat = payload) :
    (Libmpsse.wired sensor 7 0x39).Run ⟨t, .idle, acked⟩
      (Libmpsse.writeTrace 7 (Libmpsse.handleOf 0x39) payload size (allWritten payload.length))
      ⟨sensor.receives t payload, .idle, true⟩ := by
  rw [Libmpsse.writeTrace_of_payload rfl rfl hsize, htake]
  have hpayload : (Libmpsse.wired sensor 7 0x39).step ⟨sensor.addressed t, .taking, true⟩
      ⟨.write 7 payload, (allWritten payload.length).payload⟩
      ⟨sensor.receives t payload, .taking, true⟩ :=
    ⟨fun h => absurd rfl h, fun _ => ⟨Or.inl rfl, (List.length_replicate ..).le,
      fun _ => List.length_replicate .., (Libmpsse.foldl_wiredByte_of_all _ _).symm⟩⟩
  exact ⟨_, rfl, _, ⟨fun h => absurd rfl h, fun _ => ⟨Or.inl rfl, le_refl 1, fun _ => rfl, rfl⟩⟩,
    _, ⟨rfl, fun _ => rfl⟩, _, hpayload, _, ⟨rfl, fun _ => rfl⟩, _, rfl, rfl⟩

/-- And a read of the byte that the sensor gives. -/
theorem wired_read_run {t : I2c.Registered (Fin 16)} {acked : Bool}
    (hgiven : sensor.gives 1 t = [2]) :
    (Libmpsse.wired sensor 7 0x39).Run ⟨t, .idle, acked⟩
      (Libmpsse.readTrace 7 (Libmpsse.handleOf 0x39) 1 oneRead) ⟨t, .idle, true⟩ := by
  rw [Libmpsse.readTrace_of_acknowledged rfl rfl]
  have hread : ∀ ptr, (Libmpsse.wired sensor 7 0x39).step ⟨t, .giving, true⟩
      ⟨.read 7 1, ⟨some (ptr, [2]), 1⟩⟩ ⟨t, .giving, true⟩ := by
    intro ptr
    refine ⟨fun h => absurd rfl h, fun _ => ⟨le_refl 1, rfl, fun ptr' data hsome => ⟨rfl, ?_⟩⟩⟩
    obtain ⟨-, rfl⟩ := Prod.mk.inj (Option.some.inj hsome)
    exact fun _ => hgiven.symm
  exact ⟨_, rfl, _, ⟨fun h => absurd rfl h, fun _ => ⟨Or.inl rfl, le_refl 1, fun _ => rfl, rfl⟩⟩,
    _, ⟨rfl, fun _ => rfl⟩, _, hread _, _, rfl, _, rfl, _, hread _, _, rfl, _, rfl, rfl⟩

/-- Every call of such a write is complete. -/
theorem complete_written {payload : List UInt8} {size : UInt32} (hsize : 0 < size)
    (htake : payload.take size.toNat = payload) :
    ∀ e ∈ Libmpsse.writeTrace 7 (Libmpsse.handleOf 0x39) payload size (allWritten payload.length),
      Libmpsse.Complete e := by
  rw [Libmpsse.writeTrace_of_payload rfl rfl hsize, htake]
  simp [Libmpsse.Complete, Libmpsse.mpsseOk, allWritten]

/-- Every call of such a read is. -/
theorem complete_read :
    ∀ e ∈ Libmpsse.readTrace 7 (Libmpsse.handleOf 0x39) 1 oneRead, Libmpsse.Complete e := by
  rw [Libmpsse.readTrace_of_acknowledged rfl rfl]
  simp [Libmpsse.Complete, Libmpsse.freeBuffer, Libmpsse.mpsseOk, oneRead]

/-- Register 1 is written and read back through libmpsse. -/
theorem exists_libmpsse_driving :
    ∃ d : Driving (SensorHandle.libmpsse ⟨0, 0⟩ ⟨7, true⟩ 0x39 rfl (by decide)).link,
      d.history.map Invocation.op = [.write 1 2, .read 1] ∧ d.before = blankSensor.content ∧
        d.Smooth := by
  have hwrite : (Libmpsse.mcuprI2cWrite (some ⟨⟨0, 0⟩, some ⟨some ⟨7, true⟩⟩⟩)
      (Libmpsse.handleOf 0x39) [0x81, 2] 2).Path
        (Libmpsse.writeTrace 7 (Libmpsse.handleOf 0x39) [0x81, 2] 2 (allWritten 2)) 2 :=
    (Libmpsse.mcuprI2cWrite_path _ rfl (by decide)).mpr ⟨_, rfl, rfl⟩
  have hselect : (Libmpsse.mcuprI2cWrite (some ⟨⟨0, 0⟩, some ⟨some ⟨7, true⟩⟩⟩)
      (Libmpsse.handleOf 0x39) [0x81] 1).Path
        (Libmpsse.writeTrace 7 (Libmpsse.handleOf 0x39) [0x81] 1 (allWritten 1)) 1 :=
    (Libmpsse.mcuprI2cWrite_path _ rfl (by decide)).mpr ⟨_, rfl, rfl⟩
  have hread : (Libmpsse.mcuprI2cRead (some ⟨⟨0, 0⟩, some ⟨some ⟨7, true⟩⟩⟩)
      (Libmpsse.handleOf 0x39) 1).Path
        (Libmpsse.readTrace 7 (Libmpsse.handleOf 0x39) 1 oneRead) (1, [2]) :=
    (Libmpsse.mcuprI2cRead_path _ rfl (by decide)).mpr ⟨_, rfl, rfl⟩
  let written : Invocation (Op.prog (Libmpsse.slaveLink sensor ⟨0, 0⟩ ⟨7, true⟩ 0x39 rfl
      (by decide))) :=
    ⟨.write 1 2, _, (), Prog.path_bind.mpr ⟨_, 2, [], (List.append_nil _).symm, hwrite, rfl,
      rfl⟩⟩
  let readBack : Invocation (Op.prog (Libmpsse.slaveLink sensor ⟨0, 0⟩ ⟨7, true⟩ 0x39 rfl
      (by decide))) :=
    ⟨.read 1, _, 2, Prog.path_bind.mpr ⟨_, 1, _, rfl, hselect, Prog.path_bind.mpr
      ⟨_, (1, [2]), [], (List.append_nil _).symm, hread,
        Prog.path_ite.mpr (Or.inr ⟨by decide, rfl, rfl⟩)⟩⟩⟩
  have hrun : (Libmpsse.wired sensor 7 0x39).Run ⟨blankSensor, .idle, true⟩ written.trace
      ⟨sensor.receives blankSensor [0x81, 2], .idle, true⟩ :=
    wired_write_run (by decide) rfl
  have hrun' : (Libmpsse.wired sensor 7 0x39).Run
      ⟨sensor.receives blankSensor [0x81, 2], .idle, true⟩ readBack.trace
      ⟨sensor.receives (sensor.receives blankSensor [0x81, 2]) [0x81], .idle, true⟩ :=
    Env.run_append.mpr ⟨_, wired_write_run (by decide) rfl, wired_read_run rfl⟩
  refine ⟨⟨[written, readBack], _, _, trivial,
    .step readBack (.step written .start trivial hrun) trivial hrun'⟩, rfl, rfl, ?_⟩
  intro i hi e he
  obtain rfl | rfl : i = written ∨ i = readBack := by simpa using hi
  · exact complete_written (by decide) rfl e he
  · obtain hselected | hgiven := List.mem_append.mp he
    · exact complete_written (by decide) rfl e hselected
    · exact complete_read e hgiven

/-- The theorem for both of them: the read gives back the 2 that was written. -/
theorem tsl2561_backends_agree_read_back :
    ∃ (d : Driving (SensorHandle.linuxdev .allInputs ⟨0, 0⟩ ⟨1⟩ 3 0x39 (by decide)).link)
      (d' : Driving (SensorHandle.libmpsse ⟨0, 0⟩ ⟨7, true⟩ 0x39 rfl (by decide)).link),
      d.history.map Invocation.op = [.write 1 2, .read 1] ∧ d.returned = d'.returned ∧
        d.after = d'.after ∧ d.returned = [none, some 2] ∧
        d.after = written (fun _ => 0) [(1, 2)] := by
  obtain ⟨d, hops, hbefore, hsmooth⟩ := exists_linuxdev_driving
  obtain ⟨d', hops', hbefore', hsmooth'⟩ := exists_libmpsse_driving
  obtain ⟨hreturned, hafter, hanswers, hwritten⟩ := tsl2561_backends_agree d d'
    (hops.trans hops'.symm) (hbefore.trans hbefore'.symm) hsmooth hsmooth'
  rw [hops, hbefore] at hanswers hwritten
  exact ⟨d, d', hops, hreturned, hafter, hanswers, hwritten⟩

end McuPeripheral.Tsl2561
