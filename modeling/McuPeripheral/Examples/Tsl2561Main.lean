import McuPeripheral.Calls.Host
import McuPeripheral.Examples.Tsl2561Driver
import McuPeripheral.Linuxdev.BusNumbers

/-!
# The program `examples/tsl2561.c`

From the environment variable that names the bus to the text that is printed: the program opens
the sensor, switches it on, reads its two channels and prints them. It looks at no result of a
transfer, so what it prints is right if no transfer falls short, and accountable otherwise. The
log of the library goes through a hook of its own and is not part of it.
-/

namespace McuPeripheral.Tsl2561

open Calls Libc

/-- `TLS2561_I2C_ADDR`. -/
def i2cAddr : Int32 := 0x39

/-- `TLS2561_REG_CONTROL`. -/
def regControl : Int32 := 0x00

/-- `TLS2561_REG_CONTROL_POWER_ON`. -/
def regControlPowerOn : UInt8 := 0x3

/-- `TLS2561_REG_TIMING`. -/
def regTiming : Int32 := 0x01

/-- `TLS2561_REG_TIMING_INTEG_402ms`. -/
def regTimingInteg402ms : UInt8 := 0x2

/-- `TLS2561_REG_DATA0LOW`. -/
def regData0low : Int32 := 0x0c

/-- `TLS2561_REG_DATA0HIGH`. -/
def regData0high : Int32 := 0x0d

/-- `TLS2561_REG_DATA1LOW`. -/
def regData1low : Int32 := 0x0e

/-- `TLS2561_REG_DATA1HIGH`. -/
def regData1high : Int32 := 0x0f

/-- The bytes that are read. -/
structure Data where
  /-- `data0low`. -/
  low0 : UInt8
  /-- `data0high`. -/
  high0 : UInt8
  /-- `data1low`. -/
  low1 : UInt8
  /-- `data1high`. -/
  high1 : UInt8
  deriving DecidableEq, Repr

/-- The part of `main` that talks to the sensor. -/
def measure (B : I2cBackend) (bus : Option B.Bus) (handle : Int32) : Prog B.Call B.Reply Data := do
  tsl2561Write B bus handle regControl regControlPowerOn
  tsl2561Write B bus handle regTiming regTimingInteg402ms
  let low0 ← tsl2561Read B bus handle regData0low
  let high0 ← tsl2561Read B bus handle regData0high
  let low1 ← tsl2561Read B bus handle regData1low
  let high1 ← tsl2561Read B bus handle regData1high
  return ⟨low0, high0, low1, high1⟩

/-- `%.2f` of a `float` that was made of two bytes, which is exact. -/
def channelText (low high : UInt8) : List Char :=
  decimal (256 * high.toNat + low.toNat) ++ ['.', '0', '0']

/-- The line that is printed. -/
def lightText (d : Data) : List Char :=
  ['C', 'h', '0', '='] ++ channelText d.low0 d.high0 ++ [',', ' ', ' ', 'C', 'h', '1', '='] ++
    channelText d.low1 d.high1 ++ ['\n']

/-- A program linked with the Linux device backend. -/
@[reducible] def Tool (α : Type) : Type :=
  Prog (HostCall Linuxdev.Call) (HostReply Linuxdev.Reply) α

/-- `main`: the exit status. The variables `i2c_bus` and `i2c_dev` are not initialised. -/
def main (bus : Option Linuxdev.I2cBus) (dev : Int32) : Tool Int32 := do
  let params ← api (Linuxdev.libc mcuprI2cInitParams)
  let (result, bus) ← api (Linuxdev.mcuprI2cBusCreate bus params)
  if result ≠ .ok then return 1
  let (result, dev) ← api (Linuxdev.mcuprI2cOpen bus dev i2cAddr)
  if result ≠ .ok then return 1
  let data ← api (measure Linuxdev.i2cBackend bus dev)
  printf (lightText data)
  api (Linuxdev.mcuprI2cClose bus dev)
  api (Linuxdev.mcuprI2cBusRelease bus)
  return 0

/-! ## Talking to the sensor -/

/-- The calls of the part that talks to the sensor. -/
def measureOps : List Op :=
  [.write regControl regControlPowerOn, .write regTiming regTimingInteg402ms, .read regData0low,
    .read regData0high, .read regData1low, .read regData1high]

/-- What they write. -/
def settings : List (Fin 16 × UInt8) :=
  [(register regControl, regControlPowerOn), (register regTiming, regTimingInteg402ms)]

/-- The settings are what the calls ask to write. -/
theorem writes_measureOps : Access.writes (measureOps.map Op.access) = settings := by decide

/-- What they should return: the data registers are not written. -/
theorem answers_measureOps (content : Fin 16 → UInt8) :
    Access.answers content (measureOps.map Op.access) = [none, none,
      some (content (register regData0low)), some (content (register regData0high)),
      some (content (register regData1low)), some (content (register regData1high))] := rfl

section Measuring

variable {L : I2cLink sensor} {s s' : L.State}
  {tr : List (Event L.backend.Call L.backend.Reply)} {data : Data}

/-- It is a sequence of calls on the sensor, like any other. -/
theorem measure_driving (hready : L.Ready s)
    (hpath : (measure L.backend L.bus L.dev).Path tr data) (hrun : L.env.Run s tr s') :
    ∃ d : Driving L, d.start = s ∧ d.stop = s' ∧ d.history.map Invocation.op = measureOps ∧
      d.returned = [none, none, some data.low0, some data.high0, some data.low1, some data.high1] ∧
        ((∀ e ∈ tr, L.Smooth e) → d.Smooth) := by
  obtain ⟨tr₁, u₁, _, rfl, h₁, hrest₁⟩ := Prog.path_bind.mp hpath
  obtain ⟨tr₂, u₂, _, rfl, h₂, hrest₂⟩ := Prog.path_bind.mp hrest₁
  obtain ⟨tr₃, low0, _, rfl, h₃, hrest₃⟩ := Prog.path_bind.mp hrest₂
  obtain ⟨tr₄, high0, _, rfl, h₄, hrest₄⟩ := Prog.path_bind.mp hrest₃
  obtain ⟨tr₅, low1, _, rfl, h₅, hrest₅⟩ := Prog.path_bind.mp hrest₄
  obtain ⟨tr₆, high1, _, rfl, h₆, rfl, rfl⟩ := Prog.path_bind.mp hrest₅
  obtain ⟨s₁, hrun₁, hruns₁⟩ := Env.run_append.mp hrun
  obtain ⟨s₂, hrun₂, hruns₂⟩ := Env.run_append.mp hruns₁
  obtain ⟨s₃, hrun₃, hruns₃⟩ := Env.run_append.mp hruns₂
  obtain ⟨s₄, hrun₄, hruns₄⟩ := Env.run_append.mp hruns₃
  obtain ⟨s₅, hrun₅, hruns₅⟩ := Env.run_append.mp hruns₄
  rw [List.append_nil] at hruns₅
  let i₁ : Invocation (Op.prog L) := ⟨.write regControl regControlPowerOn, tr₁, u₁, h₁⟩
  let i₂ : Invocation (Op.prog L) := ⟨.write regTiming regTimingInteg402ms, tr₂, u₂, h₂⟩
  let i₃ : Invocation (Op.prog L) := ⟨.read regData0low, tr₃, low0, h₃⟩
  let i₄ : Invocation (Op.prog L) := ⟨.read regData0high, tr₄, high0, h₄⟩
  let i₅ : Invocation (Op.prog L) := ⟨.read regData1low, tr₅, low1, h₅⟩
  let i₆ : Invocation (Op.prog L) := ⟨.read regData1high, tr₆, high1, h₆⟩
  have hsession : Session L.env (fun _ _ => True) s [i₁, i₂, i₃, i₄, i₅, i₆] s' :=
    .step i₆ (.step i₅ (.step i₄ (.step i₃ (.step i₂ (.step i₁ .start trivial hrun₁) trivial hrun₂)
      trivial hrun₃) trivial hrun₄) trivial hrun₅) trivial hruns₅
  refine ⟨⟨[i₁, i₂, i₃, i₄, i₅, i₆], s, s', hready, hsession⟩, rfl, rfl, rfl, rfl, ?_⟩
  intro hsmooth i hi e he
  refine hsmooth e ?_
  simp only [List.mem_cons, List.not_mem_nil, or_false] at hi
  simp only [List.append_nil, List.mem_append]
  rcases hi with rfl | rfl | rfl | rfl | rfl | rfl
  · exact Or.inl he
  · exact Or.inr (Or.inl he)
  · exact Or.inr (Or.inr (Or.inl he))
  · exact Or.inr (Or.inr (Or.inr (Or.inl he)))
  · exact Or.inr (Or.inr (Or.inr (Or.inr (Or.inl he))))
  · exact Or.inr (Or.inr (Or.inr (Or.inr (Or.inr he))))

end Measuring

/-! ## Runs of the program -/

/-- The bus that the value of the environment variable names. -/
def busOf (text : Option (List Char)) : Int32 :=
  Linuxdev.resolveBusnum
    (text.elim mcuprUnspecified fun text => (strtol text).toUInt64.toUInt32).toInt32

/-- A run of the program, with the sensor on the bus that the environment variable names. System
calls may fail or fall short. -/
structure Measurement where
  /-- The board. -/
  board : Linuxdev.Board
  /-- The value of the environment variable. -/
  text : Option (List Char)
  /-- What `i2c_bus` holds before it is set. -/
  bus : Option Linuxdev.I2cBus
  /-- What `i2c_dev` holds before it is set. -/
  dev : Int32
  /-- What the program does. -/
  trace : List (Event (HostCall Linuxdev.Call) (HostReply Linuxdev.Reply))
  /-- Its exit status. -/
  status : Int32
  /-- The kernel and the sensor at the start. -/
  start : Linuxdev.Attached (I2c.Registered (Fin 16))
  /-- The kernel and the sensor at the end. -/
  stop : Linuxdev.Attached (I2c.Registered (Fin 16))
  /-- The program does this. -/
  performed : (main bus dev).Path trace status
  /-- The kernel and the sensor answer so. -/
  run : (Linuxdev.attached board sensor (Linuxdev.i2cPath (busOf text)) i2cAddr).hosted.Run
    start trace stop
  /-- The environment variable has this value. -/
  environment : ∀ e ∈ apiCalls trace, ∀ name reply, e = ⟨.libc (.getenv name), reply⟩ →
    reply = text

/-- No call fails or falls short. -/
def Measurement.Smooth (m : Measurement) : Prop :=
  ∀ e ∈ apiCalls m.trace, Linuxdev.Complete e

/-- The bytes that are read, of registers with these contents. -/
def dataOf (content : Fin 16 → UInt8) : Data :=
  ⟨content (register regData0low), content (register regData0high),
    content (register regData1low), content (register regData1high)⟩

/-- The four bytes. -/
def Data.bytes (data : Data) : List UInt8 := [data.low0, data.high0, data.low1, data.high1]

/-- A measurement between two states of the sensor, whatever fails: some of the settings were
written, each once and in their order, and nothing else; and a byte is `0xff` or what some
register holds when it is read, which nothing changes any more. Where nothing falls short all
settings were written, and the bytes are those of the data registers. -/
structure Measured (t t' : I2c.Registered (Fin 16)) (smooth : Prop) (data : Data) : Prop where
  written : ∃ ws, ws.Sublist settings ∧ t.Made ws t'
  bytes : ∀ byte ∈ data.bytes, byte = 0xff ∨ ∃ r, byte = t'.content r
  smooth : smooth → t.Made settings t' ∧ data = dataOf t.content

/-- Behind the first read there are only reads. -/
theorem reads_behind {front back : List Op} {op : Op} (hsplit : measureOps = front ++ op :: back)
    (hread : op.access.toWrite = none) : ∀ o ∈ op :: back, o.access.toWrite = none := by
  obtain _ | ⟨a, _ | ⟨b, front⟩⟩ := front
  · obtain ⟨rfl, -⟩ := List.cons.inj hsplit
    cases hread
  · obtain ⟨-, hsplit⟩ := List.cons.inj hsplit
    obtain ⟨rfl, -⟩ := List.cons.inj hsplit
    cases hread
  · intro o ho
    have hmem : o ∈ measureOps.drop 2 := by
      rw [hsplit]
      exact List.mem_append_right _ ho
    have hall : ∀ o ∈ measureOps.drop 2, o.access.toWrite = none := by decide
    exact hall o hmem

/-- Calls that ask for no write change no register. -/
theorem content_of_reads {L : I2cLink sensor} {s s' : L.State} {h : List (Invocation (Op.prog L))}
    (hready : L.Ready s) (hreads : ∀ o ∈ h.map Invocation.op, o.access.toWrite = none)
    (hrun : L.env.Run s (traceOf h) s') : (L.slave s').content = (L.slave s).content := by
  have hsession : Session L.env (fun _ _ => True) s h s' := .of_run (fun _ _ _ _ => trivial) hrun
  obtain ⟨-, ws, hsub, hmade⟩ := session_made hready hsession
  have hnone : Access.writes (accesses Op.access h) = [] := by
    refine List.filterMap_eq_nil_iff.mpr fun a ha => ?_
    obtain ⟨i, hi, rfl⟩ := List.mem_map.mp ha
    exact hreads _ (List.mem_map.mpr ⟨i, hi, rfl⟩)
  rw [hnone, List.sublist_nil] at hsub
  rw [hmade.content, hsub]
  rfl

/-- What a sequence of these calls measures. -/
theorem measured_of_driving {L : I2cLink sensor} {d : Driving L} {data : Data} {smooth : Prop}
    (hops : d.history.map Invocation.op = measureOps)
    (hreturned : d.returned =
      [none, none, some data.low0, some data.high0, some data.low1, some data.high1])
    (hsmooth : smooth → d.Smooth) :
    Measured (L.slave d.start) (L.slave d.stop) smooth data := by
  have haccesses : accesses Op.access d.history = measureOps.map Op.access := by
    rw [← hops, List.map_map]
    rfl
  have hwrites : Access.writes (accesses Op.access d.history) = settings := by
    rw [haccesses, writes_measureOps]
  obtain ⟨hwritten, hreads⟩ := d.accountable
  rw [hwrites] at hwritten
  refine ⟨hwritten, fun byte hbyte => ?_, fun h => ?_⟩
  · -- the byte is the result of some call of the sequence
    have hmem : some byte ∈ d.returned := by
      rw [hreturned]
      simpa [Data.bytes] using hbyte
    obtain ⟨i, hi, hresult⟩ := List.mem_map.mp hmem
    obtain ⟨pre, post, hsplit⟩ := List.append_of_mem hi
    have hsession := d.session
    rw [hsplit] at hsession
    obtain ⟨s, hpre, hrun⟩ := hsession.split
    obtain ⟨s', hcall, -⟩ := Env.run_append.mp hrun
    have hread : i.op.access.toWrite = none := by
      cases hop : i.op with
      | read reg => rfl
      | write reg value =>
        obtain ⟨op, tr, r, hpath⟩ := i
        subst hop
        cases hresult
    have hbehind : ∀ o ∈ (i :: post).map Invocation.op, o.access.toWrite = none := by
      have hcalls : measureOps = pre.map Invocation.op ++ i.op :: post.map Invocation.op := by
        rw [← hops, hsplit, List.map_append, List.map_cons]
      exact reads_behind hcalls hread
    have hcontent := content_of_reads (session_made d.ready hpre).1 hbehind hrun
    refine (hreads pre i post s s' hsplit hpre hcall byte hresult).imp_right ?_
    rintro ⟨r, -, hvalue⟩
    exact ⟨r, by rw [hcontent, hvalue]⟩
  · obtain ⟨hmade, hanswers⟩ := d.faithful (hsmooth h)
    rw [hwrites] at hmade
    rw [hreturned, haccesses, answers_measureOps] at hanswers
    simp only [List.cons.injEq, Option.some.injEq, true_and, and_true] at hanswers
    obtain ⟨hlow0, hhigh0, hlow1, hhigh1⟩ := hanswers
    refine ⟨hmade, ?_⟩
    change data = dataOf d.before
    rw [dataOf, ← hlow0, ← hhigh0, ← hlow1, ← hhigh1]

/-- Closing a handle transfers nothing. -/
theorem close_transfers_nothing {self : Ptr} {priv : Linuxdev.I2cData} {dev : Int32} {u : Unit}
    {tr : List (Event Linuxdev.Call Linuxdev.Reply)}
    (h : (Linuxdev.mcuprI2cClose (some ⟨self, some priv⟩) dev).Path tr u) :
    ∀ e ∈ tr, ¬Linuxdev.Transfers e := by
  obtain ⟨-, rfl⟩ | ⟨c, -, rfl⟩ := Linuxdev.mcuprI2cClose_path.mp h
  · simp
  · simp [Linuxdev.Transfers]

/-- The sensor in some light: the data registers hold 300 and 7. -/
def litSensor : I2c.Registered (Fin 16) :=
  ⟨selectRegister 0, false, fun r => if r = register regData0low then 44
    else if r = register regData0high then 1 else if r = register regData1low then 7 else 0, []⟩

/-- A process with the default I2C bus, and no variables. -/
def litHost : Linuxdev.DeviceHost := ⟨fun _ => none, 0, Linuxdev.i2cPath (busOf none), _, rfl⟩

/-- The program, on this bus. -/
def litMeasurement : Measurement :=
  let played := (litHost.attached .allInputs sensor i2cAddr).hosted.play (main none 0)
    ⟨.idle, litSensor⟩
  { board := .allInputs
    text := none
    bus := none
    dev := 0
    trace := played.trace
    status := played.result
    start := ⟨.idle, litSensor⟩
    stop := played.stop
    performed := played.performed
    run := played.run
    environment := by
      refine Responder.forall_mem_apiCalls _ (fun s c name reply he => ?_) _ _
      cases he
      rfl }

end McuPeripheral.Tsl2561
