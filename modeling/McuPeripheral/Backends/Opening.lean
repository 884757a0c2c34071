import McuPeripheral.Libmpsse.Discipline
import McuPeripheral.Linuxdev.Descriptors
import McuPeripheral.Pigpiod.Executions

/-!
# Opening an I2C device, in all three backends

The contract of `mcupr_i2c_open` is stated once, over what a client sees of a backend:
which device an open obtained, which device the calls of a transfer go to, and which
handles are held. Each backend is an instance of it.
-/

namespace McuPeripheral

open Calls

/-- A backend as seen by a client that opens an I2C device. -/
structure I2cBackend where
  /-- The external calls. -/
  Call : Type
  /-- Their replies. -/
  Reply : Call → Type
  /-- The bus objects. -/
  Bus : Type
  /-- What a device is on the far side of the external calls. -/
  Device : Type
  /-- Devices can be told apart. -/
  decEq : DecidableEq Device
  /-- The bus is usable: neither it nor what it points to is missing or closed. -/
  live : Option Bus → Prop
  /-- `mcupr_i2c_open`, with the old content of the output pointer. -/
  i2cOpen : Option Bus → Int32 → Int32 → Prog Call Reply (McuprResult × Int32)
  /-- `mcupr_i2c_read`. -/
  i2cRead : Option Bus → Int32 → UInt32 → Prog Call Reply (Int32 × List UInt8)
  /-- `mcupr_i2c_write`. -/
  i2cWrite : Option Bus → Int32 → List UInt8 → UInt32 → Prog Call Reply Int32
  /-- `mcupr_i2c_close`. -/
  i2cClose : Option Bus → Int32 → Prog Call Reply Unit
  /-- The device that the calls of an open of this address obtained, if they did. -/
  obtained : Option Bus → Int32 → List (Event Call Reply) → Option Device
  /-- The calls of a transfer go to this device, and to no other. -/
  actsOn : List (Event Call Reply) → Device → Prop
  /-- The handles that are handed out and given back. -/
  handles : Ledger Call Reply Device

namespace I2cBackend

instance (B : I2cBackend) : DecidableEq B.Device := B.decEq

/-- One execution of `mcupr_i2c_open` on a live bus. -/
structure Opening (B : I2cBackend) where
  /-- The bus. -/
  bus : Option B.Bus
  /-- The old content of the output pointer. -/
  dev : Int32
  /-- The address. -/
  addr : Int32
  /-- The external calls that were made. -/
  trace : List (Event B.Call B.Reply)
  /-- The value returned. -/
  result : McuprResult
  /-- The new content of the output pointer. -/
  dev' : Int32
  /-- The bus is live. -/
  live : B.live bus
  /-- The function has this execution. -/
  performed : (B.i2cOpen bus dev addr).Path trace (result, dev')

/-- The handle stands for the device: every read and every write acts on it, and a close
gives back what is held for it, and nothing else. -/
structure StandsFor (B : I2cBackend) (bus : Option B.Bus) (dev : Int32) (held : Multiset B.Device)
    (d : B.Device) : Prop where
  /-- Reads act on the device. -/
  read : ∀ size tr r, (B.i2cRead bus dev size).Path tr r → B.actsOn tr d
  /-- Writes act on the device. -/
  write : ∀ data size tr r, (B.i2cWrite bus dev data size).Path tr r → B.actsOn tr d
  /-- A close gives back what is held. -/
  close : ∀ tr u, (B.i2cClose bus dev).Path tr u → B.handles.Moves held tr 0

variable {B : I2cBackend}

/-- What the open left held. -/
def Opening.held (o : B.Opening) : Multiset B.Device := B.handles.after 0 o.trace

/-- The contract of `mcupr_i2c_open`. -/
structure Opening.Sound (o : B.Opening) : Prop where
  /-- Success is reported if and only if a device was obtained. -/
  ok_iff : o.result = .ok ↔ (B.obtained o.bus o.addr o.trace).isSome
  /-- The handle of a device that was obtained is not negative and stands for it. -/
  usable : ∀ d, B.obtained o.bus o.addr o.trace = some d →
    0 ≤ o.dev' ∧ B.StandsFor o.bus o.dev' o.held d
  /-- Otherwise the result is negative, the output is unchanged and nothing stays open. -/
  refused : B.obtained o.bus o.addr o.trace = none →
    o.result.code < 0 ∧ o.dev' = o.dev ∧ o.held = 0

variable {o : B.Opening}

/-- What an open left held is what its calls moved to the client. -/
theorem Opening.held_eq {own : Multiset B.Device} (h : B.handles.Moves 0 o.trace own) :
    o.held = own := by
  have hafter := h.after_eq 0
  rwa [zero_add] at hafter

/-- An open that fails, stores nothing and keeps nothing keeps the contract if no device
was obtained. -/
theorem Opening.Sound.of_refused (hresult : o.result ≠ .ok) (hdev : o.dev' = o.dev)
    (hmoves : B.handles.Moves 0 o.trace 0) (hnone : B.obtained o.bus o.addr o.trace = none) :
    o.Sound where
  ok_iff := by simp [hresult, hnone]
  usable d hd := by
    rw [hnone] at hd
    cases hd
  refused _ := ⟨(McuprResult.code_neg_iff _).mpr hresult, hdev, held_eq hmoves⟩

/-- An open that succeeds keeps the contract if its handle stands for the device that was
obtained. -/
theorem Opening.Sound.of_granted {d : B.Device} {own : Multiset B.Device}
    (hresult : o.result = .ok) (hsome : B.obtained o.bus o.addr o.trace = some d)
    (hdev : 0 ≤ o.dev') (hmoves : B.handles.Moves 0 o.trace own)
    (hstands : B.StandsFor o.bus o.dev' own d) : o.Sound where
  ok_iff := by simp [hresult, hsome]
  usable d' hd' := by
    obtain rfl : d = d' := Option.some.inj (hsome.symm.trans hd')
    rw [held_eq hmoves]
    exact ⟨hdev, hstands⟩
  refused hnone := by
    rw [hsome] at hnone
    cases hnone

end I2cBackend

open I2cBackend

/-! ## Linux devices -/

namespace Linuxdev

/-- The descriptor of the bus's device file, once the slave address is set on it. -/
def obtainedFd (bus : Option I2cBus) (addr : Int32) : List (Event Call Reply) → Option Int32
  | [⟨.open path .rdwr, fd⟩, ⟨.ioctl fd' (.i2cSlave a), ret⟩] =>
    if ¬fd < 0 ∧ ¬ret < 0 ∧ fd' = fd ∧ a = addr ∧
      some path = (bus.bind McuprI2cBus.data).map (fun priv => i2cPath priv.busnum) then some fd
    else none
  | _ => none

/-- The descriptors of the reads and the writes in a trace. -/
def transferFds (tr : List (Event Call Reply)) : List Int32 :=
  tr.filterMap fun
    | ⟨.read fd _, _⟩ | ⟨.write fd _, _⟩ => some fd
    | _ => none

/-- The Linux device backend. -/
@[reducible] def i2cBackend : I2cBackend where
  Call := Call
  Reply := Reply
  Bus := I2cBus
  Device := Int32
  decEq := inferInstance
  live := I2cLive
  i2cOpen := mcuprI2cOpen
  i2cRead := mcuprI2cRead
  i2cWrite := mcuprI2cWrite
  i2cClose := mcuprI2cClose
  obtained := obtainedFd
  actsOn tr fd := transferFds tr = [fd]
  handles := fdLedger

variable {self : Libc.Ptr} {priv : I2cData} {fd : Int32}

/-- A descriptor that is not negative stands for itself. -/
theorem standsFor_fd (hfd : ¬fd < 0) :
    i2cBackend.StandsFor (some ⟨self, some priv⟩) fd {fd} fd := by
  refine ⟨?_, ?_, ?_⟩
  · intro size tr r hread
    change (mcuprI2cRead (some ⟨self, some priv⟩) fd size).Path tr r at hread
    obtain ⟨hneg, -⟩ | ⟨ret, -, -, rfl⟩ := mcuprI2cRead_path.mp hread
    · exact absurd hneg hfd
    · rfl
  · intro data size tr r hwrite
    change (mcuprI2cWrite (some ⟨self, some priv⟩) fd data size).Path tr r at hwrite
    obtain ⟨hneg, -⟩ | ⟨ret, -, -, rfl⟩ := mcuprI2cWrite_path.mp hwrite
    · exact absurd hneg hfd
    · rfl
  · intro tr u hclose
    change (mcuprI2cClose (some ⟨self, some priv⟩) fd).Path tr u at hclose
    obtain ⟨hneg, -⟩ | ⟨c, -, rfl⟩ := mcuprI2cClose_path.mp hclose
    · exact absurd (Int32.not_lt.mp hfd) hneg
    · exact moves_close .nil

/-- The Linux device backend keeps the contract, whatever its system calls answer. -/
theorem opening_sound (o : i2cBackend.Opening) : o.Sound := by
  obtain ⟨bus, dev, addr, tr, r, dev', ⟨self, priv, rfl⟩, hpath⟩ := o
  change (mcuprI2cOpen (some ⟨self, some priv⟩) dev addr).Path tr (r, dev') at hpath
  obtain ⟨fd, hfd, rfl, rfl, rfl⟩ | ⟨fd, ret, c, hfd, hret, rfl, rfl, rfl⟩ |
    ⟨fd, ret, hfd, hret, rfl, rfl, rfl⟩ := mcuprI2cOpen_path.mp hpath
  · exact .of_refused nofun rfl (moves_refused hfd .nil) rfl
  · exact .of_refused nofun rfl (moves_open hfd (.neutral rfl rfl (moves_close .nil))) rfl
  · have hobtained : obtainedFd (some ⟨self, some priv⟩) addr
        [⟨.open (i2cPath priv.busnum) .rdwr, dev'⟩, ⟨.ioctl dev' (.i2cSlave addr), ret⟩] =
          some dev' := by
      simp [obtainedFd, hfd, hret]
    have hmoves : fdLedger.Moves 0 [⟨.open (i2cPath priv.busnum) .rdwr, dev'⟩,
        ⟨.ioctl dev' (.i2cSlave addr), ret⟩] {dev'} := moves_open hfd (.neutral rfl rfl .nil)
    exact .of_granted rfl hobtained (Int32.not_lt.mp hfd) hmoves (standsFor_fd hfd)

end Linuxdev

/-! ## libmpsse -/

namespace Libmpsse

/-- The bus is there with its adapter, and the adapter is open. -/
def I2cLive (bus : Option I2cBus) : Prop :=
  ∃ self ctx, bus = some ⟨self, some ⟨some ctx⟩⟩ ∧ ctx.isOpen = true

/-- A slave on the bus of an adapter. -/
structure Slave where
  /-- The adapter. -/
  ctx : ℕ
  /-- The 7-bit address. -/
  addr : ℕ
  deriving DecidableEq, Repr

/-- The slave with this address, if it is a 7-bit address. An open makes no calls. -/
def obtainedSlave (bus : Option I2cBus) (addr : Int32) : Option Slave :=
  if 0 ≤ addr.toInt ∧ addr.toInt ≤ 127 then
    ((bus.bind McuprI2cBus.data).bind LibmpsseData.mpsse).map fun ctx => ⟨ctx.id, addr.toInt.toNat⟩
  else none

/-- The libmpsse backend. It holds nothing for a device. -/
@[reducible] def i2cBackend : I2cBackend where
  Call := Call
  Reply := Reply
  Bus := I2cBus
  Device := Slave
  decEq := inferInstance
  live := I2cLive
  i2cOpen := mcuprI2cOpen
  i2cRead := mcuprI2cRead
  i2cWrite := mcuprI2cWrite
  i2cClose := mcuprI2cClose
  obtained bus addr _ := obtainedSlave bus addr
  actsOn tr slave := ∃ first : UInt8, first.toNat / 2 = slave.addr ∧ OneFrame slave.ctx first tr
  handles := ⟨fun _ => 0, fun _ => 0⟩

/-- The address check of the source accepts the 7-bit addresses. -/
theorem validAddr_iff {addr : Int32} :
    validAddr addr = true ↔ 0 ≤ addr.toInt ∧ addr.toInt ≤ 127 := by
  simp only [validAddr, decide_eq_true_eq, Int32.le_iff_toInt_le]
  exact Iff.rfl

/-- The first byte of a transfer is the address and one bit behind it. -/
theorem address_of_first : ∀ a < 128, (UInt8.ofNat (2 * a)).toNat / 2 = a ∧
    (UInt8.ofNat (2 * a + 1)).toNat / 2 = a := by decide

/-- The handle of a 7-bit address stands for the slave with that address. -/
theorem standsFor_handleOf {self : Libc.Ptr} {ctx : MpsseContext} (hopen : ctx.isOpen = true)
    {a : ℕ} (ha : a ≤ 127) :
    i2cBackend.StandsFor (some ⟨self, some ⟨some ctx⟩⟩) (handleOf a) 0 ⟨ctx.id, a⟩ := by
  have hguard : validHandle (handleOf a) = true := validHandle_handleOf a (by omega)
  refine ⟨?_, ?_, ?_⟩
  · intro size tr r hread
    obtain ⟨p, rfl, -⟩ := (mcuprI2cRead_path self hopen hguard).mp hread
    refine ⟨_, ?_, oneFrame_readTrace p⟩
    rw [toByte_read a (by omega)]
    exact address_of_first a (by omega) |>.2
  · intro data size tr r hwrite
    obtain ⟨p, rfl, -⟩ := (mcuprI2cWrite_path self hopen hguard).mp hwrite
    refine ⟨_, ?_, oneFrame_writeTrace p⟩
    rw [toByte_write a (by omega)]
    exact address_of_first a (by omega) |>.1
  · intro tr u hclose
    obtain rfl : tr = [] := hclose.1
    exact .nil

/-- The libmpsse backend keeps the contract. -/
theorem opening_sound (o : i2cBackend.Opening) : o.Sound := by
  obtain ⟨bus, dev, addr, tr, r, dev', ⟨self, ctx, rfl, hopen⟩, hpath⟩ := o
  obtain ⟨rfl, ⟨hinvalid, rfl, rfl⟩ | ⟨hvalid, rfl, rfl⟩⟩ := (mcuprI2cOpen_path self hopen).mp hpath
  · have hrange : ¬(0 ≤ addr.toInt ∧ addr.toInt ≤ 127) := by
      rw [← validAddr_iff, hinvalid]
      decide
    exact .of_refused nofun rfl .nil (if_neg hrange)
  · obtain ⟨a, ha, haddr, hshift⟩ := shift_of_validAddr hvalid
    have hobtained : obtainedSlave (some ⟨self, some ⟨some ctx⟩⟩) addr = some ⟨ctx.id, a⟩ := by
      simp [obtainedSlave, haddr, ha]
    have hnonneg : (0 : Int32) ≤ addr <<< (1 : Int32) := by
      rw [hshift, Int32.le_iff_toInt_le, toInt_handleOf ha, Int32.toInt_zero]
      omega
    have hstands : i2cBackend.StandsFor (some ⟨self, some ⟨some ctx⟩⟩) (addr <<< (1 : Int32)) 0
        ⟨ctx.id, a⟩ := by
      rw [hshift]
      exact standsFor_handleOf hopen ha
    exact .of_granted rfl hobtained hnonneg .nil hstands

end Libmpsse

/-! ## pigpio -/

namespace Pigpiod

/-- The bus and its private data are there. -/
def I2cLive (bus : Option I2cBus) : Prop := ∃ self priv, bus = some ⟨self, some priv⟩

/-- A device opened by the daemon. -/
structure DaemonHandle where
  /-- The connection to the daemon. -/
  pi : Int32
  /-- The daemon's handle. -/
  handle : UInt32
  deriving DecidableEq, Repr

/-- The device of the bus that the daemon opened at this address. -/
def obtainedHandle (bus : Option I2cBus) (addr : Int32) :
    List (Event Call Reply) → Option DaemonHandle
  | [⟨.i2cOpen pi busnum a _, handle⟩] =>
    if 0 ≤ handle ∧ a = addr.toUInt32 ∧
      some (pi, busnum) =
        (bus.bind McuprI2cBus.data).map (fun priv => (priv.pi, priv.busnum.toUInt32)) then
      some ⟨pi, handle.toUInt32⟩
    else none
  | _ => none

/-- The devices of the transfers in a trace. -/
def transferHandles (tr : List (Event Call Reply)) : List DaemonHandle :=
  tr.filterMap fun
    | ⟨.i2cReadDevice pi handle _, _⟩ | ⟨.i2cWriteDevice pi handle _ _, _⟩ => some ⟨pi, handle⟩
    | _ => none

/-- The devices the daemon opened and closed. -/
def daemonLedger : Ledger Call Reply DaemonHandle where
  acquired
    | ⟨.i2cOpen pi _ _ _, handle⟩ => if handle < 0 then 0 else {⟨pi, handle.toUInt32⟩}
    | _ => 0
  returned
    | ⟨.i2cClose pi handle, _⟩ => {⟨pi, handle⟩}
    | _ => 0

/-- The pigpio backend. -/
@[reducible] def i2cBackend : I2cBackend where
  Call := Call
  Reply := Reply
  Bus := I2cBus
  Device := DaemonHandle
  decEq := inferInstance
  live := I2cLive
  i2cOpen := mcuprI2cOpen
  i2cRead := mcuprI2cRead
  i2cWrite := mcuprI2cWrite
  i2cClose := mcuprI2cClose
  obtained := obtainedHandle
  actsOn tr device := transferHandles tr = [device]
  handles := daemonLedger

/-- The daemon did not refuse to open a device. -/
def Accepted (tr : List (Event Call Reply)) : Prop :=
  ∀ pi busnum addr flags handle, ⟨.i2cOpen pi busnum addr flags, handle⟩ ∈ tr → 0 ≤ handle

/-- A handle of the daemon stands for itself. -/
theorem standsFor_handle {self : Libc.Ptr} {priv : PigpiodI2cData} {dev : Int32} :
    i2cBackend.StandsFor (some ⟨self, some priv⟩) dev {⟨priv.pi, dev.toUInt32⟩}
      ⟨priv.pi, dev.toUInt32⟩ := by
  refine ⟨?_, ?_, ?_⟩
  · intro size tr r hread
    change (mcuprI2cRead (some ⟨self, some priv⟩) dev size).Path tr r at hread
    obtain rfl := mcuprI2cRead_path.mp hread
    rfl
  · intro data size tr r hwrite
    change (mcuprI2cWrite (some ⟨self, some priv⟩) dev data size).Path tr r at hwrite
    obtain rfl := mcuprI2cWrite_path.mp hwrite
    rfl
  · intro tr u hclose
    change (mcuprI2cClose (some ⟨self, some priv⟩) dev).Path tr u at hclose
    obtain ⟨c, rfl⟩ := mcuprI2cClose_path.mp hclose
    exact .giveBackAll rfl rfl .nil

/-- The pigpio backend keeps the contract exactly where the daemon does not refuse. -/
theorem opening_sound_iff (o : i2cBackend.Opening) : o.Sound ↔ Accepted o.trace := by
  obtain ⟨bus, dev, addr, tr, r, dev', ⟨self, priv, rfl⟩, hpath⟩ := o
  change (mcuprI2cOpen (some ⟨self, some priv⟩) dev addr).Path tr (r, dev') at hpath
  obtain ⟨rfl, rfl⟩ := mcuprI2cOpen_path.mp hpath
  constructor
  · intro hsound pi busnum a flags handle hmem
    -- the result is OK, so a device was obtained, and only a handle counts as one
    have hsome := hsound.ok_iff.mp rfl
    cases List.mem_singleton.mp hmem
    by_contra hrefused
    have hnone : obtainedHandle (some ⟨self, some priv⟩) addr
        [⟨.i2cOpen priv.pi priv.busnum.toUInt32 addr.toUInt32 0, dev'⟩] = none := by
      simp [obtainedHandle, Int32.not_le.mp hrefused]
    simp [hnone] at hsome
  · intro haccepted
    have hnonneg : 0 ≤ dev' := haccepted _ _ _ _ _ (List.mem_singleton_self _)
    have hobtained : obtainedHandle (some ⟨self, some priv⟩) addr
        [⟨.i2cOpen priv.pi priv.busnum.toUInt32 addr.toUInt32 0, dev'⟩] =
          some ⟨priv.pi, dev'.toUInt32⟩ := by
      simp [obtainedHandle, hnonneg]
    have hmoves : daemonLedger.Moves 0
        [⟨.i2cOpen priv.pi priv.busnum.toUInt32 addr.toUInt32 0, dev'⟩]
        {⟨priv.pi, dev'.toUInt32⟩} :=
      .acquireFirst rfl (if_neg (Int32.not_lt.mpr hnonneg)) .nil
    exact .of_granted rfl hobtained hnonneg hmoves standsFor_handle

end Pigpiod

/-- An open in one of the backends. -/
inductive AnyOpening
  | linuxdev (o : Linuxdev.i2cBackend.Opening)
  | libmpsse (o : Libmpsse.i2cBackend.Opening)
  | pigpiod (o : Pigpiod.i2cBackend.Opening)

/-- The contract, the same in all backends. -/
def AnyOpening.Sound : AnyOpening → Prop
  | .linuxdev o => o.Sound
  | .libmpsse o => o.Sound
  | .pigpiod o => o.Sound

/-- The open was not one that the pigpio daemon refused. -/
def AnyOpening.Accepted : AnyOpening → Prop
  | .linuxdev _ | .libmpsse _ => True
  | .pigpiod o => Pigpiod.Accepted o.trace

/-- **Opening an I2C device.** An open keeps the contract if and only if it is not one that the
pigpio daemon refused: through Linux and through libmpsse always. -/
theorem i2c_open_contract_iff (o : AnyOpening) : o.Sound ↔ o.Accepted := by
  cases o with
  | linuxdev o => exact iff_of_true (Linuxdev.opening_sound o) trivial
  | libmpsse o => exact iff_of_true (Libmpsse.opening_sound o) trivial
  | pigpiod o => exact Pigpiod.opening_sound_iff o

/-- The daemon refuses to open a device on a live bus, and the open reports success. -/
theorem exists_refused_open_ok : ∃ o : Pigpiod.i2cBackend.Opening,
    o.trace = [⟨.i2cOpen 0 1 0x39 0, -24⟩] ∧ o.dev = -1 ∧ o.result = .ok ∧ o.dev' = -24 ∧
      ¬(AnyOpening.pigpiod o).Sound := by
  have hpath : (Pigpiod.mcuprI2cOpen (some ⟨⟨0, 0⟩, some ⟨0, 1⟩⟩) (-1) 0x39).Path
      [⟨.i2cOpen 0 1 0x39 0, -24⟩] (.ok, -24) :=
    Pigpiod.mcuprI2cOpen_path.mpr ⟨rfl, rfl⟩
  let o : Pigpiod.i2cBackend.Opening :=
    ⟨some ⟨⟨0, 0⟩, some ⟨0, 1⟩⟩, -1, 0x39, _, _, _, ⟨_, _, rfl⟩, hpath⟩
  refine ⟨o, rfl, rfl, rfl, rfl, fun hsound => ?_⟩
  have hsome : (Pigpiod.obtainedHandle (some ⟨⟨0, 0⟩, some ⟨0, 1⟩⟩) 0x39
      [⟨.i2cOpen 0 1 0x39 0, -24⟩]).isSome := hsound.ok_iff.mp rfl
  exact absurd hsome (by decide)

end McuPeripheral
