import McuPeripheral.Backends.Slaves
import McuPeripheral.Linuxdev.Devices

/-!
# A slave behind the Linux kernel

The slave with some address on the bus behind some device file. A `write` or a `read` reaches
it if the descriptor is open on that file and its address was selected. What `write` counts
the slave has taken; where it fails the slave may have taken a part.
-/

namespace McuPeripheral.Linuxdev

open Calls Libc

variable {τ : Type}

/-- A kernel and the slave. -/
structure Attached (τ : Type) where
  /-- The kernel. -/
  kernel : Kernel
  /-- The slave. -/
  slave : τ

/-- The descriptor leads to the slave with this address on the bus with this file. -/
def Leads (path : List Char) (address : Int32) (k : Kernel) (fd : Int32) : Prop :=
  ∃ f, k.files fd = some f ∧ f.path = path ∧ f.slave = some address

/-- What a call does to the slave. -/
def attachedSlaveStep (S : I2c.Slave τ) (path : List Char) (address : Int32) (k : Kernel) :
    τ → Event Call Reply → τ → Prop
  | t, ⟨.write fd data, n⟩, t' =>
    (¬Leads path address k fd → t' = t) ∧
    (Leads path address k fd → (n < 0 → Reached S t data t') ∧
      (¬n < 0 → t' = S.receives t (data.take n.toInt.toNat)))
  | t, ⟨.read fd count, buf⟩, t' =>
    (¬Leads path address k fd → t' = t) ∧
    (Leads path address k fd → ∃ m ≤ count.toNat, t' = S.given m t ∧
      ∀ data, buf = some data → data.length = m ∧ data = S.gives m t)
  | t, _, t' => t' = t

/-- The kernel with the slave attached. -/
def attached (board : Board) (S : I2c.Slave τ) (path : List Char) (address : Int32) :
    Env Call Reply (Attached τ) :=
  ⟨fun s e s' => kernelStep board s.kernel e s'.kernel ∧
    attachedSlaveStep S path address s.kernel s.slave e s'.slave⟩

instance {path : List Char} {address : Int32} {k : Kernel} {fd : Int32} :
    Decidable (Leads path address k fd) :=
  decidable_of_iff ((k.files fd).any fun f => f.path = path ∧ f.slave = some address) (by
    simp [Leads, Option.any_eq_true])

/-- A call that does not fail, and transfers as many bytes as it was asked for. -/
def Complete : Event Call Reply → Prop
  | ⟨.write _ data, n⟩ => n.toInt = data.length
  | ⟨.read _ count, buf⟩ => ∃ data, buf = some data ∧ data.length = count.toNat
  | e => ¬Failed e

instance : DecidablePred Complete
  | ⟨.write _ data, n⟩ => inferInstanceAs (Decidable (n.toInt = data.length))
  | ⟨.read _ count, buf⟩ =>
    decidable_of_iff (buf.any fun data => data.length = count.toNat) (by
      simp [Complete, Option.any_eq_true])
  | ⟨.open path flag, fd⟩ => inferInstanceAs (Decidable ¬Failed ⟨.open path flag, fd⟩)
  | ⟨.ioctl fd request, ret⟩ => inferInstanceAs (Decidable ¬Failed ⟨.ioctl fd request, ret⟩)
  | ⟨.ioctlMessage fd tx length, ret⟩ =>
    inferInstanceAs (Decidable ¬Failed ⟨.ioctlMessage fd tx length, ret⟩)
  | ⟨.stat path, st⟩ => inferInstanceAs (Decidable ¬Failed ⟨.stat path, st⟩)
  | ⟨.close fd, c⟩ => inferInstanceAs (Decidable ¬Failed ⟨.close fd, c⟩)
  | ⟨.libc c, r⟩ => inferInstanceAs (Decidable ¬Failed ⟨.libc c, r⟩)

section Transfers

variable {board : Board} {S : I2c.Slave τ} {path : List Char} {address : Int32}
  {s s' : Attached τ} {fd : Int32}

/-- A `write` on a descriptor that leads to the slave. -/
theorem attached_write {data : List UInt8} {n : Int64} (hleads : Leads path address s.kernel fd)
    (hrun : (attached board S path address).Run s [⟨.write fd data, n⟩] s') :
    s'.kernel.files = s.kernel.files ∧ Reached S s.slave data s'.slave ∧
      (n.toInt = data.length → s'.slave = S.receives s.slave data) := by
  obtain ⟨_, ⟨hkernel, -, hslave⟩, rfl⟩ := hrun
  obtain ⟨hfailed, hwritten⟩ := hslave hleads
  have hcount : n < 0 ↔ n.toInt < 0 := by
    rw [Int64.lt_iff_toInt_lt, Int64.toInt_zero]
  refine ⟨?_, ?_, fun hall => ?_⟩
  · obtain ⟨-, h⟩ | ⟨-, -, _, _, -, -, h⟩ := hkernel <;> rw [h]
  · by_cases hn : n < 0
    · exact hfailed hn
    · obtain ⟨hneg, -⟩ | ⟨-, hlength, -⟩ := hkernel
      · exact absurd hneg hn
      · exact Or.inr ⟨n.toInt.toNat, by omega, hwritten hn⟩
  · have hn : ¬n < 0 := fun h => by
      have hneg := hcount.mp h
      omega
    rw [hwritten hn, hall, Int.toNat_natCast, List.take_length]

/-- A `read` on a descriptor that leads to the slave. -/
theorem attached_read {count : UInt64} {buf : Option (List UInt8)}
    (hleads : Leads path address s.kernel fd)
    (hrun : (attached board S path address).Run s [⟨.read fd count, buf⟩] s') :
    s'.kernel = s.kernel ∧ ∃ m ≤ count.toNat, s'.slave = S.given m s.slave ∧
      ∀ data, buf = some data → data.length = m ∧ data = S.gives m s.slave := by
  obtain ⟨_, ⟨⟨hkernel, -⟩, -, hslave⟩, rfl⟩ := hrun
  exact ⟨hkernel, hslave hleads⟩

/-- Only a `write` and a `read` transfer bytes. -/
def Transfers : Event Call Reply → Prop
  | ⟨.write .., _⟩ | ⟨.read .., _⟩ => True
  | _ => False

/-- Calls that transfer nothing leave the slave as it is. -/
theorem attached_slave {tr : List (Event Call Reply)} (hnone : ∀ e ∈ tr, ¬Transfers e)
    (hrun : (attached board S path address).Run s tr s') : s'.slave = s.slave := by
  induction tr generalizing s with
  | nil => rw [Env.run_nil.mp hrun]
  | cons e tr ih =>
    obtain ⟨s₁, ⟨-, hslave⟩, hrest⟩ := hrun
    rw [ih (fun e he => hnone e (List.mem_cons_of_mem _ he)) hrest]
    have hne := hnone e List.mem_cons_self
    obtain ⟨call, reply⟩ := e
    cases call with
    | write | read => exact absurd trivial hne
    | _ => exact hslave

/-- A descriptor that was just opened and for which the address was selected leads to the
slave. -/
theorem attached_opened {flag : OpenFlag} {ret : Int32} (hfd : ¬fd < 0) (hret : ¬ret < 0)
    (hrun : (attached board S path address).Run s
      [⟨.open path flag, fd⟩, ⟨.ioctl fd (.i2cSlave address), ret⟩] s') :
    Leads path address s'.kernel fd := by
  obtain ⟨s₁, ⟨hopen, -⟩, s₂, ⟨hioctl, -⟩, rfl⟩ := hrun
  obtain ⟨-, -, -, hopened⟩ := hopen.resolve_left fun h => hfd h.1
  obtain ⟨-, f, hf, hconfigured⟩ := hioctl.resolve_left fun h => hret h.1
  obtain rfl : OpenFile.fresh path = f := by
    rw [hopened, Kernel.opened_files_self] at hf
    exact Option.some.inj hf
  exact ⟨_, by rw [hconfigured, Kernel.configured_files_self], rfl, rfl⟩

end Transfers

/-! ## A device that answers every call -/

section Answers

variable {board : Board} {S : I2c.Slave τ} {path : List Char} {address : Int32} {k : Kernel} {t : τ}
  {fd : Int32}

/-- A `write` that leads to the slave can be made in full. -/
theorem attached_write_step {data : List UInt8} {n : Int64} (hpath : ¬ControlsPins path)
    (hleads : Leads path address k fd) (hn : n.toInt = data.length) :
    (attached board S path address).step ⟨k, t⟩ ⟨.write fd data, n⟩ ⟨k, S.receives t data⟩ := by
  have hcount : ¬n < 0 := by
    rw [Int64.lt_iff_toInt_lt, hn, Int64.toInt_zero]
    omega
  obtain ⟨f, hf, rfl, hslave⟩ := id hleads
  refine ⟨Or.inr ⟨hcount, hn.le, f, _, hf, .device _ _ hpath, rfl⟩, fun h => absurd hleads h,
    fun _ => ⟨fun h => absurd h hcount, fun _ => ?_⟩⟩
  rw [hn, Int.toNat_natCast, List.take_length]

/-- So can a `read`. -/
theorem attached_read_step {count : UInt64} (hpath : ¬ControlsPins path)
    (hleads : Leads path address k fd) :
    (attached board S path address).step ⟨k, t⟩
      ⟨.read fd count, some (S.gives count.toNat t)⟩ ⟨k, S.given count.toNat t⟩ := by
  obtain ⟨f, hf, rfl, hslave⟩ := id hleads
  refine ⟨⟨rfl, fun data hdata => ?_⟩, fun h => absurd hleads h,
    fun _ => ⟨count.toNat, le_rfl, rfl, fun data hdata => ?_⟩⟩
  · obtain rfl := Option.some.inj hdata
    exact ⟨(S.length_gives _ _).le, f, hf, fun pin p hvalue => absurd
      (Or.inr (Or.inr ⟨pin, Or.inr hvalue⟩)) hpath⟩
  · obtain rfl := Option.some.inj hdata
    exact ⟨S.length_gives _ _, rfl⟩

end Answers

/-- A process with a device, the slave behind it. What leads to the slave is transferred in full. -/
def DeviceHost.attached (host : DeviceHost) (board : Board) (S : I2c.Slave τ) (address : Int32) :
    Responder (attached board S host.path address) where
  answer
    | s, .write fd data =>
      if Leads host.path address s.kernel fd ∧ data.length < 2 ^ 63 then
        Int64.ofNat data.length
      else -1
    | s, .read fd count =>
      if Leads host.path address s.kernel fd then some (S.gives count.toNat s.slave) else none
    | s, c => host.reply s.kernel c
  next
    | s, .write fd data =>
      if Leads host.path address s.kernel fd ∧ data.length < 2 ^ 63 then
        ⟨s.kernel, S.receives s.slave data⟩
      else s
    | s, .read fd count =>
      if Leads host.path address s.kernel fd then ⟨s.kernel, S.given count.toNat s.slave⟩ else s
    | s, c => ⟨host.next s.kernel c, s.slave⟩
  permitted := by
    intro s c
    have hpath : ¬ControlsPins host.path := by
      obtain ⟨rest, hrest⟩ := host.isDevice
      rw [hrest]
      exact not_controlsPins_device rest
    cases c with
    | write fd data =>
      by_cases h : Leads host.path address s.kernel fd ∧ data.length < 2 ^ 63
      · simp only [if_pos h]
        exact attached_write_step hpath h.1 (Int64.toInt_ofNat_of_lt h.2)
      · have hfailed : (-1 : Int64) < 0 := by decide
        simp only [if_neg h]
        exact ⟨Or.inl ⟨hfailed, rfl⟩, fun _ => rfl,
          fun _ => ⟨fun _ => Or.inl rfl, fun hn => absurd hfailed hn⟩⟩
    | read fd count =>
      by_cases h : Leads host.path address s.kernel fd
      · simp only [if_pos h]
        exact attached_read_step hpath h
      · simp only [if_neg h]
        exact ⟨⟨rfl, nofun⟩, fun _ => rfl, fun hleads => absurd hleads h⟩
    | _ => exact ⟨host.permitted board s.kernel _, rfl⟩

/-- A handle that is not negative and leads to the slave. -/
@[reducible] def slaveLink (board : Board) (S : I2c.Slave τ) (self : Libc.Ptr) (priv : I2cData)
    (dev address : Int32) (hdev : ¬dev < 0) : I2cLink S where
  backend := i2cBackend
  State := Attached τ
  env := attached board S (i2cPath priv.busnum) address
  bus := some ⟨self, some priv⟩
  dev := dev
  slave := Attached.slave
  Ready s := Leads (i2cPath priv.busnum) address s.kernel dev
  Smooth := Complete
  write := by
    intro data size tr n s s' hready hpath hrun
    change (mcuprI2cWrite (some ⟨self, some priv⟩) dev data size).Path tr n at hpath
    obtain ⟨hneg, -⟩ | ⟨ret, -, -, rfl⟩ := mcuprI2cWrite_path.mp hpath
    · exact absurd hneg hdev
    · obtain ⟨hfiles, hreached, hall⟩ := attached_write hready hrun
      refine ⟨?_, hreached, fun hsmooth => hall (hsmooth _ List.mem_cons_self)⟩
      unfold Leads
      rwa [hfiles]
  read := by
    intro size tr n data s s' hsize hready hpath hrun
    change (mcuprI2cRead (some ⟨self, some priv⟩) dev size).Path tr (n, data) at hpath
    obtain ⟨hneg, -⟩ | ⟨ret, -, hresult, rfl⟩ := mcuprI2cRead_path.mp hpath
    · exact absurd hneg hdev
    · obtain ⟨hkernel, m, hm, hslave, hgiven⟩ := attached_read hready hrun
      have hcount : size.toUInt64.toNat = size.toNat := rfl
      rw [hcount] at hm
      refine ⟨by rwa [hkernel], ⟨m, hslave⟩, fun hn => ?_, fun hsmooth => ?_⟩
      · cases ret with
        | none =>
          have hcode : n = McuprResult.ioError.code := congrArg Prod.fst hresult
          have hneg : size.toInt32 < 0 := by
            rw [← hn, hcode]
            decide
          exact absurd hneg (toInt32_not_neg hsize)
        | some bytes =>
          obtain ⟨rfl, rfl⟩ := Prod.mk.inj hresult
          obtain ⟨hlength, hbytes⟩ := hgiven data rfl
          have hvalue := congrArg Int32.toInt hn
          rw [Int64.toInt32_ofNat', Int32.toInt_ofNat_of_lt (by omega),
            toInt_toInt32 hsize] at hvalue
          rwa [show m = size.toNat by omega] at hbytes
      · obtain ⟨bytes, rfl, hlength⟩ := hsmooth _ List.mem_cons_self
        obtain ⟨rfl, rfl⟩ := Prod.mk.inj hresult
        rw [hlength, hcount]
        refine Int32.toInt_inj.mp ?_
        rw [Int64.toInt32_ofNat', Int32.toInt_ofNat_of_lt hsize, toInt_toInt32 hsize]

end McuPeripheral.Linuxdev
