import McuPeripheral.Linuxdev.Descriptors
import McuPeripheral.Linuxdev.KernelDivision
import McuPeripheral.Linuxdev.PinLifetime

/-!
# Clients in several threads

A call is a sequence of system calls, and those of other threads may come in between. As long as
each thread has its own pins, and uses and closes only handles that it was given itself, none of
them notices: every thread makes the calls, gets the results and leaves its pins and its devices
as it could have done alone.
-/

namespace McuPeripheral.Linuxdev

open Calls Libc

variable {ι : Type}

/-- The client uses and closes only I2C and SPI handles that it holds, and makes GPIO calls on
pins of its own. -/
def ThreadDiscipline (owner : Int32 → Option ι) (i : ι) (h : List (Invocation Op.prog)) (o : Op) :
    Prop :=
  HandleDiscipline h o ∧ ∀ pin, o.pin = some pin → owner pin = some i

/-! ## What a call keeps to -/

section Guards

variable {owner : Int32 → Option ι} {i : ι} {board : Board} {k : Kernel} {path : List Char}
  {flag : OpenFlag} {fd c : Int32} {tr : List (Event Call Reply)}

/-- A file of the thread may be opened, and is open from then on. -/
theorem guards_open (hown : OwnFile owner i path)
    (hrest : ∀ k', ¬fd < 0 → k'.files fd = some (.fresh path) →
      (kernel board).Guards (KeepsToOwn owner i) k' tr) (hrefused : fd < 0 → tr = []) :
    (kernel board).Guards (KeepsToOwn owner i) k (⟨.open path flag, fd⟩ :: tr) := by
  refine ⟨hown, ?_⟩
  rintro k' (⟨hneg, -⟩ | ⟨hfd, -, -, rfl⟩)
  · rw [hrefused hneg]
    trivial
  · exact hrest _ hfd (k.opened_files_self fd path)

/-- A descriptor that is open may be closed. -/
theorem guards_close (hopen : (k.files fd).isSome) (hrest : ∀ k',
    (kernel board).Guards (KeepsToOwn owner i) k' tr) :
    (kernel board).Guards (KeepsToOwn owner i) k (⟨.close fd, c⟩ :: tr) :=
  ⟨hopen, fun k' _ => hrest k'⟩

/-- A file that is open may be written, and stays open. -/
theorem guards_write {f : OpenFile} {data : List UInt8} {n : Int64} (hopen : k.files fd = some f)
    (hexport : f.path = exportPath → ∃ pin, owner pin = some i ∧ data = bytes (decimal pin.toInt))
    (hrest : ∀ k', k'.files fd = some f → (kernel board).Guards (KeepsToOwn owner i) k' tr) :
    (kernel board).Guards (KeepsToOwn owner i) k (⟨.write fd data, n⟩ :: tr) := by
  refine ⟨⟨f, hopen, hexport⟩, ?_⟩
  rintro k' (⟨-, rfl⟩ | ⟨-, -, -, -, -, -, rfl⟩)
  · exact hrest _ hopen
  · exact hrest _ hopen

/-- A file that is open may be read, and stays open. -/
theorem guards_read {count : UInt64} {buf : Option (List UInt8)} (hopen : (k.files fd).isSome)
    (hrest : ∀ k', (k'.files fd).isSome → (kernel board).Guards (KeepsToOwn owner i) k' tr) :
    (kernel board).Guards (KeepsToOwn owner i) k (⟨.read fd count, buf⟩ :: tr) := by
  refine ⟨hopen, ?_⟩
  rintro k' ⟨rfl, -⟩
  exact hrest _ hopen

/-- A device that is open may be set up, and stays open. -/
theorem guards_ioctl {request : Ioctl} {ret : Int32} (hopen : (k.files fd).isSome)
    (hrest : ∀ k', (k'.files fd).isSome → (kernel board).Guards (KeepsToOwn owner i) k' tr) :
    (kernel board).Guards (KeepsToOwn owner i) k (⟨.ioctl fd request, ret⟩ :: tr) := by
  refine ⟨hopen, ?_⟩
  rintro k' (⟨-, rfl⟩ | ⟨-, f, -, rfl⟩)
  · exact hrest _ hopen
  · exact hrest _ (by simp)

/-- Writing an attribute of a pin keeps to it. -/
theorem guards_writeAttribute {text : List UInt8} {r : McuprResult} (hown : OwnFile owner i path)
    (hne : path ≠ exportPath) (hpath : (writeAttribute path text).Path tr r) :
    (kernel board).Guards (KeepsToOwn owner i) k tr := by
  obtain ⟨fd, hfd, rfl, -⟩ | ⟨fd, n, c, hfd, -, rfl⟩ := writeAttribute_path.mp hpath
  · exact guards_open hown (fun _ h _ => absurd hfd h) fun _ => rfl
  · refine guards_open hown (fun k₁ _ hopen => ?_) fun h => absurd h hfd
    refine guards_write hopen (fun h => absurd h hne) fun k₂ hopen => ?_
    exact guards_close (by rw [hopen]; rfl) fun _ => trivial

/-- Exporting a pin keeps to it. -/
theorem guards_export {pin : Int32} {r : McuprResult} (hpin : owner pin = some i)
    (hpath : (sysfsGpioExport pin).Path tr r) :
    (kernel board).Guards (KeepsToOwn owner i) k tr := by
  obtain ⟨fd, hfd, -, rfl⟩ | ⟨fd, n, c, st, hfd, -, rfl⟩ := sysfsGpioExport_path.mp hpath
  · exact guards_open .export (fun _ h _ => absurd hfd h) fun _ => rfl
  · refine guards_open .export (fun k₁ _ hopen => ?_) fun h => absurd h hfd
    refine guards_write hopen (fun _ => ⟨pin, hpin, rfl⟩) fun k₂ hopen => ?_
    exact guards_close (by rw [hopen]; rfl) fun k₃ => ⟨.gpio hpin, fun _ _ => trivial⟩

/-- Opening a pin keeps to it. -/
theorem guards_gpioOpen {dev pin : Int32} {mode : McuprGpioMode} {r : McuprResult × Int32}
    (hpin : owner pin = some i) (hpath : (mcuprGpioOpen dev pin mode).Path tr r) :
    (kernel board).Guards (KeepsToOwn owner i) k tr := by
  obtain ⟨r, dev'⟩ := r
  obtain ⟨-, -, hexport⟩ | ⟨tr₁, tr₂, rfl, -, hexport, hdir⟩ := mcuprGpioOpen_path.mp hpath
  · exact guards_export hpin hexport
  · refine Env.guards_append.mpr ⟨guards_export hpin hexport, fun k₁ _ => ?_⟩
    rw [sysfsGpioSetDir, snprintf_directionPath] at hdir
    exact guards_writeAttribute (.direction hpin) (gpioPath_append_ne pin _).1 hdir

/-- Reading a pin keeps to it. -/
theorem guards_gpioRead {stale : UInt8} {pin r : Int32} (hpin : owner pin = some i)
    (hpath : (sysfsGpioReadValue stale pin).Path tr r) :
    (kernel board).Guards (KeepsToOwn owner i) k tr := by
  obtain ⟨fd, hfd, -, rfl⟩ | ⟨fd, buf, c, hfd, -, rfl⟩ := sysfsGpioReadValue_path.mp hpath
  · exact guards_open (.value hpin) (fun _ h _ => absurd hfd h) fun _ => rfl
  · refine guards_open (.value hpin) (fun k₁ _ hopen => ?_) fun h => absurd h hfd
    refine guards_read (by rw [hopen]; rfl) fun k₂ hopen => ?_
    exact guards_close hopen fun _ => trivial

/-- Opening an I2C device keeps to the descriptor that it opens. -/
theorem guards_i2cOpen {bus : Option I2cBus} {dev addr : Int32} {r : McuprResult × Int32}
    (hlive : I2cLive bus) (hpath : (mcuprI2cOpen bus dev addr).Path tr r) :
    (kernel board).Guards (KeepsToOwn owner i) k tr := by
  obtain ⟨self, priv, rfl⟩ := hlive
  obtain ⟨r, dev'⟩ := r
  have hown : OwnFile owner i (i2cPath priv.busnum) := .device _
  obtain ⟨fd, hfd, -, -, rfl⟩ | ⟨fd, ret, c, hfd, -, -, -, rfl⟩ | ⟨fd, ret, hfd, -, -, -, rfl⟩ :=
    mcuprI2cOpen_path.mp hpath
  · exact guards_open hown (fun _ h _ => absurd hfd h) fun _ => rfl
  · refine guards_open hown (fun k₁ _ hopen => ?_) fun h => absurd h hfd
    refine guards_ioctl (by rw [hopen]; rfl) fun k₂ hopen => ?_
    exact guards_close hopen fun _ => trivial
  · refine guards_open hown (fun k₁ _ hopen => ?_) fun h => absurd h hfd
    exact guards_ioctl (by rw [hopen]; rfl) fun _ _ => trivial

/-- So does opening an SPI device. -/
theorem guards_spiOpen {bus : SpiBus} {dev csnum : Int32} {r : McuprResult × Int32}
    (hpath : (mcuprSpiOpen bus dev csnum).Path tr r) :
    (kernel board).Guards (KeepsToOwn owner i) k tr := by
  obtain ⟨r, dev'⟩ := r
  obtain ⟨tr₁, cs, tr₂, rfl, hcs, hopen⟩ := mcuprSpiOpen_path.mp hpath
  have hown : OwnFile owner i (snprintf 32 (spiPath bus.params.busnum cs)) := .device _
  refine Env.guards_append.mpr ⟨?_, fun k₁ _ => ?_⟩
  · obtain ⟨-, rfl, -⟩ | ⟨env, -, rfl, -⟩ := resolveCsnum_path.mp hcs
    · trivial
    · exact ⟨trivial, fun _ _ => trivial⟩
  obtain ⟨fd, hfd, -, -, rfl⟩ | ⟨fd, ret, c, hfd, -, -, -, rfl⟩ |
    ⟨fd, ret, ret', c, hfd, -, -, -, -, rfl⟩ | ⟨fd, ret, ret', hfd, -, -, -, -, rfl⟩ := hopen
  · exact guards_open hown (fun _ h _ => absurd hfd h) fun _ => rfl
  · refine guards_open hown (fun k₂ _ hopen => ?_) fun h => absurd h hfd
    refine guards_ioctl (by rw [hopen]; rfl) fun k₃ hopen => ?_
    exact guards_close hopen fun _ => trivial
  · refine guards_open hown (fun k₂ _ hopen => ?_) fun h => absurd h hfd
    refine guards_ioctl (by rw [hopen]; rfl) fun k₃ hopen => guards_ioctl hopen fun k₄ hopen => ?_
    exact guards_close hopen fun _ => trivial
  · refine guards_open hown (fun k₂ _ hopen => ?_) fun h => absurd h hfd
    refine guards_ioctl (by rw [hopen]; rfl) fun k₃ hopen => ?_
    exact guards_ioctl hopen fun _ _ => trivial

/-- Every call keeps to the pins and handles of its thread, while these are intact. -/
theorem guards_call {h : List (Invocation Op.prog)} {inv : Invocation Op.prog}
    (hpermits : ThreadDiscipline owner i h inv.op) (hintact : HandlesIntact (holding h) k)
    (hfiles : NoPinFiles k) : (kernel board).Guards (KeepsToOwn owner i) k inv.trace := by
  have hheld : ∀ fd, Held h fd → ∃ f, k.files fd = some f := by
    rintro fd ⟨x, hx, rfl⟩
    exact ⟨x.file, hintact.file x hx⟩
  obtain ⟨op, tr, r, hpath⟩ := inv
  obtain ⟨hhandles, hpins⟩ := hpermits
  cases op with
  | gpioOpen dev pin mode => exact guards_gpioOpen (hpins pin rfl) hpath
  | gpioClose dev =>
    obtain rfl : tr = [] := hpath.1
    trivial
  | gpioWrite dev value =>
    obtain ⟨r, hpath⟩ := mcuprGpioWrite_path.mp hpath
    rw [sysfsGpioWriteValue, snprintf_valuePath] at hpath
    exact guards_writeAttribute (.value (hpins dev rfl)) (gpioPath_append_ne dev _).1 hpath
  | gpioRead stale dev => exact guards_gpioRead (hpins dev rfl) hpath
  | i2cOpen bus dev addr => exact guards_i2cOpen hhandles hpath
  | i2cClose bus dev =>
    obtain ⟨⟨self, priv, rfl⟩, hdev⟩ := hhandles
    have hclose : (mcuprI2cClose (some ⟨self, some priv⟩) dev).Path tr r := hpath
    obtain ⟨-, rfl⟩ | ⟨c, -, rfl⟩ := mcuprI2cClose_path.mp hclose
    · trivial
    · exact guards_close (Option.isSome_iff_exists.mpr (hheld dev hdev)) fun _ => trivial
  | i2cWrite bus dev data size =>
    obtain ⟨⟨self, priv, rfl⟩, hdev⟩ := hhandles
    have hwrite : (mcuprI2cWrite (some ⟨self, some priv⟩) dev data size).Path tr r := hpath
    obtain ⟨-, -, rfl⟩ | ⟨ret, -, -, rfl⟩ := mcuprI2cWrite_path.mp hwrite
    · trivial
    · -- a handle is never the export file
      obtain ⟨f, hf⟩ := hheld dev hdev
      exact guards_write hf (fun h => absurd (Or.inl h) (hfiles dev f hf)) fun _ _ => trivial
  | i2cRead bus dev size =>
    obtain ⟨⟨self, priv, rfl⟩, hdev⟩ := hhandles
    have hread : (mcuprI2cRead (some ⟨self, some priv⟩) dev size).Path tr r := hpath
    obtain ⟨-, -, rfl⟩ | ⟨ret, -, -, rfl⟩ := mcuprI2cRead_path.mp hread
    · trivial
    · exact guards_read (Option.isSome_iff_exists.mpr (hheld dev hdev)) fun _ _ => trivial
  | spiOpen bus dev csnum => exact guards_spiOpen hpath
  | spiClose dev =>
    obtain ⟨c, rfl⟩ := mcuprSpiClose_path.mp hpath
    exact guards_close (Option.isSome_iff_exists.mpr (hheld dev hhandles)) fun _ => trivial
  | spiTransfer dev tx length =>
    obtain ⟨ret, -, rfl⟩ := mcuprSpiTransfer_path.mp hpath
    exact ⟨Option.isSome_iff_exists.mpr (hheld dev hhandles), fun _ _ => trivial⟩
  | _ => exact hhandles.elim

end Guards

/-! ## Threads -/

variable [DecidableEq ι]

/-- Threads that keep to pins and handles of their own, up to some point in some order of all
their system calls. -/
abbrev ClientThreads (env : Env Call Reply Kernel) (owner : Int32 → Option ι) (k₀ k : Kernel) :=
  Threads Op.prog env (ThreadDiscipline owner) k₀ k

/-- No descriptor of a kernel without descriptors stands for a file that acts on the pins. -/
theorem noPinFiles_unopened (k : Kernel) : NoPinFiles k.unopened := fun _ _ h => by cases h

section Threads

variable {board : Board} {owner : Int32 → Option ι} {k₀ k : Kernel} {i : ι}

/-- Alone in the kernel, every thread keeps to its pins and handles. -/
theorem guards_thread {env : Env Call Reply Kernel} (w : ClientThreads env owner k₀ k) (i : ι) :
    (kernel board).Guards (KeepsToOwn owner i) k₀.unopened (ownTrace i w.calls) := by
  refine w.guards fun pre inv t hsession hpermits => ?_
  have hintact := handlesIntact (hsession.mono fun _ _ h => h.1)
  exact guards_call hpermits hintact (pinHistory (noPinFiles_unopened k₀) hsession).files

/-- Alone in the kernel each thread has a run, and together these make up the shared kernel. -/
theorem solo_runs (w : ClientThreads (kernel board) owner k₀ k) :
    ∃ solo holder, (∀ i, (kernel board).Run k₀.unopened (ownTrace i w.calls) (solo i)) ∧
      DividedKernel owner k₀ k solo holder := by
  obtain ⟨solo, hruns, holder, hdivided⟩ := (kernelDivision board owner k₀).isolated
    ⟨_, .start owner k₀⟩ (fun i => guards_thread w i) w.run
  exact ⟨solo, holder, hruns, hdivided⟩

/-- The same while the accesses to exported pins succeed. -/
theorem solo_runs_reliable (w : ClientThreads (reliableKernel board) owner k₀ k) :
    ∃ solo holder, (∀ i, (reliableKernel board).Run k₀.unopened (ownTrace i w.calls) (solo i)) ∧
      DividedKernel owner k₀ k solo holder := by
  have hguards : ∀ i, (reliableKernel board).Guards (KeepsToOwn owner i) k₀.unopened
      (ownTrace i w.calls) :=
    fun i => (guards_thread w i).mono fun _ _ _ hstep => hstep.1
  obtain ⟨solo, hruns, holder, hdivided⟩ := (reliableDivision board owner k₀).isolated
    ⟨_, .start owner k₀⟩ hguards w.run
  exact ⟨solo, holder, hruns, hdivided⟩

/-- Every system call keeps to its thread at the point where it is made. -/
theorem solo_runs_upTo (w : ClientThreads (kernel board) owner k₀ k)
    {front back : List (ι × Event Call Reply)} {e : Event Call Reply}
    (hcalls : w.calls = front ++ (i, e) :: back) :
    ∃ k₁ solo holder, (∀ j, (kernel board).Run k₀.unopened (ownTrace j front) (solo j)) ∧
      DividedKernel owner k₀ k₁ solo holder ∧ KeepsToOwn owner i (solo i) e := by
  obtain ⟨k₁, w₁, -, hw₁⟩ := w.upTo hcalls
  obtain ⟨solo, holder, hruns, hdivided⟩ := solo_runs w₁
  rw [hw₁] at hruns
  have hguards : (kernel board).Guards (KeepsToOwn owner i) k₀.unopened (ownTrace i w.calls) :=
    guards_thread w i
  rw [hcalls, ownTrace_append, ownTrace_cons_self, Env.guards_append] at hguards
  exact ⟨k₁, solo, holder, hruns, hdivided, (hguards.2 _ (hruns i)).1⟩

end Threads

/-! ## Isolation -/

/-- The threads do not notice each other: in a kernel of its own each could have made the same
calls with the same results, and its pins and descriptors are as it left them there. -/
structure Isolated {env : Env Call Reply Kernel} {owner : Int32 → Option ι} {k₀ k : Kernel}
    (w : ClientThreads env owner k₀ k) (solo : ι → Kernel) : Prop where
  /-- The calls of a thread are those of a run alone, also in the middle of an API call. -/
  run : ∀ i, env.Run k₀.unopened (ownTrace i w.calls) (solo i)
  /-- The history of a thread is one that it could have had alone. -/
  session : ∀ i, w.Finished i →
    Session env (ThreadDiscipline owner i) k₀.unopened (w.histories i) (solo i)
  /-- Its pins are as it left them. -/
  pins : ∀ i pin, owner pin = some i → k.pins pin = (solo i).pins pin
  /-- A pin without an owner is as it was. -/
  others : ∀ pin, owner pin = none → k.pins pin = k₀.pins pin
  /-- The descriptors of a thread are as it left them. -/
  files : ∀ i fd f, (solo i).files fd = some f → k.files fd = some f
  /-- The other descriptors are as they were. -/
  rest : ∀ fd, (∀ i, (solo i).files fd = none) → k.files fd = k₀.files fd

/-- **Isolation of threads.** Whatever system calls fail, and in whatever order the system calls
of the threads come, threads with their own pins and handles do not notice each other. -/
theorem threads_isolated {board : Board} {owner : Int32 → Option ι} {k₀ k : Kernel}
    (w : ClientThreads (kernel board) owner k₀ k) : ∃ solo, Isolated w solo := by
  obtain ⟨solo, holder, hruns, hdivided⟩ := solo_runs w
  refine ⟨solo, hruns, fun i hfinished => w.session hfinished (hruns i),
    fun i pin hpin => (hdivided.pins i pin hpin).symm, hdivided.others,
    fun i fd f hf => (hdivided.open_of_some hf).2.1, fun fd => hdivided.rest⟩

/-! ## Descriptors -/

/-- The descriptors in the table are those in `held`, each once. -/
def TableAgrees (held : Multiset Int32) (k : Kernel) : Prop :=
  ∀ fd, held.count fd = if (k.files fd).isSome then 1 else 0

section Tables

variable {board : Board} {held : Multiset Int32} {k k' : Kernel} {tr : List (Event Call Reply)}
  {fd : Int32}

/-- A descriptor is in the table if and only if it is among them. -/
theorem TableAgrees.mem_iff (h : TableAgrees held k) : fd ∈ held ↔ (k.files fd).isSome := by
  rw [← Multiset.count_pos, h fd]
  split <;> simp [*]

/-- A system call that hands out no descriptor and takes none back leaves the table as it is. -/
theorem TableAgrees.neutral {e : Event Call Reply} (h : TableAgrees held k)
    (hret : fdLedger.returned e = 0) (hacq : fdLedger.acquired e = 0)
    (hsame : ∀ fd, (k'.files fd).isSome = (k.files fd).isSome) :
    TableAgrees (held - fdLedger.returned e + fdLedger.acquired e) k' := by
  intro fd
  rw [hret, hacq, Multiset.sub_zero, add_zero, h fd, hsame fd]

/-- The ledger keeps account of the table. -/
theorem TableAgrees.step {e : Event Call Reply} (h : TableAgrees held k)
    (hstep : kernelStep board k e k') :
    TableAgrees (held - fdLedger.returned e + fdLedger.acquired e) k' := by
  obtain ⟨call, reply⟩ := e
  cases call with
  | «open» path flag =>
    obtain ⟨hneg, rfl⟩ | ⟨hneg, -, hfree, rfl⟩ := hstep
    · exact h.neutral rfl (if_pos hneg) fun _ => rfl
    · intro fd
      have hbefore := h fd
      simp only [fdLedger, hneg, if_false, Multiset.sub_zero, Multiset.count_add,
        Multiset.count_singleton]
      by_cases hfd : fd = reply
      · subst hfd
        simpa [hfree] using hbefore
      · simpa [Kernel.opened, hfd] using hbefore
  | close fd' =>
    obtain rfl := hstep
    intro fd
    have hbefore := h fd
    simp only [fdLedger, Multiset.add_zero, Multiset.count_sub, Multiset.count_singleton]
    by_cases hfd : fd = fd'
    · subst hfd
      rw [hbefore]
      split <;> simp
    · simpa [Kernel.closed, hfd] using hbefore
  | ioctl fd' request =>
    obtain ⟨-, rfl⟩ | ⟨-, f, hf, rfl⟩ := hstep
    · exact h.neutral rfl rfl fun _ => rfl
    · refine h.neutral rfl rfl fun fd => ?_
      by_cases hfd : fd = fd'
      · simp [hfd, hf]
      · simp [Kernel.configured, hfd]
  | write fd' data =>
    obtain ⟨-, rfl⟩ | ⟨-, -, -, -, -, -, rfl⟩ := hstep
    · exact h.neutral rfl rfl fun _ => rfl
    · exact h.neutral rfl rfl fun _ => rfl
  | libc c | ioctlMessage fd' tx length =>
    obtain rfl := hstep
    exact h.neutral rfl rfl fun _ => rfl
  | read fd' count | stat path =>
    obtain ⟨rfl, -⟩ := hstep
    exact h.neutral rfl rfl fun _ => rfl

/-- It does over any run. -/
theorem TableAgrees.run (h : TableAgrees held k) (hrun : (kernel board).Run k tr k') :
    TableAgrees (fdLedger.after held tr) k' := by
  induction tr generalizing held k with
  | nil =>
    obtain rfl := hrun
    exact h
  | cons e tr ih =>
    obtain ⟨k₁, hstep, hrest⟩ := hrun
    exact ih (h.step hstep) hrest

/-- What a thread alone in the kernel has opened and not closed is what it has open. -/
theorem tableAgrees_unopened (hrun : (kernel board).Run k.unopened tr k') :
    TableAgrees (fdLedger.after 0 tr) k' :=
  TableAgrees.run (fun _ => Multiset.count_zero _) hrun

end Tables

/-- Each thread has its descriptors to itself. -/
structure DescriptorsApart {env : Env Call Reply Kernel} {owner : Int32 → Option ι}
    {k₀ k : Kernel} (w : ClientThreads env owner k₀ k) : Prop where
  /-- A thread makes system calls on descriptors only that it has opened and not closed, that no
  other thread has, and that were not in use at the start. -/
  used : ∀ front i e back fd, w.calls = front ++ (i, e) :: back → e.call.descriptor = some fd →
    fd ∈ fdLedger.after 0 (ownTrace i front) ∧
      (∀ j ≠ i, fd ∉ fdLedger.after 0 (ownTrace j front)) ∧ k₀.files fd = none
  /-- Between two calls of a thread its handles are what they were opened as. -/
  intact : ∀ i, w.Finished i → HandlesIntact (holding (w.histories i)) k
  /-- Two threads never hold the same handle. -/
  apart : ∀ i j, w.Finished i → w.Finished j → i ≠ j → ∀ fd, Held (w.histories i) fd →
    ¬Held (w.histories j) fd
  /-- Between calls of all threads the other descriptors are as they were. -/
  rest : (∀ i, w.Finished i) → ∀ fd, (∀ i, ¬Held (w.histories i) fd) → k.files fd = k₀.files fd

/-- **Descriptors of threads.** Whatever system calls fail, and in whatever order the system
calls of the threads come, the descriptors that one thread opens are closed and used by that
thread alone, its handles stay the devices that they were opened as, and when every thread is
between two calls the library has nothing else open. -/
theorem threads_own_descriptors {board : Board} {owner : Int32 → Option ι} {k₀ k : Kernel}
    (w : ClientThreads (kernel board) owner k₀ k) : DescriptorsApart w := by
  obtain ⟨solo, holder, hruns, hdivided⟩ := solo_runs w
  have hsession := fun i hfinished => w.session (i := i) hfinished (hruns i)
  have hintact : ∀ i, w.Finished i → HandlesIntact (holding (w.histories i)) (solo i) :=
    fun i hfinished => handlesIntact ((hsession i hfinished).mono fun _ _ h => h.1)
  refine ⟨?_, fun i hfinished => ?_, ?_, fun hfinished fd hnone => ?_⟩
  · intro front i e back fd hcalls hfd
    obtain ⟨k₁, solo, holder, hruns, hdivided, hkeeps⟩ := solo_runs_upTo w hcalls
    have hopen := hkeeps.isSome hfd
    obtain ⟨f, hf⟩ := Option.isSome_iff_exists.mp hopen
    obtain ⟨hholder, -, -⟩ := hdivided.open_of_some hf
    refine ⟨(tableAgrees_unopened (hruns i)).mem_iff.mpr hopen, fun j hj hmem => ?_,
      (hdivided.own i fd hholder).1⟩
    obtain ⟨g, hg⟩ := Option.isSome_iff_exists.mp ((tableAgrees_unopened (hruns j)).mem_iff.mp hmem)
    obtain ⟨hholder', -, -⟩ := hdivided.open_of_some hg
    exact hj (Option.some.inj (hholder'.symm.trans hholder))
  · obtain ⟨hnodup, hnonneg, hfile⟩ := hintact i hfinished
    exact ⟨hnodup, hnonneg, fun x hx => (hdivided.open_of_some (hfile x hx)).2.1⟩
  · rintro i j hi hj hne fd ⟨x, hx, rfl⟩ ⟨y, hy, heq⟩
    have hx' := (hdivided.open_of_some ((hintact i hi).file x hx)).1
    have hy' := (hdivided.open_of_some ((hintact j hj).file y hy)).1
    rw [heq, hx'] at hy'
    exact hne (Option.some.inj hy')
  · refine hdivided.rest fun i => ?_
    by_contra hsome
    have hmem := (tableAgrees_unopened (hruns i)).mem_iff.mpr (Option.isSome_iff_ne_none.mpr hsome)
    have hmoves := moves_session ((hsession i (hfinished i)).mono fun _ _ h => h.1)
    rw [hfinished i, hmoves.after_eq, zero_add] at hmem
    exact hnone i (List.mem_map.mp (Multiset.mem_coe.mp hmem))

/-! ## Levels -/

section Levels

variable {board : Board} {owner : Int32 → Option ι} {k₀ k k' : Kernel}
  {h : List (Invocation Op.prog)}

/-- A call that is not a GPIO call changes no expectation. -/
theorem levelAfter_of_not_gpio {pin : Int32} {level : Option Bool} {inv : Invocation Op.prog}
    (hgpio : ¬GpioOnly h inv.op) : levelAfter pin level inv = level := by
  obtain ⟨op, tr, r, hpath⟩ := inv
  cases op with
  | gpioOpen | gpioClose | gpioWrite | gpioRead => exact absurd trivial hgpio
  | _ => rfl

/-- Any call keeps the levels in agreement. -/
theorem LevelsAgree.step_of_noPinFiles {inv : Invocation Op.prog} (hagree : LevelsAgree h k)
    (hfiles : NoPinFiles k) (hrun : (reliableKernel board).Run k inv.trace k') :
    LevelsAgree (h ++ [inv]) k' := by
  by_cases hgpio : GpioOnly h inv.op
  · exact hagree.step hgpio hrun
  · intro pin level hlevel
    rw [expectedLevel_append_one, levelAfter_of_not_gpio hgpio] at hlevel
    have haway : ∀ e ∈ inv.trace, AwayFromPins e.call := by
      refine (Op.only_awayFromPins fun hpins => hgpio ?_).of_path inv.performed
      cases hop : inv.op with
      | gpioOpen | gpioWrite | gpioRead => trivial
      | _ =>
        rw [hop] at hpins
        exact hpins.elim
    rw [(hfiles.run haway (kernel_of_reliable hrun)).1]
    exact hagree pin level hlevel

/-- After any calls, whatever they are, the outputs are at the levels expected. -/
theorem levelsAgree_of_session {permits : List (Invocation Op.prog) → Op → Prop}
    (hstart : NoPinFiles k₀) (hsession : Session (reliableKernel board) permits k₀ h k) :
    LevelsAgree h k := by
  have hboth : LevelsAgree h k ∧ NoPinFiles k := by
    refine hsession.invariant (I := fun h k => LevelsAgree h k ∧ NoPinFiles k) ?_ ?_
    · refine ⟨fun pin level hlevel => ?_, hstart⟩
      cases hlevel
    · rintro h k inv k' _ ⟨hagree, hfiles⟩ _ hrun
      exact ⟨hagree.step_of_noPinFiles hfiles hrun,
        (pinStep hfiles (kernel_of_reliable hrun)).files⟩
  exact hboth.1

end Levels

/-! ## An example -/

/-- One of two threads has pin 17. -/
def pin17Owner : Int32 → Option Bool := fun pin => if pin = 17 then some false else none

/-- It opens the pin as an output, sets it high and reads it. -/
def pin17Calls : List (Invocation Op.prog) := [openPin17, writeLevel 17 1, readLevel 17 true]

/-- The other thread opens address 0x39 on bus 1, with descriptor 4. -/
def openSensor : Invocation Op.prog := openI2c 1 0x39 4 (by decide)

/-- It does so while the first thread opens the pin. -/
def besideCalls : List (Bool × Event Call Reply) :=
  (exportTrace 17 (newReplies 3)).map (Prod.mk false) ++
    (openSensor.trace.map (Prod.mk true) ++
      ([⟨.open (directionPath 17) .wronly, 3⟩, ⟨.write 3 (directionText true), 3⟩,
        ⟨.close 3, 0⟩].map (Prod.mk false) ++ ((writeLevel 17 1).trace.map (Prod.mk false) ++
          (readLevel 17 true).trace.map (Prod.mk false))))

/-- The kernel when the pin is exported and the device opened. -/
def besideOpened : Kernel where
  files := Function.update (Function.update (fun _ => none) 4 (some (.fresh (i2cPath 1)))) 4
    (some ⟨i2cPath 1, some 0x39, none, none⟩)
  pins := Function.update Kernel.idle.pins 17 (some ⟨.input, false⟩)

/-- The kernel at the end. -/
def besideKernel : Kernel where
  files := besideOpened.files
  pins := Function.update (Function.update besideOpened.pins 17 (some ⟨.output, false⟩)) 17
    (some ⟨.output, true⟩)

/-- The kernel can answer these calls. -/
theorem besideCalls_run :
    (kernel .allInputs).Run .idle (besideCalls.map Prod.snd) besideKernel := by
  have hcalls : besideCalls.map Prod.snd = exportTrace 17 (newReplies 3) ++
      (openSensor.trace ++ ([⟨.open (directionPath 17) .wronly, 3⟩,
        ⟨.write 3 (directionText true), 3⟩, ⟨.close 3, 0⟩] ++
          ((writeLevel 17 1).trace ++ (readLevel 17 true).trace))) := rfl
  have hfd : ¬(3 : Int32) < 0 := by decide
  have hfree : besideOpened.files 3 = none := rfl
  have hexport : (kernel .allInputs).Run .idle (exportTrace 17 (newReplies 3))
      ⟨fun _ => none, besideOpened.pins⟩ :=
    export_run (k := .idle) hfd rfl ⟨by decide, by decide⟩ trivial rfl rfl
  have hsensor : (kernel .allInputs).Run ⟨fun _ => none, besideOpened.pins⟩ openSensor.trace
      besideOpened := openI2c_run (by decide) rfl
  have hdirection : (kernel .allInputs).Run besideOpened
      [⟨.open (directionPath 17) .wronly, 3⟩, ⟨.write 3 (directionText true), 3⟩, ⟨.close 3, 0⟩]
      ⟨besideOpened.files, Function.update besideOpened.pins 17 (some ⟨.output, false⟩)⟩ :=
    directionOut_run (q := ⟨.input, false⟩) hfd hfree (by simp [besideOpened])
  have hwrite : (kernel .allInputs).Run
      ⟨besideOpened.files, Function.update besideOpened.pins 17 (some ⟨.output, false⟩)⟩
      (writeLevel 17 1).trace besideKernel := writeLevel_run false hfree (by simp)
  have hread : (kernel .allInputs).Run besideKernel (readLevel 17 true).trace besideKernel :=
    readLevel_run hfree (by simp [besideKernel])
  rw [hcalls]
  exact Env.run_append.mpr ⟨_, hexport, Env.run_append.mpr ⟨_, hsensor,
    Env.run_append.mpr ⟨_, hdirection, Env.run_append.mpr ⟨_, hwrite, hread⟩⟩⟩⟩

/-- What the first thread may call. -/
theorem pin17Calls_permitted {pre post : List (Invocation Op.prog)} {inv : Invocation Op.prog}
    (hsplit : pin17Calls = pre ++ inv :: post) :
    ThreadDiscipline pin17Owner false pre inv.op := by
  have hinv : inv ∈ pin17Calls := by
    rw [hsplit]
    exact List.mem_append_right _ List.mem_cons_self
  have hgpio : inv.op = openPin17.op ∨ inv.op = .gpioWrite 17 1 ∨ inv.op = .gpioRead 0 17 := by
    obtain rfl | rfl | rfl : inv = openPin17 ∨ inv = writeLevel 17 1 ∨ inv = readLevel 17 true := by
      simpa [pin17Calls] using hinv
    · exact Or.inl rfl
    · exact Or.inr (Or.inl rfl)
    · exact Or.inr (Or.inr rfl)
  refine ⟨?_, fun pin hpin => ?_⟩
  · rcases hgpio with hop | hop | hop <;> rw [hop] <;> trivial
  · rcases hgpio with hop | hop | hop <;> rw [hop] at hpin <;> cases hpin <;> rfl

/-- The two threads, each at the end of its history. -/
def besideThreads (env : Env Call Reply Kernel)
    (hrun : env.Run .idle (besideCalls.map Prod.snd) besideKernel) :
    ClientThreads env pin17Owner .idle besideKernel where
  histories i := if i then [openSensor] else pin17Calls
  calls := besideCalls
  progress i := by cases i <;> exact List.prefix_rfl
  permitted i pre inv post hsplit := by
    cases i with
    | false => exact pin17Calls_permitted hsplit
    | true =>
      have hinv : inv ∈ [openSensor] := by
        rw [show [openSensor] = pre ++ inv :: post from hsplit]
        exact List.mem_append_right _ List.mem_cons_self
      obtain rfl := List.mem_singleton.mp hinv
      exact ⟨⟨_, _, rfl⟩, fun pin h => by cases h⟩
  run := hrun

/-- The descriptor of the device stands for it, and no other is open. -/
theorem threads_own_descriptors_beside :
    besideKernel.files 4 = some ⟨i2cPath 1, some 0x39, none, none⟩ ∧
      besideKernel.files 3 = none := by
  let w := besideThreads (kernel .allInputs) besideCalls_run
  have howned := threads_own_descriptors w
  have hfinished : ∀ i, w.Finished i := fun i => by cases i <;> rfl
  refine ⟨(howned.intact true rfl).file ⟨4, _⟩ List.mem_cons_self, ?_⟩
  refine howned.rest hfinished 3 ?_
  rintro (_ | _) ⟨x, hx, hfd⟩
  · cases hx
  · obtain rfl := List.mem_singleton.mp hx
    exact absurd hfd (by decide)

end McuPeripheral.Linuxdev
