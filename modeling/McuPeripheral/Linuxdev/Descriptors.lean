import McuPeripheral.Calls.Ledger
import McuPeripheral.Linuxdev.Devices
import McuPeripheral.Linuxdev.GpioLevels

/-!
# Who owns which descriptor

The client holds the descriptors that successful opens of I2C and SPI devices
gave it and that it has not closed. Over any history in which it uses and closes
only those, the library has exactly these descriptors open, closes nothing else
but what it opened itself in the same call, and each of them is still the device
it was opened as, with the settings made at its open. System calls may fail
anywhere, and the kernel may hand out any unused descriptor again.
-/

namespace McuPeripheral.Linuxdev

open Calls Libc

/-- A descriptor given to the client, with the file it stands for. -/
structure Handle where
  /-- The descriptor. -/
  fd : Int32
  /-- The device and the settings it was opened with. -/
  file : OpenFile
  deriving DecidableEq, Repr

/-- The handle a call gives to the client. -/
def granted : Invocation Op.prog → Option Handle
  | ⟨.i2cOpen (some ⟨_, some priv⟩) _ addr, _, (.ok, fd), _⟩ =>
    some ⟨fd, ⟨i2cPath priv.busnum, some addr, none, none⟩⟩
  | ⟨.spiOpen bus _ csnum, tr, (.ok, fd), _⟩ =>
    some ⟨fd, ⟨snprintf 32 (spiPath bus.params.busnum (chipSelect csnum tr)), none,
      some bus.params.mode.code, some bus.params.speed⟩⟩
  | _ => none

/-- The descriptor a call takes back from the client. -/
def takenBack : Op → Option Int32
  | .i2cClose _ dev | .spiClose dev => some dev
  | _ => none

/-- The handles after one more call. -/
def holdingAfter (held : List Handle) (i : Invocation Op.prog) : List Handle :=
  held.filter (fun x => takenBack i.op ≠ some x.fd) ++ (granted i).toList

/-- The handles the client was given and has not closed. -/
def holding (h : List (Invocation Op.prog)) : List Handle := h.foldl holdingAfter []

@[simp] theorem holding_append_one (h : List (Invocation Op.prog)) (i : Invocation Op.prog) :
    holding (h ++ [i]) = holdingAfter (holding h) i := by simp [holding, List.foldl_append]

/-- The client holds the descriptor. -/
def Held (h : List (Invocation Op.prog)) (fd : Int32) : Prop := ∃ x ∈ holding h, x.fd = fd

/-- The bus and its private data are there. -/
def I2cLive (bus : Option I2cBus) : Prop := ∃ self priv, bus = some ⟨self, some priv⟩

/-- The client passes live buses, and uses and closes only handles it holds. -/
def HandleDiscipline (h : List (Invocation Op.prog)) : Op → Prop
  | .i2cOpen bus _ _ => I2cLive bus
  | .i2cRead bus dev _ | .i2cWrite bus dev _ _ | .i2cClose bus dev => I2cLive bus ∧ Held h dev
  | .spiTransfer dev _ _ | .spiClose dev => Held h dev
  | .spiOpen .. | .gpioOpen .. | .gpioRead .. | .gpioWrite .. | .gpioClose _ => True
  | _ => False

/-- The client closes only what it holds. -/
theorem held_of_takenBack {h : List (Invocation Op.prog)} {op : Op} {fd : Int32}
    (hpermits : HandleDiscipline h op) (htaken : takenBack op = some fd) : Held h fd := by
  cases op with
  | i2cClose bus dev =>
    obtain rfl : dev = fd := by simpa [takenBack] using htaken
    exact hpermits.2
  | spiClose dev =>
    obtain rfl : dev = fd := by simpa [takenBack] using htaken
    exact hpermits
  | _ => simp [takenBack] at htaken

/-- The descriptors handed out by `open` and given back by `close`. -/
def fdLedger : Ledger Call Reply Int32 where
  acquired
    | ⟨.open _ _, fd⟩ => if fd < 0 then 0 else {fd}
    | _ => 0
  returned
    | ⟨.close fd, _⟩ => {fd}
    | _ => 0

/-- The descriptors of a list of handles. -/
def fds (held : List Handle) : Multiset Int32 := (held.map Handle.fd : List Int32)

/-! ## The descriptors of one call -/

section Moves

variable {tr : List (Event Call Reply)} {own own' : Multiset Int32} {fd : Int32}

/-- A successful open hands out its descriptor. -/
theorem moves_open {path : List Char} {flag : OpenFlag} (hfd : ¬fd < 0)
    (h : fdLedger.Moves {fd} tr own') : fdLedger.Moves 0 (⟨.open path flag, fd⟩ :: tr) own' :=
  .acquireFirst rfl (if_neg hfd) h

/-- A refused open adds nothing. -/
theorem moves_refused {path : List Char} {flag : OpenFlag} (hfd : fd < 0)
    (h : fdLedger.Moves own tr own') : fdLedger.Moves own (⟨.open path flag, fd⟩ :: tr) own' :=
  h.neutral rfl (if_pos hfd)

/-- A close gives its descriptor back. -/
theorem moves_close {c : Int32} (h : fdLedger.Moves 0 tr own') :
    fdLedger.Moves {fd} (⟨.close fd, c⟩ :: tr) own' :=
  h.giveBackAll rfl rfl

/-- Writing an attribute keeps no descriptor. -/
theorem moves_writeAttribute {path : List Char} {text : List UInt8} {r : McuprResult}
    (hpath : (writeAttribute path text).Path tr r) : fdLedger.Moves 0 tr 0 := by
  obtain ⟨fd, hfd, rfl, -⟩ | ⟨fd, n, c, hfd, -, rfl⟩ := writeAttribute_path.mp hpath
  · exact moves_refused hfd .nil
  · exact moves_open hfd (.neutral rfl rfl (moves_close .nil))

/-- Exporting keeps no descriptor. -/
theorem moves_export {pin : Int32} {r : McuprResult} (hpath : (sysfsGpioExport pin).Path tr r) :
    fdLedger.Moves 0 tr 0 := by
  obtain ⟨fd, hfd, -, rfl⟩ | ⟨fd, n, c, st, hfd, -, rfl⟩ := sysfsGpioExport_path.mp hpath
  · exact moves_refused hfd .nil
  · exact moves_open hfd (.neutral rfl rfl (moves_close (.neutral rfl rfl .nil)))

/-- Reading a value keeps no descriptor. -/
theorem moves_readValue {stale : UInt8} {pin r : Int32}
    (hpath : (sysfsGpioReadValue stale pin).Path tr r) : fdLedger.Moves 0 tr 0 := by
  obtain ⟨fd, hfd, -, rfl⟩ | ⟨fd, buf, c, hfd, -, rfl⟩ := sysfsGpioReadValue_path.mp hpath
  · exact moves_refused hfd .nil
  · exact moves_open hfd (.neutral rfl rfl (moves_close .nil))

/-- Opening a pin keeps no descriptor. -/
theorem moves_gpioOpen {dev pin : Int32} {mode : McuprGpioMode} {r : McuprResult × Int32}
    (hpath : (mcuprGpioOpen dev pin mode).Path tr r) : fdLedger.Moves 0 tr 0 := by
  obtain ⟨r, dev'⟩ := r
  obtain ⟨-, -, hexport⟩ | ⟨tr₁, tr₂, rfl, -, hexport, hdir⟩ := mcuprGpioOpen_path.mp hpath
  · exact moves_export hexport
  · exact (moves_export hexport).append (moves_writeAttribute hdir)

/-- Resolving a chip select does not concern descriptors. -/
theorem moves_resolveCsnum {csnum cs : Int32} (hpath : (resolveCsnum csnum).Path tr cs) :
    fdLedger.Moves 0 tr 0 := by
  obtain ⟨-, rfl, -⟩ | ⟨env, -, rfl, -⟩ := resolveCsnum_path.mp hpath
  · exact .nil
  · exact .neutral rfl rfl .nil

end Moves

/-- What one call does to the descriptor table and to the client's handles: nothing,
hand out an unused descriptor set up as its handle says, or take one back. -/
inductive DescriptorStep (k k' : Kernel) (i : Invocation Op.prog) : Prop
  | neutral : granted i = none → takenBack i.op = none → fdLedger.Moves 0 i.trace 0 →
      k'.files = k.files → DescriptorStep k k' i
  | grant (x : Handle) : granted i = some x → takenBack i.op = none →
      fdLedger.Moves 0 i.trace {x.fd} → ¬x.fd < 0 → k.files x.fd = none →
      k'.files = Function.update k.files x.fd (some x.file) → DescriptorStep k k' i
  | takeBack (fd : Int32) : granted i = none → takenBack i.op = some fd →
      fdLedger.Moves {fd} i.trace 0 → k'.files = Function.update k.files fd none →
      DescriptorStep k k' i

section Steps

variable {board : Board} {k k' : Kernel} {tr : List (Event Call Reply)}

/-- Opening an I2C device. -/
theorem i2cOpen_descriptorStep {bus : Option I2cBus} {dev addr : Int32}
    {r : McuprResult × Int32} (hlive : I2cLive bus)
    (hpath : (mcuprI2cOpen bus dev addr).Path tr r) (hrun : (kernel board).Run k tr k') :
    DescriptorStep k k' ⟨.i2cOpen bus dev addr, tr, r, hpath⟩ := by
  obtain ⟨self, priv, rfl⟩ := hlive
  obtain ⟨r, dev'⟩ := r
  obtain ⟨fd, hfd, rfl, rfl, rfl⟩ | ⟨fd, ret, c, hfd, hret, rfl, rfl, rfl⟩ |
    ⟨fd, ret, hfd, hret, rfl, rfl, rfl⟩ := mcuprI2cOpen_path.mp hpath
  · obtain rfl := (kernel_run_refused hfd).mp hrun
    exact .neutral rfl rfl (moves_refused hfd .nil) rfl
  · -- the failed `ioctl` is followed by the close, which restores the table
    obtain ⟨_, hopen, _, hioctl, _, rfl, rfl⟩ := hrun
    obtain ⟨-, -, hfree, rfl⟩ := hopen.resolve_left fun h => hfd h.1
    obtain ⟨-, rfl⟩ := hioctl.resolve_right fun h => h.1 hret
    exact .neutral rfl rfl (moves_open hfd (.neutral rfl rfl (moves_close .nil)))
      (k.opened_closed_files hfree _)
  · obtain ⟨_, hopen, _, hioctl, rfl⟩ := hrun
    obtain ⟨-, -, hfree, rfl⟩ := hopen.resolve_left fun h => hfd h.1
    obtain ⟨-, f, hf, rfl⟩ := hioctl.resolve_left fun h => hret h.1
    obtain rfl : OpenFile.fresh _ = f := by simpa using hf
    refine .grant ⟨_, _⟩ rfl rfl (moves_open hfd (.neutral rfl rfl .nil)) hfd hfree ?_
    simp only [Kernel.configured, Kernel.opened, Function.update_idem]
    rfl

/-- Opening an SPI device. -/
theorem spiOpen_descriptorStep {bus : SpiBus} {dev csnum : Int32} {r : McuprResult × Int32}
    (hpath : (mcuprSpiOpen bus dev csnum).Path tr r) (hrun : (kernel board).Run k tr k') :
    DescriptorStep k k' ⟨.spiOpen bus dev csnum, tr, r, hpath⟩ := by
  obtain ⟨r, dev'⟩ := r
  obtain ⟨tr₁, cs, tr₂, rfl, hcs, hopen⟩ := mcuprSpiOpen_path.mp hpath
  obtain ⟨k₁, hrun₁, hrun₂⟩ := Env.run_append.mp hrun
  have hresolve := moves_resolveCsnum hcs
  obtain rfl : k₁ = k := by
    obtain ⟨-, rfl, -⟩ | ⟨env, -, rfl, -⟩ := resolveCsnum_path.mp hcs
    · exact hrun₁
    · obtain ⟨_, rfl, rfl⟩ := hrun₁
      rfl
  obtain ⟨fd, hfd, rfl, rfl, rfl⟩ | ⟨fd, ret, c, hfd, hret, rfl, rfl, rfl⟩ |
    ⟨fd, ret, ret', c, hfd, hret, hret', rfl, rfl, rfl⟩ |
    ⟨fd, ret, ret', hfd, hret, hret', rfl, rfl, rfl⟩ := hopen
  · obtain rfl := (kernel_run_refused hfd).mp hrun₂
    exact .neutral rfl rfl (hresolve.append (moves_refused hfd .nil)) rfl
  · obtain ⟨_, hopen, _, hioctl, _, rfl, rfl⟩ := hrun₂
    obtain ⟨-, -, hfree, rfl⟩ := hopen.resolve_left fun h => hfd h.1
    obtain ⟨-, rfl⟩ := hioctl.resolve_right fun h => h.1 hret
    exact .neutral rfl rfl
      (hresolve.append (moves_open hfd (.neutral rfl rfl (moves_close .nil))))
      (k₁.opened_closed_files hfree _)
  · obtain ⟨_, hopen, _, hmode, _, hspeed, _, rfl, rfl⟩ := hrun₂
    obtain ⟨-, -, hfree, rfl⟩ := hopen.resolve_left fun h => hfd h.1
    obtain ⟨-, f, hf, rfl⟩ := hmode.resolve_left fun h => hret h.1
    obtain ⟨-, rfl⟩ := hspeed.resolve_right fun h => h.1 hret'
    refine .neutral rfl rfl (hresolve.append (moves_open hfd
      (.neutral rfl rfl (.neutral rfl rfl (moves_close .nil))))) ?_
    rw [Kernel.configured_closed_files, k₁.opened_closed_files hfree]
  · obtain ⟨_, hopen, _, hmode, _, hspeed, rfl⟩ := hrun₂
    obtain ⟨-, -, hfree, rfl⟩ := hopen.resolve_left fun h => hfd h.1
    obtain ⟨-, f, hf, rfl⟩ := hmode.resolve_left fun h => hret h.1
    obtain ⟨-, f', hf', rfl⟩ := hspeed.resolve_left fun h => hret' h.1
    obtain rfl : OpenFile.fresh _ = f := by simpa using hf
    obtain rfl : (OpenFile.fresh _).configure _ = f' := by simpa using hf'
    refine .grant ⟨_, _⟩ rfl rfl (hresolve.append (moves_open hfd
      (.neutral rfl rfl (.neutral rfl rfl .nil)))) hfd hfree ?_
    rw [chipSelect_append hcs]
    simp only [Kernel.configured, Kernel.opened, Function.update_idem]
    rfl

/-- Every call the discipline permits is such a step. -/
theorem descriptorStep {h : List (Invocation Op.prog)} {i : Invocation Op.prog}
    (hpermits : HandleDiscipline h i.op) (hrun : (kernel board).Run k i.trace k')
    (hheld : ∀ fd, Held h fd → ¬fd < 0) : DescriptorStep k k' i := by
  obtain ⟨op, tr, r, hpath⟩ := i
  cases op with
  | gpioOpen dev pin mode =>
    exact .neutral rfl rfl (moves_gpioOpen hpath) (gpioOpen_pins hpath hrun).1
  | gpioClose dev =>
    have hnil : tr = [] := hpath.1
    subst hnil
    obtain rfl : k' = k := hrun
    exact .neutral rfl rfl .nil rfl
  | gpioWrite dev value =>
    obtain ⟨_, hwrite⟩ := mcuprGpioWrite_path.mp hpath
    exact .neutral rfl rfl (moves_writeAttribute hwrite) (gpioWrite_pins hpath hrun).1
  | gpioRead stale dev =>
    exact .neutral rfl rfl (moves_readValue hpath) (gpioRead_pins hpath hrun).1
  | i2cOpen bus dev addr => exact i2cOpen_descriptorStep hpermits hpath hrun
  | i2cClose bus dev =>
    obtain ⟨⟨self, priv, rfl⟩, hdev⟩ := hpermits
    have hclose : (mcuprI2cClose (some ⟨self, some priv⟩) dev).Path tr r := hpath
    obtain ⟨hneg, -⟩ | ⟨c, -, rfl⟩ := mcuprI2cClose_path.mp hclose
    · exact absurd (Int32.not_lt.mp (hheld dev hdev)) hneg
    · obtain ⟨_, rfl, rfl⟩ := hrun
      exact .takeBack dev rfl rfl (moves_close .nil) rfl
  | i2cWrite bus dev data size =>
    obtain ⟨⟨self, priv, rfl⟩, -⟩ := hpermits
    have hwrite : (mcuprI2cWrite (some ⟨self, some priv⟩) dev data size).Path tr r := hpath
    obtain ⟨-, -, rfl⟩ | ⟨ret, -, -, rfl⟩ := mcuprI2cWrite_path.mp hwrite
    · obtain rfl : k' = k := hrun
      exact .neutral rfl rfl .nil rfl
    · obtain ⟨_, ⟨-, rfl⟩ | ⟨-, -, f, pins', -, -, rfl⟩, rfl⟩ := hrun
      · exact .neutral rfl rfl (.neutral rfl rfl .nil) rfl
      · exact .neutral rfl rfl (.neutral rfl rfl .nil) rfl
  | i2cRead bus dev size =>
    obtain ⟨⟨self, priv, rfl⟩, -⟩ := hpermits
    have hread : (mcuprI2cRead (some ⟨self, some priv⟩) dev size).Path tr r := hpath
    obtain ⟨-, -, rfl⟩ | ⟨ret, -, -, rfl⟩ := mcuprI2cRead_path.mp hread
    · obtain rfl : k' = k := hrun
      exact .neutral rfl rfl .nil rfl
    · obtain ⟨_, ⟨rfl, -⟩, rfl⟩ := hrun
      exact .neutral rfl rfl (.neutral rfl rfl .nil) rfl
  | spiOpen bus dev csnum => exact spiOpen_descriptorStep hpath hrun
  | spiClose dev =>
    obtain ⟨c, rfl⟩ := mcuprSpiClose_path.mp hpath
    obtain ⟨_, rfl, rfl⟩ := hrun
    exact .takeBack dev rfl rfl (moves_close .nil) rfl
  | spiTransfer dev tx length =>
    obtain ⟨ret, -, rfl⟩ := mcuprSpiTransfer_path.mp hpath
    obtain ⟨_, rfl, rfl⟩ := hrun
    exact .neutral rfl rfl (.neutral rfl rfl .nil) rfl
  | _ => exact hpermits.elim

end Steps

/-! ## Histories -/

/-- The handles are different descriptors in use, each with the file it was given for. -/
structure HandlesIntact (held : List Handle) (k : Kernel) : Prop where
  /-- No descriptor is held twice. -/
  nodup : (held.map Handle.fd).Nodup
  /-- Every handle is a possible descriptor. -/
  nonneg : ∀ x ∈ held, ¬x.fd < 0
  /-- Every handle still stands for its file. -/
  file : ∀ x ∈ held, k.files x.fd = some x.file

/-- One call keeps the handles intact. -/
theorem HandlesIntact.step {held : List Handle} {k k' : Kernel} {i : Invocation Op.prog}
    (h : HandlesIntact held k) (hstep : DescriptorStep k k' i) :
    HandlesIntact (holdingAfter held i) k' := by
  cases hstep with
  | neutral hgranted htaken _ hfiles =>
    have hsame : holdingAfter held i = held := by simp [holdingAfter, hgranted, htaken]
    rw [hsame]
    exact ⟨h.nodup, h.nonneg, fun x hx => by rw [hfiles]; exact h.file x hx⟩
  | grant x hgranted htaken _ hfd hfree hfiles =>
    have hadded : holdingAfter held i = held ++ [x] := by simp [holdingAfter, hgranted, htaken]
    -- the new descriptor was not in use, so no handle has it
    have hnew : ∀ y ∈ held, y.fd ≠ x.fd := by
      intro y hy heq
      have hy' := h.file y hy
      rw [heq, hfree] at hy'
      cases hy'
    rw [hadded]
    refine ⟨?_, ?_, ?_⟩
    · rw [List.map_append, List.map_singleton]
      refine h.nodup.append (List.nodup_singleton _) ?_
      simpa [List.disjoint_singleton] using hnew
    · intro y hy
      rcases List.mem_append.mp hy with hy | hy
      · exact h.nonneg y hy
      · rwa [List.mem_singleton.mp hy]
    · intro y hy
      rw [hfiles]
      rcases List.mem_append.mp hy with hy | hy
      · rw [Function.update_of_ne (hnew y hy)]
        exact h.file y hy
      · rw [List.mem_singleton.mp hy, Function.update_self]
  | takeBack fd hgranted htaken _ hfiles =>
    have hremoved : holdingAfter held i = held.filter (fun x => fd ≠ x.fd) := by
      simp [holdingAfter, hgranted, htaken]
    rw [hremoved]
    refine ⟨h.nodup.sublist (List.filter_sublist.map _), ?_, ?_⟩
    · intro x hx
      exact h.nonneg x (List.mem_filter.mp hx).1
    · intro x hx
      obtain ⟨hmem, hne⟩ := List.mem_filter.mp hx
      rw [hfiles, Function.update_of_ne (Ne.symm (of_decide_eq_true hne))]
      exact h.file x hmem

/-- Taking one descriptor out of those held. -/
theorem fds_filter_ne {held : List Handle} {fd : Int32} (hnodup : (held.map Handle.fd).Nodup)
    (hmem : ∃ x ∈ held, x.fd = fd) : fds held = fds (held.filter fun x => fd ≠ x.fd) + {fd} := by
  obtain ⟨x, hx, rfl⟩ := hmem
  have hfd : x.fd ∈ held.map Handle.fd := List.mem_map_of_mem hx
  have herase : (held.filter fun y => x.fd ≠ y.fd).map Handle.fd =
      (held.map Handle.fd).erase x.fd := by
    rw [hnodup.erase_eq_filter, List.filter_map]
    congr 1
    apply List.filter_congr
    intro y _
    by_cases hy : y.fd = x.fd
    · simp [hy]
    · simp [hy, Ne.symm hy]
  unfold fds
  rw [herase, ← Multiset.coe_erase, Multiset.add_comm, Multiset.singleton_add,
    Multiset.cons_erase (Multiset.mem_coe.mpr hfd)]

section Sessions

variable {board : Board} {k₀ k : Kernel} {h : List (Invocation Op.prog)}

/-- After every history the client's handles are intact. -/
theorem handlesIntact (hsession : Session (kernel board) HandleDiscipline k₀ h k) :
    HandlesIntact (holding h) k := by
  refine hsession.invariant (I := fun h k => HandlesIntact (holding h) k) ?_ ?_
  · exact ⟨List.nodup_nil, by simp [holding], by simp [holding]⟩
  · intro h k i k' _ hintact hpermits hrun
    rw [holding_append_one]
    refine hintact.step (descriptorStep hpermits hrun ?_)
    rintro fd ⟨x, hx, rfl⟩
    exact hintact.nonneg x hx

/-- A permitted call moves its part of the client's descriptors. -/
theorem moves_holding {k' : Kernel} {i : Invocation Op.prog} (hintact : HandlesIntact (holding h) k)
    (hpermits : HandleDiscipline h i.op) (hrun : (kernel board).Run k i.trace k') :
    ∃ rest own own', fds (holding h) = rest + own ∧ fds (holding (h ++ [i])) = rest + own' ∧
      fdLedger.Moves own i.trace own' := by
  have hstep : DescriptorStep k k' i := by
    refine descriptorStep hpermits hrun ?_
    rintro fd ⟨x, hx, rfl⟩
    exact hintact.nonneg x hx
  rw [holding_append_one]
  cases hstep with
  | neutral hgranted htaken hmoves _ =>
    refine ⟨fds (holding h), 0, 0, (add_zero _).symm, ?_, hmoves⟩
    simp [holdingAfter, hgranted, htaken]
  | grant x hgranted htaken hmoves _ _ _ =>
    refine ⟨fds (holding h), 0, {x.fd}, (add_zero _).symm, ?_, hmoves⟩
    simp [holdingAfter, hgranted, htaken, fds, ← Multiset.coe_add]
  | takeBack fd hgranted htaken hmoves _ =>
    have hheld := held_of_takenBack hpermits htaken
    refine ⟨_, {fd}, 0, fds_filter_ne hintact.nodup hheld, ?_, hmoves⟩
    simp [holdingAfter, hgranted, htaken]

/-- After every history the library has opened and not closed exactly the client's
descriptors. -/
theorem moves_session (hsession : Session (kernel board) HandleDiscipline k₀ h k) :
    fdLedger.Moves 0 (traceOf h) (fds (holding h)) := by
  refine Ledger.balanced (fun h => fds (holding h)) hsession rfl ?_
  intro h k i k' hs hpermits hrun
  exact moves_holding (handlesIntact hs) hpermits hrun

/-- A permitted call closes only descriptors the client holds, or that it opened itself. -/
theorem closes_only_own {k' : Kernel} {i : Invocation Op.prog} {fd c : Int32}
    {pre post : List (Event Call Reply)} (hintact : HandlesIntact (holding h) k)
    (hpermits : HandleDiscipline h i.op) (hrun : (kernel board).Run k i.trace k')
    (htrace : i.trace = pre ++ ⟨.close fd, c⟩ :: post) :
    Held h fd ∨ ∃ path flag, ⟨.open path flag, fd⟩ ∈ pre := by
  obtain ⟨rest, own, own', hbefore, -, hmoves⟩ := moves_holding hintact hpermits hrun
  rw [htrace] at hmoves
  obtain hmem | ⟨⟨call, reply⟩, he, hmem⟩ := hmoves.mem_of_returned (Multiset.mem_singleton_self fd)
  · have hfd : fd ∈ fds (holding h) := by
      rw [hbefore]
      exact Multiset.mem_add.mpr (Or.inr hmem)
    exact Or.inl (List.mem_map.mp (Multiset.mem_coe.mp hfd))
  · cases call with
    | «open» path flag =>
      simp only [fdLedger] at hmem
      split at hmem
      · cases hmem
      · rw [Multiset.mem_singleton.mp hmem]
        exact Or.inr ⟨path, flag, he⟩
    | _ => cases hmem

/-- **Descriptor ownership.** After every history the library has opened and not closed
exactly the descriptors of the client's unclosed handles, no two of them the same; it has never
closed one that was not open by then; and each of the handles still is the device it was opened
as with the settings made then. The next call closes nothing but those and what it opened
itself, and each of them at most once. -/
theorem descriptors_owned (hsession : Session (kernel board) HandleDiscipline k₀ h k) :
    (fdLedger.Covers 0 (traceOf h) ∧ fdLedger.after 0 (traceOf h) = fds (holding h)) ∧
    (((holding h).map Handle.fd).Nodup ∧ ∀ x ∈ holding h, k.files x.fd = some x.file) ∧
    ∀ (i : Invocation Op.prog) (k' : Kernel), HandleDiscipline h i.op →
      (kernel board).Run k i.trace k' →
      fdLedger.Covers (fds (holding h)) i.trace ∧
      ∀ (pre post : List (Event Call Reply)) (fd c : Int32),
        i.trace = pre ++ ⟨.close fd, c⟩ :: post →
        Held h fd ∨ ∃ path flag, ⟨.open path flag, fd⟩ ∈ pre := by
  have hintact := handlesIntact hsession
  have hmoves := moves_session hsession
  refine ⟨⟨?_, ?_⟩, ⟨hintact.nodup, hintact.file⟩, fun i k' hpermits hrun =>
    ⟨?_, fun pre post fd c htrace => closes_only_own hintact hpermits hrun htrace⟩⟩
  · have hcovers := (hmoves 0).1
    rwa [zero_add] at hcovers
  · rw [hmoves.after_eq, zero_add]
  · obtain ⟨rest, own, own', hbefore, -, hcall⟩ := moves_holding hintact hpermits hrun
    rw [hbefore]
    exact (hcall rest).1

end Sessions

/-! ## An example -/

/-- An open of an I2C device that gives the descriptor `fd`. -/
theorem openI2c_path {busnum fd : Int32} (addr : Int32) (hfd : ¬fd < 0) :
    (mcuprI2cOpen (some ⟨⟨0, 0⟩, some ⟨busnum⟩⟩) (-1) addr).Path
      [⟨.open (i2cPath busnum) .rdwr, fd⟩, ⟨.ioctl fd (.i2cSlave addr), 0⟩] (.ok, fd) := by
  have hret : ¬(0 : Int32) < 0 := by decide
  exact mcuprI2cOpen_path.mpr (Or.inr (Or.inr ⟨fd, 0, hfd, hret, rfl, rfl, rfl⟩))

/-- This open. -/
def openI2c (busnum addr fd : Int32) (hfd : ¬fd < 0) : Invocation Op.prog :=
  ⟨.i2cOpen (some ⟨⟨0, 0⟩, some ⟨busnum⟩⟩) (-1) addr, _, _, openI2c_path addr hfd⟩

/-- The kernel can answer it if the descriptor is free. -/
theorem openI2c_run {board : Board} {k : Kernel} {busnum addr fd : Int32} (hfd : ¬fd < 0)
    (hfree : k.files fd = none) :
    (kernel board).Run k (openI2c busnum addr fd hfd).trace
      ((k.opened fd (i2cPath busnum)).configured fd (.fresh (i2cPath busnum))
        (.i2cSlave addr)) := by
  have hret : ¬(0 : Int32) < 0 := by decide
  exact ⟨_, Or.inr ⟨hfd, present_device _ _, hfree, rfl⟩, _,
    Or.inr ⟨hret, _, k.opened_files_self fd (i2cPath busnum), rfl⟩, rfl⟩

/-- The device of chip select 0 on SPI bus 0 is opened with descriptor 4. -/
theorem openSpi_path : (mcuprSpiOpen ⟨⟨1, 0⟩, ⟨0, 1000000, .mode0⟩⟩ (-1) 0).Path
    [⟨.open (snprintf 32 (spiPath 0 0)) .rdwr, 4⟩, ⟨.ioctl 4 (.spiIocWrMode 0), 0⟩,
      ⟨.ioctl 4 (.spiIocWrMaxSpeedHz 1000000), 0⟩] (.ok, 4) :=
  mcuprSpiOpen_path.mpr ⟨[], 0, _, rfl, resolveCsnum_path.mpr (Or.inl ⟨by decide, rfl, rfl⟩),
    Or.inr (Or.inr (Or.inr ⟨4, 0, 0, by decide, by decide, by decide, rfl, rfl, rfl⟩))⟩

/-- This open. -/
def openSpi : Invocation Op.prog :=
  ⟨.spiOpen ⟨⟨1, 0⟩, ⟨0, 1000000, .mode0⟩⟩ (-1) 0, _, _, openSpi_path⟩

/-- The kernel can answer it if the descriptor is free. -/
theorem openSpi_run {board : Board} {k : Kernel} (hfree : k.files 4 = none) :
    (kernel board).Run k openSpi.trace
      (((k.opened 4 (snprintf 32 (spiPath 0 0))).configured 4 (.fresh (snprintf 32 (spiPath 0 0)))
        (.spiIocWrMode 0)).configured 4
          ((OpenFile.fresh (snprintf 32 (spiPath 0 0))).configure (.spiIocWrMode 0))
          (.spiIocWrMaxSpeedHz 1000000)) :=
  ⟨_, Or.inr ⟨by decide, present_device _ _, hfree, rfl⟩, _,
    Or.inr ⟨by decide, _, Kernel.opened_files_self .., rfl⟩, _,
    Or.inr ⟨by decide, _, Kernel.configured_files_self .., rfl⟩, rfl⟩

/-- A close of the descriptor 3 of a device on I2C bus 1. -/
theorem closeI2c_path :
    (mcuprI2cClose (some ⟨⟨0, 0⟩, some ⟨1⟩⟩) 3).Path [⟨.close 3, 0⟩] () :=
  mcuprI2cClose_path.mpr (Or.inr ⟨0, by decide, rfl⟩)

/-- This close. -/
def closeI2c : Invocation Op.prog := ⟨.i2cClose (some ⟨⟨0, 0⟩, some ⟨1⟩⟩) 3, _, _, closeI2c_path⟩

/-- An open that answers 3 has not failed. -/
theorem three_not_neg : ¬(3 : Int32) < 0 := by decide

/-- The device at address 0x39 on bus 1 is opened, the SPI device, and pin 17; the first is
closed again, and its descriptor becomes the one of address 0x1d on bus 2. -/
def reusedDescriptor : List (Invocation Op.prog) :=
  [openI2c 1 0x39 3 three_not_neg, openSpi, openOutput 17 (newReplies 5), closeI2c,
    openI2c 2 0x1d 3 three_not_neg]

/-- The client keeps to its handles, and the kernel can answer. -/
theorem reusedDescriptor_session :
    ∃ k, Session (kernel .allInputs) HandleDiscipline .idle reusedDescriptor k := by
  have hlive : ∀ busnum, I2cLive (some ⟨⟨0, 0⟩, some ⟨busnum⟩⟩) := fun _ => ⟨_, _, rfl⟩
  have h₁ : Session (kernel .allInputs) HandleDiscipline .idle [_] _ :=
    .step (openI2c 1 0x39 3 three_not_neg) .start (hlive 1) (openI2c_run three_not_neg rfl)
  have h₂ := h₁.step openSpi trivial (openSpi_run rfl)
  have hexport : 2 ≤ (bytes (decimal (17 : Int32).toInt)).length := by decide
  have h₃ := h₂.step (openOutput 17 (newReplies 5)) trivial
    (open_run_new (q := ⟨.input, false⟩) (by decide : ¬(5 : Int32) < 0) rfl hexport trivial rfl rfl)
  have h₄ := h₃.step closeI2c ⟨hlive 1, _, List.mem_cons_self, rfl⟩ ⟨_, rfl, rfl⟩
  have h₅ := h₄.step (openI2c 2 0x1d 3 three_not_neg) (hlive 2)
    (openI2c_run three_not_neg (Kernel.closed_files_self ..))
  exact ⟨_, h₅⟩

/-- The theorem behind these calls. -/
theorem descriptors_owned_reused : ∃ k : Kernel,
    fdLedger.Covers 0 (traceOf reusedDescriptor) ∧
      fdLedger.after 0 (traceOf reusedDescriptor) = {4, 3} ∧
      k.files 3 = some ⟨i2cPath 2, some 0x1d, none, none⟩ ∧
      k.files 4 = some ⟨"/dev/spidev0.0".toList, none, some 0, some 1000000⟩ := by
  obtain ⟨k, hsession⟩ := reusedDescriptor_session
  obtain ⟨⟨hcovers, hafter⟩, ⟨-, hfiles⟩, -⟩ := descriptors_owned hsession
  have hholding : holding reusedDescriptor =
      [⟨4, ⟨snprintf 32 (spiPath 0 0), none, some 0, some 1000000⟩⟩,
        ⟨3, ⟨i2cPath 2, some 0x1d, none, none⟩⟩] := rfl
  rw [hholding] at hafter hfiles
  exact ⟨k, hcovers, hafter, hfiles _ (List.mem_cons_of_mem _ List.mem_cons_self),
    hfiles _ List.mem_cons_self⟩

end McuPeripheral.Linuxdev
