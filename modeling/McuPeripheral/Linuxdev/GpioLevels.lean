import McuPeripheral.Linuxdev.Api
import McuPeripheral.Linuxdev.GpioOpen

/-!
# Levels read back from output pins

While the file accesses to exported pins succeed, a pin that was opened as an
output reads back what was last written to it. The expected level is computed
from the history of API calls alone; the invariant says that the kernel's pin
agrees with it. Exports may still fail, and the start is any state of the kernel.
-/

namespace McuPeripheral.Linuxdev

open Calls Libc

/-- An access to a file of an exported pin succeeds; writing a level is such an access
only for an output. -/
def Reliable (k : Kernel) : Event Call Reply → Prop
  | ⟨.open path _, fd⟩ =>
    (∃ pin, (k.pins pin).isSome ∧ (path = directionPath pin ∨ path = valuePath pin)) → ¬fd < 0
  | ⟨.read fd _, buf⟩ =>
    (∃ f pin, k.files fd = some f ∧ f.path = valuePath pin ∧ (k.pins pin).isSome) → buf ≠ none
  | ⟨.write fd _, n⟩ =>
    (∃ f pin p, k.files fd = some f ∧ k.pins pin = some p ∧
      (f.path = directionPath pin ∨ f.path = valuePath pin ∧ p.direction = .output)) → ¬n < 0
  | ⟨.stat path, st⟩ => (∃ pin, (k.pins pin).isSome ∧ path = gpioPath pin) → st = 0
  | _ => True

/-- The kernel while the accesses to exported pins succeed. -/
def reliableKernel (board : Board) : Env Call Reply Kernel :=
  ⟨fun k e k' => kernelStep board k e k' ∧ Reliable k e⟩

/-- What the reliable kernel does, the kernel may do. -/
theorem kernel_of_reliable {board : Board} {k k' : Kernel} {tr : List (Event Call Reply)}
    (h : (reliableKernel board).Run k tr k') : (kernel board).Run k tr k' :=
  h.mono fun _ _ _ (hstep : kernelStep board _ _ _ ∧ Reliable _ _) => hstep.1

/-- A call that does not fail is acceptable in any state. -/
theorem reliable_of_not_failed {e : Event Call Reply} (h : ¬Failed e) (k : Kernel) :
    Reliable k e := by
  obtain ⟨call, reply⟩ := e
  cases call with
  | «open» path flag => exact fun _ => h
  | read fd count => exact fun _ => h
  | write fd data => exact fun _ => h
  | stat path => exact fun _ => not_not.mp h
  | _ => trivial

/-- A run in which no call fails is a run of the reliable kernel. -/
theorem reliable_of_kernel {board : Board} {k k' : Kernel} {tr : List (Event Call Reply)}
    (hall : ∀ e ∈ tr, ¬Failed e) (h : (kernel board).Run k tr k') :
    (reliableKernel board).Run k tr k' := by
  induction tr generalizing k with
  | nil => exact h
  | cons e tr ih =>
    obtain ⟨k₁, hstep, hrun⟩ := h
    have hreliable := reliable_of_not_failed (hall e List.mem_cons_self) k
    exact ⟨k₁, ⟨hstep, hreliable⟩, ih (fun e he => hall e (List.mem_cons_of_mem _ he)) hrun⟩

section Calls

variable {board : Board} {k k' : Kernel} {tr : List (Event Call Reply)}

/-- Writing a pin affects that pin only, and sets the level of an output. -/
theorem gpioWrite_pins {dev value : Int32} {u : Unit}
    (hpath : (mcuprGpioWrite dev value).Path tr u) (hrun : (kernel board).Run k tr k') :
    k'.files = k.files ∧ (∀ q ≠ dev, k'.pins q = k.pins q) ∧
      ((reliableKernel board).Run k tr k' → ∀ level, k.pins dev = some ⟨.output, level⟩ →
        k'.pins dev = some ⟨.output, value ≠ 0⟩) := by
  obtain ⟨r, hpath⟩ := mcuprGpioWrite_path.mp hpath
  rw [sysfsGpioWriteValue, snprintf_valuePath] at hpath
  obtain ⟨fd, hfd, rfl, -⟩ | ⟨fd, n, c, hfd, -, rfl⟩ := writeAttribute_path.mp hpath
  · obtain rfl := (kernel_run_refused hfd).mp hrun
    refine ⟨rfl, fun _ _ => rfl, fun hreliable level hlevel => ?_⟩
    obtain ⟨_, ⟨-, hopen⟩, -⟩ := hreliable
    exact absurd hfd (hopen ⟨dev, by simp [hlevel], Or.inr rfl⟩)
  · obtain ⟨-, -, hfiles, hwritten⟩ := (kernel_run_attribute hfd).mp hrun
    refine ⟨hfiles, ?_, ?_⟩
    · intro q hq
      obtain ⟨-, hsame⟩ | ⟨-, -, hupdate⟩ := written_value hwritten
      · rw [hsame]
      · rw [hupdate, Function.update_of_ne hq]
    · intro hreliable level hlevel
      obtain ⟨hn, -⟩ | ⟨-, -, hupdate⟩ := written_value hwritten
      · obtain ⟨k₁, ⟨hopen, -⟩, _, ⟨-, hwrite⟩, -⟩ := hreliable
        obtain ⟨-, -, -, rfl⟩ := hopen.resolve_left fun h => hfd h.1
        exact absurd hn (hwrite ⟨_, dev, _, k.opened_files_self fd _, hlevel, Or.inr ⟨rfl, rfl⟩⟩)
      · rw [hupdate, Function.update_self]

/-- Reading a pin changes nothing, and delivers the level of an output. -/
theorem gpioRead_pins {stale : UInt8} {dev r : Int32}
    (hpath : (mcuprGpioRead stale dev).Path tr r) (hrun : (kernel board).Run k tr k') :
    k'.files = k.files ∧ k'.pins = k.pins ∧
      ((reliableKernel board).Run k tr k' → ∀ level, k.pins dev = some ⟨.output, level⟩ →
        r = if level then 1 else 0) := by
  obtain ⟨fd, hfd, -, rfl⟩ | ⟨fd, buf, c, hfd, hr, rfl⟩ := sysfsGpioReadValue_path.mp hpath
  · obtain rfl := (kernel_run_refused hfd).mp hrun
    refine ⟨rfl, rfl, fun hreliable level hlevel => ?_⟩
    obtain ⟨_, ⟨-, hopen⟩, -⟩ := hreliable
    exact absurd hfd (hopen ⟨dev, by simp [hlevel], Or.inr rfl⟩)
  · obtain ⟨hfiles, hpins, hsome, hcontents⟩ := kernel_run_value hfd hrun
    refine ⟨hfiles, hpins, fun hreliable level hlevel => ?_⟩
    cases buf with
    | none =>
      obtain ⟨k₁, ⟨hopen, -⟩, _, ⟨-, hread⟩, -⟩ := hreliable
      obtain ⟨-, -, -, rfl⟩ := hopen.resolve_left fun h => hfd h.1
      exact absurd rfl (hread ⟨_, dev, k.opened_files_self fd _, rfl, hsome⟩)
    | some data =>
      obtain ⟨_, ⟨level', hlevel', rfl⟩, rfl⟩ := hcontents data _ rfl hlevel
      obtain rfl : level' = level := hlevel' rfl
      rw [hr]
      cases level' <;> rfl

/-- Exporting a pin affects that pin only, and it leaves a pin that was exported alone. -/
theorem gpioExport_pins {pin : Int32} {r : McuprResult} (hpath : (sysfsGpioExport pin).Path tr r)
    (hrun : (kernel board).Run k tr k') :
    k'.files = k.files ∧ (∀ q ≠ pin, k'.pins q = k.pins q) ∧
      ∀ p, k.pins pin = some p → k'.pins pin = some p := by
  obtain ⟨fd, hfd, -, rfl⟩ | ⟨fd, n, c, st, hfd, -, rfl⟩ := sysfsGpioExport_path.mp hpath
  · obtain rfl := (kernel_run_refused hfd).mp hrun
    exact ⟨rfl, fun _ _ => rfl, fun _ hp => hp⟩
  · obtain ⟨-, hfiles, hwritten, -⟩ := (kernel_run_export hfd).mp hrun
    obtain ⟨-, hsame⟩ | ⟨-, hnone, p, -, hupdate⟩ := written_export hwritten
    · exact ⟨hfiles, fun q _ => by rw [hsame], fun p hp => by rw [hsame, hp]⟩
    · refine ⟨hfiles, fun q hq => ?_, fun p hp => ?_⟩
      · rw [hupdate, Function.update_of_ne hq]
      · rw [hnone] at hp
        cases hp

/-- Setting a direction affects that pin only, and nothing if it fails; on a reliable
kernel it makes an output drive a low level. -/
theorem gpioSetDir_pins {pin : Int32} {isOutput : Bool} {r : McuprResult}
    (hpath : (sysfsGpioSetDir pin isOutput).Path tr r) (hrun : (kernel board).Run k tr k') :
    k'.files = k.files ∧ (∀ q ≠ pin, k'.pins q = k.pins q) ∧ (r ≠ .ok → k'.pins = k.pins) ∧
      ((reliableKernel board).Run k tr k' → r = .ok → isOutput = true →
        k'.pins pin = some ⟨.output, false⟩) := by
  rw [sysfsGpioSetDir, snprintf_directionPath] at hpath
  obtain ⟨fd, hfd, rfl, rfl⟩ | ⟨fd, n, c, hfd, rfl, rfl⟩ := writeAttribute_path.mp hpath
  · obtain rfl := (kernel_run_refused hfd).mp hrun
    exact ⟨rfl, fun _ _ => rfl, fun _ => rfl, fun _ h => by cases h⟩
  · obtain ⟨hpresent, -, hfiles, hwritten⟩ := (kernel_run_attribute hfd).mp hrun
    refine ⟨hfiles, ?_, by simp, ?_⟩
    · intro q hq
      obtain ⟨-, hsame⟩ | ⟨-, p, -, -, hupdate⟩ := written_direction hwritten
      · rw [hsame]
      · rw [hupdate, Function.update_of_ne hq]
    · intro hreliable _ houtput
      obtain ⟨hn, -⟩ | ⟨-, ⟨direction, level⟩, hdirection, hlevel, hupdate⟩ :=
        written_direction hwritten
      · obtain ⟨p, hp⟩ := Option.isSome_iff_exists.mp (present_directionPath.mp hpresent)
        obtain ⟨k₁, ⟨hopen, -⟩, _, ⟨-, hwrite⟩, -⟩ := hreliable
        obtain ⟨-, -, -, rfl⟩ := hopen.resolve_left fun h => hfd h.1
        exact absurd hn (hwrite ⟨_, pin, p, k.opened_files_self fd _, hp, Or.inl rfl⟩)
      · subst houtput
        obtain rfl : direction = .output := hdirection
        obtain rfl : level = false := hlevel rfl
        rw [hupdate, Function.update_self]

/-- Opening a pin affects that pin only. -/
theorem gpioOpen_pins {dev pin : Int32} {mode : McuprGpioMode} {r : McuprResult × Int32}
    (hpath : (mcuprGpioOpen dev pin mode).Path tr r) (hrun : (kernel board).Run k tr k') :
    k'.files = k.files ∧ ∀ q ≠ pin, k'.pins q = k.pins q := by
  obtain ⟨r, dev'⟩ := r
  obtain ⟨-, -, hexport⟩ | ⟨tr₁, tr₂, rfl, -, hexport, hdir⟩ := mcuprGpioOpen_path.mp hpath
  · obtain ⟨hfiles, hother, -⟩ := gpioExport_pins hexport hrun
    exact ⟨hfiles, hother⟩
  · obtain ⟨k₁, hrun₁, hrun₂⟩ := Env.run_append.mp hrun
    obtain ⟨hfiles, hother, -⟩ := gpioExport_pins hexport hrun₁
    obtain ⟨hfiles', hother', -⟩ := gpioSetDir_pins hdir hrun₂
    exact ⟨hfiles'.trans hfiles, fun q hq => (hother' q hq).trans (hother q hq)⟩

/-- On a reliable kernel, opening a pin as an output makes it drive a low level, and an
open that fails leaves an exported pin as it was. -/
theorem gpioOpen_reliable {dev pin : Int32} {mode : McuprGpioMode} {r : McuprResult × Int32}
    (hpath : (mcuprGpioOpen dev pin mode).Path tr r) (hrun : (reliableKernel board).Run k tr k') :
    (r.1 = .ok → mode = .output → k'.pins pin = some ⟨.output, false⟩) ∧
      (r.1 ≠ .ok → ∀ p, k.pins pin = some p → k'.pins pin = some p) := by
  obtain ⟨r, dev'⟩ := r
  obtain ⟨hr, -, hexport⟩ | ⟨tr₁, tr₂, rfl, -, hexport, hdir⟩ := mcuprGpioOpen_path.mp hpath
  · obtain ⟨-, -, hkept⟩ := gpioExport_pins hexport (kernel_of_reliable hrun)
    exact ⟨fun h => absurd h hr, fun _ => hkept⟩
  · obtain ⟨k₁, hrun₁, hrun₂⟩ := Env.run_append.mp hrun
    obtain ⟨-, -, hkept⟩ := gpioExport_pins hexport (kernel_of_reliable hrun₁)
    obtain ⟨-, -, hsame, hlow⟩ := gpioSetDir_pins hdir (kernel_of_reliable hrun₂)
    refine ⟨fun h hmode => hlow hrun₂ h (by simp [hmode]), fun h p hp => ?_⟩
    rw [hsame h]
    exact hkept p hp

end Calls

/-! ## Histories -/

/-- The level expected of `pin` after one more call: an open as an output sets it low,
any other successful open ends the expectation, and a write replaces the level. -/
def levelAfter (pin : Int32) (level : Option Bool) : Invocation Op.prog → Option Bool
  | ⟨.gpioOpen _ pin' mode, _, (.ok, _), _⟩ =>
    if pin' = pin then (if mode = .output then some false else none) else level
  | ⟨.gpioWrite dev value, _, _, _⟩ =>
    if dev = pin then level.map fun _ => decide (value ≠ 0) else level
  | _ => level

/-- An open that fails changes no expectation. -/
theorem levelAfter_of_failed {pin dev pin' dev' : Int32} {level : Option Bool}
    {mode : McuprGpioMode} {r : McuprResult} {tr : List (Event Call Reply)}
    {hpath : (Op.prog (.gpioOpen dev pin' mode)).Path tr (r, dev')} (hr : r ≠ .ok) :
    levelAfter pin level ⟨.gpioOpen dev pin' mode, tr, (r, dev'), hpath⟩ = level := by
  cases r with
  | ok => exact absurd rfl hr
  | _ => rfl

/-- The level a pin should read back after a history, if it was last opened as an output. -/
def expectedLevel (pin : Int32) (h : List (Invocation Op.prog)) : Option Bool :=
  h.foldl (levelAfter pin) none

@[simp] theorem expectedLevel_append_one (pin : Int32) (h : List (Invocation Op.prog))
    (i : Invocation Op.prog) :
    expectedLevel pin (h ++ [i]) = levelAfter pin (expectedLevel pin h) i := by
  simp [expectedLevel, List.foldl_append]

/-- The client makes GPIO calls only, on any pins and handles. -/
def GpioOnly (_ : List (Invocation Op.prog)) : Op → Prop
  | .gpioOpen .. | .gpioClose _ | .gpioWrite .. | .gpioRead .. => True
  | _ => False

/-- The pin a GPIO call is about. -/
def Op.pin : Op → Option Int32
  | .gpioOpen _ pin _ => some pin
  | .gpioClose dev | .gpioWrite dev _ | .gpioRead _ dev => some dev
  | _ => none

/-- The kernel's pins drive the levels the history lets one expect. -/
def LevelsAgree (h : List (Invocation Op.prog)) (k : Kernel) : Prop :=
  ∀ pin level, expectedLevel pin h = some level → k.pins pin = some ⟨.output, level⟩

/-- One GPIO call keeps the levels in agreement. -/
theorem LevelsAgree.step {board : Board} {h : List (Invocation Op.prog)} {k k' : Kernel}
    {i : Invocation Op.prog} (hagree : LevelsAgree h k) (hgpio : GpioOnly h i.op)
    (hrun : (reliableKernel board).Run k i.trace k') : LevelsAgree (h ++ [i]) k' := by
  intro pin level hlevel
  rw [expectedLevel_append_one] at hlevel
  have hkernel := kernel_of_reliable hrun
  obtain ⟨op, tr, r, hpath⟩ := i
  cases op with
  | gpioOpen dev pin' mode =>
    obtain ⟨-, hother⟩ := gpioOpen_pins hpath hkernel
    obtain ⟨hok, hfail⟩ := gpioOpen_reliable hpath hrun
    obtain ⟨r, dev'⟩ := r
    by_cases hr : r = .ok
    · subst hr
      simp only [levelAfter] at hlevel
      by_cases hpin : pin' = pin
      · subst hpin
        simp only [if_true] at hlevel
        by_cases hmode : mode = .output
        · obtain rfl : false = level := by simpa [hmode] using hlevel
          exact hok rfl hmode
        · simp [hmode] at hlevel
      · rw [if_neg hpin] at hlevel
        rw [hother pin (Ne.symm hpin)]
        exact hagree pin level hlevel
    · rw [levelAfter_of_failed hr] at hlevel
      have hbefore := hagree pin level hlevel
      by_cases hpin : pin' = pin
      · subst hpin
        exact hfail hr _ hbefore
      · rw [hother pin (Ne.symm hpin)]
        exact hbefore
  | gpioWrite dev value =>
    obtain ⟨-, hother, hset⟩ := gpioWrite_pins hpath hkernel
    simp only [levelAfter] at hlevel
    by_cases hpin : dev = pin
    · subst hpin
      rw [if_pos rfl] at hlevel
      obtain ⟨before, hbefore, rfl⟩ := Option.map_eq_some_iff.mp hlevel
      exact hset hrun before (hagree dev before hbefore)
    · rw [if_neg hpin] at hlevel
      rw [hother pin (Ne.symm hpin)]
      exact hagree pin level hlevel
  | gpioRead stale dev =>
    obtain ⟨-, hpins, -⟩ := gpioRead_pins hpath hkernel
    rw [hpins]
    exact hagree pin level hlevel
  | gpioClose dev =>
    have hnil : tr = [] := hpath.1
    subst hnil
    obtain rfl : k' = k := hrun
    exact hagree pin level hlevel
  | _ => exact hgpio.elim

/-- The call is an open of `pin` that succeeded and gave the handle `dev`. -/
def OpenGives (i : Invocation Op.prog) (pin dev : Int32) : Prop :=
  ∃ old mode tr hpath, i = ⟨.gpioOpen old pin mode, tr, (.ok, dev), hpath⟩

/-- The handle of a pin is its number. -/
theorem handle_eq_pin {i : Invocation Op.prog} {pin dev : Int32} (hgives : OpenGives i pin dev) :
    dev = pin := by
  obtain ⟨old, mode, tr, hpath, rfl⟩ := hgives
  obtain ⟨hr, -⟩ | ⟨-, -, -, rfl, -⟩ := mcuprGpioOpen_path.mp hpath
  · exact absurd rfl hr
  · rfl

/-- **Read after write, and independence of pins.** After any history of GPIO calls on
a reliable kernel, the next call changes no pin but its own, and if it reads a pin
that was last opened as an output it returns 1 exactly if the last write since
that open had a nonzero value. The handle that an open gave stands for its pin. -/
theorem gpio_read_after_write {board : Board} {k₀ k k' : Kernel}
    {h : List (Invocation Op.prog)} {i : Invocation Op.prog}
    (hsession : Session (reliableKernel board) GpioOnly k₀ h k) (hgpio : GpioOnly h i.op)
    (hrun : (reliableKernel board).Run k i.trace k') :
    (∀ stale dev level, i.op = .gpioRead stale dev → expectedLevel dev h = some level →
      i.op.returned i.result = some (if level then 1 else 0)) ∧
    (∀ q, i.op.pin ≠ some q → k'.pins q = k.pins q) ∧
    ∀ j ∈ h ++ [i], ∀ pin dev, OpenGives j pin dev → dev = pin := by
  have hagree : LevelsAgree h k := by
    refine hsession.invariant (I := LevelsAgree) (by intro pin level h; cases h) ?_
    intro h k i k' _ hagree hgpio hrun
    exact hagree.step hgpio hrun
  have hkernel := kernel_of_reliable hrun
  obtain ⟨op, tr, r, hpath⟩ := i
  refine ⟨?_, ?_, fun j _ pin dev hgives => handle_eq_pin hgives⟩
  · rintro stale dev level rfl hlevel
    obtain ⟨-, -, hread⟩ := gpioRead_pins hpath hkernel
    exact congrArg some (hread hrun level (hagree dev level hlevel))
  · intro q hq
    cases op with
    | gpioOpen dev pin mode =>
      exact (gpioOpen_pins hpath hkernel).2 q (by simpa [Op.pin, eq_comm] using hq)
    | gpioWrite dev value =>
      exact (gpioWrite_pins hpath hkernel).2.1 q (by simpa [Op.pin, eq_comm] using hq)
    | gpioRead stale dev => rw [(gpioRead_pins hpath hkernel).2.1]
    | gpioClose dev =>
      have hnil : tr = [] := hpath.1
      subst hnil
      obtain rfl : k' = k := hrun
      rfl
    | _ => exact hgpio.elim

/-! ## An example -/

/-- An open as an output that is answered so. -/
def openOutput (pin : Int32) (p : OpenReplies) : Invocation Op.prog :=
  ⟨.gpioOpen (-1) pin .output, _, _, mcuprGpioOpen_path_replies.mpr ⟨p, rfl, rfl⟩⟩

/-- A write of a level that succeeds with descriptor 3. -/
theorem writeLevel_path (pin value : Int32) : (mcuprGpioWrite pin value).Path
    [⟨.open (valuePath pin) .wronly, 3⟩, ⟨.write 3 (valueText (value ≠ 0)), 1⟩, ⟨.close 3, 0⟩]
      () := by
  refine mcuprGpioWrite_path.mpr ⟨.ok, ?_⟩
  rw [sysfsGpioWriteValue, snprintf_valuePath]
  have hfd : ¬(3 : Int32) < 0 := by decide
  exact writeAttribute_path.mpr (Or.inr ⟨3, 1, 0, hfd, rfl, rfl⟩)

/-- This write. -/
def writeLevel (pin value : Int32) : Invocation Op.prog :=
  ⟨.gpioWrite pin value, _, (), writeLevel_path pin value⟩

/-- A read of a level that succeeds with descriptor 3. -/
def readLevel (pin : Int32) (level : Bool) : Invocation Op.prog :=
  have hfd : ¬(3 : Int32) < 0 := by decide
  ⟨.gpioRead 0 pin, _, _, sysfsGpioReadValue_path.mpr
    (Or.inr ⟨3, some ((valueText level ++ [10]).take 4), 0, hfd, rfl, rfl⟩)⟩

/-- The replies to an open of a pin that is exported already. -/
def againReplies (fd : Int32) : OpenReplies := ⟨fd, -1, 0, 0, fd, 3, 0⟩

section Runs

variable {board : Board} {k : Kernel} {pin value : Int32}

/-- Opening an exported pin as an output: the export is refused. -/
theorem open_run_again {fd : Int32} {q : Pin} (hfd : ¬fd < 0) (hfree : k.files fd = none)
    (hq : k.pins pin = some q) :
    (reliableKernel board).Run k (openOutput pin (againReplies fd)).trace
      { k with pins := Function.update k.pins pin (some ⟨.output, false⟩) } := by
  have hn : (-1 : Int64) < 0 := by decide
  have hexport : (reliableKernel board).Run k (exportTrace pin (againReplies fd)) k := by
    refine ⟨_, ⟨Or.inr ⟨hfd, present_exportPath _, hfree, rfl⟩, fun _ => hfd⟩, _,
      ⟨Or.inl ⟨hn, rfl⟩, ?_⟩, _, ⟨rfl, trivial⟩, _, ⟨⟨rfl, fun _ => ?_⟩, fun _ => rfl⟩, ?_⟩
    · -- the export file is no file of a pin
      rintro ⟨f, pin', p, hf, -, hpath⟩
      obtain rfl : OpenFile.fresh exportPath = f := by simpa [againReplies] using hf
      rcases hpath with hpath | ⟨hpath, -⟩
      · exact absurd hpath.symm (gpioPath_append_ne pin' _).1
      · exact absurd hpath.symm (gpioPath_append_ne pin' _).1
    · exact present_gpioPath.mpr (by simp [hq])
    · have hrestore := k.opened_closed_files hfree exportPath
      simp only [Kernel.closed, againReplies] at hrestore ⊢
      rw [hrestore]
      rfl
  have htrace : (openOutput pin (againReplies fd)).trace = _ := openTrace_of_opened hfd
  rw [htrace]
  exact Env.run_append.mpr ⟨k, hexport, reliable_of_kernel (by simp [hfd])
    (directionOut_run hfd hfree hq)⟩

/-- Opening a new pin with two digits as an output. -/
theorem openOutput_run {fd : Int32} {q : Pin} (hfd : ¬fd < 0) (hfree : k.files fd = none)
    (hdigits : 2 ≤ (bytes (decimal pin.toInt)).length) (havailable : board.available pin)
    (hnone : k.pins pin = none) (hdirection : q.direction = board.direction pin) :
    (reliableKernel board).Run k (openOutput pin (newReplies fd)).trace
      ⟨k.files, Function.update (Function.update k.pins pin (some q)) pin
        (some ⟨.output, false⟩)⟩ := by
  have htrace : (openOutput pin (newReplies fd)).trace = _ := openTrace_of_opened hfd
  have hn : ¬(2 : Int64) < 0 ∧ ¬(3 : Int64) < 0 := by decide
  refine reliable_of_kernel ?_ (open_run_new hfd hfree hdigits havailable hnone hdirection)
  rw [htrace]
  simp [exportTrace, hfd, hn]

/-- The write is possible if the pin is an output and the descriptor is free. -/
theorem writeLevel_run (level : Bool) (hfree : k.files 3 = none)
    (hpin : k.pins pin = some ⟨.output, level⟩) :
    (kernel board).Run k (writeLevel pin value).trace
      ⟨k.files, Function.update k.pins pin (some ⟨.output, value ≠ 0⟩)⟩ := by
  have hfd : ¬(3 : Int32) < 0 := by decide
  have hn : ¬(1 : Int64) < 0 := by decide
  have hlength : ∀ high, (1 : Int64).toInt ≤ (valueText high).length := by decide
  exact (kernel_run_attribute hfd).mpr ⟨present_valuePath.mpr (by simp [hpin]), hfree, rfl,
    Or.inr ⟨hn, hlength _, .value pin level _ hpin⟩⟩

/-- So is the read, if the level is the one of the output. -/
theorem readLevel_run {level : Bool} (hfree : k.files 3 = none)
    (hpin : k.pins pin = some ⟨.output, level⟩) :
    (kernel board).Run k (readLevel pin level).trace k :=
  kernel_run_value_of_contents (by decide : ¬(3 : Int32) < 0) hfree hpin
    ⟨level, fun _ => rfl, rfl⟩

end Runs

/-- Two outputs; the first is opened again and both are written. -/
def twoPins : List (Invocation Op.prog) :=
  [openOutput 17 (newReplies 3), openOutput 18 (newReplies 3), writeLevel 17 1,
    openOutput 17 (againReplies 3), writeLevel 18 1, writeLevel 17 5, writeLevel 18 0]

/-- The kernel can answer them. -/
theorem twoPins_session : ∃ k : Kernel,
    Session (reliableKernel .allInputs) GpioOnly .idle twoPins k ∧ k.files 3 = none ∧
      k.pins 17 = some ⟨.output, true⟩ ∧ k.pins 18 = some ⟨.output, false⟩ := by
  have hfd : ¬(3 : Int32) < 0 := by decide
  have h₁ : Session (reliableKernel .allInputs) GpioOnly .idle [_] _ :=
    .step (openOutput 17 (newReplies 3)) .start trivial
      (openOutput_run (q := ⟨.input, false⟩) hfd rfl (by decide) trivial rfl rfl)
  have h₂ := h₁.step (openOutput 18 (newReplies 3)) trivial
    (openOutput_run (q := ⟨.input, false⟩) hfd rfl (by decide) trivial (by simp [Kernel.idle]) rfl)
  have h₃ := h₂.step (writeLevel 17 1) trivial
    (reliable_of_kernel (by simp [writeLevel]) (writeLevel_run false rfl (by simp)))
  have h₄ := h₃.step (openOutput 17 (againReplies 3)) trivial
    (open_run_again (q := ⟨.output, true⟩) hfd rfl (by simp))
  have h₅ := h₄.step (writeLevel 18 1) trivial
    (reliable_of_kernel (by simp [writeLevel]) (writeLevel_run false rfl (by simp)))
  have h₆ := h₅.step (writeLevel 17 5) trivial
    (reliable_of_kernel (by simp [writeLevel]) (writeLevel_run false rfl (by simp)))
  have h₇ := h₆.step (writeLevel 18 0) trivial
    (reliable_of_kernel (by simp [writeLevel]) (writeLevel_run true rfl (by simp)))
  exact ⟨_, h₇, rfl, by simp, by simp⟩

/-- The theorem behind these calls: pin 17 reads as 1, which leaves pin 18 alone. -/
theorem gpio_read_after_write_two_pins :
    (readLevel 17 true).op.returned (readLevel 17 true).result = some 1 ∧
      (∃ k k' : Kernel, (reliableKernel .allInputs).Run k (readLevel 17 true).trace k' ∧
        k'.pins 18 = some ⟨.output, false⟩) ∧
      ∀ dev, OpenGives (openOutput 17 (againReplies 3)) 17 dev → dev = 17 := by
  obtain ⟨k, hsession, hfree, hpin, hother⟩ := twoPins_session
  have hread : (reliableKernel .allInputs).Run k (readLevel 17 true).trace k :=
    reliable_of_kernel (by simp [readLevel]) (readLevel_run hfree hpin)
  have hgpio : GpioOnly twoPins (readLevel 17 true).op := trivial
  obtain ⟨hlevel, hpins, hhandle⟩ := gpio_read_after_write hsession hgpio hread
  refine ⟨hlevel 0 17 true rfl rfl, ⟨k, k, hread, ?_⟩, fun dev hgives => hhandle _ ?_ 17 dev hgives⟩
  · exact (hpins 18 (by simp [readLevel, Op.pin])).trans hother
  · simp [twoPins]

end McuPeripheral.Linuxdev
