import McuPeripheral.Linuxdev.GpioRuns

/-!
# Opening a GPIO pin

`mcupr_gpio_open` exports the pin and then sets its direction. It stores the
handle before the direction is set, it ignores whether the direction was
accepted, and it has no way back once the pin is exported. This module says
exactly for which replies of the system calls the open is all or nothing.
-/

namespace McuPeripheral.Linuxdev

open Calls Libc

/-- The replies to the system calls of one open, in the order of the calls. The
calls behind the point where the function gives up are not made. -/
structure OpenReplies where
  /-- The descriptor of the export file, or a failure. -/
  exportOpen : Int32
  /-- The reply to writing the pin number. -/
  exportWrite : Int64
  /-- The reply to closing the export file. -/
  exportClose : Int32
  /-- Whether the pin's directory is there. -/
  stat : Int32
  /-- The descriptor of the direction file, or a failure. -/
  directionOpen : Int32
  /-- The reply to writing the direction. -/
  directionWrite : Int64
  /-- The reply to closing the direction file. -/
  directionClose : Int32
  deriving DecidableEq, Repr

/-- The calls of the export helper, up to its answer. -/
def exportTrace (pin : Int32) (p : OpenReplies) : List (Event Call Reply) :=
  [⟨.open exportPath .wronly, p.exportOpen⟩,
    ⟨.write p.exportOpen (bytes (decimal pin.toInt)), p.exportWrite⟩,
    ⟨.close p.exportOpen, p.exportClose⟩, ⟨.stat (gpioPath pin), p.stat⟩]

/-- The calls of one open that is answered in this way. -/
def openTrace (pin : Int32) (mode : McuprGpioMode) (p : OpenReplies) :
    List (Event Call Reply) :=
  if p.exportOpen < 0 then [⟨.open exportPath .wronly, p.exportOpen⟩]
  else if p.stat ≠ 0 then exportTrace pin p
  else if p.directionOpen < 0 then
    exportTrace pin p ++ [⟨.open (directionPath pin) .wronly, p.directionOpen⟩]
  else
    exportTrace pin p ++ [⟨.open (directionPath pin) .wronly, p.directionOpen⟩,
      ⟨.write p.directionOpen (directionText (mode = .output)), p.directionWrite⟩,
      ⟨.close p.directionOpen, p.directionClose⟩]

/-- What the open returns, and the handle it leaves in `*dev`. -/
def openResult (dev pin : Int32) (p : OpenReplies) : McuprResult × Int32 :=
  if p.exportOpen < 0 then (.ioError, dev)
  else if p.stat ≠ 0 then (.ioError, dev)
  else if p.directionOpen < 0 then (.ioError, pin)
  else (.ok, pin)

/-- Every execution of an open is the answer to some pattern of replies. -/
theorem mcuprGpioOpen_path_replies {dev pin : Int32} {mode : McuprGpioMode}
    {tr : List (Event Call Reply)} {r : McuprResult × Int32} :
    (mcuprGpioOpen dev pin mode).Path tr r ↔
      ∃ p, tr = openTrace pin mode p ∧ r = openResult dev pin p := by
  obtain ⟨r, dev'⟩ := r
  rw [mcuprGpioOpen_path]
  simp only [sysfsGpioExport_path, sysfsGpioSetDir, snprintf_directionPath, writeAttribute_path]
  constructor
  · rintro (⟨hr, rfl, ⟨fd, hfd, rfl, rfl⟩ | ⟨fd, n, c, st, hfd, rfl, rfl⟩⟩ |
      ⟨tr₁, tr₂, rfl, rfl, ⟨_, _, h, _⟩ | ⟨fd, n, c, st, hfd, hst, rfl⟩, hdir⟩)
    · exact ⟨⟨fd, 0, 0, 0, 0, 0, 0⟩, by simp [openTrace, hfd], by simp [openResult, hfd]⟩
    · have hst : st ≠ 0 := by
        intro h
        simp [h] at hr
      exact ⟨⟨fd, n, c, st, 0, 0, 0⟩, by simp [openTrace, exportTrace, hfd, hst],
        by simp [openResult, hfd, hst]⟩
    · cases h
    · have hst : st = 0 := by
        by_contra hne
        simp [hne] at hst
      subst hst
      obtain ⟨fd', hfd', rfl, rfl⟩ | ⟨fd', n', c', hfd', rfl, rfl⟩ := hdir
      · exact ⟨⟨fd, n, c, 0, fd', 0, 0⟩, by simp [openTrace, exportTrace, hfd, hfd'],
          by simp [openResult, hfd, hfd']⟩
      · exact ⟨⟨fd, n, c, 0, fd', n', c'⟩, by simp [openTrace, exportTrace, hfd, hfd'],
          by simp [openResult, hfd, hfd']⟩
  · rintro ⟨⟨fd, n, c, st, fd', n', c'⟩, rfl, hr⟩
    by_cases hfd : fd < 0
    · obtain ⟨rfl, rfl⟩ : r = .ioError ∧ dev' = dev := by simpa [openResult, hfd] using hr
      exact Or.inl ⟨by simp, rfl, Or.inl ⟨fd, hfd, rfl, by simp [openTrace, hfd]⟩⟩
    by_cases hst : st = 0
    · subst hst
      have hexport : McuprResult.ok = if (0 : Int32) ≠ 0 then .ioError else .ok := by simp
      by_cases hfd' : fd' < 0
      · obtain ⟨rfl, rfl⟩ : r = .ioError ∧ dev' = pin := by
          simpa [openResult, hfd, hfd'] using hr
        exact Or.inr ⟨_, _, by simp [openTrace, exportTrace, hfd, hfd'], rfl,
          Or.inr ⟨fd, n, c, 0, hfd, hexport, rfl⟩, Or.inl ⟨fd', hfd', rfl, rfl⟩⟩
      · obtain ⟨rfl, rfl⟩ : r = .ok ∧ dev' = pin := by simpa [openResult, hfd, hfd'] using hr
        exact Or.inr ⟨_, _, by simp [openTrace, exportTrace, hfd, hfd'], rfl,
          Or.inr ⟨fd, n, c, 0, hfd, hexport, rfl⟩, Or.inr ⟨fd', n', c', hfd', rfl, rfl⟩⟩
    · obtain ⟨rfl, rfl⟩ : r = .ioError ∧ dev' = dev := by
        simpa [openResult, hfd, hst] using hr
      exact Or.inl ⟨by simp, rfl, Or.inr ⟨fd, n, c, st, hfd, (if_pos hst).symm,
        by simp [openTrace, exportTrace, hfd, hst]⟩⟩

/-- The direction a pin has when the open comes to set it: its own if it was exported
before, the board's if the open exports it. -/
def directionBefore (board : Board) (k : Kernel) (pin : Int32) : Direction :=
  (k.pins pin).elim (board.direction pin) Pin.direction

/-- Undoing the export was attempted and refused. -/
def UnexportFailed (tr : List (Event Call Reply)) : Prop :=
  ∃ fd, ⟨.open unexportPath .wronly, fd⟩ ∈ tr ∧
    (fd < 0 ∨ ∃ (data : List UInt8) (n : Int64), ⟨.write fd data, n⟩ ∈ tr ∧ n < 0)

/-- What an open should do: on success the pin is exported with the direction asked for
and the handle is the pin; on failure the handle, the export state and the direction
are what they were, unless undoing the export was refused. -/
structure OpenAllOrNothing (k k' : Kernel) (dev pin : Int32) (mode : McuprGpioMode)
    (tr : List (Event Call Reply)) (r : McuprResult × Int32) : Prop where
  /-- After a success the pin is ready for use. -/
  success : r.1 = .ok → r.2 = pin ∧
    ∃ p, k'.pins pin = some p ∧ (p.direction = .output ↔ mode = .output)
  /-- After a failure nothing has changed. -/
  failure : r.1 ≠ .ok → r.2 = dev ∧
    ((k'.pins pin).map Pin.direction = (k.pins pin).map Pin.direction ∨ UnexportFailed tr)

/-- The replies for which the open is all or nothing. A failure after the export was
accepted leaves the pin exported, a failure to open the direction file comes after
the handle was stored, and a direction that was refused must be right already. -/
def OpenIsClean (board : Board) (k : Kernel) (dev pin : Int32) (mode : McuprGpioMode)
    (p : OpenReplies) : Prop :=
  if p.exportOpen < 0 then True
  else if p.stat ≠ 0 then p.exportWrite < 0
  else if p.directionOpen < 0 then p.exportWrite < 0 ∧ dev = pin
  else ¬p.directionWrite < 0 ∨ (directionBefore board k pin = .output ↔ mode = .output)

/-- The open never tries to undo an export. -/
theorem not_unexportFailed (pin : Int32) (mode : McuprGpioMode) (p : OpenReplies) :
    ¬UnexportFailed (openTrace pin mode p) := by
  have hexport : exportPath ≠ unexportPath := by decide
  have hdirection : directionPath pin ≠ unexportPath := (gpioPath_append_ne pin _).2
  rintro ⟨fd, hmem, -⟩
  simp only [openTrace, exportTrace] at hmem
  split at hmem
  · simp [hexport.symm] at hmem
  split at hmem
  · simp [hexport.symm] at hmem
  split at hmem <;> simp [hexport.symm, hdirection.symm] at hmem

/-- After the export the pin is exported or as before, and a pin found exported has
the direction of `directionBefore`. -/
theorem direction_after_export {board : Board} {k k₁ : Kernel} {pin : Int32} {n : Int64}
    (h : Written board k.pins exportPath (bytes (decimal pin.toInt)) n k₁.pins)
    (hsome : (k₁.pins pin).isSome) :
    ∃ p, k₁.pins pin = some p ∧ p.direction = directionBefore board k pin := by
  obtain ⟨p, hp⟩ := Option.isSome_iff_exists.mp hsome
  refine ⟨p, hp, ?_⟩
  unfold directionBefore
  obtain ⟨-, hsame⟩ | ⟨-, hnone, q, hq, hupdate⟩ := written_export h
  · rw [← hsame, hp]
    rfl
  · obtain rfl : q = p := by simpa [hupdate] using hp
    rw [hnone, hq]
    rfl

/-- The export leaves the pin's direction as it was exactly if its write was refused. -/
theorem direction_kept_by_export_iff {board : Board} {k k₁ : Kernel} {pin : Int32} {n : Int64}
    (h : Written board k.pins exportPath (bytes (decimal pin.toInt)) n k₁.pins) :
    (k₁.pins pin).map Pin.direction = (k.pins pin).map Pin.direction ↔ n < 0 := by
  obtain ⟨hn, hsame⟩ | ⟨hn, hnone, q, -, hupdate⟩ := written_export h
  · simp [hn, hsame]
  · simp [hn, hnone, hupdate]

/-- The direction written for a mode. -/
theorem ofOutput_eq_output_iff (mode : McuprGpioMode) :
    Direction.ofOutput (mode = .output) = .output ↔ mode = .output := by
  cases mode <;> decide

/-- What all or nothing comes to for an open that failed. -/
theorem openAllOrNothing_of_failure {k k' : Kernel} {dev pin : Int32} {mode : McuprGpioMode}
    {p : OpenReplies} {r : McuprResult × Int32} (hr : r.1 ≠ .ok) :
    OpenAllOrNothing k k' dev pin mode (openTrace pin mode p) r ↔
      r.2 = dev ∧ (k'.pins pin).map Pin.direction = (k.pins pin).map Pin.direction := by
  have hundo := not_unexportFailed pin mode p
  constructor
  · intro h
    obtain ⟨hdev, hkept⟩ := h.failure hr
    exact ⟨hdev, hkept.resolve_right hundo⟩
  · rintro ⟨hdev, hkept⟩
    exact ⟨fun h => absurd h hr, fun _ => ⟨hdev, Or.inl hkept⟩⟩

/-- What all or nothing comes to for an open that succeeded. -/
theorem openAllOrNothing_of_success {k k' : Kernel} {dev pin : Int32} {mode : McuprGpioMode}
    {tr : List (Event Call Reply)} :
    OpenAllOrNothing k k' dev pin mode tr (.ok, pin) ↔
      ∃ q, k'.pins pin = some q ∧ (q.direction = .output ↔ mode = .output) := by
  constructor
  · intro h
    exact (h.success rfl).2
  · intro h
    exact ⟨fun _ => ⟨rfl, h⟩, fun hne => absurd rfl hne⟩

/-- Behind an export, the pin has the direction asked for exactly if its write was
accepted or the pin had that direction before. -/
theorem direction_after_write_iff {board : Board} {k k₁ k' : Kernel} {pin : Int32}
    {mode : McuprGpioMode} {n m : Int64}
    (hexport : Written board k.pins exportPath (bytes (decimal pin.toInt)) n k₁.pins)
    (hsome : (k₁.pins pin).isSome)
    (hwrite : Written board k₁.pins (directionPath pin) (directionText (mode = .output)) m
      k'.pins) :
    (∃ q, k'.pins pin = some q ∧ (q.direction = .output ↔ mode = .output)) ↔
      ¬m < 0 ∨ (directionBefore board k pin = .output ↔ mode = .output) := by
  obtain ⟨q, hq, hbefore⟩ := direction_after_export hexport hsome
  obtain ⟨hm, hsame⟩ | ⟨hm, q', hq', -, hupdate⟩ := written_direction hwrite
  · -- refused: the pin is as the export left it
    rw [← hbefore]
    simp [hm, hsame, hq]
  · -- accepted: the pin has the direction written
    have hmode := ofOutput_eq_output_iff mode
    simp [hm, hupdate, hq', hmode]

/-- One pattern of replies, from any state of the kernel. -/
theorem openAllOrNothing_iff {board : Board} {k k' : Kernel} {dev pin : Int32}
    {mode : McuprGpioMode} {p : OpenReplies}
    (hrun : (kernel board).Run k (openTrace pin mode p) k') :
    OpenAllOrNothing k k' dev pin mode (openTrace pin mode p) (openResult dev pin p) ↔
      OpenIsClean board k dev pin mode p := by
  by_cases hopen : p.exportOpen < 0
  · simp only [openTrace, if_pos hopen, kernel_run_refused hopen] at hrun
    subst hrun
    rw [openAllOrNothing_of_failure (by simp [openResult, hopen])]
    simp [OpenIsClean, openResult, hopen]
  by_cases hstat : p.stat = 0
  · by_cases hdir : p.directionOpen < 0
    · -- the direction file cannot be opened: the handle is stored, the export stays
      simp only [openTrace, if_neg hopen, hstat, ne_eq, not_true, if_false, if_pos hdir,
        Env.run_append, exportTrace, kernel_run_export hopen, kernel_run_refused hdir] at hrun
      obtain ⟨_, ⟨-, -, hexport, -⟩, rfl⟩ := hrun
      rw [openAllOrNothing_of_failure (by simp [openResult, hopen, hstat, hdir]),
        direction_kept_by_export_iff hexport]
      simp [OpenIsClean, openResult, hopen, hstat, hdir, and_comm, eq_comm]
    · -- the direction is written, and success reported whatever became of it
      simp only [openTrace, if_neg hopen, hstat, ne_eq, not_true, if_false, if_neg hdir,
        Env.run_append, exportTrace, kernel_run_export hopen, kernel_run_attribute hdir] at hrun
      obtain ⟨k₁, ⟨-, -, hexport, hsome⟩, -, -, -, hwrite⟩ := hrun
      have hresult : openResult dev pin p = (.ok, pin) := by simp [openResult, hopen, hstat, hdir]
      rw [hresult, openAllOrNothing_of_success,
        direction_after_write_iff hexport (hsome trivial) hwrite]
      simp [OpenIsClean, hopen, hstat, hdir]
  · -- the pin's directory is missing
    simp only [openTrace, if_neg hopen, if_pos hstat, ne_eq, exportTrace,
      kernel_run_export hopen] at hrun
    obtain ⟨-, -, hexport, -⟩ := hrun
    rw [openAllOrNothing_of_failure (by simp [openResult, hopen, hstat]),
      direction_kept_by_export_iff hexport]
    simp [OpenIsClean, openResult, hopen, hstat]

/-- **All or nothing, exactly.** Every execution of an open answers some pattern of
replies, and from any state of the kernel the open is all or nothing exactly for
the patterns of `OpenIsClean`. -/
theorem gpio_open_all_or_nothing_iff (board : Board) (k : Kernel) (dev pin : Int32)
    (mode : McuprGpioMode) :
    (∀ tr r, (mcuprGpioOpen dev pin mode).Path tr r →
      ∃ p, tr = openTrace pin mode p ∧ r = openResult dev pin p) ∧
    ∀ p k', (kernel board).Run k (openTrace pin mode p) k' →
      (OpenAllOrNothing k k' dev pin mode (openTrace pin mode p) (openResult dev pin p) ↔
        OpenIsClean board k dev pin mode p) :=
  ⟨fun _ _ hpath => mcuprGpioOpen_path_replies.mp hpath, fun _ _ hrun => openAllOrNothing_iff hrun⟩

section Successful

variable {board : Board} {k : Kernel} {pin : Int32} {p : OpenReplies} {q : Pin}

/-- An export that succeeds. -/
theorem export_run (hfd : ¬p.exportOpen < 0) (hfree : k.files p.exportOpen = none)
    (hn : ¬p.exportWrite < 0 ∧ p.exportWrite.toInt ≤ (bytes (decimal pin.toInt)).length)
    (havailable : board.available pin) (hnone : k.pins pin = none)
    (hdirection : q.direction = board.direction pin) :
    (kernel board).Run k (exportTrace pin p)
      { k with pins := Function.update k.pins pin (some q) } :=
  (kernel_run_export hfd).mpr ⟨hfree, rfl,
    Or.inr ⟨hn.1, hn.2, .exportPin pin q havailable hnone hdirection⟩, fun _ => by simp⟩

/-- Making an exported pin an output. -/
theorem directionOut_run {fd c : Int32} (hfd : ¬fd < 0) (hfree : k.files fd = none)
    (hq : k.pins pin = some q) :
    (kernel board).Run k [⟨.open (directionPath pin) .wronly, fd⟩,
        ⟨.write fd (directionText true), 3⟩, ⟨.close fd, c⟩]
      { k with pins := Function.update k.pins pin (some ⟨.output, false⟩) } := by
  have hn : ¬(3 : Int64) < 0 ∧ (3 : Int64).toInt ≤ (directionText true).length := by decide
  exact (kernel_run_attribute hfd).mpr ⟨present_directionPath.mpr (by simp [hq]), hfree, rfl,
    Or.inr ⟨hn.1, hn.2, .directionOut pin q hq⟩⟩

/-- The replies to an open of a pin with two digits, if it succeeds with the descriptor `fd`. -/
def newReplies (fd : Int32) : OpenReplies := ⟨fd, 2, 0, 0, fd, 3, 0⟩

/-- The calls of an open in which only the write to the export file may fail. -/
theorem openTrace_of_opened {fd : Int32} {n : Int64} (hfd : ¬fd < 0) :
    openTrace pin .output ⟨fd, n, 0, 0, fd, 3, 0⟩ = exportTrace pin ⟨fd, n, 0, 0, fd, 3, 0⟩ ++
      [⟨.open (directionPath pin) .wronly, fd⟩, ⟨.write fd (directionText true), 3⟩,
        ⟨.close fd, 0⟩] := by
  simp [openTrace, hfd]

/-- Opening a pin with two digits as an output. -/
theorem open_run_new {fd : Int32} (hfd : ¬fd < 0) (hfree : k.files fd = none)
    (hdigits : 2 ≤ (bytes (decimal pin.toInt)).length) (havailable : board.available pin)
    (hnone : k.pins pin = none) (hdirection : q.direction = board.direction pin) :
    (kernel board).Run k (openTrace pin .output (newReplies fd))
      ⟨k.files, Function.update (Function.update k.pins pin (some q)) pin
        (some ⟨.output, false⟩)⟩ := by
  have hn : ¬(2 : Int64) < 0 ∧ (2 : Int64).toInt = (2 : ℕ) := by decide
  rw [newReplies, openTrace_of_opened hfd]
  refine Env.run_append.mpr ⟨_, export_run hfd hfree ⟨hn.1, ?_⟩ havailable hnone hdirection,
    directionOut_run hfd hfree (Function.update_self ..)⟩
  rw [hn.2]
  exact Int.ofNat_le.mpr hdigits

end Successful

/-- Opening pin 17 as an output on an idle kernel. -/
theorem open_idle_run :
    (kernel .allInputs).Run .idle (openTrace 17 .output (newReplies 3))
      { Kernel.idle with pins := Function.update (Function.update Kernel.idle.pins 17
        (some ⟨.input, false⟩)) 17 (some ⟨.output, false⟩) } :=
  open_run_new (k := .idle) (by decide : ¬(3 : Int32) < 0) rfl
    (by decide : 2 ≤ (bytes (decimal (17 : Int32).toInt)).length) trivial rfl rfl

/-- The theorem at a successful open of pin 17 as an output. -/
theorem gpio_open_all_or_nothing_output17 :
    ∃ k', OpenAllOrNothing .idle k' (-1) 17 .output
      (openTrace 17 .output (newReplies 3)) (openResult (-1) 17 (newReplies 3)) :=
  ⟨_, ((gpio_open_all_or_nothing_iff .allInputs .idle (-1) 17 .output).2 _ _ open_idle_run).mpr
    (Or.inl (by decide))⟩

/-- The open is not always all or nothing: if the direction file of a newly exported
pin cannot be opened, the pin stays exported and the handle has been stored. -/
theorem exists_open_half_done :
    ¬∀ (board : Board) (k k' : Kernel) (dev pin : Int32) (mode : McuprGpioMode)
      (tr : List (Event Call Reply)) (r : McuprResult × Int32),
      (mcuprGpioOpen dev pin mode).Path tr r → (kernel board).Run k tr k' →
      OpenAllOrNothing k k' dev pin mode tr r := by
  intro hall
  have hpath : (mcuprGpioOpen (-1) 17 .output).Path _ _ :=
    mcuprGpioOpen_path_replies.mpr ⟨⟨3, 2, 0, 0, -1, 0, 0⟩, rfl, rfl⟩
  have hrun : (kernel .allInputs).Run .idle (openTrace 17 .output ⟨3, 2, 0, 0, -1, 0, 0⟩)
      { Kernel.idle with pins := Function.update Kernel.idle.pins 17 (some ⟨.input, false⟩) } :=
    Env.run_append.mpr ⟨_, export_run (by decide) rfl ⟨by decide, by decide⟩ trivial rfl rfl,
      (kernel_run_refused (by decide)).mpr rfl⟩
  obtain ⟨-, hdev⟩ := (openAllOrNothing_iff hrun).mp (hall _ _ _ _ _ _ _ _ hpath hrun)
  exact absurd hdev (by decide)

end McuPeripheral.Linuxdev
