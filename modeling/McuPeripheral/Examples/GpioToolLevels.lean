import McuPeripheral.Examples.GpioTool

/-!
# Series of commands

Whoever uses the command from a shell has its exit status and what it prints, and nothing else,
to tell what became of the pins. After any series of commands, with whatever arguments, each pin
is as the last command that succeeded for it left it.
-/

namespace McuPeripheral.GpioTool

open Calls Libc Linuxdev

/-! ## Opening and reading a pin -/

section Pins

variable {board : Board} {k k' : Kernel} {tr : List (Event Linuxdev.Call Linuxdev.Reply)}

/-- On a reliable kernel, setting a direction that succeeds sets it. -/
theorem gpioSetDir_direction {pin : Int32} {isOutput : Bool}
    (hpath : (sysfsGpioSetDir pin isOutput).Path tr .ok)
    (hrun : (reliableKernel board).Run k tr k') :
    ∃ level, k'.pins pin = some ⟨.ofOutput isOutput, level⟩ := by
  rw [sysfsGpioSetDir, snprintf_directionPath] at hpath
  obtain ⟨fd, hfd, rfl, h⟩ | ⟨fd, n, c, hfd, -, rfl⟩ := writeAttribute_path.mp hpath
  · cases h
  obtain ⟨hpresent, -, -, hwritten⟩ := (kernel_run_attribute hfd).mp (kernel_of_reliable hrun)
  obtain ⟨hn, -⟩ | ⟨-, ⟨direction, level⟩, rfl, -, hupdate⟩ := written_direction hwritten
  · obtain ⟨p, hp⟩ := Option.isSome_iff_exists.mp (present_directionPath.mp hpresent)
    obtain ⟨k₁, ⟨hopen, -⟩, _, ⟨-, hwrite⟩, -⟩ := hrun
    obtain ⟨-, -, -, rfl⟩ := hopen.resolve_left fun h => hfd h.1
    exact absurd hn (hwrite ⟨_, pin, p, k.opened_files_self fd _, hp, Or.inl rfl⟩)
  · exact ⟨level, by rw [hupdate, Function.update_self]⟩

/-- On a reliable kernel, a pin that is opened has the direction it was opened for. -/
theorem gpioOpen_direction {dev pin dev' : Int32} {mode : McuprGpioMode}
    (hpath : (mcuprGpioOpen dev pin mode).Path tr (.ok, dev'))
    (hrun : (reliableKernel board).Run k tr k') :
    ∃ level, k'.pins pin = some ⟨.ofOutput (mode = .output), level⟩ := by
  obtain ⟨hr, -⟩ | ⟨tr₁, tr₂, rfl, -, hexport, hdir⟩ := mcuprGpioOpen_path.mp hpath
  · exact absurd rfl hr
  · obtain ⟨k₁, -, hrun₂⟩ := Env.run_append.mp hrun
    exact gpioSetDir_direction hdir hrun₂

/-- On a reliable kernel, reading an exported pin delivers a level. -/
theorem gpioRead_level {stale : UInt8} {dev level : Int32} {p : Pin}
    (hpath : (mcuprGpioRead stale dev).Path tr level) (hrun : (reliableKernel board).Run k tr k')
    (hp : k.pins dev = some p) : level = 0 ∨ level = 1 := by
  obtain ⟨fd, hfd, -, rfl⟩ | ⟨fd, buf, c, hfd, hlevel, rfl⟩ := sysfsGpioReadValue_path.mp hpath
  · obtain ⟨_, ⟨-, hopen⟩, -⟩ := hrun
    exact absurd hfd (hopen ⟨dev, by simp [hp], Or.inr rfl⟩)
  · cases buf with
    | none =>
      obtain ⟨k₁, ⟨hopen, -⟩, _, ⟨-, hread⟩, -⟩ := hrun
      obtain ⟨-, -, -, rfl⟩ := hopen.resolve_left fun h => hfd h.1
      exact absurd rfl (hread ⟨_, dev, k.opened_files_self fd _, rfl, by simp [hp]⟩)
    | some data =>
      simp only [Option.elim_some] at hlevel
      split at hlevel
      · exact Or.inr hlevel
      · exact Or.inl hlevel

end Pins

/-! ## One command -/

/-- The pins are as the request wants them. -/
def Request.Met (pins : Int32 → Option Pin) : Request → Prop
  | .input pin => ∃ level, pins pin = some ⟨.input, level⟩
  | .output pin value => pins pin = some ⟨.output, decide (value ≠ 0)⟩

/-- Whether a request is met depends on its pin only. -/
theorem Request.Met.congr {pins pins' : Int32 → Option Pin} {r : Request} (h : r.Met pins)
    (hpin : pins' r.pin = pins r.pin) : r.Met pins' := by
  cases r with
  | input pin =>
    obtain ⟨level, hlevel⟩ := h
    exact ⟨level, hpin.trans hlevel⟩
  | output pin value => exact hpin.trans h

/-- A pin of a request that is met is exported. -/
theorem Request.Met.exported {pins : Int32 → Option Pin} {r : Request} (h : r.Met pins) :
    ∃ p, pins r.pin = some p := by
  cases r with
  | input pin =>
    obtain ⟨level, hlevel⟩ := h
    exact ⟨_, hlevel⟩
  | output pin value => exact ⟨_, h⟩

/-- What one command does to the kernel: it leaves no descriptor open and affects at most the
pin it is about; if it succeeds its request is met, and otherwise every request that was met
still is. -/
structure CommandSpec (i : Invocation Command.prog) (k k' : Kernel) : Prop where
  files : k'.files = k.files
  others : ∀ pin, (∀ r, Asks i.op.argv r → r.pin ≠ pin) → k'.pins pin = k.pins pin
  succeeded : ∀ r, Asks i.op.argv r → i.result = 0 → r.Met k'.pins
  failed : i.result ≠ 0 → ∀ r : Request, r.Met k.pins → r.Met k'.pins
  shown : ∀ pin, Asks i.op.argv (.input pin) → i.result = 0 →
    texts .stdout i.trace = [levelText 0] ∨ texts .stdout i.trace = [levelText 1]

section OneCommand

variable {board : Board} {i : Invocation Command.prog} {k k' : Kernel}

/-- A command that stops before it touches the pins. -/
theorem CommandSpec.of_refused (hresult : i.result = 1) : CommandSpec i k k where
  files := rfl
  others _ _ := rfl
  succeeded r hasks h := by
    rw [hresult] at h
    exact absurd h (by decide)
  failed _ r h := h
  shown pin hasks h := by
    rw [hresult] at h
    exact absurd h (by decide)

/-- The allocation leaves the kernel as it is. -/
theorem run_chipCall {chip : Option Ptr} {tr : List (Event Linuxdev.Call Linuxdev.Reply)}
    (hrun : (reliableKernel board).Run k (chipCall chip :: tr) k') :
    (reliableKernel board).Run k tr k' := by
  obtain ⟨_, ⟨rfl, -⟩, hrest⟩ := hrun
  exact hrest

/-- A command that cannot open its pin leaves an exported pin as it was. -/
theorem CommandSpec.of_notOpened {r : Request} {tr : List (Event Linuxdev.Call Linuxdev.Reply)}
    {dev dev' : Int32} {res : McuprResult} (hasks : Asks i.op.argv r) (hresult : i.result = 1)
    (hres : res ≠ .ok) (hopen : (mcuprGpioOpen dev r.pin r.mode).Path tr (res, dev'))
    (hrun : (reliableKernel board).Run k tr k') : CommandSpec i k k' := by
  obtain ⟨hfiles, hother⟩ := gpioOpen_pins hopen (kernel_of_reliable hrun)
  obtain ⟨-, hkept⟩ := gpioOpen_reliable hopen hrun
  refine ⟨hfiles, fun pin hpin => hother pin (hpin r hasks).symm, ?_, ?_, ?_⟩
  · intro r' _ hzero
    rw [hresult] at hzero
    exact absurd hzero (by decide)
  · intro _ r' hmet
    refine hmet.congr ?_
    by_cases hpin : r'.pin = r.pin
    · obtain ⟨p, hp⟩ := hmet.exported
      rw [hp, hpin]
      exact hkept hres p (hpin ▸ hp)
    · exact hother r'.pin hpin
  · intro pin _ hzero
    rw [hresult] at hzero
    exact absurd hzero (by decide)

/-- Every command is like that on a reliable kernel. -/
theorem commandSpec (hrun : (reliableKernel board).hosted.Run k i.trace k') :
    CommandSpec i k k' := by
  have hcalls := run_hosted.mp hrun
  have hexecution := main_execution i.performed
  generalize apiCalls i.trace = calls at hcalls hexecution
  generalize hout : texts .stdout i.trace = out at hexecution
  generalize texts .stderr i.trace = err at hexecution
  generalize hresult : i.result = status at hexecution
  cases hexecution with
  | noMemory | refused =>
    obtain rfl := run_chipCall hcalls
    exact .of_refused hresult
  | notOpened p r tr res dev' hasks hres hopen =>
    exact .of_notOpened hasks hresult hres hopen (run_chipCall hcalls)
  | set p pin value tr tr' hasks hopen hwrite =>
    obtain ⟨k₁, hrun₁, hrun₂⟩ := Env.run_append.mp (run_chipCall hcalls)
    obtain ⟨hfiles, hother⟩ := gpioOpen_pins hopen (kernel_of_reliable hrun₁)
    obtain ⟨hfiles', hother', hset⟩ := gpioWrite_pins hwrite (kernel_of_reliable hrun₂)
    have hlow := (gpioOpen_reliable hopen hrun₁).1 rfl rfl
    refine ⟨hfiles'.trans hfiles, ?_, ?_, fun hne => absurd hresult hne, ?_⟩
    · intro q hq
      have hne := (hq _ hasks).symm
      exact (hother' q hne).trans (hother q hne)
    · intro r hr _
      obtain rfl := hasks.unique hr
      exact hset hrun₂ false hlow
    · intro pin' hasks'
      cases hasks.unique hasks'
  | shown p pin level tr tr' hasks hopen hread =>
    obtain ⟨k₁, hrun₁, hrun₂⟩ := Env.run_append.mp (run_chipCall hcalls)
    obtain ⟨hfiles, hother⟩ := gpioOpen_pins hopen (kernel_of_reliable hrun₁)
    obtain ⟨hfiles', hpins, -⟩ := gpioRead_pins hread (kernel_of_reliable hrun₂)
    obtain ⟨before, hinput⟩ := gpioOpen_direction hopen hrun₁
    refine ⟨hfiles'.trans hfiles, ?_, ?_, fun hne => absurd hresult hne, ?_⟩
    · intro q hq
      rw [hpins]
      exact hother q (hq _ hasks).symm
    · intro r hr _
      obtain rfl := hasks.unique hr
      exact ⟨before, by rw [hpins]; exact hinput⟩
    · intro _ _ _
      rw [hout]
      obtain rfl | rfl := gpioRead_level hread hrun₂ hinput
      · exact Or.inl rfl
      · exact Or.inr rfl

end OneCommand

/-! ## A series of commands -/

/-- Whoever types the commands may type any command at any time. -/
def AnyCommand (_ : List (Invocation Command.prog)) (_ : Command) : Prop := True

/-- No command of the series has succeeded for the pin. -/
def NoneFor (pin : Int32) (h : List (Invocation Command.prog)) : Prop :=
  ∀ i ∈ h, ∀ r, Asks i.op.argv r → r.pin = pin → i.result ≠ 0

/-- What a series of commands has done to the kernel, which was `k₀` at the start. -/
structure SeriesSpec (k₀ : Kernel) (h : List (Invocation Command.prog)) (k : Kernel) : Prop where
  met : ∀ pre i post r, h = pre ++ i :: post → Asks i.op.argv r → i.result = 0 →
    NoneFor r.pin post → r.Met k.pins
  shown : ∀ i ∈ h, ∀ pin, Asks i.op.argv (.input pin) → i.result = 0 →
    texts .stdout i.trace = [levelText 0] ∨ texts .stdout i.trace = [levelText 1]
  others : ∀ pin, (∀ i ∈ h, ∀ r, Asks i.op.argv r → r.pin ≠ pin) → k.pins pin = k₀.pins pin
  files : k.files = k₀.files

/-- A request that is met stays met while no command succeeds for its pin. -/
theorem CommandSpec.keeps {i : Invocation Command.prog} {k k' : Kernel} {r : Request}
    (h : CommandSpec i k k') (hnone : NoneFor r.pin [i]) (hmet : r.Met k.pins) : r.Met k'.pins := by
  by_cases hresult : i.result = 0
  · refine hmet.congr (h.others r.pin fun r' hasks hpin => ?_)
    exact hnone i List.mem_cons_self r' hasks hpin hresult
  · exact h.failed hresult r hmet

/-- One more command. -/
theorem SeriesSpec.step {k₀ k k' : Kernel} {h : List (Invocation Command.prog)}
    {i : Invocation Command.prog} (hseries : SeriesSpec k₀ h k) (hcommand : CommandSpec i k k') :
    SeriesSpec k₀ (h ++ [i]) k' := by
  refine ⟨?_, ?_, ?_, hcommand.files.trans hseries.files⟩
  · intro pre j post r hsplit hasks hresult hnone
    rcases List.eq_nil_or_concat post with rfl | ⟨post, i', rfl⟩
    · obtain ⟨-, hlast⟩ := List.append_inj' hsplit rfl
      obtain rfl := List.singleton_inj.mp hlast
      exact hcommand.succeeded r hasks hresult
    · rw [List.concat_eq_append, ← List.cons_append, ← List.append_assoc] at hsplit
      obtain ⟨hfront, hlast⟩ := List.append_inj' hsplit rfl
      obtain rfl := List.singleton_inj.mp hlast
      rw [List.concat_eq_append] at hnone
      have hmet := hseries.met pre j post r hfront hasks hresult fun j' hj' =>
        hnone j' (List.mem_append_left _ hj')
      exact hcommand.keeps (fun j' hj' => hnone j' (List.mem_append_right _ hj')) hmet
  · intro j hj
    rcases List.mem_append.mp hj with hj | hj
    · exact hseries.shown j hj
    · obtain rfl := List.mem_singleton.mp hj
      exact hcommand.shown
  · intro pin hpin
    rw [hcommand.others pin (hpin i (by simp))]
    exact hseries.others pin fun j hj => hpin j (List.mem_append_left _ hj)

/-- Setting pin 17, which is written in octal here. -/
def setPin17 : Command := ⟨["gpio".toList, ['0', '2', '1'], ['1']], none, -1, 0⟩

/-- Its request. -/
theorem setPin17_asks : Asks setPin17.argv (.output 17 1) :=
  .output (denotes_iff.mpr (by decide)) (denotes_iff.mpr (by decide))

/-- Its calls on an idle kernel. -/
def setPin17Calls : List (Event Linuxdev.Call Linuxdev.Reply) :=
  openTrace 17 .output ⟨3, 2, 0, 0, 3, 3, 0⟩ ++ [⟨.open (valuePath 17) .wronly, 3⟩,
    ⟨.write 3 (valueText true), 1⟩, ⟨.close 3, 0⟩]

/-- It may succeed with these. -/
theorem setPin17_path :
    setPin17.prog.Path ((chipCall (some ⟨0, 0⟩) :: setPin17Calls).map inHost) 0 := by
  have hopen : (mcuprGpioOpen (-1) 17 .output).Path _ (.ok, 17) :=
    mcuprGpioOpen_path_replies.mpr ⟨⟨3, 2, 0, 0, 3, 3, 0⟩, rfl, rfl⟩
  have hwrite : (mcuprGpioWrite 17 1).Path [⟨.open (valuePath 17) .wronly, 3⟩,
      ⟨.write 3 (valueText true), 1⟩, ⟨.close 3, 0⟩] () := by
    refine mcuprGpioWrite_path.mpr ⟨.ok, ?_⟩
    rw [sysfsGpioWriteValue, snprintf_valuePath]
    exact writeAttribute_path.mpr (Or.inr ⟨3, 1, 0, by decide, rfl, rfl⟩)
  refine path_api_bind.mpr ⟨_, _, _, rfl, mcuprGpioChipCreate_path.mpr
    (Or.inr ⟨⟨0, 0⟩, rfl, rfl, rfl⟩), ?_⟩
  refine Prog.path_ite.mpr (Or.inr ⟨by decide, ?_⟩)
  refine Prog.path_ite.mpr (Or.inr ⟨by decide, ?_⟩)
  refine Prog.path_ite.mpr (Or.inr ⟨by decide, ?_⟩)
  refine Prog.path_ite.mpr (Or.inl ⟨by decide, ?_⟩)
  refine Prog.path_ite.mpr (Or.inr ⟨by decide, ?_⟩)
  refine path_api_bind.mpr ⟨_, (.ok, 17), _, rfl, hopen, ?_⟩
  refine Prog.path_ite.mpr (Or.inr ⟨by decide, ?_⟩)
  refine path_api_bind.mpr ⟨_, (), [], rfl, hwrite, ?_⟩
  exact path_api_bind.mpr ⟨[], (), [], rfl, ⟨rfl, rfl⟩, path_api_bind.mpr
    ⟨[], (), [], rfl, ⟨rfl, rfl⟩, rfl, rfl⟩⟩

end McuPeripheral.GpioTool
