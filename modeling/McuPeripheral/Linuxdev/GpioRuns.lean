import McuPeripheral.Linuxdev.Kernel

/-!
# What the GPIO functions do to the kernel

Each sysfs helper opens one descriptor, uses it once and releases it, so the
descriptor table is the same before and after. What it does to the pins is the
effect of its one write, if that write was accepted.
-/

namespace McuPeripheral.Linuxdev

open Calls Libc

variable {board : Board} {k k' : Kernel} {pin : Int32}

/-- The export file is always there. -/
theorem present_exportPath (pins : Int32 → Option Pin) : Present pins exportPath := by
  intro pin h
  have hne := fun name => (gpioPath_append_ne pin name).1.symm
  rcases h with h | h | h
  · exact absurd h (by simpa using hne [])
  · exact absurd h (hne _)
  · exact absurd h (hne _)

/-- A pin's directory is there exactly while the pin is exported. -/
theorem present_gpioPath {pins : Int32 → Option Pin} :
    Present pins (gpioPath pin) ↔ (pins pin).isSome := by
  refine ⟨fun h => h pin (Or.inl rfl), fun h q hq => ?_⟩
  rcases hq with hq | hq | hq
  · rwa [← gpioPath_injective hq]
  · exact absurd hq (gpioPath_ne_append pin q _)
  · exact absurd hq (gpioPath_ne_append pin q _)

/-- A direction file is there exactly while its pin is exported. -/
theorem present_directionPath {pins : Int32 → Option Pin} :
    Present pins (directionPath pin) ↔ (pins pin).isSome := by
  refine ⟨fun h => h pin (Or.inr (Or.inl rfl)), fun h q hq => ?_⟩
  rcases hq with hq | hq | hq
  · exact absurd hq.symm (gpioPath_ne_append q pin _)
  · rwa [← directionPath_injective hq]
  · exact absurd hq (directionPath_ne_valuePath pin q)

/-- A value file is there exactly while its pin is exported. -/
theorem present_valuePath {pins : Int32 → Option Pin} :
    Present pins (valuePath pin) ↔ (pins pin).isSome := by
  refine ⟨fun h => h pin (Or.inr (Or.inr rfl)), fun h q hq => ?_⟩
  rcases hq with hq | hq | hq
  · exact absurd hq.symm (gpioPath_ne_append q pin _)
  · exact absurd hq.symm (directionPath_ne_valuePath q pin)
  · rwa [← valuePath_injective hq]

/-- The outcome `n` of writing `text` to the file `path`: nothing happens to the pins if
it fails, and what `SysfsWrite` says if it does not. -/
def Written (board : Board) (pins : Int32 → Option Pin) (path : List Char) (text : List UInt8)
    (n : Int64) (pins' : Int32 → Option Pin) : Prop :=
  (n < 0 ∧ pins' = pins) ∨
    (¬n < 0 ∧ n.toInt ≤ text.length ∧ SysfsWrite board pins path text pins')

/-- A refused open leaves the kernel as it is. -/
theorem kernel_run_refused {path : List Char} {flag : OpenFlag} {fd : Int32} (hfd : fd < 0) :
    (kernel board).Run k [⟨.open path flag, fd⟩] k' ↔ k' = k := by
  simp [kernel, kernelStep, hfd]

/-- Open, write and close an attribute: the descriptor table is restored. -/
theorem kernel_run_attribute {path : List Char} {flag : OpenFlag} {text : List UInt8}
    {fd c : Int32} {n : Int64} (hfd : ¬fd < 0) :
    (kernel board).Run k [⟨.open path flag, fd⟩, ⟨.write fd text, n⟩, ⟨.close fd, c⟩] k' ↔
      Present k.pins path ∧ k.files fd = none ∧ k'.files = k.files ∧
        Written board k.pins path text n k'.pins := by
  simp only [Env.run_cons, Env.run_nil, kernel, kernelStep, hfd, false_and, false_or,
    not_false_eq_true, true_and]
  constructor
  · rintro ⟨_, ⟨hpresent, hfree, rfl⟩, k₂, hwrite, _, rfl, rfl⟩
    refine ⟨hpresent, hfree, ?_⟩
    obtain ⟨hn, rfl⟩ | ⟨hn, hlength, f, pins', hf, hw, rfl⟩ := hwrite
    · exact ⟨k.opened_closed_files hfree path, Or.inl ⟨hn, rfl⟩⟩
    · obtain rfl : OpenFile.fresh path = f := by simpa using hf
      exact ⟨k.opened_closed_files hfree path, Or.inr ⟨hn, hlength, hw⟩⟩
  · rintro ⟨hpresent, hfree, hfiles, hwritten⟩
    refine ⟨_, ⟨hpresent, hfree, rfl⟩, ⟨(k.opened fd path).files, k'.pins⟩, ?_, _, rfl, ?_⟩
    · obtain ⟨hn, hpins⟩ | ⟨hn, hlength, hw⟩ := hwritten
      · exact Or.inl ⟨hn, by rw [hpins]; rfl⟩
      · exact Or.inr ⟨hn, hlength, _, k'.pins, k.opened_files_self fd path, hw, rfl⟩
    · have hrestore := k.opened_closed_files hfree path
      simp only [Kernel.closed] at hrestore ⊢
      rw [hrestore, ← hfiles]

/-- An export that gets past the open: one write to the export file, and then the answer
whether the pin's directory is there. -/
theorem kernel_run_export {fd c st : Int32} {n : Int64} (hfd : ¬fd < 0) :
    (kernel board).Run k [⟨.open exportPath .wronly, fd⟩,
        ⟨.write fd (bytes (decimal pin.toInt)), n⟩, ⟨.close fd, c⟩, ⟨.stat (gpioPath pin), st⟩] k' ↔
      k.files fd = none ∧ k'.files = k.files ∧
        Written board k.pins exportPath (bytes (decimal pin.toInt)) n k'.pins ∧
        (st = 0 → (k'.pins pin).isSome) := by
  rw [show [⟨.open exportPath .wronly, fd⟩, ⟨.write fd (bytes (decimal pin.toInt)), n⟩,
      ⟨.close fd, c⟩, ⟨.stat (gpioPath pin), st⟩] =
      ([⟨.open exportPath .wronly, fd⟩, ⟨.write fd (bytes (decimal pin.toInt)), n⟩,
        ⟨.close fd, c⟩] ++ [⟨.stat (gpioPath pin), st⟩] : List (Event Call Reply)) from rfl,
    Env.run_append]
  simp only [kernel_run_attribute hfd, present_exportPath, true_and]
  constructor
  · rintro ⟨k₁, ⟨hfree, hfiles, hwritten⟩, _, ⟨rfl, hst⟩, rfl⟩
    exact ⟨hfree, hfiles, hwritten, fun h => present_gpioPath.mp (hst h)⟩
  · rintro ⟨hfree, hfiles, hwritten, hst⟩
    exact ⟨k', ⟨hfree, hfiles, hwritten⟩, k', ⟨rfl, fun h => present_gpioPath.mpr (hst h)⟩, rfl⟩

/-- Reading a value changes nothing, and delivers the contents of the value file. -/
theorem kernel_run_value {fd c : Int32} {buf : Option (List UInt8)} (hfd : ¬fd < 0)
    (hrun : (kernel board).Run k [⟨.open (valuePath pin) .rdonly, fd⟩, ⟨.read fd 4, buf⟩,
      ⟨.close fd, c⟩] k') :
    k'.files = k.files ∧ k'.pins = k.pins ∧ (k.pins pin).isSome ∧
      ∀ data p, buf = some data → k.pins pin = some p →
        ∃ contents, ValueContents p contents ∧ data = contents.take 4 := by
  simp only [Env.run_cons, Env.run_nil, kernel, kernelStep, hfd, false_and, false_or,
    not_false_eq_true, true_and] at hrun
  obtain ⟨_, ⟨hpresent, hfree, rfl⟩, _, ⟨rfl, hread⟩, _, rfl, rfl⟩ := hrun
  refine ⟨k.opened_closed_files hfree _, rfl, present_valuePath.mp hpresent, ?_⟩
  intro data p hbuf hp
  obtain ⟨-, f, hf, hcontents⟩ := hread data hbuf
  obtain rfl : OpenFile.fresh (valuePath pin) = f := by simpa using hf
  exact hcontents pin p rfl hp

/-- A value file with such contents can be read so. -/
theorem kernel_run_value_of_contents {fd c : Int32} {p : Pin} {contents : List UInt8}
    (hfd : ¬fd < 0) (hfree : k.files fd = none) (hp : k.pins pin = some p)
    (hcontents : ValueContents p contents) :
    (kernel board).Run k [⟨.open (valuePath pin) .rdonly, fd⟩, ⟨.read fd 4, some (contents.take 4)⟩,
      ⟨.close fd, c⟩] k := by
  refine ⟨_, Or.inr ⟨hfd, present_valuePath.mpr (by simp [hp]), hfree, rfl⟩, _, ⟨rfl, ?_⟩, _, rfl,
    ?_⟩
  · rintro _ ⟨rfl⟩
    refine ⟨List.length_take_le 4 contents, _, k.opened_files_self fd _, ?_⟩
    intro pin' p' hpath hp'
    obtain rfl := valuePath_injective hpath
    obtain rfl : p = p' := by simpa [hp] using hp'
    exact ⟨contents, hcontents, rfl⟩
  · have hrestore := k.opened_closed_files hfree (valuePath pin)
    simp only [Kernel.closed] at hrestore ⊢
    rw [hrestore]
    rfl

/-! ## The effect on the pins -/

section Pins

variable {pins pins' : Int32 → Option Pin} {n : Int64}

/-- An export changes nothing, or exports the pin. -/
theorem written_export
    (h : Written board pins exportPath (bytes (decimal pin.toInt)) n pins') :
    (n < 0 ∧ pins' = pins) ∨ (¬n < 0 ∧ pins pin = none ∧
      ∃ p, p.direction = board.direction pin ∧ pins' = Function.update pins pin (some p)) := by
  obtain h | ⟨hn, -, h⟩ := h
  · exact Or.inl h
  · exact Or.inr ⟨hn, sysfsWrite_export h⟩

/-- Setting the direction of a pin changes nothing, or sets it. -/
theorem written_direction {isOutput : Bool}
    (h : Written board pins (directionPath pin) (directionText isOutput) n pins') :
    (n < 0 ∧ pins' = pins) ∨ (¬n < 0 ∧ ∃ p, p.direction = .ofOutput isOutput ∧
      (isOutput = true → p.level = false) ∧ pins' = Function.update pins pin (some p)) := by
  obtain h | ⟨hn, -, h⟩ := h
  · exact Or.inl h
  · exact Or.inr ⟨hn, (sysfsWrite_direction h).2⟩

/-- Writing a level changes nothing, or sets the level of an output. -/
theorem written_value {high : Bool}
    (h : Written board pins (valuePath pin) (valueText high) n pins') :
    (n < 0 ∧ pins' = pins) ∨ (¬n < 0 ∧ (∃ level, pins pin = some ⟨.output, level⟩) ∧
      pins' = Function.update pins pin (some ⟨.output, high⟩)) := by
  obtain h | ⟨hn, -, h⟩ := h
  · exact Or.inl h
  · exact Or.inr ⟨hn, sysfsWrite_value h⟩

end Pins

end McuPeripheral.Linuxdev
