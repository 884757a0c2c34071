import McuPeripheral.Calls.Host
import McuPeripheral.Calls.Monitor
import McuPeripheral.Libc.Arguments
import McuPeripheral.Linuxdev.GpioLevels

/-!
# The program `examples/gpio.c`

A command that reads a pin or sets it. Its arguments are numerals; a request is what they ask
for, and every execution refuses the arguments, gives up, or carries the request out. The texts
are those the command prints itself; the log of the library goes through a hook of its own.
-/

namespace McuPeripheral.GpioTool

open Calls Libc Linuxdev

/-- A program linked with the Linux device backend. -/
@[reducible] def Tool (α : Type) : Type :=
  Prog (HostCall Linuxdev.Call) (HostReply Linuxdev.Reply) α

/-- What `usage` prints. -/
def usageTexts : List (List Char) :=
  ["Usage:\n".toList, "    gpio [gpio number]          (input)\n".toList,
    "    gpio [gpio number] [value]  (output)\n".toList]

/-- `usage`. -/
def usage : Tool Unit := usageTexts.forM printf

/-- What is printed for the level of a pin. -/
def levelText (level : Int32) : List Char := decimal level.toInt ++ ['\n']

/-- What is printed for a pin that is not a number. -/
def invalidPinText (arg : List Char) : List Char := "Invalid GPIO ".toList ++ arg ++ ['\n']

/-- What is printed for a value that is not a number. -/
def invalidValueText (arg : List Char) : List Char := "Invalid value ".toList ++ arg ++ ['\n']

/-- `main` from the call of `mcupr_gpio_open` on: the exit status. `output` is the value for an
output, `dev` what the variable `gpio_dev` holds before it is set, and `stale` the first byte of
the buffer that a level is read into. -/
def operate (chip : Option GpioChip) (dev pin : Int32) (output : Option Int32) (stale : UInt8) :
    Tool Int32 := do
  let (result, dev) ← api (mcuprGpioOpen dev pin (if output.isSome then .output else .input))
  if result ≠ .ok then return 1
  match output with
  | some value => api (mcuprGpioWrite dev value)
  | none =>
    let level ← api (mcuprGpioRead stale dev)
    printf (levelText level)
  api (mcuprGpioClose dev)
  api (mcuprGpioChipRelease chip)
  return 0

/-- `main`: the exit status. The second message names the first argument too. -/
def main (argv : List (List Char)) (chip : Option GpioChip) (dev : Int32) (stale : UInt8) :
    Tool Int32 := do
  let (result, chip) ← api (mcuprGpioChipCreate chip)
  if result ≠ .ok then return 1
  if argv.length < 2 ∨ 3 < argv.length then
    usage
    return 1
  let pin := (strtol (argv.getD 1 [])).toInt32
  if strtolTail (argv.getD 1 []) ≠ [] then
    eprintf (invalidPinText (argv.getD 1 []))
    return 1
  if argv.length = 3 then
    let value := (strtol (argv.getD 2 [])).toInt32
    if strtolTail (argv.getD 2 []) ≠ [] then
      eprintf (invalidValueText (argv.getD 1 []))
      return 1
    operate chip dev pin (some value) stale
  else
    operate chip dev pin none stale

/-! ## Requests -/

/-- The `int` that an argument denotes: nothing at all is zero, and a numeral is first clamped
to `long` and then narrowed. -/
def Denotes (arg : List Char) (n : Int32) : Prop :=
  (arg = [] ∧ n = 0) ∨ ∃ m, Numeral arg m ∧ n = (Int64.ofIntClamp m).toInt32

/-- The arguments that are accepted, and what they are read as. -/
theorem denotes_iff {arg : List Char} {n : Int32} :
    Denotes arg n ↔ strtolTail arg = [] ∧ n = (strtol arg).toInt32 := by
  rw [strtolTail_eq_nil_iff]
  constructor
  · rintro (⟨rfl, rfl⟩ | ⟨m, hm, rfl⟩)
    · exact ⟨Or.inl rfl, rfl⟩
    · exact ⟨Or.inr ⟨m, hm⟩, by rw [strtol_eq hm]⟩
  · rintro ⟨rfl | ⟨m, hm⟩, rfl⟩
    · exact Or.inl ⟨rfl, rfl⟩
    · exact Or.inr ⟨m, hm, by rw [strtol_eq hm]⟩

/-- What the program is asked to do. -/
inductive Request
  | input (pin : Int32)
  | output (pin value : Int32)
  deriving DecidableEq, Repr

/-- The pin it is about. -/
def Request.pin : Request → Int32
  | .input pin | .output pin _ => pin

/-- The mode the pin is opened in. -/
def Request.mode : Request → McuprGpioMode
  | .input _ => .input
  | .output .. => .output

/-- The value of an output. -/
def Request.value : Request → Option Int32
  | .input _ => none
  | .output _ value => some value

/-- A command line, program name included, that asks for something. -/
inductive Asks : List (List Char) → Request → Prop
  | input {name arg : List Char} {pin : Int32} (hpin : Denotes arg pin) :
      Asks [name, arg] (.input pin)
  | output {name arg arg' : List Char} {pin value : Int32} (hpin : Denotes arg pin)
      (hvalue : Denotes arg' value) : Asks [name, arg, arg'] (.output pin value)

/-- A command line asks for one thing only. -/
theorem Asks.unique {argv : List (List Char)} {r r' : Request} (h : Asks argv r)
    (h' : Asks argv r') : r = r' := by
  cases h with
  | input hpin =>
    cases h' with
    | input hpin' => rw [(denotes_iff.mp hpin).2, (denotes_iff.mp hpin').2]
  | output hpin hvalue =>
    cases h' with
    | output hpin' hvalue' =>
      rw [(denotes_iff.mp hpin).2, (denotes_iff.mp hpin').2, (denotes_iff.mp hvalue).2,
        (denotes_iff.mp hvalue').2]

/-- What is printed, on the two streams, for a command line that asks for nothing: the usage if
the number of arguments is wrong, and else a message about the first argument that is not a
number. The message about the second argument names the first one. -/
inductive Complaint (argv : List (List Char)) : List (List Char) → List (List Char) → Prop
  | count (hcount : argv.length < 2 ∨ 3 < argv.length) : Complaint argv usageTexts []
  | pin (hcount : argv.length = 2 ∨ argv.length = 3) (hpin : ∀ n, ¬Denotes (argv.getD 1 []) n) :
      Complaint argv [] [invalidPinText (argv.getD 1 [])]
  | value (hcount : argv.length = 3) (hpin : ∃ n, Denotes (argv.getD 1 []) n)
      (hvalue : ∀ n, ¬Denotes (argv.getD 2 []) n) :
      Complaint argv [] [invalidValueText (argv.getD 1 [])]

example : Complaint ["gpio".toList, ['1', '7'], ['1', 'x']] [] ["Invalid value 17\n".toList] :=
  .value rfl ⟨17, denotes_iff.mpr (by decide)⟩ fun _ h => absurd (denotes_iff.mp h).1 (by decide)

/-- There is only a complaint about such a command line. -/
theorem Complaint.asks_nothing {argv : List (List Char)} {out err : List (List Char)}
    (h : Complaint argv out err) (r : Request) : ¬Asks argv r := by
  intro hasks
  cases hasks with
  | input hpin =>
    cases h with
    | count hcount => simp at hcount
    | pin _ hnone => exact hnone _ hpin
    | value hcount => simp at hcount
  | output hpin hvalue =>
    cases h with
    | count hcount => simp at hcount
    | pin _ hnone => exact hnone _ hpin
    | value _ _ hnone => exact hnone _ hvalue

/-! ## Executions -/

/-- The allocation that every execution begins with. -/
def chipCall (chip : Option Ptr) : Event Linuxdev.Call Linuxdev.Reply := ⟨.libc (.calloc 12), chip⟩

/-- What an execution does: its calls of the system, the texts it prints to the two streams, and
its exit status. -/
inductive Execution (argv : List (List Char)) (dev : Int32) (stale : UInt8) :
    List (Event Linuxdev.Call Linuxdev.Reply) → List (List Char) → List (List Char) → Int32 → Prop
  /-- There is no memory. -/
  | noMemory : Execution argv dev stale [chipCall none] [] [] 1
  /-- Nothing is asked for. -/
  | refused (p : Ptr) (out err : List (List Char)) (hcomplaint : Complaint argv out err) :
      Execution argv dev stale [chipCall (some p)] out err 1
  /-- The pin is not opened. -/
  | notOpened (p : Ptr) (r : Request) (tr : List (Event Linuxdev.Call Linuxdev.Reply))
      (res : McuprResult) (dev' : Int32) (hasks : Asks argv r) (hres : res ≠ .ok)
      (hopen : (mcuprGpioOpen dev r.pin r.mode).Path tr (res, dev')) :
      Execution argv dev stale (chipCall (some p) :: tr) [] [] 1
  /-- The pin is set. -/
  | set (p : Ptr) (pin value : Int32) (tr tr' : List (Event Linuxdev.Call Linuxdev.Reply))
      (hasks : Asks argv (.output pin value))
      (hopen : (mcuprGpioOpen dev pin .output).Path tr (.ok, pin))
      (hwrite : (mcuprGpioWrite pin value).Path tr' ()) :
      Execution argv dev stale (chipCall (some p) :: (tr ++ tr')) [] [] 0
  /-- The pin is read. -/
  | shown (p : Ptr) (pin level : Int32) (tr tr' : List (Event Linuxdev.Call Linuxdev.Reply))
      (hasks : Asks argv (.input pin)) (hopen : (mcuprGpioOpen dev pin .input).Path tr (.ok, pin))
      (hread : (mcuprGpioRead stale pin).Path tr' level) :
      Execution argv dev stale (chipCall (some p) :: (tr ++ tr')) [levelText level] [] 0

section Executions

variable {argv : List (List Char)} {chip : Option GpioChip} {dev : Int32} {stale : UInt8}
  {tr : List (Event (HostCall Linuxdev.Call) (HostReply Linuxdev.Reply))} {status : Int32}

/-- The device of an opened pin is the pin. -/
theorem opened_dev {pin dev' : Int32} {mode : McuprGpioMode}
    {tr : List (Event Linuxdev.Call Linuxdev.Reply)}
    (h : (mcuprGpioOpen dev pin mode).Path tr (.ok, dev')) : dev' = pin := by
  obtain ⟨hok, -⟩ | ⟨_, _, -, hdev, -⟩ := mcuprGpioOpen_path.mp h
  · exact absurd rfl hok
  · exact hdev

/-- The usage is printed, and nothing else is done. -/
theorem usage_path {u : Unit} (h : usage.Path tr u) :
    apiCalls tr = [] ∧ texts .stdout tr = usageTexts ∧ texts .stderr tr = [] := by
  obtain ⟨_, rfl, hrest₁⟩ := path_printf_bind.mp h
  obtain ⟨_, rfl, hrest₂⟩ := path_printf_bind.mp hrest₁
  obtain ⟨_, rfl, rfl, rfl⟩ := path_printf_bind.mp hrest₂
  exact ⟨rfl, rfl, rfl⟩

/-- What is done for a request. -/
theorem operate_execution {r : Request} (p : Ptr) (hasks : Asks argv r)
    (h : (operate chip dev r.pin r.value stale).Path tr status) :
    Execution argv dev stale (chipCall (some p) :: apiCalls tr) (texts .stdout tr)
      (texts .stderr tr) status := by
  obtain ⟨opened, ⟨res, dev'⟩, _, rfl, hopen, hrest₁⟩ := path_api_bind.mp h
  rw [Prog.path_ite] at hrest₁
  obtain ⟨hrefused, rfl, rfl⟩ | ⟨hok, hrest₂⟩ := hrest₁
  · simp only [apiCalls_inHost, texts_inHost, List.append_nil]
    cases r with
    | input pin => exact .notOpened p _ opened res dev' hasks hrefused hopen
    | output pin value => exact .notOpened p _ opened res dev' hasks hrefused hopen
  obtain rfl : res = .ok := not_not.mp hok
  obtain rfl := opened_dev hopen
  cases r with
  | input pin =>
    obtain ⟨read, level, _, rfl, hread, hrest₃⟩ := path_api_bind.mp hrest₂
    obtain ⟨_, rfl, hrest₄⟩ := path_printf_bind.mp hrest₃
    obtain ⟨_, _, _, rfl, ⟨rfl, -⟩, hrest₅⟩ := path_api_bind.mp hrest₄
    obtain ⟨_, _, _, rfl, ⟨rfl, -⟩, rfl, rfl⟩ := path_api_bind.mp hrest₅
    simpa using Execution.shown p pin level opened read hasks hopen hread
  | output pin value =>
    obtain ⟨written, _, _, rfl, hwrite, hrest₃⟩ := path_api_bind.mp hrest₂
    obtain ⟨_, _, _, rfl, ⟨rfl, -⟩, hrest₄⟩ := path_api_bind.mp hrest₃
    obtain ⟨_, _, _, rfl, ⟨rfl, -⟩, rfl, rfl⟩ := path_api_bind.mp hrest₄
    simpa using Execution.set p pin value opened written hasks hopen hwrite

/-- Every execution of the program is one of these. -/
theorem main_execution (h : (main argv chip dev stale).Path tr status) :
    Execution argv dev stale (apiCalls tr) (texts .stdout tr) (texts .stderr tr) status := by
  obtain ⟨_, ⟨res, chip'⟩, _, rfl, hcreate, hrest₁⟩ := path_api_bind.mp h
  obtain ⟨rfl, -, rfl⟩ | ⟨p, rfl, -, rfl⟩ := mcuprGpioChipCreate_path.mp hcreate
  · obtain ⟨rfl, rfl⟩ := hrest₁
    exact .noMemory
  have hrest₂ := (Prog.path_ite.mp hrest₁).resolve_left fun h => h.1 rfl
  obtain ⟨hcount, hrest₃⟩ | ⟨hcount, hrest₃⟩ := Prog.path_ite.mp hrest₂.2
  · obtain ⟨_, _, _, rfl, husage, rfl, rfl⟩ := Prog.path_bind.mp hrest₃
    obtain ⟨hcalls, hout, herr⟩ := usage_path husage
    simpa [hcalls, hout, herr, chipCall] using Execution.refused p _ _ (.count hcount)
  obtain ⟨hbad, hrest₄⟩ | ⟨hpin, hrest₄⟩ := Prog.path_ite.mp hrest₃
  · obtain ⟨_, rfl, rfl, rfl⟩ := path_eprintf_bind.mp hrest₄
    have hnone : ∀ n, ¬Denotes (argv.getD 1 []) n := fun n hn => hbad (denotes_iff.mp hn).1
    exact .refused p _ _ (.pin (by omega) hnone)
  have hpin := denotes_iff.mpr ⟨not_not.mp hpin, rfl⟩
  obtain ⟨hthree, hrest₅⟩ | ⟨htwo, hrest₅⟩ := Prog.path_ite.mp hrest₄
  · obtain ⟨name, arg, arg', rfl⟩ := List.length_eq_three.mp hthree
    obtain ⟨hbad, hrest₆⟩ | ⟨hvalue, hrest₆⟩ := Prog.path_ite.mp hrest₅
    · obtain ⟨_, rfl, rfl, rfl⟩ := path_eprintf_bind.mp hrest₆
      have hnone : ∀ n, ¬Denotes arg' n := fun n hn => hbad (denotes_iff.mp hn).1
      exact .refused p _ _ (.value hthree ⟨_, hpin⟩ hnone)
    · have hvalue := denotes_iff.mpr ⟨not_not.mp hvalue, rfl⟩
      exact operate_execution p (.output hpin hvalue) hrest₆
  · obtain ⟨name, arg, rfl⟩ := List.length_eq_two.mp (show argv.length = 2 by omega)
    exact operate_execution p (.input hpin) hrest₅

end Executions

/-! ## What a command does and says -/

/-- A command line, and what the variables of the program hold before they are set. -/
structure Command where
  /-- The command line, program name included. -/
  argv : List (List Char)
  /-- `gpio_chip`. -/
  chip : Option GpioChip
  /-- `gpio_dev`. -/
  dev : Int32
  /-- The first byte of the buffer that a level is read into. -/
  stale : UInt8

/-- What it runs. -/
def Command.prog (c : Command) : Tool Int32 := main c.argv c.chip c.dev c.stale

/-! ### The files of a pin -/

/-- The files that are opened for a pin. -/
def IsPinFile (pin : Int32) (path : List Char) : Prop :=
  path = exportPath ∨ path = directionPath pin ∨ path = valuePath pin

/-- The texts that are written to them: the pin itself, a direction, or a level. -/
def IsPinText (pin : Int32) (path : List Char) (text : List UInt8) : Prop :=
  (path = exportPath ∧ text = bytes (decimal pin.toInt)) ∨
    (path = directionPath pin ∧ (text = directionText true ∨ text = directionText false)) ∨
    (path = valuePath pin ∧ (text = valueText true ∨ text = valueText false))

instance {pin : Int32} {path : List Char} : Decidable (IsPinFile pin path) :=
  inferInstanceAs (Decidable (_ ∨ _))

instance {pin : Int32} {path : List Char} {text : List UInt8} :
    Decidable (IsPinText pin path text) :=
  inferInstanceAs (Decidable (_ ∨ _))

/-- One step of a monitor that knows the open descriptor and its file: only files of the pin are
opened, one at a time, and only the descriptor that is open is written, read and closed. -/
def pinStep (pin : Int32) : Option (Int32 × List Char) →
    Event Linuxdev.Call Linuxdev.Reply → Option (Option (Int32 × List Char))
  | none, ⟨.open path _, fd⟩ =>
    if IsPinFile pin path then some (if fd < 0 then none else some (fd, path)) else none
  | none, ⟨.stat path, _⟩ => if path = gpioPath pin then some none else none
  | some (fd, path), ⟨.write fd' text, _⟩ =>
    if fd' = fd ∧ IsPinText pin path text then some (some (fd, path)) else none
  | some (fd, path), ⟨.read fd' _, _⟩ =>
    if fd' = fd ∧ path = valuePath pin then some (some (fd, path)) else none
  | some (fd, _), ⟨.close fd', _⟩ => if fd' = fd then some none else none
  | _, _ => none

/-- The monitor of the calls that are about a pin. -/
def pinMonitor (pin : Int32) :
    Monitor Linuxdev.Call Linuxdev.Reply (Option (Int32 × List Char)) :=
  ⟨pinStep pin⟩

/-- The system calls of the trace are about the pin, and the file that is opened last is closed. -/
def Concerns (pin : Int32) (tr : List (Event Linuxdev.Call Linuxdev.Reply)) : Prop :=
  (pinMonitor pin).run none tr = some none

section Concerns

variable {pin : Int32} {tr tr' : List (Event Linuxdev.Call Linuxdev.Reply)}

/-- No call is about any pin. -/
theorem concerns_nil : Concerns pin [] := rfl

/-- Calls that are about a pin, one part after the other. -/
theorem Concerns.append (h : Concerns pin tr) (h' : Concerns pin tr') :
    Concerns pin (tr ++ tr') := by
  rw [Concerns, Monitor.run_append, h]
  exact h'

/-- A file of the pin cannot be opened. -/
theorem concerns_open_failed {path : List Char} {flag : OpenFlag} {fd : Int32}
    (hpath : IsPinFile pin path) (hfd : fd < 0) : Concerns pin [⟨.open path flag, fd⟩] := by
  simp [Concerns, pinMonitor, pinStep, hpath, hfd]

/-- A file of the pin is opened, written and closed. -/
theorem concerns_written {path : List Char} {text : List UInt8} {fd c : Int32} {n : Int64}
    (hpath : IsPinFile pin path) (htext : IsPinText pin path text) (hfd : ¬fd < 0) :
    Concerns pin [⟨.open path .wronly, fd⟩, ⟨.write fd text, n⟩, ⟨.close fd, c⟩] := by
  simp [Concerns, pinMonitor, pinStep, hpath, htext, hfd]

/-- Writing such a text to such a file is about the pin. -/
theorem concerns_writeAttribute {path : List Char} {text : List UInt8} {r : McuprResult}
    (hpath : IsPinFile pin path) (htext : IsPinText pin path text)
    (h : (writeAttribute path text).Path tr r) : Concerns pin tr := by
  obtain ⟨fd, hfd, rfl, -⟩ | ⟨fd, n, c, hfd, -, rfl⟩ := writeAttribute_path.mp h
  · exact concerns_open_failed hpath hfd
  · exact concerns_written hpath htext hfd

/-- Exporting a pin is about this pin only. -/
theorem concerns_export {r : McuprResult} (h : (sysfsGpioExport pin).Path tr r) :
    Concerns pin tr := by
  have hpath : IsPinFile pin exportPath := Or.inl rfl
  obtain ⟨fd, hfd, -, rfl⟩ | ⟨fd, n, c, st, hfd, -, rfl⟩ := sysfsGpioExport_path.mp h
  · exact concerns_open_failed hpath hfd
  · have hwritten := concerns_written (n := n) (c := c) hpath (Or.inl ⟨rfl, rfl⟩) hfd
    have hstat : Concerns pin [⟨.stat (gpioPath pin), st⟩] := by
      simp [Concerns, pinMonitor, pinStep]
    exact hwritten.append hstat

/-- So is opening it. -/
theorem concerns_open {dev dev' : Int32} {mode : McuprGpioMode} {r : McuprResult}
    (h : (mcuprGpioOpen dev pin mode).Path tr (r, dev')) : Concerns pin tr := by
  obtain ⟨-, -, h⟩ | ⟨tr₁, tr₂, rfl, -, h, hdir⟩ := mcuprGpioOpen_path.mp h
  · exact concerns_export h
  · rw [sysfsGpioSetDir, snprintf_directionPath] at hdir
    have htext : IsPinText pin (directionPath pin) (directionText (mode = .output)) := by
      cases mode <;> simp [IsPinText]
    exact (concerns_export h).append
      (concerns_writeAttribute (Or.inr (Or.inl rfl)) htext hdir)

/-- So is writing it. -/
theorem concerns_write {value : Int32} {u : Unit} (h : (mcuprGpioWrite pin value).Path tr u) :
    Concerns pin tr := by
  obtain ⟨r, hpath⟩ := mcuprGpioWrite_path.mp h
  rw [sysfsGpioWriteValue, snprintf_valuePath] at hpath
  have htext : IsPinText pin (valuePath pin) (valueText (value ≠ 0)) := by
    by_cases hvalue : value = 0 <;> simp [IsPinText, hvalue]
  exact concerns_writeAttribute (Or.inr (Or.inr rfl)) htext hpath

/-- So is reading it. -/
theorem concerns_read {stale : UInt8} {level : Int32}
    (h : (mcuprGpioRead stale pin).Path tr level) : Concerns pin tr := by
  have hpath : IsPinFile pin (valuePath pin) := Or.inr (Or.inr rfl)
  obtain ⟨fd, hfd, -, rfl⟩ | ⟨fd, buf, c, hfd, -, rfl⟩ := sysfsGpioReadValue_path.mp h
  · exact concerns_open_failed hpath hfd
  · simp [Concerns, pinMonitor, pinStep, hpath, hfd]

end Concerns

/-! ### Accounts -/

/-- What a command does behind the open of its pin: an output is written and nothing is printed,
an input is read and its level is printed. -/
def Request.Carried (stale : UInt8) (tr : List (Event Linuxdev.Call Linuxdev.Reply))
    (out : List (List Char)) : Request → Prop
  | .input pin => ∃ level, (mcuprGpioRead stale pin).Path tr level ∧ out = [levelText level]
  | .output pin value => (mcuprGpioWrite pin value).Path tr () ∧ out = []

/-- What a command is accountable for, by its calls of the system, the texts it prints to the two
streams, and its exit status. -/
structure Accounts (c : Command) (calls : List (Event Linuxdev.Call Linuxdev.Reply))
    (out err : List (List Char)) (status : Int32) : Prop where
  /-- If it is asked nothing it says so, unless there is no memory. -/
  refused : (∀ r, ¬Asks c.argv r) → status = 1 ∧ (calls = [chipCall none] ∧ out = [] ∧ err = [] ∨
    (∃ p, calls = [chipCall (some p)]) ∧ Complaint c.argv out err)
  /-- What it does for a request is about the pin of the request. -/
  asked : ∀ r, Asks c.argv r → err = [] ∧ ∃ chip tr, calls = chipCall chip :: tr ∧
    Concerns r.pin tr
  /-- A request that is not carried out is not talked about. -/
  gaveUp : status ≠ 0 → status = 1 ∧ ∀ r, Asks c.argv r → out = []
  /-- A command that succeeds has carried out its request. -/
  succeeded : status = 0 → ∃ r p tr tr', Asks c.argv r ∧ calls = chipCall (some p) :: (tr ++ tr') ∧
    (mcuprGpioOpen c.dev r.pin r.mode).Path tr (.ok, r.pin) ∧ r.Carried c.stale tr' out

end McuPeripheral.GpioTool
