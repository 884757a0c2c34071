import McuPeripheral.Backends.Opening
import McuPeripheral.Backends.Ownership
import Mathlib.Tactic.IntervalCases

/-!
# Which error codes can be decoded

A negative number that a function of the API returns should be a result code with a
message of its own. The table of messages leaves out `MCUPR_RES_INVALID_PARAM` and
`MCUPR_RES_IO_ERROR`, and the pigpio backend hands the daemon's numbers on as they are.
-/

namespace McuPeripheral

open Calls

/-- The number is a result code, and looking it up gives the message recorded for it. -/
def Decodable (n : Int32) : Prop :=
  (∃ r : McuprResult, r.code = n) ∧ ∃ text, (n, text) ∈ errmsgs ∧ mcuprError n = text

/-- A number that has no message is not decoded. -/
theorem not_decodable {n : Int32} (h : n ∉ errmsgs.map Prod.fst) : ¬Decodable n := by
  rintro ⟨-, text, hmem, -⟩
  exact h (List.mem_map_of_mem hmem)

/-- Every result code but two is decoded. -/
theorem decodable_code_iff (r : McuprResult) :
    Decodable r.code ↔ r ≠ .invalidParam ∧ r ≠ .ioError := by
  constructor
  · intro h
    constructor
    · rintro rfl
      exact not_decodable (by decide) h
    · rintro rfl
      exact not_decodable (by decide) h
  · rintro ⟨hparam, hio⟩
    refine ⟨⟨r, rfl⟩, mcuprError r.code, ?_, rfl⟩
    cases r with
    | invalidParam => exact absurd rfl hparam
    | ioError => exact absurd rfl hio
    | _ => decide

/-- The negative numbers from `MCUPR_RES_NODEV` up are result codes. -/
theorem exists_code {n : Int32} (hlow : -11 ≤ n) (hn : n < 0) : ∃ r : McuprResult, r.code = n := by
  have hlow' : -11 ≤ n.toInt := Int32.le_iff_toInt_le.mp hlow
  have hn' : n.toInt < 0 := Int32.lt_iff_toInt_lt.mp hn
  obtain ⟨r, hr⟩ : ∃ r : McuprResult, r.code.toInt = n.toInt := by
    interval_cases n.toInt
    exacts [⟨.nodev, rfl⟩, ⟨.nomem, rfl⟩, ⟨.busy, rfl⟩, ⟨.communicationError, rfl⟩,
      ⟨.backendFailure, rfl⟩, ⟨.invalidParam, rfl⟩, ⟨.invalidArgument, rfl⟩, ⟨.invalidName, rfl⟩,
      ⟨.invalidHandle, rfl⟩, ⟨.invalidObj, rfl⟩, ⟨.unknown, rfl⟩]
  exact ⟨r, Int32.toInt_inj.mp hr⟩

/-- The negative numbers that are decoded. -/
theorem decodable_neg_iff {n : Int32} (hn : n < 0) : Decodable n ↔ -11 ≤ n ∧ n ≠ -6 := by
  constructor
  · intro h
    obtain ⟨r, rfl⟩ := h.1
    obtain ⟨hparam, hio⟩ := (decodable_code_iff r).mp h
    cases r with
    | invalidParam => exact absurd rfl hparam
    | ioError => exact absurd rfl hio
    | _ => exact ⟨by decide, by decide⟩
  · rintro ⟨hlow, hne⟩
    obtain ⟨r, rfl⟩ := exists_code hlow hn
    refine (decodable_code_iff r).mpr ⟨?_, ?_⟩
    · rintro rfl
      exact hne rfl
    · rintro rfl
      exact absurd hlow (by decide)

/-- How a call can end: with no error, with an error that has a message, or with the error
`MCUPR_RES_IO_ERROR`, exactly if `io` says so. -/
inductive Outcome (io : Prop) : Int32 → Prop
  | fine {n : Int32} : ¬n < 0 → ¬io → Outcome io n
  | known {r : McuprResult} : r ≠ .invalidParam → r ≠ .ioError → ¬io → Outcome io r.code
  | ioError : io → Outcome io McuprResult.ioError.code

/-- A call that returns `MCUPR_RES_OK` ends with no error. -/
theorem Outcome.ok {io : Prop} (hio : ¬io) : Outcome io McuprResult.ok.code :=
  .fine (by decide) hio

/-- Such a call can be decoded exactly if it does not end with an I/O error. -/
theorem Outcome.decodable_iff {io : Prop} {n : Int32} (h : Outcome io n) :
    (n < 0 → Decodable n) ↔ ¬io := by
  cases h with
  | fine hn hio => exact ⟨fun _ => hio, fun _ hneg => absurd hneg hn⟩
  | known hparam hne hio =>
    exact ⟨fun _ => hio, fun _ _ => (decodable_code_iff _).mpr ⟨hparam, hne⟩⟩
  | ioError hio =>
    exact ⟨fun h => absurd rfl ((decodable_code_iff _).mp (h (by decide))).2, fun h => absurd hio h⟩

/-- Where a call returns a number, only that number is to be decoded. -/
theorem forall_returned_iff {returned : Option Int32} {n : Int32} (h : returned = some n) :
    (∀ m, returned = some m → m < 0 → Decodable m) ↔ (n < 0 → Decodable n) := by
  constructor
  · exact fun hall => hall n h
  · intro hn m hm
    obtain rfl : n = m := Option.some.inj (h.symm.trans hm)
    exact hn

/-! ## Linux devices -/

namespace Linuxdev

/-- The calls whose failure a function reports as an I/O error. -/
def Reports : Op → Call → Prop
  | .gpioOpen .., .open .. | .gpioOpen .., .stat _ => True
  | .gpioRead .., .open .. | .gpioRead .., .read .. => True
  | .i2cOpen .., .ioctl .. | .i2cWrite .., .write .. | .i2cRead .., .read .. => True
  | .spiOpen .., .open .. | .spiOpen .., .ioctl .. | .spiTransfer .., .ioctlMessage .. => True
  | _, _ => False

section Steps

variable {path : List Char} {flag : OpenFlag} {fd : Int32} {data : List UInt8}

/-- The result of writing the pin number or the direction is not looked at. -/
@[simp] theorem not_reports_gpioOpen_write {dev pin : Int32} {mode : McuprGpioMode} :
    ¬Reports (.gpioOpen dev pin mode) (.write fd data) := id

/-- A device that cannot be opened is reported as missing. -/
@[simp] theorem not_reports_i2cOpen_open {bus : Option I2cBus} {dev addr : Int32} :
    ¬Reports (.i2cOpen bus dev addr) (.open path flag) := id

end Steps

/-- A transfer on a live bus with a negative handle. -/
def NegativeHandle : Op → Prop
  | .i2cWrite bus dev _ _ | .i2cRead bus dev _ => I2cLive bus ∧ dev < 0
  | _ => False

/-- The call runs into an I/O error. -/
def IoError (op : Op) (tr : List (Event Call Reply)) : Prop :=
  NegativeHandle op ∨ ∃ e ∈ tr, Failed e ∧ Reports op e.call

/-- What `read` and `write` promise: no more than was asked for. -/
def WithinCount : Event Call Reply → Prop
  | ⟨.read _ count, some data⟩ => data.length ≤ count.toNat
  | ⟨.write _ data, n⟩ => n.toInt ≤ data.length
  | _ => True

/-- A size that fits an `int`. -/
def SizeFits : Op → Prop
  | .i2cWrite _ _ _ size | .i2cRead _ _ size => size.toNat < 2 ^ 31
  | _ => True

section Calls

variable {tr : List (Event Call Reply)} {r : McuprResult} {dev dev' : Int32} {bus : Option I2cBus}
  {size : UInt32}

/-- No reported call failed, and no handle was negative. -/
theorem not_ioError {op : Op} (hhandle : ¬NegativeHandle op)
    (hreports : ∀ e ∈ tr, Failed e → ¬Reports op e.call) : ¬IoError op tr := by
  rintro (h | ⟨e, he, hfailed, hr⟩)
  · exact hhandle h
  · exact hreports e he hfailed hr

/-- A call that makes no system call has none that failed. -/
theorem not_ioError_nil {op : Op} (hhandle : ¬NegativeHandle op) : ¬IoError op [] :=
  not_ioError hhandle fun _ he => absurd he List.not_mem_nil

/-- Creating an object either succeeds or runs out of memory, and reports nothing else. -/
theorem create_outcome {op : Op} (hop : ¬IoError op tr) (hr : r = .nomem ∨ r = .ok) :
    Outcome (IoError op tr) r.code := by
  rcases hr with rfl | rfl
  · exact .known (by decide) (by decide) hop
  · exact .ok hop

/-- How the export of a pin ends. -/
theorem export_outcome (dev : Int32) {pin : Int32} (mode : McuprGpioMode)
    (hpath : (sysfsGpioExport pin).Path tr r) :
    (r = .ok ∧ ∀ e ∈ tr, Failed e → ¬Reports (.gpioOpen dev pin mode) e.call) ∨
      (r = .ioError ∧ ∃ e ∈ tr, Failed e ∧ Reports (.gpioOpen dev pin mode) e.call) := by
  obtain ⟨fd, hfd, rfl, rfl⟩ | ⟨fd, n, c, st, hfd, rfl, rfl⟩ := sysfsGpioExport_path.mp hpath
  · exact Or.inr ⟨rfl, _, List.mem_singleton_self _, hfd, trivial⟩
  · by_cases hst : st = 0
    · refine Or.inl ⟨if_neg (not_not.mpr hst), ?_⟩
      simp [hfd, hst]
    · exact Or.inr ⟨if_pos hst, ⟨.stat _, st⟩, by simp, hst, trivial⟩

/-- How the setting of a direction ends. -/
theorem setDir_outcome (dev : Int32) {pin : Int32} (mode : McuprGpioMode) {isOutput : Bool}
    (hpath : (sysfsGpioSetDir pin isOutput).Path tr r) :
    (r = .ok ∧ ∀ e ∈ tr, Failed e → ¬Reports (.gpioOpen dev pin mode) e.call) ∨
      (r = .ioError ∧ ∃ e ∈ tr, Failed e ∧ Reports (.gpioOpen dev pin mode) e.call) := by
  obtain ⟨fd, hfd, rfl, rfl⟩ | ⟨fd, n, c, hfd, rfl, rfl⟩ := writeAttribute_path.mp hpath
  · exact Or.inr ⟨rfl, _, List.mem_singleton_self _, hfd, trivial⟩
  · refine Or.inl ⟨rfl, ?_⟩
    simp [hfd]

/-- Opening a pin. -/
theorem gpioOpen_outcome {pin : Int32} {mode : McuprGpioMode}
    (hpath : (mcuprGpioOpen dev pin mode).Path tr (r, dev')) :
    Outcome (IoError (.gpioOpen dev pin mode) tr) r.code := by
  obtain ⟨hr, -, hexport⟩ | ⟨tr₁, tr₂, rfl, -, hexport, hdir⟩ := mcuprGpioOpen_path.mp hpath
  · obtain ⟨rfl, -⟩ | ⟨rfl, hio⟩ := export_outcome dev mode hexport
    · exact absurd rfl hr
    · exact .ioError (Or.inr hio)
  · obtain ⟨-, hfine⟩ | ⟨h, -⟩ := export_outcome dev mode hexport
    · obtain ⟨rfl, hfine'⟩ | ⟨rfl, e, he, hio⟩ := setDir_outcome dev mode hdir
      · refine .ok (not_ioError id fun e he => ?_)
        exact (List.mem_append.mp he).elim (hfine e) (hfine' e)
      · exact .ioError (Or.inr ⟨e, List.mem_append_right _ he, hio⟩)
    · cases h

/-- Reading a pin. -/
theorem gpioRead_outcome {stale : UInt8} {n : Int32}
    (hpath : (mcuprGpioRead stale dev).Path tr n) :
    Outcome (IoError (.gpioRead stale dev) tr) n := by
  obtain ⟨fd, hfd, rfl, rfl⟩ | ⟨fd, buf, c, hfd, rfl, rfl⟩ := sysfsGpioReadValue_path.mp hpath
  · exact .ioError (Or.inr ⟨_, List.mem_singleton_self _, hfd, trivial⟩)
  · cases buf with
    | none => exact .ioError (Or.inr ⟨⟨.read fd 4, none⟩, by simp, rfl, trivial⟩)
    | some buf =>
      refine .fine ?_ (not_ioError id ?_)
      · change ¬(if buf.headD stale = '1'.toUInt8 then (1 : Int32) else 0) < 0
        split <;> decide
      · simp [hfd]

/-- Opening an I2C device. -/
theorem i2cOpen_outcome {addr : Int32} (hpath : (mcuprI2cOpen bus dev addr).Path tr (r, dev')) :
    Outcome (IoError (.i2cOpen bus dev addr) tr) r.code := by
  by_cases hlive : I2cLive bus
  · obtain ⟨self, priv, rfl⟩ := hlive
    obtain ⟨fd, hfd, rfl, -, rfl⟩ | ⟨fd, ret, c, hfd, hret, rfl, -, rfl⟩ |
      ⟨fd, ret, hfd, hret, rfl, -, rfl⟩ := mcuprI2cOpen_path.mp hpath
    · exact .known (by decide) (by decide) (not_ioError id (by simp))
    · exact .ioError (Or.inr ⟨⟨.ioctl _ _, ret⟩, by simp, hret, trivial⟩)
    · exact .ok (not_ioError id (by simp [hret]))
  · obtain ⟨rfl, heq⟩ := (mcuprI2cOpen_path_refused hlive).mp hpath
    obtain ⟨rfl, rfl⟩ := Prod.mk.inj heq
    exact .known (by decide) (by decide) (not_ioError_nil id)

/-- A count that fits an `int` is not negative as one. -/
theorem toInt32_count_not_neg {n : Int64} (hn : ¬n < 0) (hfits : n.toInt < 2 ^ 31) :
    ¬n.toInt32 < 0 := by
  have hn' : 0 ≤ n.toInt := by
    rw [Int64.lt_iff_toInt_lt, Int64.toInt_zero] at hn
    omega
  have hvalue : n.toInt32.toInt = n.toInt := by
    rw [Int64.toInt_toInt32]
    apply Int.bmod_eq_of_le <;> omega
  rw [Int32.lt_iff_toInt_lt, hvalue, Int32.toInt_zero]
  omega

/-- Writing to an I2C device. -/
theorem i2cWrite_outcome {data : List UInt8} {n : Int32} (hsize : size.toNat < 2 ^ 31)
    (hcounts : ∀ e ∈ tr, WithinCount e) (hpath : (mcuprI2cWrite bus dev data size).Path tr n) :
    Outcome (IoError (.i2cWrite bus dev data size) tr) n := by
  by_cases hlive : I2cLive bus
  · obtain ⟨self, priv, rfl⟩ := hlive
    obtain ⟨hdev, rfl, rfl⟩ | ⟨ret, hdev, rfl, rfl⟩ := mcuprI2cWrite_path.mp hpath
    · exact .ioError (Or.inl ⟨⟨_, _, rfl⟩, hdev⟩)
    · by_cases hret : ret < 0
      · rw [if_pos hret]
        exact .ioError (Or.inr ⟨_, List.mem_singleton_self _, hret, trivial⟩)
      · rw [if_neg hret]
        have hcount : ret.toInt ≤ (data.take size.toNat).length :=
          hcounts _ (List.mem_singleton_self _)
        have hlength : (data.take size.toNat).length ≤ size.toNat := List.length_take_le _ _
        refine .fine (toInt32_count_not_neg hret (by omega)) (not_ioError ?_ ?_)
        · exact fun h => hdev h.2
        · simp [hret]
  · obtain ⟨rfl, rfl⟩ := (mcuprI2cWrite_path_refused hlive).mp hpath
    exact .known (by decide) (by decide) (not_ioError_nil fun h => hlive h.1)

/-- Reading from an I2C device. -/
theorem i2cRead_outcome {n : Int32} {data : List UInt8} (hsize : size.toNat < 2 ^ 31)
    (hcounts : ∀ e ∈ tr, WithinCount e) (hpath : (mcuprI2cRead bus dev size).Path tr (n, data)) :
    Outcome (IoError (.i2cRead bus dev size) tr) n := by
  by_cases hlive : I2cLive bus
  · obtain ⟨self, priv, rfl⟩ := hlive
    obtain ⟨hdev, heq, rfl⟩ | ⟨_ | buf, hdev, heq, rfl⟩ := mcuprI2cRead_path.mp hpath
    · obtain ⟨rfl, rfl⟩ := Prod.mk.inj heq
      exact .ioError (Or.inl ⟨⟨_, _, rfl⟩, hdev⟩)
    · obtain ⟨rfl, rfl⟩ := Prod.mk.inj heq
      exact .ioError (Or.inr ⟨_, List.mem_singleton_self _, rfl, trivial⟩)
    · obtain ⟨rfl, rfl⟩ := Prod.mk.inj heq
      have hcount : data.length ≤ size.toUInt64.toNat := hcounts _ (List.mem_singleton_self _)
      rw [UInt32.toNat_toUInt64] at hcount
      refine .fine ?_ (not_ioError ?_ ?_)
      · rw [Int64.toInt32_ofNat', Int32.lt_iff_toInt_lt, Int32.toInt_zero,
          Int32.toInt_ofNat_of_lt (by omega)]
        omega
      · exact fun h => hdev h.2
      · simp
  · obtain ⟨rfl, heq⟩ := (mcuprI2cRead_path_refused hlive).mp hpath
    obtain ⟨rfl, rfl⟩ := Prod.mk.inj heq
    exact .known (by decide) (by decide) (not_ioError_nil fun h => hlive h.1)

/-- Looking for the chip select reports nothing. -/
theorem resolveCsnum_silent {op : Op} {csnum cs : Int32} (hpath : (resolveCsnum csnum).Path tr cs) :
    ∀ e ∈ tr, Failed e → ¬Reports op e.call := by
  obtain ⟨-, rfl, -⟩ | ⟨env, -, rfl, -⟩ := resolveCsnum_path.mp hpath
  · nofun
  · simp

/-- Opening an SPI device. -/
theorem spiOpen_outcome {bus : SpiBus} {csnum : Int32}
    (hpath : (mcuprSpiOpen bus dev csnum).Path tr (r, dev')) :
    Outcome (IoError (.spiOpen bus dev csnum) tr) r.code := by
  obtain ⟨tr₁, cs, tr₂, rfl, hcs, h⟩ := mcuprSpiOpen_path.mp hpath
  obtain ⟨fd, hfd, rfl, -, rfl⟩ | ⟨fd, ret, c, hfd, hret, rfl, -, rfl⟩ |
    ⟨fd, ret, ret', c, hfd, hret, hret', rfl, -, rfl⟩ |
    ⟨fd, ret, ret', hfd, hret, hret', rfl, -, rfl⟩ := h
  · exact .ioError (Or.inr ⟨⟨.open _ _, fd⟩, by simp, hfd, trivial⟩)
  · exact .ioError (Or.inr ⟨⟨.ioctl _ _, ret⟩, by simp, hret, trivial⟩)
  · exact .ioError (Or.inr ⟨⟨.ioctl _ _, ret'⟩, by simp, hret', trivial⟩)
  · refine .ok (not_ioError id fun e he => ?_)
    rcases List.mem_append.mp he with he' | he'
    · exact resolveCsnum_silent hcs e he'
    · simp only [List.mem_cons, List.not_mem_nil, or_false] at he'
      rcases he' with rfl | rfl | rfl
      · exact fun hfailed => absurd hfailed hfd
      · exact fun hfailed => absurd hfailed hret
      · exact fun hfailed => absurd hfailed hret'

/-- A transfer over SPI. -/
theorem spiTransfer_outcome {tx rx : List UInt8} {length n : Int32}
    (hpath : (mcuprSpiTransfer dev tx length).Path tr (n, rx)) :
    Outcome (IoError (.spiTransfer dev tx length) tr) n := by
  obtain ⟨ret, heq, rfl⟩ := mcuprSpiTransfer_path.mp hpath
  obtain ⟨rfl, rfl⟩ := Prod.mk.inj heq
  by_cases hret : ret.1 < 0
  · rw [if_pos hret]
    exact .ioError (Or.inr ⟨_, List.mem_singleton_self _, hret, trivial⟩)
  · rw [if_neg hret]
    exact .fine hret (not_ioError id (by simp [hret]))

/-- Every call of the backend ends with no error, with an error that has a message, or with
an I/O error. -/
theorem outcome {i : Invocation Op.prog} (hsize : SizeFits i.op)
    (hcounts : ∀ e ∈ i.trace, WithinCount e) {n : Int32} (hn : i.op.returned i.result = some n) :
    Outcome (IoError i.op i.trace) n := by
  obtain ⟨op, tr, r, hpath⟩ := i
  cases op with
  | gpioChipCreate chipp =>
    obtain rfl := Option.some.inj hn
    obtain ⟨r, chip⟩ := r
    refine create_outcome (not_ioError id fun _ _ _ => id) ?_
    obtain ⟨hr, -⟩ | ⟨p, hr, -⟩ := mcuprGpioChipCreate_path.mp hpath
    · exact Or.inl hr
    · exact Or.inr hr
  | i2cBusCreate busp params =>
    obtain rfl := Option.some.inj hn
    obtain ⟨r, bus⟩ := r
    refine create_outcome (not_ioError id fun _ _ _ => id) ?_
    obtain ⟨hr, -⟩ | ⟨p, hr, -⟩ := mcuprI2cBusCreate_path.mp hpath
    · exact Or.inl hr
    · exact Or.inr hr
  | spiBusCreate busp params =>
    obtain rfl := Option.some.inj hn
    obtain ⟨r, bus⟩ := r
    refine create_outcome (not_ioError id fun _ _ _ => id) ?_
    obtain ⟨hr, -⟩ | ⟨buf, params', hr, -⟩ := moves_spiBusCreate hpath
    · exact Or.inl hr
    · exact Or.inr hr
  | gpioOpen dev pin mode =>
    obtain rfl := Option.some.inj hn
    exact gpioOpen_outcome hpath
  | gpioRead stale dev =>
    obtain rfl := Option.some.inj hn
    exact gpioRead_outcome hpath
  | i2cOpen bus dev addr =>
    obtain rfl := Option.some.inj hn
    exact i2cOpen_outcome hpath
  | i2cWrite bus dev data size =>
    obtain rfl := Option.some.inj hn
    exact i2cWrite_outcome hsize hcounts hpath
  | i2cRead bus dev size =>
    obtain rfl := Option.some.inj hn
    exact i2cRead_outcome hsize hcounts hpath
  | spiOpen bus dev csnum =>
    obtain rfl := Option.some.inj hn
    exact spiOpen_outcome hpath
  | spiTransfer dev tx length =>
    obtain rfl := Option.some.inj hn
    exact spiTransfer_outcome hpath
  | _ => cases hn

/-- A function that returns no number runs into no I/O error. -/
theorem not_ioError_of_returned {i : Invocation Op.prog} (h : i.op.returned i.result = none) :
    ¬IoError i.op i.trace := by
  obtain ⟨op, tr, r, hpath⟩ := i
  cases op with
  | gpioChipRelease _ | gpioClose _ | gpioWrite _ _ | i2cBusRelease _ | i2cClose _ _
  | spiBusRelease _ | spiClose _ => exact not_ioError id fun _ _ _ => id
  | _ => cases h

end Calls

/-- A call with a size that fits an `int`, whose system calls kept their promises. -/
structure Completed where
  /-- The call. -/
  call : Invocation Op.prog
  /-- Its size fits. -/
  sizeFits : SizeFits call.op
  /-- No more was transferred than was asked for. -/
  withinCount : ∀ e ∈ call.trace, WithinCount e

/-- If the call returned a negative number, it can be decoded. -/
def Completed.ErrorDecodable (c : Completed) : Prop :=
  ∀ n, c.call.op.returned c.call.result = some n → n < 0 → Decodable n

/-- In the Linux device backend a call can be decoded exactly if it runs into no I/O error. -/
theorem errorDecodable_iff (c : Completed) :
    c.ErrorDecodable ↔ ¬IoError c.call.op c.call.trace := by
  cases hreturned : c.call.op.returned c.call.result with
  | none =>
    refine ⟨fun _ => not_ioError_of_returned hreturned, fun _ n hn => ?_⟩
    rw [hreturned] at hn
    cases hn
  | some n =>
    have houtcome := (outcome c.sizeFits c.withinCount hreturned).decodable_iff
    exact (forall_returned_iff hreturned).trans houtcome

end Linuxdev

/-! ## libmpsse -/

namespace Libmpsse

/-- A size that fits an `int`. -/
def SizeFits : Op → Prop
  | .i2cWrite _ _ _ size | .i2cRead _ _ size => size.toNat < 2 ^ 31
  | _ => True

/-- A call with a size that fits an `int`. -/
structure Completed where
  /-- The call. -/
  call : Invocation Op.prog
  /-- Its size fits. -/
  sizeFits : SizeFits call.op

/-- If the call returned a negative number, it can be decoded. -/
def Completed.ErrorDecodable (c : Completed) : Prop :=
  ∀ n, c.call.op.returned c.call.result = some n → n < 0 → Decodable n

section Calls

variable {tr : List (Event Call Reply)} {r : McuprResult} {dev dev' : Int32} {bus : Option I2cBus}
  {size : UInt32}

/-- Opening a device. -/
theorem i2cOpen_outcome {addr : Int32} (hpath : (mcuprI2cOpen bus dev addr).Path tr (r, dev')) :
    Outcome False r.code := by
  obtain rfl | rfl | rfl := mcuprI2cOpen_cases hpath
  · exact .known (by decide) (by decide) id
  · exact .known (by decide) (by decide) id
  · exact .ok id

/-- The result of a frame that writes. -/
theorem writeResult_outcome (hsize : size.toNat < 2 ^ 31) (p : WriteReplies) :
    Outcome False (writeResult size p) := by
  unfold writeResult
  split
  · exact .known (by decide) (by decide) id
  · split
    · exact .known (by decide) (by decide) id
    · split
      · exact .known (by decide) (by decide) id
      · exact .fine (toInt32_not_neg hsize) id

/-- Writing to a device. -/
theorem i2cWrite_outcome {data : List UInt8} {n : Int32} (hsize : size.toNat < 2 ^ 31)
    (hpath : (mcuprI2cWrite bus dev data size).Path tr n) : Outcome False n := by
  obtain ⟨-, rfl | rfl⟩ | ⟨ctx, p, -, rfl⟩ := mcuprI2cWrite_cases hpath
  · exact .known (by decide) (by decide) id
  · exact .known (by decide) (by decide) id
  · exact writeResult_outcome hsize p

/-- The result of a frame that reads. -/
theorem readResult_outcome (hsize : size.toNat < 2 ^ 31) (p : ReadReplies) :
    Outcome False (readResult size p).1 := by
  unfold readResult
  split
  · change Outcome False McuprResult.backendFailure.code
    exact .known (by decide) (by decide) id
  · split
    · change Outcome False McuprResult.communicationError.code
      exact .known (by decide) (by decide) id
    · cases p.data.buffer with
      | none =>
        change Outcome False McuprResult.communicationError.code
        exact .known (by decide) (by decide) id
      | some buffer => exact .fine (toInt32_not_neg hsize) id

/-- Reading from a device. -/
theorem i2cRead_outcome {n : Int32} {data : List UInt8} (hsize : size.toNat < 2 ^ 31)
    (hpath : (mcuprI2cRead bus dev size).Path tr (n, data)) : Outcome False n := by
  obtain ⟨-, heq | heq⟩ | ⟨ctx, p, -, heq⟩ := mcuprI2cRead_cases hpath
  · obtain ⟨rfl, rfl⟩ := Prod.mk.inj heq
    exact .known (by decide) (by decide) id
  · obtain ⟨rfl, rfl⟩ := Prod.mk.inj heq
    exact .known (by decide) (by decide) id
  · have houtcome := readResult_outcome hsize p
    rwa [← heq] at houtcome

/-- Creating a bus. -/
theorem i2cBusCreate_outcome {busp : Option I2cBus} {params : McuprI2cBusParams}
    (hpath : (mcuprI2cBusCreate busp params).Path tr (r, bus)) : Outcome False r.code := by
  obtain ⟨rfl, -⟩ | ⟨_, rfl, -⟩ | ⟨_, _, -, rfl, -⟩ | ⟨_, _, -, rfl, -⟩ :=
    mcuprI2cBusCreate_path.mp hpath
  · exact .known (by decide) (by decide) id
  · exact .known (by decide) (by decide) id
  · exact .known (by decide) (by decide) id
  · exact .ok id

end Calls

/-- In the libmpsse backend every call can be decoded. -/
theorem errorDecodable (c : Completed) : c.ErrorDecodable := by
  obtain ⟨⟨op, tr, r, hpath⟩, hsize⟩ := c
  intro n hn
  have houtcome : Outcome False n := by
    cases op with
    | i2cBusCreate busp params =>
      obtain rfl := Option.some.inj hn
      exact i2cBusCreate_outcome hpath
    | i2cOpen bus dev addr =>
      obtain rfl := Option.some.inj hn
      exact i2cOpen_outcome hpath
    | i2cWrite bus dev data size =>
      obtain rfl := Option.some.inj hn
      exact i2cWrite_outcome hsize hpath
    | i2cRead bus dev size =>
      obtain rfl := Option.some.inj hn
      exact i2cRead_outcome hsize hpath
    | _ => cases hn
  exact houtcome.decodable_iff.mpr id

end Libmpsse

/-! ## pigpio -/

namespace Pigpiod

/-- If the call returned a negative number, it can be decoded. -/
def ErrorDecodable (i : Invocation Op.prog) : Prop :=
  ∀ n, i.op.returned i.result = some n → n < 0 → Decodable n

/-- The numbers that have a message among those the daemon may answer a transfer with. -/
def HasMessage : Event Call Reply → Prop
  | ⟨.i2cReadDevice .., r⟩ => r.1 < 0 → -11 ≤ r.1 ∧ r.1 ≠ -6
  | ⟨.i2cWriteDevice .., r⟩ => r < 0 → -11 ≤ r ∧ r ≠ -6
  | _ => True

/-- A number handed on to the client can be decoded exactly if it has a message. -/
theorem decodable_iff_hasMessage {n : Int32} :
    (n < 0 → Decodable n) ↔ (n < 0 → -11 ≤ n ∧ n ≠ -6) :=
  forall_congr' fun hn => decodable_neg_iff hn

section Calls

variable {tr : List (Event Call Reply)} {r : McuprResult} {dev dev' : Int32} {bus : Option I2cBus}

/-- Creating a bus asks for no transfer. -/
theorem i2cBusCreate_outcome {busp : Option I2cBus} {params : McuprI2cBusParams}
    (hpath : (mcuprI2cBusCreate busp params).Path tr (r, bus)) :
    Outcome False r.code ∧ ∀ e ∈ tr, HasMessage e := by
  obtain ⟨rfl, -, rfl⟩ | ⟨p, addr, port, pi, rest, rfl, h⟩ := mcuprI2cBusCreate_path.mp hpath
  · exact ⟨.known (by decide) (by decide) id, by simp [HasMessage]⟩
  · obtain ⟨-, rfl, -, rfl⟩ | ⟨-, rfl, rfl, -⟩ := h
    · exact ⟨.known (by decide) (by decide) id, by simp [HasMessage]⟩
    · exact ⟨.ok id, by simp [HasMessage]⟩

/-- Opening a device asks for no transfer. -/
theorem i2cOpen_outcome {addr : Int32} (hpath : (mcuprI2cOpen bus dev addr).Path tr (r, dev')) :
    Outcome False r.code ∧ ∀ e ∈ tr, HasMessage e := by
  by_cases hlive : I2cLive bus
  · obtain ⟨self, priv, rfl⟩ := hlive
    obtain ⟨rfl, rfl⟩ := mcuprI2cOpen_path.mp hpath
    exact ⟨.ok id, by simp [HasMessage]⟩
  · obtain ⟨rfl, heq⟩ := (mcuprI2cOpen_path_refused hlive).mp hpath
    obtain ⟨rfl, rfl⟩ := Prod.mk.inj heq
    exact ⟨.known (by decide) (by decide) id, nofun⟩

/-- A write hands the daemon's answer on. -/
theorem i2cWrite_decodable_iff {data : List UInt8} {size : UInt32} {n : Int32}
    (hpath : (mcuprI2cWrite bus dev data size).Path tr n) :
    (n < 0 → Decodable n) ↔ ∀ e ∈ tr, HasMessage e := by
  by_cases hlive : I2cLive bus
  · obtain ⟨self, priv, rfl⟩ := hlive
    obtain rfl := mcuprI2cWrite_path.mp hpath
    rw [List.forall_mem_singleton]
    exact decodable_iff_hasMessage
  · obtain ⟨rfl, rfl⟩ := (mcuprI2cWrite_path_refused hlive).mp hpath
    exact iff_of_true (fun _ => (decodable_code_iff .invalidObj).mpr (by decide)) nofun

/-- A read hands the daemon's answer on. -/
theorem i2cRead_decodable_iff {size : UInt32} {r : Int32 × List UInt8}
    (hpath : (mcuprI2cRead bus dev size).Path tr r) :
    (r.1 < 0 → Decodable r.1) ↔ ∀ e ∈ tr, HasMessage e := by
  by_cases hlive : I2cLive bus
  · obtain ⟨self, priv, rfl⟩ := hlive
    obtain rfl := mcuprI2cRead_path.mp hpath
    rw [List.forall_mem_singleton]
    exact decodable_iff_hasMessage
  · obtain ⟨rfl, rfl⟩ := (mcuprI2cRead_path_refused hlive).mp hpath
    exact iff_of_true (fun _ => (decodable_code_iff .invalidObj).mpr (by decide)) nofun

/-- Closing a device asks for no transfer. -/
theorem i2cClose_hasMessage {u : Unit} (hpath : (mcuprI2cClose bus dev).Path tr u) :
    ∀ e ∈ tr, HasMessage e := by
  by_cases hlive : I2cLive bus
  · obtain ⟨self, priv, rfl⟩ := hlive
    obtain ⟨c, rfl⟩ := mcuprI2cClose_path.mp hpath
    simp [HasMessage]
  · obtain ⟨rfl, -⟩ := (mcuprI2cClose_path_refused hlive).mp hpath
    nofun

/-- Releasing a bus asks for no transfer. -/
theorem i2cBusRelease_hasMessage {u : Unit} (hpath : (mcuprI2cBusRelease bus).Path tr u) :
    ∀ e ∈ tr, HasMessage e := by
  by_cases hlive : I2cLive bus
  · obtain ⟨self, priv, rfl⟩ := hlive
    obtain rfl := mcuprI2cBusRelease_path.mp hpath
    simp [HasMessage]
  · obtain ⟨rfl, -⟩ := (mcuprI2cBusRelease_path_refused hlive).mp hpath
    nofun

end Calls

/-- In the pigpio backend a call can be decoded exactly if the daemon's answer to a transfer
happens to be a number with a message. -/
theorem errorDecodable_iff (i : Invocation Op.prog) :
    ErrorDecodable i ↔ ∀ e ∈ i.trace, HasMessage e := by
  obtain ⟨op, tr, r, hpath⟩ := i
  cases op with
  | i2cBusCreate busp params =>
    obtain ⟨houtcome, hquiet⟩ := i2cBusCreate_outcome hpath
    exact iff_of_true ((forall_returned_iff rfl).mpr (houtcome.decodable_iff.mpr id)) hquiet
  | i2cOpen bus dev addr =>
    obtain ⟨houtcome, hquiet⟩ := i2cOpen_outcome hpath
    exact iff_of_true ((forall_returned_iff rfl).mpr (houtcome.decodable_iff.mpr id)) hquiet
  | i2cWrite bus dev data size =>
    exact (forall_returned_iff rfl).trans (i2cWrite_decodable_iff hpath)
  | i2cRead bus dev size =>
    exact (forall_returned_iff rfl).trans (i2cRead_decodable_iff hpath)
  | i2cBusRelease bus => exact iff_of_true nofun (i2cBusRelease_hasMessage hpath)
  | i2cClose bus dev => exact iff_of_true nofun (i2cClose_hasMessage hpath)

end Pigpiod

/-- A call in one of the backends, with a size that fits an `int`. -/
inductive AnyCall
  | linuxdev (c : Linuxdev.Completed)
  | libmpsse (c : Libmpsse.Completed)
  | pigpiod (i : Invocation Pigpiod.Op.prog)

/-- If the call returned a negative number, it can be decoded. -/
def AnyCall.ErrorDecodable : AnyCall → Prop
  | .linuxdev c => c.ErrorDecodable
  | .libmpsse c => c.ErrorDecodable
  | .pigpiod i => Pigpiod.ErrorDecodable i

/-- Through Linux the call runs into no I/O error, and through pigpio the daemon answers no
transfer with a number that has no message. -/
def AnyCall.ErrorKnown : AnyCall → Prop
  | .linuxdev c => ¬Linuxdev.IoError c.call.op c.call.trace
  | .libmpsse _ => True
  | .pigpiod i => ∀ e ∈ i.trace, Pigpiod.HasMessage e

/-- **Error codes.** A negative number returned by a call is a result code with a message of
its own if and only if the call runs into no I/O error of Linux and into no number of the
daemon without a message. -/
theorem error_codes_decodable_iff (c : AnyCall) : c.ErrorDecodable ↔ c.ErrorKnown := by
  cases c with
  | linuxdev c => exact Linuxdev.errorDecodable_iff c
  | libmpsse c => exact iff_of_true (Libmpsse.errorDecodable c) trivial
  | pigpiod i => exact Pigpiod.errorDecodable_iff i

/-- A failed `write` is returned as `MCUPR_RES_IO_ERROR`, which has no message, and a number
of the daemon is returned that is no result code. -/
theorem exists_error_undecodable :
    (∃ c : Linuxdev.Completed, c.call.trace = [⟨.write 3 [0x80], -1⟩] ∧
      c.call.op.returned c.call.result = some (-12) ∧ mcuprError (-12) = "Unknown error" ∧
      ¬(AnyCall.linuxdev c).ErrorDecodable) ∧
    ∃ i : Invocation Pigpiod.Op.prog, i.trace = [⟨.i2cReadDevice 0 0 1, (-83, [])⟩] ∧
      i.op.returned i.result = some (-83) ∧ (∀ r : McuprResult, r.code ≠ -83) ∧
      ¬(AnyCall.pigpiod i).ErrorDecodable := by
  have hundecodable : ∀ n : Int32, n = -12 ∨ n = -83 → ¬Decodable n := by
    rintro n (rfl | rfl)
    · exact not_decodable (by decide)
    · exact not_decodable (by decide)
  have hwrite : (Linuxdev.mcuprI2cWrite (some ⟨⟨0, 0⟩, some ⟨1⟩⟩) 3 [0x80] 1).Path
      [⟨.write 3 [0x80], -1⟩] (-12) :=
    Linuxdev.mcuprI2cWrite_path.mpr (Or.inr ⟨-1, by decide, by decide, rfl⟩)
  have hread : (Pigpiod.mcuprI2cRead (some ⟨⟨0, 0⟩, some ⟨0, 1⟩⟩) 0 1).Path
      [⟨.i2cReadDevice 0 0 1, (-83, [])⟩] (-83, []) := Pigpiod.mcuprI2cRead_path.mpr rfl
  refine ⟨⟨⟨⟨.i2cWrite (some ⟨⟨0, 0⟩, some ⟨1⟩⟩) 3 [0x80] 1, _, _, hwrite⟩,
    (by decide : (1 : UInt32).toNat < 2 ^ 31), ?_⟩, rfl, rfl, by decide, fun h => ?_⟩,
    ⟨⟨.i2cRead (some ⟨⟨0, 0⟩, some ⟨0, 1⟩⟩) 0 1, _, _, hread⟩, rfl, rfl, ?_, fun h => ?_⟩⟩
  · exact List.forall_mem_singleton.mpr (by decide : ((-1 : Int64).toInt : ℤ) ≤ 1)
  · exact hundecodable _ (Or.inl rfl) (h (-12) rfl (by decide))
  · intro r
    cases r <;> decide
  · exact hundecodable _ (Or.inr rfl) (h (-83) rfl (by decide))

end McuPeripheral
