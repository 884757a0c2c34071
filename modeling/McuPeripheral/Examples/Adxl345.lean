import McuPeripheral.Calls.Host
import McuPeripheral.Calls.Loop
import McuPeripheral.Libc.Formats
import McuPeripheral.Linuxdev.Executions
import Mathlib.Data.Fin.VecNotation

/-!
# The program `examples/adxl345.c`

An accelerometer on an SPI bus. The program looks for it, sets it up to detect double taps,
and then shows its readings until there is one. SPI is there in the Linux device backend only,
so its calls are the ones of that backend. The texts are those the program prints itself; the
log of the library goes through a hook of its own.
-/

namespace McuPeripheral.Adxl345

open Calls Libc Linuxdev

/-- A program linked with the Linux device backend. -/
@[reducible] def Tool (α : Type) : Type :=
  Prog (HostCall Linuxdev.Call) (HostReply Linuxdev.Reply) α

/-- `ADXL345_REG_DEVID`. -/
def regDevid : Int32 := 0x00

/-- `ADXL345_REG_THRESH_TAP`. -/
def regThreshTap : Int32 := 0x1d

/-- `ADXL345_REG_DUR`. -/
def regDur : Int32 := 0x21

/-- `ADXL345_REG_LATENT`. -/
def regLatent : Int32 := 0x22

/-- `ADXL345_REG_WINDOW`. -/
def regWindow : Int32 := 0x23

/-- `ADXL345_REG_TAP_AXES`. -/
def regTapAxes : Int32 := 0x2a

/-- `ADXL345_REG_POWER_CTL`. -/
def regPowerCtl : Int32 := 0x2d

/-- `ADXL345_REG_INT_ENABLE`. -/
def regIntEnable : Int32 := 0x2e

/-- `ADXL345_REG_INT_SOURCE`. -/
def regIntSource : Int32 := 0x30

/-- `ADXL345_REG_DATAX0`. -/
def regDatax0 : UInt8 := 0x32

/-- `ADXL345_REG_DATAY0`. -/
def regDatay0 : UInt8 := 0x34

/-- `ADXL345_REG_DATAZ0`. -/
def regDataz0 : UInt8 := 0x36

/-- What is printed for a transfer that fails. -/
def failureText : List Char := "SPI transfer failed".toList

/-- The first byte of a transfer that reads a register. -/
def readCommand (reg : Int32) : UInt8 := (reg ||| 0x80).toUInt32.toUInt8

/-- The first byte of a transfer that writes one. -/
def writeCommand (reg : Int32) : UInt8 := (reg &&& 0x7f).toUInt32.toUInt8

/-- `adxl345_read`. -/
def adxl345Read (dev reg : Int32) : Tool UInt8 := do
  let (res, rx) ← api (mcuprSpiTransfer dev [readCommand reg, 0x00] 2)
  if res ≠ 2 then
    printf failureText
    return 0xff
  return rx.getD 1 0

/-- `adxl345_write`. -/
def adxl345Write (dev reg : Int32) (value : UInt8) : Tool Unit := do
  let (res, _) ← api (mcuprSpiTransfer dev [writeCommand reg, value] 2)
  if res ≠ 2 then
    printf failureText
  return ()

/-- `adxl345_setup_double_tap`. -/
def adxl345SetupDoubleTap (dev : Int32) : Tool Unit := do
  adxl345Write dev regPowerCtl 0x08
  usleep 10000
  let powerCtl ← adxl345Read dev regPowerCtl
  printf ("Enable measurement mode: 0x".toList ++ hexByte powerCtl ++ "\n".toList)
  adxl345Write dev regThreshTap 0x30
  adxl345Write dev regDur 0x10
  adxl345Write dev regLatent 0x20
  adxl345Write dev regWindow 0x96
  adxl345Write dev regTapAxes 0x07
  adxl345Write dev regIntEnable 0x20

/-- The value of an axis: the high byte is shifted and the low byte put beside it, as an
`int` that is then narrowed. -/
def axisValue (low high : UInt8) : Int16 :=
  (high.toUInt32.toInt32 <<< 8 ||| low.toUInt32.toInt32).toInt16

/-- `adxl345_read_axis`. -/
def adxl345ReadAxis (dev : Int32) (reg : UInt8) : Tool Int16 := do
  let low ← adxl345Read dev reg.toUInt32.toInt32
  let high ← adxl345Read dev (reg.toUInt32.toInt32 + 1)
  return axisValue low high

/-- The readings of the three axes. -/
@[ext] structure Acceleration where
  /-- The X-axis. -/
  x : Int16
  /-- The Y-axis. -/
  y : Int16
  /-- The Z-axis. -/
  z : Int16
  deriving DecidableEq, Repr

/-- The initial previous values. -/
def Acceleration.zero : Acceleration := ⟨0, 0, 0⟩

/-- `thresh`. -/
def thresh : Int32 := 10

/-- An axis has changed significantly, computed with `int`. -/
def AxisFar (now prev : Int16) : Prop := thresh < (now.toInt32 - prev.toInt32).abs

instance (now prev : Int16) : Decidable (AxisFar now prev) :=
  inferInstanceAs (Decidable (_ < _))

/-- Some axis has. -/
def Far (now prev : Acceleration) : Prop :=
  AxisFar now.x prev.x ∨ AxisFar now.y prev.y ∨ AxisFar now.z prev.z

instance : DecidableRel Far := fun now prev =>
  inferInstanceAs (Decidable (AxisFar now.x prev.x ∨ AxisFar now.y prev.y ∨ AxisFar now.z prev.z))

/-- `X: %6d, Y: %6d, Z: %6d`. -/
def readingText (a : Acceleration) : List Char :=
  ['X', ':', ' '] ++ decimalIn 6 a.x.toInt ++ [',', ' ', 'Y', ':', ' '] ++
    decimalIn 6 a.y.toInt ++ [',', ' ', 'Z', ':', ' '] ++ decimalIn 6 a.z.toInt ++ ['\n']

/-- What is printed for a double tap. -/
def tapText : List Char := "Double tap detected. Exiting.\n".toList

/-- The readings are shown if they have changed, and are then the previous ones. -/
def display (now prev : Acceleration) : Tool Acceleration := do
  if Far now prev then
    printf (readingText now)
    return now
  return prev

/-- The body of the loop of `main`. The previous values are passed in and out; the loop is
left on a double tap. -/
def round (dev : Int32) (prev : Acceleration) : Tool (Acceleration ⊕ Unit) := do
  let x ← adxl345ReadAxis dev regDatax0
  let y ← adxl345ReadAxis dev regDatay0
  let z ← adxl345ReadAxis dev regDataz0
  let prev ← display ⟨x, y, z⟩ prev
  let intSource ← adxl345Read dev regIntSource
  if intSource &&& 0x20 ≠ 0 then
    printf tapText
    return .inr ()
  usleep 100000
  return .inl prev

/-- `main`, with the first `n` rounds of its loop: the exit status, or `none` if the loop goes
on. The variables `bus` and `dev` are not initialised. -/
def main (n : ℕ) (bus : Option SpiBus) (dev : Int32) : Tool (Option Int32) := do
  printf "SPI ADXL345 Test Start\n".toList
  let params ← api (libc mcuprSpiInitParams)
  let params := { params with mode := .mode3 }
  let (result, bus) ← api (mcuprSpiBusCreate bus params)
  match result, bus with
  | .ok, some bus =>
    let (result, dev) ← api (mcuprSpiOpen bus dev 0)
    if result ≠ .ok then return some 1
    let devid ← adxl345Read dev regDevid
    if devid ≠ 0xe5 then
      eprintf ("Error: ADXL345 not detected! Read 0x".toList ++ hexByte devid ++ "\n".toList)
      return some 1
    printf ("ADXL345 detected! Device ID: 0x".toList ++ hexByte devid ++ "\n".toList)
    adxl345SetupDoubleTap dev
    printf "Reading acceleration data...\n".toList
    printf "Double tap to exit.\n".toList
    match ← loop (round dev) n .zero with
    | .inl _ => return none
    | .inr () =>
      api (mcuprSpiClose dev)
      api (mcuprSpiBusRelease (some bus))
      return some 0
  | _, _ => return some 1

/-! ## Values -/

/-- The two bytes of an axis are a little-endian number in two's complement. -/
theorem axisValue_toInt (low high : UInt8) :
    (axisValue low high).toInt = (256 * high.toNat + low.toNat : ℤ).bmod (2 ^ 16) := by
  have hlow := low.toNat_lt
  have hhigh := high.toNat_lt
  have hbits : (high.toUInt32.toInt32 <<< 8 ||| low.toUInt32.toInt32).toBitVec.toNat =
      256 * high.toNat + low.toNat := by
    have hshift : (high.toUInt32.toInt32 <<< (8 : Int32)).toBitVec.toNat = high.toNat <<< 8 := by
      change (high.toUInt32.toBitVec <<< 8).toNat = _
      rw [BitVec.toNat_shiftLeft, Nat.shiftLeft_eq, Nat.shiftLeft_eq]
      change high.toNat * 2 ^ 8 % 2 ^ 32 = _
      omega
    have hsame : low.toUInt32.toInt32.toBitVec.toNat = low.toNat := rfl
    rw [Int32.toBitVec_or, BitVec.toNat_or, hshift, hsame,
      ← Nat.shiftLeft_add_eq_or_of_lt (by omega), Nat.shiftLeft_eq]
    omega
  have hvalue : (high.toUInt32.toInt32 <<< 8 ||| low.toUInt32.toInt32).toInt =
      256 * high.toNat + low.toNat := by
    rw [← Int32.toInt_toBitVec, BitVec.toInt_eq_toNat_of_lt (by omega), hbits, Nat.cast_add,
      Nat.cast_mul]
    rfl
  rw [axisValue, Int32.toInt_toInt16, hvalue]

/-- The difference of two readings fits an `int`, so an axis has changed significantly exactly
if it is more than the threshold away. -/
theorem axisFar_iff {now prev : Int16} : AxisFar now prev ↔ 10 < |now.toInt - prev.toInt| := by
  have hnow := now.toInt_lt
  have hnow' := now.le_toInt
  have hprev := prev.toInt_lt
  have hprev' := prev.le_toInt
  have hdiff : (now.toInt32 - prev.toInt32).toInt = now.toInt - prev.toInt := by
    rw [Int32.toInt_sub, Int16.toInt_toInt32, Int16.toInt_toInt32]
    exact Int.bmod_eq_of_le (by omega) (by omega)
  have hmin : (now.toInt32 - prev.toInt32).toBitVec ≠ BitVec.intMin 32 := by
    intro h
    have hvalue := congrArg BitVec.toInt h
    rw [Int32.toInt_toBitVec, hdiff] at hvalue
    have hleast : (BitVec.intMin 32).toInt = -2 ^ 31 := by decide
    omega
  have habs : (now.toInt32 - prev.toInt32).abs.toInt = |now.toInt - prev.toInt| := by
    rw [← Int32.toInt_toBitVec, ← hdiff, ← Int32.toInt_toBitVec, Int.abs_eq_natAbs]
    exact BitVec.toInt_abs_eq_natAbs_of_ne_intMin hmin
  rw [AxisFar, Int32.lt_iff_toInt_lt, habs]
  rfl

/-- No reading is far from itself. -/
theorem not_far_self (a : Acceleration) : ¬Far a a := by
  unfold Far
  simp [axisFar_iff]

/-- A number in a column has no comma in it. -/
theorem comma_notMem_decimalIn (n : ℤ) : ',' ∉ decimalIn 6 n := by
  intro h
  obtain hchar | hchar | hchar := mem_decimalIn h <;> exact absurd hchar (by decide)

/-- The text of a reading determines it. -/
theorem readingText_injective : Function.Injective readingText := by
  intro a b h
  have hcut {m n : ℤ} {s t : List Char}
      (hsame : decimalIn 6 m ++ ',' :: s = decimalIn 6 n ++ ',' :: t) : m = n ∧ s = t := by
    obtain ⟨hnumber, hrest⟩ := append_sep_inj (comma_notMem_decimalIn m)
      (comma_notMem_decimalIn n) (by simp) (by simp) hsame
    exact ⟨decimalIn_injective 6 hnumber, (List.cons.inj hrest).2⟩
  unfold readingText at h
  simp only [List.append_assoc, List.cons_append, List.nil_append, List.cons.injEq,
    true_and] at h
  obtain ⟨hx, hrest⟩ := hcut h
  simp only [List.cons.injEq, true_and] at hrest
  obtain ⟨hy, hrest⟩ := hcut hrest
  simp only [List.cons.injEq, true_and] at hrest
  have hz := decimalIn_injective 6 (List.append_cancel_right hrest)
  exact Acceleration.ext (Int16.toInt_inj.mp hx) (Int16.toInt_inj.mp hy) (Int16.toInt_inj.mp hz)

/-! ## Executions -/

/-- The reply to a transfer: its status, and the bytes received. -/
@[reducible] def TransferReply : Type := Int32 × List UInt8

/-- The byte that is read. -/
def received (reply : TransferReply) : UInt8 := if reply.1 = 2 then reply.2.getD 1 0 else 0xff

/-- The system call of a transfer. -/
def transfer (dev : Int32) (tx : List UInt8) (reply : TransferReply) :
    Event Linuxdev.Call Linuxdev.Reply := ⟨.ioctlMessage dev tx 2, reply⟩

/-- A transfer, and the message if it fails. -/
def transferTrace (dev : Int32) (tx : List UInt8) (reply : TransferReply) :
    List (Event (HostCall Linuxdev.Call) (HostReply Linuxdev.Reply)) :=
  inHost (transfer dev tx reply) ::
    if reply.1 = 2 then [] else [⟨.print .stdout failureText, ()⟩]

/-- A transfer makes one system call. -/
@[simp] theorem apiCalls_transferTrace {dev : Int32} {tx : List UInt8} {reply : TransferReply} :
    apiCalls (transferTrace dev tx reply) = [transfer dev tx reply] := by
  unfold transferTrace
  split <;> rfl

section Paths

variable {dev reg : Int32} {value v : UInt8} {u : Unit}
  {tr : List (Event (HostCall Linuxdev.Call) (HostReply Linuxdev.Reply))}

/-- The status that `mcupr_spi_transfer` reports is 2 exactly if that of the system call is. -/
theorem status_eq_two_iff {res : Int32} :
    (if res < 0 then McuprResult.ioError.code else res) = 2 ↔ res = 2 := by
  by_cases hneg : res < 0
  · rw [if_pos hneg]
    constructor
    · intro h
      exact absurd h (by decide)
    · rintro rfl
      exact absurd hneg (by decide)
  · rw [if_neg hneg]

/-- A transfer in front of a sequence. -/
theorem path_transfer_bind {α : Type} {tx : List UInt8} {f : TransferReply → Tool α} {a : α} :
    (api (mcuprSpiTransfer dev tx 2) >>= f).Path tr a ↔ ∃ (reply : TransferReply) (tr' : _),
      tr = inHost (transfer dev tx reply) :: tr' ∧
        (f (if reply.1 < 0 then McuprResult.ioError.code else reply.1, reply.2)).Path tr' a := by
  rw [Prog.path_bind]
  constructor
  · rintro ⟨_, r, tr', rfl, hcall, hrest⟩
    obtain ⟨tr₀, rfl, htransfer⟩ := path_api.mp hcall
    obtain ⟨reply, rfl, rfl⟩ := mcuprSpiTransfer_path.mp htransfer
    exact ⟨reply, tr', rfl, hrest⟩
  · rintro ⟨reply, tr', rfl, hrest⟩
    exact ⟨_, _, tr', rfl, path_api.mpr ⟨_, rfl, mcuprSpiTransfer_path.mpr ⟨reply, rfl, rfl⟩⟩,
      hrest⟩

/-- `adxl345_read` makes one transfer. -/
theorem adxl345Read_path : (adxl345Read dev reg).Path tr v ↔ ∃ reply : TransferReply,
    v = received reply ∧ tr = transferTrace dev [readCommand reg, 0] reply := by
  refine path_transfer_bind.trans (exists_congr fun reply => ?_)
  simp only [Prog.path_ite, not_not, ne_eq, status_eq_two_iff]
  unfold received transferTrace
  by_cases hfull : reply.1 = 2
  · simp only [hfull, not_true, false_and, true_and, false_or, Prog.path_pure]
    constructor
    · rintro ⟨_, rfl, rfl, rfl⟩
      exact ⟨rfl, rfl⟩
    · rintro ⟨rfl, rfl⟩
      exact ⟨[], rfl, rfl, rfl⟩
  · simp only [hfull, not_false_iff, false_and, true_and, or_false]
    constructor
    · rintro ⟨_, rfl, _, _, rfl, rfl, rfl⟩
      exact ⟨rfl, rfl⟩
    · rintro ⟨rfl, rfl⟩
      exact ⟨_, rfl, (), [], rfl, rfl, rfl⟩

/-- `adxl345_write` makes one transfer. -/
theorem adxl345Write_path : (adxl345Write dev reg value).Path tr u ↔ ∃ reply : TransferReply,
    tr = transferTrace dev [writeCommand reg, value] reply := by
  refine path_transfer_bind.trans (exists_congr fun reply => ?_)
  simp only [Prog.path_ite, not_not, ne_eq, status_eq_two_iff]
  unfold transferTrace
  by_cases hfull : reply.1 = 2
  · simp only [hfull, not_true, false_and, true_and, false_or, Prog.path_pure]
    constructor
    · rintro ⟨_, rfl, rfl, -⟩
      rfl
    · rintro rfl
      exact ⟨[], rfl, rfl, trivial⟩
  · simp only [hfull, not_false_iff, false_and, true_and, or_false]
    constructor
    · rintro ⟨_, rfl, _, _, rfl, rfl, -⟩
      rfl
    · rintro rfl
      exact ⟨_, rfl, (), [], rfl, rfl, rfl⟩

/-- `adxl345_read_axis` makes two, the low byte first. -/
theorem adxl345ReadAxis_path {axis : UInt8} {a : Int16}
    (hpath : (adxl345ReadAxis dev axis).Path tr a) : ∃ low high : TransferReply,
      a = axisValue (received low) (received high) ∧
      tr = transferTrace dev [readCommand axis.toUInt32.toInt32, 0] low ++
        transferTrace dev [readCommand (axis.toUInt32.toInt32 + 1), 0] high := by
  obtain ⟨tr₁, low, _, rfl, hlow, hrest⟩ := Prog.path_bind.mp hpath
  obtain ⟨tr₂, high, _, rfl, hhigh, rfl, rfl⟩ := Prog.path_bind.mp hrest
  obtain ⟨lowReply, rfl, rfl⟩ := adxl345Read_path.mp hlow
  obtain ⟨highReply, rfl, rfl⟩ := adxl345Read_path.mp hhigh
  exact ⟨lowReply, highReply, rfl, by rw [List.append_nil]⟩

/-- A setup makes eight transfers: it writes seven registers, and reads the first of them
back. -/
theorem adxl345SetupDoubleTap_path (hpath : (adxl345SetupDoubleTap dev).Path tr u) :
    ∃ r : Fin 8 → TransferReply, apiCalls tr =
      [transfer dev [0x2d, 0x08] (r 0), transfer dev [0xad, 0] (r 1),
        transfer dev [0x1d, 0x30] (r 2), transfer dev [0x21, 0x10] (r 3),
        transfer dev [0x22, 0x20] (r 4), transfer dev [0x23, 0x96] (r 5),
        transfer dev [0x2a, 0x07] (r 6), transfer dev [0x2e, 0x20] (r 7)] := by
  obtain ⟨_, _, _, rfl, hpower, hrest₁⟩ := Prog.path_bind.mp hpath
  obtain ⟨_, rfl, hrest₂⟩ := path_usleep_bind.mp hrest₁
  obtain ⟨_, _, _, rfl, hcheck, hrest₃⟩ := Prog.path_bind.mp hrest₂
  obtain ⟨_, rfl, hrest₄⟩ := path_printf_bind.mp hrest₃
  obtain ⟨_, _, _, rfl, htap, hrest₅⟩ := Prog.path_bind.mp hrest₄
  obtain ⟨_, _, _, rfl, hdur, hrest₆⟩ := Prog.path_bind.mp hrest₅
  obtain ⟨_, _, _, rfl, hlatent, hrest₇⟩ := Prog.path_bind.mp hrest₆
  obtain ⟨_, _, _, rfl, hwindow, hrest₈⟩ := Prog.path_bind.mp hrest₇
  obtain ⟨_, _, _, rfl, haxes, henable⟩ := Prog.path_bind.mp hrest₈
  obtain ⟨r₀, rfl⟩ := adxl345Write_path.mp hpower
  obtain ⟨r₁, -, rfl⟩ := adxl345Read_path.mp hcheck
  obtain ⟨r₂, rfl⟩ := adxl345Write_path.mp htap
  obtain ⟨r₃, rfl⟩ := adxl345Write_path.mp hdur
  obtain ⟨r₄, rfl⟩ := adxl345Write_path.mp hlatent
  obtain ⟨r₅, rfl⟩ := adxl345Write_path.mp hwindow
  obtain ⟨r₆, rfl⟩ := adxl345Write_path.mp haxes
  obtain ⟨r₇, rfl⟩ := adxl345Write_path.mp henable
  refine ⟨![r₀, r₁, r₂, r₃, r₄, r₅, r₆, r₇], ?_⟩
  simp only [apiCalls_append, apiCalls_transferTrace, apiCalls_usleep, apiCalls_print]
  rfl

end Paths

end McuPeripheral.Adxl345
