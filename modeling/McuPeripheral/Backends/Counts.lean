import McuPeripheral.Libmpsse.Writes
import McuPeripheral.Linuxdev.Executions

/-!
# Transfer counts and the `int` that returns them

`mcupr_i2c_read` and `mcupr_i2c_write` take their size as a `uint32_t` and return either a
count or a negative error code in an `int`. What this asks of a transfer is stated once,
and both backends are held to it for every size, up to `2 ^ 32 - 1`.
-/

namespace McuPeripheral

open Calls

/-- One transfer: what its caller asked for and was told, and what happened. -/
structure Transfer where
  /-- How many bytes the caller asked for. -/
  size : UInt32
  /-- What the caller was told. -/
  returned : Int32
  /-- The operation succeeded. -/
  succeeded : Prop
  /-- How many bytes were transferred. -/
  transferred : ℕ
  /-- The failures that occurred. -/
  occurred : McuprResult → Prop

/-- The caller is told the count of a transfer that succeeded, and the cause of one that did
not; a size that no `int` can count is refused. -/
structure Transfer.CountSurvives (t : Transfer) : Prop where
  /-- A number that is not negative means success. -/
  nonneg_iff : 0 ≤ t.returned ↔ t.succeeded
  /-- It is the number of bytes transferred. -/
  count : t.succeeded → t.returned.toInt = t.transferred
  /-- A size that cannot be returned is refused. -/
  oversized : 2 ^ 31 ≤ t.size.toNat → t.returned < 0
  /-- A negative number is the code of a failure that occurred. -/
  cause : t.returned < 0 → ∃ r : McuprResult, t.returned = r.code ∧ t.occurred r

namespace Transfer

variable {t : Transfer}

/-- A transfer that fails with the code of a failure that occurred. -/
theorem CountSurvives.of_failure {r : McuprResult} (hr : r ≠ .ok) (hreturned : t.returned = r.code)
    (hfailed : ¬t.succeeded) (hoccurred : t.occurred r) : t.CountSurvives := by
  have hneg : t.returned < 0 := hreturned ▸ r.code_neg_iff.mpr hr
  exact ⟨iff_of_false (Int32.not_le.mpr hneg) hfailed, fun h => absurd h hfailed, fun _ => hneg,
    fun _ => ⟨r, hreturned, hoccurred⟩⟩

/-- A transfer of a size that can be returned, with its count. -/
theorem CountSurvives.of_success (hsize : t.size.toNat < 2 ^ 31) (hsucceeded : t.succeeded)
    (hcount : t.returned.toInt = t.transferred) : t.CountSurvives := by
  have hnonneg : 0 ≤ t.returned := by
    rw [Int32.le_iff_toInt_le, Int32.toInt_zero, hcount]
    exact Int.natCast_nonneg _
  exact ⟨iff_of_true hnonneg hsucceeded, fun _ => hcount, fun h => absurd h (by omega),
    fun hneg => absurd hnonneg (Int32.not_le.mpr hneg)⟩

/-- A success is not told for a size that cannot be returned. -/
theorem CountSurvives.size_lt (h : t.CountSurvives) (hsucceeded : t.succeeded) :
    t.size.toNat < 2 ^ 31 := by
  by_contra hsize
  exact absurd (h.nonneg_iff.mpr hsucceeded) (Int32.not_le.mpr (h.oversized (by omega)))

end Transfer

open Transfer

/-! ## Linux devices -/

namespace Linuxdev

/-- How many bytes a system call transferred. -/
def counted : Event Call Reply → ℕ
  | ⟨.read .., some data⟩ => data.length
  | ⟨.write .., n⟩ => n.toInt.toNat
  | _ => 0

/-- `read` and `write` return -1 or a count of at most `size`. -/
def CountsUpTo (size : UInt32) : Event Call Reply → Prop
  | ⟨.read .., some data⟩ => data.length ≤ size.toNat
  | ⟨.write .., n⟩ => -1 ≤ n.toInt ∧ n.toInt ≤ size.toNat
  | _ => True

/-- A read or a write of `size` bytes with these system calls. -/
def transfer (bus : Option I2cBus) (dev : Int32) (size : UInt32) (tr : List (Event Call Reply))
    (returned : Int32) : Transfer where
  size := size
  returned := returned
  succeeded := ∃ e ∈ tr, ¬Failed e
  transferred := (tr.map counted).sum
  occurred
    | .invalidObj => ¬∃ self priv, bus = some ⟨self, some priv⟩
    | .ioError => dev < 0 ∨ ∃ e ∈ tr, Failed e
    | .invalidArgument => 2 ^ 31 ≤ size.toNat
    | _ => False

section Transfers

variable {bus : Option I2cBus} {dev : Int32} {size : UInt32} {tr : List (Event Call Reply)}

/-- A transfer that is refused before any system call survives. -/
theorem refused_countSurvives (r : McuprResult) (hr : r ≠ .ok)
    (hoccurred : (transfer bus dev size [] r.code).occurred r) :
    (transfer bus dev size [] r.code).CountSurvives :=
  .of_failure hr rfl nofun hoccurred

/-- A transfer of one system call survives exactly if its size can be returned or the call
fails, as long as the count is what the call returned. -/
theorem countSurvives_singleton_iff {e : Event Call Reply} {returned : Int32}
    (hfailed : Failed e → returned = McuprResult.ioError.code)
    (hcount : size.toNat < 2 ^ 31 → ¬Failed e → returned.toInt = counted e) :
    (transfer bus dev size [e] returned).CountSurvives ↔ size.toNat < 2 ^ 31 ∨ Failed e := by
  constructor
  · intro h
    by_cases he : Failed e
    · exact Or.inr he
    · exact Or.inl (h.size_lt ⟨e, List.mem_cons_self, he⟩)
  · intro h
    by_cases he : Failed e
    · refine .of_failure (by simp) (hfailed he) ?_ (Or.inr ⟨e, List.mem_cons_self, he⟩)
      rintro ⟨e', he', hsucceeded⟩
      obtain rfl := List.mem_singleton.mp he'
      exact hsucceeded he
    · have hsize := h.resolve_right he
      refine .of_success hsize ⟨e, List.mem_cons_self, he⟩ ?_
      refine (hcount hsize he).trans ?_
      simp [transfer]

/-- A read survives exactly if its size can be returned or nothing is read. -/
theorem read_countSurvives_iff {r : Int32 × List UInt8}
    (hpath : (mcuprI2cRead bus dev size).Path tr r) (hcounts : ∀ e ∈ tr, CountsUpTo size e) :
    (transfer bus dev size tr r.1).CountSurvives ↔ size.toNat < 2 ^ 31 ∨ ∀ e ∈ tr, Failed e := by
  by_cases hlive : ∃ self priv, bus = some ⟨self, some priv⟩
  · obtain ⟨self, priv, rfl⟩ := hlive
    obtain ⟨hdev, rfl, rfl⟩ | ⟨ret, hdev, rfl, rfl⟩ := mcuprI2cRead_path.mp hpath
    · exact iff_of_true (refused_countSurvives .ioError (by simp) (Or.inl hdev)) (Or.inr nofun)
    · rw [List.forall_mem_singleton]
      cases ret with
      | none => exact countSurvives_singleton_iff (fun _ => rfl) fun _ h => absurd rfl h
      | some data =>
        have hdata : data.length ≤ size.toNat := hcounts _ List.mem_cons_self
        have hlt := size.toNat_lt
        have hcount : (Int64.ofNat data.length).toInt = data.length :=
          Int64.toInt_ofNat_of_lt (by omega)
        refine countSurvives_singleton_iff nofun fun hsize _ => ?_
        exact (toInt_narrow (by omega) (by omega)).trans hcount
  · obtain ⟨rfl, rfl⟩ := (mcuprI2cRead_path_refused hlive).mp hpath
    exact iff_of_true (refused_countSurvives .invalidObj (by simp) hlive) (Or.inr nofun)

/-- A write survives exactly if its size can be returned or nothing is written. -/
theorem write_countSurvives_iff {data : List UInt8} {r : Int32}
    (hpath : (mcuprI2cWrite bus dev data size).Path tr r) (hcounts : ∀ e ∈ tr, CountsUpTo size e) :
    (transfer bus dev size tr r).CountSurvives ↔ size.toNat < 2 ^ 31 ∨ ∀ e ∈ tr, Failed e := by
  by_cases hlive : ∃ self priv, bus = some ⟨self, some priv⟩
  · obtain ⟨self, priv, rfl⟩ := hlive
    obtain ⟨hdev, rfl, rfl⟩ | ⟨ret, hdev, rfl, rfl⟩ := mcuprI2cWrite_path.mp hpath
    · exact iff_of_true (refused_countSurvives .ioError (by simp) (Or.inl hdev)) (Or.inr nofun)
    · rw [List.forall_mem_singleton]
      obtain ⟨hlow, hhigh⟩ : -1 ≤ ret.toInt ∧ ret.toInt ≤ size.toNat :=
        hcounts _ List.mem_cons_self
      refine countSurvives_singleton_iff (fun hfailed => if_pos hfailed) fun hsize hfailed => ?_
      have hnonneg : 0 ≤ ret.toInt := by
        have hle := Int64.le_iff_toInt_le.mp (Int64.not_lt.mp hfailed)
        rwa [Int64.toInt_zero] at hle
      rw [if_neg (failed_write.not.mp hfailed), toInt_narrow (by omega) (by omega)]
      exact (Int.toNat_of_nonneg hnonneg).symm
  · obtain ⟨rfl, rfl⟩ := (mcuprI2cWrite_path_refused hlive).mp hpath
    exact iff_of_true (refused_countSurvives .invalidObj (by simp) hlive) (Or.inr nofun)

end Transfers

end Linuxdev

/-! ## libmpsse -/

namespace Libmpsse

/-- A `Write` reported a failure. -/
def WriteFailed : Event Call Reply → Prop
  | ⟨.write .., r⟩ => r.status ≠ mpsseOk
  | _ => False

/-- An acknowledge bit that was looked up was not set. -/
def Unacknowledged : Event Call Reply → Prop
  | ⟨.getAck _, a⟩ => a ≠ ack
  | _ => False

/-- The failures that occurred in the calls of a transfer. -/
def failures (bus : Option I2cBus) (dev : Int32) (size : UInt32) (tr : List (Event Call Reply)) :
    McuprResult → Prop
  | .invalidObj => ¬HasData bus
  | .invalidHandle => ¬Usable bus dev
  | .backendFailure => ∃ e ∈ tr, WriteFailed e
  | .communicationError => ∃ e ∈ tr, Unacknowledged e
  | .invalidArgument => 2 ^ 31 ≤ size.toNat
  | _ => False

/-- The reply to the read of the data, the first read of a transfer. -/
def dataReply : List (Event Call Reply) → Option ReadReply
  | [] => none
  | ⟨.read _ _, r⟩ :: _ => some r
  | _ :: tr => dataReply tr

/-- The bytes it delivered. -/
def dataBytes (tr : List (Event Call Reply)) : Option (List UInt8) :=
  (dataReply tr).bind fun r => r.buffer.map Prod.snd

/-- `Read` takes its size as an `int`. It transfers nothing and gives a null pointer if that
is negative, and otherwise as many bytes as it was asked for, if any. -/
def ReadsSize : Event Call Reply → Prop
  | ⟨.read _ n, r⟩ => (n < 0 → r.buffer = none) ∧
      ∀ ptr data, r.buffer = some (ptr, data) → (data.length : ℤ) = n.toInt
  | _ => True

/-- A read of `size` bytes with these calls. A null pointer where a size was asked for that
`Read` can take is a communication error. -/
def readTransfer (bus : Option I2cBus) (dev : Int32) (size : UInt32) (tr : List (Event Call Reply))
    (returned : Int32) : Transfer where
  size := size
  returned := returned
  succeeded := (dataBytes tr).isSome
  transferred := (dataBytes tr).elim 0 List.length
  occurred r := failures bus dev size tr r ∨
    (r = .communicationError ∧ size.toNat < 2 ^ 31 ∧ (dataReply tr).isSome ∧ dataBytes tr = none)

section Reads

variable {bus : Option I2cBus} {dev : Int32} {size : UInt32} {tr : List (Event Call Reply)}

/-- A read that was refused with the code of a failure that occurred survives. -/
theorem readTransfer_refused (r : McuprResult) (hr : r ≠ .ok) (hnone : dataReply tr = none)
    (hoccurred : failures bus dev size tr r) :
    (readTransfer bus dev size tr r.code).CountSurvives := by
  refine .of_failure hr rfl ?_ (Or.inl hoccurred)
  simp [readTransfer, dataBytes, hnone]

/-- The first read of a frame that goes on to its data is the one of the data. -/
theorem dataReply_readTrace {ctx : ℕ} {p : ReadReplies} (hstatus : p.address.status = mpsseOk)
    (hack : p.addressAck = ack) : dataReply (readTrace ctx dev size p) = some p.data := by
  rw [readTrace_of_acknowledged hstatus hack]
  rfl

/-- If it gets none, its acknowledge bits are nevertheless all set. -/
theorem acknowledged_readTrace {ctx : ℕ} {p : ReadReplies} (hstatus : p.address.status = mpsseOk)
    (hack : p.addressAck = ack) (hbuffer : p.data.buffer = none) :
    ∀ e ∈ readTrace ctx dev size p, ¬Unacknowledged e := by
  rw [readTrace_of_acknowledged hstatus hack, hbuffer]
  simp only [freeBuffer, List.nil_append, List.forall_mem_cons]
  exact ⟨id, id, not_not.mpr hack, id, id, id, id, id, List.forall_mem_nil _⟩

/-- A frame that goes on to its data survives exactly if its size can be returned. -/
theorem readTransfer_frame_iff {ctx : ℕ} {p : ReadReplies}
    (hstatus : p.address.status = mpsseOk) (hack : p.addressAck = ack)
    (hreads : ∀ e ∈ readTrace ctx dev size p, ReadsSize e) :
    (readTransfer bus dev size (readTrace ctx dev size p) (readResult size p).1).CountSurvives ↔
      size.toNat < 2 ^ 31 := by
  have hreply := @dataReply_readTrace dev size ctx p hstatus hack
  have hbytes : dataBytes (readTrace ctx dev size p) = p.data.buffer.map Prod.snd := by
    rw [dataBytes, hreply]
    rfl
  have hdata : ReadsSize ⟨.read ctx size.toInt32, p.data⟩ := by
    apply hreads
    rw [readTrace_of_acknowledged hstatus hack]
    simp
  cases hbuffer : p.data.buffer with
  | none =>
    have hresult : (readResult size p).1 = McuprResult.communicationError.code := by
      simp [readResult, hstatus, hack, hbuffer]
    rw [hbuffer] at hbytes
    constructor
    · intro h
      have hneg : (readResult size p).1 < 0 := by
        rw [hresult]
        decide
      obtain ⟨r, hr, hoccurred⟩ := h.cause hneg
      obtain rfl : .communicationError = r := McuprResult.code_injective (hresult.symm.trans hr)
      rcases hoccurred with ⟨e, he, hunacknowledged⟩ | ⟨-, hsize, -⟩
      · exact absurd hunacknowledged (acknowledged_readTrace hstatus hack hbuffer e he)
      · exact hsize
    · intro hsize
      refine .of_failure (r := .communicationError) (by simp) hresult ?_
        (Or.inr ⟨rfl, hsize, by rw [hreply]; rfl, hbytes⟩)
      simp [readTransfer, hbytes]
  | some buffer =>
    have hresult : (readResult size p).1 = size.toInt32 := by
      simp [readResult, hstatus, hack, hbuffer]
    have hsize : size.toNat < 2 ^ 31 := by
      by_contra hlarge
      have hnull := hdata.1 (toInt32_neg (by omega))
      simp [hbuffer] at hnull
    rw [hbuffer] at hbytes
    refine iff_of_true (.of_success hsize ?_ ?_) hsize
    · simp [readTransfer, hbytes]
    · have hlength := hdata.2 buffer.1 buffer.2 hbuffer
      simp [readTransfer, hbytes, hresult, hlength]

/-- A frame whose address byte is not written or not acknowledged does not ask for its data. -/
theorem dataReply_of_refused {ctx : ℕ} {p : ReadReplies}
    (haddress : p.address.status = mpsseOk → p.addressAck ≠ ack) :
    dataReply (readTrace ctx dev size p) = none := by
  by_cases hstatus : p.address.status = mpsseOk
  · rw [readTrace_of_unacknowledged hstatus (haddress hstatus)]
    rfl
  · rw [readTrace_of_failed hstatus]
    rfl

/-- It survives, whatever its size. -/
theorem readTransfer_of_refused {ctx : ℕ} {p : ReadReplies}
    (haddress : p.address.status = mpsseOk → p.addressAck ≠ ack) :
    (readTransfer bus dev size (readTrace ctx dev size p)
      (readResult size p).1).CountSurvives := by
  have hnone := @dataReply_of_refused dev size ctx p haddress
  by_cases hstatus : p.address.status = mpsseOk
  · have hresult : (readResult size p).1 = McuprResult.communicationError.code := by
      simp [readResult, hstatus, haddress hstatus]
    rw [hresult]
    refine readTransfer_refused .communicationError (by simp) hnone ?_
    refine ⟨⟨.getAck ctx, p.addressAck⟩, ?_, haddress hstatus⟩
    simp [readTrace_of_unacknowledged hstatus (haddress hstatus)]
  · have hresult : (readResult size p).1 = McuprResult.backendFailure.code := by
      simp [readResult, hstatus]
    rw [hresult]
    refine readTransfer_refused .backendFailure (by simp) hnone ?_
    refine ⟨⟨.write ctx [toByte (dev ||| 0x01)], p.address⟩, ?_, hstatus⟩
    simp [readTrace_of_failed hstatus]

/-- A read survives exactly if its size can be returned or its data is not asked for. -/
theorem read_countSurvives_iff {r : Int32 × List UInt8}
    (hpath : (mcuprI2cRead bus dev size).Path tr r) (hreads : ∀ e ∈ tr, ReadsSize e) :
    (readTransfer bus dev size tr r.1).CountSurvives ↔
      size.toNat < 2 ^ 31 ∨ dataReply tr = none := by
  by_cases husable : Usable bus dev
  · obtain ⟨self, ctx, rfl, hopen, hdev⟩ := husable
    obtain ⟨p, rfl, rfl⟩ := (mcuprI2cRead_path self hopen hdev).mp hpath
    by_cases haddress : p.address.status = mpsseOk ∧ p.addressAck = ack
    · obtain ⟨hstatus, hack⟩ := haddress
      rw [readTransfer_frame_iff hstatus hack hreads, dataReply_readTrace hstatus hack]
      simp
    · have hrefused : p.address.status = mpsseOk → p.addressAck ≠ ack := not_and.mp haddress
      exact iff_of_true (readTransfer_of_refused hrefused) (Or.inr (dataReply_of_refused hrefused))
  · obtain ⟨rfl, ⟨hdata, rfl⟩ | ⟨-, rfl⟩⟩ := mcuprI2cRead_path_unusable husable hpath
    · exact iff_of_true (readTransfer_refused .invalidObj (by simp) rfl hdata) (Or.inr rfl)
    · exact iff_of_true (readTransfer_refused .invalidHandle (by simp) rfl husable) (Or.inr rfl)

end Reads

/-- The reply to a write. -/
def writeReply : Event Call Reply → Option WriteReply
  | ⟨.write .., r⟩ => some r
  | _ => none

/-- The reply to the write of the address byte, the first write of a transfer. -/
def addressReply (tr : List (Event Call Reply)) : Option WriteReply := (tr.filterMap writeReply)[0]?

/-- The reply to the write of the payload, the second. -/
def payloadReply (tr : List (Event Call Reply)) : Option WriteReply := (tr.filterMap writeReply)[1]?

/-- `Write` takes its size as an `int`, and transfers nothing if that is negative. -/
def WritesSize : Event Call Reply → Prop
  | ⟨.write _ data, r⟩ => 2 ^ 31 ≤ data.length → r.acks = []
  | _ => True

/-- A write of `size` bytes with these calls. It succeeds if the address byte and every byte of
the payload are taken. -/
def writeTransfer (bus : Option I2cBus) (dev : Int32) (size : UInt32) (tr : List (Event Call Reply))
    (returned : Int32) : Transfer where
  size := size
  returned := returned
  succeeded := (∃ a, addressReply tr = some a ∧ a.status = mpsseOk ∧ a.acks = [true]) ∧
    (0 < size → ∃ r, payloadReply tr = some r ∧ r.acks = List.replicate size.toNat true)
  transferred := (payloadReply tr).elim 0 fun r => r.acks.count true
  occurred := failures bus dev size tr

/-- The payload did not get through, and yet the last byte of it that was transmitted was
taken, or none was transmitted. -/
def HidesLoss (size : UInt32) (r : WriteReply) : Prop :=
  r.acks ≠ List.replicate size.toNat true ∧ r.acks.getLast?.getD true = true

/-- The payload is not written; or its size can be returned and no loss of it is hidden; or
its size happens to wrap to the code of a failure that occurred, `INVALID_ARGUMENT` or
`BACKEND_FAILURE`. -/
def PayloadCounted (size : UInt32) (tr : List (Event Call Reply)) : Prop :=
  ∀ r, payloadReply tr = some r →
    (size.toNat < 2 ^ 31 ∧ ¬HidesLoss size r) ∨ size = 0xFFFFFFFB ∨ size = 0xFFFFFFF9

section Writes

variable {bus : Option I2cBus} {dev : Int32} {data : List UInt8} {size : UInt32}
  {tr : List (Event Call Reply)} {source : ℕ → UInt8} {s s' : Line} {ctx : ℕ} {p : WriteReplies}

/-- The first write of a transfer is the one of its address byte. -/
theorem addressReply_writeTrace : addressReply (writeTrace ctx dev data size p) = some p.address :=
  rfl

/-- A write that does not go on to a payload has no reply to one. -/
theorem payloadReply_of_no_payload
    (hpayload : p.address.status = mpsseOk → p.addressAck = ack → ¬0 < size) :
    payloadReply (writeTrace ctx dev data size p) = none := by
  by_cases hstatus : p.address.status = mpsseOk
  · rw [writeTrace_of_no_payload hstatus (hpayload hstatus)]
    rfl
  · rw [writeTrace_of_failed hstatus]
    rfl

/-- A write that was refused, or that failed at its address byte, with the code of a failure
that occurred survives. -/
theorem writeTransfer_refused (r : McuprResult) (hr : r ≠ .ok)
    (haddress : ∀ a, addressReply tr = some a → ¬(a.status = mpsseOk ∧ a.acks = [true]))
    (hoccurred : failures bus dev size tr r) :
    (writeTransfer bus dev size tr r.code).CountSurvives := by
  refine .of_failure hr rfl ?_ hoccurred
  rintro ⟨⟨a, ha, htaken⟩, -⟩
  exact haddress a ha htaken

/-- The calls of a write whose address byte was taken. -/
theorem writeTrace_of_taken (hrun : (adapter source).Run s (writeTrace ctx dev data size p) s')
    (haddress : AddressTaken p) (hpos : 0 < size) :
    writeTrace ctx dev data size p = [⟨.start ctx, p.started⟩,
      ⟨.write ctx [toByte (dev ||| 0x00)], p.address⟩, ⟨.getAck ctx, p.addressAck⟩,
      ⟨.write ctx (data.take size.toNat), p.payload⟩, ⟨.getAck ctx, p.payloadAck⟩,
      ⟨.stop ctx, p.stopped⟩] := by
  obtain ⟨hstatus, hack⟩ := (addressTaken_iff hrun).mp haddress
  exact writeTrace_of_payload hstatus hack hpos

/-- Its second write is the one of the payload. -/
theorem payloadReply_of_taken (hrun : (adapter source).Run s (writeTrace ctx dev data size p) s')
    (haddress : AddressTaken p) (hpos : 0 < size) :
    payloadReply (writeTrace ctx dev data size p) = some p.payload := by
  rw [writeTrace_of_taken hrun haddress hpos]
  rfl

/-- It succeeds if the whole payload is taken. -/
theorem succeeded_of_taken (hrun : (adapter source).Run s (writeTrace ctx dev data size p) s')
    (haddress : AddressTaken p) (hpos : 0 < size) {returned : Int32} :
    (writeTransfer bus dev size (writeTrace ctx dev data size p) returned).succeeded ↔
      p.payload.acks = List.replicate size.toNat true := by
  have hpayload := payloadReply_of_taken hrun haddress hpos
  constructor
  · rintro ⟨-, h⟩
    obtain ⟨r, hr, hacks⟩ := h hpos
    obtain rfl := Option.some.inj (hpayload.symm.trans hr)
    exact hacks
  · intro hacks
    exact ⟨⟨_, addressReply_writeTrace, haddress⟩, fun _ => ⟨_, hpayload, hacks⟩⟩

/-- A payload that is written without a failure is transmitted whole. -/
theorem payload_length_of_taken (hrun : (adapter source).Run s (writeTrace ctx dev data size p) s')
    (haddress : AddressTaken p) (hpos : 0 < size) (hstatus : p.payload.status = mpsseOk) :
    p.payload.acks.length = (data.take size.toNat).length := by
  rw [writeTrace_of_taken hrun haddress hpos] at hrun
  obtain ⟨_, rfl, _, ⟨-, -, -, rfl⟩, _, ⟨rfl, -⟩, _, ⟨-, -, hlength, -⟩, -⟩ := hrun
  exact hlength hstatus

/-- A payload of a size that can be returned: the write survives exactly if no loss is hidden. -/
theorem writeTransfer_payload_iff
    (hrun : (adapter source).Run s (writeTrace ctx dev data size p) s')
    (haddress : AddressTaken p) (hpos : 0 < size) (hsize : size.toNat < 2 ^ 31) :
    (writeTransfer bus dev size (writeTrace ctx dev data size p)
      (writeResult size p)).CountSurvives ↔ ¬HidesLoss size p.payload := by
  obtain ⟨hstatus, hack⟩ := (addressTaken_iff hrun).mp haddress
  have hlast := payloadAck_iff hrun haddress hpos
  have hsucceeded := @succeeded_of_taken bus _ _ _ _ _ _ _ _ hrun haddress hpos (writeResult size p)
  by_cases hpayload : p.payload.acks.getLast?.getD true = true
  · have hresult : writeResult size p = size.toInt32 :=
      (size_returned_iff hrun hsize).mpr ⟨haddress, fun _ => hpayload⟩
    constructor
    · rintro h ⟨hloss, -⟩
      have hnonneg : 0 ≤ writeResult size p := by
        rw [hresult]
        exact Int32.not_lt.mp (toInt32_not_neg hsize)
      exact hloss (hsucceeded.mp (h.nonneg_iff.mp hnonneg))
    · intro hhidden
      have hacks : p.payload.acks = List.replicate size.toNat true := by
        by_contra hloss
        exact hhidden ⟨hloss, hpayload⟩
      refine .of_success hsize (hsucceeded.mpr hacks) ?_
      simp [writeTransfer, payloadReply_of_taken hrun haddress hpos, hresult, hacks,
        toInt_toInt32 hsize]
  · have hresult : writeResult size p = McuprResult.communicationError.code := by
      simp [writeResult, hstatus, hack, hpos, hlast.not.mpr hpayload]
    refine iff_of_true (.of_failure (by simp) hresult ?_ ?_) fun h => hpayload h.2
    · rw [hsucceeded]
      intro hacks
      rw [hacks, List.getLast?_replicate] at hpayload
      split at hpayload <;> simp at hpayload
    · refine ⟨⟨.getAck ctx, p.payloadAck⟩, ?_, hlast.not.mpr hpayload⟩
      simp [writeTrace_of_taken hrun haddress hpos]

/-- A payload of a size that cannot be returned: nothing is transmitted, the acknowledge bit
looked up is still the one of the address byte, and the size is returned as it wraps. -/
theorem writeTransfer_oversized_iff
    (hrun : (adapter source).Run s (writeTrace ctx dev data size p) s') (husable : Usable bus dev)
    (haddress : AddressTaken p) (hsize : 2 ^ 31 ≤ size.toNat) (hdata : size.toNat ≤ data.length)
    (hwrites : ∀ e ∈ writeTrace ctx dev data size p, WritesSize e) :
    (writeTransfer bus dev size (writeTrace ctx dev data size p)
      (writeResult size p)).CountSurvives ↔
      size.toInt32 = McuprResult.invalidArgument.code ∨
        size.toInt32 = McuprResult.backendFailure.code := by
  have hpos : 0 < size := UInt32.lt_iff_toNat_lt.mpr (show 0 < size.toNat by omega)
  obtain ⟨hstatus, hack⟩ := (addressTaken_iff hrun).mp haddress
  have htrace := writeTrace_of_taken hrun haddress hpos
  have hlength : (data.take size.toNat).length = size.toNat := List.length_take_of_le hdata
  have hacks : p.payload.acks = [] := by
    refine hwrites ⟨.write ctx (data.take size.toNat), p.payload⟩ ?_ (hlength.symm ▸ hsize)
    simp [htrace]
  have hfailed : p.payload.status ≠ mpsseOk := by
    intro hok
    have := payload_length_of_taken hrun haddress hpos hok
    rw [hacks, hlength, List.length_nil] at this
    omega
  have hpayloadAck : p.payloadAck = ack := by
    rw [payloadAck_iff hrun haddress hpos, hacks]
    rfl
  have hresult : writeResult size p = size.toInt32 := by
    simp [writeResult, hstatus, hack, hpayloadAck]
  have hloss : ¬p.payload.acks = List.replicate size.toNat true := by
    rw [hacks, List.nil_eq, List.replicate_eq_nil_iff]
    omega
  have hwrite : ∃ e ∈ writeTrace ctx dev data size p, WriteFailed e :=
    ⟨⟨.write ctx (data.take size.toNat), p.payload⟩, by simp [htrace], hfailed⟩
  constructor
  · intro h
    obtain ⟨r, hr, hoccurred⟩ := h.cause (hresult ▸ toInt32_neg hsize)
    obtain ⟨self, c, rfl, hopen, hdev⟩ := husable
    have hreturned : size.toInt32 = r.code := hresult.symm.trans hr
    cases r with
    | invalidArgument => exact Or.inl hreturned
    | backendFailure => exact Or.inr hreturned
    | invalidObj => exact absurd ⟨self, _, rfl⟩ hoccurred
    | invalidHandle => exact absurd ⟨self, c, rfl, hopen, hdev⟩ hoccurred
    | communicationError =>
      obtain ⟨e, he, hunacknowledged⟩ := hoccurred
      simp only [htrace, hack, hpayloadAck, List.mem_cons, List.not_mem_nil, or_false] at he
      rcases he with rfl | rfl | rfl | rfl | rfl | rfl <;> simp [Unacknowledged] at hunacknowledged
    | _ => exact hoccurred.elim
  · rintro (hcode | hcode)
    · refine .of_failure (r := .invalidArgument) (by simp) (hresult.trans hcode) ?_ hsize
      rwa [succeeded_of_taken hrun haddress hpos]
    · refine .of_failure (r := .backendFailure) (by simp) (hresult.trans hcode) ?_ hwrite
      rwa [succeeded_of_taken hrun haddress hpos]

/-- The size that wraps to a number. -/
theorem toInt32_eq_iff {n : Int32} : size.toInt32 = n ↔ size = n.toUInt32 :=
  ⟨fun h => h ▸ rfl, fun h => h ▸ rfl⟩

/-- The only two sizes that wrap to the code of a failure of an oversized write. -/
theorem toInt32_eq_code_iff :
    size.toInt32 = McuprResult.invalidArgument.code ∨
      size.toInt32 = McuprResult.backendFailure.code ↔ size = 0xFFFFFFFB ∨ size = 0xFFFFFFF9 :=
  or_congr toInt32_eq_iff toInt32_eq_iff

/-- A write without a payload survives if its address byte was taken. -/
theorem writeTransfer_empty (hrun : (adapter source).Run s (writeTrace ctx dev data size p) s')
    (haddress : AddressTaken p) (hzero : ¬0 < size) :
    (writeTransfer bus dev size (writeTrace ctx dev data size p)
      (writeResult size p)).CountSurvives := by
  obtain ⟨hstatus, hack⟩ := (addressTaken_iff hrun).mp haddress
  have hsize : size.toNat = 0 := Nat.eq_zero_of_not_pos (UInt32.lt_iff_toNat_lt.not.mp hzero)
  have hnone : payloadReply (writeTrace ctx dev data size p) = none :=
    payloadReply_of_no_payload fun _ _ => hzero
  have hresult : writeResult size p = size.toInt32 := by
    simp [writeResult, hstatus, hack, hzero]
  have hcount : (writeResult size p).toInt = 0 := by
    rw [hresult, toInt_toInt32 (by omega), hsize]
    rfl
  refine .of_success (show size.toNat < 2 ^ 31 by omega) ?_ ?_
  · exact ⟨⟨_, addressReply_writeTrace, haddress⟩, fun hpos => absurd hpos hzero⟩
  · simp [writeTransfer, hnone, hcount]

/-- Without a payload there is nothing to count. -/
theorem payloadCounted_of_none (h : payloadReply tr = none) : PayloadCounted size tr := by
  intro r hr
  rw [h] at hr
  cases hr

/-- A write that goes on to its payload. -/
theorem writeTransfer_taken_iff
    (hrun : (adapter source).Run s (writeTrace ctx dev data size p) s') (husable : Usable bus dev)
    (haddress : AddressTaken p) (hpos : 0 < size) (hdata : size.toNat ≤ data.length)
    (hwrites : ∀ e ∈ writeTrace ctx dev data size p, WritesSize e) :
    (writeTransfer bus dev size (writeTrace ctx dev data size p)
      (writeResult size p)).CountSurvives ↔
      PayloadCounted size (writeTrace ctx dev data size p) := by
  simp only [PayloadCounted, payloadReply_of_taken hrun haddress hpos, Option.some.injEq,
    forall_eq']
  by_cases hsize : size.toNat < 2 ^ 31
  · rw [writeTransfer_payload_iff hrun haddress hpos hsize]
    have hneither : ¬(size = 0xFFFFFFFB ∨ size = 0xFFFFFFF9) := by
      rintro (rfl | rfl) <;> revert hsize <;> decide
    simp only [hsize, hneither, true_and, or_false]
  · rw [writeTransfer_oversized_iff hrun husable haddress (by omega) hdata hwrites,
      toInt32_eq_code_iff]
    simp only [hsize, false_and, false_or]

/-- A write whose address byte was not taken survives, whatever its size. -/
theorem writeTransfer_untaken (hrun : (adapter source).Run s (writeTrace ctx dev data size p) s')
    (haddress : ¬AddressTaken p) :
    (writeTransfer bus dev size (writeTrace ctx dev data size p)
      (writeResult size p)).CountSurvives := by
  have htaken := addressTaken_iff hrun
  have hreply : ∀ a, addressReply (writeTrace ctx dev data size p) = some a →
      ¬(a.status = mpsseOk ∧ a.acks = [true]) := by
    intro a ha
    obtain rfl : p.address = a := Option.some.inj ha
    exact haddress
  by_cases hstatus : p.address.status = mpsseOk
  · have hack : p.addressAck ≠ ack := fun hack => haddress (htaken.mpr ⟨hstatus, hack⟩)
    have hresult : writeResult size p = McuprResult.communicationError.code := by
      simp [writeResult, hstatus, hack]
    rw [hresult]
    refine writeTransfer_refused .communicationError (by simp) hreply ?_
    refine ⟨⟨.getAck ctx, p.addressAck⟩, ?_, hack⟩
    rw [writeTrace_of_no_payload hstatus fun h => absurd h hack]
    simp
  · have hresult : writeResult size p = McuprResult.backendFailure.code := by
      simp [writeResult, hstatus]
    rw [hresult]
    refine writeTransfer_refused .backendFailure (by simp) hreply ?_
    refine ⟨⟨.write ctx [toByte (dev ||| 0x00)], p.address⟩, ?_, hstatus⟩
    simp [writeTrace_of_failed hstatus]

/-- A write survives exactly if its payload is counted. -/
theorem write_countSurvives_iff {r : Int32} (hpath : (mcuprI2cWrite bus dev data size).Path tr r)
    (hrun : (adapter source).Run s tr s') (hdata : size.toNat ≤ data.length)
    (hwrites : ∀ e ∈ tr, WritesSize e) :
    (writeTransfer bus dev size tr r).CountSurvives ↔ PayloadCounted size tr := by
  by_cases husable : Usable bus dev
  · obtain ⟨self, ctx, hbus, hopen, hdev⟩ := id husable
    obtain ⟨p, rfl, rfl⟩ := (mcuprI2cWrite_path self hopen hdev).mp (hbus ▸ hpath)
    by_cases haddress : AddressTaken p
    · by_cases hpos : 0 < size
      · exact writeTransfer_taken_iff hrun husable haddress hpos hdata hwrites
      · exact iff_of_true (writeTransfer_empty hrun haddress hpos)
          (payloadCounted_of_none (payloadReply_of_no_payload fun _ _ => hpos))
    · have hnone : payloadReply (writeTrace ctx.id dev data size p) = none :=
        payloadReply_of_no_payload fun hstatus hack =>
          absurd ((addressTaken_iff hrun).mpr ⟨hstatus, hack⟩) haddress
      exact iff_of_true (writeTransfer_untaken hrun haddress) (payloadCounted_of_none hnone)
  · obtain ⟨rfl, hresult⟩ := mcuprI2cWrite_path_unusable husable hpath
    have hreply : ∀ a, addressReply [] = some a → ¬(a.status = mpsseOk ∧ a.acks = [true]) := by
      simp [addressReply]
    refine iff_of_true ?_ (payloadCounted_of_none rfl)
    obtain ⟨hdata, rfl⟩ | ⟨-, rfl⟩ := hresult
    · exact writeTransfer_refused .invalidObj (by simp) hreply hdata
    · exact writeTransfer_refused .invalidHandle (by simp) hreply husable

end Writes

end Libmpsse

/-! ## Both backends -/

/-- **Transfer counts, exactly.** For every bus, handle and size, and every execution whose
calls keep to their counts: a transfer over a Linux device survives exactly if its size can
be returned or nothing is transferred, a read over libmpsse exactly if its size can be
returned or its data is not asked for, and a write over libmpsse exactly if its payload is
counted. -/
theorem transfer_counts_survive_iff (dev : Int32) (size : UInt32) :
    (∀ bus tr r, (Linuxdev.mcuprI2cRead bus dev size).Path tr r →
      (∀ e ∈ tr, Linuxdev.CountsUpTo size e) →
      ((Linuxdev.transfer bus dev size tr r.1).CountSurvives ↔
        size.toNat < 2 ^ 31 ∨ ∀ e ∈ tr, Linuxdev.Failed e)) ∧
    (∀ bus data tr r, (Linuxdev.mcuprI2cWrite bus dev data size).Path tr r →
      (∀ e ∈ tr, Linuxdev.CountsUpTo size e) →
      ((Linuxdev.transfer bus dev size tr r).CountSurvives ↔
        size.toNat < 2 ^ 31 ∨ ∀ e ∈ tr, Linuxdev.Failed e)) ∧
    (∀ bus tr r, (Libmpsse.mcuprI2cRead bus dev size).Path tr r →
      (∀ e ∈ tr, Libmpsse.ReadsSize e) →
      ((Libmpsse.readTransfer bus dev size tr r.1).CountSurvives ↔
        size.toNat < 2 ^ 31 ∨ Libmpsse.dataReply tr = none)) ∧
    ∀ bus data tr r, (Libmpsse.mcuprI2cWrite bus dev data size).Path tr r →
      size.toNat ≤ data.length → (∀ e ∈ tr, Libmpsse.WritesSize e) →
      ∀ source s s', (Libmpsse.adapter source).Run s tr s' →
      ((Libmpsse.writeTransfer bus dev size tr r).CountSurvives ↔
        Libmpsse.PayloadCounted size tr) :=
  ⟨fun _ _ _ hpath hcounts => Linuxdev.read_countSurvives_iff hpath hcounts,
    fun _ _ _ _ hpath hcounts => Linuxdev.write_countSurvives_iff hpath hcounts,
    fun _ _ _ hpath hreads => Libmpsse.read_countSurvives_iff hpath hreads,
    fun _ _ _ _ hpath hdata hwrites _ _ _ hrun =>
      Libmpsse.write_countSurvives_iff hpath hrun hdata hwrites⟩

/-- The replies of an adapter to a write of one byte that the slave takes. -/
def takenReplies : Libmpsse.WriteReplies :=
  ⟨0, ⟨Libmpsse.mpsseOk, [true]⟩, Libmpsse.ack, ⟨Libmpsse.mpsseOk, [true]⟩, Libmpsse.ack, 0⟩

/-- The replies to a read of one byte. -/
def givenReplies : Libmpsse.ReadReplies :=
  ⟨0, ⟨Libmpsse.mpsseOk, [true]⟩, Libmpsse.ack, ⟨some (⟨1, 0⟩, [7]), 1⟩, ⟨some (⟨2, 0⟩, [0]), 1⟩, 0⟩

/-- The theorem at a read and a write of one byte, through descriptor 3 and with slave 0x39
behind an adapter. -/
theorem transfer_counts_survive_one_byte :
    (Linuxdev.transfer (some ⟨⟨0, 0⟩, some ⟨1⟩⟩) 3 1 [⟨.read 3 1, some [7]⟩] 1).CountSurvives ∧
    (Linuxdev.transfer (some ⟨⟨0, 0⟩, some ⟨1⟩⟩) 3 1 [⟨.write 3 [0x80], 1⟩] 1).CountSurvives ∧
    (Libmpsse.readTransfer (some ⟨⟨0, 0⟩, some ⟨some ⟨7, true⟩⟩⟩) (Libmpsse.handleOf 0x39) 1
      (Libmpsse.readTrace 7 (Libmpsse.handleOf 0x39) 1 givenReplies) 1).CountSurvives ∧
    (Libmpsse.writeTransfer (some ⟨⟨0, 0⟩, some ⟨some ⟨7, true⟩⟩⟩) (Libmpsse.handleOf 0x39) 1
      (Libmpsse.writeTrace 7 (Libmpsse.handleOf 0x39) [0x80] 1 takenReplies) 1).CountSurvives := by
  have hdev := Libmpsse.validHandle_handleOf 0x39 (by decide)
  obtain ⟨hread, hwrite, -, -⟩ := transfer_counts_survive_iff 3 1
  obtain ⟨-, -, hread', hwrite'⟩ := transfer_counts_survive_iff (Libmpsse.handleOf 0x39) 1
  refine ⟨?_, ?_, ?_, ?_⟩
  · have hcount : ([7] : List UInt8).length ≤ (1 : UInt32).toNat := Nat.le_refl 1
    exact (hread _ _ (1, [7]) (Linuxdev.mcuprI2cRead_path.mpr (Or.inr ⟨some [7], by decide, rfl,
      rfl⟩)) (List.forall_mem_singleton.mpr hcount)).mpr (Or.inl (by decide))
  · exact (hwrite _ [0x80] _ 1 (Linuxdev.mcuprI2cWrite_path.mpr (Or.inr ⟨1, by decide, rfl, rfl⟩))
      (List.forall_mem_singleton.mpr ⟨by decide, by decide⟩)).mpr (Or.inl (by decide))
  · have hreads : ∀ e ∈ Libmpsse.readTrace 7 (Libmpsse.handleOf 0x39) 1 givenReplies,
        Libmpsse.ReadsSize e := by
      rw [Libmpsse.readTrace_of_acknowledged rfl rfl]
      simp [Libmpsse.ReadsSize, Libmpsse.freeBuffer, givenReplies]
    exact (hread' _ _ (1, [7]) ((Libmpsse.mcuprI2cRead_path _ rfl hdev).mpr ⟨_, rfl, rfl⟩)
      hreads).mpr (Or.inl (by decide))
  · have hwrites : ∀ e ∈ Libmpsse.writeTrace 7 (Libmpsse.handleOf 0x39) [0x80] 1 takenReplies,
        Libmpsse.WritesSize e := by
      rw [Libmpsse.writeTrace_of_payload rfl rfl (by decide)]
      simp [Libmpsse.WritesSize, takenReplies]
    have hrun : (Libmpsse.adapter fun _ => 0).Run ⟨false, 0⟩
        (Libmpsse.writeTrace 7 (Libmpsse.handleOf 0x39) [0x80] 1 takenReplies) ⟨true, 0⟩ :=
      ⟨_, rfl, _, ⟨Or.inl rfl, by decide, fun _ => rfl, rfl⟩, _, ⟨rfl, rfl⟩, _,
        ⟨Or.inl rfl, by decide, fun _ => rfl, rfl⟩, _, ⟨rfl, rfl⟩, _, rfl, rfl⟩
    refine (hwrite' _ [0x80] _ 1 ((Libmpsse.mcuprI2cWrite_path _ rfl hdev).mpr ⟨_, rfl, rfl⟩)
      (by decide) hwrites _ _ _ hrun).mpr fun r hr =>
        Or.inl ⟨by decide, fun hhidden => hhidden.1 ?_⟩
    obtain rfl := Option.some.inj hr
    rfl

/-- A count does not always survive: a `write` that took all of `2 ^ 32 - 9` bytes is reported
as busy. -/
theorem exists_count_lost :
    ¬∀ (bus : Option Linuxdev.I2cBus) (dev : Int32) (data : List UInt8) (size : UInt32)
      (tr : List (Event Linuxdev.Call Linuxdev.Reply)) (r : Int32), size.toNat ≤ data.length →
      (Linuxdev.mcuprI2cWrite bus dev data size).Path tr r →
      (∀ e ∈ tr, Linuxdev.CountsUpTo size e) →
      (Linuxdev.transfer bus dev size tr r).CountSurvives := by
  intro hall
  have hsize : (0xFFFFFFF7 : UInt32).toNat = 4294967287 := rfl
  have hsurvives := hall (some ⟨⟨0, 0⟩, some ⟨1⟩⟩) 3 (List.replicate 4294967287 0) 0xFFFFFFF7
    [⟨.write 3 (List.take 4294967287 (List.replicate 4294967287 0)), 4294967287⟩]
    McuprResult.busy.code (by rw [List.length_replicate, hsize])
    (Linuxdev.mcuprI2cWrite_path.mpr (Or.inr ⟨4294967287, by decide, by decide, rfl⟩))
    (List.forall_mem_singleton.mpr ⟨by decide, by decide⟩)
  obtain ⟨r, hr, hoccurred⟩ := hsurvives.cause (by decide)
  obtain rfl : .busy = r := McuprResult.code_injective hr
  exact hoccurred

end McuPeripheral
